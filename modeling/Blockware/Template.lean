import Blockware.Param
import Blockware.Text.Word

/-!
# Templates

A template is text with placeholders such as `${name}`. Filling one in replaces a placeholder by the
text of the parameter of that name; a placeholder without a parameter stays as it is, and what has
been put in is not looked at again.

- `Template.Piece`: a character or a placeholder.
- `Template.pieces`: a text as pieces. Reading from the left, each place that begins a placeholder is
  one, so placeholders never overlap.
- `Template.fill`, `Template.names`.
-/

namespace Blockware.Template

/-- A part of a template. -/
inductive Piece where
  | char (c : Char)
  | hole (name : List Char)
  deriving DecidableEq

/-- A piece as it is written. -/
def Piece.source : Piece → List Char
  | .char c => [c]
  | .hole name => '$' :: '\x7b' :: name ++ ['\x7d']

/-- The name of a placeholder. -/
def Piece.name? : Piece → Option String
  | .char _ => none
  | .hole name => some (String.ofList name)

/-- The name of the placeholder with which some characters begin. -/
def hole? : List Char → Option (List Char)
  | '$' :: '\x7b' :: rest =>
    let name := rest.takeWhile Text.isWord
    match rest.dropWhile Text.isWord with
    | '\x7d' :: _ => if name.isEmpty then none else some name
    | _ => none
  | _ => none

/-- The pieces of some characters of which the first `covered` belong to the placeholder before. -/
def scan (covered : Nat) : List Char → List Piece
  | [] => []
  | c :: rest =>
    match covered with
    | more + 1 => scan more rest
    | 0 =>
      match hole? (c :: rest) with
      | some name => .hole name :: scan (name.length + 2) rest
      | none => .char c :: scan 0 rest

/-- The pieces of a template. -/
def pieces (template : String) : List Piece := scan 0 template.toList

/-- What a piece becomes under some parameters. -/
def fillPiece (params : Params) (piece : Piece) : List Char :=
  match piece.name?.bind params.get? with
  | some value => value.display.toList
  | none => piece.source

/-- The text of a template under some parameters. -/
def fill (template : String) (params : Params) : String :=
  String.ofList ((pieces template).flatMap (fillPiece params))

/-- The names of the placeholders, each once, in the order in which they first appear. -/
def names (template : String) : List String := ((pieces template).filterMap Piece.name?).eraseDups

end Blockware.Template
