/-!
# String literals of C

The inside of a C string literal that denotes a given text. Only the characters that would end the
literal, begin an escape or break its line are escaped; every other one stands for itself, so the
literal denotes exactly the bytes of the text.
-/

namespace Blockware.Text

/-- A character inside a C string literal. -/
def literalChar (c : Char) : List Char :=
  if c = '"' then ['\\', '"']
  else if c = '\\' then ['\\', '\\']
  else if c = '\n' then ['\\', 'n']
  else if c = '\r' then ['\\', 'r']
  else if c = '\t' then ['\\', 't']
  else [c]

/-- The inside of a C string literal that denotes the characters. -/
def literalChars (cs : List Char) : List Char := cs.flatMap literalChar

/-- The inside of a C string literal that denotes a text. -/
def literal (s : String) : String := String.ofList (literalChars s.toList)

/-- The characters that the inside of a C string literal denotes, for the escapes that `literal`
writes; `none` for a bare quote or line end, an escape of another kind, or one cut short. -/
def denoted? : List Char → Option (List Char)
  | [] => some []
  | '\\' :: c :: rest =>
    match c with
    | '"' => (denoted? rest).map ('"' :: ·)
    | '\\' => (denoted? rest).map ('\\' :: ·)
    | 'n' => (denoted? rest).map ('\n' :: ·)
    | 'r' => (denoted? rest).map ('\r' :: ·)
    | 't' => (denoted? rest).map ('\t' :: ·)
    | _ => none
  | c :: rest =>
    if c = '"' ∨ c = '\\' ∨ c = '\n' ∨ c = '\r' then none else (denoted? rest).map (c :: ·)

end Blockware.Text
