import Blockware.Block

/-!
# Blocks in stored data

- `Block.toJson`: a block as JSON; an empty body is left out.
- `Block.read`, `Block.readList`: reading blocks. Parameters and body may be `null` or absent, and an
  absent id is replaced by a fresh one.
- Older programs kept a body among the parameters, under the key `innerBlocks`. When a block has no
  body of its own, that parameter becomes the body (`Block.lift`): its blocks, if it reads as a list of
  blocks, and otherwise nothing.

Reading a block needs to read its body. The recursion is on a bound for the height of the tree, which
the two readers take from the tree itself.
-/

namespace Blockware

/-- The key of a body, as a member of a block and as a parameter of older ones. -/
def innerKey : String := "innerBlocks"

/-- The id that stands in for the `n`-th one that is missing: the hexadecimal digits of the number in
the groups of a random identifier. -/
def freshId (n : Nat) : String :=
  let written := Nat.toDigits 16 n
  let digits := List.replicate (24 - written.length) '0' ++ written
  String.ofList (digits.take 8 ++ '-' :: (digits.drop 8).take 4) ++ "-4000-8000-" ++
    String.ofList (digits.drop 12)

namespace Block

mutual

/-- A block as JSON. -/
def toJson : Block → Json
  | ⟨id, type, params, inner⟩ =>
    .obj ([("id", .str id), ("type", .str type), ("params", (Param.object params).toJson)] ++
      match inner with
      | [] => []
      | b :: rest => [(innerKey, .arr (toJson b :: listToJson rest))])

/-- The blocks of a list as JSON. -/
def listToJson : List Block → List Json
  | [] => []
  | b :: rest => toJson b :: listToJson rest

end

/-- What has been read of a block. -/
structure Draft where
  id : Option String := none
  type : Option String := none
  params : Option (Option Params) := none
  inner : Option (Option (List Block)) := none

/-- The members of a block, given how a body is read. -/
def record (body : Json.Node → Except Json.Fault (List Block)) : Json.Record Draft where
  name := "RawBlock"
  fields := [
    { name := "id"
      isSet := fun d => d.id.isSome
      set := fun d n => do return { d with id := some (← n.readString) } },
    { name := "type"
      required := true
      isSet := fun d => d.type.isSome
      set := fun d n => do return { d with type := some (← n.readString) } },
    { name := "params"
      isSet := fun d => d.params.isSome
      set := fun d n => do
        return { d with params := some (← n.readOption (Json.Node.readDict Param.read)) } },
    { name := innerKey
      others := ["inner_blocks"]
      isSet := fun d => d.inner.isSome
      set := fun d n => do return { d with inner := some (← n.readOption body) } }]

/-- The parameters and the body of a block without a body of its own, given how a value is read as a
body: the parameter that holds one is taken out. -/
def lift (body : Json → Option (List Block)) (params : Params) : Params × List Block :=
  match params.get? innerKey with
  | none => (params, [])
  | some value => (params.erase innerKey, (body value.toJson).getD [])

/-- The block of a draft. -/
def ofDraft (body : Json → Option (List Block)) (fresh : Nat) (d : Draft) : Block :=
  let given := (d.params.getD none).getD []
  let (params, inner) :=
    match d.inner.getD none with
    | some inner => (given, inner)
    | none => lift body given
  { id := d.id.getD (freshId fresh)
    type := d.type.getD ""
    params := params
    inner := inner }

/-- Reads a list of blocks, given how one is read. The `fresh`-th missing id is the first one that the
list may need; a block needs at most one for each block of its tree. -/
def readListBy (one : Nat → Json.Node → Except Json.Fault Block) (fresh : Nat) (n : Json.Node) :
    Except Json.Fault (List Block) := do
  let (blocks, _) ← n.foldItems (fun (done, next) item => do
    let b ← one next item
    return (b :: done, next + b.size)) ([], fresh)
  return blocks.reverse

/-- Reads a block of a tree with at most `bound` levels. -/
def readWithin (bound fresh : Nat) (n : Json.Node) : Except Json.Fault Block :=
  match bound with
  | 0 => .error (n.mismatch "struct RawBlock")
  | bound + 1 => do
    let body := readListBy (readWithin bound) (fresh + 1)
    let draft ← (record body).read {} n
    return ofDraft (fun value => (Json.read value body).toOption) fresh draft

/-- Reads a block; missing ids are numbered from `fresh` on. -/
def read (n : Json.Node) (fresh : Nat := 0) : Except Json.Fault Block := readWithin n.height fresh n

/-- Reads a list of blocks; missing ids are numbered from `fresh` on. -/
def readList (n : Json.Node) (fresh : Nat := 0) : Except Json.Fault (List Block) :=
  readListBy (readWithin n.height) fresh n

end Block
end Blockware
