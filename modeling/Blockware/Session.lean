import Blockware.Generator

/-!
# Sessions

The interface to the visual builder: requests and answers are texts in JSON.

- `Request`: what the builder may ask for.
- `Session.answer`: the answer to a request, and the session after it. Whatever is wrong with a
  request, the answer says so in an object with the member `error`, and the session stays as it is.
- `Session.answers`: the answers to a history of requests.

A session reads no files: its definitions come from the last catalog that it was given.
-/

namespace Blockware

/-- A request of the builder. -/
inductive Request where
  /-- Takes the definitions of a catalog in place of those before. -/
  | useCatalog (catalog : String)
  /-- Generates a project. -/
  | generate (name project : String)
  /-- Reports the conflicts of some blocks. -/
  | conflicts (blocks : String)
  /-- Shows the code of one block. -/
  | preview (block : String)
  /-- Lists the block types. -/
  | blockTypes

/-- A block type as the builder lists it. -/
structure BlockType where
  type : String
  label : String
  category : Category
  isUserDefined : Bool
  deriving DecidableEq

/-- A block type as JSON. -/
def BlockType.toJson (t : BlockType) : Json :=
  .obj [("type", .str t.type), ("name", .str t.label), ("category", .str t.category.tag),
    ("custom", .bool t.isUserDefined)]

/-- The built-in types, and the definitions that none of them hides. -/
def Snapshot.blockTypes (s : Snapshot) : List BlockType :=
  (Builtin.all.map fun k => ⟨k.typeName, k.label, k.category, false⟩) ++
    (s.custom.filter fun d => (Builtin.ofType? d.id).isNone).map fun d =>
      ⟨d.id, d.label, d.category, true⟩

/-- An answer that says what is wrong. -/
def errorAnswer (message : String) : Json := .obj [("error", .str message)]

/-- A session: the generator that answers requests, and the number of the first id that stands in for
one that a request leaves out. -/
structure Session where
  generator : Generator
  fresh : Nat := 0

namespace Session

/-- The session at the beginning: there are only the built-in types. -/
def start : Session := { generator := { registry := .bare } }

/-- Takes the definitions of a catalog. The answer counts them and says which entries were left out. -/
def useCatalog (s : Session) (now : Nat) (text : String) : Json × Session :=
  match Catalog.ofText text "init_registry" with
  | .error fault => (errorAnswer fault.message, s)
  | .ok catalog =>
    let (snapshot, generator) :=
      Generator.snapshot { registry := .ofStore (.fixed catalog) } {} now
    (.obj [("definitions", .ofNat snapshot.custom.length),
      ("skipped", .ofStrings (catalog.skipped.map Skipped.reason))], { s with generator })

/-- Generates a project. -/
def generate (s : Session) (now : Nat) (name text : String) : Json × Session :=
  match Json.readText text fun n => Project.read n s.fresh with
  | .error fault => (errorAnswer s!"Invalid project config: {fault.message}", s)
  | .ok project =>
    let (result, generator) := s.generator.generate {} now name project
    match result with
    | .error refusal => (errorAnswer refusal.message, { s with generator })
    | .ok artifacts => (artifacts.toJson, { s with generator })

/-- Reports the conflicts of some blocks. -/
def conflicts (s : Session) (text : String) : Json :=
  match Json.readText text fun n => Block.readList n s.fresh with
  | .error fault => errorAnswer s!"Invalid blocks JSON: {fault.message}"
  | .ok blocks => (Blockware.conflicts blocks).toJson

/-- Shows the code of one block. -/
def preview (s : Session) (now : Nat) (text : String) : Json × Session :=
  match Json.readText text fun n => Block.read n s.fresh with
  | .error fault => (errorAnswer s!"Invalid block JSON: {fault.message}", s)
  | .ok block =>
    let (snapshot, generator) := s.generator.snapshot {} now
    match block.preview? snapshot with
    | none => (errorAnswer s!"Unknown block type: {block.type}", { s with generator })
    | some preview => (preview.toJson, { s with generator })

/-- Lists the block types. -/
def blockTypes (s : Session) (now : Nat) : Json × Session :=
  let (snapshot, generator) := s.generator.snapshot {} now
  (.arr (snapshot.blockTypes.map BlockType.toJson), { s with generator })

/-- The answer to a request at some time, and the session after it. -/
def respond (s : Session) (now : Nat) : Request → Json × Session
  | .useCatalog catalog => s.useCatalog now catalog
  | .generate name project => s.generate now name project
  | .conflicts blocks => (s.conflicts blocks, s)
  | .preview block => s.preview now block
  | .blockTypes => s.blockTypes now

/-- The text of the answer to a request at some time, and the session after it. -/
def answer (s : Session) (now : Nat) (r : Request) : String × Session :=
  let (j, s) := s.respond now r
  (j.text, s)

/-- The answers to requests, each with its time. -/
def answers (s : Session) : List (Nat × Request) → List String
  | [] => []
  | (now, r) :: rest =>
    let (text, s) := s.answer now r
    text :: s.answers rest

end Session
end Blockware
