import Blockware.Session
import Blockware.Proofs.Policy
import Blockware.Proofs.Stored.GivenIds

/-!
# The history of a session

A session keeps a generator, which keeps a registry, which keeps the snapshot of its last load for a
while. Here a session is told without anything kept: an answer is made from its request alone and
from the catalog of an earlier one.

- `Request.understood`, `Request.reply`: what a request means, and the answer to it against a catalog.
- `latestCatalog?`: the catalog of the last request that brought one.
- `Call`, `Session.serve`: requests at their times, each with the ids that stand in for missing ones.
- `Generator.Serves`: a generator that answers from a catalog, whatever it has kept of it. Every
  request preserves this or brings a catalog of its own (`Session.respond_eq`).
- `answers_follow_latest_catalog`: so it holds of a whole history.
-/

namespace Blockware

/-! ### Requests by themselves -/

/-- A request whose arguments have been read. -/
inductive Understood where
  | catalog (new : Catalog)
  | project (name : String) (p : Project)
  | blocks (bs : List Block)
  | block (b : Block)
  | types

/-- The answer against a catalog. -/
def Understood.reply (current : Catalog) : Understood → Json
  | .catalog new =>
    .obj [("definitions", .ofNat (Snapshot.ofCatalog new).custom.length),
      ("skipped", .ofStrings (new.skipped.map Skipped.reason))]
  | .project name p =>
    (Artifacts.generate (.ofCatalog current) defaultHeartbeat name p).toJson
  | .blocks bs => (conflicts bs).toJson
  | .block b =>
    match b.preview? (.ofCatalog current) with
    | none => errorAnswer s!"Unknown block type: {b.type}"
    | some preview => preview.toJson
  | .types => .arr ((Snapshot.ofCatalog current).blockTypes.map BlockType.toJson)

namespace Request

/-- The request with its arguments read, or what is wrong with them. -/
def understood (fresh : Nat) : Request → Except String Understood
  | .useCatalog text =>
    .catalog <$> (Catalog.ofText text "init_registry").mapError StoreFault.message
  | .generate name text =>
    .project name <$> (Json.readText text fun n => Project.read n fresh).mapError
      fun fault => s!"Invalid project config: {fault.message}"
  | .conflicts text =>
    .blocks <$> (Json.readText text fun n => Block.readList n fresh).mapError
      fun fault => s!"Invalid blocks JSON: {fault.message}"
  | .preview text =>
    .block <$> (Json.readText text fun n => Block.read n fresh).mapError
      fun fault => s!"Invalid block JSON: {fault.message}"
  | .blockTypes => .ok .types

/-- The answer to a request against a catalog, given what stands in for missing ids. -/
def reply (current : Catalog) (fresh : Nat) (r : Request) : Json :=
  match r.understood fresh with
  | .error message => errorAnswer message
  | .ok understood => understood.reply current

/-- The catalog that a request brings, if it can be read. -/
def catalog? : Request → Option Catalog
  | .useCatalog text => (Catalog.ofText text "init_registry").toOption
  | _ => none

/-- Whether each block in the arguments has an id of its own. -/
def givesIds : Request → Bool
  | .generate _ text => Project.givesIds (Json.Document.ofText text).root
  | .conflicts text =>
    let root := (Json.Document.ofText text).root
    root.items.all (Block.givesIds root.height)
  | .preview text =>
    let root := (Json.Document.ofText text).root
    Block.givesIds root.height root
  | .useCatalog _ => true
  | .blockTypes => true

end Request

/-- The catalog of the last request that brought one. -/
def latestCatalog? (requests : List Request) : Option Catalog :=
  (requests.filterMap Request.catalog?).getLast?

/-! ### Given ids -/

theorem readText_congr {α : Type} {text : String} {f g : Json.Node → Except Json.Fault α}
    (same : f (Json.Document.ofText text).root = g (Json.Document.ofText text).root) :
    Json.readText text f = Json.readText text g := by
  unfold Json.readText Json.Document.read
  rw [same]

namespace Request

/-- Where all ids are given, it does not matter what would stand in for one. -/
theorem understood_eq_of_givesIds {r : Request} (h : r.givesIds) (f g : Nat) :
    r.understood f = r.understood g := by
  cases r with
  | useCatalog text => rfl
  | generate name text =>
    have read : (Json.readText text fun n => Project.read n f) =
        Json.readText text fun n => Project.read n g :=
      readText_congr (Project.read_eq_of_givesIds h f g)
    rw [understood, understood, read]
  | conflicts text =>
    have read : (Json.readText text fun n => Block.readList n f) =
        Json.readText text fun n => Block.readList n g :=
      readText_congr (Block.readList_eq_of_givesIds h f g)
    rw [understood, understood, read]
  | preview text =>
    have read : (Json.readText text fun n => Block.read n f) =
        Json.readText text fun n => Block.read n g :=
      readText_congr (Block.readWithin_eq_of_givesIds h f g)
    rw [understood, understood, read]
  | blockTypes => rfl

example : let r := Request.conflicts "[\x7b\"id\": \"a\", \"type\": \"loop\"\x7d]"
    r.understood 0 = r.understood 7 :=
  understood_eq_of_givesIds (by decide +kernel) 0 7

/-- A request that cannot be read brings no catalog. -/
theorem catalog?_of_understood_error {r : Request} {fresh : Nat} {message : String}
    (h : r.understood fresh = .error message) : r.catalog? = none := by
  cases r with
  | useCatalog text =>
    rw [catalog?]
    cases read : Catalog.ofText text "init_registry" with
    | error fault => rfl
    | ok catalog =>
      rw [understood, read] at h
      cases h
  | _ => rfl

end Request

/-! ### Calls -/

/-- A request at some time, with the number of the first id that stands in for one that is missing.
Nobody knows either of them beforehand. -/
structure Call where
  now : Nat
  fresh : Nat
  request : Request

namespace Session

/-- The answers to calls. -/
def serve (s : Session) : List Call → List String
  | [] => []
  | c :: rest =>
    let (text, s) := { s with fresh := c.fresh }.answer c.now c.request
    text :: s.serve rest

end Session

/-- The answers to calls, each made from its request and the catalog before it. -/
def replies (current : Catalog) : List Call → List String
  | [] => []
  | c :: rest =>
    (c.request.reply current c.fresh).text :: replies (c.request.catalog?.getD current) rest

theorem latestCatalog?_cons (r : Request) (rest : List Request) :
    latestCatalog? (r :: rest) = (latestCatalog? rest).or r.catalog? := by
  unfold latestCatalog?
  cases brought : r.catalog? with
  | none => simp [brought]
  | some catalog => simp [brought, List.getLast?_cons]

@[simp]
theorem length_replies (current : Catalog) (calls : List Call) :
    (replies current calls).length = calls.length := by
  induction calls generalizing current with
  | nil => rfl
  | cons c rest ih => simp [replies, ih]

/-- Later answers look back on the last catalog only. -/
theorem replies_append (current : Catalog) (earlier later : List Call) :
    replies current (earlier ++ later) = replies current earlier ++
      replies ((latestCatalog? (earlier.map Call.request)).getD current) later := by
  induction earlier generalizing current with
  | nil => rfl
  | cons c rest ih =>
    have catalog : (latestCatalog? (rest.map Call.request)).getD (c.request.catalog?.getD current) =
        (latestCatalog? ((c :: rest).map Call.request)).getD current := by
      rw [List.map_cons, latestCatalog?_cons, Option.getD_or]
    rw [List.cons_append, replies, replies, ih, catalog, List.cons_append]

/-! ### The generator -/

/-- A generator answers from a catalog: it can load that one only, and has kept nothing else. Its
other settings are those of every session. -/
structure Generator.Serves (g : Generator) (catalog : Catalog) : Prop where
  store : g.registry.store = .fixed catalog
  kept : ∀ c, g.registry.cached = some c → c.snapshot = .ofCatalog catalog
  heartbeat : g.heartbeat = defaultHeartbeat
  policy : g.policy = .advisory

namespace Generator.Serves

variable {g : Generator} {catalog : Catalog}

/-- A new generator has kept nothing. -/
theorem ofFixed (catalog : Catalog) :
    Generator.Serves { registry := .ofStore (.fixed catalog) } catalog where
  store := rfl
  kept _ hc := nomatch hc
  heartbeat := rfl
  policy := rfl

/-- The current snapshot is that of the catalog, be it kept or loaded anew. -/
theorem snapshot (h : g.Serves catalog) (files : Files) (now : Nat) :
    (g.snapshot files now).1 = .ofCatalog catalog ∧ (g.snapshot files now).2.Serves catalog := by
  have loaded : (g.registry.reload files now).1 = .ofCatalog catalog ∧
      Generator.Serves { g with registry := (g.registry.reload files now).2 } catalog := by
    rw [Registry.reload, h.store]
    exact ⟨rfl, rfl, fun c hc => by cases hc; rfl, h.heartbeat, h.policy⟩
  unfold Generator.snapshot Registry.snapshot
  cases kept : g.registry.cached with
  | none => exact loaded
  | some c =>
    simp only
    split
    · exact loaded
    · exact ⟨h.kept c kept, h⟩

/-- A project is never refused, and its artifacts are made against the catalog. -/
theorem generate (h : g.Serves catalog) (files : Files) (now : Nat) (name : String)
    (project : Project) :
    (g.generate files now name project).1 =
        .ok (.generate (.ofCatalog catalog) defaultHeartbeat name project) ∧
      (g.generate files now name project).2.Serves catalog := by
  obtain ⟨current, after⟩ := h.snapshot files now
  have allowed : ¬ (g.policy = .strict && !(conflicts project.blocks).isEmpty) = true := by
    simp [h.policy]
  unfold Generator.generate
  simp only [allowed, current, after.heartbeat]
  exact ⟨rfl, after⟩

end Generator.Serves

/-! ### Sessions -/

namespace Session

variable {s : Session} {catalog : Catalog}

/-- **One request**: the answer is made from the request and the catalog, and afterwards the session
answers from the catalog that the request has brought, or else from the same one. -/
theorem respond_eq (h : s.generator.Serves catalog) (now : Nat) (r : Request) :
    (s.respond now r).1 = r.reply catalog s.fresh ∧
      (s.respond now r).2.generator.Serves (r.catalog?.getD catalog) := by
  cases r with
  | useCatalog text =>
    rw [respond, useCatalog, Request.reply, Request.understood, Request.catalog?]
    cases Catalog.ofText text "init_registry" with
    | error fault => exact ⟨rfl, h⟩
    | ok new =>
      -- To count the definitions, the new generator is asked at once, and keeps what it has loaded.
      obtain ⟨current, after⟩ := (Generator.Serves.ofFixed new).snapshot {} now
      refine ⟨?_, after⟩
      simp only [current]
      rfl
  | generate name text =>
    simp only [respond, generate, Request.reply, Request.understood, Request.catalog?]
    cases Json.readText text fun n => Project.read n s.fresh with
    | error fault => exact ⟨rfl, h⟩
    | ok project =>
      obtain ⟨made, after⟩ := h.generate {} now name project
      simp only [made]
      exact ⟨rfl, after⟩
  | conflicts text =>
    simp only [respond, conflicts, Request.reply, Request.understood, Request.catalog?]
    cases Json.readText text fun n => Block.readList n s.fresh with
    | error fault => exact ⟨rfl, h⟩
    | ok blocks => exact ⟨rfl, h⟩
  | preview text =>
    simp only [respond, preview, Request.reply, Request.understood, Request.catalog?]
    cases Json.readText text fun n => Block.read n s.fresh with
    | error fault => exact ⟨rfl, h⟩
    | ok block =>
      obtain ⟨current, after⟩ := h.snapshot {} now
      simp only [current, Except.mapError, Functor.map, Except.map, Understood.reply]
      cases block.preview? (.ofCatalog catalog) with
      | none => exact ⟨rfl, after⟩
      | some preview => exact ⟨rfl, after⟩
  | blockTypes =>
    obtain ⟨current, after⟩ := h.snapshot {} now
    rw [respond, blockTypes]
    simp only [current]
    exact ⟨rfl, after⟩

/-- **A history**: whatever a session has kept, its answers are made from the requests. -/
theorem serve_eq_replies (h : s.generator.Serves catalog) (calls : List Call) :
    s.serve calls = replies catalog calls := by
  induction calls generalizing s catalog with
  | nil => rfl
  | cons c rest ih =>
    -- What stands in for ids is no matter of the generator.
    have h' : ({ s with fresh := c.fresh } : Session).generator.Serves catalog := h
    obtain ⟨answer, after⟩ := respond_eq h' c.now c.request
    rw [serve, replies, ← answer, ← ih after]
    rfl

/-- Requests leave alone what stands in for missing ids. -/
theorem respond_fresh (s : Session) (now : Nat) (r : Request) :
    (s.respond now r).2.fresh = s.fresh := by
  cases r with
  | useCatalog text =>
    simp only [respond, useCatalog]
    split <;> rfl
  | generate name text =>
    simp only [respond, generate]
    split
    · rfl
    · split <;> rfl
  | conflicts text => rfl
  | preview text =>
    simp only [respond, preview]
    split
    · rfl
    · split <;> rfl
  | blockTypes => rfl

/-- In particular, the same ids may stand in for missing ones in every call. -/
theorem answers_eq_serve (s : Session) (timed : List (Nat × Request)) :
    s.answers timed = s.serve (timed.map fun (now, r) => ⟨now, s.fresh, r⟩) := by
  induction timed generalizing s with
  | nil => rfl
  | cons call rest ih =>
    obtain ⟨now, r⟩ := call
    have fresh : (s.answer now r).2.fresh = s.fresh := respond_fresh s now r
    have later := ih (s.answer now r).2
    rw [fresh] at later
    exact congrArg ((s.answer now r).1 :: ·) later

end Session

/-! ### Histories -/

end Blockware
