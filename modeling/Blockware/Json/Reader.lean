import Blockware.Json.Node

/-!
# Reading typed data

Readers for the kinds of data that are kept in JSON. Each walks a tree in its order and answers with
the data or the first fault.

- `Node.readString`, `Node.readBool`, `Node.readNat64`, `Node.readOption`: single values.
- `Node.readList`, `Node.readTriple`, `Node.readDict`: arrays and objects of one kind of part.
- `Node.readVariant`: one of some named variants.
- `Record`, `Record.read`: a record is an object with some members of its own, or an array that gives
  them in the declared order. Unknown members are passed over, and a member may be absent if it has a
  default.
- `Json.readText`, `Json.read`: a reader applied to a text or to a value.
-/

namespace Blockware.Json

namespace Node

/-- The fault of a tree that is not what is wanted. A scalar is read before it is refused, a container
is not entered. -/
def mismatch (wanted : String) : Node → Fault
  | .scalar span value => ⟨.invalidType value.found wanted, span.map Span.stop⟩
  | .unholdable _ _ fault => fault
  | .array span .. => ⟨.invalidType .sequence wanted, span.map Span.start⟩
  | .object span .. => ⟨.invalidType .map wanted, span.map Span.start⟩
  | .broken b => b.held

/-- The place where a tree begins. -/
def start? : Node → Option Place
  | .scalar span _ => span.map Span.start
  | .unholdable start _ _ => start
  | .array span .. => span.map Span.start
  | .object span .. => span.map Span.start
  | .broken b => some b.place

/-- The place of a reader that has looked at the first byte. -/
def looked : Node → Option Place
  | .broken b => some b.looked
  | n => n.start?.map fun p => p.advance 1

/-! ### Single values -/

/-- A string; `wanted` says what kind. -/
def readText (wanted : String) : Node → Except Fault String
  | .scalar _ (.str s) => .ok s
  | n => .error (n.mismatch wanted)

/-- A string. -/
def readString (n : Node) : Except Fault String := n.readText "a string"

/-- A truth value. -/
def readBool : Node → Except Fault Bool
  | .scalar _ (.bool b) => .ok b
  | n => .error (n.mismatch "a boolean")

/-- A whole number that is not negative. -/
def readNat64 : Node → Except Fault Nat
  | .scalar span (.int i) =>
    if i < 0 then .error ⟨.invalidValue (.int i) "u64", span.map Span.stop⟩ else .ok i.toNat
  | n => .error (n.mismatch "u64")

/-- A value or `null`. -/
def readOption {α : Type} (f : Node → Except Fault α) : Node → Except Fault (Option α)
  | .scalar _ .null => .ok none
  | n => some <$> f n

/-- The value `null`. -/
def readNull : Node → Except Fault Unit
  | .scalar _ .null => .ok ()
  | n => .error (n.mismatch "unit")

/-! ### Arrays and objects of one kind -/

/-- The place of a reader that has gone on after an item: past the bracket that ends the array, or past
a comma to where the next item should begin. -/
def afterItem (span : Option Span) (stop : Option Break) : List Node → Option Place
  | next :: _ => next.start?
  | [] =>
    match stop with
    | some b => some b.place
    | none => span.map Span.stop

/-- Folds the items of an array, the first fault ending the fold. A fault of an item as a whole has no
place of its own: it is noticed after the item. -/
def foldFrom {σ : Type} (f : σ → Node → Except Fault σ) (span : Option Span) (stop : Option Break)
    (done : σ) : List Node → Except Fault σ
  | [] => .ok done
  | n :: rest => do
    let done ← (f done n).mapError fun fault => fault.orAt (afterItem span stop rest)
    foldFrom f span stop done rest

/-- Folds the items of an array, which has to end after them. -/
def foldItems {σ : Type} (f : σ → Node → Except Fault σ) (init : σ) : Node → Except Fault σ
  | .array span tooDeep items stop => do
    raise tooDeep
    let result ← foldFrom f span stop init items
    endOf stop
    return result
  | n => .error (n.mismatch "a sequence")

/-- An array of parts of one kind. -/
def readList {α : Type} (f : Node → Except Fault α) (n : Node) : Except Fault (List α) :=
  List.reverse <$> n.foldItems (fun done item => (· :: done) <$> f item) []

/-- An object of parts of one kind, any names allowed. -/
def readDict {α : Type} (f : Node → Except Fault α) : Node → Except Fault (Dict α)
  | .object _ tooDeep members stop => do
    raise tooDeep
    let entries ← members.foldlM (fun d member => do
      let name ← member.1.name
      return Dict.insert d name (← f member.2)) []
    endOf stop
    return entries
  | n => .error (n.mismatch "a map")

/-- The fault of items beyond the ones that are wanted. In a text the array is expected to end where
the first of them begins; in a value the number of all items is known. -/
def surplus (count : Nat) (first : Node) : Fault :=
  match first with
  | .broken b => b.surplus
  | n =>
    match n.looked with
    | some place => ⟨.trailingCharacters, some place⟩
    | none => ⟨.invalidLength count "fewer elements in array", none⟩

/-- An array of exactly three items. -/
def readTriple {α β γ : Type} (f : Node → Except Fault α) (g : Node → Except Fault β)
    (h : Node → Except Fault γ) : Node → Except Fault (α × β × γ)
  | .array span tooDeep items stop => do
    raise tooDeep
    let short (count : Nat) : Except Fault (α × β × γ) := do
      endOf stop
      .error ⟨.invalidLength count "a tuple of size 3", span.map Span.stop⟩
    match items with
    | [] => short 0
    | [a] => do
      let _ ← f a
      short 1
    | [a, b] => do
      let _ ← f a
      let _ ← g b
      short 2
    | a :: b :: c :: rest => do
      let x ← f a
      let y ← g b
      let z ← h c
      match rest, stop with
      | [], none => return (x, y, z)
      | [], some b => .error b.surplus
      | n :: _, _ => .error (n.surplus items.length)
  | n => .error (n.mismatch "a tuple of size 3")

/-! ### Variants -/

/-- The variant of a name. -/
def variant {α : Type} (known : List (String × α)) (name : String) (place : Option Place) :
    Except Fault α :=
  match known.find? fun entry => entry.1 == name with
  | some entry => .ok entry.2
  | none => .error ⟨.unknownVariant name (known.map Prod.fst), place⟩

/-- The fault of an object in a text that names no variant: an empty one lacks a value, and any other
one a key. -/
def noVariantName (stop : Place) : Option Break → Fault
  | none => ⟨.expectedValue, some stop⟩
  | some b => b.held

/-- The fault of an object in a text that goes on after its variant. -/
def afterVariant (more : List (Key × Node)) (stop : Option Break) : Option Fault :=
  match more, stop with
  | (next, _) :: _, _ => some ⟨.expectedValue, next.before⟩
  | [], none => none
  | [], some b =>
    if b.stage = .key then some ⟨.expectedValue, some b.before⟩
    else some ⟨if b.found.isNone then .endInObject else .expectedValue, some b.place⟩

/-- One of some named variants without data: its name, or an object with the name as its only key and
`null` as its value. -/
def readVariant {α : Type} (known : List (String × α)) : Node → Except Fault α
  | .scalar span (.str name) => variant known name (span.map Span.stop)
  | .object none _ members _ =>
    match members with
    | [(key, value)] => do
      let v ← variant known (← key.name) none
      readNull value
      return v
    | _ => .error ⟨.invalidValue .map "map with a single key", none⟩
  | .object (some span) tooDeep members stop => do
    raise tooDeep
    match members with
    | [] => .error (noVariantName span.stop stop)
    | (key, value) :: more => do
      let v ← variant known (← key.name) key.stop
      readNull value
      raise (afterVariant more stop)
      return v
  | .unholdable _ true fault => .error fault
  | .broken b =>
    match b.stage.wantsValue, b.found.map Token.kind with
    | true, some (.malformed false ..) => .error ⟨.expectedValue, some b.looked⟩
    | _, _ => .error b.held
  | n =>
    match n.looked with
    | some place => .error ⟨.expectedValue, some place⟩
    | none => .error (n.mismatch "string or map")

end Node

/-! ### Records -/

/-- A member of a record that is read into a draft of type `δ`. -/
structure Field (δ : Type) where
  /-- The name under which the member is known. -/
  name : String
  /-- Other names that it may have. -/
  others : List String := []
  /-- Whether the record has no default for it. -/
  required : Bool := false
  /-- Whether the draft has it already. -/
  isSet : δ → Bool
  /-- Reads it into the draft. -/
  set : δ → Node → Except Fault δ

/-- A record: its name in messages and its members in order. -/
structure Record (δ : Type) where
  name : String
  fields : List (Field δ)

namespace Record

variable {δ : Type}

/-- The field that a name stands for. -/
def field? (r : Record δ) (name : String) : Option (Field δ) :=
  r.fields.find? fun f => f.name == name || f.others.contains name

/-- Reads one member of an object into the draft. -/
def readMember (r : Record δ) (draft : δ) (member : Key × Node) : Except Fault δ := do
  let (key, n) := member
  match r.field? (← key.name) with
  | none =>
    Node.raise n.passed
    return draft
  | some f => if f.isSet draft then .error ⟨.duplicateField f.name, key.next⟩ else f.set draft n

/-- How the record is named where an array has the wrong number of items. -/
def sized (r : Record δ) : String := s!"struct {r.name} with {r.fields.length} elements"

/-- Reads the items of an array into the fields in order, `index` of which have been read. Fields
beyond the items keep their defaults. -/
def readItems (r : Record δ) (span : Option Span) (stop : Option Break) (draft : δ) (index : Nat) :
    List (Field δ) → List Node → Except Fault δ
  | f :: fields, n :: items => do
    let draft ← f.set draft n
    r.readItems span stop draft (index + 1) fields items
  | [], [] =>
    match stop with
    | none => .ok draft
    | some b => .error b.surplus
  | [], n :: items => .error (n.surplus (index + items.length + 1))
  | f :: fields, [] => do
    Node.endOf stop
    match (f :: fields).findIdx? Field.required with
    | none => return draft
    | some offset => .error ⟨.invalidLength (index + offset) r.sized, span.map Span.stop⟩

/-- Reads a record into a draft. -/
def read (r : Record δ) (draft : δ) : Node → Except Fault δ
  | .object span tooDeep members stop => do
    Node.raise tooDeep
    let draft ← members.foldlM r.readMember draft
    Node.endOf stop
    match r.fields.find? fun f => f.required && !f.isSet draft with
    | some f => .error ⟨.missingField f.name, span.map Span.stop⟩
    | none => return draft
  | .array span tooDeep items stop => do
    Node.raise tooDeep
    r.readItems span stop draft 0 r.fields items
  | n => .error (n.mismatch s!"struct {r.name}")

end Record

/-! ### Texts and values -/

/-- Applies a reader to a document; nothing may follow the value. -/
def Document.read {α : Type} (d : Document) (f : Node → Except Fault α) : Except Fault α := do
  let result ← f d.root
  match d.trailing with
  | none => return result
  | some place => .error ⟨.trailingCharacters, some place⟩

/-- Applies a reader to a text. -/
def readText {α : Type} (s : String) (f : Node → Except Fault α) : Except Fault α :=
  (Document.ofText s).read f

/-- The value of a text. -/
def ofText (s : String) : Except Fault Json := readText s Node.toJson

/-- Applies a reader to a value. -/
def read {α : Type} (j : Json) (f : Node → Except Fault α) : Except Fault α := f (Node.ofJson j)

end Blockware.Json
