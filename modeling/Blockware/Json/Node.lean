import Blockware.Json.Token

/-!
# Documents

The tree of a JSON text with the places of its parts. A text that stops being JSON still has a tree:
what was complete stands in it, and a *break* stands where the text could not be followed. A reader
that knows what it wants walks the tree in the order of the text and reports the first fault it meets,
so a value of the wrong kind is reported before a break behind it.

- `Break`: where the text broke off, and the fault this is for a reader who wants what stands there
  (`Break.held`) and for one who passes over it (`Break.passed`).
- `Node`: the tree; `Node.ofJson` gives a value a tree without places.
- `Document.ofText`: the tree of a text. The tokens are folded over a stack of open containers.
- `Node.toJson`: the value of a whole tree, or its first fault.
- `Node.passed`: the fault of a tree that is passed over.
-/

namespace Blockware.Json

/-- What the grammar allows at a place. -/
inductive Stage where
  /-- A value: at the start of the text or after a colon. -/
  | value
  /-- A value, or the end of an empty array. -/
  | firstItem
  /-- A value after a comma. -/
  | item
  /-- A comma, or the end of an array. -/
  | itemEnd
  /-- A key, or the end of an empty object. -/
  | firstKey
  /-- A key after a comma. -/
  | key
  /-- A colon after a key. -/
  | colon
  /-- A comma, or the end of an object. -/
  | memberEnd
  deriving DecidableEq

/-- Whether a value may stand here. -/
def Stage.wantsValue : Stage → Bool
  | .value | .firstItem | .item => true
  | _ => false

/-- Whether a key may stand here. -/
def Stage.wantsKey : Stage → Bool
  | .firstKey | .key => true
  | _ => false

/-- Where a text stops being JSON. -/
structure Break where
  /-- What the grammar allows. -/
  stage : Stage
  /-- The token that stands there; none at the end of the text. -/
  found : Option Token
  /-- Where that is. -/
  place : Place
  /-- Where the token before begins. -/
  before : Place

namespace Break

/-- The place of a reader that has looked at the next byte. -/
def looked (b : Break) : Place := if b.found.isSome then b.place.advance 1 else b.place

/-- Whether the token is a mark. -/
def isMark (b : Break) (m : Mark) : Bool := b.found.any fun t => t.kind == .mark m

/-- The faults of a malformed token where a token of its kind may stand. -/
def malformed? (b : Break) : Option (Fault × Fault) :=
  match b.found.map Token.kind with
  | some (.malformed isString held passed) =>
    if b.stage.wantsValue || (b.stage.wantsKey && isString) then some (held, passed) else none
  | _ => none

/-- What is wrong at a stage where the text has ended. -/
def endCause : Stage → Cause
  | .value | .item | .key => .endInValue
  | .firstItem | .itemEnd => .endInList
  | .firstKey | .colon | .memberEnd => .endInObject

/-- What is wrong at a stage where another token stands. -/
def strayCause : Stage → Cause
  | .value | .firstItem | .item => .expectedValue
  | .itemEnd => .expectedItemEnd
  | .firstKey | .key => .keyNotString
  | .colon => .expectedColon
  | .memberEnd => .expectedMemberEnd

/-- The fault for a reader who wants what should stand here: a container that ends after a comma has
a comma too many. -/
def held (b : Break) : Fault :=
  match b.malformed? with
  | some (fault, _) => fault
  | none =>
    let cause :=
      if b.found.isNone then endCause b.stage
      else if (b.stage = .item && b.isMark .closeArray) || (b.stage = .key && b.isMark .closeObject)
      then .trailingComma
      else strayCause b.stage
    ⟨cause, some b.looked⟩

/-- The fault for a reader who passes over what should stand here: after a comma it goes on as at the
first part of a container. -/
def passed (b : Break) : Fault :=
  match b.malformed? with
  | some (_, fault) => fault
  | none =>
    let cause :=
      if b.found.isNone then (if b.stage = .key then .endInObject else endCause b.stage)
      else strayCause b.stage
    ⟨cause, some b.looked⟩

/-- The fault for a reader who has all the items it wants and only looks for the end of the array. -/
def surplus (b : Break) : Fault :=
  let cause :=
    if b.stage = .itemEnd && b.found.isNone then .endInList
    else if b.stage = .item && b.isMark .closeArray then .trailingComma
    else .trailingCharacters
  ⟨cause, some b.looked⟩

end Break

/-- The places before and after a part of a text. -/
structure Span where
  start : Place
  stop : Place

/-- The key of a member. The places are none in a tree that has no text. -/
structure Key where
  /-- The name, or why the string denotes none. -/
  name : Except Fault String
  /-- The place of the brace or comma before. -/
  before : Option Place := none
  /-- The place after the string. -/
  stop : Option Place := none
  /-- The place of a reader that has gone on to what follows the string. -/
  next : Option Place := none

/-- A tree. Containers keep the fault of their depth, which only a reader of their parts meets, and
the break that ends them, if it is not a bracket. -/
inductive Node where
  | scalar (span : Option Span) (value : Scalar)
  | unholdable (start : Option Place) (isString : Bool) (fault : Fault)
  | array (span : Option Span) (tooDeep : Option Fault) (items : List Node) (stop : Option Break)
  | object (span : Option Span) (tooDeep : Option Fault) (members : List (Key × Node))
      (stop : Option Break)
  | broken (b : Break)

/-! ### Trees of texts -/

/-- A container of which the end has not been seen; its parts stand last first. -/
inductive Frame where
  | array (start : Place) (items : List Node)
  | object (start : Place) (members : List (Key × Node)) (key : Option Key)

/-- How deep containers may be nested. -/
def maxDepth : Nat := 127

/-- The fault of a container at some depth, where its bracket is looked at. -/
def depthFault (depth : Nat) (start : Place) : Option Fault :=
  if maxDepth < depth then some ⟨.nestedTooDeep, some (start.advance 1)⟩ else none

namespace Frame

/-- Adds a part. -/
def add : Frame → Node → Frame
  | .array start items, n => .array start (n :: items)
  | .object start members (some key), n => .object start ((key, n) :: members) none
  | .object start members none, _ => .object start members none

/-- What may follow a part. -/
def afterPart : Frame → Stage
  | .array .. => .itemEnd
  | .object .. => .memberEnd

/-- Sets the place that follows the key of the member that has begun. -/
def setNext (f : Frame) (place : Place) : Frame :=
  match f with
  | .object start members (some key) => .object start members (some { key with next := some place })
  | f => f

/-- The tree of a container at some depth that ends at a place, by a bracket or by a break. -/
def toNode (f : Frame) (depth : Nat) (stop : Place) (b : Option Break) : Node :=
  match f with
  | .array start items => .array (some ⟨start, stop⟩) (depthFault depth start) items.reverse b
  | .object start members _ =>
    .object (some ⟨start, stop⟩) (depthFault depth start) members.reverse b

end Frame

/-- The state after a token: the stack goes on, or the root is complete. -/
inductive Step where
  | next (frames : List Frame) (stage : Stage)
  | done (root : Node)

/-- Adds a complete part to the innermost open container. -/
def Step.ofPart (frames : List Frame) (n : Node) : Step :=
  match frames with
  | [] => .done n
  | f :: outer => .next (f.add n :: outer) f.afterPart

/-- The state after a key token. -/
def Step.ofKey (frames : List Frame) (before : Place) (t : Token) (name : Except Fault String) :
    Option Step :=
  match frames with
  | .object start members _ :: outer =>
    some (.next (.object start members (some ⟨name, some before, some t.stop, none⟩) :: outer) .colon)
  | _ => none

/-- The state after a closing bracket. -/
def Step.ofClose (frames : List Frame) (t : Token) : Option Step :=
  match frames with
  | [] => none
  | f :: outer => some (.ofPart outer (f.toNode (outer.length + 1) t.stop none))

/-- The state after a token that the grammar allows at a stage; none for every other token. -/
def Step.ofToken (frames : List Frame) (stage : Stage) (before : Place) (t : Token) : Option Step :=
  match t.kind with
  | .scalar value =>
    if stage.wantsValue then some (.ofPart frames (.scalar (some ⟨t.start, t.stop⟩) value))
    else if stage.wantsKey then
      match value with
      | .str name => Step.ofKey frames before t (.ok name)
      | _ => none
    else none
  | .unholdable isString fault =>
    if stage.wantsValue then some (.ofPart frames (.unholdable (some t.start) isString fault))
    else if stage.wantsKey && isString then Step.ofKey frames before t (.error fault)
    else none
  | .mark .openArray =>
    if stage.wantsValue then some (.next (.array t.start [] :: frames) .firstItem) else none
  | .mark .openObject =>
    if stage.wantsValue then some (.next (.object t.start [] none :: frames) .firstKey) else none
  | .mark .closeArray =>
    if stage = .firstItem ∨ stage = .itemEnd then Step.ofClose frames t else none
  | .mark .closeObject =>
    if stage = .firstKey ∨ stage = .memberEnd then Step.ofClose frames t else none
  | .mark .comma =>
    if stage = .itemEnd then some (.next frames .item)
    else if stage = .memberEnd then some (.next frames .key)
    else none
  | .mark .colon =>
    if stage = .colon then
      match frames with
      | f :: outer => some (.next (f.setNext t.start :: outer) .value)
      | [] => none
    else none
  | .malformed .. => none
  | .stray => none

/-- Ends all open containers at a break, after the innermost one has taken the part `inner`. -/
def Break.closeAll (b : Break) (inner : Option Node) : List Frame → Node
  | [] => inner.getD (.broken b)
  | f :: outer =>
    let full :=
      match inner with
      | some n => f.add n
      | none => f
    b.closeAll (some (full.toNode (outer.length + 1) b.place (some b))) outer

/-- The root of a text that breaks off: the break stands as the value that is missing, that of a
member without a colon included. -/
def Break.root (b : Break) (frames : List Frame) : Node :=
  if b.stage = .colon then
    let next := if b.isMark .closeObject then b.looked else b.place
    match frames with
    | f :: outer => b.closeAll (some (.broken b)) (f.setNext next :: outer)
    | [] => .broken b
  else if b.stage.wantsValue then b.closeAll (some (.broken b)) frames
  else b.closeAll none frames

/-- The tree of a text, and where more text follows it. -/
structure Document where
  root : Node
  trailing : Option Place := none

/-- The document of the remaining tokens of a text that ends at `finish`. -/
def Document.build (frames : List Frame) (stage : Stage) (before finish : Place) :
    List Token → Document
  | [] => { root := Break.root ⟨stage, none, finish, before⟩ frames }
  | t :: rest =>
    match Step.ofToken frames stage before t with
    | none => { root := Break.root ⟨stage, some t, t.start, before⟩ frames }
    | some (.done root) => { root, trailing := rest.head?.map fun next => next.start.advance 1 }
    | some (.next frames stage) => Document.build frames stage t.start finish rest

/-- The document of a text. -/
def Document.ofText (s : String) : Document :=
  let (tokens, finish) := Token.ofText s
  Document.build [] .value Place.start finish tokens

/-! ### Trees of values -/

namespace Node

mutual

/-- The tree of a value whose objects are sorted. -/
def ofSorted : Json → Node
  | .null => .scalar none .null
  | .bool b => .scalar none (.bool b)
  | .int n => .scalar none (.int n)
  | .float x => .scalar none (.float x)
  | .str s => .scalar none (.str s)
  | .arr items => .array none none (ofItems items) none
  | .obj members => .object none none (ofMembers members) none

/-- The trees of the items of an array. -/
def ofItems : List Json → List Node
  | [] => []
  | j :: rest => ofSorted j :: ofItems rest

/-- The trees of the members of an object. -/
def ofMembers : List (String × Json) → List (Key × Node)
  | [] => []
  | (name, j) :: rest => ({ name := .ok name }, ofSorted j) :: ofMembers rest

end

/-- The tree of a value: members stand in key order, each name once, and nothing has a place. -/
def ofJson (j : Json) : Node := ofSorted j.sorted

mutual

/-- How many levels a tree has; a scalar has one. -/
def height : Node → Nat
  | .array _ _ items _ => heightOfItems items + 1
  | .object _ _ members _ => heightOfMembers members + 1
  | _ => 1

/-- The levels of the tallest item. -/
def heightOfItems : List Node → Nat
  | [] => 0
  | n :: rest => max (height n) (heightOfItems rest)

/-- The levels of the tallest member. -/
def heightOfMembers : List (Key × Node) → Nat
  | [] => 0
  | (_, n) :: rest => max (height n) (heightOfMembers rest)

end

/-! ### Whole trees -/

/-- Nothing, or a fault. -/
def raise : Option Fault → Except Fault Unit
  | none => .ok ()
  | some fault => .error fault

/-- Nothing at a bracket, and the break's fault otherwise. -/
def endOf : Option Break → Except Fault Unit
  | none => .ok ()
  | some b => .error b.held

mutual

/-- The value of a tree, or the first fault in the order of the text. Objects come in key order, and
of a repeated key the last member counts. -/
def toJson : Node → Except Fault Json
  | .scalar _ value => .ok value.toJson
  | .unholdable _ _ fault => .error fault
  | .array _ tooDeep items stop => do
    raise tooDeep
    let values ← itemsToJson items
    endOf stop
    return .arr values
  | .object _ tooDeep members stop => do
    raise tooDeep
    let values ← membersToJson members
    endOf stop
    return .obj (Dict.ofList values)
  | .broken b => .error b.held

/-- The values of the items of an array. -/
def itemsToJson : List Node → Except Fault (List Json)
  | [] => .ok []
  | n :: rest => do
    let value ← toJson n
    return value :: (← itemsToJson rest)

/-- The entries of an object. -/
def membersToJson : List (Key × Node) → Except Fault (List (String × Json))
  | [] => .ok []
  | (key, n) :: rest => do
    let name ← key.name
    let value ← toJson n
    return (name, value) :: (← membersToJson rest)

end

mutual

/-- The fault of a tree that is passed over: only a break stops a reader who wants nothing. -/
def passed : Node → Option Fault
  | .scalar .. => none
  | .unholdable .. => none
  | .array _ _ items stop => (passedItems items).or (stop.map Break.passed)
  | .object _ _ members stop => (passedMembers members).or (stop.map Break.passed)
  | .broken b => some b.passed

/-- The fault of the first item that has one. -/
def passedItems : List Node → Option Fault
  | [] => none
  | n :: rest => (passed n).or (passedItems rest)

/-- The fault of the first member that has one. -/
def passedMembers : List (Key × Node) → Option Fault
  | [] => none
  | (_, n) :: rest => (passed n).or (passedMembers rest)

end

end Node

end Blockware.Json
