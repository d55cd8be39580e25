import Blockware.Project
import Blockware.Proofs.Json.Reading

/-!
# Blocks with ids of their own

An id that a block leaves out is replaced by one that stands in for it. Which one that is the reader
is told, and nothing else about a block depends on it. So where all blocks have ids, whatever the
reader is told makes no difference.

- `Block.givesIds`: each block that is read from a tree has an id of its own there, be it in the body
  of another one or among the parameters of an older one.
- `Json.Record.read_object_congr`, `Block.readListBy_congr`: records and lists are read alike if their
  parts are.
- `Block.readWithin_eq_of_givesIds`: no id stands in for one of such a block. The same holds of lists
  of blocks and of projects.
-/

namespace Blockware

open Json (Node Fault Key)

/-! ### Records that are read alike -/

namespace Json

/-- Two fields that read the members of theirs in `n` alike. How they read any other tree may differ,
and nothing else about them. -/
structure Field.AlikeOn {δ : Type} (n : Node) (f f' : Field δ) : Prop where
  name : f.name = f'.name
  others : f.others = f'.others
  required : f.required = f'.required
  isSet : f.isSet = f'.isSet
  set : ∀ m ∈ n.membersNamed (f.name :: f.others), ∀ d, f.set d m = f'.set d m

theorem Field.AlikeOn.refl {δ : Type} {n : Node} (f : Field δ) : f.AlikeOn n f :=
  ⟨rfl, rfl, rfl, rfl, fun _ _ _ => rfl⟩

/-- Where two lists correspond, so do their first elements with a property. -/
theorem rel_find? {α β : Type} {R : α → β → Prop} {p : α → Bool} {q : β → Bool}
    (same : ∀ a b, R a b → p a = q b) {as : List α} {bs : List β} (h : List.Forall₂ R as bs) :
    Option.Rel R (as.find? p) (bs.find? q) := by
  induction h with
  | nil => exact .none
  | @cons a b _ _ first _ ih =>
    rw [List.find?_cons, List.find?_cons, same a b first]
    cases q b with
    | true => exact .some first
    | false => exact ih

namespace Record

variable {δ : Type} {r r' : Record δ} {n : Node} {span : Option Span} {tooDeep : Option Fault}
  {members : List (Key × Node)} {stop : Option Break}

/-- The field that a name stands for has its counterpart in the other record. -/
theorem rel_field? (alike : List.Forall₂ (Field.AlikeOn n) r.fields r'.fields) (name : String) :
    Option.Rel (Field.AlikeOn n) (r.field? name) (r'.field? name) :=
  rel_find? (fun f f' h => by rw [h.name, h.others]) alike

theorem mem_names_of_field? {name : String} {f : Field δ} (h : r.field? name = some f) :
    name ∈ f.name :: f.others := by
  unfold field? at h
  have known := List.find?_some h
  rw [Bool.or_eq_true, beq_iff_eq, List.contains_iff_mem] at known
  exact List.mem_cons.mpr (known.imp_left Eq.symm)

theorem readMember_congr {member : Key × Node}
    (alike : List.Forall₂ (Field.AlikeOn (.object span tooDeep members stop)) r.fields r'.fields)
    (there : member ∈ members) (d : δ) : r.readMember d member = r'.readMember d member := by
  obtain ⟨key, m⟩ := member
  unfold readMember
  dsimp only
  cases named : key.name with
  | error fault => rfl
  | ok name =>
    simp only [bind, Except.bind]
    have both := rel_field? alike name
    generalize found : r.field? name = own, r'.field? name = other at both ⊢
    cases both with
    | none => rfl
    | @some f f' h =>
      have read := h.set m (Node.mem_membersNamed there named (mem_names_of_field? found)) d
      simp only [h.name, h.isSet, read]

/-- An object is read alike if each field reads its members alike. -/
theorem read_object_congr
    (alike : List.Forall₂ (Field.AlikeOn (.object span tooDeep members stop)) r.fields r'.fields)
    (d : δ) :
    r.read d (.object span tooDeep members stop) =
      r'.read d (.object span tooDeep members stop) := by
  have run : members.foldlM r.readMember d = members.foldlM r'.readMember d :=
    foldlM_congr (fun member there d => readMember_congr alike there d) d
  simp only [read, run]
  refine bind_congr fun _ => bind_congr fun done => bind_congr fun _ => ?_
  have missing : Option.Rel (Field.AlikeOn (.object span tooDeep members stop))
      (r.fields.find? fun f => f.required && !f.isSet done)
      (r'.fields.find? fun f => f.required && !f.isSet done) :=
    rel_find? (fun f f' h => by rw [h.required, h.isSet]) alike
  generalize r.fields.find? _ = own, r'.fields.find? _ = other at missing ⊢
  cases missing with
  | none => rfl
  | some h => simp only [h.name]

end Record
end Json

namespace Block

/-! ### Lists that are read alike -/

section Lists

variable {one : Nat → Node → Except Fault Block}

/-- Blocks that are read alike whatever stands in for their ids are so one after the other, although
each of them decides what stands in for the ids after it. -/
theorem map_fst_foldFrom_congr {items : List Node}
    (same : ∀ item ∈ items, ∀ f g, one f item = one g item) (span : Option Json.Span)
    (stop : Option Json.Break) (done : List Block) (f g : Nat) :
    let step : List Block × Nat → Node → Except Fault (List Block × Nat) :=
      fun (done, next) item => do
        let b ← one next item
        return (b :: done, next + b.size)
    Prod.fst <$> Node.foldFrom step span stop (done, f) items =
      Prod.fst <$> Node.foldFrom step span stop (done, g) items := by
  intro step
  induction items generalizing done f g with
  | nil => rfl
  | cons item rest ih =>
    have first := same item List.mem_cons_self f g
    have later := ih fun other hother => same other (List.mem_cons_of_mem item hother)
    rw [Node.foldFrom, Node.foldFrom]
    simp only [step, first]
    cases one g item with
    | error fault => rfl
    | ok b => exact later (b :: done) (f + b.size) (g + b.size)

/-- A list is read alike if its items are. -/
theorem readListBy_congr {n : Node} (same : ∀ item ∈ n.items, ∀ f g, one f item = one g item)
    (f g : Nat) : readListBy one f n = readListBy one g n := by
  cases n with
  | array span tooDeep items stop =>
    have fold := map_fst_foldFrom_congr same span stop [] f g
    unfold readListBy
    rw [Node.foldItems, Node.foldItems]
    cases Node.raise tooDeep with
    | error fault => rfl
    | ok _ =>
      -- The two folds differ in a number that nothing looks at afterwards.
      dsimp only [Node.items] at fold
      generalize Node.foldFrom _ span stop ([], f) items = x at fold ⊢
      generalize Node.foldFrom _ span stop ([], g) items = y at fold ⊢
      cases x with
      | error fault =>
        cases y with
        | error fault' =>
          cases fold
          rfl
        | ok state => cases fold
      | ok state =>
        cases y with
        | error fault => cases fold
        | ok state' =>
          have sameBlocks : state.1 = state'.1 := Except.ok.inj fold
          cases Node.endOf stop with
          | error fault => rfl
          | ok _ => exact congrArg (fun blocks => Except.ok blocks.reverse) sameBlocks
  | scalar span value => simp only [readListBy, Node.foldItems]
  | unholdable start isString fault => simp only [readListBy, Node.foldItems]
  | object span tooDeep members stop => simp only [readListBy, Node.foldItems]
  | broken b => simp only [readListBy, Node.foldItems]

end Lists

/-- The trees that a block may have for its body. -/
def bodies : Node → List Node
  | .array _ _ items _ => items[3]?.toList
  | n => n.membersNamed [innerKey, "inner_blocks"]

section Records

variable {body body' : Node → Except Fault (List Block)}

/-- A block is read alike if its body is. -/
theorem read_record_congr {n : Node}
    (same : ∀ m ∈ bodies n, m.readOption body = m.readOption body') :
    (record body).read {} n = (record body').read {} n := by
  cases n with
  | object span tooDeep members stop =>
    refine Json.Record.read_object_congr ?_ _
    refine .cons (.refl _) (.cons (.refl _) (.cons (.refl _) (.cons ⟨rfl, rfl, rfl, rfl, ?body⟩ .nil)))
    intro m hm d
    simp only [same m hm]
  | array span tooDeep items stop =>
    match items with
    | [] | [_] | [_, _] | [_, _, _] =>
      simp only [Json.Record.read, record, Json.Record.readItems, Json.Record.sized,
        List.findIdx?_cons, List.length_cons]
    | a :: b :: c :: inner :: rest =>
      have alike := same inner (by simp [bodies])
      cases rest <;> simp only [Json.Record.read, record, Json.Record.readItems, alike]
  | scalar span value => simp only [Json.Record.read, record]
  | unholdable start isString fault => simp only [Json.Record.read, record]
  | broken b => simp only [Json.Record.read, record]

end Records

/-! ### Given ids -/

/-- The tree that is the body of a block for want of one of its own. -/
def Draft.lifted? (d : Draft) : Option Node :=
  match d.inner.getD none with
  | some _ => none
  | none => (((d.params.getD none).getD []).get? innerKey).map fun value => Node.ofJson value.toJson

/-- Whether each block of a tree with at most `bound` levels has an id of its own. What is read of
the block itself tells that, and which parameter is its body; no id that stands in for one matters
for this. -/
def givesIds : Nat → Node → Bool
  | 0, _ => true
  | bound + 1, n =>
    ((bodies n).all fun body => body.items.all (givesIds bound)) &&
      match (record (readListBy (readWithin bound) 0)).read {} n with
      | .error _ => true
      | .ok d => d.id.isSome && d.lifted?.all fun body => body.items.all (givesIds bound)

theorem readOption_congr {α : Type} {f g : Node → Except Fault α} {n : Node} (same : f n = g n) :
    n.readOption f = n.readOption g := by
  cases n with
  | scalar span value => cases value <;> simp only [Node.readOption, same]
  | _ => simp only [Node.readOption, same]

/-- What stands in for an id does not matter to a draft that has one. -/
theorem ofDraft_of_id {body : Json → Option (List Block)} {d : Draft} (hasId : d.id.isSome)
    (f g : Nat) : ofDraft body f d = ofDraft body g d := by
  obtain ⟨id, hid⟩ := Option.isSome_iff_exists.mp hasId
  simp only [ofDraft, hid, Option.getD_some]

/-- The reader of bodies matters to a draft only if there is a body to lift. -/
theorem ofDraft_congr {body body' : Json → Option (List Block)} {d : Draft}
    (same : ∀ value, d.inner.getD none = none →
      ((d.params.getD none).getD []).get? innerKey = some value →
        body value.toJson = body' value.toJson) (f : Nat) :
    ofDraft body f d = ofDraft body' f d := by
  unfold ofDraft
  cases inner : d.inner.getD none with
  | some inner => rfl
  | none =>
    have alike : lift body ((d.params.getD none).getD []) =
        lift body' ((d.params.getD none).getD []) := by
      unfold lift
      cases found : ((d.params.getD none).getD []).get? innerKey with
      | none => rfl
      | some value => simp only [same value inner found]
    simp only [alike]

/-- A block of which each part has an id is read alike whatever would stand in for one. -/
theorem readWithin_eq_of_givesIds {bound : Nat} {n : Node} (h : givesIds bound n) (f g : Nat) :
    readWithin bound f n = readWithin bound g n := by
  induction bound generalizing n f g with
  | zero => rfl
  | succ bound ih =>
    rw [givesIds, Bool.and_eq_true, List.all_eq_true] at h
    obtain ⟨inBodies, own⟩ := h
    -- Lists in which each block has its id are read alike, by induction.
    have lists : ∀ m : Node, m.items.all (givesIds bound) → ∀ f g,
        readListBy (readWithin bound) f m = readListBy (readWithin bound) g m := by
      intro m given
      exact readListBy_congr fun item hitem => ih (List.all_eq_true.mp given item hitem)
    have drafts : ∀ f, (record (readListBy (readWithin bound) f)).read {} n =
        (record (readListBy (readWithin bound) 0)).read {} n := by
      intro f
      exact read_record_congr fun m hm => readOption_congr (lists m (inBodies m hm) f 0)
    rw [readWithin, readWithin, drafts (f + 1), drafts (g + 1)]
    cases read : (record (readListBy (readWithin bound) 0)).read {} n with
    | error fault => simp only [bind, Except.bind]
    | ok d =>
      rw [read] at own
      obtain ⟨hasId, lifted⟩ := Bool.and_eq_true_iff.mp own
      refine congrArg Except.ok
        ((ofDraft_of_id hasId f g).trans (ofDraft_congr (fun value missing found => ?_) g))
      have given : (Node.ofJson value.toJson).items.all (givesIds bound) := by
        simpa [Draft.lifted?, missing, found] using lifted
      rw [Json.read, Json.read, lists _ given (f + 1) (g + 1)]

/-- A list of blocks, each of which gives its ids. -/
theorem readList_eq_of_givesIds {n : Node} (h : n.items.all (givesIds n.height)) (f g : Nat) :
    readList n f = readList n g := by
  unfold readList
  refine readListBy_congr (fun item hitem f g => ?_) f g
  exact readWithin_eq_of_givesIds (List.all_eq_true.mp h item hitem) f g

end Block

/-! ### Projects -/

namespace Project

/-- Whether each block of a project has an id of its own. -/
def givesIds (n : Node) : Bool :=
  (n.membersNamed ["blocks"]).all fun blocks => blocks.items.all (Block.givesIds blocks.height)

/-- A project of which each block has an id is read alike whatever would stand in for one. -/
theorem read_eq_of_givesIds {n : Node} (h : givesIds n) (f g : Nat) : read n f = read n g := by
  cases n with
  | object span tooDeep members stop =>
    have drafts : (record f).read {} (.object span tooDeep members stop) =
        (record g).read {} (.object span tooDeep members stop) := by
      refine Json.Record.read_object_congr ?_ _
      refine .cons (.refl _) (.cons ⟨rfl, rfl, rfl, rfl, ?blocks⟩ (.cons (.refl _) .nil))
      intro m hm d
      simp only [Block.readList_eq_of_givesIds (List.all_eq_true.mp h m hm) f g]
    unfold read readObject
    simp only [drafts]
  | array span tooDeep items stop => simp only [read]
  | scalar span value => simp only [read]
  | unholdable start isString fault => simp only [read]
  | broken b => simp only [read]

end Project
end Blockware
