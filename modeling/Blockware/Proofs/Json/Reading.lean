import Blockware.Json.Reader
import Blockware.Proofs.Json.Parts

/-!
# The theory of readers

What readers of parts say about a reader of the whole, in two directions. What every part that is
read has in common, the whole has too, whatever tree it is read from. And a value whose parts are
read without a fault is read without one.

- `Json.Node.foldItems_invariant`, `Json.Node.readList_invariant`, `Json.Node.readDict_invariant`,
  `Json.Record.read_invariant`: the first direction, for arrays, lists, dictionaries and records.
- `Json.Node.readList_ofSorted`, `Json.Node.readDict_ofSorted`: the second one, for lists and
  dictionaries.
- `Json.read_sorted`: the order of members makes no difference to any reader.
-/

namespace Blockware.Json

/-- The tree of a value has its members in order already. -/
theorem read_sorted {α : Type} (j : Json) (f : Node → Except Fault α) :
    j.sorted.read f = j.read f := by
  rw [Json.read, Json.read, Node.ofJson, Node.ofJson, (canonical_sorted j).sorted_eq_self]

namespace Node

/-! ### What all parts have in common -/

variable {α σ : Type}

theorem foldFrom_invariant {P : σ → Prop} {f : σ → Node → Except Fault σ}
    (step : ∀ s n t, P s → f s n = .ok t → P t) {span : Option Span} {stop : Option Break}
    {items : List Node} {s t : σ} (start : P s) (h : foldFrom f span stop s items = .ok t) :
    P t := by
  induction items generalizing s with
  | nil =>
    cases h
    exact start
  | cons item rest ih =>
    obtain ⟨u, hu, h⟩ := bind_eq_ok.mp h
    exact ih (step s item u start (mapError_eq_ok.mp hu)) h

/-- What the reader of an item keeps, the reader of an array keeps. -/
theorem foldItems_invariant {P : σ → Prop} {f : σ → Node → Except Fault σ}
    (step : ∀ s n t, P s → f s n = .ok t → P t) {n : Node} {s t : σ} (start : P s)
    (h : n.foldItems f s = .ok t) : P t := by
  cases n with
  | array span tooDeep items stop =>
    obtain ⟨_, -, h⟩ := bind_eq_ok.mp h
    obtain ⟨u, hu, h⟩ := bind_eq_ok.mp h
    obtain ⟨_, -, h⟩ := bind_eq_ok.mp h
    cases h
    exact foldFrom_invariant step start hu
  | scalar span value => cases h
  | unholdable start isString fault => cases h
  | object span tooDeep members stop => cases h
  | broken b => cases h

/-- A list holds what the reader of its items answers. -/
theorem readList_invariant {Q : α → Prop} {f : Node → Except Fault α} {n : Node} {as : List α}
    (part : ∀ m a, f m = .ok a → Q a) (h : n.readList f = .ok as) : ∀ a ∈ as, Q a := by
  obtain ⟨done, hdone, rfl⟩ := map_eq_ok.mp h
  have all : ∀ a ∈ done, Q a := by
    refine foldItems_invariant (P := fun done : List α => ∀ a ∈ done, Q a) ?_ (by simp) hdone
    intro done m next hd h
    obtain ⟨a, ha, rfl⟩ := map_eq_ok.mp h
    exact List.forall_mem_cons.mpr ⟨part m a ha, hd⟩
  exact fun a ha => all a (List.mem_reverse.mp ha)

theorem foldFrom_congr {f g : σ → Node → Except Fault σ} {items : List Node}
    (same : ∀ m ∈ items, ∀ s, f s m = g s m) (span : Option Span) (stop : Option Break) (s : σ) :
    foldFrom f span stop s items = foldFrom g span stop s items := by
  induction items generalizing s with
  | nil => rfl
  | cons item rest ih =>
    rw [foldFrom, foldFrom, same item List.mem_cons_self]
    exact bind_congr fun next => ih (fun m hm => same m (List.mem_cons_of_mem item hm)) next

/-- An array is folded alike by steps that agree on its items. -/
theorem foldItems_congr {f g : σ → Node → Except Fault σ} {n : Node}
    (same : ∀ m ∈ n.items, ∀ s, f s m = g s m) (s : σ) : n.foldItems f s = n.foldItems g s := by
  cases n with
  | array span tooDeep items stop =>
    have run : foldFrom f span stop s items = foldFrom g span stop s items :=
      foldFrom_congr same span stop s
    rw [foldItems, foldItems, run]
  | _ => rfl

/-- A value that may be absent is what its reader answers. -/
theorem of_readOption {f : Node → Except Fault α} {n : Node} {a : α}
    (h : n.readOption f = .ok (some a)) : f n = .ok a := by
  rw [readOption.eq_def] at h
  split at h
  · cases h
  · obtain ⟨b, hb, same⟩ := map_eq_ok.mp h
    cases same
    exact hb

/-- Only the tree of `null` has the value `null`. -/
theorem eq_null_of_toJson {n : Node} (h : n.toJson = .ok .null) :
    ∃ span, n = .scalar span .null := by
  cases n with
  | scalar span value =>
    cases value with
    | null => exact ⟨span, rfl⟩
    | _ => cases h
  | array span tooDeep items stop =>
    rw [toJson] at h
    obtain ⟨_, -, h⟩ := bind_eq_ok.mp h
    obtain ⟨_, -, h⟩ := bind_eq_ok.mp h
    obtain ⟨_, -, h⟩ := bind_eq_ok.mp h
    cases h
  | object span tooDeep members stop =>
    rw [toJson] at h
    obtain ⟨_, -, h⟩ := bind_eq_ok.mp h
    obtain ⟨_, -, h⟩ := bind_eq_ok.mp h
    obtain ⟨_, -, h⟩ := bind_eq_ok.mp h
    cases h
  | unholdable start isString fault => cases h
  | broken b => cases h

/-- A dictionary is in order and holds what the reader of its parts answers. -/
theorem readDict_invariant {Q : α → Prop} {f : Node → Except Fault α} {n : Node} {d : Dict α}
    (part : ∀ m ∈ n.parts, ∀ a, f m = .ok a → Q a) (h : n.readDict f = .ok d) :
    Dict.Ordered d ∧ ∀ e ∈ d, Q e.2 := by
  cases n with
  | object span tooDeep members stop =>
    obtain ⟨_, -, h⟩ := bind_eq_ok.mp h
    obtain ⟨entries, hentries, h⟩ := bind_eq_ok.mp h
    obtain ⟨_, -, h⟩ := bind_eq_ok.mp h
    cases h
    refine foldlM_invariant (P := fun d : Dict α => Dict.Ordered d ∧ ∀ e ∈ d, Q e.2) ?_
      ⟨Dict.ordered_nil, by simp⟩ hentries
    rintro member there d d' ⟨ordered, parts⟩ hd
    obtain ⟨name, -, hd⟩ := bind_eq_ok.mp hd
    obtain ⟨a, ha, hd⟩ := bind_eq_ok.mp hd
    cases hd
    refine ⟨ordered.insert name a, fun e he => ?_⟩
    rcases Dict.eq_or_mem_of_mem_insert he with rfl | old
    · exact part _ (List.mem_map_of_mem there) a ha
    · exact parts e old
  | scalar span value => cases h
  | unholdable start isString fault => cases h
  | array span tooDeep items stop => cases h
  | broken b => cases h

/-! ### Parts without a fault -/

/-- Items that are read back one by one are read back as a list. -/
theorem foldFrom_ofSorted {f : Node → Except Fault α} {write : α → Json} {as : List α}
    (part : ∀ a ∈ as, f (ofSorted (write a)) = .ok a) (done : List α) :
    foldFrom (fun done item => (· :: done) <$> f item) none none done
      ((as.map write).map ofSorted) = .ok (as.reverse ++ done) := by
  induction as generalizing done with
  | nil => rfl
  | cons a rest ih =>
    have later := ih (fun b hb => part b (List.mem_cons_of_mem a hb)) (a :: done)
    rw [List.map_cons, List.map_cons, foldFrom, part a List.mem_cons_self, List.reverse_cons,
      List.append_assoc, List.singleton_append]
    exact later

/-- A list is read back if its items are. -/
theorem readList_ofSorted {f : Node → Except Fault α} {write : α → Json} {as : List α}
    (part : ∀ a ∈ as, f (ofSorted (write a)) = .ok a) :
    (ofSorted (.arr (as.map write))).readList f = .ok as := by
  have items := foldFrom_ofSorted part []
  rw [readList, ofSorted, ofItems_eq_map, foldItems, items]
  show Except.ok (as.reverse ++ []).reverse = _
  rw [List.append_nil, List.reverse_reverse]

/-- A list is read back from a value if its items are. -/
theorem readList_ofJson {f : Node → Except Fault α} {write : α → Json} {as : List α}
    (part : ∀ a ∈ as, (write a).read f = .ok a) :
    (ofJson (.arr (as.map write))).readList f = .ok as := by
  rw [ofJson, sorted_arr, List.map_map]
  exact readList_ofSorted part

/-- A list of strings is read back. -/
theorem readList_ofStrings (ss : List String) :
    (ofJson (.ofStrings ss)).readList readString = .ok ss :=
  readList_ofJson fun _ _ => rfl

/-- Members that are read without a fault are put into a dictionary one by one. -/
theorem foldlM_ofMembers {ι : Type} {f : Node → Except Fault α} {name : ι → String}
    {value : ι → Json} {result : ι → α} {is : List ι}
    (part : ∀ i ∈ is, f (ofSorted (value i)) = .ok (result i)) (done : Dict α) :
    (ofMembers (is.map fun i => (name i, value i))).foldlM
      (fun d member => do
        let name ← member.1.name
        return Dict.insert d name (← f member.2)) done =
      .ok ((is.map fun i => (name i, result i)).foldl (fun d e => Dict.insert d e.1 e.2) done) := by
  induction is generalizing done with
  | nil => rfl
  | cons i rest ih =>
    have later := ih (fun k hk => part k (List.mem_cons_of_mem i hk))
      (Dict.insert done (name i) (result i))
    rw [List.map_cons, ofMembers, List.foldlM_cons, List.map_cons, List.foldl_cons, ← later]
    simp only [part i List.mem_cons_self]
    rfl

/-- An object is read as the dictionary of its members if their values are read. -/
theorem readDict_ofSorted_eq_ofList {ι : Type} {f : Node → Except Fault α} {name : ι → String}
    {value : ι → Json} {result : ι → α} {is : List ι}
    (part : ∀ i ∈ is, f (ofSorted (value i)) = .ok (result i)) :
    (ofSorted (.obj (is.map fun i => (name i, value i)))).readDict f =
      .ok (Dict.ofList (is.map fun i => (name i, result i))) := by
  rw [ofSorted, readDict, foldlM_ofMembers part]
  rfl

/-- A dictionary is read back if its values are. -/
theorem readDict_ofSorted {f : Node → Except Fault α} {write : α → Json} {d : Dict α}
    (ordered : Dict.Ordered d) (part : ∀ e ∈ d, f (ofSorted (write e.2)) = .ok e.2) :
    (ofSorted (.obj (d.map fun e => (e.1, write e.2)))).readDict f = .ok d := by
  rw [readDict_ofSorted_eq_ofList part]
  show Except.ok (Dict.ofList (d.map id)) = _
  rw [List.map_id, Dict.ofList_eq_self ordered]

end Node

namespace Record

variable {δ : Type} {r : Record δ} {P : δ → Prop}

theorem readMember_invariant {member : Key × Node}
    (step : ∀ f ∈ r.fields, ∀ d d', P d → f.set d member.2 = .ok d' → P d') {d d' : δ}
    (start : P d) (h : r.readMember d member = .ok d') : P d' := by
  obtain ⟨key, n⟩ := member
  obtain ⟨name, -, h⟩ := bind_eq_ok.mp h
  cases found : r.field? name with
  | none =>
    rw [found] at h
    obtain ⟨_, -, h⟩ := bind_eq_ok.mp h
    cases h
    exact start
  | some f =>
    rw [found] at h
    dsimp only at h
    split at h
    · cases h
    · exact step f (List.mem_of_find?_eq_some found) d d' start h

theorem readItems_invariant {span : Option Span} {stop : Option Break} {fields : List (Field δ)}
    {items : List Node} {d d' : δ} {index : Nat}
    (step : ∀ f ∈ fields, ∀ n ∈ items, ∀ d d', P d → f.set d n = .ok d' → P d') (start : P d)
    (h : r.readItems span stop d index fields items = .ok d') : P d' := by
  induction fields generalizing items d index with
  | nil =>
    cases items with
    | nil =>
      cases stop with
      | none =>
        cases h
        exact start
      | some b => cases h
    | cons n items => cases h
  | cons f fields ih =>
    cases items with
    | nil =>
      rw [readItems] at h
      obtain ⟨_, -, h⟩ := bind_eq_ok.mp h
      split at h
      · cases h
        exact start
      · cases h
    | cons n items =>
      rw [readItems] at h
      obtain ⟨next, hnext, h⟩ := bind_eq_ok.mp h
      exact ih (fun g hg m hm => step g (List.mem_cons_of_mem f hg) m (List.mem_cons_of_mem n hm))
        (step f List.mem_cons_self n List.mem_cons_self d next start hnext) h

/-- What the reader of every member keeps, the reader of a record keeps, be it written as an object
or as an array. -/
theorem read_invariant {n : Node}
    (step : ∀ f ∈ r.fields, ∀ m ∈ n.parts, ∀ d d', P d → f.set d m = .ok d' → P d') {d d' : δ}
    (start : P d) (h : r.read d n = .ok d') : P d' := by
  cases n with
  | object span tooDeep members stop =>
    obtain ⟨_, -, h⟩ := bind_eq_ok.mp h
    obtain ⟨last, hlast, h⟩ := bind_eq_ok.mp h
    obtain ⟨_, -, h⟩ := bind_eq_ok.mp h
    have kept : P last :=
      foldlM_invariant (fun member there s t hs => readMember_invariant
        (fun f hf => step f hf member.2 (List.mem_map_of_mem there)) hs) start hlast
    split at h
    · cases h
    · cases h
      exact kept
  | array span tooDeep items stop =>
    obtain ⟨_, -, h⟩ := bind_eq_ok.mp h
    exact readItems_invariant step start h
  | scalar span value => cases h
  | unholdable start isString fault => cases h
  | broken b => cases h

end Record
end Blockware.Json
