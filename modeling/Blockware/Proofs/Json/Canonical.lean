import Blockware.Json.Node
import Blockware.Proofs.Dict

/-!
# Canonical JSON values

A value whose objects stand in key order is the value that its tree stands for.

- `Json.nested_induction`: induction over a value, with a hypothesis for each of its parts.
- `Json.Canonical`: the members of every object stand in key order, each name once.
- `Json.canonical_sorted`, `Json.Canonical.sorted_eq_self`: sorting makes values canonical and
  leaves canonical ones alone.
- `Json.member?_sorted`: sorting keeps what is found under a name.
- `Json.Node.toJson_ofJson`: the value of the tree of a value is the value, sorted.
-/

namespace Blockware.Json

/-- Induction over a value: an array has items, and an object has members. -/
@[elab_as_elim]
theorem nested_induction {motive : Json → Prop} (null : motive .null)
    (bool : ∀ b, motive (.bool b)) (int : ∀ n, motive (.int n)) (float : ∀ x, motive (.float x))
    (str : ∀ s, motive (.str s)) (arr : ∀ items, (∀ j ∈ items, motive j) → motive (.arr items))
    (obj : ∀ members, (∀ m ∈ members, motive m.2) → motive (.obj members)) : ∀ j, motive j
  | .null => null
  | .bool b => bool b
  | .int n => int n
  | .float x => float x
  | .str s => str s
  | .arr items =>
    arr items fun j hj =>
      have := List.sizeOf_lt_of_mem hj
      nested_induction null bool int float str arr obj j
  | .obj members =>
    obj members fun m hm =>
      have := List.sizeOf_lt_of_mem hm
      have : sizeOf m.2 < sizeOf m := by
        obtain ⟨name, j⟩ := m
        simp
      nested_induction null bool int float str arr obj m.2

/-- The members of every object stand in key order, each name once. -/
inductive Canonical : Json → Prop where
  | null : Canonical .null
  | bool (b : Bool) : Canonical (.bool b)
  | int (n : Int) : Canonical (.int n)
  | float (x : Binary64) : Canonical (.float x)
  | str (s : String) : Canonical (.str s)
  | arr {items : List Json} (parts : ∀ j ∈ items, Canonical j) : Canonical (.arr items)
  | obj {members : List (String × Json)} (ordered : Dict.Ordered members)
      (parts : ∀ m ∈ members, Canonical m.2) : Canonical (.obj members)

/-! ### Sorting -/

theorem sortedItems_eq_map (items : List Json) : sortedItems items = items.map sorted := by
  induction items with
  | nil => rfl
  | cons j rest ih => rw [sortedItems, ih, List.map_cons]

theorem sortedMembers_eq_foldl (done : Dict Json) (members : List (String × Json)) :
    sortedMembers done members =
      (members.map fun m => (m.1, m.2.sorted)).foldl (fun d e => d.insert e.1 e.2) done := by
  induction members generalizing done with
  | nil => rfl
  | cons m rest ih => rw [sortedMembers, ih, List.map_cons, List.foldl_cons]

theorem sorted_arr (items : List Json) : (Json.arr items).sorted = .arr (items.map sorted) := by
  rw [sorted, sortedItems_eq_map]

/-- A sorted object is the dictionary of its sorted members. -/
theorem sorted_obj (members : List (String × Json)) :
    (Json.obj members).sorted = .obj (Dict.ofList (members.map fun m => (m.1, m.2.sorted))) := by
  rw [sorted, sortedMembers_eq_foldl, Dict.ofList]

theorem canonical_sorted (j : Json) : j.sorted.Canonical := by
  induction j using nested_induction with
  | null => exact .null
  | bool b => exact .bool b
  | int n => exact .int n
  | float x => exact .float x
  | str s => exact .str s
  | arr items ih =>
    rw [sorted_arr]
    exact .arr (List.forall_mem_map.mpr ih)
  | obj members ih =>
    rw [sorted_obj]
    refine .obj (Dict.ordered_ofList _) fun m hm => ?_
    obtain ⟨m', hm', rfl⟩ := List.mem_map.mp (Dict.mem_of_mem_ofList hm)
    exact ih m' hm'

theorem Canonical.sorted_eq_self {j : Json} (h : Canonical j) : j.sorted = j := by
  induction h with
  | null => rfl
  | bool b => rfl
  | int n => rfl
  | float x => rfl
  | str s => rfl
  | arr _ ih =>
    rw [sorted_arr, List.map_congr_left ih, List.map_id']
  | @obj members ordered _ ih =>
    have same : ∀ m ∈ members, (m.1, m.2.sorted) = m := fun m hm => by rw [ih m hm]
    rw [sorted_obj, List.map_congr_left same, List.map_id', Dict.ofList_eq_self ordered]

/-- The member of a name is what a dictionary of the members has for it. -/
theorem member?_obj (members : List (String × Json)) (name : String) :
    (Json.obj members).member? name = (Dict.ofList members).get? name :=
  (Dict.get?_ofList members name).symm

/-- Sorting keeps the member of a name. -/
theorem member?_sorted (j : Json) (name : String) :
    j.sorted.member? name = (j.member? name).map sorted := by
  cases j with
  | obj members =>
    let entries := members.map fun m => (m.1, m.2.sorted)
    calc (Json.obj members).sorted.member? name
      _ = (Dict.ofList (Dict.ofList entries)).get? name := by rw [sorted_obj, member?_obj]
      _ = (Dict.ofList entries).get? name := by
        rw [Dict.ofList_eq_self (Dict.ordered_ofList entries)]
      _ = ((Json.obj members).member? name).map sorted := by
        rw [Dict.get?_ofList, member?, ← List.map_reverse, List.find?_map, Option.map_map,
          Option.map_map]
        rfl
  | _ => rfl

/-! ### Trees -/

namespace Node

theorem ofItems_eq_map (items : List Json) : ofItems items = items.map ofSorted := by
  induction items with
  | nil => rfl
  | cons j rest ih => rw [ofItems, ih, List.map_cons]

theorem itemsToJson_ofItems {items : List Json}
    (h : ∀ j ∈ items, (ofSorted j).toJson = .ok j.sorted) :
    itemsToJson (ofItems items) = .ok (items.map sorted) := by
  induction items with
  | nil => rfl
  | cons j rest ih =>
    have first := h j List.mem_cons_self
    have later := ih fun k hk => h k (List.mem_cons_of_mem j hk)
    rw [ofItems, itemsToJson, first, later]
    rfl

theorem membersToJson_ofMembers {members : List (String × Json)}
    (h : ∀ m ∈ members, (ofSorted m.2).toJson = .ok m.2.sorted) :
    membersToJson (ofMembers members) = .ok (members.map fun m => (m.1, m.2.sorted)) := by
  induction members with
  | nil => rfl
  | cons m rest ih =>
    have first := h m List.mem_cons_self
    have later := ih fun k hk => h k (List.mem_cons_of_mem m hk)
    rw [ofMembers, membersToJson, first, later]
    rfl

/-- The value of a tree that was made of a value as it stands. -/
theorem toJson_ofSorted (j : Json) : (ofSorted j).toJson = .ok j.sorted := by
  induction j using nested_induction with
  | arr items ih =>
    rw [ofSorted, toJson, itemsToJson_ofItems ih, sorted_arr]
    rfl
  | obj members ih =>
    rw [ofSorted, toJson, membersToJson_ofMembers ih, sorted_obj]
    rfl
  | _ => rfl

/-- A canonical value is the value of its tree. -/
theorem toJson_ofSorted_of_canonical {j : Json} (h : Canonical j) :
    (ofSorted j).toJson = .ok j := by
  rw [toJson_ofSorted, h.sorted_eq_self]

/-- The value of the tree of a value is the value with its objects in order. -/
theorem toJson_ofJson (j : Json) : (ofJson j).toJson = .ok j.sorted :=
  toJson_ofSorted_of_canonical (canonical_sorted j)

theorem ofJson_eq_ofSorted {j : Json} (h : Canonical j) : ofJson j = ofSorted j := by
  rw [ofJson, h.sorted_eq_self]

end Node
end Blockware.Json
