import Blockware.Param
import Blockware.Proofs.Json.Reading

/-!
# Parameters in stored data

Reading gives values in one form, and values in that form are written and read back unchanged.

- `Param.WellFormed`, `Params.WellFormed`: that form. Objects stand in key order, and a whole number
  that 64 bits do not hold is a double.
- `Param.wellFormed_of_read`, `Params.WellFormed.of_read`: what is read has it.
- `Param.read_ofSorted`, `Params.WellFormed.read_ofSorted`: what has it is read back.
- `Param.detour`, `Param.detoured`: a value that is read as a parameter and written again comes back
  as it was, but for whole numbers that are a double by then.
- `Param.height_le_of_read`: the tree of a parameter is not higher than what it was read from.
-/

namespace Blockware

namespace Param

/-- A value as reading gives it. -/
inductive WellFormed : Param → Prop where
  | integer {n : Int} (fits : n ≤ maxInteger) : WellFormed (.integer n)
  | number (x : Binary64) : WellFormed (.number x)
  | string (s : String) : WellFormed (.string s)
  | boolean (b : Bool) : WellFormed (.boolean b)
  | array {items : List Param} (parts : ∀ p ∈ items, WellFormed p) : WellFormed (.array items)
  | object {members : List (String × Param)} (ordered : Dict.Ordered members)
      (parts : ∀ m ∈ members, WellFormed m.2) : WellFormed (.object members)
  | null : WellFormed .null

/-! ### Parts -/

theorem itemsToJson_eq_map (items : List Param) : itemsToJson items = items.map toJson := by
  induction items with
  | nil => rfl
  | cons p rest ih => rw [itemsToJson, ih, List.map_cons]

theorem membersToJson_eq_map (members : List (String × Param)) :
    membersToJson members = members.map fun m => (m.1, m.2.toJson) := by
  induction members with
  | nil => rfl
  | cons m rest ih => rw [membersToJson, ih, List.map_cons]

theorem itemsOfJson_eq_map (items : List Json) : itemsOfJson items = items.map ofJson := by
  induction items with
  | nil => rfl
  | cons j rest ih => rw [itemsOfJson, ih, List.map_cons]

theorem membersOfJson_eq_foldl (done : Dict Param) (members : List (String × Json)) :
    membersOfJson done members =
      (members.map fun m => (m.1, ofJson m.2)).foldl (fun d e => d.insert e.1 e.2) done := by
  induction members generalizing done with
  | nil => rfl
  | cons m rest ih => rw [membersOfJson, ih, List.map_cons, List.foldl_cons]

theorem ofJson_arr (items : List Json) : ofJson (.arr items) = .array (items.map ofJson) := by
  rw [ofJson, itemsOfJson_eq_map]

theorem ofJson_obj (members : List (String × Json)) :
    ofJson (.obj members) = .object (Dict.ofList (members.map fun m => (m.1, ofJson m.2))) := by
  rw [ofJson, membersOfJson_eq_foldl, Dict.ofList]

/-! ### Values -/

/-- Every value that is read is in form. -/
theorem wellFormed_ofJson (j : Json) : (ofJson j).WellFormed := by
  induction j using Json.nested_induction with
  | null => exact .null
  | bool b => exact .boolean b
  | int n =>
    rw [ofJson]
    split
    · rename_i fits
      exact .integer fits
    · exact .number _
  | float x => exact .number x
  | str s => exact .string s
  | arr items ih =>
    rw [ofJson_arr]
    exact .array (List.forall_mem_map.mpr ih)
  | obj members ih =>
    rw [ofJson_obj]
    refine .object (Dict.ordered_ofList _) fun m hm => ?_
    obtain ⟨m', hm', rfl⟩ := List.mem_map.mp (Dict.mem_of_mem_ofList hm)
    exact ih m' hm'

/-- A value in form is read back. -/
theorem ofJson_toJson {p : Param} (h : p.WellFormed) : ofJson p.toJson = p := by
  induction h with
  | integer fits => exact if_pos fits
  | number x => rfl
  | string s => rfl
  | boolean b => rfl
  | @array items _ ih =>
    rw [toJson, itemsToJson_eq_map, ofJson_arr, List.map_map]
    show Param.array (items.map fun p => ofJson p.toJson) = _
    rw [List.map_congr_left ih, List.map_id']
  | @object members ordered _ ih =>
    have same : ∀ m ∈ members, (m.1, ofJson m.2.toJson) = m := fun m hm => by rw [ih m hm]
    rw [toJson, membersToJson_eq_map, ofJson_obj, List.map_map]
    show Param.object (Dict.ofList (members.map fun m => (m.1, ofJson m.2.toJson))) = _
    rw [List.map_congr_left same, List.map_id', Dict.ofList_eq_self ordered]
  | null => rfl

/-- A value in form is written with its objects in order. -/
theorem canonical_toJson {p : Param} (h : p.WellFormed) : p.toJson.Canonical := by
  induction h with
  | integer fits => exact .int _
  | number x => exact .float x
  | string s => exact .str s
  | boolean b => exact .bool b
  | array _ ih =>
    rw [toJson, itemsToJson_eq_map]
    exact .arr (List.forall_mem_map.mpr ih)
  | object ordered _ ih =>
    rw [toJson, membersToJson_eq_map]
    exact .obj (List.pairwise_map.mpr ordered) (List.forall_mem_map.mpr ih)
  | null => exact .null

theorem wellFormed_of_read {n : Json.Node} {p : Param} (h : read n = .ok p) : p.WellFormed := by
  obtain ⟨j, -, rfl⟩ := Json.map_eq_ok.mp h
  exact wellFormed_ofJson j

/-- Only `null` stands for `null`. -/
theorem eq_null_of_ofJson {j : Json} (h : ofJson j = .null) : j = .null := by
  cases j with
  | null => rfl
  | int n =>
    rw [ofJson] at h
    split at h <;> cases h
  | bool b => cases h
  | float x => cases h
  | str s => cases h
  | arr items =>
    rw [ofJson_arr] at h
    cases h
  | obj members =>
    rw [ofJson_obj] at h
    cases h

/-- A value that is read where there may be none is not `null`. -/
theorem ne_null_of_readOption {n : Json.Node} {p : Param} (h : n.readOption read = .ok (some p)) :
    p ≠ .null := by
  rintro rfl
  obtain ⟨j, hj, null⟩ := Json.map_eq_ok.mp (Json.Node.of_readOption h)
  rw [eq_null_of_ofJson null] at hj
  obtain ⟨span, rfl⟩ := Json.Node.eq_null_of_toJson hj
  cases h

/-- The members of an object may be in any order. -/
theorem ofJson_sorted (j : Json) : ofJson j.sorted = ofJson j := by
  induction j using Json.nested_induction with
  | arr items ih =>
    rw [Json.sorted_arr, ofJson_arr, ofJson_arr, List.map_map]
    exact congrArg Param.array (List.map_congr_left ih)
  | obj members ih =>
    have same : (members.map fun m => (m.1, ofJson m.2.sorted)) =
        members.map fun m => (m.1, ofJson m.2) :=
      List.map_congr_left fun m hm => by rw [ih m hm]
    rw [Json.sorted_obj, ofJson_obj, ofJson_obj, Dict.map_ofList, List.map_map,
      Dict.ofList_eq_self (Dict.ordered_ofList _)]
    exact congrArg (fun entries => Param.object (Dict.ofList entries)) same
  | _ => rfl

/-- A value is read as the parameter that it stands for. -/
theorem read_ofSorted_eq_ofJson (j : Json) : read (Json.Node.ofSorted j) = .ok (ofJson j) := by
  rw [read, Json.Node.toJson_ofSorted]
  exact congrArg Except.ok (ofJson_sorted j)

/-- An object is read as the parameters that its members stand for. -/
theorem readDict_ofSorted (members : List (String × Json)) :
    (Json.Node.ofSorted (.obj members)).readDict read =
      .ok (Dict.ofList (members.map fun m => (m.1, ofJson m.2))) := by
  have entries : (Json.Node.ofSorted (.obj (members.map fun m => (m.1, m.2)))).readDict read =
      .ok (Dict.ofList (members.map fun m => (m.1, ofJson m.2))) :=
    Json.Node.readDict_ofSorted_eq_ofList fun m _ => read_ofSorted_eq_ofJson m.2
  rwa [show (members.map fun m => (m.1, m.2)) = members from List.map_id members] at entries

/-- A value in form is read back from the tree that it is written to. -/
theorem read_ofSorted {p : Param} (h : p.WellFormed) :
    read (Json.Node.ofSorted p.toJson) = .ok p := by
  rw [read_ofSorted_eq_ofJson, ofJson_toJson h]

/-- A value in form that is not `null` is read back also where there may be none. -/
theorem readOption_ofJson {p : Param} (h : p.WellFormed) (there : p ≠ .null) :
    (Json.Node.ofJson p.toJson).readOption read = .ok (some p) := by
  have one : read (Json.Node.ofJson p.toJson) = .ok p := by
    rw [Json.Node.ofJson_eq_ofSorted (canonical_toJson h), read_ofSorted h]
  rw [Json.Node.readOption.eq_def]
  split
  · -- The tree of `null` is read as `null`.
    rename_i null
    rw [null] at one
    cases one
    exact absurd rfl there
  · rw [one]
    rfl

/-! ### Values that were a parameter -/

/-- A value after it was read as a parameter and written again. -/
def detour (j : Json) : Json := (ofJson j).toJson

theorem canonical_detour (j : Json) : (detour j).Canonical := canonical_toJson (wellFormed_ofJson j)

theorem detour_arr (items : List Json) : detour (.arr items) = .arr (items.map detour) := by
  rw [detour, ofJson_arr, toJson, itemsToJson_eq_map, List.map_map]
  rfl

/-- The members of an object in order keep their places. -/
theorem detour_obj {members : List (String × Json)} (ordered : Dict.Ordered members) :
    detour (.obj members) = .obj (members.map fun m => (m.1, detour m.2)) := by
  have same : Dict.ofList (members.map fun m => (m.1, ofJson m.2)) =
      members.map fun m => (m.1, ofJson m.2) :=
    Dict.ofList_eq_self (List.pairwise_map.mpr ordered)
  rw [detour, ofJson_obj, same, toJson, membersToJson_eq_map, List.map_map]
  rfl

/-- How a value may come out of a detour: as it was, as a double instead of a whole number, or with
parts for which the same holds. -/
inductive Detoured : Json → Json → Prop where
  | same (j : Json) : Detoured j j
  | double {n : Int} {x : Binary64} (beyond : ofJson (.int n) = .number x) :
      Detoured (.int n) (.float x)
  | arr {items : List Json} {after : Json → Json} (parts : ∀ j ∈ items, Detoured j (after j)) :
      Detoured (.arr items) (.arr (items.map after))
  | obj {members : List (String × Json)} {after : Json → Json}
      (parts : ∀ m ∈ members, Detoured m.2 (after m.2)) :
      Detoured (.obj members) (.obj (members.map fun m => (m.1, after m.2)))

/-- A detour changes nothing else. -/
theorem detoured {j : Json} (h : j.Canonical) : Detoured j (detour j) := by
  induction h with
  | int n =>
    by_cases fits : n ≤ maxInteger
    · have whole : detour (.int n) = .int n := by rw [detour, ofJson, if_pos fits, toJson]
      rw [whole]
      exact .same _
    · have double : ofJson (.int n) = .number (Binary64.ofInt n) := by rw [ofJson, if_neg fits]
      rw [detour, double]
      exact .double double
  | arr _ ih =>
    rw [detour_arr]
    exact .arr ih
  | obj ordered _ ih =>
    rw [detour_obj ordered]
    exact .obj ih
  | null => exact .same _
  | bool b => exact .same _
  | float x => exact .same _
  | str s => exact .same _

/-- As a parameter, a value is the same before and after. -/
theorem Detoured.ofJson_eq {j after : Json} (h : Detoured j after) : ofJson after = ofJson j := by
  induction h with
  | same j => rfl
  | double beyond => exact beyond.symm
  | arr _ ih =>
    rw [ofJson_arr, ofJson_arr, List.map_map]
    exact congrArg Param.array (List.map_congr_left ih)
  | obj _ ih =>
    rw [ofJson_obj, ofJson_obj, List.map_map]
    exact congrArg (fun entries => Param.object (Dict.ofList entries))
      (List.map_congr_left fun m hm => congrArg (Prod.mk m.1) (ih m hm))

/-- The tree of a value is not higher afterwards. -/
theorem Detoured.height_le {j after : Json} (h : Detoured j after) :
    (Json.Node.ofSorted after).height ≤ (Json.Node.ofSorted j).height := by
  induction h with
  | same j => exact le_rfl
  | double _ => exact le_rfl
  | @arr items after _ ih =>
    refine Json.Node.height_le_of_parts ?_
    rw [Json.Node.parts_ofSorted_arr, Json.Node.parts_ofSorted_arr, List.map_map]
    exact List.forall_mem_map.mpr fun j hj =>
      ⟨Json.Node.ofSorted j, List.mem_map_of_mem hj, ih j hj⟩
  | @obj members after _ ih =>
    refine Json.Node.height_le_of_parts ?_
    rw [Json.Node.parts_ofSorted_obj, Json.Node.parts_ofSorted_obj, List.map_map]
    exact List.forall_mem_map.mpr fun m hm =>
      ⟨Json.Node.ofSorted m.2, List.mem_map_of_mem hm, ih m hm⟩

/-- The tree of a parameter is not higher than what it was read from. -/
theorem height_le_of_read {n : Json.Node} {p : Param} (h : read n = .ok p) :
    (Json.Node.ofJson p.toJson).height ≤ n.height := by
  obtain ⟨j, hj, rfl⟩ := Json.map_eq_ok.mp h
  have canonical : j.Canonical := Json.Node.canonical_of_toJson hj
  calc (Json.Node.ofJson (detour j)).height
    _ = (Json.Node.ofSorted (detour j)).height := by
      rw [Json.Node.ofJson_eq_ofSorted (canonical_detour j)]
    _ ≤ (Json.Node.ofSorted j).height := (detoured canonical).height_le
    _ ≤ n.height := Json.Node.height_ofSorted_le_of_toJson hj

end Param

/-! ### Parameters of a block -/

/-- Parameters as reading gives them: each key once, and its value in form. -/
structure Params.WellFormed (params : Params) : Prop where
  ordered : Dict.Ordered params
  values : ∀ e ∈ params, e.2.WellFormed

namespace Params.WellFormed

theorem nil : WellFormed [] := ⟨Dict.ordered_nil, by simp⟩

theorem of_read {n : Json.Node} {params : Params} (h : n.readDict Param.read = .ok params) :
    WellFormed params := by
  obtain ⟨ordered, values⟩ :=
    Json.Node.readDict_invariant (fun _ _ _ => Param.wellFormed_of_read) h
  exact ⟨ordered, values⟩

theorem erase {params : Params} (h : WellFormed params) (key : String) :
    WellFormed (params.erase key) :=
  ⟨h.ordered.erase key, fun e he => h.values e ((Dict.erase_sublist params key).subset he)⟩

theorem canonical {params : Params} (h : WellFormed params) :
    (Param.object params).toJson.Canonical :=
  Param.canonical_toJson (.object h.ordered h.values)

/-- Parameters in form are read back from the tree that they are written to. -/
theorem read_ofSorted {params : Params} (h : WellFormed params) :
    (Json.Node.ofSorted (Param.object params).toJson).readDict Param.read = .ok params := by
  rw [Param.toJson, Param.membersToJson_eq_map]
  exact Json.Node.readDict_ofSorted h.ordered fun e he => Param.read_ofSorted (h.values e he)

end Params.WellFormed
end Blockware
