import Blockware.Proofs.Dict
import Blockware.Proofs.FirstOccurrences
import Blockware.Proofs.Program.Visits

/-!
# Looking up block types

A catalog may define a type again and again, and define types that are built in. A snapshot of it
answers every question about a type, and the answers fit together.

- `Snapshot.positions`: where the definition of each id stands.
- `Snapshot.definition?_eq_getElem?`: looking a definition up by its position is looking it up by
  its id.
- `Snapshot.definition?_ofDefinitions_eq_some_iff`: the last definition of an id is found.
- `Snapshot.isSome_contract?_iff`: a type means something if it is built in or has a definition.
- `lookups_follow_last_definitions`: all lookups in the snapshot of some definitions.
-/

namespace Blockware

/-- No later definition in a list has the same id. -/
def Definition.IsLast (ds : List Definition) (d : Definition) : Prop :=
  ∃ before after, ds = before ++ d :: after ∧ ∀ e ∈ after, e.id ≠ d.id

namespace Builtin

variable {type : String}

/-- A type is a built-in exactly if it has the name of one. -/
theorem ofType?_eq_some_iff {kind : Builtin} : ofType? type = some kind ↔ kind.typeName = type := by
  constructor
  · exact typeName_of_ofType?
  · rintro rfl
    exact ofType?_typeName kind

theorem ofType?_eq_none_iff : ofType? type = none ↔ ∀ kind : Builtin, kind.typeName ≠ type := by
  simp only [Option.eq_none_iff_forall_ne_some, ne_eq, ofType?_eq_some_iff]

end Builtin

namespace Snapshot

variable {s : Snapshot} {id type : String} {d : Definition}

/-! ### Positions -/

/-- The positions of the definitions, by their ids. -/
def positions (s : Snapshot) : Dict Nat :=
  Dict.ofList (s.custom.zipIdx.map fun entry => (entry.1.id, entry.2))

/-- At the position of an id there is a definition of this id. -/
theorem exists_of_get?_positions {i : Nat} (h : s.positions.get? id = some i) :
    ∃ d, s.custom[i]? = some d ∧ d.id = id := by
  rw [positions, Dict.get?_ofList] at h
  obtain ⟨entry, found, rfl⟩ := Option.map_eq_some_iff.mp h
  have same : entry.1 = id := by simpa using List.find?_some found
  have there := List.mem_of_find?_eq_some found
  rw [List.mem_reverse, List.mem_map] at there
  obtain ⟨⟨d, i⟩, hd, rfl⟩ := there
  exact ⟨d, List.mem_zipIdx_iff_getElem?.mp hd, same⟩

/-- An id without a position is that of no definition. -/
theorem ne_of_get?_positions (h : s.positions.get? id = none) : ∀ d ∈ s.custom, d.id ≠ id := by
  intro d hd same
  obtain ⟨i, hi⟩ := List.mem_iff_getElem?.mp hd
  rw [positions, Dict.get?_ofList, Option.map_eq_none_iff, List.find?_eq_none] at h
  refine h (d.id, i) ?_ (decide_eq_true same)
  rw [List.mem_reverse, List.mem_map]
  exact ⟨(d, i), List.mem_zipIdx_iff_getElem?.mpr hi, rfl⟩

/-- Where no id stands twice, the definition at the position of an id is the one of this id. -/
theorem definition?_eq_getElem? (distinct : (s.custom.map Definition.id).Nodup) (id : String) :
    s.definition? id = (s.positions.get? id).bind fun i => s.custom[i]? := by
  cases position : s.positions.get? id with
  | none =>
    rw [definition?, Keyed.find?, List.find?_eq_none.mpr]
    · rfl
    · intro d hd same
      exact ne_of_get?_positions position d hd (of_decide_eq_true same)
  | some i =>
    obtain ⟨d, hd, rfl⟩ := exists_of_get?_positions position
    rw [Option.bind_some, hd]
    exact (Keyed.mem_iff_find?_eq_some distinct).mp (List.mem_of_getElem? hd)

/-- An id has a position exactly if it has a definition. -/
theorem isSome_get?_positions (distinct : (s.custom.map Definition.id).Nodup) (id : String) :
    (s.positions.get? id).isSome = (s.definition? id).isSome := by
  rw [definition?_eq_getElem? distinct]
  cases position : s.positions.get? id with
  | none => rfl
  | some i =>
    obtain ⟨d, hd, -⟩ := exists_of_get?_positions position
    rw [Option.bind_some, hd]
    rfl

/-! ### Definitions -/

theorem nodup_id_ofDefinitions (ds : List Definition) :
    ((ofDefinitions ds).custom.map Definition.id).Nodup :=
  Keyed.nodup_map_key_collect ds

/-- Of several definitions of an id, the last one is found. -/
theorem definition?_ofDefinitions_eq_some_iff {ds : List Definition} :
    (ofDefinitions ds).definition? id = some d ↔ d.id = id ∧ d.IsLast ds := by
  have found : (ofDefinitions ds).definition? id = ds.reverse.find? fun e => e.id = id :=
    Keyed.find?_collect
  rw [found, Keyed.find?_reverse_eq_some_iff, decide_eq_true_iff]
  refine and_congr_right ?_
  rintro rfl
  simp [Definition.IsLast]

/-- Nothing is found under an id only if there is no definition of it. -/
theorem definition?_ofDefinitions_eq_none_iff {ds : List Definition} :
    (ofDefinitions ds).definition? id = none ↔ ∀ d ∈ ds, d.id ≠ id := by
  have found : (ofDefinitions ds).definition? id = ds.reverse.find? fun e => e.id = id :=
    Keyed.find?_collect
  rw [found, List.find?_eq_none]
  simp

/-- An id has a definition in the snapshot exactly if it has one among those of which it is made. -/
theorem isSome_definition?_ofDefinitions {ds : List Definition} :
    ((ofDefinitions ds).definition? id).isSome ↔ ∃ d ∈ ds, d.id = id := by
  rw [Option.isSome_iff_ne_none, ne_eq, definition?_ofDefinitions_eq_none_iff]
  simp

/-! ### What types mean -/

/-- A type means something exactly if it is built in or has a definition. -/
theorem isSome_contract?_iff : (s.contract? type).isSome ↔
    (∃ kind : Builtin, kind.typeName = type) ∨ (s.definition? type).isSome := by
  simp only [← Builtin.ofType?_eq_some_iff, ← Option.isSome_iff_exists]
  rw [contract?]
  cases Builtin.ofType? type <;> simp

/-- A type means a definition exactly if it is told to be defined by the user. -/
theorem isUserDefined_iff : s.isUserDefined type ↔ ∃ d, s.contract? type = some (.custom d) := by
  simp only [contract?_eq_custom_iff, isUserDefined, Bool.and_eq_true, Option.isNone_iff_eq_none,
    Option.isSome_iff_exists, exists_and_left]

/-- Where a type means something, it is told to be defined by the user exactly if that is a
definition. -/
theorem isUserDefined_of_contract? {c : Contract} (h : s.contract? type = some c) :
    c.isUserDefined = s.isUserDefined type := by
  rw [Bool.eq_iff_iff, isUserDefined_iff, h]
  cases c <;> simp [Contract.isUserDefined]

end Snapshot

/-- **Lookups**: the snapshot of some definitions holds each id once, in the order of the first
definitions, and under each the last one; that one is found by its id, and so it is by its
position. A type means the built-in of its name, or else what is found under it. Whether it is
user-defined, and which category it has, is told of what it means; of an unknown type the name tells
the category. Collecting the definitions of the snapshot once more changes nothing. -/
theorem lookups_follow_last_definitions (ds : List Definition) (type : String) :
    let s := Snapshot.ofDefinitions ds
    ((s.custom.map Definition.id).Nodup ∧
      FirstOccurrences (ds.map Definition.id) (s.custom.map Definition.id) ∧
      ∀ d, d ∈ s.custom ↔ d.IsLast ds) ∧
    ((∀ d, s.definition? type = some d ↔ d.id = type ∧ d.IsLast ds) ∧
      (s.definition? type = none ↔ ∀ d ∈ ds, d.id ≠ type) ∧
      s.definition? type = (s.positions.get? type).bind fun i => s.custom[i]?) ∧
    (∀ c, s.contract? type = some c ↔
      (∃ kind : Builtin, kind.typeName = type ∧ c = .builtin kind) ∨
        ((∀ kind : Builtin, kind.typeName ≠ type) ∧
          ∃ d, s.definition? type = some d ∧ c = .custom d)) ∧
    ((s.isUserDefined type ↔ ∃ d, s.contract? type = some (.custom d)) ∧
      s.isUserDefined type =
        ((Builtin.ofType? type).isNone && (s.positions.get? type).isSome)) ∧
    s.categoryOfType type =
      ((s.contract? type).map Contract.category).getD (Category.ofTypeName type) ∧
    Definition.collect s.custom = s.custom := by
  intro s
  have distinct : (s.custom.map Definition.id).Nodup := Snapshot.nodup_id_ofDefinitions ds
  have order : FirstOccurrences (ds.map Definition.id) (s.custom.map Definition.id) := by
    show FirstOccurrences _ ((Definition.collect ds).map Definition.id)
    rw [Definition.collect, Keyed.map_key_collect]
    exact firstOccurrences_eraseDups _
  refine ⟨⟨distinct, order, fun d => Keyed.mem_collect_iff⟩, ⟨?_, ?_, ?_⟩, ?_, ⟨?_, ?_⟩, ?_, ?_⟩
  · exact fun d => Snapshot.definition?_ofDefinitions_eq_some_iff
  · exact Snapshot.definition?_ofDefinitions_eq_none_iff
  · exact Snapshot.definition?_eq_getElem? distinct type
  · intro c
    simp only [Snapshot.contract?_eq_some_iff, Builtin.ofType?_eq_some_iff,
      Builtin.ofType?_eq_none_iff, exists_and_left]
  · exact Snapshot.isUserDefined_iff
  · rw [Snapshot.isSome_get?_positions distinct, Snapshot.isUserDefined]
  · rw [Snapshot.categoryOfType]
    cases s.contract? type <;> rfl
  · exact Keyed.collect_eq_self distinct

/-- A definition that comes twice keeps its first place, and one with the name of a built-in is found
but means nothing. -/
example :
    let beep : Definition := ⟨"beep", "Beep", .loop, "#e05a00", none, [], {}⟩
    let s := Snapshot.ofDefinitions
      [beep, { beep with id := "log" }, { beep with label := "Louder" }]
    s.custom.map Definition.label = ["Louder", "Beep"] ∧ (s.definition? "log").isSome ∧
      s.isUserDefined "log" = false := by
  decide

end Blockware
