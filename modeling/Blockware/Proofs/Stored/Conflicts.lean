import Blockware.Proofs.Conflicts
import Blockware.Proofs.Keyed

/-!
# Conflicts in stored data

As JSON, the report of conflicts is an object with a member for each contested resource. A member of
an object has a name only, so a pin is told by its number and an instance by its own name, and these
may be the same.

- `Resource.toKey_eq_iff`: which resources have one name.
- `NameClash`: a pin and an instance of one name. By `nameClash_iff` there are no other two.
- `Ownership.Ordered.member?_toJson`: of two members of one name a reader finds the instance's.
- `Ownership.eq_of_member?_toJson_eq`: without such names, objects that read alike are one report.
- `stored_conflicts_are_exact`: what is kept of a report, and when nothing is lost.
- `pin_and_instance_share_a_name`: it can be lost.
-/

namespace Blockware

/-! ### Names of resources -/

namespace Resource

theorem toString_inj {m n : Nat} (h : toString m = toString n) : m = n := by
  have digits : Nat.toDigits 10 m = Nat.toDigits 10 n := by
    rw [← Nat.toList_repr, ← Nat.toList_repr]
    exact congrArg String.toList h
  rw [← Nat.ofDigitChars_ten_toDigits (n := m), digits, Nat.ofDigitChars_ten_toDigits]

/-- Two resources have one name if they are the same, or if one is an instance that is named with
the number of the other. -/
theorem toKey_eq_iff {r s : Resource} : r.toKey = s.toKey ↔ r = s ∨
    (∃ n, r = .pin n ∧ s = .bus (toString n)) ∨ ∃ n, r = .bus (toString n) ∧ s = .pin n := by
  cases r with
  | pin m =>
    cases s with
    | pin n =>
      simp only [toKey, pin.injEq, reduceCtorEq, and_false, false_and, exists_false, or_false]
      exact ⟨toString_inj, congrArg toString⟩
    | bus name => simp [toKey, eq_comm]
  | bus name =>
    cases s with
    | pin n => simp [toKey]
    | bus other => simp [toKey]

end Resource

/-- A pin and an instance that have one name. -/
def NameClash (rs : List Resource) : Prop := ∃ n, .pin n ∈ rs ∧ .bus (toString n) ∈ rs

theorem nameClash_iff {rs : List Resource} :
    NameClash rs ↔ ∃ r ∈ rs, ∃ s ∈ rs, r ≠ s ∧ r.toKey = s.toKey := by
  constructor
  · rintro ⟨n, pin, bus⟩
    exact ⟨.pin n, pin, .bus (toString n), bus, by simp, rfl⟩
  · rintro ⟨r, hr, s, hs, different, same⟩
    rcases Resource.toKey_eq_iff.mp same with equal | ⟨n, rfl, rfl⟩ | ⟨n, rfl, rfl⟩
    · exact absurd equal different
    · exact ⟨n, hr, hs⟩
    · exact ⟨n, hs, hr⟩

instance (rs : List Resource) : Decidable (NameClash rs) := decidable_of_iff' _ nameClash_iff

theorem toKey_injOn {rs : List Resource} (clear : ¬ NameClash rs) {r s : Resource} (hr : r ∈ rs)
    (hs : s ∈ rs) (same : r.toKey = s.toKey) : r = s := by
  by_contra different
  exact clear (nameClash_iff.mpr ⟨r, hr, s, hs, different, same⟩)

/-- Resources have different names exactly if no instance among them is named with the number of a
pin among them. -/
theorem nodup_map_toKey_iff {rs : List Resource} (distinct : rs.Nodup) :
    (rs.map Resource.toKey).Nodup ↔ ¬ NameClash rs := by
  constructor
  · rintro nodup ⟨n, pin, bus⟩
    have same := List.inj_on_of_nodup_map nodup pin bus rfl
    cases same
  · intro clear
    exact distinct.map_on fun r hr s hs => toKey_injOn clear hr hs

/-! ### Reading an object -/

namespace Json

/-- What a reader finds under a name is the last member of it. -/
theorem member?_obj_eq_some_iff {members : List (String × Json)} {name : String} {j : Json} :
    (Json.obj members).member? name = some j ↔
      ∃ before behind, members = before ++ (name, j) :: behind ∧ ∀ m ∈ behind, m.1 ≠ name := by
  rw [member?, Option.map_eq_some_iff]
  simp only [Keyed.find?_reverse_eq_some_iff, beq_iff_eq]
  constructor
  · rintro ⟨_, ⟨rfl, last⟩, rfl⟩
    exact last
  · intro last
    exact ⟨(name, j), ⟨rfl, last⟩, rfl⟩

theorem ofStrings_inj {ss ts : List String} (h : ofStrings ss = ofStrings ts) : ss = ts := by
  injection h with h
  exact (List.map_injective_iff.mpr fun s t same => by injection same) h

end Json

namespace Ownership

variable {o p : Ownership} {r : Resource} {ids : List String}

theorem mem_of_owners?_eq_some (h : o.owners? r = some ids) : (r, ids) ∈ o := by
  obtain ⟨entry, found, rfl⟩ := Option.map_eq_some_iff.mp h
  have same : entry.1 = r := by simpa using List.find?_some found
  rw [← same]
  exact List.mem_of_find?_eq_some found

/-- What a reader finds is what some resource of the name has. -/
theorem exists_of_member?_toJson {name : String} {j : Json} (h : o.toJson.member? name = some j) :
    ∃ entry ∈ o, entry.1.toKey = name ∧ Json.ofStrings entry.2 = j := by
  obtain ⟨before, behind, split, -⟩ := Json.member?_obj_eq_some_iff.mp h
  have there : (name, j) ∈ o.map fun entry => (entry.1.toKey, Json.ofStrings entry.2) := by
    rw [split]
    simp
  obtain ⟨entry, he, same⟩ := List.mem_map.mp there
  exact ⟨entry, he, congrArg Prod.fst same, congrArg Prod.snd same⟩

/-- A reader finds the owners of a resource, unless it is a pin and there is an instance of its
name, which comes later. -/
theorem Ordered.member?_toJson (h : Ordered o) (entry : (r, ids) ∈ o)
    (clear : ∀ n, r = .pin n → .bus (toString n) ∉ o.resources) :
    o.toJson.member? r.toKey = some (.ofStrings ids) := by
  obtain ⟨before, behind, rfl⟩ := List.append_of_mem entry
  refine Json.member?_obj_eq_some_iff.mpr ⟨_, _, by rw [List.map_append, List.map_cons], ?_⟩
  intro m hm same
  obtain ⟨e, he, rfl⟩ := List.mem_map.mp hm
  have later : r.before e.1 :=
    List.rel_of_pairwise_cons (List.pairwise_append.mp h.resources).2.1 he
  rcases Resource.toKey_eq_iff.mp same.symm with equal | ⟨n, pin, bus⟩ | ⟨n, bus, pin⟩
  · exact Resource.ne_of_before later equal
  · refine clear n pin ?_
    rw [← bus]
    exact List.mem_map_of_mem (List.mem_append_right _ (List.mem_cons_of_mem _ he))
  · -- No pin comes after an instance.
    rw [bus, pin] at later
    cases later

/-- The report as it is stored: one member for each resource, with its owners. -/
theorem Ordered.toJson_eq (h : Ordered o) : o.toJson =
    .obj (o.resources.map fun r => (r.toKey, .ofStrings ((o.owners? r).getD []))) := by
  rw [Ownership.toJson, Ownership.resources, List.map_map]
  congr 1
  refine List.map_congr_left ?_
  intro entry he
  rw [Function.comp_apply, h.owners?_eq_some he]
  rfl

/-- An entry is in every report that reads alike and has no name in common with another resource of
this one. -/
theorem Ordered.mem_of_member?_toJson_eq (ho : Ordered o)
    (clear : ¬ NameClash (o.resources ++ p.resources))
    (same : ∀ name, o.toJson.member? name = p.toJson.member? name) {e : Resource × List String}
    (he : e ∈ o) : e ∈ p := by
  obtain ⟨r, ids⟩ := e
  have here : r ∈ o.resources ++ p.resources := List.mem_append_left _ (List.mem_map_of_mem he)
  have found := ho.member?_toJson he fun n pin bus =>
    clear ⟨n, pin ▸ here, List.mem_append_left _ bus⟩
  rw [same] at found
  obtain ⟨⟨s, owners⟩, hf, key, written⟩ := exists_of_member?_toJson found
  have there : s ∈ o.resources ++ p.resources := List.mem_append_right _ (List.mem_map_of_mem hf)
  have sameOwners : owners = ids := Json.ofStrings_inj written
  rwa [toKey_injOn clear there here key, sameOwners] at hf

/-- Where no name is that of two resources, objects that read alike are one report. -/
theorem eq_of_member?_toJson_eq (ho : Ordered o) (hp : Ordered p)
    (clear : ¬ NameClash (o.resources ++ p.resources))
    (same : ∀ name, o.toJson.member? name = p.toJson.member? name) : o = p := by
  have clear' : ¬ NameClash (p.resources ++ o.resources) := by
    rintro ⟨n, pin, bus⟩
    exact clear ⟨n, List.mem_append.mpr (List.mem_append.mp pin).symm,
      List.mem_append.mpr (List.mem_append.mp bus).symm⟩
  exact eq_of_mem_iff ho hp fun e =>
    ⟨ho.mem_of_member?_toJson_eq clear same,
      hp.mem_of_member?_toJson_eq clear' fun name => (same name).symm⟩

end Ownership

/-! ### What is kept -/

/-- **A stored report is exact where no pin and instance have one name**: it has one member for each
contested resource, in order, which holds just its owners. The names of the members are all
different exactly if no contested instance is named with the number of a contested pin. A reader
finds the owners of every contested resource but of such a pin. And of reports without such names
among their resources, those that read alike are equal. -/
theorem stored_conflicts_are_exact (blocks others : List Block) :
    ((conflicts blocks).toJson = .obj ((conflicts blocks).resources.map fun r =>
      (r.toKey, .ofStrings (((conflicts blocks).owners? r).getD [])))) ∧
    (((conflicts blocks).resources.map Resource.toKey).Nodup ↔
      ¬ NameClash (conflicts blocks).resources) ∧
    (∀ r ids, (conflicts blocks).owners? r = some ids →
      (∀ n, r = .pin n → .bus (toString n) ∉ (conflicts blocks).resources) →
      (conflicts blocks).toJson.member? r.toKey = some (.ofStrings ids)) ∧
    (¬ NameClash ((conflicts blocks).resources ++ (conflicts others).resources) →
      (∀ name, (conflicts blocks).toJson.member? name = (conflicts others).toJson.member? name) →
      conflicts blocks = conflicts others) := by
  have ordered := ordered_conflicts blocks
  refine ⟨ordered.toJson_eq, nodup_map_toKey_iff ordered.nodup_resources, ?_, ?_⟩
  · intro r ids owners clear
    exact ordered.member?_toJson (Ownership.mem_of_owners?_eq_some owners) clear
  · intro clear same
    exact Ownership.eq_of_member?_toJson_eq ordered (ordered_conflicts others) clear same

/-- Two lamps on a pin and two users of a bus make a report in which both are found, and the same in
any order. -/
theorem contested_pin_and_bus_are_both_found :
    let lamp (id : String) : Block := ⟨id, "gpio_set", [("pin", .integer 5)], []⟩
    let user (id : String) : Block := ⟨id, "i2c_config", [("inst", .string "i2c1")], []⟩
    let blocks := [lamp "a", lamp "b", user "c", user "d"]
    (conflicts blocks).toJson.member? "5" = some (.ofStrings ["a", "b"]) ∧
      (conflicts blocks).toJson.member? "i2c1" = some (.ofStrings ["c", "d"]) ∧
      conflicts blocks = conflicts blocks.reverse := by
  intro lamp user blocks
  obtain ⟨-, -, found, alike⟩ := stored_conflicts_are_exact blocks blocks.reverse
  have report : conflicts blocks = [(.pin 5, ["a", "b"]), (.bus "i2c1", ["c", "d"])] := by decide
  have reversed : conflicts blocks.reverse = [(.pin 5, ["a", "b"]), (.bus "i2c1", ["c", "d"])] := by
    decide
  refine ⟨found (.pin 5) ["a", "b"] ?_ ?_, found (.bus "i2c1") ["c", "d"] ?_ ?_, alike ?_ ?_⟩
  · rw [report]
    decide
  · rintro _ ⟨⟩
    rw [report]
    decide
  · rw [report]
    decide
  · rintro _ ⟨⟩
  · rw [report, reversed]
    decide
  · intro name
    rw [report, reversed]

/-- Two lamps on a pin and two users of a bus that is named with its number: the members of both
have one name. And lamps alone and users alone of the same ids make different reports, but not as
JSON. -/
theorem pin_and_instance_share_a_name :
    let lamp (id : String) : Block := ⟨id, "gpio_set", [("pin", .integer 5)], []⟩
    let user (id : String) : Block := ⟨id, "i2c_config", [("inst", .string "5")], []⟩
    (conflicts [lamp "a", lamp "b", user "c", user "d"]).toJson =
        .obj [("5", .ofStrings ["a", "b"]), ("5", .ofStrings ["c", "d"])] ∧
      conflicts [lamp "a", lamp "b"] ≠ conflicts [user "a", user "b"] ∧
      (conflicts [lamp "a", lamp "b"]).toJson = (conflicts [user "a", user "b"]).toJson := by
  intro lamp user
  have all : conflicts [lamp "a", lamp "b", user "c", user "d"] =
      [(.pin 5, ["a", "b"]), (.bus "5", ["c", "d"])] := by decide
  have lamps : conflicts [lamp "a", lamp "b"] = [(.pin 5, ["a", "b"])] := by decide
  have users : conflicts [user "a", user "b"] = [(.bus "5", ["a", "b"])] := by decide
  refine ⟨?_, ?_, ?_⟩
  · rw [all]
    rfl
  · rw [lamps, users]
    decide
  · rw [lamps, users]
    rfl

end Blockware
