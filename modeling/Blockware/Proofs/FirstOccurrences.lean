import Blockware.Proofs.Keyed
import Mathlib.Data.List.Sort

/-!
# Lists without repetitions

A program includes each header and links each library once, however often it is asked for. What is
kept stands in the order in which it is first asked for.

- `FirstOccurrences`: what such a list is, whatever way it is made.
- `FirstOccurrences.unique`: there is no other one.
- `firstOccurrences_eraseDups`: leaving duplicates out makes it.
- `FirstOccurrences.after`, `eraseDups_append_congr`, `eraseDups_flatMap_eraseDups`: duplicates may
  be left out of a part of the list beforehand, or among those who ask.
- `map_eraseDupsBy`: elements may be told apart by keys.
- `eq_of_length_flatMap_eq`: of what such a list asks for, something is missing where an element is.
-/

namespace Blockware

variable {α : Type} [DecidableEq α]

/-- What has been asked for, without repetitions: the same elements, and of two of them the one
stands first that came up first. -/
structure FirstOccurrences (asked kept : List α) : Prop where
  mem_iff : ∀ x, x ∈ kept ↔ x ∈ asked
  inOrder : kept.Pairwise fun x y => asked.idxOf x < asked.idxOf y

namespace FirstOccurrences

variable {asked kept others : List α}

theorem eq_nil_iff (h : FirstOccurrences asked kept) : kept = [] ↔ asked = [] := by
  simp only [List.eq_nil_iff_forall_not_mem, h.mem_iff]

theorem nodup (h : FirstOccurrences asked kept) : kept.Nodup := by
  refine h.inOrder.imp ?_
  rintro x _ earlier rfl
  omega

/-- There is one such list: its elements and their order are told. -/
theorem unique (h : FirstOccurrences asked kept) (h' : FirstOccurrences asked others) :
    kept = others := by
  have : Std.Irrefl fun x y : α => asked.idxOf x < asked.idxOf y := ⟨fun x => Nat.lt_irrefl _⟩
  have : Std.Antisymm fun x y : α => asked.idxOf x < asked.idxOf y :=
    ⟨fun x y before after => absurd after (Nat.lt_asymm before)⟩
  refine h.inOrder.eq_of_mem_iff h'.inOrder ?_
  intro x
  rw [h.mem_iff, h'.mem_iff]

end FirstOccurrences

/-- Leaving duplicates out keeps the first occurrences. -/
theorem firstOccurrences_eraseDups (asked : List α) : FirstOccurrences asked asked.eraseDups := by
  refine ⟨fun x => List.mem_eraseDups, ?_⟩
  -- From the end: a further element changes no place of those before it.
  induction asked using List.reverseRecOn with
  | nil => exact List.Pairwise.nil
  | append_singleton xs x ih =>
    have place : ∀ y ∈ xs.eraseDups, (xs ++ [x]).idxOf y = xs.idxOf y := by
      intro y hy
      exact List.idxOf_append_of_mem (List.mem_eraseDups.mp hy)
    have old : xs.eraseDups.Pairwise fun y z => (xs ++ [x]).idxOf y < (xs ++ [x]).idxOf z := by
      refine ih.imp_of_mem ?_
      intro y z hy hz before
      rwa [place y hy, place z hz]
    rw [Keyed.eraseDups_append_singleton]
    split
    · exact old
    · rename_i fresh
      refine List.pairwise_append.mpr ⟨old, List.pairwise_singleton _ _, ?_⟩
      intro y hy z hz
      rw [place y hy, List.mem_singleton.mp hz, List.idxOf_append_of_notMem fresh]
      have := List.idxOf_lt_length_iff.mpr (List.mem_eraseDups.mp hy)
      omega

/-- Duplicates that have been left out of the later elements make no difference. -/
theorem eraseDups_append_eraseDups (xs ys : List α) :
    (xs ++ ys.eraseDups).eraseDups = (xs ++ ys).eraseDups := by
  induction ys using List.reverseRecOn with
  | nil => rw [List.eraseDups_nil]
  | append_singleton ys y ih =>
    rw [Keyed.eraseDups_append_singleton, ← List.append_assoc xs ys,
      Keyed.eraseDups_append_singleton (xs ++ ys)]
    by_cases known : y ∈ ys
    · rw [if_pos known, if_pos (List.mem_append_right xs known), ih]
    · rw [if_neg known, ← List.append_assoc, Keyed.eraseDups_append_singleton, ih]
      simp only [List.mem_append, List.mem_eraseDups]

/-- Duplicates that have been left out of the earlier elements make no difference either. -/
theorem eraseDups_append_congr {xs xs' : List α} (same : xs.eraseDups = xs'.eraseDups)
    (ys : List α) : (xs ++ ys).eraseDups = (xs' ++ ys).eraseDups := by
  have members : ∀ y, xs.contains y = xs'.contains y := by
    intro y
    rw [Bool.eq_iff_iff, List.contains_iff_mem, List.contains_iff_mem, ← List.mem_eraseDups, same,
      List.mem_eraseDups]
  rw [List.eraseDups_append, List.eraseDups_append, same, List.removeAll, List.removeAll]
  simp only [List.elem_eq_contains, members]

theorem eraseDups_eq_self_iff {xs : List α} : xs.eraseDups = xs ↔ xs.Nodup := by
  constructor
  · intro same
    rw [← same]
    exact Keyed.nodup_eraseDups xs
  · intro distinct
    have collected : (Keyed.collect id xs).map id = (xs.map id).eraseDups :=
      Keyed.map_key_collect xs
    rw [Keyed.collect_eq_self (by rwa [List.map_id]), List.map_id] at collected
    exact collected.symm

theorem sublist_eraseDups (xs : List α) : xs.eraseDups.Sublist xs := by
  induction xs using List.reverseRecOn with
  | nil => exact List.Sublist.refl _
  | append_singleton xs x ih =>
    rw [Keyed.eraseDups_append_singleton]
    split
    · exact ih.trans (List.sublist_append_left xs [x])
    · exact ih.append (List.Sublist.refl [x])

/-! ### Who asks -/

section Asking

variable {β : Type} [DecidableEq β]

/-- Whoever asks once more asks for nothing new. -/
theorem eraseDups_flatMap_eraseDups (f : α → List β) (xs : List α) :
    (xs.eraseDups.flatMap f).eraseDups = (xs.flatMap f).eraseDups := by
  induction xs using List.reverseRecOn with
  | nil => rfl
  | append_singleton xs x ih =>
    rw [Keyed.eraseDups_append_singleton, List.flatMap_append, List.flatMap_singleton]
    split
    · rename_i known
      have nothing : (f x).removeAll (xs.flatMap f) = [] := by
        refine List.filter_eq_nil_iff.mpr fun y hy => ?_
        simpa using ⟨x, known, hy⟩
      rw [ih, List.eraseDups_append, nothing, List.eraseDups_nil, List.append_nil]
    · rw [List.flatMap_append, List.flatMap_singleton]
      exact eraseDups_append_congr ih (f x)

theorem eraseDups_map_eraseDups (f : α → β) (xs : List α) :
    (xs.eraseDups.map f).eraseDups = (xs.map f).eraseDups := by
  rw [← List.flatMap_pure_eq_map, ← List.flatMap_pure_eq_map]
  exact eraseDups_flatMap_eraseDups (fun x => [f x]) xs

/-- Where different elements ask for different things, duplicates may be left out before or after. -/
theorem filterMap_eraseDups {f : α → Option β}
    (inj : ∀ x x' y, f x = some y → f x' = some y → x = x') (xs : List α) :
    xs.eraseDups.filterMap f = (xs.filterMap f).eraseDups := by
  induction xs using List.reverseRecOn with
  | nil => rfl
  | append_singleton xs x ih =>
    rw [Keyed.eraseDups_append_singleton, List.filterMap_append]
    cases found : f x with
    | none =>
      have nothing : [x].filterMap f = [] := by simp [found]
      rw [nothing, List.append_nil, ← ih]
      split
      · rfl
      · rw [List.filterMap_append, nothing, List.append_nil]
    | some y =>
      have itself : [x].filterMap f = [y] := by simp [found]
      have known : y ∈ xs.filterMap f ↔ x ∈ xs := by
        rw [List.mem_filterMap]
        constructor
        · rintro ⟨x', there, same⟩
          rwa [inj x x' y found same]
        · exact fun there => ⟨x, there, found⟩
      rw [itself, Keyed.eraseDups_append_singleton, ← ih]
      simp only [known]
      split
      · rfl
      · rw [List.filterMap_append, itself]

theorem filter_eraseDups (p : α → Bool) (xs : List α) :
    xs.eraseDups.filter p = (xs.filter p).eraseDups := by
  rw [← List.filterMap_eq_filter]
  refine filterMap_eraseDups ?_ xs
  intro x x' y h h'
  rw [Option.guard_eq_some_iff] at h h'
  rw [h.1, h'.1]

end Asking

section Keys

variable {α β κ : Type} [DecidableEq κ]

/-- The first elements of each key have the keys without duplicates. -/
theorem map_eraseDupsBy (key : α → κ) (xs : List α) :
    (xs.eraseDupsBy fun x y => key x == key y).map key = (xs.map key).eraseDups := by
  -- What is left of the rest is no part of it, but shorter.
  induction n : xs.length using Nat.strongRecOn generalizing xs with
  | _ n ih =>
    subst n
    cases xs with
    | nil => rfl
    | cons x rest =>
      rw [List.eraseDupsBy_cons, List.map_cons, List.map_cons, List.eraseDups_cons,
        ih _ (Nat.lt_succ_of_le (List.length_filter_le _ rest)) _ rfl, List.filter_map]
      congr 3
      refine List.filter_congr fun y _ => ?_
      rw [Bool.eq_iff_iff]
      simp

/-- Where every element brings something, a list that brings as much as a part of it is that part. -/
theorem eq_of_length_flatMap_eq {f : α → List β} {part whole : List α} (sub : part.Sublist whole)
    (brings : ∀ x ∈ whole, f x ≠ [])
    (same : (whole.flatMap f).length = (part.flatMap f).length) : whole = part := by
  have missing : (part.flatMap f).length + whole.length ≤ (whole.flatMap f).length + part.length := by
    clear same
    induction sub with
    | slnil => exact Nat.le_refl _
    | cons x sub ih =>
      have own := List.length_pos_iff.mpr (brings x List.mem_cons_self)
      have later := ih fun y hy => brings y (List.mem_cons_of_mem x hy)
      rw [List.flatMap_cons, List.length_append, List.length_cons]
      omega
    | cons_cons x sub ih =>
      have later := ih fun y hy => brings y (List.mem_cons_of_mem x hy)
      rw [List.flatMap_cons, List.flatMap_cons, List.length_append, List.length_append,
        List.length_cons, List.length_cons]
      omega
  exact (sub.eq_of_length_le (by omega)).symm

end Keys

namespace FirstOccurrences

variable {asked kept : List α}

theorem eq_eraseDups (h : FirstOccurrences asked kept) : kept = asked.eraseDups :=
  h.unique (firstOccurrences_eraseDups asked)

/-- Elements that are asked for before may be put before those that are kept already. -/
theorem after {earlier all : List α} (h : FirstOccurrences asked kept)
    (h' : FirstOccurrences (earlier ++ kept) all) : FirstOccurrences (earlier ++ asked) all := by
  rw [h'.eq_eraseDups, h.eq_eraseDups, eraseDups_append_eraseDups]
  exact firstOccurrences_eraseDups (earlier ++ asked)

/-- What is asked for first stands first. -/
theorem head?_eq {first : α} {later : List α} (h : FirstOccurrences (first :: later) kept) :
    kept.head? = some first := by
  rw [h.eq_eraseDups, List.eraseDups_cons, List.head?_cons]

end FirstOccurrences
end Blockware
