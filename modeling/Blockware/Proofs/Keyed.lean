import Blockware.Keyed
import Mathlib.Data.List.Basic
import Mathlib.Data.List.Induction

/-!
# The theory of lists with one element per key

What putting elements one after the other does to the keys, and to the elements that pass a test.

- `mem_map_key_collect`, `nodup_map_key_collect`: the keys of a collected list are those of its
  source, each once.
- `map_key_collect`, `mem_collect_iff`: it has them in the order in which they come up first, each
  with the last element that the source has for it.
- `collect_eq_self`: collecting once more changes nothing.
- `collect_eq_eraseDups`: where keys tell their elements, collecting leaves duplicates out.
- `find?_reverse_eq_some_iff`: what is found from the end of a list.
- `mem_eraseDups_split_iff`: what stands before a key is what came up before it.
- `filter_foldl_put_perm`: elements that pass a test and have keys of their own are all kept,
  however many elements that fail it they replace.
-/

namespace Blockware.Keyed

variable {α κ : Type} [DecidableEq κ] {key : α → κ}

/-! ### Keys -/

/-- Putting an element adds its key at the end, unless the key is there already. -/
theorem map_key_put (xs : List α) (x : α) :
    (put key xs x).map key =
      if key x ∈ xs.map key then xs.map key else xs.map key ++ [key x] := by
  induction xs with
  | nil => rfl
  | cons y rest ih =>
    by_cases same : key y = key x
    · simp [put, same]
    · rw [put, if_neg same, List.map_cons, ih, List.map_cons]
      have apart : key x ∈ key y :: rest.map key ↔ key x ∈ rest.map key := by
        simp [Ne.symm same]
      by_cases there : key x ∈ rest.map key
      · rw [if_pos there, if_pos (apart.mpr there)]
      · rw [if_neg there, if_neg fun h => there (apart.mp h), List.cons_append]

theorem mem_map_key_put {xs : List α} {x : α} {k : κ} :
    k ∈ (put key xs x).map key ↔ k ∈ xs.map key ∨ k = key x := by
  rw [map_key_put]
  split
  · constructor
    · exact Or.inl
    · rintro (h | rfl)
      · exact h
      · assumption
  · rw [List.mem_append, List.mem_singleton]

theorem nodup_map_key_put {xs : List α} (x : α) (h : (xs.map key).Nodup) :
    ((put key xs x).map key).Nodup := by
  rw [map_key_put]
  split
  · exact h
  · rename_i fresh
    rw [List.nodup_append]
    refine ⟨h, by simp, ?_⟩
    rintro k hk _ hx rfl
    rw [List.mem_singleton] at hx
    exact fresh (hx ▸ hk)

/-- The keys after putting some elements are the keys before and those of the elements. -/
theorem mem_map_key_foldl_put {ys acc : List α} {k : κ} :
    k ∈ (ys.foldl (put key) acc).map key ↔ k ∈ acc.map key ∨ k ∈ ys.map key := by
  induction ys generalizing acc with
  | nil => simp
  | cons y rest ih =>
    rw [List.foldl_cons, ih, mem_map_key_put, List.map_cons, List.mem_cons, or_assoc]

theorem nodup_map_key_foldl_put {acc : List α} (ys : List α) (h : (acc.map key).Nodup) :
    ((ys.foldl (put key) acc).map key).Nodup := by
  induction ys generalizing acc with
  | nil => exact h
  | cons y rest ih => exact ih (nodup_map_key_put y h)

/-- A further element is put into what is collected before it. -/
theorem collect_append_singleton (xs : List α) (x : α) :
    collect key (xs ++ [x]) = put key (collect key xs) x := by
  rw [collect, List.foldl_append]
  rfl

/-- Collecting loses no key and adds none. -/
theorem mem_map_key_collect {xs : List α} {k : κ} :
    k ∈ (collect key xs).map key ↔ k ∈ xs.map key := by
  rw [collect, mem_map_key_foldl_put]
  simp

/-- Collecting leaves each key once. -/
theorem nodup_map_key_collect (xs : List α) : ((collect key xs).map key).Nodup :=
  nodup_map_key_foldl_put xs List.nodup_nil

/-- A further element is kept unless it is there already. -/
theorem eraseDups_append_singleton (ks : List κ) (k : κ) :
    (ks ++ [k]).eraseDups = if k ∈ ks then ks.eraseDups else ks.eraseDups ++ [k] := by
  rw [List.eraseDups_append]
  by_cases there : k ∈ ks
  · have nothing : [k].removeAll ks = [] := List.filter_cons_of_neg (by simpa using there)
    rw [if_pos there, nothing, List.eraseDups_nil, List.append_nil]
  · have itself : [k].removeAll ks = [k] := List.filter_cons_of_pos (by simpa using there)
    rw [if_neg there, itself]
    rfl

/-- Collecting leaves each key in the place where it was first. -/
theorem map_key_collect (xs : List α) : (collect key xs).map key = (xs.map key).eraseDups := by
  induction xs using List.reverseRecOn with
  | nil => rfl
  | append_singleton xs x ih =>
    rw [collect_append_singleton, map_key_put, ih, List.map_append, List.map_singleton,
      eraseDups_append_singleton]
    simp only [List.mem_eraseDups]

/-- An element with a key of its own is put at the end. -/
theorem put_of_fresh {xs : List α} {x : α} (fresh : key x ∉ xs.map key) :
    put key xs x = xs ++ [x] := by
  induction xs with
  | nil => rfl
  | cons y rest ih =>
    rw [List.map_cons, List.mem_cons, not_or] at fresh
    rw [put, if_neg (Ne.symm fresh.1), ih fresh.2, List.cons_append]

/-- A list with each key once is collected already. -/
theorem collect_eq_self {xs : List α} (distinct : (xs.map key).Nodup) : collect key xs = xs := by
  induction xs using List.reverseRecOn with
  | nil => rfl
  | append_singleton xs x ih =>
    rw [List.map_append, List.nodup_append] at distinct
    have fresh : key x ∉ xs.map key := fun there =>
      distinct.2.2 (key x) there (key x) List.mem_cons_self rfl
    rw [collect_append_singleton, ih distinct.1, put_of_fresh fresh]

/-! ### Lists without duplicates -/

/-- Elements with themselves as keys are collected by leaving duplicates out. -/
theorem nodup_eraseDups (ks : List κ) : ks.eraseDups.Nodup := by
  have h : ((collect id ks).map id).Nodup := nodup_map_key_collect ks
  rwa [map_key_collect, List.map_id] at h

/-- Without duplicates, lists of the same elements differ in their order only. -/
theorem eraseDups_perm {ks ls : List κ} (same : ∀ k, k ∈ ks ↔ k ∈ ls) :
    ks.eraseDups.Perm ls.eraseDups := by
  rw [List.perm_ext_iff_of_nodup (nodup_eraseDups ks) (nodup_eraseDups ls)]
  intro k
  rw [List.mem_eraseDups, List.mem_eraseDups, same]

/-- Of equal elements one is left. -/
theorem eraseDups_of_forall_eq {ks : List κ} {k : κ} (h : ∀ l ∈ ks, l = k) :
    ks.eraseDups = if ks = [] then [] else [k] := by
  cases ks with
  | nil => rfl
  | cons l rest =>
    have same : l = k := h l List.mem_cons_self
    have nothing : rest.filter (fun m => !m == l) = [] := by
      refine List.filter_eq_nil_iff.mpr fun m hm => ?_
      simp [same, h m (List.mem_cons_of_mem l hm)]
    rw [List.eraseDups_cons, nothing, same]
    rfl

/-- An element that is there already is put into its own place. -/
theorem put_of_mem {xs : List α} {x : α} (distinct : (xs.map key).Nodup) (there : x ∈ xs) :
    put key xs x = xs := by
  induction xs with
  | nil => cases there
  | cons y rest ih =>
    rw [List.map_cons, List.nodup_cons] at distinct
    rw [put]
    rcases List.mem_cons.mp there with rfl | later
    · rw [if_pos rfl]
    · have apart : key y ≠ key x := fun same => distinct.1 (same ▸ List.mem_map_of_mem later)
      rw [if_neg apart, ih distinct.2 later]

/-- Where keys tell their elements, collecting leaves duplicates out and does nothing else. -/
theorem collect_eq_eraseDups [DecidableEq α] {xs : List α}
    (told : ∀ x ∈ xs, ∀ y ∈ xs, key x = key y → x = y) : collect key xs = xs.eraseDups := by
  induction xs using List.reverseRecOn with
  | nil => rfl
  | append_singleton xs x ih =>
    have earlier := ih fun y hy z hz =>
      told y (List.mem_append_left _ hy) z (List.mem_append_left _ hz)
    rw [collect_append_singleton, eraseDups_append_singleton]
    split
    · rename_i there
      rw [put_of_mem (nodup_map_key_collect xs) (by rwa [earlier, List.mem_eraseDups]), earlier]
    · rename_i fresh
      rw [put_of_fresh, earlier]
      intro taken
      obtain ⟨y, hy, same⟩ := List.mem_map.mp (mem_map_key_collect.mp taken)
      have equal := told y (List.mem_append_left _ hy) x (by simp) same
      exact fresh (equal ▸ hy)

/-- Before an element and at it are those that come up first no later than it does. -/
theorem mem_eraseDups_split_iff {ks before after : List κ} {j k : κ}
    (h : ks.eraseDups = before ++ k :: after) :
    j ∈ before ++ [k] ↔ ks.idxOf j ≤ ks.idxOf k := by
  have there : k ∈ ks := by
    rw [← List.mem_eraseDups, h]
    simp
  obtain ⟨front, back, rfl, fresh⟩ := List.eq_append_cons_of_mem there
  -- What comes up before the first `k` is what stands before the one that is left.
  have same : before = front.eraseDups := by
    have distinct := nodup_eraseDups (front ++ k :: back)
    rw [h] at distinct
    have notBefore : k ∉ before := fun hk =>
      (List.nodup_append.mp distinct).2.2 k hk k List.mem_cons_self rfl
    have notAfter : k ∉ after := (List.nodup_cons.mp (List.nodup_append.mp distinct).2.1).1
    have first : (k :: back).removeAll front = k :: back.removeAll front :=
      List.filter_cons_of_pos (by simpa using fresh)
    rw [List.eraseDups_append, first, List.eraseDups_cons] at h
    exact ((List.append_cons_inj_of_notMem notBefore notAfter).mp h.symm).1
  have place : (front ++ k :: back).idxOf k = front.length := by
    rw [List.idxOf_append_of_notMem fresh, List.idxOf_cons_self, Nat.add_zero]
  rw [place, same, List.mem_append, List.mem_eraseDups, List.mem_singleton]
  by_cases early : j ∈ front
  · have := List.idxOf_lt_length_iff.mpr early
    simp only [early, true_or, true_iff, List.idxOf_append_of_mem early]
    omega
  · rw [List.idxOf_append_of_notMem early, List.idxOf_cons]
    by_cases itself : k = j
    · simp [itself]
    · simp [early, Ne.symm itself, beq_eq_false_iff_ne.mpr itself]

/-! ### Elements -/

theorem mem_of_mem_put {xs : List α} {x y : α} (h : y ∈ put key xs x) : y ∈ xs ∨ y = x := by
  induction xs with
  | nil => exact Or.inr (List.mem_singleton.mp h)
  | cons z rest ih =>
    rw [put] at h
    split at h
    · rcases List.mem_cons.mp h with rfl | old
      · exact Or.inr rfl
      · exact Or.inl (List.mem_cons_of_mem z old)
    · rcases List.mem_cons.mp h with rfl | new
      · exact Or.inl List.mem_cons_self
      · exact (ih new).imp_left (List.mem_cons_of_mem z)

/-- Putting elements makes none up. -/
theorem mem_of_mem_foldl_put {ys acc : List α} {x : α} (h : x ∈ ys.foldl (put key) acc) :
    x ∈ acc ∨ x ∈ ys := by
  induction ys generalizing acc with
  | nil => exact Or.inl h
  | cons y rest ih =>
    rcases ih h with old | new
    · rcases mem_of_mem_put old with old | rfl
      · exact Or.inl old
      · exact Or.inr List.mem_cons_self
    · exact Or.inr (List.mem_cons_of_mem y new)

theorem mem_of_mem_collect {xs : List α} {x : α} (h : x ∈ collect key xs) : x ∈ xs := by
  rcases mem_of_mem_foldl_put h with old | new
  · simp at old
  · exact new

/-! ### Looking up -/

/-- What is found after putting some elements is the last one of its key. -/
theorem find?_foldl_put {ys acc : List α} {k : κ} :
    find? key k (ys.foldl (put key) acc) =
      (ys.reverse.find? fun y => key y = k).or (find? key k acc) := by
  induction ys generalizing acc with
  | nil => rfl
  | cons y rest ih =>
    -- The first element counts only if none of the later ones has its key.
    rw [List.foldl_cons, ih, List.reverse_cons, List.find?_append, Option.or_assoc]
    congr 1
    by_cases same : key y = k
    · rw [List.find?_singleton, if_pos (decide_eq_true same), ← same, find?_put_self]
      rfl
    · rw [List.find?_singleton, if_neg (by simpa using same),
        find?_put_of_ne key acc (Ne.symm same)]
      rfl

/-- Of several elements of a key, the last one is found. -/
theorem find?_collect {xs : List α} {k : κ} :
    find? key k (collect key xs) = xs.reverse.find? fun x => key x = k := by
  rw [collect, find?_foldl_put, find?, List.find?_nil, Option.or_none]

theorem mem_iff_find?_eq_some {xs : List α} {x : α} (h : (xs.map key).Nodup) :
    x ∈ xs ↔ find? key (key x) xs = some x := by
  constructor
  · intro hx
    induction xs with
    | nil => simp at hx
    | cons y rest ih =>
      rw [List.map_cons, List.nodup_cons] at h
      rcases List.mem_cons.mp hx with rfl | later
      · simp [find?]
      · have apart : key y ≠ key x := fun same => h.1 (same ▸ List.mem_map_of_mem later)
        simpa [find?, apart] using ih h.2 later
  · exact List.mem_of_find?_eq_some

/-- The first element from the end that passes a test is the one behind which none does. -/
theorem find?_reverse_eq_some_iff {p : α → Bool} {xs : List α} {x : α} :
    xs.reverse.find? p = some x ↔
      p x ∧ ∃ before after, xs = before ++ x :: after ∧ ∀ y ∈ after, ¬ p y := by
  rw [List.find?_eq_some_iff_append]
  refine and_congr_right fun _ => ?_
  constructor
  · rintro ⟨later, earlier, split, others⟩
    refine ⟨earlier.reverse, later.reverse, ?_, ?_⟩
    · rw [← List.reverse_reverse xs, split]
      simp
    · intro y hy
      simpa using others y (List.mem_reverse.mp hy)
  · rintro ⟨before, after, rfl, others⟩
    refine ⟨after.reverse, before.reverse, by simp, ?_⟩
    intro y hy
    simpa using others y (List.mem_reverse.mp hy)

/-- A collected list keeps the last element of each key, and nothing else. -/
theorem mem_collect_iff {xs : List α} {x : α} :
    x ∈ collect key xs ↔
      ∃ before after, xs = before ++ x :: after ∧ ∀ y ∈ after, key y ≠ key x := by
  rw [mem_iff_find?_eq_some (nodup_map_key_collect xs), find?_collect, find?_reverse_eq_some_iff]
  simp

/-! ### Elements that pass a test -/

/-- An element that passes a test is added to those that pass it, as long as none of them has its
key: what it replaces failed the test. -/
theorem filter_put_perm {p : α → Bool} {xs : List α} {x : α} (hx : p x)
    (fresh : ∀ y ∈ xs, p y → key y ≠ key x) :
    ((put key xs x).filter p).Perm (xs.filter p ++ [x]) := by
  induction xs with
  | nil => simp [put, hx]
  | cons y rest ih =>
    by_cases same : key y = key x
    · have fails : ¬ p y := fun hy => fresh y List.mem_cons_self hy same
      rw [put, if_pos same, List.filter_cons_of_pos hx, List.filter_cons_of_neg fails]
      exact (List.perm_append_singleton x _).symm
    · have step := ih fun z hz => fresh z (List.mem_cons_of_mem y hz)
      rw [put, if_neg same]
      by_cases hy : p y
      · rw [List.filter_cons_of_pos hy, List.filter_cons_of_pos hy]
        exact step.cons y
      · rw [List.filter_cons_of_neg hy, List.filter_cons_of_neg hy]
        exact step

/-- Elements that pass a test and have keys of their own are kept, each once. -/
theorem filter_foldl_put_perm {p : α → Bool} {ys acc : List α} (hp : ∀ y ∈ ys, p y)
    (distinct : (ys.map key).Nodup) (fresh : ∀ x ∈ acc, p x → key x ∉ ys.map key) :
    ((ys.foldl (put key) acc).filter p).Perm (acc.filter p ++ ys) := by
  induction ys generalizing acc with
  | nil => simp
  | cons y rest ih =>
    rw [List.map_cons, List.nodup_cons] at distinct
    have hy : p y := hp y List.mem_cons_self
    have step : ((put key acc y).filter p).Perm (acc.filter p ++ [y]) :=
      filter_put_perm hy fun x hx px same => fresh x hx px (by simp [same])
    -- The list that the rest is put into must be free of its keys again, where the test passes.
    have later : ∀ x ∈ put key acc y, p x → key x ∉ rest.map key := by
      intro x hx px
      have kept : x ∈ acc.filter p ++ [y] := step.subset (List.mem_filter.mpr ⟨hx, px⟩)
      rcases List.mem_append.mp kept with old | new
      · have old := List.mem_filter.mp old
        exact fun h => fresh x old.1 old.2 (List.mem_cons_of_mem _ h)
      · rw [List.mem_singleton.mp new]
        exact distinct.1
    have rest := ih (fun z hz => hp z (List.mem_cons_of_mem y hz)) distinct.2 later
    rw [List.foldl_cons]
    refine rest.trans ?_
    simpa using step.append_right _

end Blockware.Keyed
