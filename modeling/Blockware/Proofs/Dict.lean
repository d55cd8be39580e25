import Blockware.Dict
import Mathlib.Data.List.Sort
import Mathlib.Data.String.Basic

/-!
# The theory of dictionaries

A dictionary is meant to hold its keys in ascending order, each once. Every dictionary that is
built key by key does.

- `Dict.Ordered`: the keys ascend.
- `Dict.Ordered.insert`, `Dict.ordered_ofList`, `Dict.Ordered.erase`: the operations keep the order.
- `Dict.ofList_eq_self`: entries in order are their own dictionary.
- `Dict.get?_ofList`: of several entries of a key, the last one is found.
- `Dict.Ordered.ext`: a dictionary is what is found in it.
- `Dict.Ordered.get?_erase_self`, `Dict.erase_ofList`: a key that is taken out is gone, and nothing
  else.
-/

namespace Blockware.Dict

variable {α : Type}

/-- The keys ascend, so each of them stands once. -/
def Ordered (d : Dict α) : Prop := d.Pairwise fun e f => e.1 < f.1

theorem ordered_nil : Ordered ([] : Dict α) := List.Pairwise.nil

theorem ordered_cons {entry : String × α} {rest : Dict α} :
    Ordered (entry :: rest) ↔ (∀ e ∈ rest, entry.1 < e.1) ∧ Ordered rest :=
  List.pairwise_cons

/-- What is in a dictionary after an insertion was there before or is what was inserted. -/
theorem eq_or_mem_of_mem_insert {d : Dict α} {key : String} {value : α} {e : String × α}
    (h : e ∈ d.insert key value) : e = (key, value) ∨ e ∈ d := by
  induction d with
  | nil => exact Or.inl (List.mem_singleton.mp h)
  | cons first rest ih =>
    obtain ⟨k, v⟩ := first
    rw [insert] at h
    split at h
    · exact List.mem_cons.mp h
    · split at h
      · exact (List.mem_cons.mp h).imp_right (List.mem_cons_of_mem _)
      · rcases List.mem_cons.mp h with rfl | later
        · exact Or.inr List.mem_cons_self
        · exact (ih later).imp_right (List.mem_cons_of_mem _)

theorem Ordered.insert {d : Dict α} (h : Ordered d) (key : String) (value : α) :
    Ordered (d.insert key value) := by
  induction d with
  | nil => exact List.pairwise_singleton _ _
  | cons first rest ih =>
    obtain ⟨k, v⟩ := first
    obtain ⟨least, later⟩ := ordered_cons.mp h
    rw [Dict.insert]
    split
    · rename_i before
      refine ordered_cons.mpr ⟨?_, h⟩
      rintro e (_ | ⟨_, he⟩)
      · exact before
      · exact before.trans (least e he)
    · split
      · rename_i same
        refine ordered_cons.mpr ⟨?_, later⟩
        rw [same]
        exact least
      · -- The new key comes after the first one, as the keys behind that do.
        rename_i notBefore notSame
        refine ordered_cons.mpr ⟨?_, ih later⟩
        intro e he
        rcases eq_or_mem_of_mem_insert he with rfl | old
        · exact lt_of_le_of_ne (not_lt.mp notBefore) (Ne.symm notSame)
        · exact least e old

theorem ordered_foldl_insert {d : Dict α} (h : Ordered d) (entries : List (String × α)) :
    Ordered (entries.foldl (fun d e => d.insert e.1 e.2) d) := by
  induction entries generalizing d with
  | nil => exact h
  | cons e rest ih => exact ih (h.insert e.1 e.2)

theorem ordered_ofList (entries : List (String × α)) : Ordered (ofList entries) :=
  ordered_foldl_insert ordered_nil entries

/-- The entries of a dictionary are among those it was made of. -/
theorem mem_of_mem_foldl_insert {entries : List (String × α)} {d : Dict α} {e : String × α}
    (h : e ∈ entries.foldl (fun d e => d.insert e.1 e.2) d) : e ∈ d ∨ e ∈ entries := by
  induction entries generalizing d with
  | nil => exact Or.inl h
  | cons first rest ih =>
    rcases ih h with old | new
    · rcases eq_or_mem_of_mem_insert old with rfl | older
      · exact Or.inr List.mem_cons_self
      · exact Or.inl older
    · exact Or.inr (List.mem_cons_of_mem first new)

theorem mem_of_mem_ofList {entries : List (String × α)} {e : String × α} (h : e ∈ ofList entries) :
    e ∈ entries := by
  rcases mem_of_mem_foldl_insert h with old | new
  · cases old
  · exact new

/-- A key behind all others is added at the end. -/
theorem insert_of_last {d : Dict α} {key : String} (value : α) (last : ∀ e ∈ d, e.1 < key) :
    d.insert key value = d ++ [(key, value)] := by
  induction d with
  | nil => rfl
  | cons first rest ih =>
    obtain ⟨k, v⟩ := first
    have before : k < key := last (k, v) List.mem_cons_self
    rw [insert, if_neg before.asymm, if_neg before.ne',
      ih fun e he => last e (List.mem_cons_of_mem _ he), List.cons_append]

/-- Entries in order that come behind all others are added as they stand. -/
theorem foldl_insert_eq_append {d entries : Dict α} (h : Ordered (d ++ entries)) :
    entries.foldl (fun d e => d.insert e.1 e.2) d = d ++ entries := by
  induction entries generalizing d with
  | nil => exact (List.append_nil d).symm
  | cons e rest ih =>
    have last : ∀ f ∈ d, f.1 < e.1 := fun f hf =>
      (List.pairwise_append.mp h).2.2 f hf e List.mem_cons_self
    have step : d.insert e.1 e.2 = d ++ [e] := insert_of_last e.2 last
    rw [List.foldl_cons, step, ih (by rwa [List.append_cons] at h), List.append_assoc,
      List.singleton_append]

/-- Entries in order are their own dictionary. -/
theorem ofList_eq_self {entries : Dict α} (h : Ordered entries) : ofList entries = entries :=
  foldl_insert_eq_append (d := []) h

/-! ### Values -/

theorem map_insert {β : Type} (g : α → β) (d : Dict α) (key : String) (value : α) :
    (d.insert key value).map (fun e => (e.1, g e.2)) =
      Dict.insert (d.map fun e => (e.1, g e.2)) key (g value) := by
  induction d with
  | nil => rfl
  | cons first rest ih =>
    obtain ⟨k, v⟩ := first
    rw [insert, List.map_cons, insert]
    split
    · rfl
    · split
      · rfl
      · rw [List.map_cons, ih]

/-- The values of a dictionary may be replaced before or after it is made. -/
theorem map_ofList {β : Type} (g : α → β) (entries : List (String × α)) :
    (ofList entries).map (fun e => (e.1, g e.2)) = ofList (entries.map fun e => (e.1, g e.2)) := by
  have run : ∀ d : Dict α,
      (entries.foldl (fun d e => d.insert e.1 e.2) d).map (fun e => (e.1, g e.2)) =
        (entries.map fun e => (e.1, g e.2)).foldl (fun d e => Dict.insert d e.1 e.2)
          (d.map fun e => (e.1, g e.2)) := by
    induction entries with
    | nil => exact fun d => rfl
    | cons e rest ih =>
      intro d
      rw [List.foldl_cons, ih, map_insert, List.map_cons, List.foldl_cons]
  exact run []

/-! ### Looking up -/

/-- What is found after inserting some entries is the last one of its key. -/
theorem get?_foldl_insert (entries : List (String × α)) (d : Dict α) (key : String) :
    (entries.foldl (fun d e => d.insert e.1 e.2) d).get? key =
      ((entries.reverse.find? fun e => e.1 = key).map Prod.snd).or (d.get? key) := by
  induction entries generalizing d with
  | nil => rfl
  | cons e rest ih =>
    -- The first entry counts only if none of the later ones has its key.
    rw [List.foldl_cons, ih, List.reverse_cons, List.find?_append, Option.map_or, Option.or_assoc]
    congr 1
    by_cases same : e.1 = key
    · rw [List.find?_singleton, if_pos (decide_eq_true same), ← same, get?_insert_self]
      rfl
    · rw [List.find?_singleton, if_neg (by simpa using same),
        get?_insert_of_ne d e.2 (Ne.symm same)]
      rfl

/-- Of several entries of a key, the last one is found. -/
theorem get?_ofList (entries : List (String × α)) (key : String) :
    (ofList entries).get? key =
      (entries.reverse.find? fun e => e.1 = key).map Prod.snd := by
  rw [ofList, get?_foldl_insert, get?_nil, Option.or_none]

/-- An entry is found if no later one has its key. -/
theorem get?_ofList_of_last {before after : List (String × α)} {key : String} (value : α)
    (last : ∀ e ∈ after, e.1 ≠ key) :
    (ofList (before ++ (key, value) :: after)).get? key = some value := by
  have later : (after.reverse.find? fun e => e.1 = key) = none := by simpa using last
  rw [ofList, List.foldl_append, List.foldl_cons, get?_foldl_insert, later, get?_insert_self]
  rfl

theorem mem_of_get? {d : Dict α} {key : String} {value : α} (h : d.get? key = some value) :
    (key, value) ∈ d := by
  induction d with
  | nil => cases h
  | cons first rest ih =>
    obtain ⟨k, v⟩ := first
    rw [get?] at h
    split at h
    · rename_i same
      cases h
      rw [same]
      exact List.mem_cons_self
    · exact List.mem_cons_of_mem _ (ih h)

theorem get?_of_mem {d : Dict α} (h : Ordered d) {e : String × α} (he : e ∈ d) :
    d.get? e.1 = some e.2 := by
  induction d with
  | nil => cases he
  | cons first rest ih =>
    obtain ⟨least, later⟩ := ordered_cons.mp h
    rw [get?]
    rcases List.mem_cons.mp he with rfl | he
    · exact if_pos rfl
    · rw [if_neg (least e he).ne', ih later he]

/-- Dictionaries in order are equal if the same is found in them. -/
theorem Ordered.ext {d e : Dict α} (hd : Ordered d) (he : Ordered e)
    (same : ∀ key, d.get? key = e.get? key) : d = e := by
  let before (x y : String × α) : Prop := x.1 < y.1
  have : Std.Irrefl before := ⟨fun x => lt_irrefl x.1⟩
  have : Std.Antisymm before := ⟨fun x y hxy hyx => absurd hyx (lt_asymm hxy)⟩
  refine List.Pairwise.eq_of_mem_iff hd he fun x => ⟨fun hx => ?_, fun hx => ?_⟩
  · exact mem_of_get? ((same x.1).symm.trans (get?_of_mem hd hx))
  · exact mem_of_get? ((same x.1).trans (get?_of_mem he hx))

/-! ### Taking out -/

theorem erase_sublist (d : Dict α) (key : String) : (d.erase key).Sublist d := by
  induction d with
  | nil => exact List.Sublist.refl []
  | cons first rest ih =>
    obtain ⟨k, v⟩ := first
    rw [erase]
    split
    · exact List.sublist_cons_self _ rest
    · exact ih.cons_cons _

theorem Ordered.erase {d : Dict α} (h : Ordered d) (key : String) : Ordered (d.erase key) :=
  h.sublist (erase_sublist d key)

theorem get?_eq_none_of_forall_ne {d : Dict α} {key : String} (h : ∀ e ∈ d, e.1 ≠ key) :
    d.get? key = none := by
  induction d with
  | nil => rfl
  | cons first rest ih =>
    obtain ⟨k, v⟩ := first
    have other : k ≠ key := h (k, v) List.mem_cons_self
    rw [get?, if_neg other.symm]
    exact ih fun e he => h e (List.mem_cons_of_mem _ he)

/-- A key that is taken out is gone, since it stood only once. -/
theorem Ordered.get?_erase_self {d : Dict α} (h : Ordered d) (key : String) :
    (d.erase key).get? key = none := by
  induction d with
  | nil => rfl
  | cons first rest ih =>
    obtain ⟨k, v⟩ := first
    obtain ⟨least, later⟩ := ordered_cons.mp h
    rw [Dict.erase]
    split
    · rename_i same
      exact get?_eq_none_of_forall_ne fun e he => by
        rw [same]
        exact (least e he).ne'
    · rename_i other
      rw [get?, if_neg other]
      exact ih later

theorem get?_erase_of_ne (d : Dict α) {key other : String} (ne : other ≠ key) :
    (d.erase key).get? other = d.get? other := by
  induction d with
  | nil => rfl
  | cons first rest ih =>
    obtain ⟨k, v⟩ := first
    rw [erase]
    split
    · rename_i same
      rw [get?, if_neg (same ▸ ne)]
    · rw [get?, get?, ih]

/-- What is left of some entries without those of a key. -/
theorem erase_ofList (entries : List (String × α)) (key : String) :
    (ofList entries).erase key = ofList (entries.filter fun e => e.1 ≠ key) := by
  refine ((ordered_ofList entries).erase key).ext (ordered_ofList _) fun other => ?_
  by_cases same : other = key
  · rw [same, (ordered_ofList entries).get?_erase_self]
    refine (get?_eq_none_of_forall_ne fun e he => ?_).symm
    simpa using List.of_mem_filter (mem_of_mem_ofList he)
  · rw [get?_erase_of_ne _ same, get?_ofList, get?_ofList, ← List.filter_reverse,
      List.find?_filter]
    congr 2
    funext e
    by_cases found : e.1 = other
    · simp [found, same]
    · simp [found]

end Blockware.Dict
