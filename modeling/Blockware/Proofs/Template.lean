import Blockware.Proofs.FirstOccurrences
import Blockware.Template
import Mathlib.Algebra.Order.BigOperators.Group.List
import Mathlib.Algebra.Order.Ring.Nat

/-!
# The theory of templates

A template is read from the left, and what a placeholder covers is not looked at again. Nothing is
missed by that: no placeholder begins within another one, so wherever one stands it is found.

- `Occurs`: a placeholder stands at a place, by the characters there and nothing else.
- `Occurs.not_within`: placeholders never overlap.
- `scan_append`: a text may be cut wherever no placeholder is cut through.
- `IsSplit`, `isSplit_iff`: the pieces of a template are the only way to take it apart into all its
  placeholders and the characters between them.
- `fill_congr`, `exists_fill_insert_ne`: what is filled in depends on the named parameters, and on
  each of them.
- `template_is_filled_piece_by_piece`: all of this together.
-/

namespace Blockware.Template

/-- What may stand between the braces of a placeholder. -/
def IsName (name : List Char) : Prop := name ≠ [] ∧ ∀ c ∈ name, Text.isWord c

instance (name : List Char) : Decidable (IsName name) :=
  decidable_of_iff (name ≠ [] ∧ name.all Text.isWord) (by rw [IsName, List.all_eq_true])

/-- A placeholder begins at a place of some characters. -/
def Occurs (cs : List Char) (start : Nat) (name : List Char) : Prop :=
  IsName name ∧ (Piece.hole name).source <+: cs.drop start

instance (cs : List Char) (start : Nat) (name : List Char) : Decidable (Occurs cs start name) :=
  inferInstanceAs (Decidable (_ ∧ _))

/-- No placeholder is cut through between some characters and others. -/
def CutsClean (a b : List Char) : Prop :=
  ∀ start name, Occurs (a ++ b) start name →
    start + (Piece.hole name).source.length ≤ a.length ∨ a.length ≤ start

/-- Pieces take some characters apart: in order they are these characters, and their placeholders
are those that stand there, each at its place. -/
structure IsSplit (cs : List Char) (ps : List Piece) : Prop where
  source : ps.flatMap Piece.source = cs
  isName : ∀ name, .hole name ∈ ps → IsName name
  finds : ∀ start name, Occurs cs start name → ∃ before after,
    ps = before ++ .hole name :: after ∧ (before.flatMap Piece.source).length = start

/-! ### Placeholders -/

theorem length_source_hole (name : List Char) :
    (Piece.hole name).source.length = name.length + 3 := by
  simp [Piece.source]

theorem source_ne_nil (p : Piece) : p.source ≠ [] := by
  cases p <;> simp [Piece.source]

theorem not_isWord_dollar : Text.isWord '$' = false := by decide

theorem not_isWord_close : Text.isWord '\x7d' = false := by decide

/-- Behind its first character a placeholder has no other that may begin one. -/
theorem dollar_not_mem_tail {name : List Char} (h : IsName name) :
    '$' ∉ '\x7b' :: name ++ ['\x7d'] := by
  intro there
  simp only [List.cons_append, List.mem_cons, List.mem_append, List.not_mem_nil, or_false] at there
  rcases there with brace | inName | brace
  · exact absurd brace (by decide)
  · have := h.2 '$' inName
    rw [not_isWord_dollar] at this
    cases this
  · exact absurd brace (by decide)

/-- Some characters begin with a placeholder exactly if the scanner says so. -/
theorem hole?_eq_some_iff {cs name : List Char} :
    hole? cs = some name ↔ IsName name ∧ (Piece.hole name).source <+: cs := by
  constructor
  · intro h
    unfold hole? at h
    split at h
    · rename_i rest
      split at h
      · rename_i after closes
        by_cases empty : (rest.takeWhile Text.isWord).isEmpty
        · rw [if_pos empty] at h
          cases h
        · rw [if_neg empty] at h
          obtain rfl := Option.some.inj h
          refine ⟨⟨by simpa using empty, fun c hc => List.all_eq_true.mp List.all_takeWhile c hc⟩, after, ?_⟩
          have whole : rest.takeWhile Text.isWord ++ '\x7d' :: after = rest := by
            rw [← closes, List.takeWhile_append_dropWhile]
          simp [Piece.source, whole]
      · cases h
    · cases h
  · rintro ⟨⟨nonempty, word⟩, after, rfl⟩
    have close : ¬ Text.isWord '\x7d' = true := by simp [not_isWord_close]
    have taken : (name ++ '\x7d' :: after).takeWhile Text.isWord = name := by
      rw [List.takeWhile_append_of_pos word, List.takeWhile_cons_of_neg close, List.append_nil]
    have left : (name ++ '\x7d' :: after).dropWhile Text.isWord = '\x7d' :: after := by
      rw [List.dropWhile_append_of_pos word, List.dropWhile_cons_of_neg close]
    simp [Piece.source, hole?, taken, left, nonempty]

theorem occurs_iff {cs name : List Char} {start : Nat} :
    Occurs cs start name ↔ hole? (cs.drop start) = some name := hole?_eq_some_iff.symm

/-- At one place there is one placeholder. -/
theorem Occurs.name_eq {cs name other : List Char} {start : Nat} (h : Occurs cs start name)
    (h' : Occurs cs start other) : name = other := by
  rw [occurs_iff] at h h'
  exact Option.some.inj (h.symm.trans h')

/-- What stands behind some characters stands so much further on in the whole. -/
theorem occurs_append_left {a b name : List Char} {start : Nat} :
    Occurs (a ++ b) (a.length + start) name ↔ Occurs b start name := by
  rw [Occurs, Occurs, List.drop_length_add_append]

/-- Placeholders never overlap: one that begins later begins behind the end. -/
theorem Occurs.not_within {cs name other : List Char} {i j : Nat} (h : Occurs cs i name)
    (h' : Occurs cs j other) (later : i < j) : i + (Piece.hole name).source.length ≤ j := by
  by_contra within
  obtain ⟨isName, after, whole⟩ := h
  obtain ⟨k, rfl⟩ : ∃ k, j = i + 1 + k := ⟨j - (i + 1), by omega⟩
  have begins : cs[i + 1 + k]? = some '$' := by
    obtain ⟨-, rest, whole'⟩ := h'
    have first := congrArg (·[0]?) whole'
    simpa [Piece.source] using first.symm
  have tail : cs.drop (i + 1) = '\x7b' :: name ++ ['\x7d'] ++ after := by
    rw [← List.drop_drop, ← whole]
    simp [Piece.source]
  have inTail : ('\x7b' :: name ++ ['\x7d'])[k]? = some '$' := by
    rw [length_source_hole] at within
    have short : k < ('\x7b' :: name ++ ['\x7d']).length := by
      simp only [List.cons_append, List.length_cons, List.length_append, List.length_nil]
      omega
    rw [← List.getElem?_append_left short, ← tail, List.getElem?_drop]
    exact begins
  exact dollar_not_mem_tail isName (List.mem_of_getElem? inTail)

/-! ### Scanning -/

/-- What is covered by the placeholder before is passed over. -/
theorem scan_eq_drop (covered : Nat) (cs : List Char) : scan covered cs = scan 0 (cs.drop covered) := by
  induction cs generalizing covered with
  | nil => rw [List.drop_nil]; rfl
  | cons c rest ih =>
    cases covered with
    | zero => rfl
    | succ more => exact ih more

theorem scan_char {c : Char} {rest : List Char} (h : hole? (c :: rest) = none) :
    scan 0 (c :: rest) = .char c :: scan 0 rest := by
  rw [scan, h]

theorem scan_hole {name : List Char} (h : IsName name) (rest : List Char) :
    scan 0 ((Piece.hole name).source ++ rest) = .hole name :: scan 0 rest := by
  have found : hole? ('$' :: ('\x7b' :: name ++ ['\x7d'] ++ rest)) = some name :=
    hole?_eq_some_iff.mpr ⟨h, List.prefix_append (Piece.hole name).source rest⟩
  have covered : ('\x7b' :: name ++ ['\x7d'] ++ rest).drop (name.length + 2) = rest := by
    have length : name.length + 2 = ('\x7b' :: name ++ ['\x7d']).length := by simp
    rw [length, List.drop_left]
  show scan 0 ('$' :: ('\x7b' :: name ++ ['\x7d'] ++ rest)) = _
  rw [scan, found]
  show .hole name :: scan (name.length + 2) _ = _
  rw [scan_eq_drop, covered]

/-- Induction over a text as it is scanned: it begins with a placeholder, or with a character that
begins none. -/
@[elab_as_elim]
theorem scan_induction {motive : List Char → Prop} (nil : motive [])
    (char : ∀ c rest, hole? (c :: rest) = none → motive rest → motive (c :: rest))
    (hole : ∀ name rest, IsName name → motive rest → motive ((Piece.hole name).source ++ rest)) :
    ∀ cs, motive cs
  | [] => nil
  | c :: rest => by
    cases found : hole? (c :: rest) with
    | none => exact char c rest found (scan_induction nil char hole rest)
    | some name =>
      obtain ⟨isName, behind, whole⟩ := hole?_eq_some_iff.mp found
      -- The scan goes on behind the placeholder, and not with the rest of the list.
      have shorter : behind.length ≤ rest.length := by
        have lengths := congrArg List.length whole
        rw [List.length_append, length_source_hole, List.length_cons] at lengths
        omega
      rw [← whole]
      exact hole name behind isName (scan_induction nil char hole behind)
termination_by cs => cs.length

/-- The pieces are the characters. -/
theorem flatMap_source_scan (cs : List Char) : (scan 0 cs).flatMap Piece.source = cs := by
  induction cs using scan_induction with
  | nil => rfl
  | char c rest h ih => rw [scan_char h, List.flatMap_cons, ih]; rfl
  | hole name rest h ih => rw [scan_hole h, List.flatMap_cons, ih]

theorem isName_of_mem_scan {cs name : List Char} (h : .hole name ∈ scan 0 cs) : IsName name := by
  induction cs using scan_induction with
  | nil => cases h
  | char c rest none ih =>
    rw [scan_char none, List.mem_cons] at h
    exact ih (h.resolve_left (by simp))
  | hole other rest isName ih =>
    rw [scan_hole isName, List.mem_cons] at h
    rcases h with same | later
    · cases same
      exact isName
    · exact ih later

/-- **A text may be cut** wherever no placeholder is cut through: the pieces are those of the parts. -/
theorem scan_append {a b : List Char} (clean : CutsClean a b) :
    scan 0 (a ++ b) = scan 0 a ++ scan 0 b := by
  induction a using scan_induction with
  | nil => rfl
  | char c rest none ih =>
    have still : hole? (c :: (rest ++ b)) = Option.none := by
      -- A placeholder here would reach over the cut, or there would have been one before.
      refine Option.eq_none_iff_forall_ne_some.mpr fun name found => ?_
      obtain ⟨isName, begins⟩ := hole?_eq_some_iff.mp found
      rcases clean 0 name ⟨isName, begins⟩ with within | behind
      · have whole : (Piece.hole name).source <+: c :: rest :=
          List.prefix_of_prefix_length_le begins (List.prefix_append _ _) (by omega)
        rw [hole?_eq_some_iff.mpr ⟨isName, whole⟩] at none
        cases none
      · simp at behind
    have clean' : CutsClean rest b := by
      intro start name h
      have := clean (1 + start) name (occurs_append_left (a := [c]).mpr h)
      simp only [List.length_cons] at this
      omega
    rw [List.cons_append, scan_char still, scan_char none, ih clean', List.cons_append]
  | hole name rest isName ih =>
    have clean' : CutsClean rest b := by
      intro start other h
      have := clean ((Piece.hole name).source.length + start) other
        (by rw [List.append_assoc]; exact occurs_append_left.mpr h)
      simp only [List.length_append] at this
      omega
    rw [List.append_assoc, scan_hole isName, scan_hole isName, ih clean', List.cons_append]

/-! ### The only way to take a template apart -/

theorem isSplit_scan (cs : List Char) : IsSplit cs (scan 0 cs) := by
  refine ⟨flatMap_source_scan cs, fun name => isName_of_mem_scan, ?_⟩
  intro start name h
  obtain ⟨isName, after, whole⟩ := h
  have short : start ≤ cs.length := by
    by_contra long
    rw [List.drop_eq_nil_of_le (by omega)] at whole
    simp [source_ne_nil] at whole
  have split : cs.take start ++ ((Piece.hole name).source ++ after) = cs := by
    rw [whole, List.take_append_drop]
  -- No other placeholder reaches over the place where this one begins.
  have clean : CutsClean (cs.take start) ((Piece.hole name).source ++ after) := by
    intro i other h'
    rw [split] at h'
    rw [List.length_take_of_le short]
    by_cases earlier : i < start
    · exact Or.inl (h'.not_within ⟨isName, after, whole⟩ earlier)
    · exact Or.inr (Nat.le_of_not_lt earlier)
  refine ⟨scan 0 (cs.take start), scan 0 after, ?_, ?_⟩
  · rw [← scan_hole isName, ← scan_append clean, split]
  · rw [flatMap_source_scan, List.length_take_of_le short]

theorem IsSplit.eq_scan {cs : List Char} {ps : List Piece} (h : IsSplit cs ps) : ps = scan 0 cs := by
  induction ps generalizing cs with
  | nil =>
    rw [← h.source]
    rfl
  | cons p rest ih =>
    -- What is found behind the first piece is found among the pieces after it.
    have later : IsSplit (rest.flatMap Piece.source) rest := by
      refine ⟨rfl, fun name hname => h.isName name (List.mem_cons_of_mem p hname), ?_⟩
      intro start name found
      have there : Occurs cs (p.source.length + start) name := by
        rw [← h.source, List.flatMap_cons]
        exact occurs_append_left.mpr found
      obtain ⟨before, after, split, place⟩ := h.finds _ _ there
      cases before with
      | nil =>
        have := List.length_pos_iff.mpr (source_ne_nil p)
        simp only [List.flatMap_nil, List.length_nil] at place
        omega
      | cons q before =>
        obtain ⟨rfl, split'⟩ := List.cons.inj split
        refine ⟨before, after, split', ?_⟩
        rw [List.flatMap_cons, List.length_append] at place
        omega
    have source := h.source
    rw [List.flatMap_cons] at source
    rw [← source]
    cases p with
    | hole name =>
      rw [scan_hole (h.isName name List.mem_cons_self), ← ih later]
    | char c =>
      have none : hole? (c :: rest.flatMap Piece.source) = Option.none := by
        refine Option.eq_none_iff_forall_ne_some.mpr fun name found => ?_
        have there : Occurs cs 0 name := by
          rw [← source]
          exact hole?_eq_some_iff.mp found
        obtain ⟨before, after, split, place⟩ := h.finds 0 name there
        cases before with
        | nil => cases split
        | cons q before =>
          have := List.length_pos_iff.mpr (source_ne_nil q)
          rw [List.flatMap_cons, List.length_append] at place
          omega
      show _ = scan 0 (c :: rest.flatMap Piece.source)
      rw [scan_char none, ← ih later]

/-- A placeholder among the pieces stands somewhere. -/
theorem IsSplit.exists_occurs {cs name : List Char} {ps : List Piece} (h : IsSplit cs ps)
    (there : .hole name ∈ ps) : ∃ start, Occurs cs start name := by
  obtain ⟨before, after, rfl⟩ := List.append_of_mem there
  refine ⟨(before.flatMap Piece.source).length, h.isName name there, ?_⟩
  rw [← h.source, List.flatMap_append, List.drop_left, List.flatMap_cons]
  exact List.prefix_append _ _

/-- There is one way to take a text apart, and that is to scan it. -/
theorem isSplit_iff {cs : List Char} {ps : List Piece} : IsSplit cs ps ↔ ps = scan 0 cs := by
  constructor
  · exact IsSplit.eq_scan
  · rintro rfl
    exact isSplit_scan cs

/-- Whether a cut is clean can be told from the places before it. -/
instance (a b : List Char) : Decidable (CutsClean a b) :=
  decidable_of_iff
    (∀ start < a.length, ∀ name ∈ hole? ((a ++ b).drop start),
      start + (Piece.hole name).source.length ≤ a.length) <| by
    constructor
    · intro h start name found
      by_cases before : start < a.length
      · exact Or.inl (h start before name (occurs_iff.mp found))
      · exact Or.inr (Nat.le_of_not_lt before)
    · intro clean start before name found
      have := clean start name (occurs_iff.mpr found)
      omega

/-! ### Filling in -/

theorem toList_fill (t : String) (params : Params) :
    (fill t params).toList = (pieces t).flatMap (fillPiece params) := String.toList_ofList

theorem mem_names {t name : String} :
    name ∈ names t ↔ ∃ cs, .hole cs ∈ pieces t ∧ String.ofList cs = name := by
  rw [names, List.mem_eraseDups, List.mem_filterMap]
  constructor
  · rintro ⟨piece, there, named⟩
    cases piece with
    | char c => cases named
    | hole cs => exact ⟨cs, there, Option.some.inj named⟩
  · rintro ⟨cs, there, rfl⟩
    exact ⟨.hole cs, there, rfl⟩

theorem fillPiece_char (params : Params) (c : Char) : fillPiece params (.char c) = [c] := rfl

theorem fillPiece_hole (params : Params) (name : List Char) :
    fillPiece params (.hole name) =
      match params.get? (String.ofList name) with
      | some value => value.display.toList
      | none => (Piece.hole name).source := rfl

/-- Nothing but the named parameters matters. -/
theorem fill_congr {t : String} {p q : Params}
    (agree : ∀ name ∈ names t, p.get? name = q.get? name) : fill t p = fill t q := by
  rw [fill, fill]
  congr 1
  refine List.flatMap_congr fun piece there => ?_
  cases piece with
  | char c => rfl
  | hole name => rw [fillPiece_hole, fillPiece_hole, agree _ (mem_names.mpr ⟨name, there, rfl⟩)]

/-- Without any of the named parameters a template stays as it is. -/
theorem fill_of_unbound {t : String} {params : Params}
    (unbound : ∀ name ∈ names t, params.get? name = none) : fill t params = t := by
  have source : (pieces t).flatMap (fillPiece params) = (pieces t).flatMap Piece.source := by
    refine List.flatMap_congr fun piece there => ?_
    cases piece with
    | char c => rfl
    | hole name => rw [fillPiece_hole, unbound _ (mem_names.mpr ⟨name, there, rfl⟩)]
  rw [fill, source, pieces, flatMap_source_scan, String.ofList_toList]

/-- Each of the named parameters matters, whatever the others are: a longer text for it makes a
longer text in all. -/
theorem exists_fill_insert_ne {t name : String} (named : name ∈ names t) (params : Params) :
    fill t (params.insert name (.string "")) ≠ fill t (params.insert name (.string "x")) := by
  obtain ⟨cs, there, rfl⟩ := mem_names.mp named
  let width (value : String) (piece : Piece) :=
    (fillPiece (params.insert (String.ofList cs) (.string value)) piece).length
  have self (value : String) : width value (.hole cs) = value.toList.length := by
    show (fillPiece _ _).length = _
    rw [fillPiece_hole, Dict.get?_insert_self]
    rfl
  -- No other piece gets shorter, so none makes up for it: the same placeholder grows wherever it is.
  have others : ∀ piece ∈ pieces t, width "" piece ≤ width "x" piece := by
    intro piece _
    cases piece with
    | char c => exact Nat.le_refl 1
    | hole other =>
      by_cases same : other = cs
      · rw [same, self, self]
        decide
      · have ne : String.ofList other ≠ String.ofList cs := fun h => same (String.ofList_injective h)
        show (fillPiece _ _).length ≤ (fillPiece _ _).length
        rw [fillPiece_hole, fillPiece_hole, Dict.get?_insert_of_ne _ _ ne,
          Dict.get?_insert_of_ne _ _ ne]
  have longer : ((pieces t).map (width "")).sum < ((pieces t).map (width "x")).sum :=
    List.sum_lt_sum _ _ others ⟨.hole cs, there, by rw [self, self]; decide⟩
  intro same
  have lengths := congrArg (·.toList.length) same
  simp only [toList_fill, List.length_flatMap] at lengths
  exact absurd lengths (Nat.ne_of_lt longer)

/-- The names are those of the parameters on which the text depends. -/
theorem mem_names_iff_depends {t name : String} :
    name ∈ names t ↔ ∃ p q : Params, (∀ other, other ≠ name → p.get? other = q.get? other) ∧
      fill t p ≠ fill t q := by
  constructor
  · intro named
    refine ⟨Dict.insert [] name (.string ""), Dict.insert [] name (.string "x"), ?_,
      exists_fill_insert_ne named []⟩
    intro other ne
    rw [Dict.get?_insert_of_ne _ _ ne, Dict.get?_insert_of_ne _ _ ne]
  · rintro ⟨p, q, agree, differ⟩
    by_contra notNamed
    refine differ (fill_congr fun other named => agree other ?_)
    rintro rfl
    exact notNamed named

theorem fill_append {a b : String} (clean : CutsClean a.toList b.toList) (params : Params) :
    fill (a ++ b) params = fill a params ++ fill b params := by
  rw [fill, pieces, String.toList_append, scan_append clean, List.flatMap_append,
    String.ofList_append]
  rfl

/-- **A template is filled in piece by piece.** Its placeholders never overlap, and there is one way
to take it apart into them and the characters between them. Filling in keeps these characters, puts
the text of a parameter in the place of each placeholder that has one, and keeps the others; nothing
else happens to what is put in. The listed names are those of the placeholders, each once and in
the order in which they first appear, and they are the ones on which the text depends: without
parameters of these names the template stays as it is. And two texts may be joined before or after
filling them in, if no placeholder is made or cut through where they meet. -/
theorem template_is_filled_piece_by_piece (t : String) (params : Params) :
    (∀ i j name other, Occurs t.toList i name → Occurs t.toList j other →
      (i = j ∧ name = other) ∨ i + (Piece.hole name).source.length ≤ j ∨
        j + (Piece.hole other).source.length ≤ i) ∧
    (∃ ps, (∀ qs, IsSplit t.toList qs ↔ qs = ps) ∧
      (fill t params).toList = ps.flatMap (fun
        | .char c => [c]
        | .hole name =>
          match params.get? (String.ofList name) with
          | some value => value.display.toList
          | none => (Piece.hole name).source) ∧
      FirstOccurrences (ps.filterMap Piece.name?) (names t) ∧ (names t).Nodup) ∧
    (∀ name, name ∈ names t ↔ ∃ p q : Params,
      (∀ other, other ≠ name → p.get? other = q.get? other) ∧ fill t p ≠ fill t q) ∧
    (∀ others : Params, (∀ name ∈ names t, params.get? name = others.get? name) →
      fill t params = fill t others) ∧
    ((∀ name ∈ names t, params.get? name = none) → fill t params = t) ∧
    (∀ a b, t = a ++ b → CutsClean a.toList b.toList →
      fill t params = fill a params ++ fill b params) := by
  refine ⟨?_, ⟨pieces t, fun qs => isSplit_iff, ?_, ?_, ?_⟩, fun name => mem_names_iff_depends,
    fun others => fill_congr, fill_of_unbound, ?_⟩
  · intro i j name other h h'
    rcases Nat.lt_trichotomy i j with before | rfl | after
    · exact Or.inr (Or.inl (h.not_within h' before))
    · exact Or.inl ⟨rfl, h.name_eq h'⟩
    · exact Or.inr (Or.inr (h'.not_within h after))
  · rw [toList_fill]
    refine List.flatMap_congr fun piece _ => ?_
    cases piece with
    | char c => exact fillPiece_char params c
    | hole name => exact fillPiece_hole params name
  · exact firstOccurrences_eraseDups _
  · exact (firstOccurrences_eraseDups _).nodup
  · rintro a b rfl clean
    exact fill_append clean params

/-- A placeholder in what looks like another one, and one behind a further dollar sign. What is put
in looks like a placeholder too, and stays. -/
theorem nested_braces_are_filled_once :
    let t := "$\x7ba$\x7bb\x7d\x7d $$\x7bb\x7d"
    let params : Params := [("a", .integer 1), ("b", .string "$\x7ba\x7d")]
    (Occurs t.toList 3 ['b'] ∧ Occurs t.toList 10 ['b'] ∧
      3 + (Piece.hole ['b']).source.length ≤ 10) ∧
    (∀ qs, IsSplit t.toList qs ↔
      qs = [.char '$', .char '\x7b', .char 'a', .hole ['b'], .char '\x7d', .char ' ', .char '$',
        .hole ['b']]) ∧
    fill t params = "$\x7ba$\x7ba\x7d\x7d $$\x7ba\x7d" ∧ names t = ["b"] ∧
    (params.get? "b" = Dict.get? [("b", .string "$\x7ba\x7d")] "b" ∧
      fill t params = fill t [("b", .string "$\x7ba\x7d")]) ∧
    (Dict.get? [("a", Param.integer 1)] "b" = none ∧ fill t [("a", .integer 1)] = t) ∧
    (CutsClean "$\x7ba".toList "$\x7bb\x7d\x7d $$\x7bb\x7d".toList ∧
      fill t params = fill "$\x7ba" params ++ fill "$\x7bb\x7d\x7d $$\x7bb\x7d" params) := by
  intro t params
  obtain ⟨disjoint, ⟨ps, only, -, -, -⟩, -, agree, -, cut⟩ :=
    template_is_filled_piece_by_piece t params
  have scanned : ps = pieces t := (only _).mp (isSplit_scan t.toList) |>.symm
  have first : Occurs t.toList 3 ['b'] := by decide
  have second : Occurs t.toList 10 ['b'] := by decide
  have named : names t = ["b"] := by decide
  have same : ∀ name ∈ names t, params.get? name = Dict.get? [("b", .string "$\x7ba\x7d")] name := by
    rw [named, List.forall_mem_singleton]
    rfl
  have unbound : ∀ name ∈ names t, Dict.get? [("a", Param.integer 1)] name = none := by
    rw [named, List.forall_mem_singleton]
    rfl
  have clean : CutsClean "$\x7ba".toList "$\x7bb\x7d\x7d $$\x7bb\x7d".toList := by decide
  refine ⟨⟨first, second, ?_⟩, ?_, by decide, named, ⟨rfl, agree _ same⟩, ⟨rfl, ?_⟩, clean,
    cut _ _ rfl clean⟩
  · rcases disjoint 3 10 _ _ first second with ⟨h, -⟩ | h | h
    · exact absurd h (by decide)
    · exact h
    · exact absurd h (by decide)
  · have divided : pieces t = [.char '$', .char '\x7b', .char 'a', .hole ['b'], .char '\x7d',
        .char ' ', .char '$', .hole ['b']] := by decide
    intro qs
    rw [only qs, scanned, divided]
  · exact (template_is_filled_piece_by_piece t [("a", .integer 1)]).2.2.2.2.1 unbound

end Blockware.Template
