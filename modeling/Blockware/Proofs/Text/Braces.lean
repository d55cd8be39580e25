import Blockware.Program
import Blockware.Text.Literal
import Mathlib.Data.List.Infix

/-!
# The theory of braces

Braces open and close scopes, and nothing else in a text does.

- `braceLevel`: how many scopes are open after some characters.
- `Nested`: a text that opens every scope before it closes it, and closes all of them. Such texts
  may follow one another (`Nested.append`) and stand in a scope (`Nested.enclose`).
- `bracesOf`: the braces of a text. Whether the text is nested depends on them alone, so neither
  indentation nor line ends matter (`nested_bracesOf_iff`, `bracesOf_indent`, `bracesOf_unlines`).
- `scopeLevel`, `NestedLines`: the same of lines, and `NestedLines.scope` for a scope around lines.
- `Lacks`: a text without some characters; `Unbraced` and `Plain` texts.
-/

namespace Blockware.Text

/-- How many scopes are open after some characters. -/
def braceLevel (cs : List Char) : Int := cs.count '\x7b' - cs.count '\x7d'

/-- The braces match: no scope is closed before it is opened, and none is left open. -/
structure Nested (cs : List Char) : Prop where
  sane : ∀ front, front <+: cs → 0 ≤ braceLevel front
  settled : braceLevel cs = 0

/-! ### Levels -/

@[simp] theorem braceLevel_append (cs ds : List Char) :
    braceLevel (cs ++ ds) = braceLevel cs + braceLevel ds := by
  simp only [braceLevel, List.count_append]
  omega

theorem braceLevel_cons (c : Char) (cs : List Char) :
    braceLevel (c :: cs) = braceLevel [c] + braceLevel cs := braceLevel_append [c] cs

/-! ### Nested texts -/

theorem nested_nil : Nested [] where
  sane front h := by
    rw [List.prefix_nil.mp h]
    exact Int.le_refl 0
  settled := rfl

/-- Nested texts may follow one another: no scope reaches from one into the other. -/
theorem Nested.append {cs ds : List Char} (hc : Nested cs) (hd : Nested ds) :
    Nested (cs ++ ds) where
  sane front h := by
    rcases List.prefix_or_prefix_of_prefix h (List.prefix_append cs ds) with inFirst | ⟨more, rfl⟩
    · exact hc.sane front inFirst
    · have second := hd.sane more ((List.prefix_append_right_inj cs).mp h)
      rw [braceLevel_append, hc.settled]
      omega
  settled := by rw [braceLevel_append, hc.settled, hd.settled, Int.add_zero]

/-- A nested text may stand in a scope. -/
theorem Nested.enclose {cs : List Char} (h : Nested cs) : Nested ('\x7b' :: cs ++ ['\x7d']) := by
  have opened : braceLevel ['\x7b'] = 1 := rfl
  have settled : braceLevel ('\x7b' :: cs ++ ['\x7d']) = 0 := by
    rw [braceLevel_append, braceLevel_cons, h.settled]
    rfl
  refine ⟨fun front isPrefix => ?_, settled⟩
  rcases List.prefix_concat_iff.mp isPrefix with rfl | within
  · exact Int.le_of_eq settled.symm
  · rcases List.prefix_cons_iff.mp within with rfl | ⟨inner, rfl, inside⟩
    · exact Int.le_refl 0
    · -- One more scope is open than in the text itself.
      have := h.sane inner inside
      rw [braceLevel_cons, opened]
      omega

/-! ### The braces of a text -/

/-- Whether a character is a brace. -/
def isBrace (c : Char) : Bool := c = '\x7b' || c = '\x7d'

/-- The braces of a text. -/
def bracesOf (s : String) : List Char := s.toList.filter isBrace

theorem braceLevel_filter (cs : List Char) : braceLevel (cs.filter isBrace) = braceLevel cs := by
  rw [braceLevel, braceLevel, List.count_filter rfl, List.count_filter rfl]

theorem braceLevel_bracesOf (s : String) : braceLevel (bracesOf s) = braceLevel s.toList :=
  braceLevel_filter s.toList

/-- A text is nested if its braces are. -/
theorem nested_bracesOf_iff {s : String} : Nested (bracesOf s) ↔ Nested s.toList := by
  constructor
  · intro h
    refine ⟨fun front isPrefix => ?_, by rw [← braceLevel_bracesOf]; exact h.settled⟩
    rw [← braceLevel_filter]
    exact h.sane _ (isPrefix.filter isBrace)
  · intro h
    refine ⟨fun front isPrefix => ?_, by rw [braceLevel_bracesOf]; exact h.settled⟩
    -- Some braces from the start of a text are those of some characters from its start.
    obtain ⟨rest, split⟩ := isPrefix
    obtain ⟨first, second, whole, rfl, -⟩ := List.filter_eq_append_iff.mp split.symm
    rw [braceLevel_filter]
    exact h.sane first ⟨second, whole.symm⟩

/-- The braces of a text that is given by its characters, as every fixed text is. -/
theorem bracesOf_ofList (cs : List Char) : bracesOf (String.ofList cs) = cs.filter isBrace := by
  rw [bracesOf, String.toList_ofList]

@[simp] theorem bracesOf_append (s t : String) : bracesOf (s ++ t) = bracesOf s ++ bracesOf t := by
  rw [bracesOf, String.toList_append, List.filter_append]
  rfl

@[simp] theorem bracesOf_indent (level : Nat) (line : String) :
    bracesOf (indent level line) = bracesOf line := by
  rw [indent]
  split
  · rename_i blank
    rw [String.isEmpty_iff.mp blank]
  · have blanks : bracesOf (String.ofList (List.replicate (4 * level) ' ')) = [] := by
      rw [bracesOf, String.toList_ofList, List.filter_eq_nil_iff]
      intro c hc
      rw [List.eq_of_mem_replicate hc]
      decide
    rw [bracesOf_append, blanks, List.nil_append]

/-- The braces of lines as one text. -/
theorem bracesOf_unlines (lines : List String) : bracesOf (unlines lines) = lines.flatMap bracesOf := by
  induction lines with
  | nil => rfl
  | cons line rest ih =>
    have lineEnd : bracesOf "\n" = [] := bracesOf_ofList ['\n']
    rw [unlines_cons, bracesOf_append, bracesOf_append, lineEnd, List.append_nil, ih,
      List.flatMap_cons]

/-! ### Lines -/

/-- How many scopes are open after some lines. -/
def scopeLevel (lines : List String) : Int := braceLevel (unlines lines).toList

/-- The braces of some lines match, across the lines. -/
def NestedLines (lines : List String) : Prop := Nested (unlines lines).toList

variable {lines more : List String}

theorem scopeLevel_eq (lines : List String) :
    scopeLevel lines = braceLevel (lines.flatMap bracesOf) := by
  rw [scopeLevel, ← braceLevel_bracesOf, bracesOf_unlines]

theorem nestedLines_iff : NestedLines lines ↔ Nested (lines.flatMap bracesOf) := by
  rw [NestedLines, ← nested_bracesOf_iff, bracesOf_unlines]

@[simp] theorem scopeLevel_nil : scopeLevel [] = 0 := rfl

@[simp] theorem scopeLevel_append (lines more : List String) :
    scopeLevel (lines ++ more) = scopeLevel lines + scopeLevel more := by
  simp only [scopeLevel_eq, List.flatMap_append, braceLevel_append]

theorem scopeLevel_cons (line : String) (lines : List String) :
    scopeLevel (line :: lines) = scopeLevel [line] + scopeLevel lines :=
  scopeLevel_append [line] lines

theorem NestedLines.settled (h : NestedLines lines) : scopeLevel lines = 0 := Nested.settled h

theorem nestedLines_nil : NestedLines [] := nested_nil

theorem NestedLines.append (h : NestedLines lines) (h' : NestedLines more) :
    NestedLines (lines ++ more) := by
  rw [nestedLines_iff, List.flatMap_append]
  exact (nestedLines_iff.mp h).append (nestedLines_iff.mp h')

/-- Lines that are nested one by one are nested together. -/
theorem nestedLines_of_forall (h : ∀ l ∈ lines, Nested (bracesOf l)) : NestedLines lines := by
  induction lines with
  | nil => exact nestedLines_nil
  | cons line rest ih =>
    rw [nestedLines_iff, List.flatMap_cons]
    refine (h line List.mem_cons_self).append (nestedLines_iff.mp (ih fun l hl => ?_))
    exact h l (List.mem_cons_of_mem line hl)

theorem nestedLines_flatMap {α : Type} {f : α → List String} {xs : List α}
    (h : ∀ x ∈ xs, NestedLines (f x)) : NestedLines (xs.flatMap f) := by
  induction xs with
  | nil => exact nestedLines_nil
  | cons x rest ih =>
    rw [List.flatMap_cons]
    exact (h x List.mem_cons_self).append (ih fun y hy => h y (List.mem_cons_of_mem x hy))

/-- Indentation changes no braces. -/
theorem flatMap_bracesOf_map_indent (level : Nat) (lines : List String) :
    (lines.map (indent level)).flatMap bracesOf = lines.flatMap bracesOf := by
  rw [List.flatMap_map]
  exact List.flatMap_congr fun line _ => bracesOf_indent level line

theorem NestedLines.map_indent (level : Nat) (h : NestedLines lines) :
    NestedLines (lines.map (indent level)) := by
  rw [nestedLines_iff, flatMap_bracesOf_map_indent]
  exact nestedLines_iff.mp h

/-! ### Texts without braces -/

/-- A text has none of some characters. -/
def Lacks (bad : List Char) (s : String) : Prop := ∀ c ∈ s.toList, c ∉ bad

instance (bad : List Char) (s : String) : Decidable (Lacks bad s) :=
  decidable_of_iff (s.toList.all fun c => !bad.contains c) (by simp [Lacks])

/-- A text without braces. -/
abbrev Unbraced (s : String) : Prop := Lacks ['\x7b', '\x7d'] s

/-- A text on one line and without braces. -/
abbrev Plain (s : String) : Prop := Lacks ['\x7b', '\x7d', '\n'] s

/-- A text that is given by its characters, as every fixed text is. -/
theorem lacks_ofList {bad cs : List Char} (h : cs.all fun c => !bad.contains c) :
    Lacks bad (String.ofList cs) := by
  unfold Lacks
  rw [String.toList_ofList]
  simpa using h

@[simp] theorem lacks_append {bad : List Char} {s t : String} :
    Lacks bad (s ++ t) ↔ Lacks bad s ∧ Lacks bad t := by
  simp only [Lacks, String.toList_append, List.forall_mem_append]

/-- A fixed text with another one filled in. -/
theorem lacks_interpolated {bad before after : List Char} {t : String} (h : Lacks bad t)
    (fixed : (before ++ after).all fun c => !bad.contains c) :
    Lacks bad (toString (String.ofList before) ++ toString t ++ toString (String.ofList after)) := by
  rw [List.all_append, Bool.and_eq_true] at fixed
  exact lacks_append.mpr ⟨lacks_append.mpr ⟨lacks_ofList fixed.1, h⟩, lacks_ofList fixed.2⟩

theorem Plain.unbraced {s : String} (h : Plain s) : Unbraced s := by
  intro c hc bad
  refine h c hc ?_
  simp only [List.mem_cons] at bad ⊢
  tauto

theorem not_mem_lineFeed_of_plain {s : String} (h : Plain s) : '\n' ∉ s.toList :=
  fun hc => h _ hc (by decide)

theorem bracesOf_eq_nil {s : String} (h : Unbraced s) : bracesOf s = [] := by
  rw [bracesOf, List.filter_eq_nil_iff]
  intro c hc brace
  refine h c hc ?_
  simpa [isBrace] using brace

theorem nested_of_unbraced {s : String} (h : Unbraced s) : Nested (bracesOf s) := by
  rw [bracesOf_eq_nil h]
  exact nested_nil

theorem nestedLines_of_unbraced {lines : List String} (h : ∀ l ∈ lines, Unbraced l) :
    NestedLines lines := nestedLines_of_forall fun l hl => nested_of_unbraced (h l hl)

theorem nestedLines_singleton {line : String} (h : Unbraced line) : NestedLines [line] :=
  nestedLines_of_unbraced (List.forall_mem_singleton.mpr h)

/-- A line that opens a scope. -/
theorem bracesOf_opening {head : String} (h : Unbraced head) :
    bracesOf (head ++ "\x7b") = ['\x7b'] := by
  rw [bracesOf_append, bracesOf_eq_nil h]
  exact bracesOf_ofList ['\x7b']

theorem scopeLevel_opening {head : String} (level : Nat) (h : Unbraced head) :
    scopeLevel [indent level (head ++ "\x7b")] = 1 := by
  rw [scopeLevel_eq, List.flatMap_singleton, bracesOf_indent, bracesOf_opening h]
  rfl

/-- A scope around lines: a line that opens it, and one that closes it. -/
theorem NestedLines.scope {head : String} {lines : List String} (level : Nat) (h : Unbraced head)
    (inner : NestedLines lines) :
    NestedLines (indent level (head ++ "\x7b") :: lines ++ [indent level "\x7d"]) := by
  have closing : bracesOf "\x7d" = ['\x7d'] := bracesOf_ofList ['\x7d']
  rw [nestedLines_iff, List.flatMap_append, List.flatMap_cons, List.flatMap_singleton,
    bracesOf_indent, bracesOf_indent, bracesOf_opening h, closing]
  exact (nestedLines_iff.mp inner).enclose

/-- Escaping adds no brace. -/
theorem unbraced_literal {s : String} (h : Unbraced s) : Unbraced (literal s) := by
  intro d hd
  rw [literal, String.toList_ofList, literalChars, List.mem_flatMap] at hd
  obtain ⟨c, hc, hd⟩ := hd
  have there := h c hc
  rw [literalChar] at hd
  repeat' split at hd
  all_goals simp only [List.mem_cons, List.not_mem_nil, or_false] at hd
  all_goals rcases hd with rfl | rfl <;> first | decide | exact there

/-- Digits are no braces and no line feeds. -/
@[simp] theorem plain_repr (n : Nat) : Plain n.repr := by
  intro c hc bad
  have digit : c.isDigit := by
    rw [Nat.toList_repr] at hc
    exact Nat.isDigit_of_mem_toDigits (by decide) (by decide) hc
  simp only [List.mem_cons, List.not_mem_nil, or_false] at bad
  rcases bad with rfl | rfl | rfl <;> exact absurd digit (by decide)

end Blockware.Text
