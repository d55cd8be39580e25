import Blockware.Text.Bytes
import Blockware.Text.Literal
import Mathlib.Data.List.Induction
import Mathlib.Data.String.Basic

/-!
# String literals are read back

Two readings of a literal: a compiler first looks for the quote that closes it, and then for the
characters that its inside denotes.

- `cutLiteral?`: the first reading. It goes by the backslashes and knows nothing of what they mean.
- `denoted?_literalChars`: the inside of the literal of a text denotes that text.
- `cutLiteral?_literalChars`: and it ends where the closing quote is put.
- `odd_of_quote`, `even_endingBackslashes`: why it does. A quote has an odd number of backslashes
  right before it, so that the last of them is its own; at the end they pair up.
- `utf8Length_eq`: bytes are counted as texts are stored.
-/

namespace Blockware.Text

/-- The inside of a literal whose opening quote stands right before some characters, and what stands
behind its closing quote. A backslash takes the next character with it. -/
def cutLiteral? : List Char → Option (List Char × List Char)
  | [] => none
  | '"' :: rest => some ([], rest)
  | '\\' :: c :: rest => (cutLiteral? rest).map fun cut => ('\\' :: c :: cut.1, cut.2)
  | c :: rest => (cutLiteral? rest).map fun cut => (c :: cut.1, cut.2)

/-- How many backslashes stand at the end of some characters. -/
def endingBackslashes (cs : List Char) : Nat := (cs.reverse.takeWhile (· = '\\')).length

/-! ### Character by character -/

/-- A character is written as an escape or as itself. -/
theorem literalChar_cases (c : Char) :
    (∃ mark, literalChar c = ['\\', mark] ∧ mark ≠ '\n' ∧ mark ≠ '\r' ∧
      ∀ rest, denoted? ('\\' :: mark :: rest) = (denoted? rest).map (c :: ·)) ∨
    (literalChar c = [c] ∧ c ≠ '"' ∧ c ≠ '\\' ∧ c ≠ '\n' ∧ c ≠ '\r') := by
  by_cases quote : c = '"'
  · rw [quote]
    exact Or.inl ⟨'"', rfl, by decide, by decide, fun rest => by rw [denoted?]⟩
  by_cases backslash : c = '\\'
  · rw [backslash]
    exact Or.inl ⟨'\\', rfl, by decide, by decide, fun rest => by rw [denoted?]⟩
  by_cases feed : c = '\n'
  · rw [feed]
    exact Or.inl ⟨'n', rfl, by decide, by decide, fun rest => by rw [denoted?]⟩
  by_cases ret : c = '\r'
  · rw [ret]
    exact Or.inl ⟨'r', rfl, by decide, by decide, fun rest => by rw [denoted?]⟩
  by_cases tab : c = '\t'
  · rw [tab]
    exact Or.inl ⟨'t', rfl, by decide, by decide, fun rest => by rw [denoted?]⟩
  exact Or.inr ⟨by simp [literalChar, quote, backslash, feed, ret, tab], quote, backslash, feed, ret⟩

theorem literalChars_cons (c : Char) (cs : List Char) :
    literalChars (c :: cs) = literalChar c ++ literalChars cs := List.flatMap_cons

theorem literalChars_append (cs ds : List Char) :
    literalChars (cs ++ ds) = literalChars cs ++ literalChars ds := List.flatMap_append

theorem literalChars_append_singleton (cs : List Char) (c : Char) :
    literalChars (cs ++ [c]) = literalChars cs ++ literalChar c := by
  rw [literalChars_append, literalChars_cons]
  exact congrArg _ (List.append_nil _)

/-- The inside of the literal of some characters denotes them. -/
theorem denoted?_literalChars (cs : List Char) : denoted? (literalChars cs) = some cs := by
  induction cs with
  | nil => rfl
  | cons c cs ih =>
    rw [literalChars_cons]
    rcases literalChar_cases c with ⟨mark, escape, -, -, denotes⟩ | ⟨itself, quote, backslash, feed, ret⟩
    · rw [escape, List.cons_append, List.singleton_append, denotes, ih]
      rfl
    · rw [itself, List.singleton_append, denoted?, ih]
      · simp [quote, backslash, feed, ret]
      · rintro mark rest rfl
        exact absurd rfl backslash

/-- The line of a literal is not broken within it. -/
theorem ne_lineEnd_of_mem_literalChars {cs : List Char} {d : Char} (h : d ∈ literalChars cs) :
    d ≠ '\n' ∧ d ≠ '\r' := by
  obtain ⟨c, -, hd⟩ := List.mem_flatMap.mp h
  rcases literalChar_cases c with ⟨mark, escape, feed, ret, -⟩ | ⟨itself, -, -, feed, ret⟩
  · rw [escape] at hd
    simp only [List.mem_cons, List.not_mem_nil, or_false] at hd
    rcases hd with rfl | rfl
    · decide
    · exact ⟨feed, ret⟩
  · rw [itself, List.mem_singleton] at hd
    rw [hd]
    exact ⟨feed, ret⟩

/-! ### Where a literal ends -/

/-- A literal is cut at the quote behind its inside, whatever follows. -/
theorem cutLiteral?_literalChars (cs after : List Char) :
    cutLiteral? (literalChars cs ++ '"' :: after) = some (literalChars cs, after) := by
  induction cs with
  | nil => rfl
  | cons c cs ih =>
    rw [literalChars_cons]
    rcases literalChar_cases c with ⟨mark, escape, -⟩ | ⟨itself, quote, backslash, -⟩
    · rw [escape, List.append_assoc, List.cons_append, List.singleton_append, cutLiteral?, ih]
      rfl
    · rw [itself, List.append_assoc, List.singleton_append, cutLiteral?, ih]
      · rfl
      · exact quote
      · rintro mark rest rfl
        exact absurd rfl backslash

theorem endingBackslashes_append_ne {cs : List Char} {c : Char} (h : c ≠ '\\') :
    endingBackslashes (cs ++ [c]) = 0 := by
  simp [endingBackslashes, h]

theorem endingBackslashes_append_backslash (cs : List Char) :
    endingBackslashes (cs ++ ['\\']) = endingBackslashes cs + 1 := by
  simp [endingBackslashes]

/-- At the end of a literal the backslashes pair up: none is left to take the closing quote. -/
theorem even_endingBackslashes (cs : List Char) :
    endingBackslashes (literalChars cs) % 2 = 0 := by
  -- From the end, where the backslashes are counted: a last character adds two of them, or ends them.
  induction cs using List.reverseRecOn with
  | nil => rfl
  | append_singleton cs c ih =>
    rw [literalChars_append_singleton]
    rcases literalChar_cases c with ⟨mark, escape, -⟩ | ⟨itself, -, backslash, -⟩
    · rw [escape, List.append_cons]
      by_cases pair : mark = '\\'
      · rw [pair, endingBackslashes_append_backslash, endingBackslashes_append_backslash]
        omega
      · rw [endingBackslashes_append_ne pair]
    · rw [itself, endingBackslashes_append_ne backslash]

/-- A quote within a literal is taken by a backslash of its own. -/
theorem odd_of_quote {cs before after : List Char} (h : literalChars cs = before ++ '"' :: after) :
    endingBackslashes before % 2 = 1 := by
  induction cs using List.reverseRecOn generalizing after with
  | nil => simp [literalChars] at h
  | append_singleton cs c ih =>
    rw [literalChars_append_singleton, List.append_eq_append_iff] at h
    rcases h with ⟨inChar, rfl, last⟩ | ⟨rest, earlier, last⟩
    · -- The quote is the second character of an escape: before that, the backslashes pair up.
      rcases literalChar_cases c with ⟨mark, escape, -⟩ | ⟨itself, quote, -⟩
      · rw [escape] at last
        match inChar with
        | [] => cases last
        | [d] =>
          obtain ⟨rfl, -⟩ := List.cons.inj last
          rw [endingBackslashes_append_backslash]
          have := even_endingBackslashes cs
          omega
        | _ :: _ :: _ => simp at last
      · rw [itself, List.singleton_eq_append_iff] at last
        simp [eq_comm, quote] at last
    · cases rest with
      | nil =>
        rcases literalChar_cases c with ⟨mark, escape, -⟩ | ⟨itself, quote, -⟩
        · rw [escape] at last
          cases last
        · rw [itself] at last
          exact absurd (List.cons.inj last).1.symm quote
      | cons d rest =>
        obtain ⟨rfl, -⟩ := List.cons.inj last
        exact ih earlier

/-! ### Bytes -/

/-- The bytes of a text are those that it is stored in. -/
theorem utf8Length_eq (cs : List Char) : utf8Length cs = (String.ofList cs).utf8ByteSize := by
  rw [String.utf8ByteSize_ofList]
  induction cs with
  | nil => rfl
  | cons c cs ih => rw [utf8Length, String.utf8Len_cons, ih, Nat.add_comm]

end Blockware.Text
