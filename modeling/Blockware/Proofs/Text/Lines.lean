import Blockware.Program.Emission

/-!
# The theory of lines

What the lines of a text hold, and when there are none.

- `Text.mem_linesFrom`: a line holds characters of the text, and no line feed.
- `Text.lines_eq_nil_iff`: only the empty text has no lines.
- `Text.IsLine`, `Text.lines_unlines_append`: lines that are written are read back as they were.
- `Text.written`, `Text.lines_unlines`: any text that is written as a line is read back as one line
  more than it has line feeds.
- `mem_codeLines`, `codeLines_eq_nil_iff`: the same for the code of a filled-in template.
-/

namespace Blockware

namespace Text

theorem mem_endLine {c : Char} {line : List Char} (h : c ∈ endLine line) : c ∈ line := by
  rw [endLine.eq_def] at h
  split at h
  · exact List.mem_cons_of_mem _ (List.mem_reverse.mp h)
  · exact List.mem_reverse.mp h

/-- What stands in a line has stood in the line that had begun, or it is no line feed. -/
theorem mem_linesFrom {c : Char} {l line cs : List Char} (hl : l ∈ linesFrom line cs)
    (hc : c ∈ l) : c ∈ line ∨ (c ∈ cs ∧ c ≠ '\n') := by
  induction cs generalizing line with
  | nil =>
    rw [linesFrom] at hl
    split at hl
    · simp at hl
    · rw [List.mem_singleton.mp hl] at hc
      exact Or.inl (List.mem_reverse.mp hc)
  | cons d rest ih =>
    rw [linesFrom] at hl
    split at hl
    · rcases List.mem_cons.mp hl with rfl | later
      · exact Or.inl (mem_endLine hc)
      · rcases ih later with begun | ⟨there, ne⟩
        · simp at begun
        · exact Or.inr ⟨List.mem_cons_of_mem d there, ne⟩
    · rename_i other
      rcases ih hl with begun | ⟨there, ne⟩
      · rcases List.mem_cons.mp begun with rfl | old
        · exact Or.inr ⟨List.mem_cons_self, other⟩
        · exact Or.inl old
      · exact Or.inr ⟨List.mem_cons_of_mem d there, ne⟩

theorem linesFrom_eq_nil_iff {line cs : List Char} :
    linesFrom line cs = [] ↔ line = [] ∧ cs = [] := by
  induction cs generalizing line with
  | nil => simp [linesFrom]
  | cons d rest ih =>
    rw [linesFrom]
    split
    · simp
    · simp [ih]

theorem lines_eq_nil_iff {s : String} : lines s = [] ↔ s = "" := by
  rw [lines, List.map_eq_nil_iff, linesFrom_eq_nil_iff]
  simp

/-! ### Reading back what was written -/

/-- A text on one line, of which nothing counts as part of a line end behind it. -/
structure IsLine (s : String) : Prop where
  unbroken : '\n' ∉ s.toList
  noReturn : s.toList.getLast? ≠ some '\r'

/-- A text ends as the last of its parts does that is not empty. -/
theorem getLast?_append_ne {c : Char} {s t : String} (hs : s.toList.getLast? ≠ some c)
    (ht : t.toList.getLast? ≠ some c) : (s ++ t).toList.getLast? ≠ some c := by
  rw [String.toList_append, List.getLast?_append]
  cases last : t.toList.getLast? with
  | none => exact hs
  | some d => rwa [last] at ht

/-- Characters without a line feed are added to the line that has begun. -/
theorem linesFrom_append {line cs : List Char} (rest : List Char) (h : '\n' ∉ cs) :
    linesFrom line (cs ++ rest) = linesFrom (cs.reverse ++ line) rest := by
  induction cs generalizing line with
  | nil => rfl
  | cons c cs ih =>
    have other : c ≠ '\n' := by
      rintro rfl
      exact h List.mem_cons_self
    have later : '\n' ∉ cs := fun there => h (List.mem_cons_of_mem c there)
    rw [List.cons_append, linesFrom, if_neg other, ih later, List.reverse_cons, List.append_assoc,
      List.singleton_append]

/-- A line feed ends a line, and what comes after it is read by itself. -/
theorem linesFrom_append_lineFeed {line cs : List Char} (rest : List Char) (h : '\n' ∉ cs) :
    linesFrom line (cs ++ '\n' :: rest) = endLine (cs.reverse ++ line) :: linesFrom [] rest := by
  rw [linesFrom_append _ h, linesFrom, if_pos rfl]

theorem endLine_reverse {cs : List Char} (h : cs.getLast? ≠ some '\r') :
    endLine cs.reverse = cs := by
  rw [endLine.eq_def]
  split
  · rename_i line ends
    rw [List.reverse_eq_cons_iff] at ends
    exact absurd (by rw [ends, List.getLast?_concat]) h
  · exact List.reverse_reverse cs

/-- Lines that are written one after the other are read as they are. -/
theorem lines_unlines_append {ls : List String} (h : ∀ l ∈ ls, IsLine l) (rest : String) :
    lines (unlines ls ++ rest) = ls ++ lines rest := by
  induction ls with
  | nil => simp [unlines]
  | cons l ls ih =>
    obtain ⟨⟨unbroken, noReturn⟩, later⟩ := List.forall_mem_cons.mp h
    have chars : (unlines (l :: ls) ++ rest).toList =
        l.toList ++ '\n' :: (unlines ls ++ rest).toList := by
      simp [unlines_cons]
    rw [lines, chars, linesFrom_append_lineFeed _ unbroken, List.append_nil,
      endLine_reverse noReturn, List.map_cons, String.ofList_toList, ← lines, ih later,
      List.cons_append]

/-! ### Texts that are written as lines -/

/-- The lines that are read where a text has been written as one. -/
def written (s : String) : List String := lines (s ++ "\n")

/-- What is read up to a line feed does not depend on what comes after it. -/
theorem linesFrom_append_cons (line cs rest : List Char) :
    linesFrom line (cs ++ '\n' :: rest) = linesFrom line (cs ++ ['\n']) ++ linesFrom [] rest := by
  induction cs generalizing line with
  | nil => rfl
  | cons c cs ih =>
    rw [List.cons_append, List.cons_append, linesFrom, linesFrom]
    split
    · rw [ih, List.cons_append]
    · exact ih (c :: line)

/-- A text of lines is read line by line, however they break. -/
theorem lines_unlines (ls : List String) : lines (unlines ls) = ls.flatMap written := by
  induction ls with
  | nil => rfl
  | cons l ls ih =>
    have chars : (unlines (l :: ls)).toList = l.toList ++ '\n' :: (unlines ls).toList := by
      simp [unlines_cons]
    have own : (l ++ "\n").toList = l.toList ++ ['\n'] := by simp
    rw [List.flatMap_cons, ← ih, written, lines, chars, linesFrom_append_cons, List.map_append,
      lines, own, ← lines]

/-- Each line feed in a text breaks its line once more. -/
theorem length_written (s : String) : (written s).length = s.toList.count '\n' + 1 := by
  have counted : ∀ line cs, (linesFrom line (cs ++ ['\n'])).length = cs.count '\n' + 1 := by
    intro line cs
    induction cs generalizing line with
    | nil => rfl
    | cons c cs ih =>
      rw [List.cons_append, linesFrom, List.count_cons]
      split
      · rename_i feed
        rw [List.length_cons, ih, feed]
        rfl
      · rename_i other
        rw [ih, if_neg (by simpa using other), Nat.add_zero]
  rw [written, lines, List.length_map, String.toList_append]
  exact counted [] s.toList

/-- A line that has begun with some characters ends as the rest of it does by itself. -/
theorem endLine_append {line : List Char} (h : line.head? ≠ some '\r') (more : List Char) :
    endLine (more ++ line) = line.reverse ++ endLine more := by
  cases more with
  | nil =>
    have ends : endLine line.reverse.reverse = line.reverse :=
      endLine_reverse (by rwa [List.getLast?_reverse])
    rw [List.reverse_reverse] at ends
    rw [List.nil_append, ends]
    exact (List.append_nil _).symm
  | cons c more =>
    rw [List.cons_append]
    by_cases ret : c = '\r'
    · rw [ret]
      exact List.reverse_append
    · rw [endLine, endLine, List.reverse_cons, List.reverse_append, List.reverse_cons,
        List.append_assoc]
      · exact fun _ same => ret (List.cons.inj same).1
      · exact fun _ same => ret (List.cons.inj same).1

/-- What a line has begun with stands before the first line that is read. -/
theorem linesFrom_append_begun {line : List Char} (h : line.head? ≠ some '\r')
    (more cs : List Char) : linesFrom (more ++ line) (cs ++ ['\n']) =
      (linesFrom more (cs ++ ['\n'])).modifyHead (line.reverse ++ ·) := by
  induction cs generalizing more with
  | nil => exact congrArg (· :: []) (endLine_append h more)
  | cons c cs ih =>
    rw [List.cons_append, linesFrom, linesFrom]
    split
    · rw [endLine_append h]
      rfl
    · exact ih (c :: more)

/-- A text on one line stands before the first line of what is written behind it. -/
theorem written_append {s : String} (h : IsLine s) (t : String) :
    written (s ++ t) = (written t).modifyHead (s ++ ·) := by
  have first : s.toList.reverse.head? ≠ some '\r' := by
    rw [List.head?_reverse]
    exact h.noReturn
  have read := linesFrom_append_begun first [] t.toList
  rw [List.nil_append, List.reverse_reverse] at read
  have feed : "\n".toList = ['\n'] := rfl
  rw [written, written, lines, lines, String.append_assoc, String.toList_append,
    linesFrom_append _ h.unbroken, List.append_nil, String.toList_append, feed, read]
  cases linesFrom [] (t.toList ++ ['\n']) with
  | nil => rfl
  | cons l ls =>
    simp only [List.modifyHead_cons, List.map_cons, String.ofList_append, String.ofList_toList]

/-! ### Blanks -/

theorem mem_dropEndWhile {p : Char → Bool} {c : Char} {cs : List Char}
    (h : c ∈ dropEndWhile p cs) : c ∈ cs :=
  List.mem_reverse.mp ((List.dropWhile_sublist p).subset (List.mem_reverse.mp h))

theorem mem_trimEnd {c : Char} {s : String} (h : c ∈ (trimEnd s).toList) : c ∈ s.toList := by
  rw [trimEnd, String.toList_ofList] at h
  exact mem_dropEndWhile h

theorem mem_trim {c : Char} {s : String} (h : c ∈ (trim s).toList) : c ∈ s.toList := by
  rw [trim, String.toList_ofList] at h
  exact (List.dropWhile_sublist isBlank).subset (mem_dropEndWhile h)

/-- A text whose blanks at the ends have been taken off does not end in one. -/
theorem not_isBlank_of_getLast?_trim {c : Char} {s : String}
    (h : (trim s).toList.getLast? = some c) : isBlank c = false := by
  rw [trim, String.toList_ofList, dropEndWhile, List.getLast?_reverse] at h
  have first := List.head?_dropWhile_not isBlank (s.toList.dropWhile isBlank).reverse
  rw [h] at first
  exact first

/-- A text without blanks stays as it is. -/
theorem trim_eq_self {s : String} (h : ∀ c ∈ s.toList, isBlank c = false) : trim s = s := by
  have keep (cs : List Char) (plain : ∀ c ∈ cs, isBlank c = false) : cs.dropWhile isBlank = cs := by
    cases cs with
    | nil => rfl
    | cons c rest => simp [plain c List.mem_cons_self]
  rw [trim, keep _ h, dropEndWhile, keep _ (fun c hc => h c (List.mem_reverse.mp hc)),
    List.reverse_reverse, String.ofList_toList]

/-- A text that begins with something else than a blank still does when it is trimmed. -/
theorem head?_trim {c : Char} {s : String} (first : s.toList.head? = some c)
    (h : isBlank c = false) : (trim s).toList.head? = some c := by
  obtain ⟨rest, split⟩ : ∃ rest, s.toList = c :: rest := List.head?_eq_some_iff.mp first
  rw [trim, String.toList_ofList, split, List.dropWhile_cons_of_neg (by simp [h]), dropEndWhile,
    List.reverse_cons, List.dropWhile_append, List.head?_reverse]
  split <;> simp [h]

end Text

/-- A line of code holds characters of the text, and no line feed. -/
theorem mem_codeLines {c : Char} {l text : String} (hl : l ∈ codeLines text)
    (hc : c ∈ l.toList) : c ∈ text.toList ∧ c ≠ '\n' := by
  obtain ⟨line, hline, rfl⟩ := List.mem_map.mp hl
  obtain ⟨cs, hcs, rfl⟩ := List.mem_map.mp hline
  have there : c ∈ cs := by simpa using Text.mem_trimEnd hc
  rcases Text.mem_linesFrom hcs there with begun | found
  · simp at begun
  · exact found

theorem codeLines_eq_nil_iff {text : String} : codeLines text = [] ↔ text = "" := by
  rw [codeLines, List.map_eq_nil_iff, Text.lines_eq_nil_iff]

end Blockware
