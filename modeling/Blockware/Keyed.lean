/-!
# Lists with one element per key

A list in which a later element takes the place of an earlier one with the same key. Places are those
of the first element of each key, contents those of the last one.
-/

namespace Blockware.Keyed

variable {α κ : Type} [DecidableEq κ]

/-- Puts an element into the place of the one with its key, or at the end. -/
def put (key : α → κ) (xs : List α) (x : α) : List α :=
  match xs with
  | [] => [x]
  | y :: rest => if key y = key x then x :: rest else y :: put key rest x

/-- The elements of a list, put one after the other. -/
def collect (key : α → κ) (xs : List α) : List α := xs.foldl (put key) []

/-- The element of a key. -/
def find? (key : α → κ) (k : κ) (xs : List α) : Option α := xs.find? fun x => key x = k

theorem find?_put_self (key : α → κ) (xs : List α) (x : α) :
    find? key (key x) (put key xs x) = some x := by
  induction xs with
  | nil => simp [find?, put]
  | cons y rest ih =>
    by_cases same : key y = key x
    · simp [find?, put, same]
    · simpa [find?, put, same] using ih

theorem find?_put_of_ne (key : α → κ) (xs : List α) {x : α} {k : κ} (ne : k ≠ key x) :
    find? key k (put key xs x) = find? key k xs := by
  induction xs with
  | nil => simp [find?, put, Ne.symm ne]
  | cons y rest ih =>
    by_cases same : key y = key x
    · simp [find?, put, same, Ne.symm ne]
    · simp only [find?, put, same, ↓reduceIte, List.find?_cons]
      split
      · rfl
      · exact ih

end Blockware.Keyed
