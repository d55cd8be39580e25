/-!
# Dictionaries in key order

A dictionary is the list of its entries in the order of their keys, so equal dictionaries are equal
lists and every traversal goes in key order. Keys compare by code point, which is the order of their
UTF-8 bytes.

- `Dict.insert`, `Dict.erase`, `Dict.get?`: one key at a time; inserting a key again replaces its value.
- `Dict.ofList`: the dictionary of a list of entries, a later entry of a key replacing an earlier one.
-/

namespace Blockware

/-- Entries in ascending key order, each key once. -/
abbrev Dict (α : Type) := List (String × α)

namespace Dict

variable {α : Type}

/-- Sets the value of a key. -/
def insert (d : Dict α) (key : String) (value : α) : Dict α :=
  match d with
  | [] => [(key, value)]
  | (k, v) :: rest =>
    if key < k then (key, value) :: (k, v) :: rest
    else if key = k then (key, value) :: rest
    else (k, v) :: insert rest key value

/-- The value of a key. -/
def get? (d : Dict α) (key : String) : Option α :=
  match d with
  | [] => none
  | (k, v) :: rest => if key = k then some v else get? rest key

/-- The dictionary without a key. -/
def erase (d : Dict α) (key : String) : Dict α :=
  match d with
  | [] => []
  | (k, v) :: rest => if key = k then rest else (k, v) :: erase rest key

/-- The keys, in order. -/
def keys (d : Dict α) : List String := d.map Prod.fst

/-- The dictionary of some entries; of a key that occurs more than once the last value counts. -/
def ofList (entries : List (String × α)) : Dict α :=
  entries.foldl (fun d entry => insert d entry.1 entry.2) []

@[simp] theorem get?_nil (key : String) : get? ([] : Dict α) key = none := rfl

@[simp] theorem get?_insert_self (d : Dict α) (key : String) (value : α) :
    get? (insert d key value) key = some value := by
  induction d with
  | nil => simp [insert, get?]
  | cons entry rest ih =>
    obtain ⟨k, v⟩ := entry
    by_cases before : key < k
    · simp [insert, get?, before]
    · by_cases same : key = k
      · simp [insert, get?, same]
      · simp [insert, get?, before, same, ih]

theorem get?_insert_of_ne (d : Dict α) {key other : String} (value : α) (ne : other ≠ key) :
    get? (insert d key value) other = get? d other := by
  induction d with
  | nil => simp [insert, get?, ne]
  | cons entry rest ih =>
    obtain ⟨k, v⟩ := entry
    by_cases before : key < k
    · simp [insert, get?, before, ne]
    · by_cases same : key = k
      · subst same
        simp [insert, get?, ne]
      · simp [insert, get?, before, same, ih]

end Dict
end Blockware
