import ResultFilter.Text.Basic

/-!
# Dictionaries

A dictionary holds values under texts, in ascending order of the texts; each text occurs once.

## Main definitions

* `Dict` — the pairs of a dictionary, ascending.
* `Dict.find?`, `Dict.insert` — reads and writes.
* `Dict.ofList` — the dictionary of pairs in any order; of equal keys the last counts.
-/

namespace ResultFilter

/-- A dictionary, as its pairs in ascending order of the keys. -/
abbrev Dict (α : Type) := List (Text × α)

namespace Dict

variable {α β : Type}

/-- The value under a key. -/
def find? (key : Text) : Dict α → Option α
  | [] => none
  | (k, v) :: rest => if k = key then some v else find? key rest

/-- Puts a value under a key, in place of an earlier one. -/
def insert (key : Text) (value : α) : Dict α → Dict α
  | [] => [(key, value)]
  | (k, v) :: rest =>
    if k = key then (key, value) :: rest
    else if Text.lt key k then (key, value) :: (k, v) :: rest
    else (k, v) :: insert key value rest

/-- The dictionary of pairs in any order; of equal keys the last counts. -/
def ofList (pairs : List (Text × α)) : Dict α :=
  pairs.foldl (fun dict pair => insert pair.1 pair.2 dict) []

/-- The keys of a dictionary. -/
def keys (dict : Dict α) : List Text :=
  dict.map (·.1)

@[simp] theorem find?_nil (key : Text) : find? key ([] : Dict α) = none := rfl

theorem find?_insert_self (key : Text) (value : α) (dict : Dict α) :
    find? key (insert key value dict) = some value := by
  induction dict with
  | nil => simp [insert, find?]
  | cons pair rest ih =>
    obtain ⟨k, v⟩ := pair
    simp only [insert]
    split
    · simp [find?]
    · split
      · simp [find?]
      · simp [find?, *]

theorem find?_insert_of_ne {key other : Text} (h : key ≠ other) (value : α) (dict : Dict α) :
    find? other (insert key value dict) = find? other dict := by
  induction dict with
  | nil => simp [insert, find?, h]
  | cons pair rest ih =>
    obtain ⟨k, v⟩ := pair
    simp only [insert]
    split
    · next hk =>
      subst hk
      simp [find?, h]
    · split
      · simp [find?, h]
      · simp only [find?, ih]

end Dict

end ResultFilter
