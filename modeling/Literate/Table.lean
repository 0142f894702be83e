/-! # Tables that keep their order

A table is a list of keys with their values, in the order in which the keys came in. Setting a key
that is there changes its value and keeps its place. -/

namespace Literate

/-- Keys and values in order of insertion. -/
abbrev Table (κ α : Type) := List (κ × α)

namespace Table

variable {κ α β : Type} [BEq κ]

/-- The value of a key. -/
def get? (table : Table κ α) (key : κ) : Option α := table.lookup key

/-- Whether a key is there. -/
def has (table : Table κ α) (key : κ) : Bool := (table.get? key).isSome

/-- The table with a value set: in the place of the old one, or at the end. -/
def set : Table κ α → κ → α → Table κ α
  | [], key, value => [(key, value)]
  | (k, v) :: rest, key, value =>
    if key == k then (k, value) :: rest else (k, v) :: set rest key value

theorem get?_set_self [LawfulBEq κ] (table : Table κ α) (key : κ) (value : α) :
    (table.set key value).get? key = some value := by
  unfold get?
  induction table with
  | nil => exact List.lookup_cons_self
  | cons entry rest ih =>
      obtain ⟨k, v⟩ := entry
      unfold set
      by_cases h : (key == k) = true
      · rw [if_pos h, List.lookup_cons, h]
      · rw [if_neg h, List.lookup_cons, Bool.eq_false_iff.2 h]
        exact ih

theorem get?_set_of_ne [LawfulBEq κ] (table : Table κ α) {key key' : κ} (hne : key' ≠ key)
    (value : α) : (table.set key value).get? key' = table.get? key' := by
  have hkey : (key' == key) = false := by simpa using hne
  unfold get?
  induction table with
  | nil =>
      unfold set
      rw [List.lookup_cons, hkey]
  | cons entry rest ih =>
      obtain ⟨k, v⟩ := entry
      unfold set
      by_cases h : (key == k) = true
      · obtain rfl := eq_of_beq h
        rw [if_pos h, List.lookup_cons, List.lookup_cons, hkey]
      · rw [if_neg h, List.lookup_cons, List.lookup_cons, ih]

/-- The table without a key. -/
def erase : Table κ α → κ → Table κ α
  | [], _ => []
  | (k, v) :: rest, key => if key == k then rest else (k, v) :: erase rest key

/-- The keys in order. -/
def keys (table : Table κ α) : List κ := table.map Prod.fst

/-- The table with every value changed. -/
def mapValues (f : α → β) (table : Table κ α) : Table κ β :=
  table.map fun (key, value) => (key, f value)

end Table
end Literate
