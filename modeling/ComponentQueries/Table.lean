/-! Association lists in which a key has one entry. -/
namespace ComponentQueries.Table

variable {α : Type}

/-- Puts a value under a key. A value that was there before is replaced, and a
new key goes to the end. -/
def insert (key : String) (value : α) : List (String × α) → List (String × α)
  | [] => [(key, value)]
  | entry :: others =>
    if entry.1 = key then (key, value) :: others else entry :: insert key value others

theorem lookup_insert_self (key : String) (value : α) (table : List (String × α)) :
    (insert key value table).lookup key = some value := by
  induction table with
  | nil => simp [insert]
  | cons entry others ih =>
    obtain ⟨first, held⟩ := entry
    by_cases h : first = key
    · simp [insert, h]
    · have hKey : (key == first) = false := beq_eq_false_iff_ne.mpr (Ne.symm h)
      simp [insert, h, List.lookup_cons, hKey, ih]

theorem lookup_insert_of_ne {key other : String} (h : other ≠ key) (value : α)
    (table : List (String × α)) :
    (insert key value table).lookup other = table.lookup other := by
  have hKey : (other == key) = false := beq_eq_false_iff_ne.mpr h
  induction table with
  | nil => simp [insert, List.lookup_cons, hKey]
  | cons entry others ih =>
    obtain ⟨first, held⟩ := entry
    by_cases hFirst : first = key
    · simp [insert, hFirst, List.lookup_cons, hKey]
    · simp [insert, hFirst, List.lookup_cons, ih]

end ComponentQueries.Table
