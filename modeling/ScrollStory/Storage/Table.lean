/-!
# Tables

A finite table is a list of keys with their values. Putting a value at a key replaces the one that
is there, so that a table that was built by putting holds every key once.
-/

namespace ScrollStory

/-- A finite table. -/
abbrev Table (κ ν : Type) := List (κ × ν)

namespace Table

variable {κ ν : Type} [DecidableEq κ]

/-- The value at a key. -/
def get? : Table κ ν → κ → Option ν
  | [], _ => none
  | (k, value) :: rest, key => if k = key then some value else get? rest key

/-- A table without a key. -/
def erase (table : Table κ ν) (key : κ) : Table κ ν :=
  table.filter (·.1 ≠ key)

/-- A table with a value at a key. -/
def put (table : Table κ ν) (key : κ) (value : ν) : Table κ ν :=
  (key, value) :: erase table key

theorem get?_nil (key : κ) : get? ([] : Table κ ν) key = none := rfl

theorem get?_cons (entry : κ × ν) (table : Table κ ν) (key : κ) :
    get? (entry :: table) key = if entry.1 = key then some entry.2 else get? table key := rfl

/-- A filter on keys hides exactly the keys that it drops. -/
theorem get?_filter (table : Table κ ν) (p : κ → Bool) (key : κ) :
    get? (table.filter (fun entry => p entry.1)) key =
      if p key then get? table key else none := by
  induction table with
  | nil => simp [get?_nil]
  | cons entry table ih =>
    by_cases hp : p entry.1
    · rw [List.filter_cons, if_pos hp, get?_cons, get?_cons, ih]
      by_cases h : entry.1 = key
      · subst h
        simp [hp]
      · simp [h]
    · rw [List.filter_cons, if_neg hp, get?_cons, ih]
      by_cases h : entry.1 = key
      · subst h
        simp [hp]
      · simp [h]

/-- An erased key has no value, and every other key has the one that it had. -/
theorem get?_erase (table : Table κ ν) (key key' : κ) :
    get? (erase table key) key' = if key' = key then none else get? table key' := by
  rw [erase, get?_filter table (fun k => decide (k ≠ key)) key']
  by_cases h : key' = key <;> simp [h]

/-- A key has the value that was put there last. -/
theorem get?_put (table : Table κ ν) (key key' : κ) (value : ν) :
    get? (put table key value) key' = if key' = key then some value else get? table key' := by
  rw [put, get?_cons, get?_erase]
  by_cases h : key = key'
  · simp [h]
  · simp [h, Ne.symm h]

end Table

end ScrollStory
