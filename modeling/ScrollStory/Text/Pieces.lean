/-!
# Cutting text at a separator

A list of characters is cut at every separator. There is always one piece more than there are
separators, so pieces may be empty.
-/

namespace ScrollStory

namespace Text

/-- The pieces between the separators of a list. -/
def pieces (separator : Char) : List Char → List (List Char)
  | [] => [[]]
  | c :: cs =>
    if c = separator then [] :: pieces separator cs
    else
      match pieces separator cs with
      | [] => [[c]]
      | piece :: rest => (c :: piece) :: rest

/-- There is at least one piece. -/
theorem pieces_ne_nil (separator : Char) (cs : List Char) : pieces separator cs ≠ [] := by
  cases cs with
  | nil => simp [pieces]
  | cons c cs =>
    simp only [pieces]
    split
    · simp
    · split <;> simp

/-- Pieces with separators between them are the whole again. -/
theorem intercalate_pieces (separator : Char) (cs : List Char) :
    [separator].intercalate (pieces separator cs) = cs := by
  induction cs with
  | nil => simp [pieces]
  | cons c cs ih =>
    obtain ⟨piece, rest, h⟩ := List.exists_cons_of_ne_nil (pieces_ne_nil separator cs)
    rw [h] at ih
    by_cases hc : c = separator
    · simp [pieces, hc, h, ih]
    · cases rest with
      | nil => simpa [pieces, hc, h] using ih
      | cons next rest => simpa [pieces, hc, h] using ih

/-- A list without a separator is one piece. -/
theorem pieces_of_not_mem {separator : Char} {cs : List Char} (h : separator ∉ cs) :
    pieces separator cs = [cs] := by
  induction cs with
  | nil => rfl
  | cons c cs ih =>
    simp only [List.mem_cons, not_or] at h
    simp [pieces, Ne.symm h.1, ih h.2]

/-- What stands before a separator is the first piece. -/
theorem pieces_append {separator : Char} {before : List Char} (h : separator ∉ before)
    (behind : List Char) :
    pieces separator (before ++ separator :: behind) = before :: pieces separator behind := by
  induction before with
  | nil => rw [List.nil_append, pieces, if_pos rfl]
  | cons c before ih =>
    simp only [List.mem_cons, not_or] at h
    rw [List.cons_append, pieces, if_neg (Ne.symm h.1), ih h.2]

/-- The pieces of a string. -/
def split (separator : Char) (s : String) : List String :=
  (pieces separator s.toList).map String.ofList

/-- A string without a separator is one piece. -/
theorem split_of_not_mem {separator : Char} {s : String} (h : separator ∉ s.toList) :
    split separator s = [s] := by
  simp [split, pieces_of_not_mem h]

end Text

end ScrollStory
