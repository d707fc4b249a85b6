import Mathlib.Data.List.Infix
import ScrollStory.Article.Validity
import ScrollStory.Proofs.Decimal.Whole

/-!
# Paths of places

The path of a place is a text, with points between its steps and with the index of a part in
brackets behind its name. What such a text says is what the place says: a path that begins with a
page is that of a place on this page, and the frames and components that it names are those on the
way to the place (`ScrollStory.Place.page?_of_prefix`, `ScrollStory.Place.names_path_iff`).
-/

namespace ScrollStory

/-! ## Pieces of texts -/

namespace Text

variable {separator : Char}

/-- The pieces of two texts with a separator between them. -/
theorem pieces_append_cons (separator : Char) (before behind : List Char) :
    pieces separator (before ++ separator :: behind) =
      pieces separator before ++ pieces separator behind := by
  induction before with
  | nil => simp [pieces]
  | cons c before ih =>
      rw [List.cons_append, pieces, ih, pieces]
      by_cases cut : c = separator
      · rw [if_pos cut, if_pos cut, List.cons_append]
      · obtain ⟨first, rest, split⟩ := List.exists_cons_of_ne_nil (pieces_ne_nil separator before)
        rw [if_neg cut, if_neg cut, split]
        rfl

/-- A text begins with what its first piece begins with. -/
theorem exists_head_pieces {part : List Char} (uncut : separator ∉ part) (behind : List Char) :
    ∃ piece rest, pieces separator (part ++ behind) = piece :: rest ∧ part <+: piece := by
  induction part with
  | nil =>
      obtain ⟨first, rest, split⟩ := List.exists_cons_of_ne_nil (pieces_ne_nil separator behind)
      exact ⟨first, rest, split, List.nil_prefix⟩
  | cons c part ih =>
      obtain ⟨apart, uncut⟩ := not_or.mp (List.mem_cons.not.mp uncut)
      obtain ⟨piece, rest, split, starts⟩ := ih uncut
      refine ⟨c :: piece, rest, ?_, (List.prefix_cons_inj c).mpr starts⟩
      rw [List.cons_append, pieces, if_neg (Ne.symm apart), split]

/-- What stands behind a separator is the beginning of a piece that is not the first. -/
theorem exists_piece_of_infix {part cs : List Char} (uncut : separator ∉ part)
    (inside : separator :: part <:+: cs) :
    ∃ piece ∈ (pieces separator cs).tail, part <+: piece := by
  obtain ⟨before, behind, rfl⟩ := inside
  obtain ⟨piece, rest, split, starts⟩ := exists_head_pieces uncut behind
  obtain ⟨first, others, cut⟩ := List.exists_cons_of_ne_nil (pieces_ne_nil separator before)
  refine ⟨piece, ?_, starts⟩
  rw [List.append_assoc, List.cons_append, pieces_append_cons, split, cut, List.cons_append,
    List.tail_cons]
  exact List.mem_append_right _ List.mem_cons_self

/-- A piece has no characters but those of the text. -/
theorem mem_of_mem_pieces {cs piece : List Char} (listed : piece ∈ pieces separator cs) :
    piece ⊆ cs := by
  induction cs generalizing piece with
  | nil =>
      cases List.mem_singleton.mp listed
      exact List.Subset.refl _
  | cons c cs ih =>
      obtain ⟨first, rest, split⟩ := List.exists_cons_of_ne_nil (pieces_ne_nil separator cs)
      rw [split] at ih
      rw [pieces, split] at listed
      split at listed
      · rcases List.mem_cons.mp listed with rfl | later
        · exact List.nil_subset _
        · exact List.subset_cons_of_subset c (ih later)
      · rcases List.mem_cons.mp listed with rfl | later
        · exact List.cons_subset_cons c (ih List.mem_cons_self)
        · exact List.subset_cons_of_subset c (ih (List.mem_cons_of_mem _ later))

/-- What stands before the first separator of a text is told by the text. -/
theorem append_cons_inj {before behind other rest : List Char} (uncut : separator ∉ before)
    (uncut' : separator ∉ other)
    (same : before ++ separator :: behind = other ++ separator :: rest) :
    before = other ∧ behind = rest := by
  have pieces := congrArg (pieces separator) same
  rw [pieces_append uncut, pieces_append uncut'] at pieces
  obtain rfl := (List.cons.inj pieces).1
  exact ⟨rfl, (List.cons.inj (List.append_cancel_left same)).2⟩

end Text

/-! ## Steps of paths -/

namespace Place

theorem toList_indexed (name : String) (i : Nat) :
    (indexed name i).toList = name.toList ++ '[' :: (Decimal.digits i ++ [']']) := by
  simp [indexed, Decimal.plain_ofInt]

/-- The name and the index of a step are told by what begins with the step. -/
theorem indexed_append_inj {name other : String} (plain : '[' ∉ name.toList)
    (plain' : '[' ∉ other.toList) {i j : Nat} {rest rest' : List Char}
    (same : (indexed name i).toList ++ rest = (indexed other j).toList ++ rest') :
    name = other ∧ i = j := by
  simp only [toList_indexed, List.append_assoc, List.cons_append, List.nil_append] at same
  obtain ⟨names, others⟩ := Text.append_cons_inj plain plain' same
  have bracket (n : Nat) : ']' ∉ Decimal.digits n := (Decimal.isDigits_digits n).not_mem (by decide)
  obtain ⟨digits, -⟩ := Text.append_cons_inj (bracket i) (bracket j) others
  exact ⟨String.toList_inj.mp names, Decimal.digits_inj digits⟩

theorem indexed_prefix_inj {name other : String} (plain : '[' ∉ name.toList)
    (plain' : '[' ∉ other.toList) {i j : Nat}
    (starts : (indexed name i).toList <+: (indexed other j).toList) : name = other ∧ i = j := by
  obtain ⟨rest, same⟩ := starts
  exact indexed_append_inj plain plain' (same.trans (List.append_nil _).symm)

/-- An index brings no point into a name. -/
theorem not_mem_indexed {name : String} (plain : '.' ∉ name.toList) (i : Nat) :
    '.' ∉ (indexed name i).toList := by
  have digits : '.' ∉ Decimal.digits i := (Decimal.isDigits_digits i).not_mem (by decide)
  simp [toList_indexed, plain, digits]

/-- The steps of a field: none if a whole part is meant. -/
def fieldSteps (field : String) : List (List Char) :=
  if field = "" then [] else Text.pieces '.' field.toList

/-- A path is cut at its points into the steps of what it is within, and those of its field. -/
theorem pieces_within (part field : String) :
    Text.pieces '.' (within part field).toList =
      Text.pieces '.' part.toList ++ fieldSteps field := by
  unfold within fieldSteps
  by_cases whole : field = ""
  · rw [if_pos whole, if_pos whole, List.append_nil]
  · rw [if_neg whole, if_neg whole, ← Text.pieces_append_cons]
    simp

/-- The path of a field begins with that of what the field is in. -/
theorem prefix_within (part field : String) : part.toList <+: (within part field).toList := by
  unfold within
  split
  · exact List.prefix_rfl
  · rw [String.append_assoc, String.toList_append]
    exact List.prefix_append _ _

/-- No step of a field has an index. -/
theorem not_prefix_fieldSteps {field : String} (plain : '[' ∉ field.toList) {step : List Char}
    (listed : step ∈ fieldSteps field) (name : String) (i : Nat) :
    ¬(indexed name i).toList <+: step := by
  intro starts
  unfold fieldSteps at listed
  split at listed
  · cases listed
  · refine plain (Text.mem_of_mem_pieces listed (starts.subset ?_))
    simp [toList_indexed]

/-! ## Parts that paths name -/

/-- A path leads through the part of a kind with an index. -/
def Names (path name : String) (i : Nat) : Prop :=
  ("." ++ indexed name i).toList <:+: path.toList

/-- The index of the page with a place on it. -/
def page? : Place → Option Nat
  | article _ => none
  | page i _ | frame i _ _ | component i _ _ _ => some i

/-- The parts on the way from a page to a place, with their kinds. -/
def inner : Place → List (String × Nat)
  | article _ | page _ _ => []
  | frame _ j _ => [("frames", j)]
  | component _ j k _ => [("frames", j), ("components", k)]

/-- The field of a place. -/
def field : Place → String
  | article field | page _ field | frame _ _ field | component _ _ _ field => field

/-- The steps of a path to some parts on a page. -/
def innerText (parts : List (String × Nat)) : List Char :=
  parts.flatMap fun part => '.' :: (indexed part.1 part.2).toList

variable {place : Place} {i : Nat}

/-- The path of a place on a page begins with the page and its index. -/
theorem path_eq (onPage : place.page? = some i) :
    place.path =
      within (indexed "pages" i ++ String.ofList (innerText place.inner)) place.field := by
  cases place with
  | article field => cases onPage
  | page _ field | frame _ _ field | component _ _ _ field =>
      cases onPage
      rw [path]
      congr 1
      exact String.toList_inj.mp (by simp [inner, innerText])

/-- Kinds of parts have neither a point nor a bracket in their names. -/
theorem plain_inner (place : Place) :
    ∀ part ∈ place.inner, '.' ∉ part.1.toList ∧ '[' ∉ part.1.toList := by
  cases place <;> simp [inner]

/-- The parts on the way to a place are cut apart again at their points. -/
theorem pieces_innerText {parts : List (String × Nat)} (plain : ∀ part ∈ parts, '.' ∉ part.1.toList)
    {start : List Char} (uncut : '.' ∉ start) :
    Text.pieces '.' (start ++ innerText parts) =
      start :: parts.map fun part => (indexed part.1 part.2).toList := by
  induction parts generalizing start with
  | nil => rw [innerText, List.flatMap_nil, List.append_nil, Text.pieces_of_not_mem uncut]; rfl
  | cons part parts ih =>
      obtain ⟨first, others⟩ := List.forall_mem_cons.mp plain
      rw [innerText, List.flatMap_cons, List.cons_append, Text.pieces_append uncut, List.map_cons]
      exact congrArg (start :: ·) (ih others (not_mem_indexed first part.2))

/-- The path of a place on a page is cut into its page, the parts on the way and the steps of its
field. -/
theorem pieces_path (onPage : place.page? = some i) :
    Text.pieces '.' place.path.toList =
      (indexed "pages" i).toList ::
        (place.inner.map fun part => (indexed part.1 part.2).toList) ++ fieldSteps place.field := by
  have start : '.' ∉ (indexed "pages" i).toList := not_mem_indexed (by decide) i
  rw [path_eq onPage, pieces_within, String.toList_append, String.toList_ofList,
    pieces_innerText (fun part member => (place.plain_inner part member).1) start]

/-- The parts that the path of a place names are those on the way to the place. -/
theorem names_path_iff (onPage : place.page? = some i) (plain : '[' ∉ place.field.toList)
    {name : String} (point : '.' ∉ name.toList) (bracket : '[' ∉ name.toList) {j : Nat} :
    Names place.path name j ↔ (name, j) ∈ place.inner := by
  constructor
  · intro named
    rw [Names, String.toList_append] at named
    obtain ⟨step, listed, starts⟩ :=
      Text.exists_piece_of_infix (not_mem_indexed point j) named
    rw [pieces_path onPage, List.cons_append, List.tail_cons] at listed
    rcases List.mem_append.mp listed with listed | listed
    · obtain ⟨part, member, rfl⟩ := List.mem_map.mp listed
      obtain ⟨rfl, rfl⟩ := indexed_prefix_inj bracket (place.plain_inner part member).2 starts
      exact member
    · exact (not_prefix_fieldSteps plain listed name j starts).elim
  · intro member
    have step : '.' :: (indexed name j).toList <:+: innerText place.inner := by
      rw [innerText, List.flatMap_def]
      exact List.infix_of_mem_flatten (List.mem_map.mpr ⟨(name, j), member, rfl⟩)
    have inside : innerText place.inner <:+:
        (indexed "pages" i ++ String.ofList (innerText place.inner)).toList := by
      rw [String.toList_append, String.toList_ofList]
      exact (List.suffix_append _ _).isInfix
    rw [Names, path_eq onPage, String.toList_append]
    exact (step.trans inside).trans (prefix_within _ _).isInfix

/-- A path that begins with a page is that of a place on this page. -/
theorem page?_of_prefix (plain : '[' ∉ place.field.toList)
    (starts : (indexed "pages" i).toList <+: place.path.toList) : place.page? = some i := by
  cases onPage : place.page? with
  | none =>
      cases place with
      | article field =>
          refine absurd (starts.subset ?_) plain
          simp [toList_indexed]
      | page | frame | component => cases onPage
  | some other =>
      have before : (indexed "pages" other).toList <+: place.path.toList := by
        rw [path_eq onPage]
        refine List.IsPrefix.trans ?_ (prefix_within _ _)
        rw [String.toList_append]
        exact List.prefix_append _ _
      obtain ⟨rest, same⟩ := starts
      obtain ⟨rest', same'⟩ := before
      rw [(indexed_append_inj (by decide) (by decide) (same.trans same'.symm)).2]

end Place

end ScrollStory
