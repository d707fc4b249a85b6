import Mathlib.Data.List.Infix
import ScrollStory.Html.Escape

/-!
# Entities

What is escaped can be read back. A reader goes through a text from left to right and puts the
character that an entity stands for in the place of each entity. If entities can be told apart, it
reads what has been written character by character (`ScrollStory.Html.Entity.replace_flatMap`), so
the value of an attribute reads as what the attribute was given
(`ScrollStory.Html.unescape_escapeAttribute`).
-/

namespace ScrollStory

namespace Html

/-- An entity and the character that it stands for. -/
structure Entity where
  chars : List Char
  plain : Char
  deriving DecidableEq, Repr

/-- The entities of texts between tags. -/
def textEntities : List Entity :=
  [⟨"&amp;".toList, '&'⟩, ⟨"&lt;".toList, '<'⟩, ⟨"&gt;".toList, '>'⟩]

/-- The entities of values of attributes. -/
def attributeEntities : List Entity :=
  [⟨"&quot;".toList, '"'⟩, ⟨"&#39;".toList, '\''⟩] ++ textEntities

namespace Entity

/-- Characters with every entity replaced by the character that it stands for, when some of them
are skipped first. -/
def replace (entities : List Entity) : Nat → List Char → List Char
  | _, [] => []
  | skip + 1, _ :: cs => replace entities skip cs
  | 0, c :: cs =>
    match entities.find? (·.chars.isPrefixOf (c :: cs)) with
    | some entity => entity.plain :: replace entities (entity.chars.length - 1) cs
    | none => c :: replace entities 0 cs

/-- Entities that can be told apart from one another and from other text. -/
structure Apart (entities : List Entity) : Prop where
  marked : ∀ entity ∈ entities, entity.chars.head? = some '&'
  unlike : ∀ entity ∈ entities, ∀ other ∈ entities, entity.chars <+: other.chars → entity = other

/-- A character is written as its entity, or as it is if no entity begins with it. -/
def Writes (entities : List Entity) (c : Char) (written : List Char) : Prop :=
  ⟨written, c⟩ ∈ entities ∨ (c ≠ '&' ∧ written = [c])

/-- A character that is written by some entities is written by more of them. -/
theorem Writes.mono {entities more : List Entity} {c : Char} {written : List Char}
    (writes : Writes entities c written) (included : ∀ entity ∈ entities, entity ∈ more) :
    Writes more c written :=
  writes.imp_left (included _)

variable {entities : List Entity} {c : Char} {written : List Char}

/-- Characters that are skipped come out of the replacement no more. -/
theorem replace_skip (entities : List Entity) (front rest : List Char) :
    replace entities front.length (front ++ rest) = replace entities 0 rest := by
  induction front with
  | nil => rfl
  | cons c front ih => exact ih

/-- The entity that a text begins with is the one that is found. -/
theorem find?_of_mem (apart : Apart entities) {entity : Entity} (member : entity ∈ entities)
    (rest : List Char) :
    entities.find? (·.chars.isPrefixOf (entity.chars ++ rest)) = some entity := by
  have isSome : (entities.find? (·.chars.isPrefixOf (entity.chars ++ rest))).isSome = true :=
    List.find?_isSome.mpr ⟨entity, member, List.isPrefixOf_iff_prefix.mpr (List.prefix_append ..)⟩
  obtain ⟨other, found⟩ := Option.isSome_iff_exists.mp isSome
  have listed : other ∈ entities := List.mem_of_find?_eq_some found
  have begins : other.chars <+: entity.chars ++ rest :=
    List.isPrefixOf_iff_prefix.mp (List.find?_eq_some_iff_append.mp found).1
  rw [found]
  rcases List.prefix_or_prefix_of_prefix begins (List.prefix_append entity.chars rest) with
    before | before
  · rw [apart.unlike other listed entity member before]
  · rw [apart.unlike entity member other listed before]

/-- What a character is written as is read as the character. -/
theorem replace_written (apart : Apart entities) (writes : Writes entities c written)
    (rest : List Char) :
    replace entities 0 (written ++ rest) = c :: replace entities 0 rest := by
  rcases writes with member | ⟨unmarked, rfl⟩
  · have found := find?_of_mem apart member rest
    obtain ⟨others, rfl⟩ := List.head?_eq_some_iff.mp (apart.marked _ member)
    rw [List.cons_append] at found ⊢
    rw [replace, found]
    dsimp only
    rw [List.length_cons, Nat.add_sub_cancel, replace_skip]
  · have none : entities.find? (·.chars.isPrefixOf (c :: rest)) = none := by
      refine List.find?_eq_none.mpr fun entity member begins => ?_
      obtain ⟨others, chars⟩ := List.head?_eq_some_iff.mp (apart.marked entity member)
      rw [chars] at begins
      have before := List.isPrefixOf_iff_prefix.mp begins
      exact unmarked (List.cons_prefix_cons.mp before).1.symm
    rw [List.singleton_append, replace, none]

/-- What is written character by character is read back. -/
theorem replace_flatMap (apart : Apart entities) {write : Char → List Char}
    (writes : ∀ c, Writes entities c (write c)) (cs : List Char) :
    replace entities 0 (cs.flatMap write) = cs := by
  induction cs with
  | nil => rfl
  | cons c cs ih => rw [List.flatMap_cons, replace_written apart (writes c), ih]

end Entity

/-- A text with every entity replaced by the character that it stands for. -/
def unescape (entities : List Entity) (s : String) : String :=
  String.ofList (Entity.replace entities 0 s.toList)

theorem apart_attributeEntities : Entity.Apart attributeEntities where
  marked := by decide
  unlike := by decide

/-- Characters between tags are written by the entities of texts. -/
theorem writes_textChar (c : Char) : Entity.Writes textEntities c (textChar c) := by
  unfold textChar
  split
  · rename_i ampersand
    subst ampersand
    exact .inl (by decide)
  · rename_i unmarked
    split
    · rename_i less
      subst less
      exact .inl (by decide)
    · split
      · rename_i greater
        subst greater
        exact .inl (by decide)
      · exact .inr ⟨unmarked, rfl⟩

/-- Characters in attributes are written by the entities of attributes. -/
theorem writes_attributeChar (c : Char) :
    Entity.Writes attributeEntities c (attributeChar c) := by
  unfold attributeChar
  split
  · rename_i quote
    subst quote
    exact .inl (by decide)
  · split
    · rename_i apostrophe
      subst apostrophe
      exact .inl (by decide)
    · exact (writes_textChar c).mono fun entity member => List.mem_append_right _ member

/-- The value of an attribute reads as what it was written for. -/
theorem unescape_escapeAttribute (s : String) :
    unescape attributeEntities (escapeAttribute s) = s := by
  rw [unescape, escapeAttribute, String.toList_ofList,
    Entity.replace_flatMap apart_attributeEntities writes_attributeChar, String.ofList_toList]

end Html

end ScrollStory
