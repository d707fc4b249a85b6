import Mathlib.Logic.Function.Defs
import ScrollStory.Proofs.Html.Addresses
import ScrollStory.Proofs.Html.Entities
import ScrollStory.Proofs.Html.Markup

/-!
# Escaping is safe and can be undone

What is written character by character, each either as its entity or as it is, has an entity at every
ampersand, because the characters that an entity goes on with are no ampersands. With what entities
are read back as this gives all that is wanted of both ways to escape a string
(`ScrollStory.Html.reversible_escapes`). The escaping of attributes is one pass over the string; it
writes what the escaping of texts writes with the quotes replaced afterwards
(`ScrollStory.Html.escapeAttribute_eq_replace`).
-/

namespace ScrollStory

namespace Html

/-! ## Ampersands -/

/-- What begins with a character that is not in front stands behind what is in front. -/
theorem suffix_of_suffix_append {α : Type} {front tail rest : List α} {a : α} (absent : a ∉ front)
    (suffix : a :: rest <:+ front ++ tail) : a :: rest <:+ tail := by
  induction front with
  | nil => exact suffix
  | cons b front ih =>
      rw [List.mem_cons, not_or] at absent
      rw [List.cons_append, List.suffix_cons_iff] at suffix
      rcases suffix with same | behind
      · exact (absent.1 (List.cons.inj same).1).elim
      · exact ih absent.2 behind

namespace Entity

variable {entities : List Entity}

/-- Behind its first character, no entity has a character that an entity begins with. -/
def Single (entities : List Entity) : Prop := ∀ entity ∈ entities, '&' ∉ entity.chars.tail

instance : Decidable (Single entities) := inferInstanceAs (Decidable (∀ _ ∈ _, _))

/-- In what is written character by character, every ampersand begins an entity. -/
theorem marked_flatMap (apart : Apart entities) (single : Single entities)
    {write : Char → List Char} (writes : ∀ c, Writes entities c (write c)) {cs rest : List Char}
    (suffix : '&' :: rest <:+ cs.flatMap write) :
    ∃ entity ∈ entities, entity.chars <+: '&' :: rest := by
  induction cs with
  | nil => exact (List.cons_ne_nil _ _ (List.suffix_nil.mp suffix)).elim
  | cons c cs ih =>
      rw [List.flatMap_cons] at suffix
      rcases writes c with member | ⟨unmarked, written⟩
      · obtain ⟨others, chars⟩ := List.head?_eq_some_iff.mp (apart.marked _ member)
        have absent := single _ member
        dsimp only at chars absent
        rw [chars, List.tail_cons] at absent
        -- The ampersand is the one that begins the entity, or it stands behind the entity.
        rw [chars, List.cons_append, List.suffix_cons_iff] at suffix
        rcases suffix with here | behind
        · exact ⟨_, member, by rw [here, ← List.cons_append, ← chars]; exact List.prefix_append _ _⟩
        · exact ih (suffix_of_suffix_append absent behind)
      · apply ih
        rw [written] at suffix
        exact suffix_of_suffix_append (by simpa using unmarked.symm) suffix

end Entity

/-! ## Both ways to escape -/

/-- Escaping a string leaves none of the characters that it keeps out and no ampersand but those of
entities, can be undone by reading the entities, tells strings apart, and changes no identifier. -/
structure Reversible (escape : String → String) (entities : List Entity) (keptOut : List Char) :
    Prop where
  clean : ∀ s, ∀ c ∈ keptOut, c ∉ (escape s).toList
  marked : ∀ s rest, '&' :: rest <:+ (escape s).toList →
    ∃ entity ∈ entities, entity.chars <+: '&' :: rest
  reads : ∀ s, unescape entities (escape s) = s
  injective : Function.Injective escape
  identity : ∀ s, isIdentifier s = true → escape s = s

/-- Escaping character by character is reversible if entities are written for the characters that
are kept out and not for those of names. -/
theorem reversible_of_chars {escape : String → String} {entities : List Entity}
    {keptOut : List Char} {write : Char → List Char}
    (charwise : ∀ s, escape s = String.ofList (s.toList.flatMap write))
    (apart : Entity.Apart entities) (single : Entity.Single entities)
    (writes : ∀ c, Entity.Writes entities c (write c))
    (clean : ∀ c, ∀ d ∈ keptOut, d ∉ write c)
    (plain : ∀ c, (c.isAlphanum ∨ c = '_' ∨ c = '-') → write c = [c]) :
    Reversible escape entities keptOut := by
  have chars (s : String) : (escape s).toList = s.toList.flatMap write := by
    rw [charwise, String.toList_ofList]
  have reads (s : String) : unescape entities (escape s) = s := by
    rw [unescape, chars, Entity.replace_flatMap apart writes, String.ofList_toList]
  refine ⟨?_, ?_, reads, ?_, ?_⟩
  · intro s c out member
    rw [chars, List.mem_flatMap] at member
    obtain ⟨d, _, inside⟩ := member
    exact clean d c out inside
  · intro s rest suffix
    rw [chars] at suffix
    exact Entity.marked_flatMap apart single writes suffix
  · intro s t same
    rw [← reads s, same, reads]
  · intro s identifier
    have name := ((isIdentifier_iff s).mp identifier).plainText
    have unchanged : s.toList.flatMap write = s.toList.flatMap fun c => [c] := by
      rw [List.flatMap_def, List.flatMap_def,
        List.map_congr_left fun c member => plain c (name c member)]
    rw [charwise, unchanged, ← List.map_eq_flatMap, List.map_id', String.ofList_toList]

theorem apart_textEntities : Entity.Apart textEntities where
  marked := by decide
  unlike := by decide

/-- A character that stands for itself in attributes does so in texts. -/
theorem textChar_of_attributeChar {c : Char} (same : attributeChar c = [c]) : textChar c = [c] := by
  unfold attributeChar at same
  split at same
  · subst c
    exact absurd same (by decide)
  · split at same
    · subst c
      exact absurd same (by decide)
    · exact same

/-- A string with some text in the place of every occurrence of a character. -/
def replaceChar (c : Char) (text : String) (s : String) : String :=
  String.ofList (s.toList.flatMap fun d => if d = c then text.toList else [d])

theorem flatMap_of_not_mem {c : Char} {cs : List Char} (absent : c ∉ cs) (text : List Char) :
    (cs.flatMap fun d => if d = c then text else [d]) = cs := by
  have same : ∀ d ∈ cs, (if d = c then text else [d]) = [d] := by
    intro d member
    apply if_neg
    rintro rfl
    exact absent member
  rw [List.flatMap_def, List.map_congr_left same, ← List.flatMap_def, ← List.map_eq_flatMap,
    List.map_id']

/-- A character is written in an attribute as in a text with the quotes replaced afterwards. -/
theorem attributeChar_eq_replace (c : Char) :
    attributeChar c =
      ((textChar c).flatMap fun d => if d = '"' then "&quot;".toList else [d]).flatMap
        fun d => if d = '\'' then "&#39;".toList else [d] := by
  by_cases quote : c = '"'
  · subst c
    decide
  by_cases apostrophe : c = '\''
  · subst c
    decide
  have same : attributeChar c = textChar c := by
    rw [attributeChar, if_neg quote, if_neg apostrophe]
  have harmless (d : Char) (member : d ∈ textChar c) : d ≠ '"' ∧ d ≠ '\'' := by
    have written := List.all_eq_true.mp (attributeChar_harmless c) d (same ▸ member)
    obtain ⟨noQuote, noApostrophe, _⟩ := isHarmless_iff.mp written
    exact ⟨noQuote, noApostrophe⟩
  rw [same, flatMap_of_not_mem (fun member => (harmless _ member).1 rfl),
    flatMap_of_not_mem (fun member => (harmless _ member).2 rfl)]

/-- The quotes of an attribute can be replaced after the text is escaped: no entity has a quote in
it, so none is escaped again. -/
theorem escapeAttribute_eq_replace (s : String) :
    escapeAttribute s = replaceChar '\'' "&#39;" (replaceChar '"' "&quot;" (escapeText s)) := by
  simp only [escapeAttribute, replaceChar, escapeText, String.toList_ofList, List.flatMap_assoc]
  rw [List.flatMap_def, List.map_congr_left fun c _ => attributeChar_eq_replace c,
    ← List.flatMap_def]
  simp only [List.flatMap_assoc]

/-- **Escaping is safe and can be undone.** What is written in an attribute has no brackets and no
quotes in it, what is written between tags has no brackets, and in both every ampersand begins an
entity. Reading the entities from left to right gives the string back, so no two strings are written
alike, and identifiers are written as they are. -/
theorem reversible_escapes :
    Reversible escapeAttribute attributeEntities ['<', '>', '"', '\''] ∧
    Reversible escapeText textEntities ['<', '>'] ∧
    ∀ s, escapeAttribute s = replaceChar '\'' "&#39;" (replaceChar '"' "&quot;" (escapeText s)) := by
  have attributes (c : Char) : ∀ d ∈ ['<', '>', '"', '\''], d ∉ attributeChar c := by
    intro d out member
    obtain ⟨quote, apostrophe, less, greater⟩ :=
      isHarmless_iff.mp (List.all_eq_true.mp (attributeChar_harmless c) d member)
    simp [quote, apostrophe, less, greater] at out
  have texts (c : Char) : ∀ d ∈ ['<', '>'], d ∉ textChar c := by
    intro d out member
    have bracketless := List.all_eq_true.mp (textChar_bracketless c) d member
    simp only [isBracket, Bool.not_or, Bool.and_eq_true, Bool.not_eq_true',
      decide_eq_false_iff_not] at bracketless
    simp [bracketless] at out
  refine ⟨?_, ?_, escapeAttribute_eq_replace⟩
  · exact reversible_of_chars (fun _ => rfl) apart_attributeEntities (by decide)
      writes_attributeChar attributes fun c => attributeChar_of_plain
  · exact reversible_of_chars (fun _ => rfl) apart_textEntities (by decide) writes_textChar texts
      fun c plain => textChar_of_attributeChar (attributeChar_of_plain plain)

example : escapeAttribute "&quot;'" = "&amp;quot;&#39;" := by decide

end Html

end ScrollStory
