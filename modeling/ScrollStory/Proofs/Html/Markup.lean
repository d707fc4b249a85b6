import Mathlib.Data.List.Basic
import ScrollStory.Html.Node

/-!
# The markup of a document

What a document is written of are characters of the renderer's own and trusted text. Brackets among
the characters make its markup, and they depend on the skeleton of the tree alone: on its elements,
the names of its attributes and its trusted text (`ScrollStory.Html.Node.outline_of_skeleton`). A
reader that follows the characters and ends the value of an attribute at the next quote reads the
values that the renderer wrote (`ScrollStory.Html.Node.after?_marksAll`).
-/

namespace ScrollStory

namespace Html

/-! ## Characters that end texts and values -/

/-- A character that begins or ends a tag. -/
def isBracket (c : Char) : Bool := c = '<' || c = '>'

/-- No tag begins or ends in a string. -/
def Bracketless (s : String) : Prop := s.toList.all (!isBracket ·) = true

instance (s : String) : Decidable (Bracketless s) := inferInstanceAs (Decidable (_ = true))

theorem Bracketless.append {s t : String} (first : Bracketless s) (second : Bracketless t) :
    Bracketless (s ++ t) := by
  rw [Bracketless, String.toList_append, List.all_append, first, second]
  rfl

/-- A character that can stand in a value without ending it, and in a tag. -/
def isHarmless (c : Char) : Bool := !(c = '"' || c = '\'' || isBracket c)

/-- A string has no quotes and no brackets. -/
def Harmless (s : String) : Prop := s.toList.all isHarmless = true

instance (s : String) : Decidable (Harmless s) := inferInstanceAs (Decidable (_ = true))

/-- A character is harmless if it is no quote and no bracket. -/
theorem isHarmless_iff {c : Char} :
    isHarmless c = true ↔ c ≠ '"' ∧ c ≠ '\'' ∧ c ≠ '<' ∧ c ≠ '>' := by
  simp [isHarmless, isBracket, and_assoc]

/-- A harmless string has no brackets. -/
theorem Harmless.bracketless {s : String} (harmless : Harmless s) : Bracketless s := by
  refine List.all_eq_true.mpr fun c member => ?_
  obtain ⟨_, _, less, greater⟩ := isHarmless_iff.mp (List.all_eq_true.mp harmless c member)
  simp [isBracket, less, greater]

/-- A text of ASCII letters that is not empty. -/
def Word (s : String) : Prop := (!s.toList.isEmpty && s.toList.all Char.isAlpha) = true

instance (s : String) : Decidable (Word s) := inferInstanceAs (Decidable (_ = true))

theorem Word.isAlpha {s : String} (word : Word s) : ∀ c ∈ s.toList, c.isAlpha = true :=
  List.all_eq_true.mp (Bool.and_eq_true_iff.mp word).2

/-- What is no letter is not in a word. -/
theorem Word.not_mem {s : String} (word : Word s) {c : Char} (other : c.isAlpha = false) :
    c ∉ s.toList := by
  intro member
  rw [word.isAlpha c member] at other
  cases other

/-- A word is harmless. -/
theorem Word.harmless {s : String} (word : Word s) : Harmless s := by
  refine List.all_eq_true.mpr fun c member => isHarmless_iff.mpr ⟨?_, ?_, ?_, ?_⟩
  all_goals
    rintro rfl
    exact word.not_mem rfl member

/-- No character between tags is written with a bracket. -/
theorem textChar_bracketless (c : Char) : (textChar c).all (!isBracket ·) = true := by
  unfold textChar
  split
  · decide
  · split
    · decide
    · split
      · decide
      · rename_i less greater
        simp [isBracket, less, greater]

/-- No character in an attribute is written with a quote or a bracket. -/
theorem attributeChar_harmless (c : Char) : (attributeChar c).all isHarmless = true := by
  unfold attributeChar
  split
  · decide
  · split
    · decide
    · unfold textChar
      split
      · decide
      · split
        · decide
        · split
          · decide
          · rename_i quote apostrophe _ less greater
            simpa using isHarmless_iff.mpr ⟨quote, apostrophe, less, greater⟩

/-- An escaped text has no brackets. -/
theorem bracketless_escapeText (s : String) : Bracketless (escapeText s) := by
  rw [Bracketless, escapeText, String.toList_ofList, List.all_flatMap]
  exact List.all_eq_true.mpr fun c _ => textChar_bracketless c

/-- An escaped value of an attribute is harmless. -/
theorem harmless_escapeAttribute (s : String) : Harmless (escapeAttribute s) := by
  rw [Harmless, escapeAttribute, String.toList_ofList, List.all_flatMap]
  exact List.all_eq_true.mpr fun c _ => attributeChar_harmless c

/-! ## What documents are written of -/

/-- A character of the renderer's own, or trusted text. -/
inductive Mark where
  | char (c : Char)
  | trusted (s : String)
  deriving DecidableEq, Repr

namespace Mark

/-- A string of the renderer's own. -/
def ofString (s : String) : List Mark := s.toList.map char

/-- The characters of a mark. -/
def chars : Mark → List Char
  | char c => [c]
  | trusted s => s.toList

/-- The text that is written with some marks. -/
def text (marks : List Mark) : String := String.ofList (marks.flatMap chars)

/-- The trusted text that a mark is. -/
def trusted? : Mark → Option String
  | char _ => none
  | trusted s => some s

/-- The trusted texts among some marks. -/
def trustedTexts (marks : List Mark) : List String := marks.filterMap trusted?

/-- Whether a mark is a bracket or trusted text. -/
def isOutline : Mark → Bool
  | char c => isBracket c
  | trusted _ => true

/-- The brackets outside trusted texts, and the trusted texts between them. -/
def outline (marks : List Mark) : List Mark := marks.filter isOutline

variable {marks others : List Mark} {s t : String}

theorem ofString_append : ofString (s ++ t) = ofString s ++ ofString t := by
  rw [ofString, String.toList_append, List.map_append]
  rfl

/-- A string of the renderer's own is what its marks are written as. -/
theorem text_ofString : text (ofString s) = s := by
  rw [text, ofString, List.flatMap_map]
  exact (congrArg String.ofList (List.flatMap_singleton' _)).trans String.ofList_toList

theorem text_append : text (marks ++ others) = text marks ++ text others := by
  rw [text, List.flatMap_append, String.ofList_append]
  rfl

theorem trustedTexts_append :
    trustedTexts (marks ++ others) = trustedTexts marks ++ trustedTexts others :=
  List.filterMap_append

theorem trustedTexts_ofString : trustedTexts (ofString s) = [] := by
  rw [trustedTexts, ofString, List.filterMap_map]
  exact List.filterMap_eq_nil_iff.mpr fun _ _ => rfl

theorem outline_append : outline (marks ++ others) = outline marks ++ outline others :=
  List.filter_append ..

/-- A string without brackets has no outline. -/
theorem outline_bracketless (bracketless : Bracketless s) : outline (ofString s) = [] := by
  refine List.filter_eq_nil_iff.mpr fun mark member => ?_
  obtain ⟨c, inside, rfl⟩ := List.mem_map.mp member
  simpa [isOutline] using List.all_eq_true.mp bracketless c inside

end Mark

namespace Node

mutual

/-- What a node is written of. -/
def marks : Node → List Mark
  | element tag attributes children =>
    Mark.ofString ("<" ++ tag ++ attributesText attributes ++ ">") ++ marksAll children ++
      Mark.ofString ("</" ++ tag ++ ">")
  | void tag attributes closed =>
    Mark.ofString ("<" ++ tag ++ attributesText attributes ++ (if closed then " />" else ">"))
  | text s => Mark.ofString (escapeText s)
  | space s => Mark.ofString s
  | raw s => [.trusted s]

/-- What some nodes are written of. -/
def marksAll : List Node → List Mark
  | [] => []
  | node :: nodes => node.marks ++ marksAll nodes

end

mutual

/-- A node is written as its marks. -/
theorem text_marks (node : Node) : Mark.text node.marks = node.render := by
  cases node with
  | element tag attributes children =>
      rw [marks, Mark.text_append, Mark.text_append, Mark.text_ofString, Mark.text_ofString,
        text_marksAll, render]
      simp only [String.append_assoc]
  | void tag attributes closed => rw [marks, Mark.text_ofString, render]
  | text s => rw [marks, Mark.text_ofString, render]
  | space s => rw [marks, Mark.text_ofString, render]
  | raw s =>
      rw [marks, Mark.text, List.flatMap_singleton, render]
      exact String.ofList_toList

/-- Nodes are written as their marks. -/
theorem text_marksAll (nodes : List Node) : Mark.text (marksAll nodes) = renderAll nodes := by
  cases nodes with
  | nil => rfl
  | cons node nodes => rw [marksAll, Mark.text_append, text_marks, text_marksAll, renderAll]

end

theorem marksAll_append (nodes others : List Node) :
    marksAll (nodes ++ others) = marksAll nodes ++ marksAll others := by
  induction nodes with
  | nil => rfl
  | cons node nodes ih => rw [List.cons_append, marksAll, marksAll, ih, List.append_assoc]

/-! ### Trusted texts -/

/-- The trusted texts in some nodes. -/
def trustedTexts (nodes : List Node) : List String := Mark.trustedTexts (marksAll nodes)

@[simp]
theorem trustedTexts_nil : trustedTexts [] = [] := rfl

@[simp]
theorem trustedTexts_cons (node : Node) (nodes : List Node) :
    trustedTexts (node :: nodes) = Mark.trustedTexts node.marks ++ trustedTexts nodes := by
  rw [trustedTexts, marksAll, Mark.trustedTexts_append]
  rfl

@[simp]
theorem trustedTexts_append (nodes others : List Node) :
    trustedTexts (nodes ++ others) = trustedTexts nodes ++ trustedTexts others := by
  rw [trustedTexts, marksAll_append, Mark.trustedTexts_append]
  rfl

@[simp]
theorem trustedTexts_flatMap {α : Type} (nodes : α → List Node) (as : List α) :
    trustedTexts (as.flatMap nodes) = as.flatMap fun a => trustedTexts (nodes a) := by
  induction as with
  | nil => rfl
  | cons a as ih => rw [List.flatMap_cons, List.flatMap_cons, trustedTexts_append, ih]

/-- The trusted texts in an element are those in its children. -/
@[simp]
theorem trustedTexts_element (tag : String) (attributes : List (String × String))
    (children : List Node) :
    Mark.trustedTexts (element tag attributes children).marks = trustedTexts children := by
  rw [marks, Mark.trustedTexts_append, Mark.trustedTexts_append, Mark.trustedTexts_ofString,
    Mark.trustedTexts_ofString, List.nil_append, List.append_nil]
  rfl

@[simp]
theorem trustedTexts_void (tag : String) (attributes : List (String × String)) (closed : Bool) :
    Mark.trustedTexts (void tag attributes closed).marks = [] := by
  rw [marks, Mark.trustedTexts_ofString]

@[simp]
theorem trustedTexts_text (s : String) : Mark.trustedTexts (text s).marks = [] := by
  rw [marks, Mark.trustedTexts_ofString]

@[simp]
theorem trustedTexts_space (s : String) : Mark.trustedTexts (space s).marks = [] := by
  rw [marks, Mark.trustedTexts_ofString]

@[simp]
theorem trustedTexts_line (width : Nat) (node : Node) :
    trustedTexts (line width node) = Mark.trustedTexts node.marks := by
  simp [line, indent]

@[simp]
theorem trustedTexts_block (width : Nat) (tag : String) (attributes : List (String × String))
    (children : List Node) :
    trustedTexts (block width tag attributes children) = trustedTexts children := by
  simp [block, indent]

/-! ## The skeleton of a tree -/

/-- Attributes with their values left out. -/
def names (attributes : List (String × String)) : List (String × String) :=
  attributes.map fun pair => (pair.1, "")

mutual

/-- A node with its texts and the values of its attributes left out. -/
def skeleton : Node → Node
  | element tag attributes children => element tag (names attributes) (skeletonAll children)
  | void tag attributes closed => void tag (names attributes) closed
  | text _ => text ""
  | space s => space s
  | raw s => raw s

/-- The skeletons of some nodes. -/
def skeletonAll : List Node → List Node
  | [] => []
  | node :: nodes => node.skeleton :: skeletonAll nodes

end

theorem skeletonAll_eq_map (nodes : List Node) : skeletonAll nodes = nodes.map skeleton := by
  induction nodes with
  | nil => rfl
  | cons node nodes ih => rw [skeletonAll, ih, List.map_cons]

theorem skeletonAll_append (nodes others : List Node) :
    skeletonAll (nodes ++ others) = skeletonAll nodes ++ skeletonAll others := by
  simp only [skeletonAll_eq_map, List.map_append]

theorem skeletonAll_flatMap {α : Type} (nodes : α → List Node) (as : List α) :
    skeletonAll (as.flatMap nodes) = as.flatMap fun a => skeletonAll (nodes a) := by
  simp only [skeletonAll_eq_map, List.map_flatMap]

theorem skeletonAll_line (width : Nat) (node : Node) :
    skeletonAll (line width node) = line width node.skeleton := rfl

/-- The skeleton of an element on lines of its own keeps the names of its attributes. -/
theorem skeletonAll_block (width : Nat) (tag : String) (attributes : List (String × String))
    (children : List Node) :
    skeletonAll (block width tag attributes children) =
      block width tag (names attributes) (skeletonAll children) := by
  rw [block, skeletonAll_line, skeleton, skeletonAll_append]
  rfl

/-- What is written of an attribute around its value shows in the outline, but not the value. -/
theorem outline_attributeText (pair : String × String) :
    Mark.outline (Mark.ofString (attributeText pair)) =
      Mark.outline (Mark.ofString (attributeText (pair.1, ""))) := by
  have value (s : String) : Mark.outline (Mark.ofString (escapeAttribute s)) = [] :=
    Mark.outline_bracketless (harmless_escapeAttribute s).bracketless
  simp only [attributeText, Mark.ofString_append, Mark.outline_append, value]

/-- The values of attributes add nothing to the outline. -/
theorem outline_attributesText (attributes : List (String × String)) :
    Mark.outline (Mark.ofString (attributesText attributes)) =
      Mark.outline (Mark.ofString (attributesText (names attributes))) := by
  induction attributes with
  | nil => rfl
  | cons pair attributes ih =>
      simp only [attributesText, names, List.map_cons, String.join_cons, Mark.ofString_append,
        Mark.outline_append] at ih ⊢
      rw [ih, outline_attributeText]

mutual

/-- A node and its skeleton have the same outline. -/
theorem outline_skeleton (node : Node) :
    Mark.outline node.skeleton.marks = Mark.outline node.marks := by
  cases node with
  | element tag attributes children =>
      simp only [skeleton, marks, Mark.ofString_append, Mark.outline_append,
        outline_attributesText attributes, outline_skeletonAll children]
  | void tag attributes closed =>
      simp only [skeleton, marks, Mark.ofString_append, Mark.outline_append,
        outline_attributesText attributes]
  | text s =>
      rw [skeleton, marks, marks, Mark.outline_bracketless (bracketless_escapeText _),
        Mark.outline_bracketless (bracketless_escapeText _)]
  | space s => rfl
  | raw s => rfl

/-- Nodes and their skeletons have the same outline. -/
theorem outline_skeletonAll (nodes : List Node) :
    Mark.outline (marksAll (skeletonAll nodes)) = Mark.outline (marksAll nodes) := by
  cases nodes with
  | nil => rfl
  | cons node nodes =>
      rw [skeletonAll, marksAll, marksAll, Mark.outline_append, Mark.outline_append,
        outline_skeleton, outline_skeletonAll]

end

/-- Trees of one skeleton have the same brackets and the same trusted texts between them. -/
theorem outline_of_skeleton {nodes others : List Node}
    (same : skeletonAll nodes = skeletonAll others) :
    Mark.outline (marksAll nodes) = Mark.outline (marksAll others) := by
  rw [← outline_skeletonAll nodes, same, outline_skeletonAll]

end Node

/-! ## Reading tags and values -/

/-- Where a reader is: between tags, in a tag, or in the value of an attribute, of which it has read
a part. -/
inductive Place where
  | between
  | tag
  | value (read : List Char)
  deriving DecidableEq, Repr

/-- A reader of a document, with the values it has read. -/
structure Reader where
  place : Place
  values : List String
  deriving DecidableEq, Repr

namespace Reader

/-- What a reader makes of a mark. A value ends at the next quote. A tag does not begin within
another one, it has no single quotes but in values, and there is no trusted text in it; between tags
nothing ends one. -/
def next? : Reader → Mark → Option Reader
  | ⟨.between, values⟩, .trusted _ => some ⟨.between, values⟩
  | ⟨.between, values⟩, .char c =>
    if c = '<' then some ⟨.tag, values⟩
    else if c = '>' then none
    else some ⟨.between, values⟩
  | ⟨.tag, values⟩, .char c =>
    if c = '>' then some ⟨.between, values⟩
    else if c = '"' then some ⟨.value [], values⟩
    else if c = '<' ∨ c = '\'' then none
    else some ⟨.tag, values⟩
  | ⟨.value read, values⟩, .char c =>
    if c = '"' then some ⟨.tag, values ++ [String.ofList read]⟩
    else some ⟨.value (read ++ [c]), values⟩
  | ⟨.tag, _⟩, .trusted _ | ⟨.value _, _⟩, .trusted _ => none

/-- The reader behind some marks. -/
def after? (reader : Reader) (marks : List Mark) : Option Reader := marks.foldlM next? reader

theorem after?_append (reader : Reader) (marks others : List Mark) :
    reader.after? (marks ++ others) = (reader.after? marks).bind (after? · others) :=
  List.foldlM_append

/-- Marks that a reader passes by. -/
theorem after?_of_still {reader : Reader} {marks : List Mark}
    (still : ∀ mark ∈ marks, reader.next? mark = some reader) :
    reader.after? marks = some reader := by
  induction marks with
  | nil => rfl
  | cons mark marks ih =>
      obtain ⟨first, later⟩ := List.forall_mem_cons.mp still
      rw [after?, List.foldlM_cons, first]
      exact ih later

variable {values : List String} {s : String}

/-- A reader between tags stays there behind a string without brackets. -/
theorem after?_between (bracketless : Bracketless s) :
    after? ⟨.between, values⟩ (Mark.ofString s) = some ⟨.between, values⟩ := by
  refine after?_of_still fun mark member => ?_
  obtain ⟨c, inside, rfl⟩ := List.mem_map.mp member
  have apart := List.all_eq_true.mp bracketless c inside
  simp only [isBracket, Bool.not_eq_true', Bool.or_eq_false_iff, decide_eq_false_iff_not] at apart
  rw [next?, if_neg apart.1, if_neg apart.2]

/-- A reader in a tag stays there behind a harmless string. -/
theorem after?_tag (harmless : Harmless s) :
    after? ⟨.tag, values⟩ (Mark.ofString s) = some ⟨.tag, values⟩ := by
  refine after?_of_still fun mark member => ?_
  obtain ⟨c, inside, rfl⟩ := List.mem_map.mp member
  obtain ⟨quote, apostrophe, less, greater⟩ :=
    isHarmless_iff.mp (List.all_eq_true.mp harmless c inside)
  rw [next?, if_neg greater, if_neg quote, if_neg (not_or.mpr ⟨less, apostrophe⟩)]

/-- A reader in a value reads on up to the next quote. -/
theorem after?_value {cs : List Char} (quoteless : '"' ∉ cs) (read : List Char) :
    after? ⟨.value read, values⟩ (cs.map .char) = some ⟨.value (read ++ cs), values⟩ := by
  induction cs generalizing read with
  | nil => rw [List.append_nil]; rfl
  | cons c cs ih =>
      obtain ⟨quote, later⟩ := not_or.mp (mt List.mem_cons.mpr quoteless)
      -- The reader puts each character behind what it has read, so the rest is read from there on.
      have step := ih later (read ++ [c])
      rw [List.append_assoc, List.singleton_append] at step
      rw [List.map_cons, after?, List.foldlM_cons, next?, if_neg (Ne.symm quote)]
      exact step

/-- One attribute is read as one value. -/
theorem after?_attributeText {pair : String × String} (name : Harmless pair.1) :
    after? ⟨.tag, values⟩ (Mark.ofString (attributeText pair)) =
      some ⟨.tag, values ++ [escapeAttribute pair.2]⟩ := by
  have blank : after? ⟨.tag, values⟩ (Mark.ofString " ") = some ⟨.tag, values⟩ := rfl
  have opened : after? ⟨.tag, values⟩ (Mark.ofString "=\"") = some ⟨.value [], values⟩ := rfl
  have quoteless : '"' ∉ (escapeAttribute pair.2).toList := fun member =>
    (isHarmless_iff.mp (List.all_eq_true.mp (harmless_escapeAttribute pair.2) _ member)).1 rfl
  have closed (read : List Char) : after? ⟨.value read, values⟩ (Mark.ofString "\"") =
      some ⟨.tag, values ++ [String.ofList read]⟩ := rfl
  simp only [attributeText, Mark.ofString_append, after?_append, blank, Option.bind_some,
    after?_tag name, opened]
  rw [Mark.ofString, after?_value quoteless, Option.bind_some, closed, List.nil_append,
    String.ofList_toList]

/-- A reader in a tag reads the values of attributes in their order. -/
theorem after?_attributesText {attributes : List (String × String)}
    (names : ∀ name ∈ attributes.map Prod.fst, Harmless name) (values : List String) :
    after? ⟨.tag, values⟩ (Mark.ofString (attributesText attributes)) =
      some ⟨.tag, values ++ attributes.map (escapeAttribute ·.2)⟩ := by
  induction attributes generalizing values with
  | nil => rw [List.map_nil, List.append_nil]; rfl
  | cons pair attributes ih =>
      obtain ⟨first, later⟩ := List.forall_mem_cons.mp names
      have others := ih later (values ++ [escapeAttribute pair.2])
      rw [attributesText] at others
      rw [attributesText, List.map_cons, String.join_cons, Mark.ofString_append, after?_append,
        after?_attributeText first, Option.bind_some, others, List.map_cons, List.append_assoc,
        List.singleton_append]

/-- A tag up to its last bracket. -/
theorem after?_opening {tag : String} (name : Harmless tag) {attributes : List (String × String)}
    (names : ∀ name ∈ attributes.map Prod.fst, Harmless name) :
    after? ⟨.between, values⟩ (Mark.ofString ("<" ++ tag ++ attributesText attributes)) =
      some ⟨.tag, values ++ attributes.map (escapeAttribute ·.2)⟩ := by
  have begun : after? ⟨.between, values⟩ (Mark.ofString "<") = some ⟨.tag, values⟩ := rfl
  rw [Mark.ofString_append, Mark.ofString_append, after?_append, after?_append, begun,
    Option.bind_some, after?_tag name, Option.bind_some, after?_attributesText names]

/-- A reader between tags is there again behind an end tag. -/
theorem after?_ending {tag : String} (name : Harmless tag) :
    after? ⟨.between, values⟩ (Mark.ofString ("</" ++ tag ++ ">")) =
      some ⟨.between, values⟩ := by
  have begun : after? ⟨.between, values⟩ (Mark.ofString "</") = some ⟨.tag, values⟩ := rfl
  rw [Mark.ofString_append, Mark.ofString_append, after?_append, after?_append, begun,
    Option.bind_some, after?_tag name, Option.bind_some]
  rfl

end Reader

/-- The tags that HTML gives to elements without an end tag. -/
def voidTags : List String :=
  ["area", "base", "br", "col", "embed", "hr", "img", "input", "link", "meta", "source", "track",
    "wbr"]

namespace Node

mutual

/-- The values of the attributes in a node as they are written, in the order of the document. -/
def values : Node → List String
  | element _ attributes children =>
    attributes.map (escapeAttribute ·.2) ++ valuesAll children
  | void _ attributes _ => attributes.map (escapeAttribute ·.2)
  | text _ | space _ | raw _ => []

/-- The values of the attributes in some nodes as they are written. -/
def valuesAll : List Node → List String
  | [] => []
  | node :: nodes => node.values ++ valuesAll nodes

end

mutual

/-- The values of attributes are harmless as they are written. -/
theorem harmless_of_mem_values {node : Node} {value : String} (member : value ∈ node.values) :
    Harmless value := by
  have written {attributes : List (String × String)}
      (member : value ∈ attributes.map (escapeAttribute ·.2)) : Harmless value := by
    obtain ⟨pair, _, rfl⟩ := List.mem_map.mp member
    exact harmless_escapeAttribute pair.2
  cases node with
  | element tag attributes children =>
      rw [values] at member
      exact (List.mem_append.mp member).elim written harmless_of_mem_valuesAll
  | void tag attributes closed => exact written (by rwa [values] at member)
  | text s => cases member
  | space s => cases member
  | raw s => cases member

/-- Every value is written without quotes and brackets. -/
theorem harmless_of_mem_valuesAll {nodes : List Node} {value : String}
    (member : value ∈ valuesAll nodes) : Harmless value := by
  cases nodes with
  | nil => cases member
  | cons node nodes =>
      rw [valuesAll] at member
      exact (List.mem_append.mp member).elim harmless_of_mem_values harmless_of_mem_valuesAll

end

mutual

/-- The tags and the names of attributes in a node are words, and no tag begins in the white space
there. Elements without an end tag have a tag for such elements, and others have not. -/
def Tidy : Node → Prop
  | element tag attributes children =>
    (Word tag ∧ tag ∉ voidTags) ∧ (∀ name ∈ attributes.map Prod.fst, Word name) ∧ TidyAll children
  | void tag attributes _ =>
    (Word tag ∧ tag ∈ voidTags) ∧ ∀ name ∈ attributes.map Prod.fst, Word name
  | space s => Bracketless s
  | text _ | raw _ => True

/-- Some nodes are tidy. -/
def TidyAll : List Node → Prop
  | [] => True
  | node :: nodes => node.Tidy ∧ TidyAll nodes

end

theorem tidyAll_append {nodes others : List Node} :
    TidyAll (nodes ++ others) ↔ TidyAll nodes ∧ TidyAll others := by
  induction nodes with
  | nil => simp [TidyAll]
  | cons node nodes ih => rw [List.cons_append, TidyAll, TidyAll, ih, and_assoc]

theorem tidyAll_flatMap {α : Type} {nodes : α → List Node} {as : List α}
    (each : ∀ a ∈ as, TidyAll (nodes a)) : TidyAll (as.flatMap nodes) := by
  induction as with
  | nil => trivial
  | cons a as ih =>
      obtain ⟨first, later⟩ := List.forall_mem_cons.mp each
      rw [List.flatMap_cons, tidyAll_append]
      exact ⟨first, ih later⟩

theorem tidy_indent (width : Nat) : (indent width).Tidy := by
  rw [indent, Tidy, Bracketless, String.toList_ofList, List.all_eq_true]
  intro c member
  rw [List.eq_of_mem_replicate member]
  decide

theorem tidyAll_line {node : Node} (tidy : node.Tidy) (width : Nat) :
    TidyAll (line width node) := by
  have ended : (space "\n").Tidy := by
    rw [Tidy]
    decide
  exact ⟨tidy_indent width, tidy, ended, trivial⟩

/-- An element on lines of its own is tidy if its names are words and its children are tidy. -/
theorem tidyAll_block {tag : String} {attributes : List (String × String)} {children : List Node}
    (name : Word tag ∧ tag ∉ voidTags) (names : ∀ name ∈ attributes.map Prod.fst, Word name)
    (inside : TidyAll children) (width : Nat) :
    TidyAll (block width tag attributes children) := by
  have begun : (space "\n").Tidy := by
    rw [Tidy]
    decide
  refine tidyAll_line ?_ width
  rw [Tidy]
  exact ⟨name, names, begun, tidyAll_append.mpr ⟨inside, tidy_indent width, trivial⟩⟩

mutual

/-- A reader between tags reads the values in a tidy node and is between tags again. The induction
is on the node, and on its children for an element. -/
theorem after?_marks {node : Node} (tidy : node.Tidy) (written : List String) :
    Reader.after? ⟨.between, written⟩ node.marks =
      some ⟨.between, written ++ node.values⟩ := by
  cases node with
  | element tag attributes children =>
      rw [Tidy] at tidy
      obtain ⟨⟨name, -⟩, names, inside⟩ := tidy
      have names := fun name member => (names name member).harmless
      have done (read : List String) : Reader.after? ⟨.tag, read⟩ (Mark.ofString ">") =
          some ⟨.between, read⟩ := rfl
      rw [marks, Mark.ofString_append, Reader.after?_append, Reader.after?_append,
        Reader.after?_append, Reader.after?_opening name.harmless names, Option.bind_some, done,
        Option.bind_some, after?_marksAll inside, Option.bind_some,
        Reader.after?_ending name.harmless, values, List.append_assoc]
  | void tag attributes closed =>
      rw [Tidy] at tidy
      obtain ⟨⟨name, -⟩, names⟩ := tidy
      have names := fun name member => (names name member).harmless
      have done (read : List String) :
          Reader.after? ⟨.tag, read⟩ (Mark.ofString (if closed then " />" else ">")) =
            some ⟨.between, read⟩ := by
        cases closed <;> rfl
      rw [marks, Mark.ofString_append, Reader.after?_append,
        Reader.after?_opening name.harmless names, Option.bind_some, done, values]
  | text s =>
      rw [marks, Reader.after?_between (bracketless_escapeText s), values, List.append_nil]
  | space s =>
      rw [Tidy] at tidy
      rw [marks, Reader.after?_between tidy, values, List.append_nil]
  | raw s =>
      rw [marks, values, List.append_nil]
      rfl

/-- The values that are read are those that the renderer wrote. -/
theorem after?_marksAll {nodes : List Node} (tidy : TidyAll nodes) (written : List String) :
    Reader.after? ⟨.between, written⟩ (marksAll nodes) =
      some ⟨.between, written ++ valuesAll nodes⟩ := by
  cases nodes with
  | nil => rw [marksAll, valuesAll, List.append_nil]; rfl
  | cons node nodes =>
      rw [TidyAll] at tidy
      rw [marksAll, Reader.after?_append, after?_marks tidy.1, Option.bind_some,
        after?_marksAll tidy.2, valuesAll, List.append_assoc]

end

end Node

end Html

end ScrollStory
