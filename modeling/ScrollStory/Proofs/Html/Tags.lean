import ScrollStory.Proofs.Html.Addresses
import ScrollStory.Proofs.Html.Entities
import ScrollStory.Proofs.Html.Untrusted
import ScrollStory.Text.Pieces

/-!
# Reading the tags of a document

A reader that takes what stands between brackets outside trusted texts for tags, cuts each of them
at its quotes and replaces the entities in its values finds the elements of the tree that has been
written, with their attributes (`ScrollStory.Html.Mark.tags_marksAll`). So the identifiers, the
attributes and the addresses of the elements can be read off a document
(`ScrollStory.Html.readsAs_of_tidy`).
-/

namespace ScrollStory

namespace Html

/-! ## The text of a tag -/

/-- A tag with its attributes. The name of an end tag begins with a slash. -/
structure Tag where
  name : String
  attributes : List (String × String)
  deriving DecidableEq, Repr

namespace Tag

/-- The name of an attribute, from what stands before the quote that opens its value. -/
def attributeName (before : String) : String :=
  match Text.split ' ' before with
  | [_, word] => String.ofList word.toList.dropLast
  | _ => ""

/-- The attributes in the text of a tag that has been cut at its quotes: every other piece is a
value. -/
def attributesOf : List String → List (String × String)
  | before :: value :: rest =>
    (attributeName before, unescape attributeEntities value) :: attributesOf rest
  | _ => []

/-- The tag with a text between its brackets. -/
def ofText (text : String) : Tag where
  name := String.ofList (text.toList.takeWhile (· ≠ ' '))
  attributes := attributesOf (Text.split '"' text)

/-- The name of an attribute is read from behind the last space. -/
theorem attributeName_append {front name : String} (free : ' ' ∉ front.toList) (word : Word name) :
    attributeName (front ++ " " ++ name ++ "=") = name := by
  have chars : (front ++ " " ++ name ++ "=").toList =
      front.toList ++ ' ' :: (name.toList ++ ['=']) := by
    simp
  have last : ' ' ∉ name.toList ++ ['='] := by
    simpa using word.not_mem (c := ' ') rfl
  have cut : Text.split ' ' (front ++ " " ++ name ++ "=") =
      [front, String.ofList (name.toList ++ ['='])] := by
    rw [Text.split, chars, Text.pieces_append free, Text.pieces_of_not_mem last, List.map_cons,
      List.map_singleton, String.ofList_toList]
  rw [attributeName, cut]
  simp

/-- The attributes behind the beginning of a tag are read as they have been given. -/
theorem attributesOf_append {front back : String} (free : ' ' ∉ front.toList)
    (quoteless : '"' ∉ front.toList) (quoteless' : '"' ∉ back.toList)
    {attributes : List (String × String)}
    (names : ∀ name ∈ attributes.map Prod.fst, Word name) :
    attributesOf (Text.split '"' (front ++ attributesText attributes ++ back)) = attributes := by
  induction attributes generalizing front with
  | nil =>
      have whole : '"' ∉ (front ++ attributesText [] ++ back).toList := by
        simpa [attributesText] using not_or.mpr ⟨quoteless, quoteless'⟩
      rw [Text.split_of_not_mem whole]
      rfl
  | cons pair attributes ih =>
      obtain ⟨word, later⟩ := List.forall_mem_cons.mp names
      have before : '"' ∉ (front ++ " " ++ pair.1 ++ "=").toList := by
        simpa using not_or.mpr ⟨quoteless, word.not_mem (c := '"') rfl⟩
      have value : '"' ∉ (escapeAttribute pair.2).toList := fun member =>
        (isHarmless_iff.mp (List.all_eq_true.mp (harmless_escapeAttribute pair.2) _ member)).1 rfl
      have chars : (front ++ attributesText (pair :: attributes) ++ back).toList =
          (front ++ " " ++ pair.1 ++ "=").toList ++ '"' :: ((escapeAttribute pair.2).toList ++
            '"' :: ("" ++ attributesText attributes ++ back).toList) := by
        simp [attributesText, attributeText]
      have rest := ih (show ' ' ∉ "".toList from List.not_mem_nil) List.not_mem_nil later
      rw [Text.split] at rest
      rw [Text.split, chars, Text.pieces_append before, Text.pieces_append value, List.map_cons,
        List.map_cons, attributesOf, rest, String.ofList_toList, String.ofList_toList,
        attributeName_append free word, unescape_escapeAttribute]

/-- The name of a tag ends at the first space. -/
theorem name_ofText {name rest : String} (free : ' ' ∉ name.toList)
    (apart : rest.toList = [] ∨ rest.toList.head? = some ' ') : (ofText (name ++ rest)).name = name := by
  have all : ∀ c ∈ name.toList, decide (c ≠ ' ') = true := by
    rintro c member
    exact decide_eq_true fun same => free (same ▸ member)
  have stops : rest.toList.takeWhile (· ≠ ' ') = [] := by
    rcases apart with none | space
    · rw [none, List.takeWhile_nil]
    · obtain ⟨cs, same⟩ := List.head?_eq_some_iff.mp space
      rw [same, List.takeWhile_cons_of_neg (by simp)]
  rw [ofText, String.toList_append, List.takeWhile_append_of_pos all, stops, List.append_nil,
    String.ofList_toList]

/-- The attributes of a tag are set off from its name by a space. -/
theorem attributesText_apart (attributes : List (String × String)) {back : String}
    (apart : back.toList = [] ∨ back.toList.head? = some ' ') :
    (attributesText attributes ++ back).toList = [] ∨
      (attributesText attributes ++ back).toList.head? = some ' ' := by
  cases attributes with
  | nil => simpa [attributesText] using apart
  | cons pair attributes => exact .inr (by simp [attributesText, attributeText])

/-- The text of a tag is read as the tag's name with its attributes. -/
theorem ofText_written {name : String} (word : Word name) {attributes : List (String × String)}
    (names : ∀ name ∈ attributes.map Prod.fst, Word name) {back : String}
    (apart : back.toList = [] ∨ back.toList.head? = some ' ') (quoteless : '"' ∉ back.toList) :
    ofText (name ++ attributesText attributes ++ back) = ⟨name, attributes⟩ := by
  have free : ' ' ∉ name.toList := word.not_mem rfl
  have named := name_ofText free (attributesText_apart attributes apart)
  rw [← String.append_assoc] at named
  have found := attributesOf_append free (word.not_mem rfl) quoteless names
  exact congrArg₂ Tag.mk named found

/-- The text of an end tag is read as an end tag. -/
theorem ofText_end {name : String} (word : Word name) : ofText ("/" ++ name) = ⟨"/" ++ name, []⟩ := by
  have free {c : Char} (other : c.isAlpha = false) (slash : c ≠ '/') : c ∉ ("/" ++ name).toList := by
    simpa using not_or.mpr ⟨slash, word.not_mem other⟩
  have named := name_ofText (free (c := ' ') rfl (by decide)) (.inl (show "".toList = [] from rfl))
  rw [String.append_empty] at named
  have found : attributesOf (Text.split '"' ("/" ++ name)) = [] := by
    rw [Text.split_of_not_mem (free rfl (by decide))]
    rfl
  exact congrArg₂ Tag.mk named found

/-! ## What kind of tag it is -/

/-- Whether an element begins with a tag. -/
def isStart (tag : Tag) : Bool := tag.name.toList.head?.any Char.isAlpha

/-- Whether an element ends with a tag. -/
def isEnd (tag : Tag) : Bool := tag.name.toList.head? = some '/'

/-- A tag whose name is a word begins an element. -/
theorem isStart_of_word {name : String} (word : Word name) (attributes : List (String × String)) :
    isStart ⟨name, attributes⟩ = true := by
  obtain ⟨some, all⟩ := Bool.and_eq_true_iff.mp word
  cases chars : name.toList with
  | nil => simp [chars] at some
  | cons c cs =>
      rw [chars] at all
      simpa [isStart, chars] using (List.all_cons.symm.trans all |> Bool.and_eq_true_iff.mp).1

theorem isStart_end (name : String) : isStart ⟨"/" ++ name, []⟩ = false := by
  simp [isStart]

theorem isEnd_end (name : String) : isEnd ⟨"/" ++ name, []⟩ = true := by
  simp [isEnd]

/-- The addresses of the elements with identifiers among some tags, when the elements with the given
addresses are open, the innermost first. -/
def addresses : List Address → List Tag → List Address
  | _, [] => []
  | opened, tag :: tags =>
    if tag.isStart then
      let here := opened.headD [] ++ Node.steps tag.name tag.attributes
      (if Node.steps tag.name tag.attributes = [] then [] else [here]) ++
        addresses (if tag.name ∈ voidTags then opened else here :: opened) tags
    else if tag.isEnd then addresses opened.tail tags
    else addresses opened tags

end Tag

/-! ## Tags among marks -/

namespace Mark

/-- The tags among some marks, behind the text of a tag that is open. -/
def tagsFrom : Option (List Char) → List Mark → List Tag
  | _, [] => []
  | none, .char c :: marks => tagsFrom (if c = '<' then some [] else none) marks
  | some text, .char c :: marks =>
    if c = '>' then .ofText (String.ofList text) :: tagsFrom none marks
    else tagsFrom (some (text ++ [c])) marks
  | opened, .trusted _ :: marks => tagsFrom opened marks

/-- The tags among some marks: what stands between brackets outside trusted texts. -/
def tags (marks : List Mark) : List Tag := tagsFrom none marks

/-- The identifiers in some tags. -/
def ids (marks : List Mark) : List String := (tags marks).flatMap (Node.idsOf ·.attributes)

/-- The attributes of the elements that begin with some tags, element by element. -/
def attributeLists (marks : List Mark) : List (List (String × String)) :=
  ((tags marks).filter Tag.isStart).map Tag.attributes

/-- The addresses of the elements with identifiers among some tags. -/
def addresses (marks : List Mark) : List Address := Tag.addresses [] (tags marks)

variable {s : String}

/-- Between tags, a string without brackets adds no tag. -/
theorem tagsFrom_none (bracketless : Bracketless s) (marks : List Mark) :
    tagsFrom none (ofString s ++ marks) = tagsFrom none marks := by
  have all (cs : List Char) (bracketless : cs.all (!isBracket ·) = true) :
      tagsFrom none (cs.map char ++ marks) = tagsFrom none marks := by
    induction cs with
    | nil => rfl
    | cons c cs ih =>
        rw [List.all_cons, Bool.and_eq_true, Bool.not_eq_true'] at bracketless
        have apart : c ≠ '<' := by
          rintro rfl
          exact absurd bracketless.1 (by decide)
        rw [List.map_cons, List.cons_append, tagsFrom, if_neg apart]
        exact ih bracketless.2
  exact all s.toList bracketless

/-- In a tag, a string without brackets goes on with the text of the tag. -/
theorem tagsFrom_some (bracketless : Bracketless s) (text : List Char) (marks : List Mark) :
    tagsFrom (some text) (ofString s ++ marks) = tagsFrom (some (text ++ s.toList)) marks := by
  have all (cs : List Char) (bracketless : cs.all (!isBracket ·) = true) (text : List Char) :
      tagsFrom (some text) (cs.map char ++ marks) = tagsFrom (some (text ++ cs)) marks := by
    induction cs generalizing text with
    | nil => rw [List.append_nil]; rfl
    | cons c cs ih =>
        rw [List.all_cons, Bool.and_eq_true, Bool.not_eq_true'] at bracketless
        have apart : c ≠ '>' := by
          rintro rfl
          exact absurd bracketless.1 (by decide)
        rw [List.map_cons, List.cons_append, tagsFrom, if_neg apart, ih bracketless.2,
          List.append_assoc, List.singleton_append]
  exact all s.toList bracketless text

/-- What stands between two brackets is one tag. -/
theorem tagsFrom_tag (bracketless : Bracketless s) (marks : List Mark) :
    tagsFrom none (ofString ("<" ++ s ++ ">") ++ marks) = .ofText s :: tagsFrom none marks := by
  have opened (marks : List Mark) :
      tagsFrom none (ofString "<" ++ marks) = tagsFrom (some []) marks := rfl
  have closed (text : List Char) :
      tagsFrom (some text) (ofString ">" ++ marks) =
        .ofText (String.ofList text) :: tagsFrom none marks := rfl
  rw [ofString_append, ofString_append, List.append_assoc, List.append_assoc, opened,
    tagsFrom_some bracketless, List.nil_append, closed, String.ofList_toList]

end Mark

/-! ## The tags of a tree -/

namespace Node

mutual

/-- The tags of a node, in the order of the document. -/
def tags : Node → List Tag
  | element tag attributes children =>
    ⟨tag, attributes⟩ :: (tagsAll children ++ [⟨"/" ++ tag, []⟩])
  | void tag attributes _ => [⟨tag, attributes⟩]
  | text _ | space _ | raw _ => []

/-- The tags of some nodes. -/
def tagsAll : List Node → List Tag
  | [] => []
  | node :: nodes => node.tags ++ tagsAll nodes

end

/-- Attributes are written without brackets if their names are words. -/
theorem bracketless_attributesText {attributes : List (String × String)}
    (names : ∀ name ∈ attributes.map Prod.fst, Word name) :
    Bracketless (attributesText attributes) := by
  induction attributes with
  | nil => decide
  | cons pair attributes ih =>
      obtain ⟨word, later⟩ := List.forall_mem_cons.mp names
      have blank : Bracketless " " := by decide
      have opening : Bracketless "=\"" := by decide
      have closing : Bracketless "\"" := by decide
      have value : Bracketless (escapeAttribute pair.2) :=
        (harmless_escapeAttribute pair.2).bracketless
      have own := (((blank.append word.harmless.bracketless).append opening).append value).append
        closing
      rw [attributesText, List.map_cons, String.join_cons]
      exact own.append (ih later)

mutual

/-- The tags that are read off a tidy node are those of the node, and what follows is read from
between tags. -/
theorem tagsFrom_marks {node : Node} (tidy : node.Tidy) (rest : List Mark) :
    Mark.tagsFrom none (node.marks ++ rest) = node.tags ++ Mark.tagsFrom none rest := by
  cases node with
  | element tag attributes children =>
      rw [Tidy] at tidy
      obtain ⟨⟨word, -⟩, names, inside⟩ := tidy
      have text : Bracketless (tag ++ attributesText attributes) :=
        word.harmless.bracketless.append (bracketless_attributesText names)
      have slash : Bracketless "/" := by decide
      have start := Mark.tagsFrom_tag text
      have stop := Mark.tagsFrom_tag (slash.append word.harmless.bracketless)
      have written := Tag.ofText_written word names (.inl (show "".toList = [] from rfl))
        List.not_mem_nil
      rw [String.append_empty] at written
      rw [← String.append_assoc, written] at start
      rw [← String.append_assoc, Tag.ofText_end word] at stop
      rw [marks, List.append_assoc, List.append_assoc, start, tagsFrom_marksAll inside, tags,
        List.cons_append, List.append_assoc]
      exact congrArg (⟨tag, attributes⟩ :: tagsAll children ++ ·) (stop rest)
  | void tag attributes closed =>
      rw [Tidy] at tidy
      obtain ⟨⟨word, -⟩, names⟩ := tidy
      obtain ⟨back, ends, apart, quoteless, bracketless⟩ : ∃ back : String,
          (if closed then " />" else ">") = back ++ ">" ∧
            (back.toList = [] ∨ back.toList.head? = some ' ') ∧ '"' ∉ back.toList ∧
            Bracketless back := by
        cases closed with
        | true => exact ⟨" /", rfl, .inr rfl, by decide, by decide⟩
        | false => exact ⟨"", rfl, .inl rfl, by decide, by decide⟩
      have text : Bracketless (tag ++ attributesText attributes ++ back) :=
        (word.harmless.bracketless.append (bracketless_attributesText names)).append bracketless
      have whole : "<" ++ tag ++ attributesText attributes ++ (if closed then " />" else ">") =
          "<" ++ (tag ++ attributesText attributes ++ back) ++ ">" := by
        rw [ends]
        simp only [String.append_assoc]
      rw [marks, whole, Mark.tagsFrom_tag text, Tag.ofText_written word names apart quoteless]
      rfl
  | text s =>
      rw [marks, Mark.tagsFrom_none (bracketless_escapeText s)]
      rfl
  | space s =>
      rw [Tidy] at tidy
      rw [marks, Mark.tagsFrom_none tidy]
      rfl
  | raw s =>
      rw [marks, List.singleton_append, Mark.tagsFrom]
      rfl

/-- The tags that are read are those of the elements that have been written. -/
theorem tagsFrom_marksAll {nodes : List Node} (tidy : TidyAll nodes) (rest : List Mark) :
    Mark.tagsFrom none (marksAll nodes ++ rest) = tagsAll nodes ++ Mark.tagsFrom none rest := by
  cases nodes with
  | nil => rfl
  | cons node nodes =>
      rw [TidyAll] at tidy
      rw [marksAll, List.append_assoc, tagsFrom_marks tidy.1, tagsFrom_marksAll tidy.2, tagsAll,
        List.append_assoc]

end

/-! ## Identifiers, attributes and addresses -/

mutual

/-- The identifiers in the tags of a node are those of the node. -/
theorem ids_tags (node : Node) : node.tags.flatMap (idsOf ·.attributes) = node.ids := by
  cases node with
  | element tag attributes children =>
      rw [tags, List.flatMap_cons, List.flatMap_append, ids_tagsAll, ids, List.flatMap_singleton]
      exact congrArg (idsOf attributes ++ ·) (List.append_nil _)
  | void tag attributes closed => exact List.append_nil _
  | text s => rfl
  | space s => rfl
  | raw s => rfl

/-- The identifiers in the tags of some nodes are those of the nodes. -/
theorem ids_tagsAll (nodes : List Node) :
    (tagsAll nodes).flatMap (idsOf ·.attributes) = idsAll nodes := by
  cases nodes with
  | nil => rfl
  | cons node nodes => rw [tagsAll, List.flatMap_append, ids_tags, ids_tagsAll, idsAll]

end

mutual

/-- The attributes of the elements in a node, element by element. -/
def attributeLists : Node → List (List (String × String))
  | element _ attributes children => attributes :: attributeListsAll children
  | void _ attributes _ => [attributes]
  | text _ | space _ | raw _ => []

/-- The attributes of the elements in some nodes. -/
def attributeListsAll : List Node → List (List (String × String))
  | [] => []
  | node :: nodes => node.attributeLists ++ attributeListsAll nodes

end

theorem attributeListsAll_append (nodes others : List Node) :
    attributeListsAll (nodes ++ others) = attributeListsAll nodes ++ attributeListsAll others := by
  induction nodes with
  | nil => rfl
  | cons node nodes ih =>
      rw [List.cons_append, attributeListsAll, attributeListsAll, ih, List.append_assoc]

theorem attributeListsAll_flatMap {α : Type} (nodes : α → List Node) (as : List α) :
    attributeListsAll (as.flatMap nodes) = as.flatMap fun a => attributeListsAll (nodes a) := by
  induction as with
  | nil => rfl
  | cons a as ih => rw [List.flatMap_cons, List.flatMap_cons, attributeListsAll_append, ih]

theorem attributeListsAll_line (width : Nat) (node : Node) :
    attributeListsAll (line width node) = node.attributeLists := by
  simp only [line, indent, attributeListsAll, attributeLists, List.nil_append, List.append_nil]

theorem attributeListsAll_block (width : Nat) (tag : String)
    (attributes : List (String × String)) (children : List Node) :
    attributeListsAll (block width tag attributes children) =
      attributes :: attributeListsAll children := by
  simp only [block, attributeListsAll_line, attributeLists, attributeListsAll_append,
    attributeListsAll, indent, List.nil_append, List.append_nil, List.cons_append]

mutual

/-- The tags that begin elements have the attributes of the elements. -/
theorem attributeLists_tags {node : Node} (tidy : node.Tidy) :
    (node.tags.filter Tag.isStart).map Tag.attributes = node.attributeLists := by
  cases node with
  | element tag attributes children =>
      rw [Tidy] at tidy
      obtain ⟨⟨word, -⟩, -, inside⟩ := tidy
      have stop : [(⟨"/" ++ tag, []⟩ : Tag)].filter Tag.isStart = [] := by
        rw [List.filter_cons_of_neg (by rw [Tag.isStart_end]; exact Bool.false_ne_true)]
        rfl
      rw [tags, List.filter_cons_of_pos (Tag.isStart_of_word word attributes), List.filter_append,
        stop, List.append_nil, List.map_cons, attributeLists_tagsAll inside, attributeLists]
  | void tag attributes closed =>
      rw [Tidy] at tidy
      rw [tags, List.filter_cons_of_pos (Tag.isStart_of_word tidy.1.1 attributes)]
      rfl
  | text s => rfl
  | space s => rfl
  | raw s => rfl

theorem attributeLists_tagsAll {nodes : List Node} (tidy : TidyAll nodes) :
    ((tagsAll nodes).filter Tag.isStart).map Tag.attributes = attributeListsAll nodes := by
  cases nodes with
  | nil => rfl
  | cons node nodes =>
      rw [TidyAll] at tidy
      rw [tagsAll, List.filter_append, List.map_append, attributeLists_tags tidy.1,
        attributeLists_tagsAll tidy.2, attributeListsAll]

end

mutual

/-- The addresses that are read off the tags of a node are those of its elements, and behind the
node the same elements are open as before it. -/
theorem addresses_tags {node : Node} (tidy : node.Tidy) {around : Address}
    {opened : List Address} (here : opened.headD [] = around) (rest : List Tag) :
    Tag.addresses opened (node.tags ++ rest) =
      node.addresses around ++ Tag.addresses opened rest := by
  cases node with
  | element tag attributes children =>
      rw [Tidy] at tidy
      obtain ⟨⟨word, full⟩, -, inside⟩ := tidy
      -- The end tag closes the element, so that what follows is read as before.
      have stop : Tag.addresses ((around ++ steps tag attributes) :: opened)
          (⟨"/" ++ tag, []⟩ :: rest) = Tag.addresses opened rest := by
        rw [Tag.addresses, Tag.isStart_end, Tag.isEnd_end]
        rfl
      have inner : ((around ++ steps tag attributes) :: opened).headD [] =
          around ++ steps tag attributes := rfl
      have children := addresses_tagsAll inside inner (⟨"/" ++ tag, []⟩ :: rest)
      rw [tags, List.cons_append, List.append_assoc, List.singleton_append, Tag.addresses,
        if_pos (Tag.isStart_of_word word attributes), here]
      dsimp only
      rw [if_neg full, children, stop, addresses]
      cases steps tag attributes with
      | nil =>
          rw [List.append_nil]
          rfl
      | cons step deeper => rfl
  | void tag attributes closed =>
      rw [Tidy] at tidy
      obtain ⟨⟨word, empty⟩, -⟩ := tidy
      rw [tags, List.singleton_append, Tag.addresses,
        if_pos (Tag.isStart_of_word word attributes), here]
      dsimp only
      rw [if_pos empty, addresses]
      cases steps tag attributes <;> rfl
  | text s => rfl
  | space s => rfl
  | raw s => rfl

/-- The addresses that are read are those in the tree, when the elements around it are open. -/
theorem addresses_tagsAll {nodes : List Node} (tidy : TidyAll nodes) {around : Address}
    {opened : List Address} (here : opened.headD [] = around) (rest : List Tag) :
    Tag.addresses opened (tagsAll nodes ++ rest) =
      addressesAll around nodes ++ Tag.addresses opened rest := by
  cases nodes with
  | nil => rfl
  | cons node nodes =>
      rw [TidyAll] at tidy
      rw [tagsAll, List.append_assoc, addresses_tags tidy.1 here, addresses_tagsAll tidy.2 here,
        addressesAll, List.append_assoc]

end

end Node

/-! ## What is read off a document -/

/-- What is read off some marks is what stands in some nodes: the identifiers, the attributes and
the addresses of the elements. -/
structure ReadsAs (marks : List Mark) (nodes : List Node) : Prop where
  ids : Mark.ids marks = Node.idsAll nodes
  attributes : Mark.attributeLists marks = Node.attributeListsAll nodes
  addresses : Mark.addresses marks = Node.addressesAll [] nodes

/-- The tags that are read off tidy nodes are those of the nodes. -/
theorem Mark.tags_marksAll {nodes : List Node} (tidy : Node.TidyAll nodes) :
    Mark.tags (Node.marksAll nodes) = Node.tagsAll nodes := by
  have read := Node.tagsFrom_marksAll tidy []
  rwa [List.append_nil, Mark.tagsFrom, List.append_nil] at read

/-- What is read off tidy nodes is what stands in them. -/
theorem readsAs_of_tidy {nodes : List Node} (tidy : Node.TidyAll nodes) :
    ReadsAs (Node.marksAll nodes) nodes where
  ids := by rw [Mark.ids, Mark.tags_marksAll tidy, Node.ids_tagsAll]
  attributes := by
    rw [Mark.attributeLists, Mark.tags_marksAll tidy, Node.attributeLists_tagsAll tidy]
  addresses := by
    have outermost : ([] : List Address).headD [] = [] := rfl
    have read := Node.addresses_tagsAll tidy outermost []
    rw [List.append_nil, Tag.addresses, List.append_nil] at read
    rw [Mark.addresses, Mark.tags_marksAll tidy, read]

end Html

open Html (Mark Node ReadsAs)

/-- The elements of a document are read off the marks of which it is written. -/
theorem Article.readsAs_documentNodes (article : Article) (settings : RenderSettings) :
    ReadsAs (documentMarks (article.documentNodes settings)) (article.documentNodes settings) := by
  have doctype (marks : List Mark) : Mark.tags (Mark.ofString "<!DOCTYPE html>\n" ++ marks) =
      ⟨"!DOCTYPE", []⟩ :: Mark.tags marks := rfl
  obtain ⟨ids, attributes, addresses⟩ :=
    Html.readsAs_of_tidy (tidy_documentNodes article settings)
  have unnamed (tags : List Html.Tag) :
      ((⟨"!DOCTYPE", []⟩ :: tags : List Html.Tag).flatMap fun tag => Node.idsOf tag.attributes) =
        tags.flatMap fun tag => Node.idsOf tag.attributes := rfl
  have outside (tags : List Html.Tag) :
      Html.Tag.addresses [] (⟨"!DOCTYPE", []⟩ :: tags) = Html.Tag.addresses [] tags := rfl
  refine ⟨?_, ?_, ?_⟩
  · rw [← ids, Mark.ids, Mark.ids, documentMarks, doctype, unnamed]
  · rw [← attributes, Mark.attributeLists, Mark.attributeLists, documentMarks, doctype,
      List.filter_cons_of_neg (by decide)]
  · rw [← addresses, Mark.addresses, Mark.addresses, documentMarks, doctype, outside]

/-- The text of a document is written of marks, with the contents of the article's texts as trusted
texts, and the elements of the document are read off the marks. -/
theorem Article.reads_of_nodes {article : Article} {settings : RenderSettings} {nodes : List Node}
    (made : article.nodes settings = .ok nodes) :
    article.Writes settings ("<!DOCTYPE html>\n" ++ Node.renderAll nodes) nodes ∧
      ReadsAs (documentMarks nodes) nodes := by
  have written : article.html settings = .ok ("<!DOCTYPE html>\n" ++ Node.renderAll nodes) := by
    rw [html, made]
    rfl
  obtain ⟨placed, rfl⟩ := nodes_eq_ok_iff.mp made
  obtain ⟨text, writes⟩ := writes_of_placed placed settings
  cases Except.ok.inj (writes.html.symm.trans written)
  exact ⟨writes, article.readsAs_documentNodes settings⟩

end ScrollStory
