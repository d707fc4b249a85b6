import ScrollStory.Proofs.Article.WellFormed
import ScrollStory.Proofs.Html.Ids

/-!
# Where the elements of a document stand

The address of an element are the elements with identifiers around it and the element itself, each
with its tag and with its identifier as it is written. Plain names are written as they are, so in
the document of an article every component has an address of three parts: the section of its page,
the element of its slot, and its own (`ScrollStory.Article.addresses_of_placed`).
-/

namespace ScrollStory

namespace Html

/-! ## Plain names in attributes -/

/-- Letters, digits, underscores and hyphens are written in an attribute as they are. -/
theorem attributeChar_of_plain {c : Char} (plain : c.isAlphanum ∨ c = '_' ∨ c = '-') :
    attributeChar c = [c] := by
  have apart : ∀ special ∈ ['"', '\'', '&', '<', '>'], c ≠ special := by
    rintro special member rfl
    revert plain
    simp only [List.mem_cons, List.not_mem_nil, or_false] at member
    rcases member with rfl | rfl | rfl | rfl | rfl <;> decide
  simp only [List.forall_mem_cons] at apart
  obtain ⟨quote, apostrophe, ampersand, less, greater, -⟩ := apart
  rw [attributeChar, if_neg quote, if_neg apostrophe, textChar, if_neg ampersand, if_neg less,
    if_neg greater]

/-- A text of ASCII letters, digits, underscores and hyphens. -/
def PlainText (s : String) : Prop := ∀ c ∈ s.toList, c.isAlphanum ∨ c = '_' ∨ c = '-'

theorem plainText_of_all {s : String}
    (all : (s.toList.all fun c => c.isAlphanum || c = '_' || c = '-') = true) : PlainText s := by
  intro c member
  simpa [or_assoc] using List.all_eq_true.mp all c member

theorem PlainText.append {s t : String} (first : PlainText s) (second : PlainText t) :
    PlainText (s ++ t) := by
  intro c member
  rw [String.toList_append] at member
  exact (List.mem_append.mp member).elim (first c) (second c)

/-- A plain text is written in an attribute as it is. -/
theorem PlainText.escapeAttribute {s : String} (plain : PlainText s) : escapeAttribute s = s := by
  have same : s.toList.flatMap attributeChar = s.toList.flatMap fun c => [c] := by
    rw [List.flatMap_def, List.flatMap_def,
      List.map_congr_left fun c member => attributeChar_of_plain (plain c member)]
  rw [Html.escapeAttribute, same, ← List.map_eq_flatMap, List.map_id', String.ofList_toList]

/-! ## Addresses -/

/-- The tags and the written identifiers of an element and of those around it, outermost first. -/
abbrev Address := List (String × String)

/-- The identifier of the element at an address. -/
def Address.id? (address : Address) : Option String := address.getLast?.map Prod.snd

namespace Node

/-- What an element adds to the addresses in it. -/
def steps (tag : String) (attributes : List (String × String)) : Address :=
  (idsOf attributes).map fun id => (tag, escapeAttribute id)

mutual

/-- The addresses of the elements with identifiers in a node, in the order of the document. -/
def addresses (around : Address) : Node → List Address
  | element tag attributes children =>
    match steps tag attributes with
    | [] => addressesAll around children
    | here => (around ++ here) :: addressesAll (around ++ here) children
  | void tag attributes _ =>
    match steps tag attributes with
    | [] => []
    | here => [around ++ here]
  | text _ | space _ | raw _ => []

/-- The addresses of the elements with identifiers in some nodes. -/
def addressesAll (around : Address) : List Node → List Address
  | [] => []
  | node :: nodes => node.addresses around ++ addressesAll around nodes

end

variable {around : Address}

mutual

/-- Where there are no identifiers there are no addresses. -/
theorem addresses_of_ids {node : Node} (none : node.ids = []) : node.addresses around = [] := by
  cases node with
  | element tag attributes children =>
      rw [ids, List.append_eq_nil_iff] at none
      rw [addresses, steps, none.1]
      exact addressesAll_of_ids none.2
  | void tag attributes closed =>
      rw [ids] at none
      rw [addresses, steps, none]
      rfl
  | text s => rfl
  | space s => rfl
  | raw s => rfl

/-- Nodes without identifiers have no addresses. -/
theorem addressesAll_of_ids {nodes : List Node} (none : idsAll nodes = []) :
    addressesAll around nodes = [] := by
  cases nodes with
  | nil => rfl
  | cons node nodes =>
      rw [idsAll, List.append_eq_nil_iff] at none
      rw [addressesAll, addresses_of_ids none.1, addressesAll_of_ids none.2, List.append_nil]

end

theorem addressesAll_append (nodes others : List Node) :
    addressesAll around (nodes ++ others) =
      addressesAll around nodes ++ addressesAll around others := by
  induction nodes with
  | nil => rfl
  | cons node nodes ih => simp only [List.cons_append, addressesAll, ih, List.append_assoc]

theorem addressesAll_flatMap {α : Type} (nodes : α → List Node) (as : List α) :
    addressesAll around (as.flatMap nodes) = as.flatMap fun a => addressesAll around (nodes a) := by
  induction as with
  | nil => rfl
  | cons a as ih => rw [List.flatMap_cons, List.flatMap_cons, addressesAll_append, ih]

theorem addressesAll_line (width : Nat) (node : Node) :
    addressesAll around (line width node) = node.addresses around := by
  simp [line, indent, addressesAll, addresses]

/-- A block without an identifier does not show in addresses. -/
theorem addressesAll_block {attributes : List (String × String)} (none : idsOf attributes = [])
    (width : Nat) (tag : String) (children : List Node) :
    addressesAll around (block width tag attributes children) = addressesAll around children := by
  rw [block, addressesAll_line, addresses, steps, none]
  simp [addressesAll, addressesAll_append, indent, addresses]

/-- An element whose only identifier is plain stands before those in it, and adds itself to their
addresses. -/
theorem addresses_element {id : String} (plain : PlainText id)
    {attributes : List (String × String)} (only : idsOf attributes = [id]) (tag : String)
    (children : List Node) :
    (element tag attributes children).addresses around =
      (around ++ [(tag, id)]) :: addressesAll (around ++ [(tag, id)]) children := by
  rw [addresses, steps, only, List.map_singleton, plain.escapeAttribute]

theorem addressesAll_block_id {id : String} (plain : PlainText id) (width : Nat) (tag : String)
    (children : List Node) :
    addressesAll around (block width tag [("id", id)] children) =
      (around ++ [(tag, id)]) :: addressesAll (around ++ [(tag, id)]) children := by
  rw [block, addressesAll_line, addresses_element plain rfl]
  simp [addressesAll, addressesAll_append, indent, addresses]

/-- An element that carries the only identifier in it. -/
theorem addresses_leaf {id tag : String} (plain : PlainText id)
    {attributes : List (String × String)} (only : idsOf attributes = [id]) {children : List Node}
    (alone : (element tag attributes children).ids = [id]) :
    (element tag attributes children).addresses around = [around ++ [(tag, id)]] := by
  have inside : idsAll children = [] := by
    rw [ids, only] at alone
    simpa using alone
  rw [addresses_element plain only, addressesAll_of_ids inside]

end Node

end Html

open Html (Node Address PlainText plainText_of_all)

/-! ## Identifiers of well-formed articles -/

theorem PlainName.plainText {s : String} (name : PlainName s) : PlainText s := name.characters

theorem plainText_slotName (slot : Slot) : PlainText slot.name := by
  cases slot <;> exact plainText_of_all rfl

theorem Component.plainText_domId {c : Component} (name : PlainName c.id) : PlainText c.domId :=
  (plainText_of_all rfl).append name.plainText

theorem Page.plainText_domId {page : Page} (name : PlainName page.id) : PlainText page.domId :=
  (plainText_of_all rfl).append name.plainText

theorem Page.plainText_slotDomId {page : Page} (name : PlainName page.id) (slot : Slot) :
    PlainText (page.slotDomId slot) :=
  ((plainText_domId name).append (plainText_of_all rfl)).append (plainText_slotName slot)

/-! ## The document of an article -/

/-- The tag of the element of a component. -/
def Component.tag (c : Component) : String := if c.isImage then "figure" else "div"

/-- The address of the element around a slot of a page. -/
def Page.slotAddress (page : Page) (slot : Slot) : Address :=
  [("section", page.domId), ("div", page.slotDomId slot)]

/-- The address of the element of a component of a page. -/
def Page.componentAddress (page : Page) (c : Component) : Address :=
  page.slotAddress c.slot ++ [(c.tag, c.domId)]

/-- The addresses in the section of a page. -/
def Page.addresses (page : Page) : List Address :=
  [("section", page.domId)] :: page.groups.flatMap fun group =>
    page.slotAddress group.slot ::
      group.entries.map fun entry => page.componentAddress entry.component

variable {settings : RenderSettings}

/-- Of the elements of a component just one has an identifier, that of the component. -/
theorem Entry.addresses_node {entry : Entry} (plain : PlainName entry.component.id)
    (around : Address) (name : String) :
    (entry.node name settings).addresses around =
      [around ++ [(entry.component.tag, entry.component.domId)]] := by
  have alone := entry.ids_node name settings
  have text := Component.plainText_domId plain
  unfold Entry.node at alone ⊢
  unfold Component.tag
  split at alone
  · rename_i image
    rw [if_pos image, if_pos image]
    exact Node.addresses_leaf text rfl alone
  · rename_i image
    rw [if_neg image, if_neg image]
    exact Node.addresses_leaf text rfl alone

/-- A slot stands in its section, and its components stand in it in their order. -/
theorem Page.addressesAll_group {page : Page} (name : PlainName page.id) {group : Group}
    (names : ∀ entry ∈ group.entries, PlainName entry.component.id)
    (slots : ∀ entry ∈ group.entries, entry.component.slot = group.slot) :
    Node.addressesAll [("section", page.domId)] (group.nodes page settings) =
      page.slotAddress group.slot ::
        group.entries.map fun entry => page.componentAddress entry.component := by
  rw [Group.nodes, Node.addressesAll_block_id (plainText_slotDomId name group.slot),
    Node.addressesAll_flatMap, List.map_eq_flatMap, List.flatMap_def, List.flatMap_def,
    List.map_congr_left fun entry member => ?_]
  · rfl
  · rw [Node.addressesAll_line, Entry.addresses_node (names entry member), componentAddress,
      slots entry member]
    rfl

/-- The elements with identifiers in the section of a page are those of the page, of its occupied
slots and of its components. -/
theorem Page.addressesAll_sectionNodes {page : Page} (name : PlainName page.id)
    (names : ∀ c ∈ page.components, PlainName c.id) :
    Node.addressesAll [] (page.sectionNodes settings) = page.addresses := by
  rw [sectionNodes, Node.addressesAll_block_id (plainText_domId name), Node.addressesAll_flatMap,
    List.flatMap_def, List.map_congr_left fun group member => ?_, ← List.flatMap_def]
  · rfl
  · obtain ⟨same, -⟩ := of_mem_groups member
    refine addressesAll_group name (fun entry inside => names _ ?_) (fun entry inside => ?_)
    · rw [same] at inside
      rw [← component_entries]
      exact List.mem_map_of_mem (List.mem_of_mem_filter inside)
    · rw [same] at inside
      exact of_decide_eq_true (List.mem_filter.mp inside).2

namespace Article

/-- An article whose components are placed and whose names are plain has a document, and the
elements with identifiers there are those of its pages. -/
theorem addresses_of_placed {article : Article} (placed : ∀ page ∈ article.pages, page.Placed)
    (names : ∀ page ∈ article.pages, PlainName page.id ∧ ∀ c ∈ page.components, PlainName c.id)
    (settings : RenderSettings) :
    ∃ nodes, article.nodes settings = .ok nodes ∧
      Node.addressesAll [] nodes = article.pages.flatMap Page.addresses := by
  have scripts : Node.addressesAll [] (settings.libraryScripts.flatMap scriptNodes) = [] := by
    simp [Node.addressesAll_flatMap, Node.addressesAll_of_ids, ids_scriptNodes]
  have scroll (pages : List Node) :
      Node.addressesAll [] (scrollNodes pages settings) = Node.addressesAll [] pages := by
    unfold scrollNodes
    split
    · exact Node.addressesAll_block rfl _ _ _
    · rfl
  have pages : Node.addressesAll [] (article.pages.flatMap fun page =>
      page.sectionNodes settings) = article.pages.flatMap Page.addresses := by
    rw [Node.addressesAll_flatMap, List.flatMap_def, List.flatMap_def,
      List.map_congr_left fun page member =>
        Page.addressesAll_sectionNodes (names page member).1 (names page member).2]
  refine ⟨_, nodes_eq_ok_iff.mpr ⟨placed, rfl⟩, ?_⟩
  rw [documentNodes, Node.addressesAll_block rfl, Node.addressesAll_append,
    Node.addressesAll_block rfl, Node.addressesAll_append, Node.addressesAll_append, scroll,
    scripts, pages, Node.addressesAll_of_ids (article.ids_headNodes settings),
    Node.addressesAll_of_ids (ids_scriptNodes _), List.append_nil, List.append_nil,
    List.nil_append]

end Article

end ScrollStory
