import ScrollStory.Proofs.Html.UniqueIds

/-!
# The classes of components

The element of a component carries the class of its page and slot, as one of the words of its class
attribute (`ScrollStory.Page.carries_class`).
-/

namespace ScrollStory

open Html (Node PlainText plainText_of_all)

/-- A word among those of a class attribute. -/
def HasClass (name : String) (attributes : List (String × String)) : Prop :=
  ∃ classes, ("class", classes) ∈ attributes ∧ name ∈ Text.split ' ' classes

/-- A class attribute with one class has this class. -/
theorem hasClass_self {name : String} (free : ' ' ∉ name.toList) (id : String) :
    HasClass name [("class", name), ("id", id)] := by
  refine ⟨name, List.mem_cons_self, ?_⟩
  rw [Text.split_of_not_mem free]
  exact List.mem_singleton_self name

/-- A class attribute with a class and `first-image` behind it has this class. -/
theorem hasClass_first {name : String} (free : ' ' ∉ name.toList) (id : String) :
    HasClass name [("class", name ++ " first-image"), ("id", id)] := by
  refine ⟨_, List.mem_cons_self, ?_⟩
  have chars : (name ++ " first-image").toList = name.toList ++ ' ' :: "first-image".toList := by
    simp
  rw [Text.split, chars, Text.pieces_append free, List.map_cons, String.ofList_toList]
  exact List.mem_cons_self

/-- Of the elements of a component its own one has an identifier, and carries the class. -/
theorem Entry.hasClass {entry : Entry} {name : String} {settings : RenderSettings}
    (free : ' ' ∉ name.toList) {attributes : List (String × String)}
    (member : attributes ∈ (entry.node name settings).attributeLists) {id : String}
    (named : ("id", id) ∈ attributes) :
    id = entry.component.domId ∧ HasClass name attributes := by
  unfold Entry.node at member
  split at member
  · unfold Component.imageNode at member
    rcases List.mem_cons.mp member with rfl | inner
    · split at named
      · rename_i first
        rw [if_pos first]
        exact ⟨by simpa using named, hasClass_first free _⟩
      · rename_i first
        rw [if_neg first]
        exact ⟨by simpa using named, hasClass_self free _⟩
    · rcases List.mem_append.mp inner with picture | caption
      · cases List.mem_singleton.mp picture
        simp at named
      · have plain : attributes = [] := by
          split at caption
          · split at caption
            · cases caption
            · simpa [Node.attributeListsAll, Node.attributeLists] using caption
          · cases caption
        rw [plain] at named
        cases named
  · rcases List.mem_cons.mp member with rfl | inner
    · exact ⟨by simpa using named, hasClass_self free _⟩
    · cases inner

/-- The element of an entry has the identifier of the component. -/
theorem Entry.exists_attributes (entry : Entry) (name : String) (settings : RenderSettings) :
    ∃ attributes ∈ (entry.node name settings).attributeLists,
      ("id", entry.component.domId) ∈ attributes := by
  unfold Entry.node
  split
  · exact ⟨_, List.mem_cons_self, List.mem_cons_of_mem _ (List.mem_singleton_self _)⟩
  · exact ⟨_, List.mem_cons_self, List.mem_cons_of_mem _ (List.mem_singleton_self _)⟩

namespace Page

variable {page : Page} {settings : RenderSettings}

/-- The class of the components in a slot. -/
def slotClass (page : Page) (slot : Slot) : String := page.slotDomId slot ++ "-component"

/-- The class of a slot is one word. -/
theorem slotClass_spaceless (name : PlainName page.id) (slot : Slot) :
    ' ' ∉ (page.slotClass slot).toList := by
  intro member
  have plain : PlainText (page.slotClass slot) :=
    (plainText_slotDomId name slot).append (plainText_of_all (by decide))
  exact absurd (plain ' ' member) (by decide)

/-- The elements in the section of a page: the section, the elements around its slots, and those of
its components. -/
theorem mem_attributeLists {attributes : List (String × String)} :
    attributes ∈ Node.attributeListsAll (page.sectionNodes settings) ↔
      attributes = [("id", page.domId)] ∨ ∃ group ∈ page.groups,
        attributes = [("id", page.slotDomId group.slot)] ∨ ∃ entry ∈ group.entries,
          attributes ∈ (entry.node (page.slotClass group.slot) settings).attributeLists := by
  simp only [sectionNodes, Node.attributeListsAll_block, Node.attributeListsAll_flatMap,
    Group.nodes, Node.attributeListsAll_line, List.mem_cons, List.mem_flatMap]
  rfl

/-- The entries of a group are components of the page, all in the slot of the group. -/
theorem slot_of_mem_group {group : Group} (member : group ∈ page.groups) {entry : Entry}
    (inside : entry ∈ group.entries) :
    entry.component ∈ page.components ∧ entry.component.slot = group.slot := by
  rw [(of_mem_groups member).1] at inside
  obtain ⟨listed, placed⟩ := List.mem_filter.mp inside
  rw [← component_entries]
  exact ⟨List.mem_map_of_mem listed, of_decide_eq_true placed⟩

/-- The element of a component in the section of a page carries the class of the component's slot.
-/
theorem carries_class (name : PlainName page.id) {attributes : List (String × String)}
    (member : attributes ∈ Node.attributeListsAll (page.sectionNodes settings)) {id : String}
    (named : ("id", "comp-" ++ id) ∈ attributes) :
    ∃ c ∈ page.components, c.id = id ∧ HasClass (page.slotClass c.slot) attributes := by
  have apart (other : String) : "comp-" ++ id ≠ "page-" ++ other :=
    (Component.ofText id .left "" "").domId_ne other
  rcases mem_attributeLists.mp member with rfl | ⟨group, listed, rfl | ⟨entry, inside, member⟩⟩
  · have same := (Prod.mk.inj (List.mem_singleton.mp named)).2
    exact absurd same (apart page.id)
  · have same := (Prod.mk.inj (List.mem_singleton.mp named)).2
    rw [slotDomId_eq] at same
    exact absurd same (apart _)
  · obtain ⟨same, carries⟩ := Entry.hasClass (slotClass_spaceless name group.slot) member named
    obtain ⟨listed, slot⟩ := slot_of_mem_group listed inside
    refine ⟨entry.component, listed, ?_, slot ▸ carries⟩
    exact ((String.append_right_inj "comp-").mp same).symm

/-- Every component of a page has an element. -/
theorem exists_attributes (page : Page) (settings : RenderSettings) {c : Component}
    (member : c ∈ page.components) :
    ∃ attributes ∈ Node.attributeListsAll (page.sectionNodes settings),
      ("id", c.domId) ∈ attributes := by
  obtain ⟨group, listed, entry, inside, rfl⟩ := exists_group member
  obtain ⟨attributes, made, named⟩ :=
    entry.exists_attributes (page.slotClass group.slot) settings
  exact ⟨attributes, mem_attributeLists.mpr (.inr ⟨group, listed, .inr ⟨entry, inside, made⟩⟩),
    named⟩

end Page

end ScrollStory
