import Mathlib.Data.List.Count
import ScrollStory.Proofs.Css.FlatRules
import ScrollStory.Proofs.Html.Addresses
import ScrollStory.Proofs.Html.UniqueIds

/-!
# The selectors of a page

The rules of a page have one selector for each slot of its template, which is of the element around
the slot, and one for each slot that is occupied, which is of the components there
(`ScrollStory.Page.count_wrapper`, `ScrollStory.Page.count_components`). The texts of selectors tell
them apart, within a page those of elements around slots and in a whole stylesheet those of
components.
-/

namespace ScrollStory

open CssLength (isSpace)

open Html (PlainText)

namespace Css

/-! ## The texts of selectors -/

/-- The page that a selector is about. -/
def Selector.pageId? : Selector → Option String
  | general _ | scroller _ => none
  | page pageId | wrapper pageId _ | components pageId _ | images pageId _ => some pageId

theorem Calm.append {s t : String} (first : Calm s) (second : Calm t) : Calm (s ++ t) := by
  intro mark listed member
  rw [String.toList_append] at member
  exact (List.mem_append.mp member).elim (first mark listed) (second mark listed)

/-- Plain texts have no marks. -/
theorem calm_of_plainText {s : String} (plain : PlainText s) : Calm s := by
  have apart : ∀ mark ∈ marks, ¬(mark.isAlphanum ∨ mark = '_' ∨ mark = '-') :=
    forall_mem_of_all (by decide)
  exact fun mark listed member => apart mark listed (plain mark member)

/-- The characters of plain names are no white space. -/
theorem isSpace_of_plain {c : Char} (plain : c.isAlphanum ∨ c = '_' ∨ c = '-') :
    isSpace c = false := by
  have apart : ∀ c ∈ [' ', '\t', '\n', '\r', '\x0C'], ¬(c.isAlphanum ∨ c = '_' ∨ c = '-') :=
    forall_mem_of_all (by decide)
  rw [← Bool.not_eq_true]
  exact fun space => apart c (List.contains_iff_mem.mp space) plain

namespace Selector

variable {selector : Selector} {id : String}

/-- A selector about a page is for the page itself, or for one of the kinds of elements at a slot.
-/
theorem of_pageId? (own : selector.pageId? = some id) :
    selector = page id ∨ ∃ slot,
      selector = wrapper id slot ∨ selector = components id slot ∨ selector = images id slot := by
  cases selector with
  | general text => cases own
  | scroller name => cases own
  | page _ =>
      cases own
      exact .inl rfl
  | wrapper _ slot =>
      cases own
      exact .inr ⟨slot, .inl rfl⟩
  | components _ slot =>
      cases own
      exact .inr ⟨slot, .inr (.inl rfl)⟩
  | images _ slot =>
      cases own
      exact .inr ⟨slot, .inr (.inr rfl)⟩

/-- Selectors about a page with a plain name are calm. -/
theorem calm_text (name : PlainName id) (own : selector.pageId? = some id) :
    Calm selector.text := by
  have plain : Calm id := calm_of_plainText name.plainText
  have slotted {first : String} (calm : Calm first) (slot : Slot) :
      Calm (first ++ id ++ "-" ++ slot.name) :=
    ((calm.append plain).append (by decide)).append (calm_of_plainText (plainText_slotName slot))
  rcases of_pageId? own with rfl | ⟨slot, rfl | rfl | rfl⟩
  · exact .append (by decide) plain
  · exact slotted (by decide) slot
  · exact (slotted (by decide) slot).append (by decide)
  · exact (slotted (by decide) slot).append (by decide)

theorem getLast?_append {s t : String} (some : t ≠ "") :
    (s ++ t).toList.getLast? = t.toList.getLast? := by
  have chars : t.toList ≠ [] := by simpa using some
  rw [String.toList_append, List.getLast?_append_of_ne_nil _ chars]

/-- There is no white space at the ends of a selector of a page. -/
theorem bare_text (name : PlainName id) (own : selector.pageId? = some id) :
    bare selector.text.toList = selector.text := by
  have first : ∀ c ∈ selector.text.toList.head?, isSpace c = false := by
    rcases of_pageId? own with rfl | ⟨slot, rfl | rfl | rfl⟩
    all_goals simp [text, isSpace]
  have last : ∀ c ∈ selector.text.toList.getLast?, isSpace c = false := by
    rcases of_pageId? own with rfl | ⟨slot, rfl | rfl | rfl⟩
    · rw [text, getLast?_append name.nonempty]
      exact fun c last => isSpace_of_plain (name.characters c (List.mem_of_getLast? last))
    · rw [text, getLast?_append (by cases slot <;> decide)]
      exact fun c last => isSpace_of_plain (plainText_slotName slot c (List.mem_of_getLast? last))
    · have letter : "-component".toList.getLast? = some 't' := rfl
      rw [text, getLast?_append (by decide), letter]
      exact fun c last => Option.some.inj last ▸ rfl
    · have letter : "-component img".toList.getLast? = some 'g' := rfl
      rw [text, getLast?_append (by decide), letter]
      exact fun c last => Option.some.inj last ▸ rfl
  rw [bare, Text.strip_eq_self first last, String.ofList_toList]

/-- A selector of components is told from those of any page by its text. -/
theorem text_eq_components (own : selector.pageId? = some id) {pageId : String} {slot : Slot} :
    selector.text = (components pageId slot).text ↔ selector = components pageId slot := by
  refine ⟨fun same => ?_, fun same => same ▸ rfl⟩
  have firsts := congrArg (·.toList.head?) same
  rcases of_pageId? own with rfl | ⟨slot', rfl | rfl | rfl⟩
  · simp [text] at firsts
  · simp [text] at firsts
  · rw [text, text, String.append_left_inj, String.append_assoc, String.append_assoc,
      String.append_assoc, String.append_assoc, String.append_right_inj, ← String.append_assoc,
      ← String.append_assoc] at same
    obtain ⟨rfl, rfl⟩ := slotName_inj same
    rfl
  · have lasts := congrArg (·.toList.getLast?) same
    rw [text, text, getLast?_append (by decide), getLast?_append (by decide)] at lasts
    exact absurd lasts (by decide)

/-- Among those of one page, the selector of the element around a slot is told by its text. -/
theorem text_eq_wrapper (own : selector.pageId? = some id) {slot : Slot} :
    selector.text = (wrapper id slot).text ↔ selector = wrapper id slot := by
  refine ⟨fun same => ?_, fun same => same ▸ rfl⟩
  have firsts := congrArg (·.toList.head?) same
  rcases of_pageId? own with rfl | ⟨slot', rfl | rfl | rfl⟩
  · rw [text, text, String.append_assoc, String.append_assoc, String.append_right_inj,
      ← String.append_assoc] at same
    exact absurd same (ne_slotName id slot)
  · rw [text, text, String.append_right_inj] at same
    rw [Slot.name_injective same]
  · simp [text] at firsts
  · simp [text] at firsts

end Selector

/-! ## The selectors of rules -/

variable {page : Page} {slots : List Slot}

/-- A template has no slot twice. -/
theorem nodup_slots? {template : Template} (known : template.slots? = some slots) :
    slots.Nodup := by
  cases template with
  | other name => cases known
  | _ =>
      cases known
      decide

/-- The rules of a layout are one for the page and one for the element around each slot. -/
theorem selectors_layoutRules (known : page.layout.template.slots? = some slots) :
    ∃ layout, layoutRules? page = some layout ∧
      layout.map Rule.selector = .page page.id :: slots.map (.wrapper page.id) := by
  unfold layoutRules?
  cases template : page.layout.template with
  | other name =>
      rw [template] at known
      cases known
  | _ =>
      rw [template] at known
      cases known
      exact ⟨_, rfl, rfl⟩

/-- One rule of the components in a slot is about all of them, and any other one is about the page
or the images. -/
theorem selectors_onlySlotRules (pageId : String) (slot : Slot) (c : Component) (pinnable : Bool) :
    ∃ before behind, (onlySlotRules pageId slot c pinnable).map Rule.selector =
        before ++ .components pageId slot :: behind ∧
      ∀ other ∈ before ++ behind, other = .page pageId ∨ other = .images pageId slot := by
  unfold onlySlotRules
  dsimp only
  split
  · exact ⟨[], [], rfl, List.forall_mem_nil _⟩
  · split
    · exact ⟨[.images pageId slot], [], rfl, by simp⟩
    · exact ⟨[.images pageId slot], [], rfl, by simp⟩
    · exact ⟨[.page pageId], [.images pageId slot], rfl, by simp⟩
    · exact ⟨[], [.images pageId slot], rfl, by simp⟩

/-- Among the rules of a group there is one for the components in its slot, and the others are for
the page or the images there. -/
theorem selectors_groupRules (known : page.layout.template.slots? = some slots) {group : Group}
    (occupied : group.entries ≠ []) :
    ∃ before behind, (groupRules page group).map Rule.selector =
        before ++ .components page.id group.slot :: behind ∧
      ∀ other ∈ before ++ behind, other = .page page.id ∨ other = .images page.id group.slot := by
  obtain ⟨first, rest, entries⟩ := List.exists_cons_of_ne_nil occupied
  simp only [groupRules, entries]
  cases template : page.layout.template with
  | leftRight => exact ⟨[], [], rfl, List.forall_mem_nil _⟩
  | topBottom => exact ⟨[], [], rfl, List.forall_mem_nil _⟩
  | single => exact selectors_onlySlotRules _ _ _ _
  | other name =>
      rw [template] at known
      cases known

/-- A group has one rule for the components of its own slot, and none for those of another one. -/
theorem count_groupRules (known : page.layout.template.slots? = some slots) {group : Group}
    (occupied : group.entries ≠ []) (slot : Slot) :
    ((groupRules page group).map Rule.selector).count (.components page.id slot) =
      if group.slot = slot then 1 else 0 := by
  obtain ⟨before, behind, selectors, others⟩ := selectors_groupRules known occupied
  have apart : .components page.id slot ∉ before ++ behind := by
    intro member
    rcases others _ member with same | same <;> cases same
  rw [List.mem_append, not_or] at apart
  rw [selectors, List.count_append, List.count_cons, List.count_eq_zero.mpr apart.1,
    List.count_eq_zero.mpr apart.2]
  simp

/-- The rules of a group are for the components in its slot, for the page or for the images there.
-/
theorem of_mem_groupRules (known : page.layout.template.slots? = some slots) {group : Group}
    (occupied : group.entries ≠ []) {rule : Rule} (member : rule ∈ groupRules page group) :
    rule.selector = .components page.id group.slot ∨ rule.selector = .page page.id ∨
      rule.selector = .images page.id group.slot := by
  obtain ⟨before, behind, selectors, others⟩ := selectors_groupRules known occupied
  have listed : rule.selector ∈ before ++ .components page.id group.slot :: behind :=
    selectors ▸ List.mem_map_of_mem member
  rw [List.mem_append, List.mem_cons] at listed
  rcases listed with inside | same | inside
  · exact .inr (others _ (List.mem_append_left _ inside))
  · exact .inl same
  · exact .inr (others _ (List.mem_append_right _ inside))

end Css

namespace Page

open Css (Rule Selector)

/-- The rules of a page whose components are placed. -/
def placedRules (page : Page) : List Rule :=
  match Css.layoutRules? page with
  | some layout => layout ++ page.groups.flatMap (Css.groupRules page)
  | none => []

variable {page : Page} {slots : List Slot}

theorem rules_of_placed (placed : page.Placed) : page.rules = .ok page.placedRules := by
  rw [rules, group_of_placed placed, placedRules]
  cases Css.layoutRules? page <;> rfl

theorem placedRules_eq_nil (unknown : page.layout.template.slots? = none) :
    page.placedRules = [] := by
  rw [placedRules, layoutRules?_eq_none_iff.mpr unknown]

/-- The rules of a page are those of its layout and then those of its groups. -/
theorem placedRules_eq_append (known : page.layout.template.slots? = some slots) :
    ∃ layout, Css.layoutRules? page = some layout ∧
      layout.map Rule.selector = .page page.id :: slots.map (.wrapper page.id) ∧
      page.placedRules = layout ++ page.groups.flatMap (Css.groupRules page) := by
  obtain ⟨layout, given, selectors⟩ := Css.selectors_layoutRules known
  exact ⟨layout, given, selectors, by rw [placedRules, given]⟩

/-- The selectors of a page are those of its layout and then those of its groups. -/
theorem selectors_placedRules (known : page.layout.template.slots? = some slots) :
    page.placedRules.map Rule.selector = .page page.id :: slots.map (.wrapper page.id) ++
      page.groups.flatMap fun group => (Css.groupRules page group).map Rule.selector := by
  obtain ⟨layout, _, selectors, rules⟩ := placedRules_eq_append known
  rw [rules, List.map_append, selectors, List.map_flatMap]

/-- Every rule of a page is about this page. -/
theorem pageId?_placedRules {rule : Rule} (member : rule ∈ page.placedRules) :
    rule.selector.pageId? = some page.id := by
  cases known : page.layout.template.slots? with
  | none =>
      rw [placedRules_eq_nil known] at member
      cases member
  | some slots =>
      obtain ⟨layout, _, selectors, rules⟩ := placedRules_eq_append known
      rw [rules] at member
      rcases List.mem_append.mp member with inLayout | inGroup
      · have listed : rule.selector ∈ layout.map Rule.selector := List.mem_map_of_mem inLayout
        rw [selectors] at listed
        rcases List.mem_cons.mp listed with same | wrapper
        · rw [same]
          rfl
        · obtain ⟨slot, _, same⟩ := List.mem_map.mp wrapper
          rw [← same]
          rfl
      · obtain ⟨group, inside, member⟩ := List.mem_flatMap.mp inGroup
        rcases Css.of_mem_groupRules known (of_mem_groups inside).2 member with same | same | same
        all_goals
          rw [same]
          rfl

/-- A page has one rule for the element around each slot of its template. -/
theorem count_wrapper (known : page.layout.template.slots? = some slots) (slot : Slot) :
    (page.placedRules.map Rule.selector).count (.wrapper page.id slot) =
      if slot ∈ slots then 1 else 0 := by
  have injective : Function.Injective (Selector.wrapper page.id) := by
    intro slot slot' same
    cases same
    rfl
  have none : (page.groups.flatMap fun group =>
      (Css.groupRules page group).map Rule.selector).count (.wrapper page.id slot) = 0 := by
    refine List.count_eq_zero.mpr fun member => ?_
    obtain ⟨group, inside, member⟩ := List.mem_flatMap.mp member
    obtain ⟨rule, listed, wrapper⟩ := List.mem_map.mp member
    have others := Css.of_mem_groupRules known (of_mem_groups inside).2 listed
    simp [wrapper] at others
  rw [selectors_placedRules known, List.count_append, none, List.count_cons_of_ne (by simp),
    List.count_map_of_injective _ _ injective, (Css.nodup_slots? known).count, Nat.add_zero]

/-- A page has one rule for the components in each slot that is occupied. -/
theorem count_components (known : page.layout.template.slots? = some slots) (slot : Slot) :
    (page.placedRules.map Rule.selector).count (.components page.id slot) =
      if slot ∈ page.groups.map Group.slot then 1 else 0 := by
  have layout : (Selector.page page.id :: slots.map (.wrapper page.id)).count
      (.components page.id slot) = 0 := by
    refine List.count_eq_zero.mpr fun member => ?_
    simp at member
  have each (groups : List Group) (occupied : ∀ group ∈ groups, group.entries ≠ []) :
      (groups.flatMap fun group => (Css.groupRules page group).map Rule.selector).count
        (.components page.id slot) = (groups.map Group.slot).count slot := by
    induction groups with
    | nil => rfl
    | cons group groups ih =>
        obtain ⟨first, later⟩ := List.forall_mem_cons.mp occupied
        rw [List.flatMap_cons, List.count_append, Css.count_groupRules known first, ih later,
          List.map_cons, List.count_cons, Nat.add_comm]
        simp
  rw [selectors_placedRules known, List.count_append, layout, Nat.zero_add,
    each _ fun group inside => (of_mem_groups inside).2, page.nodup_slots.count]

end Page

end ScrollStory
