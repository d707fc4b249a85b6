import Mathlib.Data.List.Count
import ScrollStory.Proofs.Html.Addresses
import ScrollStory.Proofs.Html.UniqueIds
import ScrollStory.Proofs.Plan.Bindings
import ScrollStory.Script.Program

/-!
# Elements in documents and in blocks

Every component has one element in the document of its article
(`ScrollStory.Article.filter_componentAddress`), and the section of a page holds the elements of its
components in the order of their slots (`ScrollStory.Page.sectionComponents_eq`). A block changes the
element of one component and no other one (`ScrollStory.Binding.animates_block`), and the section of
the page starts it.
-/

namespace ScrollStory

open Html (Node Address)

open Script (Block Setting Statement Tween)

/-! ## What blocks name -/

namespace Script

/-- The identifiers of the elements that a statement changes. -/
def Statement.targets : Statement → List String
  | log _ => []
  | tween t => [t.target]

/-- The identifiers of the elements that the callback of a setting changes. -/
def Setting.targets : Setting → List String
  | callback body => body.flatMap Statement.targets
  | _ => []

@[simp] theorem Setting.targets_quoted (s : String) : (quoted s).targets = [] := rfl

@[simp] theorem Setting.targets_flag (b : Bool) : (flag b).targets = [] := rfl

@[simp] theorem Setting.targets_thunk (s : String) : (thunk s).targets = [] := rfl

namespace Block

/-- The identifiers of the elements that a block changes. -/
def targets : Block → List String
  | trigger start settings => start.target :: settings.flatMap fun setting => setting.2.targets
  | pin settings => settings.flatMap fun setting => setting.2.targets

/-- The settings of a block. -/
def settings : Block → List (String × Setting)
  | trigger _ settings => settings
  | pin settings => settings

/-- The settings of a block name one element whose place on the screen decides. -/
def TriggeredBy (block : Block) (id : String) : Prop :=
  block.settings.filter (·.1 = "trigger") = [("trigger", .quoted ("#" ++ id))]

/-- A block changes one element and no other, and its text begins with that. -/
structure Animates (block : Block) (id : String) : Prop where
  some : block.targets ≠ []
  only : ∀ target ∈ block.targets, target = id
  text : ∃ rest, block.lines.head? = Option.some ("gsap.set(\"#" ++ id ++ "\", \x7b" ++ rest)

end Block

end Script

/-- A tween of a script changes the element that it is made for. -/
theorem AnimationScript.target_of_tween? {script : AnimationScript} {target : String}
    {phase : Phase} {tween : Tween} (given : script.tween? target phase = some tween) :
    tween.target = target := by
  cases phase with
  | exit =>
      by_cases overlaps : script.behavior = .overlap
      · simp [tween?, overlaps] at given
      · simp only [tween?, if_neg overlaps, Option.some.injEq] at given
        cases given
        rfl
  | _ =>
      cases given
      rfl

namespace Binding

/-- The callbacks of a binding change no element but its own. -/
theorem targets_callback {binding : Binding} {trace : Bool} {label : String} {phase : Phase}
    {target : String} (member : target ∈ (binding.callback trace label phase).targets) :
    target = binding.domId := by
  obtain ⟨statement, listed, inside⟩ := List.mem_flatMap.mp member
  rcases List.mem_append.mp listed with report | change
  · cases trace with
    | false => cases report
    | true =>
        cases List.mem_singleton.mp report
        cases inside
  · obtain ⟨tween, given, rfl⟩ := Option.map_eq_some_iff.mp (Option.mem_toList.mp change)
    cases List.mem_singleton.mp inside
    exact AnimationScript.target_of_tween? given

variable (binding : Binding) (stepPercent : Nat) (scroller : Option String) (trace : Bool)

/-- The block of a binding animates the element of the binding. -/
theorem animates_block : (binding.block stepPercent scroller trace).Animates binding.domId := by
  refine ⟨List.cons_ne_nil _ _, ?_, ?_⟩
  · intro target member
    have still : (scrollerSetting scroller).flatMap (fun setting => setting.2.targets) = [] := by
      cases scroller <;> rfl
    simp only [block, Block.targets, List.flatMap_append, still, List.flatMap_cons,
      List.flatMap_nil, Setting.targets_quoted, Setting.targets_flag, Setting.targets_thunk,
      List.nil_append, List.append_nil, List.mem_cons, List.mem_append] at member
    rcases member with rfl | inside | inside | inside | inside
    · rfl
    all_goals exact targets_callback inside
  · have start : "gsap.set(\"#" = "gsap." ++ Script.Verb.set.name ++ "(\"#" := by decide
    refine ⟨", ".intercalate ((binding.script.start binding.domId).properties.map
      Script.propertyText) ++ "\x7d);", ?_⟩
    rw [start, ← String.append_assoc]
    rfl

/-- The block of a binding is started by the section of the binding's page. -/
theorem triggered_block :
    (binding.block stepPercent scroller trace).TriggeredBy ("page-" ++ binding.pageId) := by
  have named : "#page-" ++ binding.pageId = "#" ++ ("page-" ++ binding.pageId) := by
    rw [← String.append_assoc]
    rfl
  cases scroller with
  | none => simp [Block.TriggeredBy, block, Block.settings, scrollerSetting, named]
  | some selector => simp [Block.TriggeredBy, block, Block.settings, scrollerSetting, named]

end Binding

/-- The block of a pin is started by the section of its page. -/
theorem Pin.triggered_block (pin : Pin) (scroller : Option String) :
    (pin.block scroller).TriggeredBy ("page-" ++ pin.pageId) := by
  have named : "#page-" ++ pin.pageId = "#" ++ ("page-" ++ pin.pageId) := by
    rw [← String.append_assoc]
    rfl
  cases scroller with
  | none => simp [Block.TriggeredBy, block, Block.settings, scrollerSetting, named]
  | some selector => simp [Block.TriggeredBy, block, Block.settings, scrollerSetting, named]

/-! ## Parts of a list by their keys -/

/-- An item whose key occurs once is all that is found by this key. -/
theorem filter_eq_singleton {α κ : Type} [DecidableEq κ] (key : α → κ) {as : List α} {a : α}
    (member : a ∈ as) (once : as.countP (key · = key a) = 1) : as.filter (key · = key a) = [a] := by
  have length : (as.filter (key · = key a)).length = 1 := by
    rw [← once, List.countP_eq_length_filter]
  obtain ⟨b, same⟩ := List.length_eq_one_iff.mp length
  have inside : a ∈ as.filter (key · = key a) := List.mem_filter.mpr ⟨member, by simp⟩
  rw [same] at inside ⊢
  rw [List.mem_singleton.mp inside]

/-- Parts that are told apart by a key are found again by it. -/
theorem filter_flatMap_key {α β κ : Type} [DecidableEq κ] {part : α → List β} {key : α → κ}
    (keyOf : β → κ) {as : List α} (keyed : ∀ a ∈ as, ∀ b ∈ part a, keyOf b = key a)
    (unique : (as.map key).Nodup) {a : α} (member : a ∈ as) :
    (as.flatMap part).filter (keyOf · = key a) = part a := by
  induction as with
  | nil => cases member
  | cons first as ih =>
      obtain ⟨fresh, unique⟩ := List.nodup_cons.mp unique
      have later (other : α) (inside : other ∈ as) := keyed other (List.mem_cons_of_mem _ inside)
      rw [List.flatMap_cons, List.filter_append]
      rcases List.mem_cons.mp member with rfl | inside
      · have own : (part a).filter (keyOf · = key a) = part a :=
          List.filter_eq_self.mpr fun b inside =>
            decide_eq_true (keyed a List.mem_cons_self b inside)
        have others : (as.flatMap part).filter (keyOf · = key a) = [] := by
          refine List.filter_eq_nil_iff.mpr fun b inPart => ?_
          obtain ⟨other, inside, inPart⟩ := List.mem_flatMap.mp inPart
          rw [later other inside b inPart, decide_eq_true_eq]
          intro same
          exact fresh (same ▸ List.mem_map_of_mem inside)
        rw [own, others, List.append_nil]
      · have none : (part first).filter (keyOf · = key a) = [] := by
          refine List.filter_eq_nil_iff.mpr fun b inPart => ?_
          rw [keyed first List.mem_cons_self b inPart, decide_eq_true_eq]
          intro same
          exact fresh (same ▸ List.mem_map_of_mem inside)
        rw [none, List.nil_append, ih later unique inside]

/-! ## Elements of a page -/

/-- Whether an identifier is of the element of a component. -/
def isComponentDomId (id : String) : Bool := "comp-".toList.isPrefixOf id.toList

/-- The identifiers of the elements of components in the section of a page, in the order of the
document. -/
def Page.sectionComponents (page : Page) (addresses : List Address) : List String :=
  ((addresses.filter (·.head? = some ("section", "page-" ++ page.id))).filterMap Address.id?).filter
    isComponentDomId

theorem Component.isComponentDomId_domId (c : Component) : isComponentDomId c.domId = true := by
  rw [isComponentDomId, domId, String.toList_append, List.isPrefixOf_iff_prefix]
  exact List.prefix_append _ _

theorem isComponentDomId_page (id : String) : isComponentDomId ("page-" ++ id) = false := by
  rw [isComponentDomId, String.toList_append]
  rfl

namespace Page

/-- Every address of a page begins with its section. -/
theorem head?_of_mem_addresses {page : Page} {address : Address}
    (member : address ∈ page.addresses) : address.head? = some ("section", page.domId) := by
  rcases List.mem_cons.mp member with rfl | member
  · rfl
  · obtain ⟨group, _, inside⟩ := List.mem_flatMap.mp member
    rcases List.mem_cons.mp inside with rfl | inside
    · rfl
    · obtain ⟨entry, _, rfl⟩ := List.mem_map.mp inside
      rfl

/-- The identifiers at the addresses of a page are those that the page brings. -/
theorem ids_addresses (page : Page) : page.addresses.map Address.id? = page.domIds.map some := by
  simp [addresses, domIds, Address.id?, slotAddress, componentAddress, List.map_flatMap,
    Function.comp_def]

/-- Every component of a page has its address there. -/
theorem mem_addresses_component {page : Page} {c : Component} (member : c ∈ page.components) :
    page.componentAddress c ∈ page.addresses := by
  obtain ⟨group, inPage, entry, inGroup, rfl⟩ := exists_group member
  refine List.mem_cons_of_mem _ (List.mem_flatMap.mpr ⟨group, inPage, ?_⟩)
  exact List.mem_cons_of_mem _ (List.mem_map_of_mem inGroup)

/-- Of the identifiers of a page, those of components are left when the others are taken out. -/
theorem filter_domIds (page : Page) :
    page.domIds.filter isComponentDomId = page.componentDomIds := by
  have slot (slot : Slot) : isComponentDomId (page.slotDomId slot) = false := by
    rw [slotDomId_eq]
    exact isComponentDomId_page _
  have entries (group : Group) :
      (group.entries.map fun entry => entry.component.domId).filter isComponentDomId =
        group.entries.map fun entry => entry.component.domId := by
    simp [List.filter_eq_self, Component.isComponentDomId_domId]
  simp only [domIds, domId, List.filter_cons, isComponentDomId_page, List.filter_flatMap, slot,
    entries, Bool.false_eq_true, ↓reduceIte, componentDomIds, List.map_flatMap]

/-- The section of a page is told apart by the identifier of the page. -/
theorem filter_head?_addresses {pages : List Page} (unique : (pages.map Page.id).Nodup)
    {page : Page} (member : page ∈ pages) :
    (pages.flatMap addresses).filter (·.head? = some ("section", page.domId)) =
      page.addresses := by
  have heads : (pages.map fun page => some ("section", page.domId)).Nodup := by
    refine List.pairwise_map.mpr ((List.pairwise_map.mp unique).imp fun differ same => differ ?_)
    simpa [domId_inj] using same
  exact filter_flatMap_key (fun address : Address => address.head?)
    (fun _ _ _ inside => head?_of_mem_addresses inside) heads member

/-- The section of a page holds the elements of its components, slot by slot. -/
theorem sectionComponents_eq {pages : List Page} (unique : (pages.map Page.id).Nodup) {page : Page}
    (member : page ∈ pages) :
    page.sectionComponents (pages.flatMap addresses) = page.componentDomIds := by
  have ids : page.addresses.filterMap Address.id? = page.domIds := by
    have mapped := congrArg (List.filterMap fun id? => id?) page.ids_addresses
    simpa [List.filterMap_map, Function.comp_def] using mapped
  rw [← page.filter_domIds, ← ids, ← filter_head?_addresses unique member]
  rfl

/-- A section stands once in a document of pages with different identifiers. -/
theorem count_sectionAddress {pages : List Page} (unique : (pages.map Page.id).Nodup) {page : Page}
    (member : page ∈ pages) : (pages.flatMap addresses).count [("section", page.domId)] = 1 := by
  have deeper : [("section", page.domId)] ∉ page.addresses.tail := by
    intro inside
    obtain ⟨group, _, inside⟩ := List.mem_flatMap.mp inside
    rcases List.mem_cons.mp inside with same | inside
    · cases same
    · obtain ⟨entry, _, same⟩ := List.mem_map.mp inside
      cases same
  rw [← List.count_filter (p := fun address : Address =>
      address.head? = some ("section", page.domId)) (by simp),
    filter_head?_addresses unique member, addresses, List.count_cons_self]
  exact congrArg (· + 1) (List.count_eq_zero.mpr deeper)

end Page

/-- Every component of an article has one element: there is one address with its identifier. -/
theorem Article.filter_componentAddress {article : Article}
    (unique : (article.components.map Component.id).Nodup) {page : Page}
    (inside : page ∈ article.pages) {c : Component} (member : c ∈ page.components) :
    (article.pages.flatMap Page.addresses).filter (·.id? = some c.domId) =
      [page.componentAddress c] := by
  have address : page.componentAddress c ∈ article.pages.flatMap Page.addresses :=
    List.mem_flatMap.mpr ⟨page, inside, Page.mem_addresses_component member⟩
  refine filter_eq_singleton Address.id? address ?_
  have components : (article.components.map Component.domId).count c.domId = 1 := by
    refine List.count_eq_one_of_mem ?_ ?_
    · exact List.pairwise_map.mpr ((List.pairwise_map.mp unique).imp fun differ same =>
        differ (Component.domId_inj.mp same))
    · exact List.mem_map_of_mem (List.mem_flatMap.mpr ⟨page, inside, member⟩)
  have pages : c.domId ∉ article.pages.map Page.domId := by
    intro same
    obtain ⟨other, _, same⟩ := List.mem_map.mp same
    exact c.domId_ne other.id same.symm
  have slots : c.domId ∉ article.pages.flatMap Page.slotDomIds := by
    intro same
    obtain ⟨other, _, same⟩ := List.mem_flatMap.mp same
    obtain ⟨slot, _, same⟩ := Page.mem_slotDomIds.mp same
    rw [Page.slotDomId_eq] at same
    exact c.domId_ne _ same
  calc (article.pages.flatMap Page.addresses).countP (·.id? = some c.domId)
    _ = ((article.pages.flatMap Page.addresses).map Address.id?).countP (· = some c.domId) := by
        rw [List.countP_map]
        rfl
    _ = (article.pages.flatMap Page.domIds).count c.domId := by
        rw [List.map_flatMap]
        simp only [Page.ids_addresses]
        rw [← List.map_flatMap, List.countP_map, List.count_eq_countP]
        simp [Function.comp_def, BEq.beq]
    _ = 1 := by
        rw [article.perm_domIds.count_eq, List.count_append, List.count_append,
          List.count_eq_zero.mpr pages, List.count_eq_zero.mpr slots, components]

/-! ## Plans -/

namespace Page

variable {page : Page} {pageIndex : Nat} {settings : CompileSettings} {plan : PagePlan}

/-- The components of a page that is compiled are placed. -/
theorem placed_of_compile (compiled : page.compile pageIndex settings = .ok plan) :
    page.Placed := by
  obtain ⟨groups, grouped, _⟩ := of_bind_ok compiled
  exact (group_eq_ok_iff.mp grouped).1

/-- Every binding of a page is made for one of its components. -/
theorem exists_bind_of_compile (compiled : page.compile pageIndex settings = .ok plan)
    {binding : Binding} (member : binding ∈ plan.bindings) :
    ∃ entry ∈ page.entries, ∃ index length biggest,
      entry.bind page pageIndex settings index length biggest = .ok binding := by
  obtain ⟨groups, grouped, compiled⟩ := of_bind_ok compiled
  obtain ⟨blocks, bound, compiled⟩ := of_bind_ok compiled
  obtain ⟨_, rfl⟩ := group_eq_ok_iff.mp grouped
  cases compiled
  have listed : binding ∈ blocks.flatten := by
    dsimp only at member
    split at member
    · exact member
    · cases member
  obtain ⟨block, inside, listed⟩ := List.mem_flatten.mp listed
  obtain ⟨group, inPage, bound⟩ := exists_of_mem_mapM bound inside
  obtain ⟨item, inGroup, bound⟩ := exists_of_mem_mapM bound listed
  refine ⟨item.1, ?_, _, _, _, bound⟩
  have entry := List.fst_mem_of_mem_zipIdx inGroup
  rw [(of_mem_groups inPage).1] at entry
  exact List.mem_of_mem_filter entry

/-- Every binding of a page binds one of its components. -/
theorem exists_entry_of_compile (compiled : page.compile pageIndex settings = .ok plan)
    {binding : Binding} (member : binding ∈ plan.bindings) :
    ∃ entry ∈ page.entries, ∃ timing script,
      binding = ⟨entry.component.id, page.id, entry.frameId, timing, script⟩ := by
  obtain ⟨entry, inside, _, _, _, bound⟩ := exists_bind_of_compile compiled member
  obtain ⟨script, _, rfl⟩ := Entry.of_bind bound
  exact ⟨entry, inside, _, script, rfl⟩

/-- The bindings of a page name the page. -/
theorem pageId_of_compile (compiled : page.compile pageIndex settings = .ok plan)
    {binding : Binding} (member : binding ∈ plan.bindings) : binding.pageId = page.id := by
  obtain ⟨entry, _, timing, script, rfl⟩ := exists_entry_of_compile compiled member
  rfl

/-- The pin of a page names the page. -/
theorem pinId_of_compile (compiled : page.compile pageIndex settings = .ok plan) {pin : Pin}
    (pinned : plan.pin = some pin) : pin.pageId = page.id := by
  obtain ⟨_, _, rfl⟩ := of_compile compiled
  dsimp only at pinned
  split at pinned
  · cases pinned
    rfl
  · cases pinned

end Page

namespace Article

/-- A plan has as many pages as its article. -/
theorem length_of_compile {article : Article} {settings : CompileSettings} {plan : Plan}
    (compiled : article.compile settings = .ok plan) :
    plan.pages.length = article.pages.length := by
  obtain ⟨pages, each, compiled⟩ := of_bind_ok compiled
  cases compiled
  have lengths := (mapM_eq_ok_iff.mp each).length_eq
  rw [List.length_zipIdx] at lengths
  exact lengths.symm

/-- Every page of a plan is the plan of a page of the article. -/
theorem exists_page_of_compile {article : Article} {settings : CompileSettings} {plan : Plan}
    (compiled : article.compile settings = .ok plan) {pagePlan : PagePlan}
    (member : pagePlan ∈ plan.pages) :
    ∃ page ∈ article.pages, ∃ i, page.compile i settings = .ok pagePlan := by
  obtain ⟨pages, each, compiled⟩ := of_bind_ok compiled
  cases compiled
  obtain ⟨⟨page, i⟩, listed, made⟩ := exists_of_mem_mapM each member
  exact ⟨page, List.fst_mem_of_mem_zipIdx listed, i, made⟩

/-- The first page of `twoPages` held in place, and the second one not. -/
def halfPinned : Article :=
  { twoPages "a" "b" with
    pages := (twoPages "a" "b").pages.mapIdx fun i page => { page with pinnable := i = 0 } }

end Article

end ScrollStory
