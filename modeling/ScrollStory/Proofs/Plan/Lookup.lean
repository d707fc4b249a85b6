import Mathlib.Data.List.Flatten
import ScrollStory.Proofs.Plan.Elements
import ScrollStory.Proofs.Plan.Partition

/-!
# What a plan binds and what is found in it

The plan of a page that is held in place has one binding for every component, with the name of the
frame that contains it and the behavior that it asks for. The identifiers of the components of an
accepted article are unique, so that a search by identifier finds the binding of that component and
no other one (`ScrollStory.Article.lookups_exact`).
-/

namespace ScrollStory

/-! ## Searching by a key -/

section

variable {α κ : Type} [DecidableEq κ] {key : α → κ} {as : List α}

/-- If no key occurs twice, an item is all that is found by its key. -/
theorem filter_eq_singleton_of_nodup (unique : (as.map key).Nodup) {a : α} (member : a ∈ as) :
    as.filter (key · = key a) = [a] := by
  refine filter_eq_singleton key member ?_
  rw [← List.count_eq_one_of_mem unique (List.mem_map_of_mem member), List.count_eq_countP,
    List.countP_map]
  rfl

/-- What is found by a unique key is the item that has it. -/
theorem find?_eq_some_iff_of_nodup (unique : (as.map key).Nodup) {k : κ} {a : α} :
    as.find? (key · = k) = some a ↔ a ∈ as ∧ key a = k := by
  constructor
  · intro found
    exact ⟨List.mem_of_find?_eq_some found, by simpa using List.find?_some found⟩
  · rintro ⟨member, rfl⟩
    rw [← List.head?_filter, filter_eq_singleton_of_nodup unique member]
    rfl

end

/-! ## Bindings of components -/

theorem Behavior.name_of_ofName? {name : String} {behavior : Behavior}
    (found : ofName? name = some behavior) : behavior.name = name := by
  simpa using List.find?_some found

/-- The script of a component has the behavior that it asks for and the visibility that it is made
with. -/
theorem Component.of_script {c : Component} {visible : Bool} {settings : CompileSettings}
    {script : AnimationScript} (resolved : c.script visible settings = .ok script) :
    script.behavior.name = c.animation.transition ∧ script.initiallyVisible = visible := by
  unfold Component.script at resolved
  split at resolved
  · cases resolved
  · rename_i behavior found
    cases resolved
    exact ⟨Behavior.name_of_ofName? found, rfl⟩

/-- A binding is that of a component on the page with a given index: it names the component, its
page and its frame, has the behavior that the component asks for, and is shown at first just in the
first frame of the first page. -/
structure Binding.IsFor (binding : Binding) (page : Page) (i : Nat) (entry : Entry) : Prop where
  component : binding.componentId = entry.component.id
  page : binding.pageId = page.id
  frame : binding.frameId = entry.frameId
  behavior : binding.script.behavior.name = entry.component.animation.transition
  visible : binding.script.initiallyVisible = true ↔ i = 0 ∧ entry.frameIndex = 0

/-- The binding of an entry is for its component. -/
theorem Entry.isFor_of_bind {entry : Entry} {page : Page} {i index length biggest : Nat}
    {settings : CompileSettings} {binding : Binding}
    (bound : entry.bind page i settings index length biggest = .ok binding) :
    binding.IsFor page i entry := by
  obtain ⟨script, resolved, rfl⟩ := of_bind bound
  obtain ⟨behavior, visible⟩ := Component.of_script resolved
  exact ⟨rfl, rfl, rfl, behavior, by rw [visible, decide_eq_true_eq]⟩

/-- The bindings of a group are for its entries in order. -/
theorem Group.isFor_of_bind {group : Group} {page : Page} {i biggest : Nat}
    {settings : CompileSettings} {block : List Binding}
    (bound : group.bind page i settings biggest = .ok block) :
    List.Forall₂ (fun entry binding => binding.IsFor page i entry) group.entries block := by
  rw [← List.zipIdx_map_fst 0 group.entries, List.forall₂_map_left_iff]
  exact (mapM_eq_ok_iff.mp bound).imp fun _ _ made => Entry.isFor_of_bind made

/-- The plan of a page binds what is at every spot of the page once, slot by slot. -/
structure PagePlan.Binds (plan : PagePlan) (page : Page) (i : Nat) : Prop where
  slots : plan.bindings.map Binding.componentId = plan.slots.flatMap SlotSummary.componentIds
  each : ∃ spots : List Spot, spots.Nodup ∧ (∀ spot, spot ∈ spots ↔ spot.OnPage page) ∧
    List.Forall₂ (fun spot binding => binding.IsFor page i spot.entry) spots plan.bindings

namespace Page

variable {page : Page} {i : Nat} {settings : CompileSettings} {plan : PagePlan}

/-- The bindings of a page that is held in place are for the entries of its groups. -/
theorem isFor_of_compile (compiled : page.compile i settings = .ok plan)
    (pinnable : page.pinnable = true) :
    List.Forall₂ (fun entry binding => binding.IsFor page i entry)
      (page.groups.flatMap Group.entries) plan.bindings := by
  obtain ⟨groups, grouped, compiled⟩ := of_bind_ok compiled
  obtain ⟨blocks, bound, compiled⟩ := of_bind_ok compiled
  obtain ⟨-, rfl⟩ := group_eq_ok_iff.mp grouped
  cases compiled
  rw [if_pos pinnable, List.flatMap_def]
  refine List.rel_flatten (List.forall₂_map_left_iff.mpr ?_)
  exact (mapM_eq_ok_iff.mp bound).imp fun _ _ made => Group.isFor_of_bind made

/-- The plan of a page that is held in place binds the page. -/
theorem binds_of_compile (compiled : page.compile i settings = .ok plan)
    (pinnable : page.pinnable = true) : plan.Binds page i := by
  have each := isFor_of_compile compiled pinnable
  constructor
  · have slots : plan.slots = page.groups.map Group.summary := by
      obtain ⟨_, _, rfl⟩ := of_compile compiled
      rfl
    rw [map_eq_of_forall₂ (fun entry binding isFor => isFor.component.symm) each, slots,
      List.flatMap_map, List.map_flatMap]
    rfl
  · obtain ⟨spots, unique, every, listed⟩ := page.exists_spots_groups
    rw [listed, List.forall₂_map_left_iff] at each
    exact ⟨spots, unique, every, each⟩

/-- The plan of a page that is not held in place has no bindings. -/
theorem bindings_of_compile (compiled : page.compile i settings = .ok plan)
    (still : page.pinnable = false) : plan.bindings = [] := by
  obtain ⟨blocks, _, rfl⟩ := of_compile compiled
  exact if_neg (by rw [still]; exact Bool.false_ne_true)

/-- The identifiers of the components that the plan of a page binds. -/
def boundIds (page : Page) : List String :=
  if page.pinnable then componentIds page.components else []

/-- A plan binds the components that its page has to be bound, in another order. -/
theorem perm_boundIds (compiled : page.compile i settings = .ok plan) :
    (plan.bindings.map Binding.componentId).Perm page.boundIds := by
  unfold boundIds
  cases pinnable : page.pinnable with
  | true =>
      rw [map_eq_of_forall₂ (fun entry binding isFor => isFor.component.symm)
        (isFor_of_compile compiled pinnable), if_pos rfl, ← component_entries, componentIds,
        List.map_map]
      exact page.perm_groups.map _
  | false =>
      rw [bindings_of_compile compiled pinnable]
      exact .refl _

/-- The components to be bound are those of a page that is held in place. -/
theorem mem_boundIds {id : String} :
    id ∈ page.boundIds ↔ page.pinnable = true ∧ ∃ c ∈ page.components, c.id = id := by
  unfold boundIds componentIds
  split <;> simp_all

end Page

/-! ## Plans of articles -/

theorem perm_flatMap_of_forall₂ {α β γ : Type} {relation : α → β → Prop} {f : α → List γ}
    {g : β → List γ} (agree : ∀ a b, relation a b → (g b).Perm (f a)) {as : List α} {bs : List β}
    (related : List.Forall₂ relation as bs) : (bs.flatMap g).Perm (as.flatMap f) := by
  induction related with
  | nil => exact .refl _
  | cons first _ ih =>
      rw [List.flatMap_cons, List.flatMap_cons]
      exact (agree _ _ first).append ih

namespace Plan

/-- All bindings of a plan. -/
def bindings (plan : Plan) : List Binding := plan.pages.flatMap PagePlan.bindings

theorem binding?_eq (plan : Plan) (id : String) :
    plan.binding? id = plan.bindings.find? (·.componentId = id) :=
  List.find?_flatMap.symm

end Plan

namespace Article

variable {article : Article} {settings : CompileSettings} {plan : Plan}

/-- The plans of the pages are those of the article's pages, each compiled with its index. -/
theorem forall₂_of_compile (compiled : article.compile settings = .ok plan) :
    List.Forall₂ (fun (item : Page × Nat) pagePlan => item.1.compile item.2 settings = .ok pagePlan)
      article.pages.zipIdx plan.pages := by
  obtain ⟨pages, each, compiled⟩ := of_bind_ok compiled
  cases compiled
  exact mapM_eq_ok_iff.mp each

/-- A plan has its pages in the order of the article. -/
theorem pageIds_of_compile (compiled : article.compile settings = .ok plan) :
    plan.pages.map PagePlan.pageId = article.pages.map Page.id := by
  rw [map_eq_of_forall₂ (f := fun item : Page × Nat => item.1.id) (fun item pagePlan made => ?_)
    (forall₂_of_compile compiled)]
  · conv => rhs; rw [← List.zipIdx_map_fst 0 article.pages, List.map_map]
    rfl
  · obtain ⟨_, _, rfl⟩ := Page.of_compile made
    rfl

/-- The bindings of a plan are for the components that the pages of its article have to be bound. -/
theorem perm_boundIds (compiled : article.compile settings = .ok plan) :
    (plan.bindings.map Binding.componentId).Perm (article.pages.flatMap Page.boundIds) := by
  have bound := perm_flatMap_of_forall₂ (f := fun item : Page × Nat => item.1.boundIds)
    (g := fun pagePlan => pagePlan.bindings.map Binding.componentId)
    (fun _ _ made => Page.perm_boundIds made) (forall₂_of_compile compiled)
  have pages : article.pages.zipIdx.flatMap (fun item => item.1.boundIds) =
      article.pages.flatMap Page.boundIds := by
    conv => rhs; rw [← List.zipIdx_map_fst 0 article.pages, List.flatMap_map]
  rw [Plan.bindings, List.map_flatMap, ← pages]
  exact bound

/-- No two bindings of a plan are for the same identifier if no two components have the same. -/
theorem nodup_bindings (compiled : article.compile settings = .ok plan)
    (unique : (componentIds article.components).Nodup) :
    (plan.bindings.map Binding.componentId).Nodup := by
  refine (perm_boundIds compiled).nodup_iff.mpr (List.Nodup.sublist ?_ unique)
  rw [components, componentIds_flatMap]
  refine List.Sublist.flatMap_right _ fun page _ => ?_
  unfold Page.boundIds
  split
  · exact List.Sublist.refl _
  · exact List.nil_sublist _

/-- What has a binding are the components on pages that are held in place. -/
theorem isSome_binding?_iff (compiled : article.compile settings = .ok plan) {id : String} :
    (plan.binding? id).isSome = true ↔
      ∃ page ∈ article.pages, page.pinnable = true ∧ ∃ c ∈ page.components, c.id = id := by
  have bound : id ∈ plan.bindings.map Binding.componentId ↔
      ∃ page ∈ article.pages, page.pinnable = true ∧ ∃ c ∈ page.components, c.id = id := by
    simp only [(perm_boundIds compiled).mem_iff, List.mem_flatMap, Page.mem_boundIds]
  rw [← bound, Plan.binding?_eq, List.find?_isSome]
  simp

/-- If no two pages have the same identifier, what is found is the plan in the place of the page. -/
theorem page?_eq_some_iff (compiled : article.compile settings = .ok plan)
    (unique : (article.pages.map Page.id).Nodup) {id : String} {pagePlan : PagePlan} :
    plan.page? id = some pagePlan ↔
      ∃ (i : Nat) (page : Page), article.pages[i]? = some page ∧ page.id = id ∧
        plan.pages[i]? = some pagePlan := by
  have ids := pageIds_of_compile compiled
  rw [Plan.page?, find?_eq_some_iff_of_nodup (ids ▸ unique), List.mem_iff_getElem?]
  constructor
  · rintro ⟨⟨i, planned⟩, rfl⟩
    have page := congrArg (·[i]?) ids
    simp only [List.getElem?_map, planned, Option.map_some] at page
    obtain ⟨page, at_i, named⟩ := Option.map_eq_some_iff.mp page.symm
    exact ⟨i, page, at_i, named, planned⟩
  · rintro ⟨i, page, at_i, rfl, planned⟩
    have page := congrArg (·[i]?) ids
    simp only [List.getElem?_map, planned, at_i, Option.map_some, Option.some.injEq] at page
    exact ⟨⟨i, planned⟩, page⟩

/-- **Bindings and searches are exact.** The plan of an accepted article has the plans of its pages
in order. On a page that is held in place every component has one binding, which is found by the
identifier of the component, and other identifiers find nothing; on other pages there are no
bindings. The plan of a page is found by the identifier of the page. -/
theorem lookups_exact {parse : ParseSettings} {read : Except Json.Fault Article}
    (accepted : parse.accept read = .ok article)
    (compiled : article.compile settings = .ok plan) :
    plan.pages.map PagePlan.pageId = article.pages.map Page.id ∧
    (∀ (i : Nat) (page : Page), article.pages[i]? = some page →
      ∃ pagePlan, plan.pages[i]? = some pagePlan ∧
        (page.pinnable = true → pagePlan.Binds page i ∧
          ∀ spot : Spot, spot.OnPage page → ∃ binding ∈ pagePlan.bindings,
            binding.IsFor page i spot.entry ∧
            plan.binding? spot.component.id = some binding ∧
            (plan.pages.flatMap PagePlan.bindings).filter
              (·.componentId = spot.component.id) = [binding]) ∧
        (page.pinnable = false → pagePlan.bindings = [])) ∧
    (∀ id, (plan.binding? id).isSome = true ↔
      ∃ page ∈ article.pages, page.pinnable = true ∧ ∃ c ∈ page.components, c.id = id) ∧
    (∀ id pagePlan, plan.page? id = some pagePlan ↔
      ∃ (i : Nat) (page : Page), article.pages[i]? = some page ∧ page.id = id ∧
        plan.pages[i]? = some pagePlan) := by
  have unique := nodup_bindings compiled (nodup_componentIds_of_accept accepted)
  refine ⟨pageIds_of_compile compiled, fun i page at_i => ?_, fun id => isSome_binding?_iff compiled,
    fun id pagePlan => page?_eq_some_iff compiled (nodup_pageIds_of_accept accepted)⟩
  obtain ⟨pagePlan, planned, made⟩ := of_compile compiled at_i
  refine ⟨pagePlan, planned, fun pinnable => ?_, Page.bindings_of_compile made⟩
  have binds := Page.binds_of_compile made pinnable
  refine ⟨binds, fun spot onPage => ?_⟩
  obtain ⟨spots, _, every, each⟩ := binds.each
  obtain ⟨binding, listed, isFor⟩ :=
    exists_zip_of_forall₂ (fun spot => spot) each ((every spot).mpr onPage)
  have inPage := (List.of_mem_zip listed).2
  have member : binding ∈ plan.bindings :=
    List.mem_flatMap.mpr ⟨pagePlan, List.mem_of_getElem? planned, inPage⟩
  have named : spot.component.id = binding.componentId := isFor.component.symm
  refine ⟨binding, inPage, isFor, ?_, ?_⟩
  · rw [Plan.binding?_eq, find?_eq_some_iff_of_nodup unique]
    exact ⟨member, isFor.component⟩
  · rw [named]
    exact filter_eq_singleton_of_nodup unique member

/-- The text of the page that is held in place is bound, and that of the other page is not. -/
theorem lookups_exact_halfPinned :
    ∃ plan, ParseSettings.accept {} (.ok halfPinned) = .ok halfPinned.stamp ∧
      halfPinned.stamp.compile {} = .ok plan ∧
      (∃ page binding, halfPinned.stamp.pages[0]? = some page ∧ page.pinnable = true ∧
        ∃ spot : Spot, spot.OnPage page ∧ spot.component.id = "one" ∧
          plan.binding? "one" = some binding ∧ binding.IsFor page 0 spot.entry) ∧
      (plan.binding? "two").isSome = false ∧
      ∃ pagePlan, plan.page? "b" = some pagePlan ∧ pagePlan.bindings = [] := by
  have accepted : ParseSettings.accept {} (.ok halfPinned) = .ok halfPinned.stamp := rfl
  have compiled : halfPinned.stamp.compile {} = .ok _ := rfl
  obtain ⟨-, pages, bound, found⟩ := lookups_exact accepted compiled
  obtain ⟨first, _, pinned, -⟩ := pages 0 _ rfl
  obtain ⟨second, planned, -, still⟩ := pages 1 _ rfl
  obtain ⟨-, each⟩ := pinned rfl
  obtain ⟨binding, _, isFor, here, _⟩ := each ⟨0, 0, _, _⟩ ⟨rfl, rfl⟩
  refine ⟨_, accepted, compiled, ⟨_, binding, rfl, rfl, _, ⟨rfl, rfl⟩, rfl, here, isFor⟩, ?_,
    second, (found "b" second).mpr ⟨1, _, rfl, rfl, planned⟩, still rfl⟩
  rw [Bool.eq_false_iff, ne_eq, bound]
  decide

end Article

end ScrollStory
