import ScrollStory.Plan.Compile
import ScrollStory.Proofs.Html.Ids

/-!
# The error that compiling an article reports

Compiling an article fails just if a component stands in a slot that its template does not have, or
has a transition that is not known. The error comes from the first page with such a component, and
there a misplaced component comes before a transition, wherever the two stand on the page
(`ScrollStory.Article.compile_reports`). Components are looked at in the order of their frames for
the one and slot by slot for the other. In which order the pages are compiled makes no difference.
-/

namespace ScrollStory

/-! ## First items -/

section

variable {α β : Type} {p : α → Prop}

/-- An item of a list that has a property, with none before it that has the property too. -/
def First (p : α → Prop) (items : List α) (item : α) : Prop :=
  p item ∧ ∃ before after, items = before ++ item :: after ∧ ∀ other ∈ before, ¬p other

/-- Searching for a result finds that of the first item that has any. -/
theorem findSome?_eq_some_iff_first {f : α → Option β} (found : ∀ a, f a = none ↔ ¬p a)
    {items : List α} {b : β} :
    items.findSome? f = some b ↔ ∃ item, First p items item ∧ f item = some b := by
  rw [List.findSome?_eq_some_iff]
  constructor
  · rintro ⟨before, item, after, split, here, others⟩
    have holds : p item := by
      by_contra fails
      rw [(found item).mpr fails] at here
      cases here
    exact ⟨item, ⟨holds, before, after, split, fun other member => (found other).mp
      (others other member)⟩, here⟩
  · rintro ⟨item, ⟨_, before, after, split, others⟩, here⟩
    exact ⟨before, item, after, split, here, fun other member => (found other).mpr
      (others other member)⟩

theorem findSome?_flatMap {γ : Type} (f : β → Option γ) (lists : α → List β) (items : List α) :
    (items.flatMap lists).findSome? f = items.findSome? fun item => (lists item).findSome? f := by
  induction items with
  | nil => rfl
  | cons item items ih =>
      rw [List.flatMap_cons, List.findSome?_append, ih, List.findSome?_cons]
      cases (lists item).findSome? f <;> rfl

theorem findSome?_zipIdx (f : α → Option β) (items : List α) :
    (items.zipIdx.findSome? fun item => f item.1) = items.findSome? f := by
  conv => rhs; rw [← List.zipIdx_map_fst 0 items, List.findSome?_map]
  rfl

end

/-! ## Components -/

/-- A name is unknown if no behavior has it. -/
theorem Behavior.ofName?_eq_none_iff {name : String} :
    ofName? name = none ↔ name ∉ names := by
  unfold ofName? names
  rw [List.find?_eq_none]
  simp

namespace Component

/-- What is wrong with the transition of a component. -/
def transitionFault? (c : Component) : Option Error :=
  if c.animation.transition ∈ Behavior.names then none
  else some (.unknownTransition c.id c.animation.transition)

/-- Making a script fails with what is wrong with the component's transition. -/
theorem failure?_script (c : Component) (visible : Bool) (settings : CompileSettings) :
    failure? (c.script visible settings) = c.transitionFault? := by
  unfold script transitionFault?
  by_cases known : c.animation.transition ∈ Behavior.names
  · rw [if_pos known]
    cases resolved : Behavior.ofName? c.animation.transition with
    | none => exact absurd known (Behavior.ofName?_eq_none_iff.mp resolved)
    | some behavior => rfl
  · rw [if_neg known, Behavior.ofName?_eq_none_iff.mpr known]
    rfl

end Component

/-! ## Pages -/

namespace Page

/-- The components of a page slot by slot. -/
def bySlot (page : Page) : List Component :=
  Slot.all.flatMap fun slot => page.components.filter (·.slot = slot)

theorem mem_bySlot {page : Page} {c : Component} : c ∈ page.bySlot ↔ c ∈ page.components := by
  simp [bySlot, Slot.mem_all]

/-- The entries of a slot are for the components in it, in the order of the document. -/
theorem component_slotEntries (page : Page) (slot : Slot) :
    (page.slotEntries slot).map Entry.component = page.components.filter (·.slot = slot) := by
  rw [← component_entries, List.filter_map]
  rfl

/-- The groups of a page have its components slot by slot. -/
theorem component_groups (page : Page) :
    (page.groups.flatMap Group.entries).map Entry.component = page.bySlot := by
  rw [flatMap_groups, List.map_flatMap]
  simp only [component_slotEntries]
  rfl

/-- A page with a component that is misplaced or has a transition that is not known. -/
def Faulty (page : Page) : Prop :=
  ∃ c ∈ page.components,
    ¬page.layout.template.accepts c.slot ∨ c.animation.transition ∉ Behavior.names

/-- The error that a page reports. -/
inductive Reports (page : Page) : Error → Prop where
  | misplaced {c : Component}
      (first : First (fun c => ¬page.layout.template.accepts c.slot) page.components c) :
      Reports page (.invalidPosition c.id c.slot.name page.layout.template.name)
  | unknown {c : Component} (placed : page.Placed)
      (first : First (fun c => c.animation.transition ∉ Behavior.names) page.bySlot c) :
      Reports page (.unknownTransition c.id c.animation.transition)

/-- What is wrong with the place of a component. -/
def placeFault? (page : Page) (c : Component) : Option Error :=
  if page.layout.template.accepts c.slot then none
  else some (.invalidPosition c.id c.slot.name page.layout.template.name)

/-- What is wrong with a page. -/
def fault? (page : Page) : Option Error :=
  (page.components.findSome? page.placeFault?).or (page.bySlot.findSome? (·.transitionFault?))

/-- Grouping a page fails with the first component that is misplaced. -/
theorem failure?_group (page : Page) :
    failure? page.group = page.components.findSome? page.placeFault? := by
  have searched (components : List Component) :
      components.findSome? page.placeFault? =
        (components.find? fun c => !page.layout.template.accepts c.slot).map fun c =>
          .invalidPosition c.id c.slot.name page.layout.template.name := by
    induction components with
    | nil => rfl
    | cons c components ih =>
        rw [List.findSome?_cons, List.find?_cons, ih, placeFault?]
        cases page.layout.template.accepts c.slot <;> rfl
  rw [searched, group, firstMisplaced?]
  cases page.components.find? fun c => !page.layout.template.accepts c.slot <;> rfl

/-- Grouping fails for just those pages whose components are not all placed. -/
theorem placed_iff_failure? {page : Page} : page.Placed ↔ failure? page.group = none := by
  rw [failure?_eq_none]
  exact ⟨fun placed => ⟨_, group_of_placed placed⟩,
    fun ⟨_, grouped⟩ => (group_eq_ok_iff.mp grouped).1⟩

end Page

/-- Binding an entry fails with what is wrong with the transition of its component. -/
theorem Entry.failure?_bind (entry : Entry) (page : Page) (pageIndex : Nat)
    (settings : CompileSettings) (index length biggest : Nat) :
    failure? (entry.bind page pageIndex settings index length biggest) =
      entry.component.transitionFault? := by
  rw [bind, failure?_bind_ok, Component.failure?_script]

/-- Binding a group fails with the first transition that is not known. -/
theorem Group.failure?_bind (group : Group) (page : Page) (pageIndex : Nat)
    (settings : CompileSettings) (biggest : Nat) :
    failure? (group.bind page pageIndex settings biggest) =
      (group.entries.map Entry.component).findSome? (·.transitionFault?) := by
  rw [bind, failure?_mapM]
  simp only [Entry.failure?_bind]
  rw [List.findSome?_map]
  exact findSome?_zipIdx (fun entry => entry.component.transitionFault?) group.entries

namespace Page

variable {page : Page} {e : Error}

/-- Compiling a page fails with what is wrong with the page. -/
theorem failure?_compile (page : Page) (pageIndex : Nat) (settings : CompileSettings) :
    failure? (page.compile pageIndex settings) = page.fault? := by
  rw [compile, fault?, ← failure?_group, failure?_bind]
  cases grouped : page.group with
  | error fault => rfl
  | ok groups =>
      obtain ⟨-, rfl⟩ := group_eq_ok_iff.mp grouped
      have bound : failure? (page.groups.mapM fun group =>
          group.bind page pageIndex settings (Group.biggest page.groups)) =
              page.bySlot.findSome? (·.transitionFault?) := by
        rw [failure?_mapM, ← component_groups, List.map_flatMap, findSome?_flatMap]
        simp only [Group.failure?_bind]
      exact (failure?_bind_ok _ _).trans bound

/-- What is wrong with a page is what it reports. -/
theorem fault?_eq_some_iff : page.fault? = some e ↔ page.Reports e := by
  have misplaced : page.components.findSome? page.placeFault? = some e ↔
      ∃ c, First (fun c => ¬page.layout.template.accepts c.slot) page.components c ∧
        page.placeFault? c = some e :=
    findSome?_eq_some_iff_first fun c => by simp [placeFault?]
  have unknown : page.bySlot.findSome? (·.transitionFault?) = some e ↔
      ∃ c, First (fun c => c.animation.transition ∉ Behavior.names) page.bySlot c ∧
        c.transitionFault? = some e :=
    findSome?_eq_some_iff_first fun c => by simp [Component.transitionFault?]
  rw [fault?, Option.or_eq_some_iff, misplaced, unknown, ← failure?_group, ← placed_iff_failure?]
  constructor
  · rintro (⟨c, first, here⟩ | ⟨placed, c, first, here⟩)
    · rw [placeFault?, if_neg first.1] at here
      cases here
      exact .misplaced first
    · rw [Component.transitionFault?, if_neg first.1] at here
      cases here
      exact .unknown placed first
  · rintro (first | ⟨placed, first⟩)
    · exact .inl ⟨_, first, if_neg first.1⟩
    · exact .inr ⟨placed, _, first, if_neg first.1⟩

/-- Nothing is wrong with a page if it is not faulty. -/
theorem fault?_eq_none_iff : page.fault? = none ↔ ¬page.Faulty := by
  rw [fault?, Option.or_eq_none_iff, List.findSome?_eq_none_iff, List.findSome?_eq_none_iff]
  simp only [placeFault?, Component.transitionFault?, mem_bySlot, Faulty]
  grind

theorem isSome_fault?_iff : page.fault?.isSome ↔ page.Faulty := by
  rw [Option.isSome_iff_ne_none, ne_eq, fault?_eq_none_iff, not_not]

end Page

/-! ## Orders of work -/

/-- Results that are put at their places in any order. -/
theorem getElem?_foldl_set {β : Type} (value : Nat → β) (order : List Nat) (start : List β)
    (i : Nat) :
    (order.foldl (fun results index => results.set index (value index)) start)[i]? =
      if i ∈ order then start[i]?.map fun _ => value i else start[i]? := by
  induction order generalizing start with
  | nil => simp
  | cons index order ih =>
      rw [List.foldl_cons, ih, List.getElem?_set]
      grind

namespace Article

/-- The plan of an article whose pages are compiled in some order. What comes out of a page is put
at the place of the page, and the first error is looked for when all pages are done. -/
def compileInOrder (article : Article) (settings : CompileSettings) (order : List Nat) :
    Except Error Plan := do
  let results := order.foldl (fun results index =>
    results.set index (article.pages[index]?.map (·.compile index settings)))
    (List.replicate article.pages.length none)
  let pages ← (results.filterMap fun result => result).mapM fun result => result
  return ⟨article.id, settings.traceCallbacks, pages⟩

variable {article : Article} {settings : CompileSettings}

/-- In whatever order the pages are compiled, the article has the same plan or error. -/
theorem compileInOrder_eq {order : List Nat}
    (every : order.Perm (List.range article.pages.length)) :
    article.compileInOrder settings order = article.compile settings := by
  have results : order.foldl (fun results index =>
      results.set index (article.pages[index]?.map (·.compile index settings)))
      (List.replicate article.pages.length none) =
        article.pages.zipIdx.map fun item => some (item.1.compile item.2 settings) := by
    refine List.ext_getElem? fun i => ?_
    rw [getElem?_foldl_set (fun index => article.pages[index]?.map (·.compile index settings))]
    by_cases inside : i < article.pages.length
    · simp [every.mem_iff, inside]
    · simp [every.mem_iff, inside]
  have kept : (article.pages.zipIdx.map fun item => some (item.1.compile item.2 settings)).filterMap
      (fun result => result) =
        article.pages.zipIdx.map fun item => item.1.compile item.2 settings := by
    rw [List.filterMap_map]
    exact congrFun List.filterMap_eq_map _
  rw [compileInOrder, compile, results, kept, List.mapM_map]
  rfl

/-- Compiling an article fails with what is wrong with its first faulty page. -/
theorem failure?_compile (article : Article) (settings : CompileSettings) :
    failure? (article.compile settings) = article.pages.findSome? Page.fault? := by
  rw [compile, failure?_bind_ok, failure?_mapM]
  simp only [Page.failure?_compile]
  exact findSome?_zipIdx Page.fault? article.pages

/-- Compiling an article fails just if a page is faulty, with the error that the first such page
reports. Neither leave to compile pages side by side nor the order of work changes the result. -/
theorem compile_reports (article : Article) (settings : CompileSettings) :
    ((∃ e, article.compile settings = .error e) ↔ ∃ page ∈ article.pages, page.Faulty) ∧
    (∀ e, article.compile settings = .error e ↔
      ∃ page, First Page.Faulty article.pages page ∧ page.Reports e) ∧
    (∀ parallel, article.compile { settings with parallel := parallel } =
      article.compile settings) ∧
    (∀ order : List Nat, order.Perm (List.range article.pages.length) →
      article.compileInOrder settings order = article.compile settings) := by
  refine ⟨?_, fun e => ?_, fun _ => rfl, fun _ => compileInOrder_eq⟩
  · simp only [← failure?_eq_some, failure?_compile]
    rw [← Option.isSome_iff_exists, List.findSome?_isSome_iff]
    simp only [Page.isSome_fault?_iff]
  · rw [← failure?_eq_some, failure?_compile,
      findSome?_eq_some_iff_first fun page => Page.fault?_eq_none_iff]
    simp only [Page.fault?_eq_some_iff]

end Article

end ScrollStory
