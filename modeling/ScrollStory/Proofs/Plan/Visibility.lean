import ScrollStory.Proofs.Plan.Faults
import ScrollStory.Proofs.Plan.Lookup

/-!
# What the place of a page decides

Where a page stands in its article decides for its plan which components are shown at first, and
nothing else: without that, every page is compiled as one that is not the first
(`ScrollStory.Page.compile_withoutVisibility`). So the plans of one page at two places differ at
most in the components of its first frame, and only if one of the places is the first
(`ScrollStory.Page.moved_of_compile`).
-/

namespace ScrollStory

/-! ## Plans without what is shown at first -/

/-- The animation of a component that is not shown at first. -/
def AnimationScript.withoutVisibility (script : AnimationScript) : AnimationScript :=
  { script with initiallyVisible := false }

/-- A binding whose component is not shown at first. -/
def Binding.withoutVisibility (binding : Binding) : Binding :=
  { binding with script := binding.script.withoutVisibility }

/-- The plan of a page with nothing shown at first. -/
def PagePlan.withoutVisibility (plan : PagePlan) : PagePlan :=
  { plan with bindings := plan.bindings.map Binding.withoutVisibility }

theorem Entry.bind_withoutVisibility (entry : Entry) (page : Page) (i : Nat)
    (settings : CompileSettings) (index length biggest : Nat) :
    (entry.bind page i settings index length biggest).map Binding.withoutVisibility =
      entry.bind page 1 settings index length biggest := by
  unfold bind Component.script
  cases Behavior.ofName? entry.component.animation.transition <;> rfl

theorem Group.bind_withoutVisibility (group : Group) (page : Page) (i : Nat)
    (settings : CompileSettings) (biggest : Nat) :
    (group.bind page i settings biggest).map (List.map Binding.withoutVisibility) =
      group.bind page 1 settings biggest := by
  rw [bind, map_mapM, bind]
  simp only [Entry.bind_withoutVisibility]

namespace Page

/-- Without what is shown at first, a page is compiled as one that is not the first. -/
theorem compile_withoutVisibility (page : Page) (i : Nat) (settings : CompileSettings) :
    (page.compile i settings).map PagePlan.withoutVisibility = page.compile 1 settings := by
  rw [compile, compile]
  cases page.group with
  | error e => rfl
  | ok groups =>
      have bound := map_mapM
        (fun group : Group => group.bind page i settings (Group.biggest groups))
        (List.map Binding.withoutVisibility) groups
      simp only [Group.bind_withoutVisibility] at bound
      simp only [bind, Except.bind]
      rw [← bound]
      cases groups.mapM fun group => group.bind page i settings (Group.biggest groups) with
      | error e => rfl
      | ok blocks =>
          have bindings : (if page.pinnable then blocks.flatten else []).map
              Binding.withoutVisibility =
                if page.pinnable then (blocks.map (List.map Binding.withoutVisibility)).flatten
                else [] := by
            rw [apply_ite (List.map Binding.withoutVisibility), List.map_flatten, List.map_nil]
          simp only [Except.map, pure, Except.pure, PagePlan.withoutVisibility, bindings]

/-! ## One page at two places -/

variable {page : Page} {i t : Nat} {settings : CompileSettings} {old new : PagePlan}

/-- Two plans of a page, compiled as page `i` and as page `t`. They agree but for what is shown at
first. That may be different for a component of the first frame if one of the places is the first,
and for no other one. -/
structure Moved (page : Page) (i t : Nat) (old new : PagePlan) : Prop where
  same : new.withoutVisibility = old.withoutVisibility
  visible : ∀ (b : Nat) (binding other : Binding),
    old.bindings[b]? = some binding → new.bindings[b]? = some other →
      binding.script.initiallyVisible ≠ other.script.initiallyVisible →
        (i = 0 ∨ t = 0) ∧ ∃ entry, (page.groups.flatMap Group.entries)[b]? = some entry ∧
          entry.frameIndex = 0 ∧ binding.IsFor page i entry ∧ other.IsFor page t entry

/-- The binding in a place is for the component in this place of the groups. -/
theorem exists_entry_of_binding (compiled : page.compile i settings = .ok old) {b : Nat}
    {binding : Binding} (bound : old.bindings[b]? = some binding) :
    ∃ entry, (page.groups.flatMap Group.entries)[b]? = some entry ∧ binding.IsFor page i entry := by
  have pinnable : page.pinnable = true := by
    by_contra still
    rw [bindings_of_compile compiled (Bool.eq_false_iff.mpr still)] at bound
    cases bound
  obtain ⟨lengths, each⟩ := List.forall₂_iff_get.mp (isFor_of_compile compiled pinnable)
  obtain ⟨within, rfl⟩ := List.getElem?_eq_some_iff.mp bound
  exact ⟨_, List.getElem?_eq_getElem (lengths ▸ within), each b _ within⟩

/-- The plans of a page that is compiled at two places agree but for what is shown at first. -/
theorem moved_of_compile (compiled : page.compile i settings = .ok old)
    (compiled' : page.compile t settings = .ok new) : page.Moved i t old new := by
  constructor
  · have plans := (page.compile_withoutVisibility t settings).trans
      (page.compile_withoutVisibility i settings).symm
    rw [compiled, compiled'] at plans
    exact Except.ok.inj plans
  · intro b binding other bound bound' differ
    obtain ⟨entry, at_b, isFor⟩ := exists_entry_of_binding compiled bound
    obtain ⟨entry', at_b', isFor'⟩ := exists_entry_of_binding compiled' bound'
    obtain rfl := Option.some.inj (at_b.symm.trans at_b')
    refine ⟨?_, entry, at_b, ?_, isFor, isFor'⟩ <;> by_contra never <;>
      refine differ (Bool.eq_iff_iff.mpr ?_) <;> rw [isFor.visible, isFor'.visible]
    · rw [not_or] at never
      exact iff_of_false (fun shown => never.1 shown.1) fun shown => never.2 shown.1
    · exact iff_of_false (fun shown => never shown.2) fun shown => never shown.2

end Page

end ScrollStory
