import Mathlib.Data.List.Nodup
import ScrollStory.Article.Parse
import ScrollStory.Proofs.Article.Membership

/-!
# Valid articles

What follows for an article from being accepted. There is no error among its findings, so every rule
is kept at every part of it; in particular no two of its pages and no two of its components share an
identifier. Stamping changes no identifier.
-/

namespace ScrollStory

/-! ## Rules that are kept -/

namespace Finding

/-- There is no error among some findings. -/
def Clean (convention : Convention) (findings : List Finding) : Prop :=
  ∀ finding ∈ findings, finding.isError convention = false

variable {convention : Convention} {findings others : List Finding}

theorem clean_append :
    Clean convention (findings ++ others) ↔ Clean convention findings ∧ Clean convention others :=
  List.forall_mem_append

/-- A rule whose break is an error is kept if there is no error. -/
theorem kept_of_clean {kept : Bool} {place : Place} {problem : Problem}
    (error : isError convention ⟨place, problem⟩ = true)
    (clean : Clean convention (ensure kept place problem)) : kept = true := by
  cases kept with
  | true => rfl
  | false =>
      have harmless := clean ⟨place, problem⟩ (List.mem_singleton_self _)
      rw [error] at harmless
      cases harmless

/-- If findings that are collected item by item are free of errors, so are those of every item. -/
theorem clean_mapIdx {α : Type} {part : Nat → α → List Finding} {as : List α}
    (clean : Clean convention (as.mapIdx part).flatten) {i : Nat} {a : α}
    (member : as[i]? = some a) : Clean convention (part i a) := by
  intro finding inside
  apply clean
  refine List.mem_flatten.mpr ⟨part i a, ?_, inside⟩
  apply List.mem_of_getElem? (i := i)
  rw [List.getElem?_mapIdx, member]
  rfl

end Finding

open Finding (Clean)

/-! ## Unique identifiers -/

/-- Parts that each keep what is gathered without duplicates do so as a whole. -/
theorem nodup_append_flatMap {α β : Type} {view : β → List α} {parts : List β} {seen : List α}
    (start : seen.Nodup)
    (step : ∀ i part, parts[i]? = some part → (seen ++ (parts.take i).flatMap view).Nodup →
      (seen ++ (parts.take i).flatMap view ++ view part).Nodup) :
    (seen ++ parts.flatMap view).Nodup := by
  induction parts generalizing seen with
  | nil => simpa using start
  | cons part parts ih =>
      have first := step 0 part rfl (by simpa using start)
      rw [List.take_zero, List.flatMap_nil, List.append_nil] at first
      have others := ih first fun i later member fresh => by
        have next := step (i + 1) later member
        simp only [List.take_succ_cons, List.flatMap_cons, ← List.append_assoc] at next
        exact next fresh
      rwa [List.append_assoc] at others

/-- An identifier that has not been seen can be added to those that have been, with none twice. -/
theorem nodup_append_singleton {α : Type} [BEq α] [LawfulBEq α] {seen : List α} {a : α}
    (start : seen.Nodup) (fresh : (!seen.contains a) = true) : (seen ++ [a]).Nodup := by
  have new : a ∉ seen := by simpa using fresh
  exact List.nodup_append_comm.mpr (List.nodup_cons.mpr ⟨new, start⟩)

variable {convention : Convention}

/-- The identifiers of some components. -/
def componentIds (components : List Component) : List String := components.map Component.id

theorem componentIds_append (components others : List Component) :
    componentIds (components ++ others) = componentIds components ++ componentIds others :=
  List.map_append

theorem componentIds_flatMap {α : Type} (components : α → List Component) (parts : List α) :
    componentIds (parts.flatMap components) =
      parts.flatMap fun part => componentIds (components part) :=
  List.map_flatMap

/-- A frame without errors repeats no identifier, of its own components or of earlier ones. -/
theorem Page.nodup_frame {page : Page} {earlier : List Component} {i j : Nat} {frame : Frame}
    (clean : Clean convention (page.frameFindings earlier i j frame))
    (start : (componentIds earlier).Nodup) :
    (componentIds earlier ++ componentIds frame.components).Nodup := by
  have components := (Finding.clean_append.mp clean).2
  rw [componentIds, componentIds, List.map_eq_flatMap (l := frame.components)]
  refine nodup_append_flatMap start fun k c member fresh => ?_
  have own := (Finding.clean_append.mp (Finding.clean_mapIdx components member)).1
  have unique := Finding.kept_of_clean rfl (Finding.clean_append.mp own).2
  rw [← List.map_eq_flatMap, ← List.map_append] at fresh ⊢
  exact nodup_append_singleton fresh unique

/-- A page without errors repeats no identifier, of its own components or of those on earlier pages.
-/
theorem Page.nodup_components {page : Page} {earlier : List Page} {i : Nat}
    (clean : Clean convention (page.findings earlier i))
    (start : (componentIds (earlier.flatMap components)).Nodup) :
    (componentIds (earlier.flatMap components) ++ componentIds page.components).Nodup := by
  have frames := (Finding.clean_append.mp clean).2
  rw [components, componentIds_flatMap Frame.components page.frames]
  refine nodup_append_flatMap start fun j frame member fresh => ?_
  rw [← componentIds_flatMap, ← componentIds_append] at fresh ⊢
  exact nodup_frame (Finding.clean_mapIdx frames member) fresh

namespace Article

variable {settings : ParseSettings} {article : Article}

/-- Without a first error there is none at all. -/
theorem clean_of_firstError? (valid : article.firstError? settings = none) :
    Clean settings.convention (article.findings settings.requirePages) := by
  intro finding member
  exact Bool.eq_false_iff.mpr (List.find?_eq_none.mp valid finding member)

/-- No two components of a valid article share an identifier. -/
theorem nodup_componentIds (valid : article.firstError? settings = none) :
    (componentIds article.components).Nodup := by
  have pages := (Finding.clean_append.mp (clean_of_firstError? valid)).2
  rw [components, componentIds_flatMap, ← List.nil_append (List.flatMap _ _)]
  refine nodup_append_flatMap List.nodup_nil fun i page member fresh => ?_
  rw [List.nil_append, ← componentIds_flatMap] at fresh ⊢
  exact Page.nodup_components (Finding.clean_mapIdx pages member) fresh

/-- No two pages of a valid article share an identifier. -/
theorem nodup_pageIds (valid : article.firstError? settings = none) :
    (article.pages.map Page.id).Nodup := by
  have pages := (Finding.clean_append.mp (clean_of_firstError? valid)).2
  rw [List.map_eq_flatMap, ← List.nil_append (List.flatMap _ _)]
  refine nodup_append_flatMap List.nodup_nil fun i page member fresh => ?_
  have own := (Finding.clean_append.mp (Finding.clean_mapIdx pages member)).1
  have unique := Finding.kept_of_clean rfl (Finding.clean_append.mp own).2
  rw [List.nil_append, ← List.map_eq_flatMap] at fresh ⊢
  exact nodup_append_singleton fresh unique

/-! ## Accepted articles -/

/-- An accepted article is a valid one that is stamped. -/
theorem of_accept {read : Except Json.Fault Article} {accepted : Article}
    (done : settings.accept read = .ok accepted) :
    ∃ article : Article,
      read = .ok article ∧ article.firstError? settings = none ∧ accepted = article.stamp := by
  cases read with
  | error fault => cases done
  | ok article =>
      change article.validate settings = .ok accepted at done
      unfold validate at done
      split at done
      · cases done
      · rename_i valid
        cases done
        exact ⟨article, rfl, valid, rfl⟩

/-- An article without an error is accepted as its stamp. -/
theorem accept_of_valid (valid : article.firstError? settings = none) :
    settings.accept (.ok article) = .ok article.stamp := by
  rw [ParseSettings.accept, validate, valid]

/-- Stamping keeps the identifiers of pages. -/
theorem pageIds_stamp (article : Article) :
    article.stamp.pages.map Page.id = article.pages.map Page.id := by
  apply map_mapIdx_of_unseen
  intro i page
  rfl

/-- Stamping keeps the identifiers of components. -/
theorem componentIds_stamp (article : Article) :
    componentIds article.stamp.components = componentIds article.components := by
  have frames (pageId : String) (i j : Nat) (frame : Frame) :
      componentIds (frame.components.map fun c =>
        { c with membership := ⟨pageId, i, frame.id, j⟩ }) = componentIds frame.components := by
    rw [componentIds, List.map_map]
    rfl
  have pages (i : Nat) (page : Page) :
      componentIds (Page.components { page with
        frames := page.frames.mapIdx fun j frame =>
          { frame with components := frame.components.map fun c =>
            { c with membership := ⟨page.id, i, frame.id, j⟩ } } }) =
        componentIds page.components := by
    rw [Page.components, Page.components, componentIds_flatMap, componentIds_flatMap,
      List.flatMap_def, List.flatMap_def]
    exact congrArg List.flatten (map_mapIdx_of_unseen (frames page.id i) page.frames)
  rw [components, components, componentIds_flatMap, componentIds_flatMap, List.flatMap_def,
    List.flatMap_def]
  exact congrArg List.flatten (map_mapIdx_of_unseen pages article.pages)

/-- No two pages of an accepted article have one identifier. -/
theorem nodup_pageIds_of_accept {read : Except Json.Fault Article} {accepted : Article}
    (done : settings.accept read = .ok accepted) : (accepted.pages.map Page.id).Nodup := by
  obtain ⟨article, _, valid, rfl⟩ := of_accept done
  rw [pageIds_stamp]
  exact nodup_pageIds valid

/-- No two components of an accepted article have one identifier. -/
theorem nodup_componentIds_of_accept {read : Except Json.Fault Article} {accepted : Article}
    (done : settings.accept read = .ok accepted) : (componentIds accepted.components).Nodup := by
  obtain ⟨article, _, valid, rfl⟩ := of_accept done
  rw [componentIds_stamp]
  exact nodup_componentIds valid

end Article

end ScrollStory
