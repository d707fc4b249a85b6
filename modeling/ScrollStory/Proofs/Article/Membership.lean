import ScrollStory.Article.Encode

/-!
# Membership and the JSON value

The membership of a component is set by stamping and is not part of the value of an article, so that
an article and its stamped copy have the same value.
-/

namespace ScrollStory

/-- The component as it is before its article is stamped. -/
def Component.unstamp (c : Component) : Component :=
  { c with membership := {} }

/-- The frame as it is before its article is stamped. -/
def Frame.unstamp (frame : Frame) : Frame :=
  { frame with components := frame.components.map Component.unstamp }

/-- The page as it is before its article is stamped. -/
def Page.unstamp (page : Page) : Page :=
  { page with frames := page.frames.map Frame.unstamp }

/-- The article before it is stamped: every membership has its default. -/
def Article.unstamp (article : Article) : Article :=
  { article with pages := article.pages.map Page.unstamp }

/-- A function that does not see a change of the items of a list gives the same list. -/
theorem map_mapIdx_of_unseen {α β : Type} {change : Nat → α → α} {view : α → β}
    (unseen : ∀ i a, view (change i a) = view a) (as : List α) :
    (as.mapIdx change).map view = as.map view := by
  apply List.ext_getElem
  · simp only [List.length_map, List.length_mapIdx]
  · intro i _ _
    simp only [List.getElem_map, List.getElem_mapIdx, unseen]

theorem Component.toJson_membership (c : Component) (membership : Membership) :
    Component.toJson { c with membership := membership } = c.toJson := rfl

namespace Article

/-- The value of an article does not depend on where its components say they stand. -/
theorem toJson_stamp (article : Article) : article.stamp.toJson = article.toJson := by
  have frames (pageId : String) (i j : Nat) (frame : Frame) :
      Frame.toJson { frame with
        components := frame.components.map fun c =>
          { c with membership := ⟨pageId, i, frame.id, j⟩ } } = frame.toJson := by
    simp only [Frame.toJson, List.map_map, Function.comp_def, Component.toJson_membership]
  have pages : article.stamp.pages.map Page.toJson = article.pages.map Page.toJson := by
    apply map_mapIdx_of_unseen
    intro i page
    have same := map_mapIdx_of_unseen (frames page.id i) page.frames
    simp only [Page.toJson, same]
  rw [toJson, pages]
  rfl

end Article

end ScrollStory
