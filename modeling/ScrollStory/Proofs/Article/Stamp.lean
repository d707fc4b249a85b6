import ScrollStory.Proofs.Article.Membership

/-!
# Stamped articles

Stamping only tells components where they stand: an article is the stamp of another one just if the
two are the same up to membership and every component of the first says where it stands
(`ScrollStory.Article.stampOf_iff`).
-/

namespace ScrollStory

/-- An article as another one in which every component says where it stands. -/
structure Article.StampOf (stamped article : Article) : Prop where
  unchanged : stamped.unstamp = article.unstamp
  placed : ∀ (i : Nat) (page : Page) (j : Nat) (frame : Frame), stamped.pages[i]? = some page →
    page.frames[j]? = some frame →
      ∀ c ∈ frame.components, c.membership = ⟨page.id, i, frame.id, j⟩

/-- A frame with the memberships of its components at frame `j` of page `i`. -/
def Frame.stampAt (pageId : String) (i j : Nat) (frame : Frame) : Frame :=
  { frame with
    components := frame.components.map fun c => { c with membership := ⟨pageId, i, frame.id, j⟩ } }

/-- A page with the memberships of its components at page `i`. -/
def Page.stampAt (i : Nat) (page : Page) : Page :=
  { page with frames := page.frames.mapIdx (Frame.stampAt page.id i) }

theorem Article.stamp_eq (article : Article) :
    article.stamp = { article with pages := article.pages.mapIdx Page.stampAt } := rfl

/-- Changes that leave every item as it is leave the list as it is. -/
theorem mapIdx_eq_self {α : Type} {change : Nat → α → α} {as : List α}
    (same : ∀ i a, as[i]? = some a → change i a = a) : as.mapIdx change = as := by
  apply List.ext_getElem?
  intro i
  rw [List.getElem?_mapIdx]
  cases member : as[i]? with
  | none => rfl
  | some a => rw [Option.map_some, same i a member]

theorem mapIdx_map {α β γ : Type} (f : α → β) (change : Nat → β → γ) (as : List α) :
    (as.map f).mapIdx change = as.mapIdx fun i a => change i (f a) := by
  apply List.ext_getElem
  · simp only [List.length_map, List.length_mapIdx]
  · intro i _ _
    simp only [List.getElem_map, List.getElem_mapIdx]

theorem Frame.unstamp_stampAt (pageId : String) (i j : Nat) (frame : Frame) :
    (frame.stampAt pageId i j).unstamp = frame.unstamp := by
  simp [stampAt, unstamp, Component.unstamp]

theorem Frame.stampAt_unstamp (pageId : String) (i j : Nat) (frame : Frame) :
    frame.unstamp.stampAt pageId i j = frame.stampAt pageId i j := by
  simp [stampAt, unstamp, Component.unstamp]

/-- A frame whose components know their places is stamped already. -/
theorem Frame.stampAt_eq_self {pageId : String} {i j : Nat} {frame : Frame}
    (placed : ∀ c ∈ frame.components, c.membership = ⟨pageId, i, frame.id, j⟩) :
    frame.stampAt pageId i j = frame := by
  have components : (frame.components.map fun c : Component =>
      { c with membership := ⟨pageId, i, frame.id, j⟩ }) = frame.components := by
    refine (List.map_congr_left fun c member => ?_).trans (List.map_id _)
    rw [← placed c member]
    rfl
  rw [stampAt, components]

theorem Page.unstamp_stampAt (i : Nat) (page : Page) : (page.stampAt i).unstamp = page.unstamp := by
  simp only [stampAt, unstamp, map_mapIdx_of_unseen (Frame.unstamp_stampAt page.id i)]

theorem Page.stampAt_unstamp (i : Nat) (page : Page) : page.unstamp.stampAt i = page.stampAt i := by
  simp only [stampAt, unstamp, mapIdx_map, Frame.stampAt_unstamp]

namespace Article

variable {stamped article : Article}

/-- Stamping changes nothing but memberships. -/
theorem unstamp_stamp (article : Article) : article.stamp.unstamp = article.unstamp := by
  simp only [stamp_eq, unstamp, map_mapIdx_of_unseen Page.unstamp_stampAt]

/-- What memberships an article had before does not matter to those that it is given. -/
theorem stamp_unstamp (article : Article) : article.unstamp.stamp = article.stamp := by
  simp only [stamp_eq, unstamp, mapIdx_map, Page.stampAt_unstamp]

/-- Stamping a second time changes nothing. -/
theorem StampOf.stamp_eq_self (stampOf : stamped.StampOf article) : stamped.stamp = stamped := by
  have pages : stamped.pages.mapIdx Page.stampAt = stamped.pages := by
    apply mapIdx_eq_self
    intro i page onPage
    have frames : page.frames.mapIdx (Frame.stampAt page.id i) = page.frames :=
      mapIdx_eq_self fun j frame inPage =>
        Frame.stampAt_eq_self (stampOf.placed i page j frame onPage inPage)
    rw [Page.stampAt, frames]
  rw [stamp_eq, pages]

/-- A stamped article is the article with the memberships of its places. -/
theorem stampOf_stamp (article : Article) : article.stamp.StampOf article := by
  refine ⟨unstamp_stamp article, ?_⟩
  intro i page j frame onPage inPage c member
  simp only [stamp_eq, List.getElem?_mapIdx, Option.map_eq_some_iff] at onPage
  obtain ⟨page, _, rfl⟩ := onPage
  simp only [Page.stampAt, List.getElem?_mapIdx, Option.map_eq_some_iff] at inPage
  obtain ⟨frame, _, rfl⟩ := inPage
  obtain ⟨c, _, rfl⟩ := List.mem_map.mp member
  rfl

/-- There is only one way to stamp an article. -/
theorem stampOf_iff : stamped.StampOf article ↔ stamped = article.stamp := by
  constructor
  · intro stampOf
    rw [← stampOf.stamp_eq_self, ← stamp_unstamp stamped, stampOf.unchanged, stamp_unstamp]
  · rintro rfl
    exact stampOf_stamp article

end Article

end ScrollStory
