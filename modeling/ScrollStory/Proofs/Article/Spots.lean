import Mathlib.Data.List.Nodup
import ScrollStory.Plan.Grouping

/-!
# Where components stand

A spot of a page is a component with the indices that lead to it. The spots of a page come in the
order of the document, and every pair of indices that leads to a component has one spot, so that
components that are equal are told apart. Listing the spots lists the components of the page, and
their entries.
-/

namespace ScrollStory

/-- The indices of the items of a list grow. -/
theorem pairwise_zipIdx {α : Type} (as : List α) :
    as.zipIdx.Pairwise fun earlier later => earlier.2 < later.2 := by
  have indices := List.pairwise_lt_range' (s := 0) (n := as.length)
  rw [← List.zipIdx_map_snd] at indices
  exact List.pairwise_map.mp indices

/-- A component of a page with its frame and the way to it. -/
structure Spot where
  /-- The index of the frame on the page. -/
  j : Nat
  /-- The index of the component in the frame. -/
  k : Nat
  frame : Frame
  component : Component

namespace Spot

/-- The indices of a spot lead to its component. -/
structure OnPage (spot : Spot) (page : Page) : Prop where
  frame : page.frames[spot.j]? = some spot.frame
  component : spot.frame.components[spot.k]? = some spot.component

/-- One spot comes before another one: in an earlier frame, or earlier in the same frame. -/
def Before (earlier later : Spot) : Prop :=
  earlier.j < later.j ∨ earlier.j = later.j ∧ earlier.k < later.k

/-- The entry of the component at a spot. -/
def entry (spot : Spot) : Entry := ⟨spot.component, spot.j, spot.frame.id⟩

instance : Std.Irrefl Before where
  irrefl _ before := before.elim (Nat.lt_irrefl _) fun same => Nat.lt_irrefl _ same.2

end Spot

namespace Page

/-- The spots of a page, in the order of the document. -/
def spots (page : Page) : List Spot :=
  page.frames.zipIdx.flatMap fun (frame, j) =>
    frame.components.zipIdx.map fun (component, k) => ⟨j, k, frame, component⟩

/-- The spots of a page are just those at which one of its components stands. -/
theorem mem_spots {page : Page} {spot : Spot} : spot ∈ page.spots ↔ spot.OnPage page := by
  simp only [spots, List.mem_flatMap, List.mem_map, Prod.exists, List.mem_zipIdx_iff_getElem?]
  constructor
  · rintro ⟨frame, j, onPage, component, k, inFrame, rfl⟩
    exact ⟨onPage, inFrame⟩
  · rintro ⟨onPage, inFrame⟩
    exact ⟨_, _, onPage, _, _, inFrame, rfl⟩

/-- The spots of a page are listed in the order of the document. -/
theorem pairwise_spots (page : Page) : page.spots.Pairwise Spot.Before := by
  refine List.pairwise_flatMap.mpr ⟨fun (frame, j) _ => ?_, ?_⟩
  · refine List.pairwise_map.mpr ((pairwise_zipIdx frame.components).imp fun earlier => ?_)
    exact .inr ⟨rfl, earlier⟩
  · refine (pairwise_zipIdx page.frames).imp fun earlier spot member later member' => ?_
    obtain ⟨_, _, rfl⟩ := List.mem_map.mp member
    obtain ⟨_, _, rfl⟩ := List.mem_map.mp member'
    exact .inl earlier

theorem nodup_spots (page : Page) : page.spots.Nodup := page.pairwise_spots.nodup

/-- The spots of a page have its entries, in the same order. -/
theorem entry_spots (page : Page) : page.spots.map Spot.entry = page.entries := by
  have frames (frame : Frame) (j : Nat) :
      (frame.components.zipIdx.map fun (component, k) => Spot.entry ⟨j, k, frame, component⟩) =
        frame.components.map fun component => ⟨component, j, frame.id⟩ := by
    rw [← List.zipIdx_map_fst 0 frame.components, List.map_map, List.zipIdx_map_fst]
    rfl
  rw [spots, entries, List.map_flatMap]
  simp only [List.map_map, ← frames]
  rfl

end Page

end ScrollStory
