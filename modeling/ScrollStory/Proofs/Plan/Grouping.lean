import Mathlib.Data.List.Perm.Basic
import ScrollStory.Plan.Grouping

/-!
# The groups of a page

The groups of a page are its occupied slots with their components. Together they hold every
component of the page once, and the longest of them has the length of the longest slot.
-/

namespace ScrollStory

namespace Page

/-- Every occupied slot of a page has its group. -/
theorem mem_groups {page : Page} {slot : Slot} (occupied : page.slotEntries slot ≠ []) :
    ⟨slot, page.slotEntries slot⟩ ∈ page.groups := by
  refine List.mem_filter.mpr ⟨List.mem_map.mpr ⟨slot, slot.mem_all, rfl⟩, ?_⟩
  simpa using occupied

/-- A group of a page has the entries of its slot, and there are some. -/
theorem of_mem_groups {page : Page} {group : Group} (member : group ∈ page.groups) :
    group.entries = page.slotEntries group.slot ∧ group.entries ≠ [] := by
  obtain ⟨listed, occupied⟩ := List.mem_filter.mp member
  obtain ⟨slot, _, rfl⟩ := List.mem_map.mp listed
  exact ⟨rfl, by simpa using occupied⟩

/-- The entries of a page are for its components, in the order of the document. -/
theorem component_entries (page : Page) :
    page.entries.map Entry.component = page.components := by
  have frames : page.frames.zipIdx.flatMap (fun item => item.1.components) =
      (page.frames.zipIdx.map Prod.fst).flatMap Frame.components := by
    rw [List.flatMap_map]
  rw [components, ← List.zipIdx_map_fst 0 page.frames, ← frames, entries, List.map_flatMap]
  simp only [List.map_map, Function.comp_def, List.map_id']

end Page

/-! ## The components of the groups -/

/-- Sorting items by their keys keeps those whose keys are there. -/
theorem perm_flatMap_filter {α κ : Type} [DecidableEq κ] (key : α → κ) {keys : List κ}
    (nodup : keys.Nodup) (items : List α) :
    (keys.flatMap fun k => items.filter (key · = k)).Perm (items.filter (key · ∈ keys)) := by
  induction keys with
  | nil => simp
  | cons k keys ih =>
      obtain ⟨fresh, nodup⟩ := List.nodup_cons.mp nodup
      have others := (ih nodup).append_left (items.filter (key · = k))
      have split := List.filter_append_perm (key · = k) (items.filter (key · ∈ k :: keys))
      have first : (items.filter (key · ∈ k :: keys)).filter (key · = k) =
          items.filter (key · = k) := by
        rw [List.filter_filter]
        congr 1
        funext item
        by_cases same : key item = k <;> simp [same]
      have later : (items.filter (key · ∈ k :: keys)).filter (fun item => !decide (key item = k)) =
          items.filter (key · ∈ keys) := by
        rw [List.filter_filter]
        congr 1
        funext item
        by_cases same : key item = k <;> simp [same, fresh]
      rw [List.flatMap_cons]
      rw [first, later] at split
      exact others.trans split

theorem nodup_all : Slot.all.Nodup := by decide

/-- The groups that are left out have nothing in them. -/
theorem Page.flatMap_groups (page : Page) :
    page.groups.flatMap Group.entries = Slot.all.flatMap page.slotEntries := by
  have filtered (all : List Group) : (all.filter (!·.entries.isEmpty)).map Group.entries =
      (all.map Group.entries).filter (!·.isEmpty) := by
    rw [List.filter_map]
    rfl
  rw [List.flatMap_def, List.flatMap_def, groups, filtered, List.flatten_filter_not_isEmpty,
    List.map_map]
  rfl

/-- The groups of a page hold each of its components once. -/
theorem Page.perm_groups (page : Page) :
    (page.groups.flatMap Group.entries).Perm page.entries := by
  have sorted := perm_flatMap_filter (fun entry : Entry => entry.component.slot) nodup_all
    page.entries
  have every : page.entries.filter (fun entry => entry.component.slot ∈ Slot.all) =
      page.entries := by
    rw [List.filter_eq_self]
    exact fun entry _ => decide_eq_true (Slot.mem_all _)
  rw [flatMap_groups]
  rw [every] at sorted
  exact sorted

/-- Every component of a page is in a group. -/
theorem Page.exists_group {page : Page} {c : Component} (member : c ∈ page.components) :
    ∃ group ∈ page.groups, ∃ entry ∈ group.entries, entry.component = c := by
  rw [← component_entries] at member
  obtain ⟨entry, listed, rfl⟩ := List.mem_map.mp member
  obtain ⟨group, grouped, inside⟩ := List.mem_flatMap.mp (page.perm_groups.mem_iff.mpr listed)
  exact ⟨group, grouped, entry, inside, rfl⟩

/-! ## The longest slot -/

/-- No group is bigger than the biggest. -/
theorem Group.length_le_biggest {groups : List Group} {group : Group} (member : group ∈ groups) :
    group.entries.length ≤ biggest groups := by
  induction groups with
  | nil => cases member
  | cons other groups ih =>
      change group.entries.length ≤ max other.entries.length (biggest groups)
      rcases List.mem_cons.mp member with rfl | later
      · exact Nat.le_max_left _ _
      · exact Nat.le_trans (ih later) (Nat.le_max_right _ _)

/-- Some group is as big as the biggest, if there are groups. -/
theorem Group.exists_eq_biggest {groups : List Group} (some : groups ≠ []) :
    ∃ group ∈ groups, group.entries.length = biggest groups := by
  induction groups with
  | nil => exact (some rfl).elim
  | cons other groups ih =>
      have step : biggest (other :: groups) = max other.entries.length (biggest groups) := rfl
      by_cases shorter : other.entries.length < biggest groups
      · have others : groups ≠ [] := by
          rintro rfl
          exact Nat.not_lt_zero _ shorter
        obtain ⟨group, member, longest⟩ := ih others
        exact ⟨group, List.mem_cons_of_mem _ member, by omega⟩
      · exact ⟨other, List.mem_cons_self, by omega⟩

/-- No slot has more entries than the biggest group. -/
theorem Page.slotEntries_length_le (page : Page) (slot : Slot) :
    (page.slotEntries slot).length ≤ Group.biggest page.groups := by
  by_cases occupied : page.slotEntries slot = []
  · rw [occupied]
    exact Nat.zero_le _
  · exact Group.length_le_biggest (mem_groups occupied)

/-- A page with components has an occupied slot. -/
theorem Page.exists_slotEntries {page : Page} (some : page.components ≠ []) :
    ∃ slot, page.slotEntries slot ≠ [] := by
  obtain ⟨c, inside⟩ := List.exists_mem_of_ne_nil _ some
  rw [← component_entries] at inside
  obtain ⟨entry, placed, rfl⟩ := List.mem_map.mp inside
  have found : entry ∈ page.slotEntries entry.component.slot :=
    List.mem_filter.mpr ⟨placed, decide_eq_true rfl⟩
  exact ⟨_, List.ne_nil_of_mem found⟩

end ScrollStory
