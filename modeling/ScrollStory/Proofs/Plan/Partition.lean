import ScrollStory.Proofs.Article.Spots
import ScrollStory.Proofs.Html.Ids
import ScrollStory.Proofs.Plan.Grouping

/-!
# Grouping is a stable partition

Every component of a page stands in one group, that of its slot, and the components of a group keep
the order in which they stand on the page (`ScrollStory.Page.stable_partition`). Groups can be
gathered in one pass over the page, which adds one component after another at the end of the group
of its slot and stops at the first one that is misplaced (`ScrollStory.Page.gather_eq_group`).
-/

namespace ScrollStory

/-- The place of a slot in the canonical order. -/
def Slot.rank (slot : Slot) : Nat := Slot.all.idxOf slot

/-- The slots are listed in their canonical order. -/
theorem pairwise_rank : Slot.all.Pairwise fun earlier later => earlier.rank < later.rank := by
  decide

/-! ## Groups that are gathered -/

namespace Group

/-- The groups with one entry more, at the end of the group of its slot. -/
def add (entry : Entry) : List Group → List Group
  | [] => [⟨entry.component.slot, [entry]⟩]
  | group :: groups =>
    if entry.component.slot = group.slot then
      { group with entries := group.entries ++ [entry] } :: groups
    else if entry.component.slot.rank < group.slot.rank then
      ⟨entry.component.slot, [entry]⟩ :: group :: groups
    else group :: add entry groups

/-- The groups of some entries for some slots, those without entries left out. -/
def ofEntries (slots : List Slot) (entries : List Entry) : List Group :=
  (slots.map fun slot => ⟨slot, entries.filter (·.component.slot = slot)⟩).filter
    (!·.entries.isEmpty)

variable {slot : Slot} {slots : List Slot} {entries : List Entry} {entry : Entry}

theorem ofEntries_cons_of_absent (absent : entries.filter (·.component.slot = slot) = []) :
    ofEntries (slot :: slots) entries = ofEntries slots entries := by
  rw [ofEntries, List.map_cons, List.filter_cons_of_neg (by simp [absent]), ofEntries]

/-- A slot with entries has them as its group, before those of later slots. -/
theorem ofEntries_cons_of_present (present : entries.filter (·.component.slot = slot) ≠ []) :
    ofEntries (slot :: slots) entries =
      ⟨slot, entries.filter (·.component.slot = slot)⟩ :: ofEntries slots entries := by
  rw [ofEntries, List.map_cons, List.filter_cons_of_pos (by simpa using present), ofEntries]

theorem slot_of_mem_ofEntries {group : Group} (member : group ∈ ofEntries slots entries) :
    group.slot ∈ slots := by
  obtain ⟨slot, listed, rfl⟩ := List.mem_map.mp (List.mem_filter.mp member).1
  exact listed

/-- An entry of another slot does not count. -/
theorem filter_append_of_ne (other : entry.component.slot ≠ slot) :
    (entries ++ [entry]).filter (·.component.slot = slot) =
      entries.filter (·.component.slot = slot) := by
  rw [List.filter_append, List.filter_cons_of_neg (by simpa using other), List.filter_nil,
    List.append_nil]

/-- An entry in another slot changes no group. -/
theorem ofEntries_append_of_not_mem (others : entry.component.slot ∉ slots) :
    ofEntries slots (entries ++ [entry]) = ofEntries slots entries := by
  rw [ofEntries, ofEntries]
  congr 1
  refine List.map_congr_left fun slot listed => ?_
  rw [filter_append_of_ne fun same => others (same ▸ listed)]

/-- An entry whose slot comes before all groups makes a group in front of them. -/
theorem add_of_before {groups : List Group}
    (before : ∀ group ∈ groups, entry.component.slot.rank < group.slot.rank) :
    add entry groups = ⟨entry.component.slot, [entry]⟩ :: groups := by
  cases groups with
  | nil => rfl
  | cons group groups =>
      have earlier := before group List.mem_cons_self
      have other : entry.component.slot ≠ group.slot := by
        intro same
        exact Nat.lt_irrefl _ (same ▸ earlier)
      rw [add, if_neg other, if_pos earlier]

/-- Adding an entry to the groups of some entries makes the groups of these and the entry. -/
theorem add_ofEntries (ordered : slots.Pairwise fun earlier later => earlier.rank < later.rank)
    (listed : entry.component.slot ∈ slots) :
    add entry (ofEntries slots entries) = ofEntries slots (entries ++ [entry]) := by
  induction slots with
  | nil => cases listed
  | cons slot slots ih =>
      obtain ⟨before, ordered⟩ := List.pairwise_cons.mp ordered
      by_cases same : entry.component.slot = slot
      · subst same
        have fresh : entry.component.slot ∉ slots := fun later =>
          Nat.lt_irrefl _ (before _ later)
        have grown : (entries ++ [entry]).filter (·.component.slot = entry.component.slot) =
            entries.filter (·.component.slot = entry.component.slot) ++ [entry] := by
          simp
        have present : (entries ++ [entry]).filter (·.component.slot = entry.component.slot) ≠ [] :=
          grown ▸ List.append_ne_nil_of_right_ne_nil _ (List.cons_ne_nil _ _)
        rw [ofEntries_cons_of_present present, grown, ofEntries_append_of_not_mem fresh]
        by_cases absent : entries.filter (·.component.slot = entry.component.slot) = []
        · rw [ofEntries_cons_of_absent absent, absent, List.nil_append]
          exact add_of_before fun group member => before _ (slot_of_mem_ofEntries member)
        · rw [ofEntries_cons_of_present absent, add, if_pos rfl]
      · have later := (List.mem_cons.mp listed).resolve_left same
        have behind : ¬entry.component.slot.rank < slot.rank :=
          Nat.not_lt_of_gt (before _ later)
        have kept : (entries ++ [entry]).filter (·.component.slot = slot) =
            entries.filter (·.component.slot = slot) := filter_append_of_ne same
        by_cases absent : entries.filter (·.component.slot = slot) = []
        · rw [ofEntries_cons_of_absent absent, ih ordered later,
            ofEntries_cons_of_absent (kept.trans absent)]
        · have present := kept ▸ absent
          rw [ofEntries_cons_of_present absent, ofEntries_cons_of_present present, kept, add,
            if_neg same, if_neg behind, ih ordered later]

end Group

namespace Page

/-- Adds an entry to the groups of a page, if its slot is one of the page's template. -/
def addEntry (page : Page) (groups : List Group) (entry : Entry) : Except Error (List Group) :=
  if page.layout.template.accepts entry.component.slot then .ok (Group.add entry groups)
  else .error (.invalidPosition entry.component.id entry.component.slot.name
    page.layout.template.name)

/-- The groups of a page in one pass over its components. -/
def gather (page : Page) : Except Error (List Group) :=
  page.entries.foldlM page.addEntry []

/-- What becomes of the groups of some entries when others are added. -/
theorem foldlM_addEntry (page : Page) (before entries : List Entry) :
    entries.foldlM page.addEntry (Group.ofEntries Slot.all before) =
      match (entries.map Entry.component).find? fun c => !page.layout.template.accepts c.slot with
      | some c => .error (.invalidPosition c.id c.slot.name page.layout.template.name)
      | none => .ok (Group.ofEntries Slot.all (before ++ entries)) := by
  induction entries generalizing before with
  | nil => rw [List.append_nil]; rfl
  | cons entry entries ih =>
      rw [List.foldlM_cons, List.map_cons, List.find?_cons, addEntry]
      cases placed : page.layout.template.accepts entry.component.slot with
      | false => rfl
      | true =>
          rw [if_pos rfl, Group.add_ofEntries pairwise_rank (Slot.mem_all _)]
          rw [List.append_cons before entry entries]
          exact ih (before ++ [entry])

/-- One pass over the page comes to the same groups, and to the same error. -/
theorem gather_eq_group (page : Page) : page.gather = page.group := by
  have gathered := page.foldlM_addEntry [] page.entries
  rw [List.nil_append, component_entries] at gathered
  exact gathered

/-! ## Groups in order -/

/-- Some entries are those of the components in a slot of a page, in the order of the document. -/
def ListsSlot (page : Page) (slot : Slot) (entries : List Entry) : Prop :=
  ∃ spots : List Spot, spots.Pairwise Spot.Before ∧
    (∀ spot, spot ∈ spots ↔ spot.OnPage page ∧ spot.component.slot = slot) ∧
    entries = spots.map Spot.entry

/-- Some groups hold the components of a page: sorted by slot, none of them empty, and in each the
components of its slot, so that together they hold what is at every spot once. -/
structure Partitioned (page : Page) (groups : List Group) : Prop where
  ordered : groups.Pairwise fun earlier later => earlier.slot.rank < later.slot.rank
  occupied : ∀ group ∈ groups, group.entries ≠ []
  sequences : ∀ group ∈ groups, page.ListsSlot group.slot group.entries
  once : ∃ spots : List Spot, spots.Nodup ∧ (∀ spot, spot ∈ spots ↔ spot.OnPage page) ∧
    groups.flatMap Group.entries = spots.map Spot.entry
  count : Group.componentCount groups = page.componentCount
  longest : ∀ group ∈ groups, group.entries.length ≤ Group.biggest groups
  attained : groups ≠ [] → ∃ group ∈ groups, group.entries.length = Group.biggest groups
  empty : Group.biggest groups = 0 ↔ page.components = []

/-- The entries of a slot are those of the spots whose components stand there. -/
theorem slotEntries_eq (page : Page) (slot : Slot) :
    page.slotEntries slot = (page.spots.filter (·.component.slot = slot)).map Spot.entry := by
  rw [slotEntries, ← entry_spots, List.filter_map]
  rfl

/-- The entries of a slot list the components in it. -/
theorem listsSlot_slotEntries (page : Page) (slot : Slot) :
    page.ListsSlot slot (page.slotEntries slot) := by
  refine ⟨_, page.pairwise_spots.filter _, fun spot => ?_, page.slotEntries_eq slot⟩
  rw [List.mem_filter, mem_spots, decide_eq_true_eq]

/-- The groups of a page stand in the canonical order of their slots. -/
theorem pairwise_groups (page : Page) :
    page.groups.Pairwise fun earlier later => earlier.slot.rank < later.slot.rank := by
  refine List.Pairwise.filter _ (List.pairwise_map.mpr ?_)
  exact pairwise_rank

/-- The groups of a page hold what is at every spot of it once. -/
theorem exists_spots_groups (page : Page) :
    ∃ spots : List Spot, spots.Nodup ∧ (∀ spot, spot ∈ spots ↔ spot.OnPage page) ∧
      page.groups.flatMap Group.entries = spots.map Spot.entry := by
  have sorted := perm_flatMap_filter (fun spot : Spot => spot.component.slot) nodup_all page.spots
  have every : page.spots.filter (fun spot => spot.component.slot ∈ Slot.all) = page.spots :=
    List.filter_eq_self.mpr fun spot _ => decide_eq_true (Slot.mem_all _)
  rw [every] at sorted
  refine ⟨_, sorted.nodup_iff.mpr page.nodup_spots, fun spot => ?_, ?_⟩
  · rw [sorted.mem_iff, mem_spots]
  · rw [flatMap_groups, List.map_flatMap, funext page.slotEntries_eq]

/-- The biggest group is empty just for a page without components. -/
theorem biggest_eq_zero_iff {page : Page} :
    Group.biggest page.groups = 0 ↔ page.components = [] := by
  constructor
  · intro zero
    by_contra some
    obtain ⟨slot, occupied⟩ := exists_slotEntries some
    have fits := page.slotEntries_length_le slot
    rw [zero] at fits
    exact occupied (List.length_eq_zero_iff.mp (Nat.le_zero.mp fits))
  · intro none
    have entries : page.entries = [] := List.map_eq_nil_iff.mp (page.component_entries.trans none)
    have groups : page.groups = [] := by
      refine List.filter_eq_nil_iff.mpr fun group member => ?_
      obtain ⟨slot, _, rfl⟩ := List.mem_map.mp member
      simp [slotEntries, entries]
    rw [groups]
    rfl

/-- **Grouping is a stable partition.** The groups of a page come in the canonical order of slots,
and each holds the components of its slot in the order in which they stand on the page, with the
indices of their frames; every component stands in one group, also if others are equal to it. One
pass over the page gathers the same groups. -/
theorem stable_partition {page : Page} {groups : List Group} (grouped : page.group = .ok groups) :
    page.Partitioned groups ∧ page.gather = .ok groups := by
  obtain ⟨-, rfl⟩ := group_eq_ok_iff.mp grouped
  refine ⟨⟨page.pairwise_groups, fun group member => (of_mem_groups member).2, ?_,
    page.exists_spots_groups, ?_, fun group => Group.length_le_biggest, Group.exists_eq_biggest,
    biggest_eq_zero_iff⟩, page.gather_eq_group.trans grouped⟩
  · intro group member
    rw [(of_mem_groups member).1]
    exact page.listsSlot_slotEntries group.slot
  · rw [Group.componentCount, page.perm_groups.length_eq, componentCount, ← component_entries,
      List.length_map]

/-- A page whose frames fill its slots in turn, with one component there twice. -/
def interleaved : Page where
  id := "p"
  pinnable := true
  layout := { template := .leftRight }
  frames := [
    { id := "f1",
      components := [.ofText "a" .right "fade" "a", .ofText "b" .left "fade" "b"] },
    { id := "f2", components := [.ofText "a" .right "fade" "a"] }]

/-- Components that fill two slots in turn, one of them twice, are grouped by slot. -/
theorem stable_partition_interleaved :
    ∃ groups, interleaved.group = .ok groups ∧
      groups.map Group.summary = [⟨.left, ["b"]⟩, ⟨.right, ["a", "a"]⟩] ∧
      interleaved.Partitioned groups := by
  have grouped : interleaved.group = .ok _ := rfl
  exact ⟨_, grouped, rfl, (stable_partition grouped).1⟩

end Page

end ScrollStory
