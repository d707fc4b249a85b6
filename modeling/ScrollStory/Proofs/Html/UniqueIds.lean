import ScrollStory.Proofs.Article.RoundTrip
import ScrollStory.Proofs.Article.Valid
import ScrollStory.Proofs.Html.Tags

/-!
# Identifiers that are unique

The identifiers of a document come in three families: of pages, of slots and of components. Those of
components never meet the others, and no two slots share one. A page shares its identifier with a
slot if its own is that of another page with a hyphen and the slot's name behind it, so the document
of an accepted article has no identifier twice just if there is no such page
(`ScrollStory.Article.nodup_ids_iff`).
-/

namespace ScrollStory

open Html (Mark Node ReadsAs)

/-! ## Families of identifiers -/

/-- The last hyphen of a text tells what is before it from what is behind it. -/
theorem append_hyphen_inj {before before' behind behind' : List Char} (plain : '-' ∉ behind)
    (plain' : '-' ∉ behind') (same : before ++ '-' :: behind = before' ++ '-' :: behind') :
    before = before' ∧ behind = behind' := by
  rcases List.append_eq_append_iff.mp same with ⟨rest, rfl, split⟩ | ⟨rest, rfl, split⟩
  · cases rest with
    | nil =>
        cases split
        exact ⟨(List.append_nil _).symm, rfl⟩
    | cons c rest =>
        cases split
        exact (plain (by simp)).elim
  · cases rest with
    | nil =>
        cases split
        exact ⟨List.append_nil _, rfl⟩
    | cons c rest =>
        cases split
        exact (plain' (by simp)).elim

theorem Slot.name_plain (slot : Slot) : '-' ∉ slot.name.toList := by
  cases slot <;> decide

theorem Slot.name_injective {slot slot' : Slot} (same : slot.name = slot'.name) : slot = slot' := by
  revert same
  cases slot <;> cases slot' <;> decide

/-- An identifier and the name of a slot are told from the text of both. -/
theorem slotName_inj {id id' : String} {slot slot' : Slot}
    (same : id ++ "-" ++ slot.name = id' ++ "-" ++ slot'.name) : id = id' ∧ slot = slot' := by
  have chars := congrArg String.toList same
  simp only [String.toList_append, List.append_assoc] at chars
  obtain ⟨ids, names⟩ := append_hyphen_inj slot.name_plain slot'.name_plain chars
  exact ⟨String.toList_inj.mp ids, Slot.name_injective (String.toList_inj.mp names)⟩

/-- An identifier is shorter than one with the name of a slot behind it. -/
theorem ne_slotName (id : String) (slot : Slot) : id ≠ id ++ "-" ++ slot.name := by
  intro same
  have lengths := congrArg String.length same
  rw [String.length_append, String.length_append] at lengths
  have hyphen : "-".length = 1 := rfl
  omega

namespace Page

/-- The elements of two pages have one identifier just if the pages have. -/
theorem domId_inj {page other : Page} : page.domId = other.domId ↔ page.id = other.id :=
  String.append_right_inj "page-"

theorem slotDomId_eq (page : Page) (slot : Slot) :
    page.slotDomId slot = "page-" ++ (page.id ++ "-" ++ slot.name) := by
  rw [slotDomId, domId, String.append_assoc, String.append_assoc, String.append_assoc]

/-- Slots with the same identifier are the same slot of pages with one identifier. -/
theorem slotDomId_inj {page other : Page} {slot slot' : Slot}
    (same : page.slotDomId slot = other.slotDomId slot') : page.id = other.id ∧ slot = slot' := by
  rw [slotDomId_eq, slotDomId_eq, String.append_right_inj] at same
  exact slotName_inj same

/-- The element of a page has the identifier of a slot if the page is named like the other one with
a hyphen and the name of the slot. -/
theorem domId_eq_slotDomId {page other : Page} {slot : Slot} :
    other.domId = page.slotDomId slot ↔ other.id = page.id ++ "-" ++ slot.name := by
  rw [slotDomId_eq]
  exact String.append_right_inj "page-"

/-- The identifiers of the occupied slots of a page. -/
def slotDomIds (page : Page) : List String :=
  page.groups.map fun group => page.slotDomId group.slot

/-- The identifiers of the components of a page, slot by slot. -/
def componentDomIds (page : Page) : List String :=
  (page.groups.flatMap Group.entries).map fun entry => entry.component.domId

/-- The identifiers of slots on a page are those of its occupied slots. -/
theorem mem_slotDomIds {page : Page} {id : String} :
    id ∈ page.slotDomIds ↔ ∃ slot, page.slotEntries slot ≠ [] ∧ id = page.slotDomId slot := by
  constructor
  · intro member
    obtain ⟨group, listed, rfl⟩ := List.mem_map.mp member
    obtain ⟨same, occupied⟩ := of_mem_groups listed
    exact ⟨group.slot, same ▸ occupied, rfl⟩
  · rintro ⟨slot, occupied, rfl⟩
    exact List.mem_map.mpr ⟨_, mem_groups occupied, rfl⟩

/-- No two groups of a page have the same slot. -/
theorem nodup_slots (page : Page) : (page.groups.map Group.slot).Nodup := by
  refine nodup_all.sublist ?_
  have kept := (List.filter_sublist (p := fun group : Group => !group.entries.isEmpty)
    (l := Slot.all.map fun slot => ⟨slot, page.slotEntries slot⟩)).map Group.slot
  rw [List.map_map] at kept
  exact kept.trans (by simp [Function.comp_def])

/-- The slots of a page have different identifiers. -/
theorem nodup_slotDomIds (page : Page) : page.slotDomIds.Nodup := by
  have distinct := List.pairwise_map.mp page.nodup_slots
  exact List.pairwise_map.mpr (distinct.imp fun differ same => differ (slotDomId_inj same).2)

/-- The identifiers of a page are that of the page, those of its slots, and those of its components.
-/
theorem perm_domIds (page : Page) :
    page.domIds.Perm (page.domId :: (page.slotDomIds ++ page.componentDomIds)) := by
  refine List.Perm.cons _ ?_
  have split := List.flatMap_append_perm page.groups
    (fun group => [page.slotDomId group.slot])
    (fun group => group.entries.map fun entry => entry.component.domId)
  rw [← List.map_eq_flatMap, ← List.map_flatMap] at split
  exact split.symm

end Page

/-- The identifier of a component begins with `c`. -/
theorem Component.domId_ne (c : Component) (id : String) : c.domId ≠ "page-" ++ id := by
  intro same
  have chars := congrArg String.toList same
  rw [domId, String.toList_append, String.toList_append] at chars
  cases chars

theorem Component.domId_inj {c other : Component} : c.domId = other.domId ↔ c.id = other.id :=
  String.append_right_inj "comp-"

/-- Slot by slot, the components of a page are its components in another order. -/
theorem Page.perm_componentDomIds (page : Page) :
    page.componentDomIds.Perm (page.components.map Component.domId) := by
  rw [← component_entries, List.map_map]
  exact page.perm_groups.map _

/-! ## Documents -/

namespace Article

/-- The identifiers of the pages of an article, of their slots, and of their components. -/
theorem perm_domIds (article : Article) :
    (article.pages.flatMap Page.domIds).Perm
      (article.pages.map Page.domId ++
        (article.pages.flatMap Page.slotDomIds ++ article.components.map Component.domId)) := by
  have components : (article.pages.flatMap Page.componentDomIds).Perm
      (article.components.map Component.domId) := by
    rw [Article.components, List.map_flatMap]
    exact List.Perm.flatMap_left _ fun page _ => page.perm_componentDomIds
  have inner := (List.flatMap_append_perm article.pages Page.slotDomIds
    Page.componentDomIds).symm.trans (components.append_left _)
  have outer := List.flatMap_append_perm article.pages (fun page => [page.domId])
    (fun page => page.slotDomIds ++ page.componentDomIds)
  rw [← List.map_eq_flatMap] at outer
  have pages : (article.pages.flatMap Page.domIds).Perm (article.pages.flatMap fun page =>
      [page.domId] ++ (page.slotDomIds ++ page.componentDomIds)) :=
    List.Perm.flatMap_left _ fun page _ => page.perm_domIds
  exact pages.trans (outer.symm.trans (inner.append_left _))

/-- The slots of pages with different identifiers have different identifiers. -/
theorem nodup_slotDomIds {article : Article} (unique : (article.pages.map Page.id).Nodup) :
    (article.pages.flatMap Page.slotDomIds).Nodup := by
  refine List.nodup_flatMap.mpr ⟨fun page _ => page.nodup_slotDomIds, ?_⟩
  refine (List.pairwise_map.mp unique).imp ?_
  intro page other differ id member member'
  obtain ⟨slot, _, rfl⟩ := Page.mem_slotDomIds.mp member
  obtain ⟨slot', _, same⟩ := Page.mem_slotDomIds.mp member'
  exact differ (Page.slotDomId_inj same).1

/-- A page of the article goes by the identifier of another one with a hyphen and the name of a slot
there that is occupied. -/
def ClashesWithSlot (article : Article) : Prop :=
  ∃ page ∈ article.pages, ∃ other ∈ article.pages, ∃ slot, page.slotEntries slot ≠ [] ∧
    other.id = page.id ++ "-" ++ slot.name

/-- **When identifiers are unique.** The document of an accepted article whose components are placed
has no identifier twice just if no page goes by the identifier of another one with a hyphen and the
name of an occupied slot there. The identifiers are those that are read off the document's text. -/
theorem nodup_ids_iff {settings : ParseSettings} {read : Except Json.Fault Article}
    {article : Article} (accepted : settings.accept read = .ok article)
    (placed : ∀ page ∈ article.pages, page.Placed) (render : RenderSettings) :
    ∃ nodes, article.nodes render = .ok nodes ∧
      article.html render = .ok ("<!DOCTYPE html>\n" ++ Node.renderAll nodes) ∧
      article.Writes render ("<!DOCTYPE html>\n" ++ Node.renderAll nodes) nodes ∧
      ReadsAs (documentMarks nodes) nodes ∧
      ((Node.idsAll nodes).Nodup ↔ ¬article.ClashesWithSlot) := by
  obtain ⟨nodes, done, ids⟩ := nodes_of_placed placed render
  obtain ⟨writes, reads⟩ := reads_of_nodes done
  refine ⟨nodes, done, writes.html, writes, reads, ?_⟩
  have uniquePages := nodup_pageIds_of_accept accepted
  have pages : (article.pages.map Page.domId).Nodup :=
    List.pairwise_map.mpr ((List.pairwise_map.mp uniquePages).imp fun differ same =>
      differ (Page.domId_inj.mp same))
  have components : (article.components.map Component.domId).Nodup := by
    have unique := nodup_componentIds_of_accept accepted
    exact List.pairwise_map.mpr ((List.pairwise_map.mp unique).imp fun differ same =>
      differ (Component.domId_inj.mp same))
  -- Each sort of identifier is unique by itself, and only pages and slots can meet.
  rw [ids, article.perm_domIds.nodup_iff, List.nodup_append, List.nodup_append]
  constructor
  · rintro ⟨_, _, apart⟩ ⟨page, member, other, member', slot, occupied, same⟩
    have ofPage := Page.mem_slotDomIds.mpr ⟨slot, occupied, rfl⟩
    have slotId := List.mem_flatMap.mpr ⟨page, member, ofPage⟩
    exact apart other.domId (List.mem_map_of_mem member') (page.slotDomId slot)
      (List.mem_append_left _ slotId) (Page.domId_eq_slotDomId.mpr same)
  · intro apart
    refine ⟨pages, ⟨nodup_slotDomIds uniquePages, components, ?_⟩, ?_⟩
    · intro slotId member componentId member' same
      obtain ⟨page, _, member⟩ := List.mem_flatMap.mp member
      obtain ⟨slot, _, rfl⟩ := Page.mem_slotDomIds.mp member
      obtain ⟨c, _, rfl⟩ := List.mem_map.mp member'
      rw [Page.slotDomId_eq] at same
      exact c.domId_ne _ same.symm
    · intro pageId member otherId member' same
      obtain ⟨other, inside, rfl⟩ := List.mem_map.mp member
      rcases List.mem_append.mp member' with slotId | componentId
      · obtain ⟨page, inside', slotId⟩ := List.mem_flatMap.mp slotId
        obtain ⟨slot, occupied, rfl⟩ := Page.mem_slotDomIds.mp slotId
        exact apart ⟨page, inside', other, inside, slot, occupied,
          Page.domId_eq_slotDomId.mp same⟩
      · obtain ⟨c, _, rfl⟩ := List.mem_map.mp componentId
        exact c.domId_ne _ same.symm

/-- An article with two pages, each with a text in its left slot. -/
def twoPages (first second : String) : Article where
  id := "tale"
  pages := [
    { id := first
      pinnable := true
      layout := { template := .leftRight }
      frames := [{ id := "f1", components := [.ofText "one" .left "fade" "1"] }] },
    { id := second
      pinnable := true
      layout := { template := .leftRight }
      frames := [{ id := "f1", components := [.ofText "two" .left "fade" "2"] }] }]

theorem inRange_twoPages (first second : String) : (twoPages first second).InRange := by
  intro page member
  simp only [twoPages, List.mem_cons, List.not_mem_nil, or_false] at member
  have short : (0 : Nat) < twoTo 32 := Nat.two_pow_pos 32
  rcases member with rfl | rfl
  all_goals
    refine ⟨fun _ given => (nomatch given), fun c inside => ?_⟩
    cases List.mem_singleton.mp inside
    exact short

/-- A page with another name than the left slot before it: every identifier is unique. -/
theorem nodup_ids_twoPages :
    ParseSettings.accept {} (.ok (twoPages "a" "b")) = .ok (twoPages "a" "b").stamp ∧
      (∀ page ∈ (twoPages "a" "b").stamp.pages, page.Placed) ∧
      ∃ nodes, (twoPages "a" "b").stamp.nodes {} = .ok nodes ∧ (Node.idsAll nodes).Nodup ∧
        (Mark.ids (documentMarks nodes)).Nodup := by
  have accepted : ParseSettings.accept {} (.ok (twoPages "a" "b")) = .ok (twoPages "a" "b").stamp :=
    rfl
  have placed : ∀ page ∈ (twoPages "a" "b").stamp.pages, page.Placed := by
    unfold Page.Placed
    decide
  obtain ⟨nodes, done, _, _, reads, unique⟩ := nodup_ids_iff accepted placed {}
  have apart : ∀ slot ∈ Slot.all, ∀ page ∈ (twoPages "a" "b").stamp.pages,
      ∀ other ∈ (twoPages "a" "b").stamp.pages, other.id ≠ page.id ++ "-" ++ slot.name := by
    decide
  have clear : ¬(twoPages "a" "b").stamp.ClashesWithSlot := by
    rintro ⟨page, member, other, member', slot, _, same⟩
    exact apart slot slot.mem_all page member other member' same
  exact ⟨accepted, placed, nodes, done, unique.mpr clear, reads.ids ▸ unique.mpr clear⟩

/-- The second page goes by the identifier of the left slot of the first one, and the text of the
article is accepted all the same. -/
theorem nodup_ids_fails_twoPages :
    ParseSettings.parseText {} ((twoPages "a" "a-left").toJson.text .compact) =
        .ok (twoPages "a" "a-left").stamp ∧
      (∀ page ∈ (twoPages "a" "a-left").stamp.pages, page.Placed) ∧
      ∃ nodes, (twoPages "a" "a-left").stamp.nodes {} = .ok nodes ∧
        (twoPages "a" "a-left").stamp.Writes {} ("<!DOCTYPE html>\n" ++ Node.renderAll nodes) nodes ∧
        ¬(Mark.ids (documentMarks nodes)).Nodup ∧ ¬(Node.idsAll nodes).Nodup := by
  have placed : ∀ page ∈ (twoPages "a" "a-left").stamp.pages, page.Placed := by
    unfold Page.Placed
    decide
  obtain ⟨nodes, done, ids⟩ := nodes_of_placed placed {}
  obtain ⟨writes, reads⟩ := reads_of_nodes done
  have twice : ¬(Node.idsAll nodes).Nodup := by
    rw [ids]
    decide
  refine ⟨?_, placed, nodes, done, writes, reads.ids ▸ twice, twice⟩
  · have canonical : (twoPages "a" "a-left").Canonical := by
      unfold Canonical Template.Canonical
      decide
    rw [ParseSettings.parseText, ofText_text .compact canonical (inRange_twoPages _ _)]
    rfl

end Article

end ScrollStory
