import ScrollStory.Proofs.Article.RoundTrip
import ScrollStory.Proofs.Article.WellFormed

/-!
# The convention on the identifiers of components

The identifier of a component should be those of its page and of its frame and one of its own, with
hyphens between them. The check cuts the identifier at every hyphen, compares the first piece with
the identifier of the page and counts the others, so that no identifier follows the convention on a
page that has a hyphen in its own, and on the other pages an empty piece counts like any other one
(`ScrollStory.Page.enforced_iff`).
-/

namespace ScrollStory

open Finding (Clean clean_ensure)

/-! ## Pieces of identifiers -/

/-- A text is cut into more than one piece just if the separator stands in it. -/
theorem Text.two_le_length_pieces_iff {separator : Char} {cs : List Char} :
    2 ≤ (pieces separator cs).length ↔ separator ∈ cs := by
  by_cases inside : separator ∈ cs
  · obtain ⟨before, behind, rfl, fresh⟩ := List.eq_append_cons_of_mem inside
    have some := List.length_pos_of_ne_nil (pieces_ne_nil separator behind)
    rw [pieces_append fresh, List.length_cons]
    exact ⟨fun _ => inside, fun _ => Nat.succ_le_succ some⟩
  · rw [pieces_of_not_mem inside]
    exact ⟨fun two => (Nat.not_succ_le_self 1 two).elim, fun member => (inside member).elim⟩

/-- What follows the convention: behind the identifier of the page, which has no hyphen, a hyphen
and a rest with another one. -/
theorem followsConvention_iff {pageId componentId : String} :
    followsConvention pageId componentId = true ↔
      '-' ∉ pageId.toList ∧
        ∃ rest, componentId = pageId ++ "-" ++ rest ∧ '-' ∈ rest.toList := by
  have joined (rest : String) :
      (pageId ++ "-" ++ rest).toList = pageId.toList ++ '-' :: rest.toList := by simp
  by_cases cut : '-' ∈ componentId.toList
  · obtain ⟨first, rest, split, fresh⟩ := List.eq_append_cons_of_mem cut
    have judged : followsConvention pageId componentId = true ↔
        String.ofList first = pageId ∧ '-' ∈ rest := by
      rw [followsConvention, Text.split, split, Text.pieces_append fresh,
        ← Text.two_le_length_pieces_iff]
      simp
    rw [judged]
    constructor
    · rintro ⟨rfl, another⟩
      refine ⟨by simpa using fresh, String.ofList rest, String.toList_inj.mp ?_, by simpa⟩
      rw [joined, split, String.toList_ofList, String.toList_ofList]
    · rintro ⟨plain, others, rfl, another⟩
      have pieces := Text.pieces_append plain others.toList
      rw [← joined, split, Text.pieces_append fresh] at pieces
      have same := (List.cons.inj pieces).1
      subst same
      rw [joined] at split
      cases List.append_cancel_left split
      exact ⟨String.ofList_toList, another⟩
  · have refused : followsConvention pageId componentId = false := by
      simp [followsConvention, Text.split_of_not_mem cut]
    rw [refused]
    refine ⟨fun accepted => absurd accepted Bool.false_ne_true, ?_⟩
    rintro ⟨_, rest, rfl, _⟩
    exact absurd (by simp) cut

/-! ## The shape of identifiers -/

/-- The identifiers of a page and of a frame and one of a component's own, with hyphens between
them. -/
def HasShape (pageId componentId : String) : Prop :=
  ∃ frameId localId, frameId ≠ "" ∧ localId ≠ "" ∧
    componentId = pageId ++ "-" ++ frameId ++ "-" ++ localId

/-- A page with a hyphen in its identifier refuses a component of the right shape, or another page
accepts one with a hyphen only at the ends of what stands behind the page. -/
inductive Misjudged (pageId componentId : String) : Prop where
  | refused (hyphen : '-' ∈ pageId.toList) (shape : HasShape pageId componentId)
  | accepted (plain : '-' ∉ pageId.toList) (rest : String)
      (behind : componentId = pageId ++ "-" ++ rest) (hyphen : '-' ∈ rest.toList)
      (ends : ∀ before after, rest = before ++ "-" ++ after → before = "" ∨ after = "")

/-- Identifiers of the right shape are those with a hyphen inside what stands behind the page. -/
theorem hasShape_iff {pageId componentId : String} :
    HasShape pageId componentId ↔ ∃ rest, componentId = pageId ++ "-" ++ rest ∧
      ∃ before after, rest = before ++ "-" ++ after ∧ before ≠ "" ∧ after ≠ "" := by
  constructor
  · rintro ⟨frameId, localId, frame, own, rfl⟩
    exact ⟨frameId ++ "-" ++ localId, by simp only [String.append_assoc], frameId, localId, rfl,
      frame, own⟩
  · rintro ⟨rest, rfl, frameId, localId, rfl, frame, own⟩
    exact ⟨frameId, localId, frame, own, by simp only [String.append_assoc]⟩

/-- Apart from identifiers that are misjudged, the convention accepts just those of the intended
shape. -/
theorem followsConvention_iff_hasShape {pageId componentId : String} :
    (followsConvention pageId componentId = true ↔ HasShape pageId componentId) ↔
      ¬Misjudged pageId componentId := by
  rw [followsConvention_iff]
  constructor
  · rintro agree (⟨hyphen, shape⟩ | ⟨plain, rest, behind, hyphen, ends⟩)
    · exact (agree.mpr shape).1 hyphen
    · obtain ⟨others, behind', before, after, split, some, some'⟩ :=
        hasShape_iff.mp (agree.mp ⟨plain, rest, behind, hyphen⟩)
      cases (String.append_right_inj _).mp (behind.symm.trans behind')
      exact (ends before after split).elim some some'
  · intro judged
    constructor
    · rintro ⟨plain, rest, behind, hyphen⟩
      refine hasShape_iff.mpr ⟨rest, behind, ?_⟩
      by_contra ends
      refine judged (.accepted plain rest behind hyphen fun before after split => ?_)
      by_contra inner
      exact ends ⟨before, after, split, not_or.mp inner⟩
    · intro shape
      obtain ⟨rest, behind, before, after, rfl, _⟩ := hasShape_iff.mp shape
      refine ⟨fun hyphen => judged (.refused hyphen shape), _, behind, ?_⟩
      simp

/-! ## The check -/

/-- The findings about the identifier of a component next to that of its page. -/
def Page.conventionFindings (page : Page) (i j k : Nat) (c : Component) : List Finding :=
  Finding.ensure (followsConvention page.id c.id) (.component i j k "id")
    (.offConvention c.id page.id)

/-- The convention is checked last of the rules for a component. -/
theorem Page.componentFindings_eq (page : Page) (earlier : List Component) (i j k : Nat)
    (c : Component) :
    page.componentFindings earlier i j k c =
      (c.findings (.component i j k) ++
        Finding.ensure (!(earlier.map Component.id).contains c.id) (.component i j k "id")
          (.duplicateComponent c.id)) ++ page.conventionFindings i j k c := rfl

/-- **What is accepted under the enforced convention.** The identifier of the page has no hyphen,
and the component's is it with a hyphen and a rest that has a hyphen. That is the shape of the
convention but for two kinds of identifiers, for which it never is. -/
theorem Page.enforced_iff (page : Page) (i j k : Nat) (c : Component) :
    (Clean .enforce (page.conventionFindings i j k c) ↔
      '-' ∉ page.id.toList ∧ ∃ rest, c.id = page.id ++ "-" ++ rest ∧ '-' ∈ rest.toList) ∧
    ((Clean .enforce (page.conventionFindings i j k c) ↔ HasShape page.id c.id) ↔
      ¬Misjudged page.id c.id) := by
  have check : Clean .enforce (page.conventionFindings i j k c) ↔
      followsConvention page.id c.id = true := by
    rw [conventionFindings, clean_ensure]
    exact ⟨fun kept => kept rfl, fun kept _ => kept⟩
  rw [check]
  exact ⟨followsConvention_iff, followsConvention_iff_hasShape⟩

namespace Article

/-- An article with one page and one text on it. -/
def onePage (pageId componentId : String) : Article where
  id := "tale"
  pages := [{
    id := pageId
    pinnable := true
    layout := { template := .single }
    frames := [{ id := "f1", components := [.ofText componentId .center "fade" "1"] }] }]

theorem inRange_onePage (pageId componentId : String) : (onePage pageId componentId).InRange := by
  intro page member
  cases List.mem_singleton.mp member
  refine ⟨fun _ given => (nomatch given), fun c inside => ?_⟩
  cases List.mem_singleton.mp inside
  exact Nat.two_pow_pos 32

/-- An article with one page is read back from its text. -/
theorem ofText_onePage (pageId componentId : String) :
    ofText ((onePage pageId componentId).toJson.text .compact) =
      .ok (onePage pageId componentId) := by
  have canonical : (onePage pageId componentId).Canonical := by
    intro page member
    cases List.mem_singleton.mp member
    exact Template.canonical_ofName "single"
  exact ofText_text .compact canonical (inRange_onePage _ _)

/-- A component of the right shape is refused on a page with a hyphen in its identifier, and one
with an empty piece is accepted. -/
theorem enforced_fails_hyphens :
    (isIdentifier "a-b" = true ∧ isIdentifier "a-b-f1-one" = true ∧
      HasShape "a-b" "a-b-f1-one" ∧
      ParseSettings.parseText (ParseSettings.strictIds {})
        ((onePage "a-b" "a-b-f1-one").toJson.text .compact) =
          .error (.schema "pages[0].frames[0].components[0].id"
            "'a-b-f1-one' does not follow <pageId>-<frameId>-<localId> for page 'a-b'")) ∧
    (isIdentifier "a" = true ∧ isIdentifier "a--one" = true ∧ ¬HasShape "a" "a--one" ∧
      ParseSettings.parseText (ParseSettings.strictIds {})
        ((onePage "a" "a--one").toJson.text .compact) = .ok (onePage "a" "a--one").stamp) := by
  refine ⟨⟨by decide, by decide, ⟨"f1", "one", by decide, by decide, rfl⟩, ?_⟩,
    by decide, by decide, ?_, ?_⟩
  · rw [ParseSettings.parseText, ofText_onePage]
    decide
  · intro shape
    obtain ⟨rest, behind, before, after, rfl, some, _⟩ := hasShape_iff.mp shape
    have chars : ['-', 'o', 'n', 'e'] = before.toList ++ '-' :: after.toList := by
      simpa using congrArg (fun s => s.toList.drop 2) behind
    cases start : before.toList with
    | nil => exact some (String.toList_eq_nil_iff.mp start)
    | cons c before =>
        rw [start] at chars
        have late : '-' ∈ ['o', 'n', 'e'] := (List.cons.inj chars).2 ▸ by simp
        exact absurd late (by decide)
  · rw [ParseSettings.parseText, ofText_onePage]
    rfl

end Article

end ScrollStory
