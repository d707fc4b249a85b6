import ScrollStory.Artifact.Bundle
import ScrollStory.Proofs.Article.Convention
import ScrollStory.Proofs.Article.Stamp
import ScrollStory.Proofs.Plan.Grouping

/-!
# Membership is not looked at

Where a component says that it stands is for the readers of an article only. Validation overwrites
it, and everything else that is made of an article finds out by itself where its components stand:
taking the membership away changes no plan, no artifact and no JSON text. So two articles that
differ in nothing else have the same results (`ScrollStory.Article.membership_unseen`).
-/

namespace ScrollStory

/-! ## Validation -/

namespace Page

variable (page : Page) (i j k : Nat)

theorem components_unstamp : page.unstamp.components = page.components.map Component.unstamp := by
  rw [components, unstamp, List.flatMap_map, components, List.map_flatMap]
  rfl

/-- What is found about a component does not depend on memberships. -/
theorem componentFindings_unstamp (earlier : List Component) (c : Component) :
    page.unstamp.componentFindings (earlier.map Component.unstamp) i j k c.unstamp =
      page.componentFindings earlier i j k c := by
  rw [componentFindings, List.map_map]
  rfl

/-- What is found about a frame does not depend on memberships. -/
theorem frameFindings_unstamp (earlier : List Component) (frame : Frame) :
    page.unstamp.frameFindings (earlier.map Component.unstamp) i j frame.unstamp =
      page.frameFindings earlier i j frame := by
  rw [frameFindings, Frame.unstamp, mapIdx_map]
  simp only [← List.map_take, ← List.map_append, componentFindings_unstamp]
  rfl

/-- What is found about a page does not depend on memberships. -/
theorem findings_unstamp (earlier : List Page) :
    page.unstamp.findings (earlier.map unstamp) i = page.findings earlier i := by
  have pages : (earlier.map unstamp).flatMap components =
      (earlier.flatMap components).map Component.unstamp := by
    rw [List.flatMap_map, List.map_flatMap]
    simp only [components_unstamp]
  have components (frames : List Frame) : (frames.map Frame.unstamp).flatMap Frame.components =
      (frames.flatMap Frame.components).map Component.unstamp := by
    rw [List.flatMap_map, List.map_flatMap]
    rfl
  have frames : page.unstamp.frames = page.frames.map Frame.unstamp := rfl
  rw [findings, pages, List.map_map, frames, mapIdx_map]
  simp only [← List.map_take, components, ← List.map_append, frameFindings_unstamp]
  rfl

end Page

/-- What is found about an article does not depend on memberships. -/
theorem Article.findings_unstamp (article : Article) (requirePages : Bool) :
    article.unstamp.findings requirePages = article.findings requirePages := by
  rw [findings, unstamp, mapIdx_map]
  simp only [← List.map_take, Page.findings_unstamp, List.isEmpty_map]
  rfl

/-! ## Entries and groups -/

/-- An entry whose component has no membership. -/
def Entry.unstamp (entry : Entry) : Entry :=
  { entry with component := entry.component.unstamp }

/-- A group whose components have no memberships. -/
def Group.unstamp (group : Group) : Group :=
  { group with entries := group.entries.map Entry.unstamp }

namespace Page

variable (page : Page)

/-- The entries of a page are the same but for memberships. -/
theorem entries_unstamp : page.unstamp.entries = page.entries.map Entry.unstamp := by
  rw [entries, unstamp, List.zipIdx_map, List.flatMap_map, entries, List.map_flatMap]
  simp only [Prod.map, Frame.unstamp, List.map_map]
  rfl

theorem slotEntries_unstamp (slot : Slot) :
    page.unstamp.slotEntries slot = (page.slotEntries slot).map Entry.unstamp := by
  rw [slotEntries, entries_unstamp, List.filter_map]
  rfl

/-- The groups of a page are the same but for memberships. -/
theorem groups_unstamp : page.unstamp.groups = page.groups.map Group.unstamp := by
  have each : (Slot.all.map fun slot => Group.mk slot (page.unstamp.slotEntries slot)) =
      (Slot.all.map fun slot => Group.mk slot (page.slotEntries slot)).map Group.unstamp := by
    rw [List.map_map]
    simp only [slotEntries_unstamp]
    rfl
  rw [groups, each, List.filter_map]
  congr 2
  funext group
  exact congrArg (!·) List.isEmpty_map

/-- Grouping a page ends in the same way whatever the memberships are. -/
theorem group_unstamp : page.unstamp.group = page.group.map (List.map Group.unstamp) := by
  have misplaced : page.unstamp.firstMisplaced? = page.firstMisplaced?.map Component.unstamp := by
    rw [firstMisplaced?, components_unstamp, List.find?_map]
    rfl
  rw [group, misplaced, groups_unstamp, group]
  cases page.firstMisplaced? <;> rfl

end Page

/-! ## Plans -/

theorem Group.biggest_unstamp (groups : List Group) :
    biggest (groups.map unstamp) = biggest groups := by
  rw [biggest, List.map_map, biggest]
  congr 2
  funext group
  exact List.length_map _

theorem Group.bind_unstamp (group : Group) (page : Page) (i : Nat) (settings : CompileSettings)
    (biggest : Nat) :
    group.unstamp.bind page.unstamp i settings biggest = group.bind page i settings biggest := by
  rw [bind, unstamp, List.zipIdx_map, List.mapM_map, List.length_map]
  rfl

theorem Group.summary_unstamp (group : Group) : group.unstamp.summary = group.summary := by
  rw [summary, unstamp, List.map_map]
  rfl

/-- The plan of a page does not depend on memberships. -/
theorem Page.compile_unstamp (page : Page) (i : Nat) (settings : CompileSettings) :
    page.unstamp.compile i settings = page.compile i settings := by
  rw [compile, group_unstamp, compile]
  cases page.group with
  | error e => rfl
  | ok groups =>
      simp only [Except.map, bind, Except.bind, Group.biggest_unstamp, List.mapM_map,
        Function.comp_def, Group.bind_unstamp, List.map_map, Group.summary_unstamp]
      rfl

/-- The plan of an article does not depend on memberships. -/
theorem Article.compile_unstamp (article : Article) (settings : CompileSettings) :
    article.unstamp.compile settings = article.compile settings := by
  rw [compile, unstamp, List.zipIdx_map, List.mapM_map, compile]
  simp only [Function.comp_def, Prod.map, Page.compile_unstamp]
  rfl

/-! ## Documents and stylesheets -/

/-- The elements of a group do not depend on memberships. -/
theorem Group.nodes_unstamp (group : Group) (page : Page) (settings : RenderSettings) :
    group.unstamp.nodes page.unstamp settings = group.nodes page settings := by
  rw [nodes, unstamp, List.flatMap_map]
  rfl

/-- The elements of a page do not depend on memberships. -/
theorem Page.nodes_unstamp (page : Page) (settings : RenderSettings) :
    page.unstamp.nodes settings = page.nodes settings := by
  rw [nodes, group_unstamp, nodes]
  cases page.group with
  | error e => rfl
  | ok groups =>
      simp only [Except.map, bind, Except.bind, List.flatMap_map, Group.nodes_unstamp]
      rfl

/-- The rules of a group do not depend on memberships. -/
theorem Css.groupRules_unstamp (page : Page) (group : Group) :
    groupRules page.unstamp group.unstamp = groupRules page group := by
  rw [groupRules, Group.unstamp, groupRules]
  cases group.entries <;> rfl

/-- The rules of a page do not depend on memberships. -/
theorem Page.css_unstamp (page : Page) : page.unstamp.css = page.css := by
  have rules : page.unstamp.rules = page.rules := by
    rw [Page.rules, group_unstamp, Page.rules]
    cases page.group with
    | error e => rfl
    | ok groups =>
        simp only [Except.map, bind, Except.bind, List.flatMap_map, Css.groupRules_unstamp]
        rfl
  rw [css, rules, css]

namespace Article

variable (article : Article)

/-- The document does not depend on memberships. -/
theorem html_unstamp (settings : RenderSettings) :
    article.unstamp.html settings = article.html settings := by
  have pages : article.unstamp.pages.mapM (·.nodes settings) =
      article.pages.mapM (·.nodes settings) := by
    rw [unstamp, List.mapM_map]
    simp only [Function.comp_def, Page.nodes_unstamp]
  rw [html, nodes, pages, html, nodes]
  rfl

/-- The stylesheet does not depend on memberships. -/
theorem stylesheet_unstamp (settings : RenderSettings) :
    article.unstamp.stylesheet settings = article.stylesheet settings := by
  have pages : article.unstamp.pagesCss = article.pagesCss := by
    rw [pagesCss, unstamp, List.mapM_map, pagesCss]
    simp only [Function.comp_def, Page.css_unstamp]
  rw [stylesheet, pages, stylesheet]

/-! ## Bundles -/

/-- The statistics do not depend on memberships. -/
theorem statistics_unstamp (plan : Plan) :
    Statistics.of article.unstamp plan = Statistics.of article plan := by
  have components : article.unstamp.components = article.components.map Component.unstamp := by
    rw [Article.components, unstamp, List.flatMap_map, Article.components, List.map_flatMap]
    simp only [Page.components_unstamp]
  have frames : (article.unstamp.pages.flatMap Page.frames).length =
      (article.pages.flatMap Page.frames).length := by
    rw [unstamp, List.flatMap_map, List.length_flatMap, List.length_flatMap]
    simp only [Page.unstamp, List.length_map]
  rw [Statistics.of, components, frames, List.countP_map, List.countP_map, unstamp,
    List.length_map]
  rfl

/-- The bundle of artifacts does not depend on memberships. -/
theorem render_unstamp (compileSettings : CompileSettings) (settings : RenderSettings) :
    article.unstamp.render compileSettings settings = article.render compileSettings settings := by
  rw [render, compile_unstamp, render]
  simp only [renderPlan, html_unstamp, stylesheet_unstamp, statistics_unstamp]
  rfl

/-- The program does not depend on memberships. -/
theorem program_unstamp (compileSettings : CompileSettings) (settings : RenderSettings) :
    article.unstamp.program compileSettings settings =
      article.program compileSettings settings := by
  rw [program, compile_unstamp, program]

/-! ## Articles that differ in membership -/

/-- The result of a validation does not depend on the memberships given before. -/
theorem validate_unstamp (settings : ParseSettings) :
    article.unstamp.validate settings = article.validate settings := by
  rw [validate, firstError?, findings_unstamp, stamp_unstamp]
  rfl

theorem toJson_unstamp : article.unstamp.toJson = article.toJson := by
  rw [← toJson_stamp, stamp_unstamp, toJson_stamp]

/-- **Membership is not looked at.** Stamping tells every component the page and the frame where it
stands, changes nothing else, and makes no difference the second time. Two articles that differ in
nothing but where their components say that they stand are validated to the same result, have the
same plan, the same artifacts with the same statistics, and the same JSON text. -/
theorem membership_unseen :
    (∀ article : Article, article.stamp.StampOf article ∧ article.stamp.stamp = article.stamp) ∧
    ∀ one other : Article, one.unstamp = other.unstamp →
      (∀ settings, one.validate settings = other.validate settings) ∧
      (∀ settings, one.compile settings = other.compile settings) ∧
      (∀ settings, one.html settings = other.html settings) ∧
      (∀ settings, one.stylesheet settings = other.stylesheet settings) ∧
      (∀ compileSettings settings,
        one.program compileSettings settings = other.program compileSettings settings) ∧
      (∀ compileSettings settings,
        one.render compileSettings settings = other.render compileSettings settings) ∧
      ∀ format, one.toJson.text format = other.toJson.text format := by
  refine ⟨fun article => ⟨stampOf_stamp article, (stampOf_stamp article).stamp_eq_self⟩,
    fun one other same => ?_⟩
  refine ⟨fun settings => ?_, fun settings => ?_, fun settings => ?_, fun settings => ?_,
    fun compileSettings settings => ?_, fun compileSettings settings => ?_, fun format => ?_⟩
  · rw [← validate_unstamp one, same, validate_unstamp]
  · rw [← compile_unstamp one, same, compile_unstamp]
  · rw [← html_unstamp one, same, html_unstamp]
  · rw [← stylesheet_unstamp one, same, stylesheet_unstamp]
  · rw [← program_unstamp one, same, program_unstamp]
  · rw [← render_unstamp one, same, render_unstamp]
  · rw [← toJson_unstamp one, same, toJson_unstamp]

/-- An article whose only component says that it stands on another page, far behind. -/
def mislabelled : Article :=
  let label (c : Component) : Component := { c with membership := ⟨"b", 7, "f9", 3⟩ }
  { onePage "a" "one" with
    pages := (onePage "a" "one").pages.map fun page =>
      { page with frames := page.frames.map fun frame =>
          { frame with components := frame.components.map label } } }

/-- A component that says it stands elsewhere is compiled and written like the one that says
nothing. -/
theorem membership_unseen_mislabelled :
    mislabelled ≠ onePage "a" "one" ∧ mislabelled.unstamp = (onePage "a" "one").unstamp ∧
      (∀ settings, mislabelled.compile settings = (onePage "a" "one").compile settings) ∧
      ∀ format, mislabelled.toJson.text format = (onePage "a" "one").toJson.text format := by
  have same : mislabelled.unstamp = (onePage "a" "one").unstamp := rfl
  obtain ⟨-, compiled, -, -, -, -, written⟩ := membership_unseen.2 _ _ same
  exact ⟨by decide, same, compiled, written⟩

end Article

end ScrollStory
