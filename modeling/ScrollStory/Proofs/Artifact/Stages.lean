import ScrollStory.Artifact.Bundle
import ScrollStory.Proofs.Plan.Faults

/-!
# Stages that fail together

The document and the stylesheet of an article fail with the same error, that of the first page with
a misplaced component. The program and the bundle fail with the error of the plan, and with a plan
there is no error left for any stage to report (`ScrollStory.Article.stages_fail_together`).
-/

namespace ScrollStory

/-- Computations that fail in the same way fail with the same errors. -/
theorem error_iff_of_failure? {ε α β : Type} {one : Except ε α} {other : Except ε β}
    (same : failure? one = failure? other) (e : ε) : one = .error e ↔ other = .error e := by
  rw [← failure?_eq_some, same, failure?_eq_some]

namespace Page

/-- The section of a page fails to be made just if its components cannot be grouped, and with the
same error. -/
theorem failure?_nodes (page : Page) (settings : RenderSettings) :
    failure? (page.nodes settings) = failure? page.group :=
  failure?_bind_ok _ _

/-- The rules of a page fail to be made just if its components cannot be grouped, and with the same
error. -/
theorem failure?_css (page : Page) : failure? page.css = failure? page.group := by
  have rules : failure? page.rules = failure? page.group := by
    rw [Page.rules]
    cases Css.layoutRules? page with
    | none => exact failure?_bind_ok _ _
    | some layout => exact failure?_bind_ok _ _
  exact (failure?_bind_ok _ _).trans rules

end Page

namespace Article

/-- The error of the first page with a misplaced component. -/
def placeFault? (article : Article) : Option Error :=
  article.pages.findSome? fun page => failure? page.group

/-- A document fails to be made with the error of the first page with a misplaced component. -/
theorem failure?_html (article : Article) (settings : RenderSettings) :
    failure? (article.html settings) = article.placeFault? := by
  rw [html, failure?_bind_ok, nodes, failure?_bind_ok, failure?_mapM]
  simp only [Page.failure?_nodes]
  rfl

/-- A stylesheet fails to be made with the error of the first page with a misplaced component. -/
theorem failure?_stylesheet (article : Article) (settings : RenderSettings) :
    failure? (article.stylesheet settings) = article.placeFault? := by
  rw [stylesheet, failure?_bind_ok, pagesCss, failure?_bind_ok, failure?_mapM]
  simp only [Page.failure?_css]
  rfl

variable {article : Article} {e : Error}

/-- The error about misplaced components is that of grouping the first page that has one. -/
theorem placeFault?_eq_some_iff :
    article.placeFault? = some e ↔
      ∃ page, First (fun page => ¬page.Placed) article.pages page ∧ page.group = .error e := by
  rw [placeFault?, findSome?_eq_some_iff_first (p := fun page : Page => ¬page.Placed)
    fun page => by rw [not_not, Page.placed_iff_failure?]]
  simp only [failure?_eq_some]

/-- Compiling looks at the places of components too. -/
theorem placeFault?_of_compile {settings : CompileSettings} {plan : Plan}
    (compiled : article.compile settings = .ok plan) : article.placeFault? = none := by
  have none := failure?_eq_none.mpr ⟨plan, compiled⟩
  rw [failure?_compile, List.findSome?_eq_none_iff] at none
  refine List.findSome?_eq_none_iff.mpr fun page member => ?_
  rw [Page.failure?_group]
  exact (Option.or_eq_none_iff.mp (none page member)).1

/-- An article with a plan has all of its artifacts. -/
theorem exists_artifacts {compileSettings : CompileSettings} {plan : Plan}
    (compiled : article.compile compileSettings = .ok plan) (settings : RenderSettings) :
    ∃ html stylesheet, article.html settings = .ok html ∧
      article.stylesheet settings = .ok stylesheet ∧
      article.renderPlan plan settings =
        .ok ⟨article.id, html, stylesheet, plan.program settings, .of article plan⟩ := by
  have none := placeFault?_of_compile compiled
  obtain ⟨html, written⟩ := failure?_eq_none.mp ((article.failure?_html settings).trans none)
  obtain ⟨stylesheet, styled⟩ :=
    failure?_eq_none.mp ((article.failure?_stylesheet settings).trans none)
  refine ⟨html, stylesheet, written, styled, ?_⟩
  rw [renderPlan, written, styled]
  rfl

/-- The artifacts fail to be made just if the article does not compile, and with the same error. -/
theorem failure?_render (article : Article) (compileSettings : CompileSettings)
    (settings : RenderSettings) :
    failure? (article.render compileSettings settings) =
      failure? (article.compile compileSettings) := by
  rw [render, failure?_bind]
  cases compiled : article.compile compileSettings with
  | error e => rfl
  | ok plan =>
      obtain ⟨html, stylesheet, _, _, made⟩ := exists_artifacts compiled settings
      rw [Except.toOption, Option.bind_some, made]
      rfl

/-- The program fails to be made just if the article does not compile, and with the same error. -/
theorem failure?_program (article : Article) (compileSettings : CompileSettings)
    (settings : RenderSettings) :
    failure? (article.program compileSettings settings) =
      failure? (article.compile compileSettings) :=
  failure?_bind_ok _ _

/-- The document and the stylesheet fail together, with the error of the first page that has a
misplaced component. The bundle and the program fail together with the plan, and neither they nor
the document and the stylesheet fail when there is one. -/
theorem stages_fail_together (article : Article) (compileSettings : CompileSettings)
    (settings : RenderSettings) :
    (∀ e, article.html settings = .error e ↔
      ∃ page, First (fun page => ¬page.Placed) article.pages page ∧ page.group = .error e) ∧
    (∀ e, article.html settings = .error e ↔ article.stylesheet settings = .error e) ∧
    (∀ plan, article.compile compileSettings = .ok plan →
      ∃ html stylesheet, article.html settings = .ok html ∧
        article.stylesheet settings = .ok stylesheet ∧
        article.renderPlan plan settings =
          .ok ⟨article.id, html, stylesheet, plan.program settings, .of article plan⟩) ∧
    (∀ e, article.render compileSettings settings = .error e ↔
      article.compile compileSettings = .error e) ∧
    (∀ e, article.compile compileSettings = .error e ↔
      article.program compileSettings settings = .error e) := by
  refine ⟨fun e => ?_, error_iff_of_failure? ?_, fun plan compiled =>
    exists_artifacts compiled settings, error_iff_of_failure? ?_, error_iff_of_failure? ?_⟩
  · rw [← failure?_eq_some, failure?_html, placeFault?_eq_some_iff]
  · rw [failure?_html, failure?_stylesheet]
  · exact article.failure?_render compileSettings settings
  · exact (article.failure?_program compileSettings settings).symm

end Article

end ScrollStory
