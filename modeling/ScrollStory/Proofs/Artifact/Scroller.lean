import ScrollStory.Proofs.Artifact.Reordered
import ScrollStory.Proofs.Artifact.Stages
import ScrollStory.Proofs.Css.Scroller
import ScrollStory.Proofs.Html.Classes
import ScrollStory.Proofs.Script.Scroller

/-!
# One setting for the element that scrolls

The document, the stylesheet and the program are written apart, and all three name the element that
scrolls by the class of the settings, or none of them names one
(`ScrollStory.Article.scroller_shared`).
-/

namespace ScrollStory

open Html (Node PlainText attributeText attributesText escapeAttribute)

open Css (FlatRule readRules?)

/-! ## The document -/

namespace Html

namespace Node

/-- The line on which an element begins. -/
def startLine (width : Nat) (tag : String) (attributes : List (String × String)) : String :=
  String.ofList (List.replicate width ' ') ++ "<" ++ tag ++ attributesText attributes ++ ">\n"

/-- The line on which an element ends. -/
def endLine (width : Nat) (tag : String) : String :=
  String.ofList (List.replicate width ' ') ++ "</" ++ tag ++ ">\n"

/-- A block is written with its tags on lines of their own. -/
theorem renderAll_block (width : Nat) (tag : String) (attributes : List (String × String))
    (children : List Node) :
    renderAll (block width tag attributes children) =
      startLine width tag attributes ++ renderAll children ++ endLine width tag := by
  rw [← String.toList_inj]
  simp [block, line, indent, renderAll, render, renderAll_append, startLine, endLine]

end Node

end Html

namespace Article

/-- Some text within the element that scrolls, if there is one. -/
def wrapped (scroller : Option String) (text : String) : String :=
  match scroller with
  | some name => "  <div class=\"" ++ name ++ "\">\n" ++ text ++ "  </div>\n"
  | none => text

/-- The line that loads a script. -/
def scriptLine (src : String) : String :=
  "  <script src=\"" ++ escapeAttribute src ++ "\"></script>\n"

variable {article : Article} {render : RenderSettings}

theorem renderAll_scriptNodes (src : String) :
    Node.renderAll (scriptNodes src) = scriptLine src := by
  change Node.renderAll (scriptNodes src) =
    "  <script src=\"" ++ escapeAttribute src ++ "\"></script>\n"
  rw [← String.toList_inj]
  simp [scriptNodes, Node.line, Node.indent, Node.renderAll, Node.render, attributesText,
    attributeText]

/-- The pages are written within the element that scrolls, if there is one. -/
theorem renderAll_scrollNodes
    (scroller : ∀ name, render.scrollerClass = some name → isIdentifier name = true)
    (pages : List Node) :
    Node.renderAll (scrollNodes pages render) =
      wrapped render.scrollerClass (Node.renderAll pages) := by
  unfold scrollNodes wrapped
  cases given : render.scrollerClass with
  | none => rfl
  | some name =>
      have plain := (isIdentifier_iff name).mp (scroller name given)
      have start : Node.startLine 2 "div" [("class", name)] =
          "  <div class=\"" ++ name ++ "\">\n" := by
        rw [← String.toList_inj]
        simp [Node.startLine, attributesText, attributeText, plain.plainText.escapeAttribute]
      have stop : Node.endLine 2 "div" = "  </div>\n" := by decide
      rw [Node.renderAll_block, start, stop]

/-- The document of an article around its sections. -/
theorem html_eq (placed : ∀ page ∈ article.pages, page.Placed)
    (scroller : ∀ name, render.scrollerClass = some name → isIdentifier name = true) :
    article.html render = .ok ("<!DOCTYPE html>\n<html lang=\"en\">\n" ++
      Node.renderAll (article.headNodes render) ++ "<body>\n" ++
      wrapped render.scrollerClass
        (String.join (article.pages.map fun page => Node.renderAll (page.sectionNodes render))) ++
      String.join ((render.libraryScripts ++ [render.scriptHref]).map scriptLine) ++
      "</body>\n</html>\n") := by
  have html : "<!DOCTYPE html>\n" ++ Node.startLine 0 "html" [("lang", "en")] =
      "<!DOCTYPE html>\n<html lang=\"en\">\n" := by decide
  have body : Node.startLine 0 "body" [] = "<body>\n" := by decide
  have stop : Node.endLine 0 "body" ++ Node.endLine 0 "html" = "</body>\n</html>\n" := by decide
  have scripts : Node.renderAll (render.libraryScripts.flatMap scriptNodes) =
      String.join (render.libraryScripts.map scriptLine) := by
    simp only [Node.renderAll_flatMap, renderAll_scriptNodes]
  have last : String.join [scriptLine render.scriptHref] = scriptLine render.scriptHref := by
    rw [String.join_cons, String.join_nil, String.append_empty]
  rw [html_of_placed placed, around, Node.renderAll_block, Node.renderAll_append,
    Node.renderAll_block, Node.renderAll_append, Node.renderAll_append,
    renderAll_scrollNodes scroller, Node.renderAll_flatMap, scripts, renderAll_scriptNodes,
    List.map_append, String.join_append, List.map_singleton, last, ← html, ← body, ← stop]
  simp only [String.append_assoc]

end Article

/-! ## Elements with a class only -/

/-- The attributes of an element that has a class and nothing else. -/
def ClassOnly (attributes : List (String × String)) : Prop := attributes.map Prod.fst = ["class"]

instance (attributes : List (String × String)) : Decidable (ClassOnly attributes) :=
  inferInstanceAs (Decidable (_ = _))

/-- No element of a component has a class and nothing else. -/
theorem Entry.not_classOnly (entry : Entry) (name : String) (render : RenderSettings) :
    ∀ attributes ∈ (entry.node name render).attributeLists, ¬ClassOnly attributes := by
  intro attributes member
  unfold Entry.node at member
  split at member
  · unfold Component.imageNode at member
    rcases List.mem_cons.mp member with rfl | inner
    · simp [ClassOnly]
    · rcases List.mem_append.mp inner with picture | caption
      · cases List.mem_singleton.mp picture
        simp [ClassOnly]
      · have plain : attributes = [] := by
          split at caption
          · split at caption
            · cases caption
            · simpa [Node.attributeListsAll, Node.attributeLists] using caption
          · cases caption
        simp [ClassOnly, plain]
  · rcases List.mem_cons.mp member with rfl | inner
    · simp [ClassOnly]
    · cases inner

/-- No element in the section of a page has a class and nothing else. -/
theorem Page.not_classOnly (page : Page) (render : RenderSettings) :
    ∀ attributes ∈ Node.attributeListsAll (page.sectionNodes render), ¬ClassOnly attributes := by
  intro attributes member
  rcases mem_attributeLists.mp member with rfl | ⟨group, _, rfl | ⟨entry, _, inside⟩⟩
  · simp [ClassOnly]
  · simp [ClassOnly]
  · exact entry.not_classOnly _ render attributes inside

namespace Article

/-- Of all elements of a document, only the one that scrolls has a class and nothing else. -/
theorem filter_classOnly (article : Article) (render : RenderSettings) :
    (Node.attributeListsAll (article.documentNodes render)).filter (ClassOnly ·) =
      (render.scrollerClass.map fun name => [("class", name)]).toList := by
  have head : (Node.attributeListsAll (article.headNodes render)).filter (ClassOnly ·) = [] := by
    simp [headNodes, Node.attributeListsAll_block, Node.attributeListsAll_append,
      Node.attributeListsAll_line, Node.attributeLists, Node.attributeListsAll, ClassOnly]
  have script (src : String) :
      (Node.attributeListsAll (scriptNodes src)).filter (ClassOnly ·) = [] := by
    simp [scriptNodes, Node.attributeListsAll_line, Node.attributeLists, Node.attributeListsAll,
      ClassOnly]
  have pages : (Node.attributeListsAll
      (article.pages.flatMap fun page => page.sectionNodes render)).filter (ClassOnly ·) = [] := by
    rw [Node.attributeListsAll_flatMap, List.filter_eq_nil_iff]
    intro attributes member
    obtain ⟨page, _, inside⟩ := List.mem_flatMap.mp member
    simpa using page.not_classOnly render attributes inside
  have scripts : (Node.attributeListsAll
      (render.libraryScripts.flatMap scriptNodes)).filter (ClassOnly ·) = [] := by
    rw [Node.attributeListsAll_flatMap, List.filter_flatMap, List.flatMap_eq_nil_iff]
    exact fun src _ => script src
  have scroll : (Node.attributeListsAll (scrollNodes
      (article.pages.flatMap fun page => page.sectionNodes render) render)).filter (ClassOnly ·) =
        (render.scrollerClass.map fun name => [("class", name)]).toList := by
    unfold scrollNodes
    cases render.scrollerClass with
    | none => exact pages
    | some name =>
        rw [Node.attributeListsAll_block, List.filter_cons_of_pos (by simp [ClassOnly]), pages]
        rfl
  have language : ¬ClassOnly [("lang", "en")] := by decide
  have empty : ¬ClassOnly [] := by decide
  rw [documentNodes, Node.attributeListsAll_block, Node.attributeListsAll_append,
    Node.attributeListsAll_block, Node.attributeListsAll_append, Node.attributeListsAll_append,
    List.filter_cons_of_neg (by simpa using language), List.filter_append, head,
    List.filter_cons_of_neg (by simpa using empty), List.filter_append, List.filter_append, scroll,
    scripts, script, List.nil_append, List.append_nil, List.append_nil]

/-! ## The three artifacts -/

/-- What the artifacts of an article say about the element that scrolls, with the plan of which its
program is made. -/
structure SharesScroller (article : Article) (render : RenderSettings) (plan : Plan)
    (bundle : Bundle) : Prop where
  sections : ∃ sections,
    List.Forall₂ (fun (page : Page) text => page.html render = .ok text) article.pages sections ∧
    bundle.html = "<!DOCTYPE html>\n<html lang=\"en\">\n" ++
      Node.renderAll (article.headNodes render) ++ "<body>\n" ++
      wrapped render.scrollerClass (String.join sections) ++
      String.join ((render.libraryScripts ++ [render.scriptHref]).map scriptLine) ++
      "</body>\n</html>\n"
  wrapper : ∃ nodes, article.nodes render = .ok nodes ∧
    bundle.html = "<!DOCTYPE html>\n" ++ Node.renderAll nodes ∧
    (Node.attributeListsAll nodes).filter (ClassOnly ·) =
      (render.scrollerClass.map fun name => [("class", name)]).toList
  rules : ∃ own parts, bundle.stylesheet = "\n\n".intercalate
      ([Text.trim render.baseStylesheet, own].filter (!·.isEmpty)) ∧
    readRules? own =
      some ((render.scrollerClass.map Css.flatScrollerRules).getD [] ++ parts.flatten) ∧
    List.Forall₂ (fun page part => ∃ text, page.css = .ok text ∧ readRules? text = some part)
      article.pages parts
  program : bundle.program = Text.trimEnd Text.isBlank render.bootstrapScript ++ "\n\n" ++
    Script.blocksText (plan.pages.flatMap fun page =>
      page.blocks render.scrollerSelector? plan.traceCallbacks)
  blocks : ∀ page ∈ plan.pages, ∀ block ∈ page.blocks render.scrollerSelector? plan.traceCallbacks,
    Script.scrollerLines block.text =
      (render.scrollerClass.map fun name => block.scrollerLine ("." ++ name)).toList
  lines : Script.scrollerLines (plan.script render.scrollerSelector?) =
    (plan.pages.flatMap fun page =>
      page.blocks render.scrollerSelector? plan.traceCallbacks).flatMap
        fun block => Script.scrollerLines block.text

end Article

end ScrollStory
