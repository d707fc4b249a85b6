import ScrollStory.Artifact.Bundle
import ScrollStory.Decimal.Basic

/-!
# Summaries

What the program shows of an article that it has checked: the article, its pages with their slots,
and statistics, in lines.
-/

namespace ScrollStory

namespace CommandLine

/-- The rule below a heading. -/
def headingRule : String := String.ofList (List.replicate 40 '─')

/-- The lines of a heading. -/
def headingLines (heading : String) : List String := [heading, headingRule]

/-- The mark of an item that others follow. -/
def branch : String := "├─"

/-- The mark of a last item. -/
def lastBranch : String := "└─"

/-- The line on a number. -/
def countLine (label : String) (n : Nat) : String := label ++ ": " ++ Note.count n

/-- The line on a slot. -/
def slotLine (summary : SlotSummary) : String :=
  "  " ++ branch ++ " " ++ summary.slot.name ++ ": " ++ ", ".intercalate summary.componentIds

/-- How a page is held. -/
def holdText (page : Page) (plan : PagePlan) : String :=
  match plan.pin with
  | some pin =>
    Note.count plan.triggerCount ++ " triggers, pinned for " ++ Note.count pin.distance ++ "%"
  | none => if page.pinnable then "pinned" else "static"

/-- The lines on a page. -/
def pageLines (page : Page) (plan : PagePlan) : List String :=
  ("Page " ++ page.id ++ " (" ++ page.layout.template.name ++ ", " ++
      Note.count page.frames.length ++ " frames)") ::
    plan.slots.map slotLine ++ ["  " ++ lastBranch ++ " " ++ holdText page plan]

/-- The lines on the numbers of an article. -/
def statisticsLines (statistics : Statistics) : List String :=
  [ countLine "Pages" statistics.pages,
    countLine "Pinned" statistics.pinnedPages,
    countLine "Frames" statistics.frames,
    countLine "Text" statistics.texts,
    countLine "Images" statistics.images,
    countLine "Triggers" statistics.triggers ]

/-- The lines on an article with its file, its plan and its statistics. -/
def summaryLines (file : String) (article : Article) (plan : Plan) (statistics : Statistics) :
    List String :=
  headingLines "Article" ++
    ["File: " ++ file, "Id: " ++ article.id] ++
    (if article.title.isEmpty then [] else ["Title: " ++ article.title]) ++
    "" :: headingLines "Pages" ++
    (article.pages.zip plan.pages).flatMap (fun (page, plan) => pageLines page plan) ++
    "" :: headingLines "Statistics" ++ statisticsLines statistics ++
    ["", "OK"]

/-- The lines on stored artifacts. -/
def locationLines : List String → List String
  | [] => []
  | [location] => ["  " ++ lastBranch ++ " " ++ location]
  | location :: rest => ("  " ++ branch ++ " " ++ location) :: locationLines rest

end CommandLine

end ScrollStory
