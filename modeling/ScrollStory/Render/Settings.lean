import ScrollStory.Css.Rule
import ScrollStory.Text.Blank

/-!
# Settings of the renderer

What goes into the artifacts beside the article: the usual title, where images and libraries come
from, the element that scrolls, and the fixed parts of the stylesheet and the program.
-/

namespace ScrollStory

/-- The rules in front of every stylesheet. -/
def baseRules : List Css.Rule :=
  [ ⟨.general "*", [("box-sizing", "border-box")]⟩,
    ⟨.general "html,\nbody",
      [("margin", "0"), ("padding", "0"),
        ("font-family",
          "-apple-system, BlinkMacSystemFont, \"Segoe UI\", Roboto, \"Helvetica Neue\", Arial, " ++
            "sans-serif"),
        ("line-height", "1.5"), ("color", "#1a1a1a"), ("background-color", "#fff")]⟩,
    ⟨.general "section", [("position", "relative"), ("width", "100%"), ("min-height", "100vh")]⟩,
    ⟨.general "figure", [("margin", "0")]⟩,
    ⟨.general "figure img", [("display", "block"), ("max-width", "100%")]⟩,
    ⟨.general "figcaption",
      [("margin-top", "8px"), ("font-size", "0.875rem"), ("color", "#555"),
        ("text-align", "center")]⟩ ]

/-- The lines in front of every program: they register the scroll plugin. -/
def bootstrapLines : List String :=
  [ "if (typeof gsap !== \"undefined\" && typeof ScrollTrigger !== \"undefined\") \x7b",
    "    gsap.registerPlugin(ScrollTrigger);",
    "\x7d else \x7b",
    "    console.error(\"GSAP or ScrollTrigger not found. Please check script includes.\");",
    "\x7d" ]

/-- The libraries that the program needs. -/
def usualLibraries : List String :=
  [ "https://cdnjs.cloudflare.com/ajax/libs/gsap/3.12.5/gsap.min.js",
    "https://cdnjs.cloudflare.com/ajax/libs/gsap/3.12.5/ScrollTrigger.min.js" ]

/-- Settings of the renderer. -/
structure RenderSettings where
  /-- The title of an article without one. -/
  titleFallback : String := "My Animated Website"
  /-- The directory or address of images that are given by a bare name. -/
  imageBase : String := "images"
  libraryScripts : List String := usualLibraries
  stylesheetHref : String := "css/styles.css"
  scriptHref : String := "js/animation.js"
  /-- The class of the element that scrolls, if it is not the document. -/
  scrollerClass : Option String := some "scroller"
  baseStylesheet : String := "\n".intercalate (baseRules.map Css.Rule.text)
  bootstrapScript : String := String.join (bootstrapLines.map (· ++ "\n"))
  deriving DecidableEq, Repr

namespace RenderSettings

/-- A string without slashes at its end. -/
def withoutSlashes (s : String) : String :=
  Text.trimEnd (· = '/') s

/-- Sets the usual title. -/
def withTitleFallback (settings : RenderSettings) (title : String) : RenderSettings :=
  { settings with titleFallback := title }

/-- Sets where images come from. -/
def withImageBase (settings : RenderSettings) (base : String) : RenderSettings :=
  { settings with imageBase := withoutSlashes base }

/-- Sets the libraries. -/
def withLibraryScripts (settings : RenderSettings) (scripts : List String) : RenderSettings :=
  { settings with libraryScripts := scripts }

/-- The address of a library on a mirror. Only secure addresses are mirrored. -/
def mirrored (mirror url : String) : String :=
  let scheme := "https://".toList
  if scheme.isPrefixOf url.toList then
    mirror ++ "/" ++ String.ofList (url.toList.drop scheme.length)
  else url

/-- Has the libraries taken from a mirror. -/
def withCdnMirror (settings : RenderSettings) (mirror : String) : RenderSettings :=
  { settings with
    libraryScripts := settings.libraryScripts.map (mirrored (withoutSlashes mirror)) }

/-- Sets the class of the element that scrolls; points in front of it do not count. -/
def withScrollerClass (settings : RenderSettings) (name : String) : RenderSettings :=
  { settings with scrollerClass := some (Text.trimStart (· = '.') name) }

/-- Has the document scroll. -/
def withoutScroller (settings : RenderSettings) : RenderSettings :=
  { settings with scrollerClass := none }

/-- Sets the fixed part of the stylesheet. -/
def withBaseStylesheet (settings : RenderSettings) (css : String) : RenderSettings :=
  { settings with baseStylesheet := css }

/-- Sets the fixed part of the program. -/
def withBootstrapScript (settings : RenderSettings) (js : String) : RenderSettings :=
  { settings with bootstrapScript := js }

/-- The selector of the element that scrolls. -/
def scrollerSelector? (settings : RenderSettings) : Option String :=
  settings.scrollerClass.map ("." ++ ·)

/-- The address of an image. Data with a slash in it is an address already. -/
def imageSrc (settings : RenderSettings) (data : String) : String :=
  if data.toList.contains '/' || settings.imageBase.isEmpty then data
  else settings.imageBase ++ "/" ++ data

/-- The title of a document. -/
def titleFor (settings : RenderSettings) (title : String) : String :=
  if Text.isBlankString title then settings.titleFallback else title

end RenderSettings

end ScrollStory
