import ScrollStory.Decimal.Basic

/-!
# Notes

What the compiler remarks on while it works. Notes are part of the results; whoever calls decides
whether to show them.
-/

namespace ScrollStory

/-- How much a note matters. -/
inductive Level where
  | warn
  | debug
  deriving DecidableEq, Repr

/-- The name of a level. -/
def Level.name : Level → String
  | warn => "warn"
  | debug => "debug"

/-- A remark of the compiler. -/
inductive Note where
  /-- The identifier of a component does not follow the convention. -/
  | offConvention (componentId pageId : String)
  /-- An article has been read. -/
  | parsed (articleId : String) (pages components : Nat)
  /-- The duration of an animation is not used. -/
  | durationIgnored (componentId : String) (duration : Nat) (used : Decimal)
  /-- A page has been compiled; the distance is zero for a page that is not pinned. -/
  | compiled (pageId : String) (slots triggers distance : Nat)
  /-- A page has a template for which there are no rules. -/
  | noLayoutRules (pageId template : String)
  /-- An article has been rendered; sizes are in bytes. -/
  | rendered (articleId : String) (triggers stylesheetSize programSize : Nat)
  /-- The artifacts of an article are about to be stored. -/
  | committing (articleId sink : String)
  deriving DecidableEq, Repr

namespace Note

/-- A natural number in digits. -/
def count (n : Nat) : String := (Decimal.ofInt n).plain

/-- How much a note matters. -/
def level : Note → Level
  | offConvention .. => .warn
  | _ => .debug

/-- The wording of a remark about an identifier that does not follow the convention. -/
def conventionText (componentId pageId : String) : String :=
  "'" ++ componentId ++ "' does not follow <pageId>-<frameId>-<localId> for page '" ++ pageId ++ "'"

/-- The wording of a note. -/
def text : Note → String
  | offConvention componentId pageId => "Component id " ++ conventionText componentId pageId
  | parsed articleId pages components =>
    "Parsed article '" ++ articleId ++ "': " ++ count pages ++ " pages, " ++ count components ++
      " components"
  | durationIgnored componentId duration used =>
    "Component " ++ componentId ++ ": duration " ++ count duration ++
      "ms ignored, segments last " ++ used.plain ++ "s"
  | compiled pageId slots triggers distance =>
    "Compiled page '" ++ pageId ++ "': " ++ count slots ++ " slots, " ++ count triggers ++
      " triggers, pin " ++ count distance
  | noLayoutRules pageId template =>
    "Page '" ++ pageId ++ "': no layout rules for template '" ++ template ++ "'"
  | rendered articleId triggers stylesheetSize programSize =>
    "Rendered article '" ++ articleId ++ "': " ++ count triggers ++ " triggers, " ++
      count stylesheetSize ++ " bytes of CSS, " ++ count programSize ++ " bytes of JS"
  | committing articleId sink => "Committing article '" ++ articleId ++ "' to " ++ sink ++ " sink"

end Note

end ScrollStory
