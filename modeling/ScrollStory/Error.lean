import ScrollStory.Json.Fault

/-!
# Errors

The causes for which an article is refused, cannot be compiled or cannot be stored, and their
wording.
-/

namespace ScrollStory

/-- The two kinds of names that become parts of paths. -/
inductive NameKind where
  | articleId
  | fileName
  deriving DecidableEq, Repr

/-- The words for a kind of names. -/
def NameKind.describe : NameKind → String
  | articleId => "article id"
  | fileName => "file name"

/-- Why something could not be stored. -/
inductive StorageProblem where
  /-- A name cannot be a part of a path. -/
  | invalidName (kind : NameKind) (name : String)
  /-- The store does not take artifacts with this path. -/
  | unavailable (path : String)
  /-- The operating system refused to write the artifacts of an article. -/
  | notStaged (articleId : String)
  /-- What a store of another make reports. -/
  | reported (text : String)
  deriving DecidableEq, Repr

/-- The wording of a problem of storage. -/
def StorageProblem.message : StorageProblem → String
  | invalidName kind name => "invalid " ++ kind.describe ++ ": '" ++ name ++ "'"
  | unavailable path => "storage unavailable for " ++ path
  | notStaged articleId => "failed to stage artifacts for '" ++ articleId ++ "'"
  | reported text => text

/-- Everything that can go wrong. -/
inductive Error where
  /-- The operating system refused to read or write. -/
  | io
  /-- The text of an article is not JSON, or JSON of another shape. -/
  | json (fault : Json.Fault)
  /-- An article breaks a rule at a place in it. -/
  | schema (path detail : String)
  /-- A component stands in a slot that its page's template does not have. -/
  | invalidPosition (componentId position template : String)
  /-- A component has a transition that is not known. -/
  | unknownTransition (componentId name : String)
  /-- An image with this name is there already. -/
  | alreadyExists (name : String)
  | storage (problem : StorageProblem)
  | render (message : String)
  | other (message : String)
  deriving DecidableEq, Repr

namespace Error

/-- The wording of an error. -/
def message : Error → String
  | io => "I/O error"
  | json fault => "Invalid article payload: " ++ fault.message
  | schema path detail => "Schema error at " ++ path ++ ": " ++ detail
  | invalidPosition componentId position template =>
    "Component " ++ componentId ++ ": position '" ++ position ++
      "' is not valid for layout template '" ++ template ++ "'"
  | unknownTransition componentId name =>
    "Component " ++ componentId ++ ": unknown transition '" ++ name ++ "'"
  | alreadyExists name =>
    "An image named '" ++ name ++
      "' already exists for this article, upload it with a different name"
  | storage problem => "Storage error: " ++ problem.message
  | render message => "Rendering error: " ++ message
  | other message => message

/-- Whether the article is to blame. -/
def isInputError : Error → Bool
  | json _ | schema .. | invalidPosition .. | unknownTransition .. => true
  | _ => false

/-- The component to blame. -/
def componentId? : Error → Option String
  | invalidPosition componentId _ _ | unknownTransition componentId _ => some componentId
  | _ => none

/-- Whether the operating system is to blame. -/
def isFromSystem : Error → Bool
  | io | storage (.notStaged _) => true
  | _ => false

end Error

end ScrollStory
