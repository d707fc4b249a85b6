import ScrollStory.Proofs.Artifact.Pictures
import ScrollStory.Proofs.Storage.Images

/-!
# References to staged images

Staging an image gives a reference that is an address already, so no settings change it, and that
leads from the directory of the article to the file that was written. A component with the reference
as its data is therefore shown from that file
(`ScrollStory.DirectoryStore.staged_reference_leads`).
-/

namespace ScrollStory

open FileTree (IsStep Grown)

/-! ## Addresses of images -/

namespace RenderSettings

variable {data name : String}

/-- A reference with a slash is written as it is. -/
theorem imageSrc_of_slash (slash : '/' ∈ data.toList) (settings : RenderSettings) :
    settings.imageSrc data = data := by
  rw [imageSrc, List.contains_iff_mem.mpr slash, Bool.true_or, if_pos rfl]

/-- A bare name is written behind the base for images, if there is one. -/
theorem imageSrc_of_bare (bare : '/' ∉ name.toList) (settings : RenderSettings) :
    settings.imageSrc name =
      if settings.imageBase = "" then name else settings.imageBase ++ "/" ++ name := by
  have none : name.toList.contains '/' = false := by simpa using bare
  rw [imageSrc, none, Bool.false_or]
  simp only [String.isEmpty_iff]

/-- The address of an image is an address. -/
theorem imageSrc_imageSrc (settings : RenderSettings) (data : String) :
    settings.imageSrc (settings.imageSrc data) = settings.imageSrc data := by
  by_cases slash : '/' ∈ data.toList
  · rw [imageSrc_of_slash slash, imageSrc_of_slash slash]
  · by_cases none : settings.imageBase = ""
    · have same : settings.imageSrc data = data := by rw [imageSrc_of_bare slash, if_pos none]
      rw [same, same]
    · rw [imageSrc_of_bare slash, if_neg none]
      exact imageSrc_of_slash (by simp) settings

/-- A bare name is put behind the base just if there is a base. -/
theorem imageSrc_eq_iff (bare : '/' ∉ name.toList) (settings : RenderSettings) :
    settings.imageSrc name = settings.imageBase ++ "/" ++ name ↔ settings.imageBase ≠ "" := by
  rw [imageSrc_of_bare bare]
  constructor
  · intro same none
    rw [if_pos none, none] at same
    have slash : '/' ∈ name.toList := by
      rw [same]
      simp
    exact bare slash
  · exact fun some => if_neg some

end RenderSettings

/-! ## The way of a reference -/

/-- A path goes on along two names with a slash between them as it does along one and the other. -/
theorem Path.join_ofText {name other : String} (step : IsStep name) (bare : '/' ∉ other.toList)
    (path : Path) : path.join (.ofText (name ++ "/" ++ other)) = (path.child name).child other := by
  have split : Text.split '/' (name ++ "/" ++ other) = [name, other] := by
    have chars : (name ++ "/" ++ other).toList = name.toList ++ '/' :: other.toList := by simp
    rw [Text.split, chars, Text.pieces_append step.noSlash, Text.pieces_of_not_mem bare]
    simp
  have relative : (ofText (name ++ "/" ++ other)).isAbsolute = false := by
    rw [isAbsolute, ofText, split]
    split
    · rename_i empty
      exact (step.ne_empty (List.cons.inj empty).1).elim
    · rfl
  have names : ((path.child name).child other).names = path.openNames ++ [name, other] := by
    rw [names_child bare, FileTree.openNames_child step, names_child step.noSlash,
      List.append_assoc]
    rfl
  rw [join, relative, if_neg Bool.false_ne_true, ofText, split, ← names]

namespace DirectoryStore

variable {store : DirectoryStore} {articleId fileName reference : String} {content : ByteArray}
  {tree after : FileTree}

/-- The reference to an image leads from the article's directory to the file. -/
theorem join_imageReference (step : IsStep fileName) :
    (store.articleDirectory articleId).join (.ofText (imageReference fileName)) =
      (store.imageDirectory articleId).child fileName := by
  have images : IsStep "images" := ⟨by decide, rfl⟩
  have start : "images/" = "images" ++ "/" := by decide
  rw [imageReference, start, Path.join_ofText images step.noSlash]
  rfl

/-- The document of an article stands in the article's directory. -/
theorem parent_htmlPath (step : IsStep articleId) :
    (store.artifactPath articleId .html).parent = store.articleDirectory articleId := by
  have index : IsStep "index.html" := ⟨by decide, rfl⟩
  exact FileTree.parent_child step index store.root

/-- What a reference to a staged image is good for. -/
structure Refers (store : DirectoryStore) (articleId fileName : String) (content : ByteArray)
    (reference : String) (tree after : FileTree) : Prop where
  /-- No settings change the reference. -/
  address : ∀ settings : RenderSettings, settings.imageSrc reference = reference
  /-- From the directory of the article it leads to the path of the image. -/
  path : (store.articleDirectory articleId).join (.ofText reference) =
    (store.imageDirectory articleId).child fileName
  /-- The content has been written there. -/
  file : after.read ((store.articleDirectory articleId).join (.ofText reference)) = some content
  /-- Nothing has been written anywhere else. -/
  elsewhere : ∀ location,
    after.locate ((store.articleDirectory articleId).join (.ofText reference)) ≠ some location →
      Grown location tree after
  /-- Components with the reference as their data are shown from an address that leads to the image
  from the directory of the document. -/
  shown : ∀ (article : Article) (settings : RenderSettings) (document : String),
    article.html settings = .ok document → ∀ page ∈ article.pages, ∀ c ∈ page.components,
      c.isImage = true → c.image.bind Image.data = some reference →
        ∃ address, c.ShownFrom address document ∧
          (store.artifactPath articleId .html).parent.join (.ofText address) =
            (store.imageDirectory articleId).child fileName

/-- The reference to an image that has been staged is good for finding it. -/
theorem refers_of_stage
    (run : (store.stage articleId fileName content : StateM FileTree _).run tree =
      (.ok reference, after)) :
    store.Refers articleId fileName content reference tree after := by
  obtain ⟨article, named, rfl, between, making, creating⟩ := of_stage run
  have step := (plain_of_checkName article).step
  have step' := (plain_of_checkName named).step
  have address (settings : RenderSettings) :
      settings.imageSrc (imageReference fileName) = imageReference fileName :=
    RenderSettings.imageSrc_of_slash (by simp [imageReference]) settings
  have path := @join_imageReference store articleId fileName step'
  obtain ⟨-, grown, -⟩ := FileTree.of_makeDirectories making
  obtain ⟨location, located, keeps, arrived, others⟩ := FileTree.of_created creating
  have located := keeps.locate located
  refine ⟨address, path, ?_, fun other apart => ?_, ?_⟩
  · rw [path, FileTree.read, FileTree.find?, located, Option.bind_some, arrived]
  · rw [path, located] at apart
    have same := others other fun same => apart (congrArg some same.symm)
    exact (grown other).trans (.inl same)
  · intro article settings document written page listed c member image given
    refine ⟨_, article.shows_image written listed member image, ?_⟩
    rw [Component.address, given, Option.getD_some, address, parent_htmlPath step, path]

/-- **References lead to staged images.** If an image is staged, the reference that is given for it
leads from the directory of the article, and from the address at which a document shows it, to the
file that was written. Addresses of images are fixed by all settings, and a bare name becomes one
behind the base just if there is a base. -/
theorem staged_reference_leads (store : DirectoryStore) (articleId fileName reference : String)
    (content : ByteArray) (tree after : FileTree) :
    ((store.stage articleId fileName content : StateM FileTree _).run tree =
        (.ok reference, after) →
      store.Refers articleId fileName content reference tree after) ∧
    ∀ settings : RenderSettings,
      (∀ data, settings.imageSrc (settings.imageSrc data) = settings.imageSrc data) ∧
      ∀ name : String, '/' ∉ name.toList →
        (settings.imageSrc name = settings.imageBase ++ "/" ++ name ↔ settings.imageBase ≠ "") :=
  ⟨refers_of_stage, fun settings => ⟨settings.imageSrc_imageSrc, fun _ bare =>
    RenderSettings.imageSrc_eq_iff bare settings⟩⟩

/-- An image component. -/
def picture (data : String) : Component := .ofImage "one" .center "fade" { data := some data }

/-- An article with one image. -/
def pictured (data : String) : Article where
  id := "story"
  pages := [{
    id := "a"
    pinnable := true
    layout := { template := .single }
    frames := [{ id := "f1", components := [picture data] }] }]

/-- The name of a file with characters that need entities, and one that takes more than a byte. -/
def quotedName : String := "Tom & 'Jerry' \"é\" <1>.png"

/-- A file whose name has to be escaped is found from the document. -/
theorem staged_reference_leads_quoted :
    ∃ after document address,
      (stage { root := .ofText "site" } "story" quotedName ⟨#[80, 54]⟩ :
        StateM FileTree _).run {} = (.ok ("images/" ++ quotedName), after) ∧
      Refers { root := .ofText "site" } "story" quotedName ⟨#[80, 54]⟩ ("images/" ++ quotedName)
        {} after ∧
      (pictured ("images/" ++ quotedName)).html {} = .ok document ∧
      (picture ("images/" ++ quotedName)).ShownFrom address document ∧
      (artifactPath { root := .ofText "site" } "story" .html).parent.join (.ofText address) =
        (imageDirectory { root := .ofText "site" } "story").child quotedName := by
  have run : (stage { root := .ofText "site" } "story" quotedName ⟨#[80, 54]⟩ :
      StateM FileTree _).run {} = (.ok ("images/" ++ quotedName), _) := rfl
  have refers := (staged_reference_leads _ _ _ _ _ _ _).1 run
  have written : (pictured ("images/" ++ quotedName)).html {} = .ok _ := rfl
  obtain ⟨address, shown, leads⟩ := refers.shown _ _ _ written _ List.mem_cons_self
    (picture ("images/" ++ quotedName)) List.mem_cons_self rfl rfl
  exact ⟨_, _, address, run, refers, written, shown, leads⟩

end DirectoryStore

end ScrollStory
