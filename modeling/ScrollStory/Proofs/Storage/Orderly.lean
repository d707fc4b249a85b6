import Mathlib.Data.List.Induction
import ScrollStory.Proofs.Storage.Commit
import ScrollStory.Proofs.Storage.Progress

/-!
# Orderly stores

Below the root of a store every place is meant either for a directory or for a file. As long as
whatever is there is what the place is meant for, nothing is ever in the way: artifacts, bundles and
images are stored without an error of the operating system, and the store stays orderly.
-/

namespace ScrollStory

open FileTree (Keeps Grown IsStep destination)

/-! ## Names -/

/-- A name that every tree without limits takes. -/
structure Plain (name : String) : Prop where
  step : IsStep name
  noNul : '\x00' ∉ name.toList

/-- A safe name is taken by every tree without limits. -/
theorem plain_of_isSafeName {name : String} (safe : isSafeName name = true) : Plain name := by
  simp only [isSafeName, Bool.and_eq_true, Bool.not_eq_true', List.all_eq_true, bne_iff_ne,
    ne_eq] at safe
  obtain ⟨⟨⟨⟨nonempty, dot⟩, dots⟩, characters⟩, _⟩ := safe
  refine ⟨⟨fun slash => (characters _ slash).1.1 rfl, ?_⟩, fun nul => (characters _ nul).2 rfl⟩
  rw [FileTree.turn, if_neg, if_neg dots]
  rintro (rfl | here)
  · cases nonempty
  · exact dot here

namespace Path

variable {root : Path} {folder : List String} {name : String}

/-- The directory of a file below a root. -/
theorem parent_below (plain : ∀ other ∈ folder, Plain other) (more : folder ≠ [])
    (step : IsStep name) : (root.below (folder ++ [name])).parent = root.below folder := by
  have steps : ∀ other ∈ folder, IsStep other := fun other member => (plain other member).step
  have steps' : ∀ other ∈ folder ++ [name], IsStep other := by
    intro other member
    rcases List.mem_append.mp member with member | member
    · exact steps other member
    · cases List.mem_singleton.mp member
      exact step
  have names := @names_below root folder steps more
  rw [parent, names_below steps' (List.concat_ne_nil _ _), ← List.append_assoc,
    List.dropLast_concat, ← names]

/-- A mark at a file's name below a root. -/
theorem marked_below (plain : ∀ other ∈ folder, Plain other) (more : folder ≠ [])
    (step : IsStep name) (mark : String) :
    (root.below (folder ++ [name])).marked mark = root.below (folder ++ [name ++ mark]) := by
  have last : (root.below (folder ++ [name])).names.getLast? = some name := by
    rw [below_concat, names_child step.noSlash, List.getLast?_concat]
  rw [marked, last]
  dsimp only
  rw [parent_below plain more step, below_concat]

end Path

namespace DirectoryStore

/-! ## Places -/

/-- Whether a place is meant for a directory, by the names that lead there from the root. -/
def isFolder : List String → Bool
  | [_] => true
  | [_, first] => first ∈ ["css", "js", "images", stagingName]
  | [_, first, second] => first = stagingName && second ∈ ["css", "js", ".old"]
  | [_, first, second, third] => first = stagingName && second = ".old" && third ∈ ["css", "js"]
  | _ => false

/-- What stands on the way to a directory is meant for a directory too. -/
theorem isFolder_of_parts {way rest : List String} (more : way ≠ [])
    (folder : isFolder (way ++ rest) = true) : isFolder way = true := by
  match way, rest with
  | [], _ => exact (more rfl).elim
  | [_], _ => rfl
  | way, [] => simpa using folder
  | [_, first], [second] => simp_all [isFolder]
  | [_, first], [second, third] => simp_all [isFolder]
  | [_, first, second], [third] => simp_all [isFolder]
  | _ :: _ :: _ :: _ :: _, _ :: _ => simp [isFolder] at folder
  | [_, _, _], _ :: _ :: _ => simp [isFolder] at folder
  | [_, _], _ :: _ :: _ :: _ => simp [isFolder] at folder

/-- A directory in which artifacts stand, are staged or are kept. -/
structure Zone (zone : List String) : Prop where
  plain : ∀ name ∈ zone, Plain name
  folder : ∀ kind : ArtifactKind, isFolder (zone ++ kind.steps.dropLast) = true
  file : ∀ kind : ArtifactKind, isFolder (zone ++ kind.steps) = false

theorem plain_of_mem_steps {kind : ArtifactKind} {name : String} (member : name ∈ kind.steps) :
    Plain name := by
  refine ⟨isStep_of_mem_steps member, ?_⟩
  revert member
  cases kind <;> simp only [ArtifactKind.steps, List.mem_cons, List.not_mem_nil, or_false]
  · rintro rfl
    decide
  · rintro (rfl | rfl) <;> decide
  · rintro (rfl | rfl) <;> decide

/-- The directory of an article is one with artifacts. -/
theorem zone_article {articleId : String} (plain : Plain articleId) : Zone [articleId] := by
  refine ⟨?_, ?_, ?_⟩
  · intro name member
    cases List.mem_singleton.mp member
    exact plain
  · rintro (_ | _ | _) <;> rfl
  · rintro (_ | _ | _) <;> rfl

/-- The staging area of an article is one with artifacts. -/
theorem zone_staging {articleId : String} (plain : Plain articleId) :
    Zone [articleId, stagingName] := by
  have staging : Plain stagingName := ⟨isStep_stagingName, by decide⟩
  refine ⟨?_, ?_, ?_⟩
  · intro name member
    rcases List.mem_cons.mp member with rfl | member
    · exact plain
    · cases List.mem_singleton.mp member
      exact staging
  · rintro (_ | _ | _) <;> rfl
  · rintro (_ | _ | _) <;> rfl

/-- What is replaced is kept in a directory with artifacts. -/
theorem zone_shelf {articleId : String} (plain : Plain articleId) :
    Zone [articleId, stagingName, ".old"] := by
  have old : Plain ".old" := ⟨⟨by decide, rfl⟩, by decide⟩
  refine ⟨?_, ?_, ?_⟩
  · intro name member
    have member : name ∈ [articleId, stagingName] ++ [".old"] := member
    rcases List.mem_append.mp member with member | member
    · exact (zone_staging plain).plain name member
    · cases List.mem_singleton.mp member
      exact old
  · rintro (_ | _ | _) <;> rfl
  · rintro (_ | _ | _) <;> rfl

/-! ## Orderly trees -/

/-- A tree without limits in which a path leads to a directory with nothing in it. -/
structure Ground (root : Path) (base : Location) (ground : FileTree) : Prop where
  nameLimit : ground.nameLimit = none
  pathLimit : ground.pathLimit = none
  located : ground.locate root = some base
  directory : ground.isDirectory base = true
  bare : ∀ way, way ≠ [] → ground.occupant? (base ++ way) = none

/-- In a tree that has grown from another one, everything below a location is what its place is
meant for, and stands in directories. -/
structure Orderly (base : Location) (ground tree : FileTree) : Prop where
  keeps : Keeps ground tree
  folder : ∀ way, way ≠ [] → tree.isDirectory (base ++ way) = true → isFolder way = true
  file : ∀ way content, way ≠ [] → tree.occupant? (base ++ way) = some (.file content) →
    isFolder way = false
  closed : ∀ way name, tree.occupant? (base ++ (way ++ [name])) ≠ none →
    tree.isDirectory (base ++ way) = true

variable {root : Path} {base : Location} {ground tree after : FileTree} {way folder : List String}
  {name : String} {content : ByteArray}

namespace Orderly

/-- A tree in which nothing has been stored is orderly. -/
theorem of_ground (bare : Ground root base ground) : Orderly base ground ground := by
  have empty := bare.bare
  refine ⟨.refl ground, fun way more there => ?_, fun way content more there => ?_,
    fun way name there => ?_⟩
  · rw [FileTree.isDirectory_iff, empty way more] at there
    cases there
  · rw [empty way more] at there
    cases there
  · exact (there (empty _ (List.concat_ne_nil _ _))).elim

variable (bare : Ground root base ground) (orderly : Orderly base ground tree)

include orderly

/-- No directory is at a place meant for a file. -/
theorem vacant (more : way ≠ []) (place : isFolder way = false) :
    tree.isDirectory (base ++ way) = false := by
  rw [Bool.eq_false_iff]
  intro there
  rw [orderly.folder way more there] at place
  cases place

/-- A tree stays orderly if things go away or files come to places that are meant for them. -/
theorem change (keeps : Keeps tree after)
    (changes : ∀ way, way ≠ [] →
      after.occupant? (base ++ way) = tree.occupant? (base ++ way) ∨
      after.occupant? (base ++ way) = none ∨
      ∃ folder name content, way = folder ++ [name] ∧ isFolder way = false ∧
        tree.isDirectory (base ++ folder) = true ∧
        after.occupant? (base ++ way) = some (.file content)) : Orderly base ground after := by
  refine ⟨orderly.keeps.trans keeps, fun way more there => ?_, fun way content more there => ?_,
    fun way name there => ?_⟩
  · rw [FileTree.isDirectory_iff] at there
    rcases changes way more with same | gone | ⟨_, _, _, _, _, _, file⟩
    · rw [same] at there
      exact orderly.folder way more (FileTree.isDirectory_iff.mpr there)
    · rw [gone] at there
      cases there
    · rw [file] at there
      cases there
  · rcases changes way more with same | gone | ⟨_, _, _, _, place, _, _⟩
    · rw [same] at there
      exact orderly.file way content more there
    · rw [gone] at there
      cases there
    · exact place
  · apply keeps.directory
    rcases changes (way ++ [name]) (List.concat_ne_nil _ _) with
      same | gone | ⟨_, _, _, split, _, parent, _⟩
    · rw [same] at there
      exact orderly.closed way name there
    · exact (there gone).elim
    · cases List.append_inj_left' split rfl
      exact parent

/-- A file is written in a directory. -/
theorem write (place : isFolder (folder ++ [name]) = false)
    (located : tree.locate (root.below (folder ++ [name])) = some (base ++ (folder ++ [name])))
    (there : tree.isDirectory (base ++ folder) = true) (content : ByteArray) :
    ∃ after, FileTree.write (root.below (folder ++ [name])) content tree = (true, after) ∧
      Orderly base ground after ∧ Keeps tree after ∧
      after.occupant? (base ++ (folder ++ [name])) = some (.file content) ∧
      ∀ other, other ≠ base ++ (folder ++ [name]) →
        after.occupant? other = tree.occupant? other := by
  have vacant := orderly.vacant (List.concat_ne_nil _ _) place
  have done := FileTree.write_succeeds located vacant content
  obtain ⟨location, leads, keeps, holds, others⟩ := FileTree.of_write (Prod.ext done rfl)
  cases (FileTree.destination_of_locate located).symm.trans leads
  refine ⟨_, Prod.ext done rfl, orderly.change keeps fun way _ => ?_, keeps, holds, others⟩
  by_cases here : way = folder ++ [name]
  · subst here
    exact .inr (.inr ⟨folder, name, content, rfl, place, there, holds⟩)
  · exact .inl (others _ fun same => here (List.append_cancel_left same))

/-- A file moves from one place to another one. -/
theorem move {source : Path} {here : Location} (located : tree.locate source = some here)
    (found : tree.occupant? here = some (.file content))
    (place : isFolder (folder ++ [name]) = false)
    (reached : tree.locate (root.below (folder ++ [name])) = some (base ++ (folder ++ [name])))
    (there : tree.isDirectory (base ++ folder) = true) :
    ∃ after, FileTree.move source (root.below (folder ++ [name])) tree = (true, after) ∧
      Orderly base ground after ∧ Keeps tree after ∧
      ∀ other, after.occupant? other =
        if other = base ++ (folder ++ [name]) then some (.file content)
        else if other = here then none else tree.occupant? other := by
  have vacant := orderly.vacant (List.concat_ne_nil _ _) place
  have done := FileTree.move_succeeds located reached found vacant
  obtain ⟨moved, _, _, found', _, keeps, holds⟩ :=
    FileTree.of_move (FileTree.destination_of_locate located)
      (FileTree.destination_of_locate reached) (Prod.ext done rfl)
  cases found.symm.trans found'
  refine ⟨_, Prod.ext done rfl, orderly.change keeps fun way _ => ?_, keeps, holds⟩
  rw [holds]
  by_cases arrived : base ++ way = base ++ (folder ++ [name])
  · cases List.append_cancel_left arrived
    rw [if_pos rfl]
    exact .inr (.inr ⟨folder, name, content, rfl, place, there, rfl⟩)
  · rw [if_neg arrived]
    by_cases left : base ++ way = here
    · rw [if_pos left]
      exact .inr (.inl rfl)
    · rw [if_neg left]
      exact .inl rfl

/-- A file is made where nothing is. -/
theorem create (place : isFolder (folder ++ [name]) = false)
    (located : tree.locate (root.below (folder ++ [name])) = some (base ++ (folder ++ [name])))
    (there : tree.isDirectory (base ++ folder) = true)
    (empty : tree.occupant? (base ++ (folder ++ [name])) = none) (content : ByteArray) :
    ∃ after, FileTree.create (root.below (folder ++ [name])) content tree = (.created, after) ∧
      Orderly base ground after ∧
      ∀ other, after.occupant? other =
        if other = base ++ (folder ++ [name]) then some (.file content)
        else tree.occupant? other := by
  obtain ⟨after, creating, keeps, holds⟩ := FileTree.of_create located empty content
  refine ⟨after, creating, orderly.change keeps fun way _ => ?_, holds⟩
  rw [holds]
  by_cases arrived : base ++ way = base ++ (folder ++ [name])
  · cases List.append_cancel_left arrived
    rw [if_pos rfl]
    exact .inr (.inr ⟨folder, name, content, rfl, place, there, rfl⟩)
  · rw [if_neg arrived]
    exact .inl rfl

include bare

theorem accepts (plain : Plain name) : tree.accepts name = true := by
  rw [FileTree.accepts, orderly.keeps.nameLimit, bare.nameLimit]
  simpa [FileTree.fits] using plain.noNul

/-- A file is reached in a directory that is reached. -/
theorem locate_file (plain : Plain name)
    (located : tree.locate (root.below folder) = some (base ++ folder))
    (there : tree.isDirectory (base ++ folder) = true) :
    tree.locate (root.below (folder ++ [name])) = some (base ++ (folder ++ [name])) := by
  rw [Path.below_concat, ← List.append_assoc]
  exact FileTree.locate_child located there plain.step (orderly.accepts bare plain)
    (orderly.keeps.pathLimit.trans bare.pathLimit)

/-- A directory is made where one is meant to be. -/
theorem make (plain : ∀ name ∈ way, Plain name) (place : isFolder way = true) :
    ∃ after, FileTree.makeDirectories (root.below way) tree = (true, after) ∧
      Orderly base ground after ∧ after.locate (root.below way) = some (base ++ way) ∧
      after.isDirectory (base ++ way) = true := by
  have more : way ≠ [] := by
    rintro rfl
    cases place
  have steps : ∀ name ∈ way, IsStep name := fun name member => (plain name member).step
  have limit := orderly.keeps.pathLimit.trans bare.pathLimit
  have located := orderly.keeps.locate bare.located
  have there := orderly.keeps.directory base bare.directory
  have leads := FileTree.destination_of_locate located
  have making := FileTree.makeDirectories_of_locate located there
  have along := FileTree.makeDirectories_below making limit leads steps more
  have accepted : ∀ name ∈ way, FileTree.turn name = .down ∧ tree.accepts name = true :=
    fun name member => ⟨(steps name member).down, orderly.accepts bare (plain name member)⟩
  -- No file is on the way, as files stand only where files are meant to be.
  have clear : ∀ part, part <+: way →
      ∀ content, tree.occupant? (base ++ part) ≠ some (.file content) := by
    intro part before content found
    by_cases top : part = []
    · subst top
      rw [List.append_nil] at found
      rw [FileTree.not_isDirectory_of_file found] at there
      cases there
    · obtain ⟨rest, rfl⟩ := before
      have folder := isFolder_of_parts top place
      rw [orderly.file part content top found] at folder
      cases folder
  obtain ⟨after, made, directories, others⟩ := FileTree.of_makeAlong_steps accepted clear
  have making := along.trans made
  obtain ⟨keeps, grown, reached⟩ := FileTree.of_makeDirectories making
  refine ⟨after, making, ⟨orderly.keeps.trans keeps, ?_, ?_, ?_⟩, ?_,
    directories way more ⟨[], by simp⟩⟩
  · intro part top found
    by_cases within : part <+: way
    · obtain ⟨rest, rfl⟩ := within
      exact isFolder_of_parts top place
    · have same := others (base ++ part) fun other _ before same => by
        cases List.append_cancel_left same
        exact within before
      rw [FileTree.isDirectory_iff, same] at found
      exact orderly.folder part top (FileTree.isDirectory_iff.mpr found)
  · intro part content top found
    exact orderly.file part content top (((grown _).file_iff content).mp found)
  · intro part name found
    by_cases within : part ++ [name] <+: way
    · by_cases top : part = []
      · subst top
        rw [List.append_nil]
        exact keeps.directory base there
      · exact directories part top ((List.prefix_append part [name]).trans within)
    · have same := others (base ++ (part ++ [name])) fun other _ before same => by
        cases List.append_cancel_left same
        exact within before
      rw [same] at found
      exact keeps.directory _ (orderly.closed part name found)
  · obtain ⟨location, reached, _⟩ := reached rfl
    have same := FileTree.destination_of_locate reached
    rw [FileTree.destination_below steps, leads] at same
    cases same
    exact reached

/-- A tree stays orderly when something is removed with all that is in it. -/
theorem prune (more : way ≠ []) : Orderly base ground (tree.prune (base ++ way)) := by
  have inside : base ++ way ≠ [] := by simp [more]
  have holds (other : Location) := tree.occupant?_prune inside other
  have within (part : List String) : (base ++ way).isPrefixOf (base ++ part) = true ↔
      way <+: part := by
    rw [List.isPrefixOf_iff_prefix, List.prefix_append_right_inj]
  refine ⟨⟨orderly.keeps.nameLimit, orderly.keeps.pathLimit, fun location there => ?_⟩,
    fun part top there => ?_, fun part content top there => ?_, fun part name there => ?_⟩
  · have kept := FileTree.isDirectory_iff.mp (orderly.keeps.directory location there)
    rw [FileTree.isDirectory_iff, holds, if_neg, kept]
    intro before
    obtain ⟨rest, rfl⟩ := List.isPrefixOf_iff_prefix.mp before
    rw [FileTree.isDirectory_iff, List.append_assoc, bare.bare _ (by simp [more])] at there
    cases there
  · rw [FileTree.isDirectory_iff, holds] at there
    split at there
    · cases there
    · exact orderly.folder part top (FileTree.isDirectory_iff.mpr there)
  · rw [holds] at there
    split at there
    · cases there
    · exact orderly.file part content top there
  · rw [holds] at there
    split at there
    · exact (there rfl).elim
    · rename_i outside
      have parent := FileTree.isDirectory_iff.mp (orderly.closed part name there)
      rw [FileTree.isDirectory_iff, holds, if_neg, parent]
      intro before
      rw [within] at before outside
      exact outside (before.trans (List.prefix_append part [name]))

/-- A directory is cleared with all that is in it. -/
theorem clear (plain : ∀ name ∈ way, Plain name) (place : isFolder way = true) :
    ∃ after, FileTree.clear (root.below way) tree = (true, after) ∧ Orderly base ground after := by
  have more : way ≠ [] := by
    rintro rfl
    cases place
  have leads := FileTree.destination_of_locate (orderly.keeps.locate bare.located)
  unfold FileTree.clear
  split
  · exact ⟨tree, rfl, orderly⟩
  · rename_i location located
    have same := FileTree.destination_of_locate located
    rw [FileTree.destination_below (fun name member => (plain name member).step), leads] at same
    cases same
    split
    · exact ⟨tree, rfl, orderly⟩
    · exact ⟨_, rfl, orderly.prune bare more⟩
    · rename_i content found
      rw [orderly.file way content more found] at place
      cases place

/-- What is there is reached. -/
theorem locate_of_occupied (plain : ∀ name ∈ way, Plain name) (more : way ≠ [])
    (occupied : tree.occupant? (base ++ way) ≠ none) :
    tree.locate (root.below way) = some (base ++ way) := by
  have walked : tree.walk base way = some (base ++ way) := by
    clear more
    induction way using List.reverseRecOn with
    | nil => rw [List.append_nil, FileTree.walk]
    | append_singleton way name ih =>
        have there := orderly.closed way name occupied
        have inside (other : String) (member : other ∈ way) :=
          plain other (List.mem_append_left _ member)
        have named := plain name (List.mem_append_right _ (List.mem_singleton_self _))
        have found := FileTree.isDirectory_iff.mp there
        rw [FileTree.walk_append, ih inside (found ▸ Option.some_ne_none _), Option.bind_some,
          FileTree.walk, if_pos there, named.step.down]
        dsimp only
        rw [if_pos (orderly.accepts bare named), FileTree.walk, List.append_assoc]
  exact FileTree.locate_below (orderly.keeps.locate bare.located)
    (orderly.keeps.pathLimit.trans bare.pathLimit) (fun name member => (plain name member).step)
    more walked

/-- In an orderly tree, reading a path below the root gives the file at its place. -/
theorem read_iff (plain : ∀ name ∈ way, Plain name) (more : way ≠ []) :
    tree.read (root.below way) = some content ↔
      tree.occupant? (base ++ way) = some (.file content) := by
  have leads : destination (root.below way) = some (base ++ way) := by
    rw [FileTree.destination_below (fun name member => (plain name member).step),
      FileTree.destination_of_locate (orderly.keeps.locate bare.located)]
    rfl
  constructor
  · intro read
    have there : tree.isFile (root.below way) = true := by
      rw [FileTree.isFile, read]
      rfl
    obtain ⟨located, found, same⟩ := FileTree.of_isFile leads there
    rw [FileTree.read, FileTree.find?, located, Option.bind_some, same] at read
    cases read
    exact same
  · intro found
    have located := orderly.locate_of_occupied bare plain more (by rw [found]; exact nofun)
    rw [FileTree.read, FileTree.find?, located, Option.bind_some, found]

end Orderly

end DirectoryStore

end ScrollStory
