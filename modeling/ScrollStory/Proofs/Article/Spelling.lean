import ScrollStory.Article.Parse
import ScrollStory.Proofs.Article.Decoded
import ScrollStory.Proofs.Json.Records
import ScrollStory.Proofs.Json.Scan
import ScrollStory.Proofs.Json.Whole

/-!
# Articles in every spelling

An article may be spelled in many ways: each of its parts as an object with its members in any order
and unknown ones among them, or as a list, and each animation as an object or by its name alone. All
of them are read as the article (`ScrollStory.Article.every_spelling`).
-/

namespace ScrollStory

open Json (Drafts Field IsBool IsNat IsString IsValue Lexeme ListOf Optionally Read Reads RecordOf
  Spells Takes Token Value getD_given given given_of_mem given_of_not_mem inBraces inBrackets
  join_given namedMember)

theorem Slot.takes (slot : Slot) : Takes read (IsString slot.name) slot :=
  .oneOf (by cases slot <;> rfl)

theorem ComponentType.takes (type : ComponentType) : Takes read (IsString type.name) type :=
  .oneOf (by cases type <;> rfl)

/-- The name of a canonical template is read as the template. -/
theorem Template.takes {template : Template} (canonical : template.Canonical) :
    Takes read (IsString template.name) template := by
  have named := (Reads.string template.name).map ofName
  rw [ofName_name canonical] at named
  exact .of_eq nofun nofun named

/-! ## Layouts -/

namespace Layout

/-- The fields of a layout. -/
def fields (layout : Layout) : List Field := [
  .required "template" (IsString layout.template.name),
  .optional "heightTop" IsString layout.heightTop,
  .optional "widthLeft" IsString layout.widthLeft,
  .optional "heightBottom" IsString layout.heightBottom,
  .optional "widthRight" IsString layout.widthRight]

/-- The tokens spell a layout. -/
def Spelled (layout : Layout) : List Token → Prop := RecordOf layout.fields

/-- The draft of a layout once some keys are met. -/
def drafted (layout : Layout) (seen : List String) : Draft where
  template := given seen "template" layout.template
  heightTop := given seen "heightTop" layout.heightTop
  widthLeft := given seen "widthLeft" layout.widthLeft
  heightBottom := given seen "heightBottom" layout.heightBottom
  widthRight := given seen "widthRight" layout.widthRight

variable {layout : Layout}

/-- Every field of a layout is taken into the draft as the layout has it. -/
theorem drafts (canonical : layout.template.Canonical) :
    Drafts layout.fields Draft.member layout.drafted where
  known := by
    intro field inside seen tokens fresh spelled
    have absent {α : Type} (a : α) := given_of_not_mem fresh a
    simp only [fields, List.mem_cons, List.not_mem_nil, or_false] at inside
    rcases inside with rfl | rfl | rfl | rfl | rfl
    · exact (Template.takes canonical).field (absent _) spelled (by simp [drafted])
    all_goals exact (Takes.optionalString _).field (absent _) spelled (by simp [drafted])
  unknown := by
    intro name seen apart
    simp only [fields, List.forall_mem_cons, Field.required, Field.optional] at apart
    obtain ⟨template, heightTop, widthLeft, heightBottom, widthRight, _⟩ := apart
    constructor
    · unfold Draft.member
      split <;> first | contradiction | rfl
    · simp [drafted, *]

/-- A draft that has seen every field of a layout that cannot be left out becomes the layout. -/
theorem completes (seen : List String)
    (present : ∀ field ∈ layout.fields, field.name ∈ seen ∨ field.Omissible) :
    Reads (layout.drafted seen).complete [] layout := by
  simp only [fields, List.forall_mem_cons, Field.required, Field.optional, or_false] at present
  obtain ⟨template, heightTop, widthLeft, heightBottom, widthRight, _⟩ := present
  simp only [Draft.complete, drafted, given_of_mem template, join_given, *]
  exact Reads.pure layout

/-- Every spelling of a layout is read as the layout. -/
theorem takes (canonical : layout.template.Canonical) : Takes read layout.Spelled layout := by
  refine Takes.record wanted (drafts canonical) completes fun parts items => ?_
  refine .itemAt items wanted 5 (Template.takes canonical) fun parts items => ?_
  refine .itemOr items Eq.symm (.optionalString _) fun parts items => ?_
  refine .itemOr items Eq.symm (.optionalString _) fun parts items => ?_
  refine .itemOr items Eq.symm (.optionalString _) fun parts items => ?_
  refine .itemOr items Eq.symm (.optionalString _) fun parts items => ?_
  exact .pure items

end Layout

/-! ## Images -/

namespace Image

/-- The fields of an image. -/
def fields (image : Image) : List Field := [
  .optional "data" IsString image.data,
  .optional "caption" IsString image.caption,
  .defaulted "isDisplayFullscreen" IsBool false image.fullscreen]

/-- The tokens spell an image. -/
def Spelled (image : Image) : List Token → Prop := RecordOf image.fields

/-- The draft of an image once some keys are met. -/
def drafted (image : Image) (seen : List String) : Draft where
  data := given seen "data" image.data
  caption := given seen "caption" image.caption
  fullscreen := given seen "isDisplayFullscreen" image.fullscreen

variable {image : Image}

/-- Every field of an image is taken into the draft as the image has it. -/
theorem drafts : Drafts image.fields Draft.member image.drafted where
  known := by
    intro field inside seen tokens fresh spelled
    have absent {α : Type} (a : α) := given_of_not_mem fresh a
    simp only [fields, List.mem_cons, List.not_mem_nil, or_false] at inside
    rcases inside with rfl | rfl | rfl
    · exact (Takes.optionalString _).field (absent _) spelled (by simp [drafted])
    · exact (Takes.optionalString _).field (absent _) spelled (by simp [drafted])
    · exact (Takes.bool _).field (absent _) spelled (by simp [drafted])
  unknown := by
    intro name seen apart
    simp only [fields, List.forall_mem_cons, Field.optional, Field.defaulted] at apart
    obtain ⟨data, caption, fullscreen, _⟩ := apart
    constructor
    · unfold Draft.member
      split <;> first | contradiction | rfl
    · simp [drafted, *]

/-- A draft that has seen the fields of an image becomes the image. -/
theorem completes (seen : List String)
    (present : ∀ field ∈ image.fields, field.name ∈ seen ∨ field.Omissible) :
    Reads (pure (image.drafted seen).complete : Read Image) [] image := by
  simp only [fields, List.forall_mem_cons, Field.optional, Field.defaulted] at present
  obtain ⟨data, caption, fullscreen, _⟩ := present
  simp only [Draft.complete, drafted, join_given, getD_given, *]
  exact Reads.pure image

/-- Every spelling of an image is read as the image. -/
theorem takes : Takes read image.Spelled image := by
  change Takes (Read.record "struct Image" (Read.draft Draft.member (image.drafted []) >>=
    fun d => pure d.complete) _) _ _
  refine Takes.record "struct Image" drafts completes fun parts items => ?_
  refine .itemOr items Eq.symm (.optionalString _) fun parts items => ?_
  refine .itemOr items Eq.symm (.optionalString _) fun parts items => ?_
  refine .itemOr items Eq.symm (.bool _) fun parts items => ?_
  exact .pure items

end Image

/-! ## Animations -/

namespace Animation

/-- The members of an animation. If its section is absent, it is left out or given as `null`. -/
def members (animation : Animation) (leftOut : Bool) : List (String × Value) :=
  [("transition", .string animation.transition), ("duration", .nat animation.duration),
    ("pin", .bool animation.pin)] ++
  if leftOut then optionalMember "pinnedSectionId" .string animation.pinnedSectionId
  else [("pinnedSectionId", .optionalString animation.pinnedSectionId)]

/-- The tokens spell an animation: its transition alone, if there is nothing else to it, or an
object with its members in any order. -/
inductive Spelled (animation : Animation) : List Token → Prop
  | name (noDuration : animation.duration = 0) (unpinned : animation.pin = false)
      (noSection : animation.pinnedSectionId = none) :
      Spelled animation [.string animation.transition]
  | object {members : List (String × Value)} (leftOut : Bool)
      (order : members.Perm (animation.members leftOut)) :
      Spelled animation (Value.object members).tokens

/-- What is found by a name does not depend on the order of the members. -/
theorem member?_perm {members others : List (String × Value)} (order : members.Perm others)
    (name : String) : member? members name = member? others name := by
  have filtered := order.filter (·.1 = name)
  unfold member?
  generalize List.filter (fun member => decide (member.1 = name)) others = found at filtered
  match found with
  | [] => rw [filtered.eq_nil]
  | [_] => rw [List.perm_singleton.mp filtered]
  | _ :: _ :: _ =>
    have length := filtered.length_eq
    split <;> simp_all

theorem ofValue?_perm {members others : List (String × Value)} (order : members.Perm others) :
    ofValue? (.object members) = ofValue? (.object others) := by
  simp only [ofValue?, member?_perm order]

theorem duration?_nat {n : Nat} (fits : n < twoTo 32) : duration? (some (.nat n)) = some n := by
  have bounds : (0 : Int) ≤ n ∧ (n : Int) < (twoTo 32 : Nat) := ⟨by omega, by exact_mod_cast fits⟩
  simp only [Value.nat, duration?, bounds, and_self, ↓reduceIte, Int.toNat_natCast]

/-- An object with the members of an animation describes the animation. -/
theorem ofValue?_members {animation : Animation} (fits : animation.duration < twoTo 32)
    (leftOut : Bool) : ofValue? (.object (animation.members leftOut)) = some animation := by
  obtain ⟨transition, duration, pin, pinnedSectionId⟩ := animation
  have known : duration? (some (.nat duration)) = some duration := duration?_nat fits
  let members := members ⟨transition, duration, pin, pinnedSectionId⟩ leftOut
  have first : member? members "transition" = some (some (.string transition)) := by
    cases leftOut <;> cases pinnedSectionId <;> rfl
  have second : member? members "duration" = some (some (.nat duration)) := by
    cases leftOut <;> cases pinnedSectionId <;> rfl
  have third : member? members "pin" = some (some (.bool pin)) := by
    cases leftOut <;> cases pinnedSectionId <;> rfl
  have last : (member? members "pinnedSectionId").bind pinnedSectionId? = some pinnedSectionId := by
    cases leftOut <;> cases pinnedSectionId <;> rfl
  change ofValue? (.object members) = _
  refine Option.bind_eq_some_iff.mpr ⟨transition, by rw [first]; rfl, ?_⟩
  refine Option.bind_eq_some_iff.mpr ⟨duration, by rw [second, Option.bind_some, known], ?_⟩
  refine Option.bind_eq_some_iff.mpr ⟨pin, by rw [third]; rfl, ?_⟩
  exact Option.bind_eq_some_iff.mpr ⟨pinnedSectionId, last, rfl⟩

/-- The members of an animation hold no lists and no objects, and their numbers can be read. -/
theorem flat_members {animation : Animation} (fits : animation.duration < twoTo 32)
    (leftOut : Bool) : ∀ member ∈ animation.members leftOut,
      member.2.EveryNumber Json.Readable ∧ member.2.depth = 0 := by
  have readable := Json.readable_nat (Nat.lt_trans fits (by decide))
  obtain ⟨transition, duration, pin, pinnedSectionId⟩ := animation
  cases leftOut <;> cases pinnedSectionId <;>
    simp_all [members, optionalMember, Value.EveryNumber, Value.nat, Value.depth,
      Value.optionalString]

/-- Every spelling of an animation, also the short one, is read as the animation. -/
theorem takes {enclosing : Nat} {animation : Animation} (fits : animation.duration < twoTo 32)
    (shallow : enclosing < Json.deepest) : Takes (read enclosing) animation.Spelled animation := by
  intro tokens spelled
  suffices described : ∃ value : Value, tokens = value.tokens ∧ ofValue? value = some animation ∧
      value.EveryNumber Json.Readable ∧ value.depth ≤ 1 by
    obtain ⟨value, rfl, described, readable, depth⟩ := described
    have read := Value.reads_tokens readable (by omega : value.depth + enclosing ≤ Json.deepest)
    refine ⟨value.opens_tokens, read.bind_nil ?_⟩
    rw [described]
    exact Reads.pure animation
  cases spelled with
  | name noDuration unpinned noSection =>
      obtain ⟨transition, duration, pin, pinnedSectionId⟩ := animation
      cases noDuration
      cases unpinned
      cases noSection
      exact ⟨.string transition, rfl, rfl, trivial, Nat.zero_le 1⟩
  | @object members leftOut order =>
      have flat : ∀ member ∈ members, _ := fun member inside =>
        flat_members fits leftOut member (order.subset inside)
      refine ⟨.object members, rfl, ?_, ?_, ?_⟩
      · rw [ofValue?_perm order, ofValue?_members fits leftOut]
      · exact (Value.everyNumberOfMembers_iff _ _).mpr fun member inside => (flat member inside).1
      · have depth := Value.depthOfMembers_eq_zero fun member inside => (flat member inside).2
        rw [Value.depth]
        omega

end Animation

/-! ## Components and frames -/

namespace Component

/-- The fields of a component. -/
def fields (c : Component) : List Field := [
  .required "id" (IsString c.id),
  .required "type" (IsString c.type.name),
  .required "position" (IsString c.slot.name),
  .required "animation" c.animation.Spelled,
  .optional "contentHtml" IsString c.contentHtml,
  .optional "image" Image.Spelled c.image]

/-- The tokens spell a component. -/
def Spelled (c : Component) : List Token → Prop := RecordOf c.fields

/-- The draft of a component once some keys are met. -/
def drafted (c : Component) (seen : List String) : Draft where
  id := given seen "id" c.id
  type := given seen "type" c.type
  slot := given seen "position" c.slot
  animation := given seen "animation" c.animation
  contentHtml := given seen "contentHtml" c.contentHtml
  image := given seen "image" c.image

variable {c : Component} {enclosing : Nat}

theorem takes_image (image : Option Image) :
    Takes (Read.optional Image.read) (Optionally Image.Spelled image) image :=
  .optional (fun _ _ => Image.takes) fun _ _ spelled => RecordOf.present spelled

/-- Every field of a component is taken into the draft as the component has it. -/
theorem drafts (inRange : c.InRange) (shallow : enclosing + 1 < Json.deepest) :
    Drafts c.fields (Draft.member enclosing) c.drafted where
  known := by
    intro field inside seen tokens fresh spelled
    have absent {α : Type} (a : α) := given_of_not_mem fresh a
    simp only [fields, List.mem_cons, List.not_mem_nil, or_false] at inside
    rcases inside with rfl | rfl | rfl | rfl | rfl | rfl
    · exact (Takes.string _).field (absent _) spelled (by simp [drafted])
    · exact (ComponentType.takes _).field (absent _) spelled (by simp [drafted])
    · exact (Slot.takes _).field (absent _) spelled (by simp [drafted])
    · exact (Animation.takes inRange shallow).field (absent _) spelled (by simp [drafted])
    · exact (Takes.optionalString _).field (absent _) spelled (by simp [drafted])
    · exact (takes_image _).field (absent _) spelled (by simp [drafted])
  unknown := by
    intro name seen apart
    simp only [fields, List.forall_mem_cons, Field.required, Field.optional] at apart
    obtain ⟨id, type, position, animation, contentHtml, image, _⟩ := apart
    constructor
    · unfold Draft.member
      split <;> first | contradiction | rfl
    · simp [drafted, *]

/-- A draft that has seen every field of a component that cannot be left out becomes the component,
without its membership. -/
theorem completes (seen : List String)
    (present : ∀ field ∈ c.fields, field.name ∈ seen ∨ field.Omissible) :
    Reads (c.drafted seen).complete [] c.unstamp := by
  simp only [fields, List.forall_mem_cons, Field.required, Field.optional, or_false] at present
  obtain ⟨id, type, position, animation, contentHtml, image, _⟩ := present
  simp only [Draft.complete, drafted, given_of_mem id, given_of_mem type,
    given_of_mem position, given_of_mem animation, join_given, *]
  exact Reads.pure c.unstamp

/-- Every spelling of a component is read as the component without its membership. -/
theorem takes (inRange : c.InRange) (shallow : enclosing + 1 < Json.deepest) :
    Takes (read enclosing) c.Spelled c.unstamp := by
  refine Takes.record wanted (drafts inRange shallow) completes fun parts items => ?_
  refine .itemAt items wanted 6 (.string _) fun parts items => ?_
  refine .itemAt items wanted 6 (ComponentType.takes _) fun parts items => ?_
  refine .itemAt items wanted 6 (Slot.takes _) fun parts items => ?_
  refine .itemAt items wanted 6 (Animation.takes inRange shallow) fun parts items => ?_
  refine .itemOr items Eq.symm (.optionalString _) fun parts items => ?_
  refine .itemOr items Eq.symm (takes_image _) fun parts items => ?_
  exact .pure items

end Component

namespace Frame

/-- The fields of a frame. -/
def fields (frame : Frame) : List Field := [
  .required "id" (IsString frame.id),
  .required "components" (ListOf Component.Spelled frame.components)]

/-- The tokens spell a frame. -/
def Spelled (frame : Frame) : List Token → Prop := RecordOf frame.fields

/-- The draft of a frame once some keys are met. -/
def drafted (frame : Frame) (seen : List String) : Draft where
  id := given seen "id" frame.id
  components := given seen "components" (frame.components.map Component.unstamp)

variable {frame : Frame} {enclosing : Nat}

/-- Every spelling of the components of a frame is read as these components. -/
theorem takes_components (inRange : ∀ c ∈ frame.components, c.InRange)
    (shallow : enclosing + 3 < Json.deepest) :
    Takes (Read.list (Component.read (enclosing + 2))) (ListOf Component.Spelled frame.components)
      (frame.components.map Component.unstamp) :=
  .list fun c member => Component.takes (inRange c member) shallow

/-- Every field of a frame is taken into the draft as the frame has it. -/
theorem drafts (inRange : ∀ c ∈ frame.components, c.InRange)
    (shallow : enclosing + 3 < Json.deepest) :
    Drafts frame.fields (Draft.member enclosing) frame.drafted where
  known := by
    intro field inside seen tokens fresh spelled
    have absent {α : Type} (a : α) := given_of_not_mem fresh a
    simp only [fields, List.mem_cons, List.not_mem_nil, or_false] at inside
    rcases inside with rfl | rfl
    · exact (Takes.string _).field (absent _) spelled (by simp [drafted])
    · exact (takes_components inRange shallow).field (absent _) spelled (by simp [drafted])
  unknown := by
    intro name seen apart
    simp only [fields, List.forall_mem_cons, Field.required] at apart
    obtain ⟨id, components, _⟩ := apart
    constructor
    · unfold Draft.member
      split <;> first | contradiction | rfl
    · simp [drafted, *]

/-- A draft that has seen every field of a frame that cannot be left out becomes the frame. -/
theorem completes (seen : List String)
    (present : ∀ field ∈ frame.fields, field.name ∈ seen ∨ field.Omissible) :
    Reads (frame.drafted seen).complete [] frame.unstamp := by
  simp only [fields, List.forall_mem_cons, Field.required, or_false] at present
  obtain ⟨id, components, _⟩ := present
  simp only [Draft.complete, drafted, given_of_mem id, given_of_mem components]
  exact Reads.pure frame.unstamp

/-- Every spelling of a frame is read as the frame, without memberships. -/
theorem takes (inRange : ∀ c ∈ frame.components, c.InRange)
    (shallow : enclosing + 3 < Json.deepest) :
    Takes (read enclosing) frame.Spelled frame.unstamp := by
  refine Takes.record wanted (drafts inRange shallow) completes fun parts items => ?_
  refine .itemAt items wanted 2 (.string _) fun parts items => ?_
  refine .itemAt items wanted 2 (takes_components inRange shallow) fun parts items => ?_
  exact .pure items

end Frame

/-! ## Pages and articles -/

namespace Page

/-- The fields of a page. -/
def fields (page : Page) : List Field := [
  .required "id" (IsString page.id),
  .required "pinnable" (IsBool page.pinnable),
  .required "layout" page.layout.Spelled,
  .required "frames" (ListOf Frame.Spelled page.frames),
  .optional "stepPercent" IsNat page.stepPercent]

/-- The tokens spell a page. -/
def Spelled (page : Page) : List Token → Prop := RecordOf page.fields

/-- The draft of a page once some keys are met. -/
def drafted (page : Page) (seen : List String) : Draft where
  id := given seen "id" page.id
  pinnable := given seen "pinnable" page.pinnable
  layout := given seen "layout" page.layout
  frames := given seen "frames" (page.frames.map Frame.unstamp)
  stepPercent := given seen "stepPercent" page.stepPercent

variable {page : Page} {enclosing : Nat}

/-- Every spelling of the frames of a page is read as these frames. -/
theorem takes_frames (inRange : page.InRange) (shallow : enclosing + 5 < Json.deepest) :
    Takes (Read.list (Frame.read (enclosing + 2))) (ListOf Frame.Spelled page.frames)
      (page.frames.map Frame.unstamp) := by
  refine .list fun frame placed => Frame.takes (fun c inside => ?_) shallow
  exact inRange.durations c (List.mem_flatMap.mpr ⟨frame, placed, inside⟩)

/-- The step of a page is read as it is spelled, and as none if it is null. -/
theorem takes_step (inRange : page.InRange) :
    Takes (Read.optional Read.word) (Optionally IsNat page.stepPercent) page.stepPercent := by
  refine .optional (fun percent given => .word (inRange.step percent given)) ?_
  rintro percent _ rfl rest same
  cases same

/-- Every field of a page is taken into the draft as the page has it. -/
theorem drafts (canonical : page.layout.template.Canonical) (inRange : page.InRange)
    (shallow : enclosing + 5 < Json.deepest) :
    Drafts page.fields (Draft.member enclosing) page.drafted where
  known := by
    intro field inside seen tokens fresh spelled
    have absent {α : Type} (a : α) := given_of_not_mem fresh a
    simp only [fields, List.mem_cons, List.not_mem_nil, or_false] at inside
    rcases inside with rfl | rfl | rfl | rfl | rfl
    · exact (Takes.string _).field (absent _) spelled (by simp [drafted])
    · exact (Takes.bool _).field (absent _) spelled (by simp [drafted])
    · exact (Layout.takes canonical).field (absent _) spelled (by simp [drafted])
    · exact (takes_frames inRange shallow).field (absent _) spelled (by simp [drafted])
    · exact (takes_step inRange).field (absent _) spelled (by simp [drafted])
  unknown := by
    intro name seen apart
    simp only [fields, List.forall_mem_cons, Field.required, Field.optional] at apart
    obtain ⟨id, pinnable, layout, frames, stepPercent, _⟩ := apart
    constructor
    · unfold Draft.member
      split <;> first | contradiction | rfl
    · simp [drafted, *]

/-- A draft that has seen every field of a page that cannot be left out becomes the page. -/
theorem completes (seen : List String)
    (present : ∀ field ∈ page.fields, field.name ∈ seen ∨ field.Omissible) :
    Reads (page.drafted seen).complete [] page.unstamp := by
  simp only [fields, List.forall_mem_cons, Field.required, Field.optional, or_false] at present
  obtain ⟨id, pinnable, layout, frames, stepPercent, _⟩ := present
  simp only [Draft.complete, drafted, given_of_mem id, given_of_mem pinnable,
    given_of_mem layout, given_of_mem frames, join_given, *]
  exact Reads.pure page.unstamp

/-- Every spelling of a page is read as the page, without memberships. -/
theorem takes (canonical : page.layout.template.Canonical) (inRange : page.InRange)
    (shallow : enclosing + 5 < Json.deepest) :
    Takes (read enclosing) page.Spelled page.unstamp := by
  refine Takes.record wanted (drafts canonical inRange shallow) completes fun parts items => ?_
  refine .itemAt items wanted 5 (.string _) fun parts items => ?_
  refine .itemAt items wanted 5 (.bool _) fun parts items => ?_
  refine .itemAt items wanted 5 (Layout.takes canonical) fun parts items => ?_
  refine .itemAt items wanted 5 (takes_frames inRange shallow) fun parts items => ?_
  refine .itemOr items Eq.symm (takes_step inRange) fun parts items => ?_
  exact .pure items

end Page

namespace Article

/-- The fields of an article. -/
def fields (article : Article) : List Field := [
  .required "articleId" (IsString article.id),
  .defaulted "title" IsString "" article.title,
  .required "pages" (ListOf Page.Spelled article.pages)]

/-- The tokens spell an article. -/
def Spelled (article : Article) : List Token → Prop := RecordOf article.fields

/-- The draft of an article once some keys are met. -/
def drafted (article : Article) (seen : List String) : Draft where
  id := given seen "articleId" article.id
  title := given seen "title" article.title
  pages := given seen "pages" (article.pages.map Page.unstamp)

variable {article : Article}

/-- Every spelling of the pages of an article is read as these pages. -/
theorem takes_pages (canonical : article.Canonical) (inRange : article.InRange) :
    Takes (Read.list (Page.read 2)) (ListOf Page.Spelled article.pages)
      (article.pages.map Page.unstamp) :=
  .list fun page member => Page.takes (canonical page member) (inRange page member) (by decide)

/-- Every field of an article is taken into the draft as the article has it. -/
theorem drafts (canonical : article.Canonical) (inRange : article.InRange) :
    Drafts article.fields Draft.member article.drafted where
  known := by
    intro field inside seen tokens fresh spelled
    have absent {α : Type} (a : α) := given_of_not_mem fresh a
    simp only [fields, List.mem_cons, List.not_mem_nil, or_false] at inside
    rcases inside with rfl | rfl | rfl
    · exact (Takes.string _).field (absent _) spelled (by simp [drafted])
    · exact (Takes.string _).field (absent _) spelled (by simp [drafted])
    · exact (takes_pages canonical inRange).field (absent _) spelled (by simp [drafted])
  unknown := by
    intro name seen apart
    simp only [fields, List.forall_mem_cons, Field.required, Field.defaulted] at apart
    obtain ⟨id, title, pages, _⟩ := apart
    constructor
    · unfold Draft.member
      split <;> first | contradiction | rfl
    · simp [drafted, *]

/-- A draft that has seen every field of an article that cannot be left out becomes the article. -/
theorem completes (seen : List String)
    (present : ∀ field ∈ article.fields, field.name ∈ seen ∨ field.Omissible) :
    Reads (article.drafted seen).complete [] article.unstamp := by
  simp only [fields, List.forall_mem_cons, Field.required, Field.defaulted, or_false] at present
  obtain ⟨id, title, pages, _⟩ := present
  simp only [Draft.complete, drafted, given_of_mem id, given_of_mem pages,
    getD_given title]
  exact Reads.pure article.unstamp

/-- Every spelling of an article is read as the article, without memberships. -/
theorem takes (canonical : article.Canonical) (inRange : article.InRange) :
    Takes read article.Spelled article.unstamp := by
  refine Takes.record wanted (drafts canonical inRange) completes fun parts items => ?_
  refine .itemAt items wanted 3 (.string _) fun parts items => ?_
  refine .itemOr items Eq.symm (.string _) fun parts items => ?_
  refine .itemAt items wanted 3 (takes_pages canonical inRange) fun parts items => ?_
  exact .pure items

/-- **Every spelling is read as the article.** -/
theorem every_spelling (canonical : article.Canonical) (inRange : article.InRange)
    (unstamped : article.unstamp = article) {text : String} {tokens : List Token}
    (spelled : article.Spelled tokens) (spells : Spells text.toList tokens) :
    ofText text = .ok article := by
  have read := (takes canonical inRange tokens spelled).2 []
  rw [List.append_nil, unstamped] at read
  rw [ofText, Read.all, spells.tokensOfString_eq, read]
  rfl

/-- An article with one component. -/
def small : Article where
  id := "t"
  title := ""
  pages := [⟨"p", true, { template := .single }, [⟨"f", [{
    id := "c"
    type := .text
    slot := .center
    animation := { transition := "fade" } }]⟩], none⟩]

/-- The article in objects and lists, with a member that is not known. -/
def smallText : String := String.join [
  "\x7b\"x\": [-1.5e3], ", "\"pages\": [[\"p\", true, ",
  "\x7b\"heightTop\": null, ", "\"template\": \"single\"\x7d, ",
  "[[\"f\", [[\"c\", \"text\", ", "\"center\", \"fade\", null, null]]]], ",
  "null]], \"articleId\": \"t\"\x7d"]

/-- The tokens of that text. -/
def smallTokens : List Token :=
  inBraces <| List.map namedMember [
    ("x", inBrackets [[.number ⟨true, [1], some [5], some (false, [3])⟩]]),
    ("pages", inBrackets [inBrackets [[.string "p"], [.bool true],
      inBraces (List.map namedMember [("heightTop", [.null]), ("template", [.string "single"])]),
      inBrackets [inBrackets [[.string "f"], inBrackets [inBrackets [[.string "c"],
        [.string "text"], [.string "center"], [.string "fade"], [.null], [.null]]]]],
      [.null]]]),
    ("articleId", [.string "t"])]

/-- The tokens of the small text spell the small article. -/
theorem spelled_small : small.Spelled smallTokens := by
  have unknown : IsValue (inBrackets [[.number ⟨true, [1], some [5], some (false, [3])⟩]]) :=
    .list (by simpa using IsValue.number _)
  have layout : Layout.Spelled { template := .single } (inBraces (List.map namedMember
      [("heightTop", [.null]), ("template", [.string "single"])])) := by
    refine .object ⟨by decide, ?_, ?_, ?_⟩ <;> simp [Layout.fields, Template.name]
  have pages : ListOf Page.Spelled small.pages _ :=
    .intro <| .cons (.list <| .cons rfl <| .cons rfl <| .cons layout <| .cons
      (.intro <| .cons (.list <| .cons rfl <| .cons
        (.intro <| .cons (.list <| .cons rfl <| .cons rfl <| .cons rfl <|
          .cons (.name rfl rfl rfl) <| .cons rfl <| .cons rfl .nil) .nil) .nil) .nil) <|
      .cons rfl .nil) .nil
  refine .object ⟨by decide, ?_, ?_, ?_⟩
  · simpa [fields] using ⟨pages, rfl⟩
  · simpa [fields] using unknown
  · simp [fields, small]

/-- The small text spells its tokens, with white space between them. -/
theorem spells_small : Spells smallText.toList smallTokens := by
  have number := @Lexeme.number _ _ _ _ _
    (@Json.Scan.Whole.digits '1' [] (by decide) (List.forall_mem_singleton.mpr rfl))
    (@Json.Scan.Fraction.digits '5' [] (List.forall_mem_singleton.mpr rfl))
    (@Json.Scan.Exponent.unsigned 'e' '3' [] (.inl rfl) (List.forall_mem_singleton.mpr rfl)) true
  have space {text : List Char} {tokens : List Token} (spells : Spells text tokens) :
      Spells (' ' :: text) tokens := .blank (by decide) spells
  have quoted (s : String) {text : List Char} {tokens : List Token} (spells : Spells text tokens) :
      Spells (Json.quote s ++ text) (.string s :: tokens) :=
    .token (Json.Scan.lexeme_quote s) nofun spells
  have spells :=
    Spells.token .openBrace nofun <| quoted "x" <| .token .colon nofun <| space <|
    .token .openBracket nofun <| .token number (fun _ _ => Json.Scan.delimited_cons (by decide)) <|
    .token .closeBracket nofun <| .token .comma nofun <| space <| quoted "pages" <|
    .token .colon nofun <| space <| .token .openBracket nofun <| .token .openBracket nofun <|
    quoted "p" <| .token .comma nofun <| space <| .token .yes nofun <| .token .comma nofun <|
    space <| .token .openBrace nofun <| quoted "heightTop" <| .token .colon nofun <| space <|
    .token .null nofun <| .token .comma nofun <| space <| quoted "template" <|
    .token .colon nofun <| space <| quoted "single" <| .token .closeBrace nofun <|
    .token .comma nofun <| space <| .token .openBracket nofun <| .token .openBracket nofun <|
    quoted "f" <| .token .comma nofun <| space <| .token .openBracket nofun <|
    .token .openBracket nofun <| quoted "c" <| .token .comma nofun <| space <| quoted "text" <|
    .token .comma nofun <| space <| quoted "center" <| .token .comma nofun <| space <|
    quoted "fade" <| .token .comma nofun <| space <| .token .null nofun <| .token .comma nofun <|
    space <| .token .null nofun <| .token .closeBracket nofun <| .token .closeBracket nofun <|
    .token .closeBracket nofun <| .token .closeBracket nofun <| .token .comma nofun <| space <|
    .token .null nofun <| .token .closeBracket nofun <| .token .closeBracket nofun <|
    .token .comma nofun <| space <| quoted "articleId" <| .token .colon nofun <| space <|
    quoted "t" <| .token .closeBrace nofun .nil
  exact spells.of_eq (by rw [smallText, String.toList_join]; decide +kernel)

theorem every_spelling_small : small.Canonical ∧ small.InRange ∧ small.unstamp = small ∧
    ∃ tokens, small.Spelled tokens ∧ Spells smallText.toList tokens ∧
      ofText smallText = .ok small := by
  have canonical : small.Canonical := by
    simp [small, Canonical, Template.Canonical, Template.name]
  have inRange : small.InRange := by
    intro page member
    cases List.mem_singleton.mp member
    refine ⟨fun percent given => ?_, fun c placed => ?_⟩
    · cases given
    · cases List.mem_singleton.mp placed
      exact Nat.two_pow_pos 32
  exact ⟨canonical, inRange, rfl, smallTokens, spelled_small, spells_small,
    every_spelling canonical inRange rfl spelled_small spells_small⟩

end Article

end ScrollStory
