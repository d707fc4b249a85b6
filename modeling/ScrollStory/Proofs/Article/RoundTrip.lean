import ScrollStory.Proofs.Article.Spelling
import ScrollStory.Proofs.Article.Valid
import ScrollStory.Proofs.Json.Scan
import ScrollStory.Proofs.Json.Whole

/-!
# Articles survive their text

The value of each part of an article is one of its spellings, and so it is read as the part with its
membership forgotten. With the scanning of written values, the text of an article is read as the
article before it was stamped, in both layouts, and parsing the text of a parsed article gives the
article again.
-/

namespace ScrollStory

open Json (Format ListOf Number Token Value)

/-! ## The numbers of an article -/

section Numbers

variable {p : Number → Prop}

theorem everyNumber_optionalString (s : Option String) :
    (Value.optionalString s).EveryNumber p := by
  cases s <;> exact trivial

/-- An optional member brings no numbers but those of its value. -/
theorem everyNumber_optionalMember {α : Type} (key : String) {toJson : α → Value}
    (each : ∀ a, (toJson a).EveryNumber p) (value : Option α) :
    Value.EveryNumberOfMembers p (optionalMember key toJson value) := by
  cases value with
  | none => exact trivial
  | some a => exact ⟨each a, trivial⟩

theorem everyNumber_string (s : String) : (Value.string s).EveryNumber p := trivial

theorem Layout.everyNumber_toJson (layout : Layout) : layout.toJson.EveryNumber p :=
  ⟨trivial, everyNumber_optionalString _, everyNumber_optionalString _,
    everyNumber_optionalString _, everyNumber_optionalString _, trivial⟩

theorem Image.everyNumber_toJson (image : Image) : image.toJson.EveryNumber p := by
  rw [toJson, Value.EveryNumber, Value.everyNumberOfMembers_append,
    Value.everyNumberOfMembers_append]
  exact ⟨⟨⟨everyNumber_optionalString _, trivial⟩,
    everyNumber_optionalMember _ everyNumber_string _⟩, trivial, trivial⟩

/-- The only number in a written animation is its duration. -/
theorem Animation.everyNumber_toJson {animation : Animation}
    (duration : p (.whole animation.duration)) : animation.toJson.EveryNumber p := by
  rw [toJson, Value.EveryNumber, Value.everyNumberOfMembers_append]
  exact ⟨⟨trivial, duration, trivial, trivial⟩,
    everyNumber_optionalMember _ everyNumber_string _⟩

/-- The numbers in a written component are whole. -/
theorem Component.everyNumber_toJson (naturals : ∀ n : Nat, p (.whole n)) (c : Component) :
    c.toJson.EveryNumber p := by
  rw [toJson, Value.EveryNumber, Value.everyNumberOfMembers_append,
    Value.everyNumberOfMembers_append]
  exact ⟨⟨⟨trivial, trivial, trivial, Animation.everyNumber_toJson (naturals _), trivial⟩,
    everyNumber_optionalMember _ everyNumber_string _⟩,
    everyNumber_optionalMember _ Image.everyNumber_toJson _⟩

/-- The numbers of a list of values are those of the values. -/
theorem everyNumber_array {α : Type} {toJson : α → Value} {as : List α}
    (each : ∀ a ∈ as, (toJson a).EveryNumber p) : (Value.array (as.map toJson)).EveryNumber p := by
  rw [Value.EveryNumber, Value.everyNumberOfItems_iff]
  intro value member
  obtain ⟨a, inside, rfl⟩ := List.mem_map.mp member
  exact each a inside

theorem Frame.everyNumber_toJson (naturals : ∀ n : Nat, p (.whole n)) (frame : Frame) :
    frame.toJson.EveryNumber p :=
  ⟨trivial, everyNumber_array fun c _ => c.everyNumber_toJson naturals, trivial⟩

/-- The numbers in a written page are whole. -/
theorem Page.everyNumber_toJson (naturals : ∀ n : Nat, p (.whole n)) (page : Page) :
    page.toJson.EveryNumber p := by
  have frames := everyNumber_array fun frame (_ : frame ∈ page.frames) =>
    frame.everyNumber_toJson naturals
  rw [toJson, Value.EveryNumber, Value.everyNumberOfMembers_append]
  exact ⟨⟨trivial, trivial, page.layout.everyNumber_toJson, frames, trivial⟩,
    everyNumber_optionalMember _ naturals _⟩

/-- The numbers in the value of an article are natural numbers. -/
theorem Article.everyNumber_toJson (naturals : ∀ n : Nat, p (.whole n)) (article : Article) :
    article.toJson.EveryNumber p :=
  ⟨trivial, trivial, everyNumber_array fun page _ => page.everyNumber_toJson naturals, trivial⟩

end Numbers

/-! ## The values spell the parts -/

/-- A layout is spelled as it is written. -/
theorem Layout.spelled_toJson (layout : Layout) : layout.Spelled layout.toJson.tokens := by
  refine .of_object ⟨?_, ?_, ?_, ?_⟩ <;> simp [fields, Value.tokens]

theorem Image.spelled_toJson (image : Image) : image.Spelled image.toJson.tokens := by
  obtain ⟨data, caption, fullscreen⟩ := image
  cases caption <;> refine .of_object ⟨?_, ?_, ?_, ?_⟩ <;>
    simp [fields, optionalMember, Value.tokens]

theorem Animation.spelled_toJson (animation : Animation) :
    animation.Spelled animation.toJson.tokens :=
  .object true .rfl

/-- Items that are spelled as they are written make an array that is spelled as it is written. -/
theorem listOf_array {α : Type} {spelled : α → List Token → Prop} {toJson : α → Value}
    {as : List α} (each : ∀ a, spelled a (toJson a).tokens) :
    ListOf spelled as (Value.array (as.map toJson)).tokens := by
  rw [Value.tokens, Value.itemTokens_eq_map]
  refine .intro ?_
  rw [List.map_map, List.forall₂_map_right_iff, List.forall₂_same]
  exact fun a _ => each a

/-- A component is spelled as it is written. -/
theorem Component.spelled_toJson (c : Component) : c.Spelled c.toJson.tokens := by
  obtain ⟨id, type, slot, animation, contentHtml, image, membership⟩ := c
  cases contentHtml <;> cases image <;> refine .of_object ⟨?_, ?_, ?_, ?_⟩ <;>
    simp [fields, optionalMember, Value.tokens, Animation.spelled_toJson, Image.spelled_toJson]

theorem Frame.spelled_toJson (frame : Frame) : frame.Spelled frame.toJson.tokens := by
  have components := @listOf_array _ _ _ frame.components Component.spelled_toJson
  refine .of_object ⟨?_, ?_, ?_, ?_⟩ <;> simp [fields, components]
  simp [Value.tokens]

/-- A page is spelled as it is written. -/
theorem Page.spelled_toJson (page : Page) : page.Spelled page.toJson.tokens := by
  obtain ⟨id, pinnable, layout, frames, stepPercent⟩ := page
  have frames := @listOf_array _ _ _ frames Frame.spelled_toJson
  cases stepPercent <;> refine .of_object ⟨?_, ?_, ?_, ?_⟩ <;>
    simp [fields, optionalMember, frames, layout.spelled_toJson]
  all_goals simp [Value.tokens]

/-- An article is spelled as it is written. -/
theorem Article.spelled_toJson (article : Article) : article.Spelled article.toJson.tokens := by
  have pages := @listOf_array _ _ _ article.pages Page.spelled_toJson
  refine .of_object ⟨?_, ?_, ?_, ?_⟩ <;> simp [fields, pages]
  simp [Value.tokens]

/-! ## The round trip -/

namespace Article

/-- A canonical article in range is read back from its text, but for the memberships. -/
theorem ofText_text (format : Format) {article : Article} (canonical : article.Canonical)
    (inRange : article.InRange) : ofText (article.toJson.text format) = .ok article.unstamp := by
  have scanned := Value.tokensOfString_text format
    (article.everyNumber_toJson Json.Scan.scans_writeNat)
  have read := (takes canonical inRange _ article.spelled_toJson).2 []
  rw [List.append_nil] at read
  rw [ofText, Json.Read.all, scanned, read]
  rfl

/-- **Articles survive their text.** In both layouts, the text of an article is read as the article
with every membership forgotten, and parsing the text of a parsed article gives it again, stamps
included. -/
theorem text_roundTrip (format : Format) :
    (∀ article : Article, article.Canonical → article.InRange →
      ofText (article.toJson.text format) = .ok article.unstamp) ∧
    ∀ (settings : ParseSettings) (text : String) (article : Article),
      settings.parseText text = .ok article →
        settings.parseText (article.toJson.text format) = .ok article := by
  refine ⟨fun article => ofText_text format, ?_⟩
  intro settings text article parsed
  obtain ⟨unstamped, read, valid, rfl⟩ := of_accept parsed
  have decoded := decoded_ofText read
  have again := ofText_text format decoded.canonical decoded.inRange
  rw [decoded.unstamp] at again
  rw [toJson_stamp, ParseSettings.parseText, again]
  exact accept_of_valid valid

/-- An article with a layout of its own kind and a component that says it stands elsewhere. -/
def sample : Article where
  id := "tale"
  title := "Caf\u00e9 \"one\""
  pages := [{
    id := "intro"
    pinnable := true
    layout := { template := .other "masonry", heightTop := some "30%" }
    stepPercent := some 75
    frames := [{
      id := "f1"
      components := [{
        id := "intro-pic"
        type := .image
        slot := .left
        animation := { transition := "fade-in", duration := 300 }
        image := some { data := some "cat.jpg", caption := some "\u732b" }
        membership := ⟨"elsewhere", 7, "f9", 2⟩ }] }] }]

/-- A template that is not known, quotes in the title and a membership from elsewhere do not keep an
article from being read back, and neither does its being accepted before. -/
theorem text_roundTrip_sample :
    (sample.Canonical ∧ sample.InRange ∧
      ofText (sample.toJson.text .pretty) = .ok sample.unstamp) ∧
    (ParseSettings.parseText {} (sample.toJson.text .pretty) = .ok sample.stamp ∧
      ParseSettings.parseText {} (sample.stamp.toJson.text .pretty) = .ok sample.stamp) := by
  have canonical : sample.Canonical := by
    simp [sample, Canonical, Template.Canonical, Template.name]
  have inRange : sample.InRange := by
    intro page member
    cases List.mem_singleton.mp member
    refine ⟨fun percent given => ?_, fun c placed => ?_⟩
    · cases given
      decide
    · cases List.mem_singleton.mp placed
      simp only [Component.InRange]
      decide
  have read := (text_roundTrip .pretty).1 sample canonical inRange
  have parsed : ParseSettings.parseText {} (sample.toJson.text .pretty) = .ok sample.stamp := by
    rw [ParseSettings.parseText, read]
    rfl
  exact ⟨⟨canonical, inRange, read⟩, parsed, (text_roundTrip .pretty).2 {} _ _ parsed⟩

end Article

end ScrollStory
