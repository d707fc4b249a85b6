import ScrollStory.Article.Parse
import ScrollStory.Proofs.Article.Membership
import ScrollStory.Proofs.Json.Yields

/-!
# Decoded articles

What a reader of articles can give: templates go by another name only if the name is not known, the
numbers fit their fields, and no component is stamped (`ScrollStory.Article.yields_read`).
-/

namespace ScrollStory

open Json (Read Value Yields)

/-- A template that is not another template by a known name. -/
def Template.Canonical (template : Template) : Prop :=
  ∀ known ∈ [leftRight, topBottom, single], template ≠ other known.name

/-- Every template of an article is canonical. -/
def Article.Canonical (article : Article) : Prop :=
  ∀ page ∈ article.pages, page.layout.template.Canonical

/-- The duration fits a field of 32 bits. -/
def Component.InRange (c : Component) : Prop := c.animation.duration < twoTo 32

/-- The step, if there is one, and the durations fit fields of 32 bits. -/
structure Page.InRange (page : Page) : Prop where
  step : ∀ percent ∈ page.stepPercent, percent < twoTo 32
  durations : ∀ c ∈ page.components, c.InRange

/-- Every number of an article fits a field of 32 bits. -/
def Article.InRange (article : Article) : Prop :=
  ∀ page ∈ article.pages, page.InRange

/-! ## Templates -/

/-- A template that is found by a name is not the name of a known one under another constructor. -/
theorem Template.canonical_ofName (name : String) : (ofName name).Canonical := by
  intro known member same
  unfold ofName at same
  split at same
  · cases same
  · split at same
    · cases same
    · split at same
      · cases same
      · cases same
        simp only [List.mem_cons, List.not_mem_nil, or_false] at member
        rcases member with rfl | rfl | rfl <;> simp_all [Template.name]

/-- A canonical template is found by its name. -/
theorem Template.ofName_name {template : Template} (canonical : template.Canonical) :
    ofName template.name = template := by
  cases template with
  | other name =>
      have notLeftRight : name ≠ "left-right" := fun same =>
        canonical leftRight (by simp) (congrArg other same)
      have notTopBottom : name ≠ "top-bottom" := fun same =>
        canonical topBottom (by simp) (congrArg other same)
      have notSingle : name ≠ "single" := fun same =>
        canonical single (by simp) (congrArg other same)
      simp only [Template.name, ofName, notLeftRight, notTopBottom, notSingle, ↓reduceIte]
  | _ => rfl

/-! ## What the readers yield -/

/-- A component as a reader gives it. -/
structure Component.Decoded (c : Component) : Prop where
  inRange : c.InRange
  unstamped : c.unstamp = c

/-- A frame as a reader gives it. -/
def Frame.Decoded (frame : Frame) : Prop := ∀ c ∈ frame.components, c.Decoded

/-- A page as a reader gives it. -/
structure Page.Decoded (page : Page) : Prop where
  canonical : page.layout.template.Canonical
  step : ∀ percent ∈ page.stepPercent, percent < twoTo 32
  frames : ∀ frame ∈ page.frames, frame.Decoded

theorem Template.yields_read : Yields Template.read Canonical :=
  (Yields.trivial _).map fun name _ => canonical_ofName name

namespace Layout

/-- Every template that a draft holds is canonical. -/
def Draft.Canonical (d : Draft) : Prop := ∀ template ∈ d.template, template.Canonical

/-- Reading one more member of a layout keeps its template canonical. -/
theorem Draft.yields_member (name : String) (d : Draft) (canonical : d.Canonical) :
    Yields (Draft.member name d) Draft.Canonical := by
  unfold Draft.member
  split
  · refine (Yields.field Template.yields_read).bind fun template holds => .pure ?_
    intro other inside
    cases inside
    exact holds
  all_goals exact Yields.after fun _ => .pure canonical

/-- A layout that has been read has a canonical template. -/
theorem yields_read : Yields read fun layout => layout.template.Canonical := by
  refine Yields.record ?_ ?_
  · refine (Yields.draft (fun _ inside => nomatch inside) Draft.yields_member).bind ?_
    intro d canonical
    exact (Yields.required canonical).bind fun template holds => .pure holds
  · refine (Yields.itemAt Template.yields_read).bind fun template holds => ?_
    exact Yields.after fun _ => .after fun _ => .after fun _ => .after fun _ => .pure holds

end Layout

/-- A duration that is found is a number of 32 bits. -/
theorem Animation.duration?_lt {value : Option Value} {duration : Nat}
    (found : duration? value = some duration) : duration < twoTo 32 := by
  unfold duration? at found
  split at found
  · cases found
    exact Nat.two_pow_pos 32
  · split at found
    · rename_i bounds
      cases found
      omega
    · cases found
  · cases found

/-- An animation that is found in a value has a duration of 32 bits. -/
theorem Animation.duration_lt_of_ofValue? {value : Value} {animation : Animation}
    (found : ofValue? value = some animation) : animation.duration < twoTo 32 := by
  unfold ofValue? at found
  split at found
  · cases found
    exact Nat.two_pow_pos 32
  · simp only [Option.bind_eq_bind, Option.pure_def, Option.bind_eq_some_iff,
      Option.some.injEq] at found
    obtain ⟨_, _, duration, ⟨_, _, checked⟩, _, _, _, _, rfl⟩ := found
    exact duration?_lt checked
  · cases found

/-- An animation that has been read has a duration of 32 bits. -/
theorem Animation.yields_read (enclosing : Nat) :
    Yields (read enclosing) fun animation => animation.duration < twoTo 32 := by
  refine Yields.after fun value => ?_
  cases found : ofValue? value with
  | some animation => exact Yields.pure (duration_lt_of_ofValue? found)
  | none => exact Yields.throw _

namespace Component

/-- The duration that a draft holds fits 32 bits. -/
def Draft.InRange (d : Draft) : Prop := ∀ animation ∈ d.animation, animation.duration < twoTo 32

/-- Reading one more member of a component keeps the duration of its animation in range. -/
theorem Draft.yields_member (enclosing : Nat) (name : String) (d : Draft) (inRange : d.InRange) :
    Yields (Draft.member enclosing name d) Draft.InRange := by
  unfold Draft.member
  split
  case h_4 =>
    refine (Yields.field (Animation.yields_read _)).bind fun animation holds => .pure ?_
    intro other inside
    cases inside
    exact holds
  all_goals exact Yields.after fun _ => .pure inRange

theorem yields_read (enclosing : Nat) : Yields (read enclosing) Decoded := by
  refine Yields.record ?_ ?_
  · refine (Yields.draft (fun _ inside => nomatch inside) (Draft.yields_member enclosing)).bind ?_
    intro d inRange
    refine Yields.after fun _ => .after fun _ => .after fun _ => ?_
    exact (Yields.required inRange).bind fun animation holds => .pure ⟨holds, rfl⟩
  · refine Yields.after fun _ => .after fun _ => .after fun _ => ?_
    refine (Yields.itemAt (Animation.yields_read _)).bind fun animation holds => ?_
    exact Yields.after fun _ => .after fun _ => .pure ⟨holds, rfl⟩

end Component

namespace Frame

/-- The components that a draft holds are as a reader gives them. -/
def Draft.Decoded (d : Draft) : Prop := ∀ components ∈ d.components, ∀ c ∈ components, c.Decoded

/-- Reading one more member of a frame keeps its components decoded. -/
theorem Draft.yields_member (enclosing : Nat) (name : String) (d : Draft) (decoded : d.Decoded) :
    Yields (Draft.member enclosing name d) Draft.Decoded := by
  unfold Draft.member
  split
  case h_2 =>
    refine (Yields.field (Component.yields_read _).list).bind fun components holds => .pure ?_
    intro other inside
    cases inside
    exact holds
  all_goals exact Yields.after fun _ => .pure decoded

theorem yields_read (enclosing : Nat) : Yields (read enclosing) Decoded := by
  refine Yields.record ?_ ?_
  · refine (Yields.draft (fun _ inside => nomatch inside) (Draft.yields_member enclosing)).bind ?_
    intro d decoded
    refine Yields.after fun _ => ?_
    exact (Yields.required decoded).bind fun components holds => .pure holds
  · refine Yields.after fun _ => ?_
    exact (Yields.itemAt (Component.yields_read _).list).bind fun components holds => .pure holds

end Frame

namespace Page

/-- The parts of a page that a draft holds are as a reader gives them. -/
structure Draft.Decoded (d : Draft) : Prop where
  canonical : ∀ layout ∈ d.layout, layout.template.Canonical
  step : ∀ percent ∈ d.stepPercent.join, percent < twoTo 32
  frames : ∀ frames ∈ d.frames, ∀ frame ∈ frames, frame.Decoded

/-- Reading one more member of a page keeps its parts decoded. -/
theorem Draft.yields_member (enclosing : Nat) (name : String) (d : Draft) (decoded : d.Decoded) :
    Yields (Draft.member enclosing name d) Draft.Decoded := by
  unfold Draft.member
  split
  case h_3 =>
    refine (Yields.field Layout.yields_read).bind fun layout holds => .pure ?_
    refine { decoded with canonical := ?_ }
    intro other inside
    cases inside
    exact holds
  case h_4 =>
    refine (Yields.field (Frame.yields_read _).list).bind fun frames holds => .pure ?_
    refine { decoded with frames := ?_ }
    intro other inside
    cases inside
    exact holds
  case h_5 =>
    refine (Yields.field Yields.word.optional).bind fun step holds => .pure ?_
    exact { decoded with step := holds }
  all_goals exact Yields.after fun _ => .pure { decoded with }

theorem yields_read (enclosing : Nat) : Yields (read enclosing) Decoded := by
  refine Yields.record ?_ ?_
  · have start : Draft.Decoded {} := by
      constructor <;> exact fun _ inside => nomatch inside
    refine (Yields.draft start (Draft.yields_member enclosing)).bind fun d decoded => ?_
    refine Yields.after fun _ => .after fun _ => ?_
    refine (Yields.required decoded.canonical).bind fun layout canonical => ?_
    refine (Yields.required decoded.frames).bind fun frames holds => .pure ?_
    exact ⟨canonical, decoded.step, holds⟩
  · refine Yields.after fun _ => .after fun _ => ?_
    refine (Yields.itemAt Layout.yields_read).bind fun layout canonical => ?_
    refine (Yields.itemAt (Frame.yields_read _).list).bind fun frames holds => ?_
    have none : ∀ percent ∈ (none : Option Nat), percent < twoTo 32 :=
      fun _ inside => nomatch inside
    refine (Yields.itemOr none Yields.word.optional).bind fun step inRange => .pure ?_
    exact ⟨canonical, inRange, holds⟩

end Page

namespace Article

/-- An article as a reader gives it. -/
def Decoded (article : Article) : Prop := ∀ page ∈ article.pages, page.Decoded

/-- The pages that a draft holds are as a reader gives them. -/
def Draft.Decoded (d : Draft) : Prop := ∀ pages ∈ d.pages, ∀ page ∈ pages, page.Decoded

theorem Draft.yields_member (name : String) (d : Draft) (decoded : d.Decoded) :
    Yields (Draft.member name d) Draft.Decoded := by
  unfold Draft.member
  split
  case h_3 =>
    refine (Yields.field (Page.yields_read _).list).bind fun pages holds => .pure ?_
    intro other inside
    cases inside
    exact holds
  all_goals exact Yields.after fun _ => .pure decoded

/-- **What reading gives.** Every article that is read is decoded. -/
theorem yields_read : Yields read Decoded := by
  refine Yields.record ?_ ?_
  · refine (Yields.draft (fun _ inside => nomatch inside) Draft.yields_member).bind ?_
    intro d decoded
    refine Yields.after fun _ => ?_
    exact (Yields.required decoded).bind fun pages holds => .pure holds
  · refine Yields.after fun _ => .after fun _ => ?_
    exact (Yields.itemAt (Page.yields_read _).list).bind fun pages holds => .pure holds

/-- An article that is read from a text is as a reader leaves it. -/
theorem decoded_ofText {text : String} {article : Article} (read : ofText text = .ok article) :
    article.Decoded := by
  unfold ofText Read.all at read
  cases taken : Article.read (Json.tokensOfString text) with
  | error fault => simp [taken, bind, Except.bind] at read
  | ok result =>
      obtain ⟨other, rest⟩ := result
      have decoded := yields_read _ _ _ taken
      simp only [taken, bind, Except.bind] at read
      split at read
      · cases read
        exact decoded
      · cases read

theorem Decoded.canonical {article : Article} (decoded : article.Decoded) : article.Canonical :=
  fun page member => (decoded page member).canonical

/-- The numbers in a decoded article are in range. -/
theorem Decoded.inRange {article : Article} (decoded : article.Decoded) : article.InRange := by
  intro page member
  refine ⟨(decoded page member).step, fun c inside => ?_⟩
  obtain ⟨frame, placed, inside⟩ := List.mem_flatMap.mp inside
  exact ((decoded page member).frames frame placed c inside).inRange

/-- A decoded article has no memberships yet. -/
theorem Decoded.unstamp {article : Article} (decoded : article.Decoded) :
    article.unstamp = article := by
  have frames (frame : Frame) (known : frame.Decoded) : frame.unstamp = frame := by
    have components := List.map_congr_left fun c member => (known c member).unstamped
    rw [Frame.unstamp, components, List.map_id']
  have pages (page : Page) (known : page.Decoded) : page.unstamp = page := by
    have same := List.map_congr_left fun frame member => frames frame (known.frames frame member)
    rw [Page.unstamp, same, List.map_id']
  have same := List.map_congr_left fun page member => pages page (decoded page member)
  rw [Article.unstamp, same, List.map_id']

end Article

end ScrollStory
