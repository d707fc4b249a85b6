import ScrollStory.Css.Stylesheet
import ScrollStory.Proofs.Article.WellFormed
import ScrollStory.Proofs.Plan.Bindings

/-!
# Lengths in stylesheets

Stylesheets know white space and digits of ASCII only. A size is accepted with white space around it
and digits in it of any script, and it is copied as it is, so the accepted sizes that are lengths
are those of ASCII characters without a vertical tab (`ScrollStory.CssLength.isLength_iff`), and all
that can be said of the widths and heights of an article is that they were accepted
(`ScrollStory.Article.declared_lengths`).
-/

namespace ScrollStory

theorem forall_mem_of_all {α : Type} {p : α → Prop} [DecidablePred p] {as : List α}
    (all : as.all (fun a => decide (p a)) = true) : ∀ a ∈ as, p a :=
  fun a member => of_decide_eq_true (List.all_eq_true.mp all a member)

/-- A list without the characters at its two ends that satisfy `p`. -/
def Text.strip (p : Char → Bool) (cs : List Char) : List Char :=
  dropEndWhile p (cs.dropWhile p)

namespace CssLength

/-! ## How lengths are written -/

/-- A length in some digits: a zero, or digits with a unit behind them, or digits with a point, more
digits and a unit behind them. -/
inductive Written (digit : Char → Bool) : List Char → Prop where
  | zero : Written digit ['0']
  | whole {digits unit : List Char} (some : digits ≠ []) (all : ∀ c ∈ digits, digit c = true)
      (known : unit ∈ units) : Written digit (digits ++ unit)
  | broken {digits places unit : List Char} (some : digits ≠ [])
      (all : ∀ c ∈ digits, digit c = true) (somePlaces : places ≠ [])
      (allPlaces : ∀ c ∈ places, digit c = true) (known : unit ∈ units) :
      Written digit (digits ++ '.' :: (places ++ unit))

/-- White space of stylesheets. -/
def isSpace (c : Char) : Bool := [' ', '\t', '\n', '\r', '\x0C'].contains c

/-- A length of a stylesheet, up to white space around it. -/
def IsLength (s : String) : Prop := Written Char.isDigit (Text.strip isSpace s.toList)

/-- A character about which stylesheets and Unicode agree: one of ASCII, and no vertical tab. -/
def Common (c : Char) : Prop := c.toNat < 128 ∧ c ≠ '\x0B'

instance : DecidablePred Common := fun _ => inferInstanceAs (Decidable (_ ∧ _))

/-! ## What is accepted -/

/-- A length in some digits is one in all digits among which these are. -/
theorem Written.imp {digit digit' : Char → Bool} {cs : List Char}
    (same : ∀ c ∈ cs, digit c = true → digit' c = true) (written : Written digit cs) :
    Written digit' cs := by
  cases written with
  | zero => exact .zero
  | whole some all known =>
      refine .whole some (fun c member => same c ?_ (all c member)) known
      exact List.mem_append_left _ member
  | broken some all somePlaces allPlaces known =>
      refine .broken some (fun c member => same c ?_ (all c member)) somePlaces
        (fun c member => same c ?_ (allPlaces c member)) known
      · exact List.mem_append_left _ member
      · exact List.mem_append_right _ (List.mem_cons_of_mem _ (List.mem_append_left _ member))

/-- Units begin with no digit, and what follows the whole digits may be a unit alone. -/
theorem digits_unit {unit : List Char} (known : unit ∈ units) :
    unit.takeWhile Text.isDecimalDigit = [] ∧ unit.dropWhile Text.isDecimalDigit = unit ∧
      isTail unit = true := by
  revert known unit
  decide

/-- Behind the whole digits of a length there is a unit, or a point with more digits and a unit. -/
theorem isTail_iff {tail : List Char} : isTail tail = true ↔ tail ∈ units ∨
    ∃ places unit, places ≠ [] ∧ (∀ c ∈ places, Text.isDecimalDigit c = true) ∧ unit ∈ units ∧
      tail = '.' :: (places ++ unit) := by
  constructor
  · intro accepted
    unfold isTail at accepted
    split at accepted
    · rename_i rest
      simp only [Bool.and_eq_true, Bool.not_eq_true', List.isEmpty_eq_false_iff,
        List.contains_iff_mem] at accepted
      refine .inr ⟨_, _, accepted.1, fun c member => ?_, accepted.2, ?_⟩
      · exact List.all_eq_true.mp List.all_takeWhile c member
      · rw [List.takeWhile_append_dropWhile]
    · exact .inl (List.contains_iff_mem.mp accepted)
  · rintro (known | ⟨places, unit, some, all, known, rfl⟩)
    · exact (digits_unit known).2.2
    · obtain ⟨none, rest, _⟩ := digits_unit known
      simp [isTail, List.takeWhile_append_of_pos all, List.dropWhile_append_of_pos all, none, rest,
        some, known]

/-- The checks accept what is written in decimal digits of any script. -/
theorem accepts_iff_written (cs : List Char) :
    accepts cs = true ↔ Written Text.isDecimalDigit cs := by
  simp only [accepts, Bool.or_eq_true, Bool.and_eq_true, decide_eq_true_eq, Bool.not_eq_true',
    List.isEmpty_eq_false_iff, isTail_iff]
  constructor
  · rintro (rfl | ⟨some, tail⟩)
    · exact .zero
    · have all : ∀ c ∈ cs.takeWhile Text.isDecimalDigit, Text.isDecimalDigit c = true :=
        List.all_eq_true.mp List.all_takeWhile
      rw [← List.takeWhile_append_dropWhile (p := Text.isDecimalDigit) (l := cs)]
      rcases tail with known | ⟨places, unit, somePlaces, allPlaces, known, split⟩
      · exact .whole some all known
      · rw [split]
        exact .broken some all somePlaces allPlaces known
  · rintro (_ | ⟨some, all, known⟩ | ⟨some, all, somePlaces, allPlaces, known⟩)
    · exact .inl rfl
    · obtain ⟨none, rest, _⟩ := digits_unit known
      right
      rw [List.takeWhile_append_of_pos all, List.dropWhile_append_of_pos all, none, rest]
      exact ⟨by simpa using some, .inl known⟩
    · have point : Text.isDecimalDigit '.' = false := by decide
      right
      rw [List.takeWhile_append_of_pos all, List.dropWhile_append_of_pos all,
        List.takeWhile_cons_of_neg (by simp [point]), List.dropWhile_cons_of_neg (by simp [point])]
      exact ⟨by simpa using some, .inr ⟨_, _, somePlaces, allPlaces, known, rfl⟩⟩

/-- A text is accepted as a size if, without the white space around it, it is a length in decimal
digits of any script. -/
theorem isCssLength_iff (s : String) :
    isCssLength s = true ↔ Written Text.isDecimalDigit (Text.strip Text.isBlank s.toList) := by
  rw [isCssLength, Text.trim, String.toList_ofList, accepts_iff_written, Text.strip]

/-! ## Characters of ASCII -/

/-- Of the characters of ASCII, all but the vertical tab are white space and digits for both. -/
theorem common_agree : ∀ n : Fin 128, n ≠ 11 →
    Text.isBlank (Char.ofNat n) = isSpace (Char.ofNat n) ∧
      Text.isDecimalDigit (Char.ofNat n) = (Char.ofNat n).isDigit := by
  decide +kernel

/-- Stylesheets and Unicode agree about common characters. -/
theorem Common.agree {c : Char} (common : Common c) :
    Text.isBlank c = isSpace c ∧ Text.isDecimalDigit c = c.isDigit := by
  have apart : (⟨c.toNat, common.1⟩ : Fin 128) ≠ 11 := by
    intro same
    apply common.2
    rw [← Char.ofNat_toNat c, show c.toNat = 11 from congrArg Fin.val same]
  simpa only [Char.ofNat_toNat] using common_agree ⟨c.toNat, common.1⟩ apart

/-- The white space of stylesheets is common. -/
theorem common_of_isSpace {c : Char} (space : isSpace c = true) : Common c := by
  have listed : ∀ c ∈ [' ', '\t', '\n', '\r', '\x0C'], Common c := forall_mem_of_all (by decide)
  exact listed c (List.contains_iff_mem.mp space)

/-- The digits of stylesheets are common. -/
theorem common_of_isDigit {c : Char} (digit : c.isDigit = true) : Common c := by
  have low : c.toNat < 128 ∧ c.toNat ≠ 11 := by
    rw [Char.isDigit, Bool.and_eq_true, decide_eq_true_eq, decide_eq_true_eq] at digit
    have upper : c.toNat ≤ 57 := digit.2
    have lower : 48 ≤ c.toNat := digit.1
    omega
  refine ⟨low.1, ?_⟩
  rintro rfl
  exact low.2 rfl

/-- A length has digits, a point and the letters of units. -/
theorem mem_written {digit : Char → Bool} {cs : List Char} (written : Written digit cs) {c : Char}
    (member : c ∈ cs) : digit c = true ∨ c ∈ '0' :: '.' :: units.flatten := by
  have inUnit {unit : List Char} (known : unit ∈ units) (inside : c ∈ unit) :
      c ∈ '0' :: '.' :: units.flatten :=
    List.mem_cons_of_mem _ (List.mem_cons_of_mem _ (List.mem_flatten.mpr ⟨unit, known, inside⟩))
  cases written with
  | zero =>
      cases List.mem_singleton.mp member
      exact .inr List.mem_cons_self
  | whole _ all known =>
      rcases List.mem_append.mp member with inside | inside
      · exact .inl (all c inside)
      · exact .inr (inUnit known inside)
  | broken _ all _ allPlaces known =>
      simp only [List.mem_append, List.mem_cons] at member
      rcases member with inside | rfl | inside | inside
      · exact .inl (all c inside)
      · exact .inr (List.mem_cons_of_mem _ List.mem_cons_self)
      · exact .inl (allPlaces c inside)
      · exact .inr (inUnit known inside)

/-- A length of stylesheets has common characters. -/
theorem common_of_written {cs : List Char} (written : Written Char.isDigit cs) :
    ∀ c ∈ cs, Common c := by
  have others : ∀ c ∈ '0' :: '.' :: units.flatten, Common c := forall_mem_of_all (by decide)
  intro c member
  rcases mem_written written member with digit | other
  · exact common_of_isDigit digit
  · exact others c other

/-- A character of a text is among those that are taken off, or in what is left. -/
theorem mem_strip {p : Char → Bool} {cs : List Char} {c : Char} (member : c ∈ cs) :
    p c = true ∨ c ∈ Text.strip p cs := by
  by_cases dropped : p c = true
  · exact .inl dropped
  · right
    have kept (cs : List Char) (member : c ∈ cs) : c ∈ cs.dropWhile p := by
      rw [← List.takeWhile_append_dropWhile (p := p) (l := cs)] at member
      refine (List.mem_append.mp member).resolve_left fun taken => dropped ?_
      exact List.all_eq_true.mp List.all_takeWhile c taken
    rw [Text.strip, Text.dropEndWhile, List.mem_reverse]
    exact kept _ (List.mem_reverse.mpr (kept cs member))

/-- What is taken off depends on the characters of the text only. -/
theorem strip_congr {p q : Char → Bool} {cs : List Char} (same : ∀ c ∈ cs, p c = q c) :
    Text.strip p cs = Text.strip q cs := by
  have drop (cs : List Char) (same : ∀ c ∈ cs, p c = q c) : cs.dropWhile p = cs.dropWhile q := by
    induction cs with
    | nil => rfl
    | cons c cs ih =>
        rw [List.dropWhile_cons, List.dropWhile_cons, same c List.mem_cons_self,
          ih fun c member => same c (List.mem_cons_of_mem _ member)]
  rw [Text.strip, Text.strip, Text.dropEndWhile, Text.dropEndWhile, drop cs same, drop]
  intro c member
  exact same c ((List.dropWhile_sublist q).subset (List.mem_reverse.mp member))

/-- An accepted size is a length of a stylesheet just if stylesheets know all of its characters. -/
theorem isLength_iff (s : String) :
    IsLength s ↔ isCssLength s = true ∧ ∀ c ∈ s.toList, Common c := by
  have agree (common : ∀ c ∈ s.toList, Common c) : isCssLength s = true ↔ IsLength s := by
    have stripped := strip_congr fun c member => (common c member).agree.1
    rw [isCssLength_iff, IsLength, stripped]
    have inside : ∀ c ∈ Text.strip isSpace s.toList, Common c := by
      intro c member
      refine common c ((List.dropWhile_sublist isSpace).subset ?_)
      exact List.mem_reverse.mp
        ((List.dropWhile_sublist isSpace).subset (List.mem_reverse.mp member))
    constructor
    · exact Written.imp fun c member digit => (inside c member).agree.2 ▸ digit
    · exact Written.imp fun c member digit => (inside c member).agree.2 ▸ digit
  constructor
  · intro length
    have common : ∀ c ∈ s.toList, Common c := fun c member =>
      (mem_strip member).elim common_of_isSpace (common_of_written length c)
    exact ⟨(agree common).mpr length, common⟩
  · rintro ⟨accepted, common⟩
    exact (agree common).mp accepted

end CssLength

/-! ## Sizes in stylesheets -/

open CssLength

/-- The size that a layout gives to a slot. -/
def Layout.size? (layout : Layout) : Slot → Option String
  | .left => layout.widthLeft
  | .right => layout.widthRight
  | .top => layout.heightTop
  | .bottom => layout.heightBottom
  | .center => none

/-- The property that takes the size of a slot. -/
def Slot.dimension : Slot → String
  | .top | .bottom => "height"
  | .left | .right | .center => "width"

/-- Every width and every height among some declarations is `auto` or accepted as a size. -/
def Css.Sized (declarations : List (String × String)) : Prop :=
  ∀ declaration ∈ declarations, declaration.1 ∈ ["width", "height"] →
    declaration.2 = "auto" ∨ isCssLength declaration.2 = true

namespace Css

instance (declarations : List (String × String)) : Decidable (Sized declarations) :=
  inferInstanceAs (Decidable (∀ _ ∈ _, _ → _))

/-- The sizes of a component in a column are fixed. -/
theorem sized_columnComponent (c : Component) (pinnable : Bool) :
    Sized (columnComponent c pinnable) := by
  unfold columnComponent
  split <;> cases pinnable <;> decide

/-- The sizes of a component in a row are fixed. -/
theorem sized_rowComponent (c : Component) (slot : Slot) (pinnable : Bool) :
    Sized (rowComponent c slot pinnable) := by
  unfold rowComponent
  split
  · cases pinnable <;> decide
  · cases pinnable <;> cases slot <;> decide

/-- The sizes of the component of a single slot are fixed. -/
theorem sized_onlySlotRules (pageId : String) (slot : Slot) (c : Component) (pinnable : Bool) :
    ∀ rule ∈ onlySlotRules pageId slot c pinnable, Sized rule.declarations := by
  unfold onlySlotRules
  dsimp only
  split
  · simp only [List.forall_mem_singleton]
    decide
  · split
    all_goals
      simp only [List.forall_mem_cons]
      decide

/-- What holds of the rules of components under each template holds of them all. -/
theorem forall_groupRules {P : List (String × String) → Prop}
    (column : ∀ c pinnable, P (columnComponent c pinnable))
    (row : ∀ c slot pinnable, P (rowComponent c slot pinnable))
    (only : ∀ pageId slot c pinnable, ∀ rule ∈ onlySlotRules pageId slot c pinnable,
      P rule.declarations)
    (page : Page) (group : Group) : ∀ rule ∈ groupRules page group, P rule.declarations := by
  unfold groupRules
  split
  · exact List.forall_mem_nil _
  · dsimp only
    split
    · exact List.forall_mem_singleton.mpr (column _ _)
    · exact List.forall_mem_singleton.mpr (row _ _ _)
    · exact only _ _ _ _
    · exact List.forall_mem_nil _

/-- A size is accepted if those that are given are, and also the one that is taken if none is. -/
theorem accepted_size {size : Option String} {usual : String}
    (given : ∀ value ∈ size, isCssLength value = true) (fallback : isCssLength usual = true) :
    isCssLength (size.getD usual) = true := by
  cases size with
  | none => exact fallback
  | some value => exact given value rfl

end Css

namespace Page

variable {page : Page} {convention : Convention}

/-- A well-formed page gives accepted sizes to its slots. -/
theorem WellFormed.size (well : page.WellFormed convention) (slot : Slot) {size : String}
    (given : page.layout.size? slot = some size) : isCssLength size = true := by
  refine well.sizes (page.layout.size? slot) ?_ size given
  cases slot with
  | center => cases given
  | _ => simp [Layout.size?]

/-- The four sizes that a well-formed page copies into its rules are accepted. -/
theorem WellFormed.copied_sizes (well : page.WellFormed convention) :
    isCssLength page.layout.leftWidth = true ∧ isCssLength page.layout.rightWidth = true ∧
      isCssLength page.layout.topHeight = true ∧ isCssLength page.layout.bottomHeight = true :=
  ⟨Css.accepted_size (fun _ given => well.size .left given) (by decide),
    Css.accepted_size (fun _ given => well.size .right given) (by decide),
    Css.accepted_size (fun _ given => well.size .top given) (by decide),
    Css.accepted_size (fun _ given => well.size .bottom given) (by decide)⟩

/-- The widths and heights in the rules of a well-formed layout are accepted. -/
theorem sized_layoutRules (well : page.WellFormed convention) {rules : List Css.Rule}
    (known : Css.layoutRules? page = some rules) : ∀ rule ∈ rules, Css.Sized rule.declarations := by
  obtain ⟨left, right, top, bottom⟩ := well.copied_sizes
  have column : isCssLength "100vh" = true := by decide
  have row : isCssLength "60%" = true := by decide
  unfold Css.layoutRules? at known
  split at known
  · cases known
    simp only [List.forall_mem_cons]
    refine ⟨by decide, ?_, ?_, List.forall_mem_nil _⟩
    all_goals simp [Css.columnRule, Css.Sized, left, right, column]
  · cases known
    simp only [List.forall_mem_cons]
    refine ⟨by decide, ?_, ?_, List.forall_mem_nil _⟩
    all_goals simp [Css.Sized, top, bottom, row]
  · cases known
    simp only [List.forall_mem_cons]
    exact ⟨by decide, by decide, List.forall_mem_nil _⟩
  · cases known

/-- The size of a slot is copied into the rule of the element around the slot. -/
theorem exists_declared {rules : List Css.Rule} (known : Css.layoutRules? page = some rules)
    {slots : List Slot} (template : page.layout.template.slots? = some slots) {slot : Slot}
    (listed : slot ∈ slots) {size : String} (given : page.layout.size? slot = some size) :
    ∃ rule ∈ rules, rule.selector = .wrapper page.id slot ∧
      (slot.dimension, size) ∈ rule.declarations := by
  unfold Css.layoutRules? at known
  split at known
  · rename_i same
    cases known
    rw [same] at template
    cases template
    simp only [List.mem_cons, List.not_mem_nil, or_false] at listed
    rcases listed with rfl | rfl
    · -- The rule for the page itself comes first, and then those for its slots in order.
      have width : page.layout.leftWidth = size := congrArg (Option.getD · "50%") given
      refine ⟨_, List.mem_cons_of_mem _ List.mem_cons_self, rfl, ?_⟩
      simp [Css.columnRule, Slot.dimension, width]
    · have width : page.layout.rightWidth = size := congrArg (Option.getD · "50%") given
      refine ⟨_, List.mem_cons_of_mem _ (List.mem_cons_of_mem _ List.mem_cons_self), rfl, ?_⟩
      simp [Css.columnRule, Slot.dimension, width]
  · rename_i same
    cases known
    rw [same] at template
    cases template
    simp only [List.mem_cons, List.not_mem_nil, or_false] at listed
    rcases listed with rfl | rfl
    · have height : page.layout.topHeight = size := congrArg (Option.getD · "20%") given
      refine ⟨_, List.mem_cons_of_mem _ List.mem_cons_self, rfl, ?_⟩
      simp [Slot.dimension, height]
    · have height : page.layout.bottomHeight = size := congrArg (Option.getD · "80%") given
      refine ⟨_, List.mem_cons_of_mem _ (List.mem_cons_of_mem _ List.mem_cons_self), rfl, ?_⟩
      simp [Slot.dimension, height]
  · rename_i same
    rw [same] at template
    cases template
    cases List.mem_singleton.mp listed
    cases given
  · cases known

/-- The rules of a page are those of its layout and of its groups, or there are none. -/
theorem of_rules {rules : List Css.Rule} (done : page.rules = .ok rules) :
    (∃ layout, ∃ groups : List Group, Css.layoutRules? page = some layout ∧
        rules = layout ++ groups.flatMap (Css.groupRules page)) ∨
      Css.layoutRules? page = none ∧ rules = [] := by
  obtain ⟨groups, _, done⟩ := of_bind_ok done
  cases known : Css.layoutRules? page with
  | some layout =>
      rw [known] at done
      cases done
      exact .inl ⟨layout, groups, rfl, rfl⟩
  | none =>
      rw [known] at done
      cases done
      exact .inr ⟨rfl, rfl⟩

/-- The pages without rules for their layout are those of a template that is not known. -/
theorem layoutRules?_eq_none_iff :
    Css.layoutRules? page = none ↔ page.layout.template.slots? = none := by
  unfold Css.layoutRules?
  cases template : page.layout.template with
  | other name => exact ⟨fun _ => rfl, fun _ => rfl⟩
  | _ => exact ⟨fun unknown => (nomatch unknown), fun unknown => (nomatch unknown)⟩

end Page

namespace Article

/-- **Accepted sizes and lengths.** Accepted is what is a length with white space and digits of any
script, and of that the lengths of stylesheets are those of characters that stylesheets know. The
rules of a page of an accepted article take the sizes of its slots as they are given, and every
width and height there is `auto` or accepted. -/
theorem declared_lengths {settings : ParseSettings} {read : Except Json.Fault Article}
    {article : Article} (accepted : settings.accept read = .ok article) :
    (∀ s, isCssLength s = true ↔
      Written Text.isDecimalDigit (Text.strip Text.isBlank s.toList)) ∧
    (∀ s, IsLength s ↔ isCssLength s = true ∧ ∀ c ∈ s.toList, Common c) ∧
    ∀ page ∈ article.pages, ∀ rules, page.rules = .ok rules →
      (∀ slots, page.layout.template.slots? = some slots → ∀ slot ∈ slots,
        ∀ size, page.layout.size? slot = some size →
          ∃ rule ∈ rules, rule.selector = .wrapper page.id slot ∧
            (slot.dimension, size) ∈ rule.declarations) ∧
      ∀ rule ∈ rules, Css.Sized rule.declarations := by
  refine ⟨isCssLength_iff, isLength_iff, ?_⟩
  intro page inside rules done
  have well := (wellFormed_of_accept accepted).pages page inside
  rcases Page.of_rules done with ⟨layout, groups, known, rfl⟩ | ⟨unknown, rfl⟩
  · constructor
    · intro slots template slot listed size given
      obtain ⟨rule, member, declared⟩ := Page.exists_declared known template listed given
      exact ⟨rule, List.mem_append_left _ member, declared⟩
    · intro rule member
      rcases List.mem_append.mp member with member | member
      · exact Page.sized_layoutRules well known rule member
      · obtain ⟨group, _, member⟩ := List.mem_flatMap.mp member
        exact Css.forall_groupRules Css.sized_columnComponent Css.sized_rowComponent
          Css.sized_onlySlotRules page group rule member
  · constructor
    · intro slots template
      rw [Page.layoutRules?_eq_none_iff.mp unknown] at template
      cases template
    · exact List.forall_mem_nil _

/-- A page with two columns, the left one of a given width. -/
def columns (width : String) : Article where
  id := "tale"
  pages := [
    { id := "a"
      pinnable := true
      layout := { template := .leftRight, widthLeft := some width } }]

/-- A width with white space around it is accepted and copied with the white space. -/
theorem declared_lengths_columns :
    ∃ rules, ParseSettings.accept {} (.ok (columns " 40%\n")) = .ok (columns " 40%\n").stamp ∧
      (columns " 40%\n").stamp.pages.mapM Page.rules = .ok [rules] ∧
      (∃ rule ∈ rules, rule.selector = .wrapper "a" .left ∧
        ("width", " 40%\n") ∈ rule.declarations) ∧
      IsLength " 40%\n" := by
  have accepted : ParseSettings.accept {} (.ok (columns " 40%\n")) =
      .ok (columns " 40%\n").stamp := rfl
  obtain ⟨_, lengths, pages⟩ := declared_lengths accepted
  obtain ⟨copied, _⟩ := pages _ List.mem_cons_self _ rfl
  refine ⟨_, accepted, rfl, copied _ rfl .left (by decide) _ rfl, (lengths _).mpr ⟨rfl, ?_⟩⟩
  exact forall_mem_of_all (by decide)

/-- Sizes with a digit of another script, or with a space that stylesheets do not know, are
accepted, and such a size comes into the rules of the page. -/
theorem declared_lengths_fails_foreign :
    (isCssLength "٣px" = true ∧ ¬IsLength "٣px") ∧
      (isCssLength "\u00a050%" = true ∧ ¬IsLength "\u00a050%") ∧
      ParseSettings.accept {} (.ok (columns "٣px")) = .ok (columns "٣px").stamp ∧
      ∃ rules, (columns "٣px").stamp.pages.mapM Page.rules = .ok [rules] ∧
        ∃ rule ∈ rules, ("width", "٣px") ∈ rule.declarations := by
  have foreign {s : String} {c : Char} (member : c ∈ s.toList) (far : 128 ≤ c.toNat) :
      ¬IsLength s := by
    intro length
    exact absurd (((isLength_iff s).mp length).2 c member).1 (by omega)
  refine ⟨⟨rfl, foreign (c := '٣') (by decide) (by decide)⟩,
    ⟨rfl, foreign (c := '\u00a0') (by decide) (by decide)⟩, rfl, _, rfl, ?_⟩
  exact ⟨_, List.mem_cons_of_mem _ List.mem_cons_self, by decide⟩

end Article

end ScrollStory
