import ScrollStory.Plan.Compile
import ScrollStory.Plan.Encode
import ScrollStory.Proofs.Decimal.Texts
import ScrollStory.Proofs.Plan.Distances
import ScrollStory.Proofs.Script.Occurrences

/-!
# Durations as they are printed

A duration is printed in two places: in the statements of a program, and in the JSON text of a
script. Both texts are numbers in full that denote the number of milliseconds that an animation asks
for, divided by a thousand (`ScrollStory.Component.durations_exact`).
-/

namespace ScrollStory

open Json (Format Value)

/-! ## The number behind a mark -/

/-- The text behind the last place at which a mark stands. -/
def behindLast? (mark : List Char) : List Char → Option (List Char)
  | [] => none
  | c :: cs =>
    (behindLast? mark cs).or
      (if mark <+: c :: cs then some ((c :: cs).drop mark.length) else none)

/-- Whether a character ends a number: a comma, a closing brace or a line break. -/
def endsNumber (c : Char) : Bool := [',', '\x7d', '\n'].contains c

/-- The number behind the last place at which a mark stands. -/
def numberBehind? (mark text : String) : Option String :=
  (behindLast? mark.toList text.toList).map fun cs => String.ofList (cs.takeWhile (!endsNumber ·))

section

variable {mark cs left right after : List Char} {c : Char}

/-- A mark does not stand in a text without one of its characters. -/
theorem behindLast?_of_not_mem (needed : c ∈ mark) (absent : c ∉ cs) :
    behindLast? mark cs = none := by
  induction cs with
  | nil => rfl
  | cons first cs ih =>
      have later := ih fun member => absent (List.mem_cons_of_mem _ member)
      have here : ¬mark <+: first :: cs := fun stands => absent (stands.subset needed)
      rw [behindLast?, later, if_neg here]
      rfl

/-- What stands in front of a text changes nothing about the last mark in it. -/
theorem behindLast?_append (before : List Char) (found : behindLast? mark cs = some after) :
    behindLast? mark (before ++ cs) = some after := by
  induction before with
  | nil => exact found
  | cons first before ih =>
      rw [List.cons_append, behindLast?, ih]
      rfl

/-- A mark with a character that stands in it once does not stand where the character comes too
early for it. -/
theorem behindLast?_of_length_lt (free : c ∉ left) (absent : c ∉ right ++ after) {part : List Char}
    (early : part.length < left.length) :
    behindLast? (left ++ c :: right) (part ++ c :: (right ++ after)) = none := by
  have apart {part : List Char} (early : part.length < left.length) :
      ¬left ++ c :: right <+: part ++ c :: (right ++ after) := by
    intro stands
    -- What the mark has in front of the character would have to fit into less.
    have fits := (prefix_append_cons_iff free).mp ((List.prefix_append _ _).trans stands)
    have longer := fits.length_le
    omega
  induction part with
  | nil =>
      have later : behindLast? (left ++ c :: right) (right ++ after) = none :=
        behindLast?_of_not_mem (by simp) absent
      have here := apart early
      rw [List.nil_append] at here ⊢
      rw [behindLast?, later, if_neg here]
      rfl
  | cons first part ih =>
      have here := apart early
      rw [List.cons_append] at here ⊢
      rw [behindLast?, ih (Nat.lt_of_succ_lt early), if_neg here]
      rfl

/-- The text behind a mark is found by a character that stands in the mark once, and not behind
it. -/
theorem behindLast?_mark (before : List Char) (free : c ∉ left) (absent : c ∉ right ++ after) :
    behindLast? (left ++ c :: right) (before ++ (left ++ c :: right ++ after)) = some after := by
  apply behindLast?_append
  have here : left ++ c :: right <+: left ++ c :: right ++ after := List.prefix_append _ _
  have behind : (left ++ c :: right ++ after).drop (left ++ c :: right).length = after :=
    List.drop_left
  cases left with
  | nil =>
      have later : behindLast? (c :: right) (right ++ after) = none :=
        behindLast?_of_not_mem List.mem_cons_self absent
      rw [List.nil_append, List.cons_append] at here behind ⊢
      rw [behindLast?, later, if_pos here, behind]
      rfl
  | cons first left =>
      have later := behindLast?_of_length_lt free absent (Nat.lt_succ_self left.length)
      rw [← List.cons_append, ← List.append_assoc, List.cons_append] at later
      rw [List.cons_append, List.cons_append] at here behind ⊢
      rw [behindLast?, later, if_pos here, behind]
      rfl

end

/-! ## The texts of numbers -/

theorem InFull.numeric {places : Nat} {cs : List Char} (full : InFull places cs) : IsNumeric cs := by
  cases full with
  | whole digits => exact digits.numeric
  | point digits behind _ _ => exact digits.numeric_point behind

/-- No character of a number ends it. -/
theorem IsNumeric.takeWhile {cs rest : List Char} (numeric : IsNumeric cs) {stop : Char}
    (ends : endsNumber stop = true) : (cs ++ stop :: rest).takeWhile (!endsNumber ·) = cs := by
  have goes_on : ∀ c ∈ cs, (!endsNumber c) = true := by
    intro c member
    rw [Bool.not_eq_true', Bool.eq_false_iff]
    intro final
    rw [endsNumber, List.contains_eq_mem, decide_eq_true_eq] at final
    have number := numeric c member
    simp only [List.mem_cons, List.not_mem_nil, or_false] at final
    rcases final with rfl | rfl | rfl <;> revert number <;> decide
  rw [List.takeWhile_append_of_pos goes_on, List.takeWhile_cons, ends, Bool.not_true,
    if_neg Bool.false_ne_true, List.append_nil]

/-- The number behind a mark is found by a letter that stands in the mark once, and not behind the
number. -/
theorem numberBehind?_append {mark number after : String} {rest : List Char} {letter stop : Char}
    (before : String) (once : mark.toList.count letter = 1)
    (apart : ¬(letter.isDigit ∨ letter = '.')) (numeric : IsNumeric number.toList)
    (stops : after.toList = stop :: rest) (ends : endsNumber stop = true)
    (absent : letter ∉ stop :: rest) :
    numberBehind? mark (before ++ (mark ++ (number ++ after))) = some number := by
  have member : letter ∈ mark.toList := List.count_pos_iff.mp (by omega)
  obtain ⟨left, right, marked, free⟩ := List.eq_append_cons_of_mem member
  have behind : letter ∉ right ++ (number.toList ++ stop :: rest) := by
    rw [marked, List.count_append, List.count_cons_self] at once
    simp only [List.mem_append, not_or]
    exact ⟨List.count_eq_zero.mp (by omega), fun inside => apart (numeric letter inside), absent⟩
  have found := behindLast?_mark before.toList free behind
  rw [numberBehind?, String.toList_append, String.toList_append, String.toList_append, marked,
    stops, found, Option.map_some, numeric.takeWhile ends, String.ofList_toList]

/-! ## Durations in a program -/

/-- Texts with separators end with the last of them. -/
theorem exists_intercalate (separator text : String) (texts others : List String) :
    ∃ before, separator.intercalate (texts ++ text :: others) =
      before ++ separator.intercalate (text :: others) := by
  induction texts with
  | nil => exact ⟨"", String.empty_append.symm⟩
  | cons first texts ih =>
      obtain ⟨before, rest⟩ := ih
      obtain ⟨next, later, cons⟩ : ∃ next later, texts ++ text :: others = next :: later :=
        List.exists_cons_of_ne_nil (by simp)
      refine ⟨first ++ separator ++ before, ?_⟩
      rw [List.cons_append, cons, String.intercalate_cons_cons, ← cons, rest]
      simp only [String.append_assoc]

namespace AnimationScript

/-- What stands behind the duration in a tween. -/
def afterDuration (script : AnimationScript) (level : Int) : String :=
  if script.behavior.comesToFront then
    ", " ++ Script.propertyText ("zIndex", .ofInt level) ++ "\x7d);"
  else "\x7d);"

/-- The duration in a tween, with what stands behind it. -/
theorem intercalate_duration (script : AnimationScript) (level : Int) :
    ", ".intercalate (Script.propertyText ("duration", script.segmentSeconds.tiesAway) ::
        (script.stacking level).map Script.propertyText) ++ "\x7d);" =
      "duration: " ++ (script.segmentSeconds.tiesAway.plain ++ script.afterDuration level) := by
  have named : Script.propertyText ("duration", script.segmentSeconds.tiesAway) =
      "duration: " ++ script.segmentSeconds.tiesAway.plain := rfl
  unfold stacking afterDuration
  split
  · rw [List.map_singleton, String.intercalate_cons_cons, String.intercalate_singleton, named]
    simp only [String.append_assoc]
  · rw [List.map_nil, String.intercalate_singleton, named, String.append_assoc]

/-- The text of a tween over a duration has the duration behind its name. -/
theorem exists_text_move (script : AnimationScript) (target : String)
    (properties : List (String × Int)) (level : Int) :
    ∃ before, (script.move target properties level).text =
      before ++
        ("duration: " ++ (script.segmentSeconds.tiesAway.plain ++ script.afterDuration level)) := by
  obtain ⟨before, joined⟩ := exists_intercalate ", "
    (Script.propertyText ("duration", script.segmentSeconds.tiesAway))
    ((numeric properties).map Script.propertyText) ((script.stacking level).map Script.propertyText)
  refine ⟨"gsap." ++ Script.Verb.move.name ++ "(\"#" ++ target ++ "\", \x7b" ++ before, ?_⟩
  rw [move, Script.Tween.text]
  dsimp only
  rw [List.map_append, List.map_cons, joined, ← intercalate_duration]
  simp only [String.append_assoc]

/-- A tween shows the duration of its script as a number. -/
theorem numberBehind?_move (script : AnimationScript) (target : String)
    (properties : List (String × Int)) {level : Int} (known : level = 1000 ∨ level = 0)
    (numeric : IsNumeric script.segmentSeconds.tiesAway.plain.toList) :
    numberBehind? "duration: " (script.move target properties level).text =
      some script.segmentSeconds.tiesAway.plain := by
  obtain ⟨before, text⟩ := script.exists_text_move target properties level
  obtain ⟨stop, rest, stops, ends, absent⟩ : ∃ stop rest,
      (script.afterDuration level).toList = stop :: rest ∧ endsNumber stop = true ∧
        't' ∉ stop :: rest := by
    unfold afterDuration
    split
    · rcases known with rfl | rfl
      · exact ⟨',', _, rfl, rfl, by decide⟩
      · exact ⟨',', _, rfl, rfl, by decide⟩
    · exact ⟨'\x7d', _, rfl, rfl, by decide⟩
  rw [text]
  exact numberBehind?_append before (by decide) (by decide) numeric stops ends absent

end AnimationScript

/-! ## Durations in JSON texts -/

namespace Json

/-- The parts of a list or an object end with the last of them. -/
theorem exists_separated (lineBreak part : List Char) (parts : List (List Char)) :
    ∃ before, separated lineBreak (parts ++ [part]) = before ++ part := by
  induction parts with
  | nil => exact ⟨lineBreak, rfl⟩
  | cons first parts ih =>
      obtain ⟨before, others⟩ := ih
      obtain ⟨next, later, cons⟩ : ∃ next later, parts ++ [part] = next :: later :=
        List.exists_cons_of_ne_nil (by simp)
      refine ⟨lineBreak ++ first ++ ',' :: before, ?_⟩
      rw [cons] at others
      rw [List.cons_append, cons, separated, others, ← List.cons_append, ← List.append_assoc]
      exact List.cons_ne_nil next later

/-- What stands behind the last part of a list or an object. -/
def closing (format : Format) (level : Nat) (right : Char) : List Char :=
  match format with
  | .pretty => newline level ++ [right]
  | .compact => [right]

/-- Parts in brackets, with the line breaks that the format puts there. -/
theorem bracketed_of_ne_nil (format : Format) (level : Nat) (left right : Char)
    {parts : List (List Char)} (some : parts ≠ []) :
    ∃ lineBreak, bracketed format level left right parts =
      left :: separated lineBreak parts ++ closing format level right := by
  cases format with
  | compact => exact ⟨[], by rw [bracketed, closing]; exact some⟩
  | pretty => exact ⟨newline (level + 1), by rw [bracketed, closing, List.append_assoc]; exact some⟩

/-- The last part of a list or an object stands in front of its closing bracket. -/
theorem exists_bracketed (format : Format) (level : Nat) (left right : Char) (part : List Char)
    (parts : List (List Char)) :
    ∃ before, bracketed format level left right (parts ++ [part]) =
      before ++ (part ++ closing format level right) := by
  obtain ⟨lineBreak, whole⟩ := bracketed_of_ne_nil format level left right
    (List.append_ne_nil_of_right_ne_nil parts (List.cons_ne_nil part []))
  obtain ⟨before, joined⟩ := exists_separated lineBreak part parts
  refine ⟨left :: before, ?_⟩
  rw [whole, joined, ← List.cons_append, List.append_assoc]

end Json

namespace AnimationScript

/-- What stands in front of the duration in the JSON text of a script. -/
def secondsMark : Format → String
  | .pretty => "\"segment_seconds\": "
  | .compact => "\"segment_seconds\":"

/-- The JSON text of a script, at any level, has the duration behind its key. -/
theorem exists_write_toJson (script : AnimationScript) (format : Format) (level : Nat) :
    ∃ before, script.toJson.write format level =
      before ++ ((secondsMark format).toList ++ script.segmentSeconds.json.toList ++
        Json.closing format level '\x7d') := by
  obtain ⟨first, second, members⟩ : ∃ first second,
      script.toJson.write format level = Json.bracketed format level '\x7b' '\x7d'
        ([first, second] ++
          [(secondsMark format).toList ++ script.segmentSeconds.json.toList]) := by
    cases format <;> exact ⟨_, _, rfl⟩
  rw [members]
  exact Json.exists_bracketed format level _ _ _ [first, second]

/-- The JSON text of a script shows the duration of the script as a number. -/
theorem numberBehind?_toJson (script : AnimationScript) (format : Format) (level : Nat)
    (numeric : IsNumeric script.segmentSeconds.json.toList) :
    numberBehind? (secondsMark format) (String.ofList (script.toJson.write format level)) =
      some script.segmentSeconds.json := by
  obtain ⟨before, text⟩ := script.exists_write_toJson format level
  have split : String.ofList (script.toJson.write format level) =
      String.ofList before ++ (secondsMark format ++ (script.segmentSeconds.json ++
        String.ofList (Json.closing format level '\x7d'))) := by
    rw [text, List.append_assoc, String.ofList_append, String.ofList_append, String.ofList_append,
      String.ofList_toList, String.ofList_toList]
  have once : (secondsMark format).toList.count 'g' = 1 := by cases format <;> decide
  rw [split]
  cases format with
  | compact =>
      exact numberBehind?_append _ once (by decide) numeric String.toList_ofList (by decide)
        (by decide)
  | pretty =>
      have blanks : 'g' ∉ Json.newline level ++ ['\x7d'] := by
        simp [Json.newline]
      exact numberBehind?_append _ once (by decide) numeric String.toList_ofList (by decide) blanks

/-! ## All texts of a script -/

/-- A script shows its duration as one number in the statements of a program and as another one in
its JSON text. A statement is missing just where a component that overlaps the others is left. -/
structure Shows (script : AnimationScript) (program json : String) : Prop where
  statements : ∀ target phase, phase ≠ .init → script.fragment target phase ≠ "" →
    numberBehind? "duration: " (script.fragment target phase) = some program
  silent : ∀ target phase, script.fragment target phase = "" ↔
    phase = .exit ∧ script.behavior = .overlap
  json : ∀ format level,
    numberBehind? (secondsMark format) (String.ofList (script.toJson.write format level)) =
      some json

/-- A tween is not written as nothing. -/
theorem text_ne_empty (tween : Script.Tween) : tween.text ≠ "" := by
  intro empty
  have first : tween.text.toList.head? = some 'g' := by
    simp [Script.Tween.text]
  rw [empty] at first
  cases first

/-- The statement of a phase is the text of its tween. -/
theorem fragment_of_tween? {script : AnimationScript} {target : String} {phase : Phase}
    {tween : Script.Tween} (moves : script.tween? target phase = some tween) :
    script.fragment target phase = tween.text := by
  rw [fragment, moves]
  rfl

/-- A script does nothing just where a component that overlaps the others is left. -/
theorem tween?_eq_none_iff (script : AnimationScript) (target : String) (phase : Phase) :
    script.tween? target phase = none ↔ phase = .exit ∧ script.behavior = .overlap := by
  cases phase <;> simp [tween?]

/-- The statement of a phase is missing just where a component that overlaps the others is left. -/
theorem fragment_eq_empty_iff (script : AnimationScript) (target : String) (phase : Phase) :
    script.fragment target phase = "" ↔ phase = .exit ∧ script.behavior = .overlap := by
  rw [← script.tween?_eq_none_iff target]
  cases moves : script.tween? target phase with
  | none => simp [fragment, moves]
  | some tween =>
      rw [fragment_of_tween? moves]
      simp [text_ne_empty]

/-- Behind the first state, a script moves its element over its duration. -/
theorem exists_move {script : AnimationScript} {target : String} {phase : Phase}
    {tween : Script.Tween} (later : phase ≠ .init)
    (moves : script.tween? target phase = some tween) :
    ∃ properties level, (level = 1000 ∨ level = 0) ∧
      tween = script.move target properties level := by
  cases phase with
  | init => exact (later rfl).elim
  | enter | enterBack =>
      cases moves
      exact ⟨_, _, .inl rfl, rfl⟩
  | exitBack =>
      cases moves
      exact ⟨_, _, .inr rfl, rfl⟩
  | exit =>
      rw [tween?] at moves
      split at moves
      · cases moves
      · cases moves
        exact ⟨_, _, .inr rfl, rfl⟩

/-- A script shows its duration in its statements and in its JSON text. -/
theorem shows_segmentSeconds (script : AnimationScript)
    (program : IsNumeric script.segmentSeconds.tiesAway.plain.toList)
    (json : IsNumeric script.segmentSeconds.json.toList) :
    script.Shows script.segmentSeconds.tiesAway.plain script.segmentSeconds.json := by
  refine ⟨?_, script.fragment_eq_empty_iff, fun format level =>
    script.numberBehind?_toJson format level json⟩
  intro target phase later some
  cases moves : script.tween? target phase with
  | none => exact (some (by rw [fragment, moves]; rfl)).elim
  | some tween =>
      obtain ⟨properties, level, known, rfl⟩ := exists_move later moves
      rw [fragment_of_tween? moves]
      exact script.numberBehind?_move target properties known program

end AnimationScript

/-! ## Durations in thousandths -/

namespace Decimal

variable {n : Nat}

/-- Thousandths need no rounding to be written in a program. -/
theorem tiesAway_ofThousandths (positive : 0 < n) (few : n < tenTo 14) :
    (ofThousandths n).tiesAway = ofThousandths n := by
  apply tiesAway_of_lt
  obtain ⟨strip, t, made, same, _⟩ := normal_eq positive false (-3)
  rw [ofThousandths, made]
  dsimp only
  have some := Nat.le_mul_of_pos_right strip (Nat.pow_pos (n := t) (by decide : 0 < 10))
  have wide : tenTo 14 < tenTo 15 := by decide
  omega

theorem fullInJson_ofThousandths (few : n < tenTo 14) : (ofThousandths n).FullInJson :=
  fullInJson_normal false few (by decide : 3 ≤ 5)

/-- Thousandths are written in JSON as one number. -/
theorem numeric_json_ofThousandths (few : n < tenTo 14) :
    IsNumeric (ofThousandths n).json.toList := by
  have sign : (ofThousandths n).sign = [] := by
    rw [Decimal.sign, ofThousandths, negative_normal]
    rfl
  rw [(fullInJson_ofThousandths few).json_eq, String.toList_ofList, sign, List.nil_append]
  exact (isDigits_whole _).numeric_point (isDigits_jsonPlaces _)

theorem denoted?_plain_ofThousandths (n : Nat) :
    denoted? (ofThousandths n).plain = some (n / 1000 : ℚ) := by
  rw [denoted?_plain, value_ofThousandths]

theorem denoted?_json_ofThousandths (few : n < tenTo 14) :
    denoted? (ofThousandths n).json = some (n / 1000 : ℚ) := by
  rw [(fullInJson_ofThousandths few).denoted?_json, value_ofThousandths]

/-- Texts that denote numbers of thousandths tell the numbers apart. -/
theorem thousandths_inj {n m : Nat} {s : String} (first : denoted? s = some (n / 1000 : ℚ))
    (second : denoted? s = some (m / 1000 : ℚ)) : n = m := by
  rw [first, Option.some.injEq, div_left_inj' (by norm_num)] at second
  exact_mod_cast second

end Decimal

/-- **Printed durations are exact.** A positive number of milliseconds of 32 bits, divided by a
thousand and rounded to a binary number, is printed as the decimal number of as many thousandths. A
script with such a duration shows it as two numbers, one in its statements and one in its JSON text,
that both denote this quotient. The one in the statements is in full, with three places at most of
which the last is not zero. Other numbers of milliseconds have other texts. -/
theorem Component.durations_exact {milliseconds : Nat} (positive : 0 < milliseconds)
    (fits : milliseconds < twoTo 32) :
    (∀ tie, ((Binary64.ofQuotient milliseconds 1).div (Binary64.ofQuotient 1000 1)).shortest tie
      false = .ofThousandths milliseconds) ∧
    (∀ {c : Component} {visible : Bool} {settings : CompileSettings} {script : AnimationScript},
      c.animation.duration = milliseconds → settings.durationMode = .fromAnimation →
      c.script visible settings = .ok script →
      script.Shows (Decimal.ofThousandths milliseconds).plain
        (Decimal.ofThousandths milliseconds).json) ∧
    InFull 3 (Decimal.ofThousandths milliseconds).plain.toList ∧
    denoted? (Decimal.ofThousandths milliseconds).plain = some (milliseconds / 1000 : ℚ) ∧
    denoted? (Decimal.ofThousandths milliseconds).json = some (milliseconds / 1000 : ℚ) ∧
    ∀ other, 0 < other → other < twoTo 32 → other ≠ milliseconds →
      (Decimal.ofThousandths other).plain ≠ (Decimal.ofThousandths milliseconds).plain ∧
        (Decimal.ofThousandths other).json ≠ (Decimal.ofThousandths milliseconds).json := by
  have wide : twoTo 32 < tenTo 14 := by decide
  have few : milliseconds < tenTo 14 := fits.trans wide
  have full : InFull 3 (Decimal.ofThousandths milliseconds).plain.toList :=
    Decimal.inFull_plain milliseconds 3
  have program := Decimal.denoted?_plain_ofThousandths milliseconds
  have json := Decimal.denoted?_json_ofThousandths few
  refine ⟨?_, ?_, full, program, json, ?_⟩
  · intro tie
    exact Binary64.shortest_div_powerOfTen positive few (by decide : 3 ≤ 15) tie false
  · intro c visible settings script asks mode resolved
    have seconds : script.segmentSeconds = .ofThousandths milliseconds := by
      rw [seconds_of_script resolved, asks, CompileSettings.segmentSeconds, mode]
      exact if_pos positive
    have untied := Decimal.tiesAway_ofThousandths positive few
    have shows := script.shows_segmentSeconds (by rw [seconds, untied]; exact full.numeric)
      (by rw [seconds]; exact Decimal.numeric_json_ofThousandths few)
    rwa [seconds, untied] at shows
  · intro other _ otherFits differs
    have otherProgram := Decimal.denoted?_plain_ofThousandths other
    have otherJson := Decimal.denoted?_json_ofThousandths (otherFits.trans wide)
    constructor
    · intro same
      rw [same] at otherProgram
      exact differs (Decimal.thousandths_inj otherProgram program)
    · intro same
      rw [same] at otherJson
      exact differs (Decimal.thousandths_inj otherJson json)

/-- A component that asks for a duration. -/
def Component.lasting (milliseconds : Nat) : Component where
  id := "steps-a"
  type := .text
  slot := .center
  animation := { transition := "fade", duration := milliseconds }

/-- The longest duration has three places in both texts, and one of two seconds has none in a
program and one in a JSON text. -/
theorem Component.durations_exact_lasting :
    let settings : CompileSettings := { durationMode := .fromAnimation }
    (0 < 4294967295 ∧ 4294967295 < twoTo 32 ∧
      ∃ script, (lasting 4294967295).script true settings = .ok script ∧
        script.Shows "4294967.295" "4294967.295" ∧
        denoted? "4294967.295" = some (4294967295 / 1000 : ℚ)) ∧
    ∃ script, (lasting 2000).script true settings = .ok script ∧ script.Shows "2" "2.0" ∧
      denoted? "2.0" = some (2000 / 1000 : ℚ) ∧ "4294967.295" ≠ "2" := by
  intro settings
  have longest : 0 < 4294967295 ∧ 4294967295 < twoTo 32 := by decide
  have whole : 0 < 2000 ∧ 2000 < twoTo 32 := by decide
  have first : (lasting 4294967295).script true settings = .ok _ := rfl
  have second : (lasting 2000).script true settings = .ok _ := rfl
  obtain ⟨_, shows, _, denotes, _⟩ := durations_exact longest.1 longest.2
  obtain ⟨_, shows', _, _, denotes', others⟩ := durations_exact whole.1 whole.2
  exact ⟨⟨longest.1, longest.2, _, first, shows rfl rfl first, by exact_mod_cast denotes⟩, _,
    second, shows' rfl rfl second, by exact_mod_cast denotes', (others 4294967295 longest.1 longest.2 (by decide)).1⟩

end ScrollStory
