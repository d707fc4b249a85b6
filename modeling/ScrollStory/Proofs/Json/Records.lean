import ScrollStory.Proofs.Json.Skipped

/-!
# Records in every spelling

A record is spelled as an object, with its members in any order, unknown ones among them and some
left out, or as a list of its fields. If a draft takes every field once and skips everything else,
then the record is read from all of these (`ScrollStory.Json.Takes.record`): what the draft holds
after some members depends on the keys that were met, and not on their order.
-/

namespace ScrollStory

namespace Json

variable {α β σ : Type}

/-- A reader takes any tokens that spell a value for the value. -/
def Takes (reader : Read α) (spelled : List Token → Prop) (a : α) : Prop :=
  ∀ tokens, spelled tokens → Opens tokens ∧ Reads reader tokens a

/-! ## Values -/

/-- The tokens are a string. -/
@[simp] def IsString (s : String) (tokens : List Token) : Prop := tokens = [.string s]

/-- The tokens are a boolean. -/
@[simp] def IsBool (b : Bool) (tokens : List Token) : Prop := tokens = [.bool b]

/-- The tokens are a natural number. -/
@[simp] def IsNat (n : Nat) (tokens : List Token) : Prop := tokens = (Value.nat n).tokens

/-- The tokens spell a value that may be absent. -/
def Optionally (spelled : α → List Token → Prop) : Option α → List Token → Prop
  | none, tokens => tokens = [.null]
  | some a, tokens => spelled a tokens

@[simp] theorem optionally_none (spelled : α → List Token → Prop) (tokens : List Token) :
    Optionally spelled none tokens ↔ tokens = [.null] := Iff.rfl

@[simp] theorem optionally_some (spelled : α → List Token → Prop) (a : α) (tokens : List Token) :
    Optionally spelled (some a) tokens ↔ spelled a tokens := Iff.rfl

@[simp] theorem optionally_optionalString (s : Option String) :
    Optionally IsString s (Value.optionalString s).tokens := by
  cases s <;> rfl

/-- The tokens spell the items of a list. -/
inductive ListOf (spelled : α → List Token → Prop) (as : List α) : List Token → Prop
  | intro {parts : List (List Token)} (each : List.Forall₂ spelled as parts) :
      ListOf spelled as (inBrackets parts)

namespace Takes

/-- A value with one spelling is taken if it is read from this and no list or object ends there. -/
theorem of_eq {reader : Read α} {first : Token} {tokens : List Token} {a : α}
    (notBracket : first ≠ .closeBracket) (notBrace : first ≠ .closeBrace)
    (reads : Reads reader (first :: tokens) a) : Takes reader (· = first :: tokens) a := by
  rintro _ rfl
  exact ⟨⟨first, tokens, rfl, notBracket, notBrace⟩, reads⟩

theorem string (s : String) : Takes Read.string (IsString s) s :=
  of_eq nofun nofun (.string s)

theorem bool (b : Bool) : Takes Read.bool (IsBool b) b :=
  of_eq nofun nofun (.bool b)

theorem word {n : Nat} (fits : n < twoTo 32) : Takes Read.word (IsNat n) n :=
  of_eq nofun nofun (.word fits)

theorem oneOf {table : List (String × α)} {name : String} {a : α}
    (known : table.find? (·.1 = name) = some (name, a)) :
    Takes (Read.oneOf table) (IsString name) a :=
  of_eq nofun nofun (.oneOf known)

/-- A value that may be absent is taken if its reader takes it and no value is spelled with a null.
-/
theorem optional {reader : Read α} {spelled : α → List Token → Prop} {value : Option α}
    (takes : ∀ a ∈ value, Takes reader (spelled a) a)
    (present : ∀ a tokens, spelled a tokens → ∀ rest, tokens ≠ .null :: rest) :
    Takes (Read.optional reader) (Optionally spelled value) value := by
  cases value with
  | none => exact of_eq nofun nofun (.optional_none reader)
  | some a =>
      intro tokens spelling
      obtain ⟨⟨first, rest, rfl, notBracket, notBrace⟩, reads⟩ := takes a rfl tokens spelling
      refine ⟨⟨first, rest, rfl, notBracket, notBrace⟩, .optional_some ?_ reads⟩
      rintro rfl
      exact present a _ spelling rest rfl

theorem optionalString (s : Option String) :
    Takes (Read.optional Read.string) (Optionally IsString s) s := by
  refine optional (fun a _ => string a) ?_
  rintro a _ rfl rest same
  cases same

/-- A list is taken if every item of it is. -/
theorem list {item : Read β} {spelled : α → List Token → Prop} {result : α → β} {as : List α}
    (takes : ∀ a ∈ as, Takes item (spelled a) (result a)) :
    Takes (Read.list item) (ListOf spelled as) (as.map result) := by
  rintro _ ⟨each⟩
  suffices items : (∀ part ∈ _, Opens part) ∧ List.Forall₂ (Reads item) _ (as.map result) from
    ⟨⟨_, _, rfl, nofun, nofun⟩, .list items.2 items.1⟩
  induction each with
  | nil => exact ⟨nofun, .nil⟩
  | @cons a part as parts first others ih =>
      obtain ⟨opens, reads⟩ := takes a List.mem_cons_self part first
      obtain ⟨opening, items⟩ := ih fun a member => takes a (List.mem_cons_of_mem _ member)
      exact ⟨List.forall_mem_cons.mpr ⟨opens, opening⟩, .cons reads items⟩

end Takes

/-! ## Records -/

/-- A field of a record. -/
structure Field where
  name : String
  /-- The tokens spell the value of the field. -/
  Spelled : List Token → Prop
  /-- The field may be left out. -/
  Omissible : Prop

namespace Field

/-- A field that is always given. -/
@[simp] def required (name : String) (spelled : List Token → Prop) : Field := ⟨name, spelled, False⟩

/-- A field that may be left out if its value is absent. -/
@[simp] def optional (name : String) (spelled : α → List Token → Prop) (value : Option α) : Field :=
  ⟨name, Optionally spelled value, value = none⟩

/-- A field that may be left out if it has its default. -/
@[simp] def defaulted (name : String) (spelled : α → List Token → Prop) (default value : α) :
    Field :=
  ⟨name, spelled value, value = default⟩

end Field

/-- The tokens of a member whose key is a name. -/
def namedMember (member : String × List Token) : List Token :=
  .string member.1 :: .colon :: member.2

/-- The members of an object spell the fields of a record: each key is there once, and a member with
any other key may hold anything. -/
structure MembersOf (fields : List Field) (members : List (String × List Token)) : Prop where
  distinct : (members.map Prod.fst).Nodup
  known : ∀ member ∈ members, ∀ field ∈ fields, field.name = member.1 → field.Spelled member.2
  unknown : ∀ member ∈ members, (∀ field ∈ fields, field.name ≠ member.1) → IsValue member.2
  present : ∀ field ∈ fields, field.name ∈ members.map Prod.fst ∨ field.Omissible

/-- The items of a list spell the fields of a record in order. Fields at the end may be left out. -/
inductive ItemsOf : List Field → List (List Token) → Prop
  | nil : ItemsOf [] []
  | cons {field : Field} {fields : List Field} {part : List Token} {parts : List (List Token)}
      (first : field.Spelled part) (others : ItemsOf fields parts) :
      ItemsOf (field :: fields) (part :: parts)
  | omitted {field : Field} {fields : List Field} (omissible : field.Omissible)
      (others : ItemsOf fields []) : ItemsOf (field :: fields) []

/-- The tokens spell a record with some fields. -/
inductive RecordOf (fields : List Field) : List Token → Prop
  | object {members : List (String × List Token)} (spelled : MembersOf fields members) :
      RecordOf fields (inBraces (members.map namedMember))
  | list {parts : List (List Token)} (spelled : ItemsOf fields parts) :
      RecordOf fields (inBrackets parts)

theorem RecordOf.opens {fields : List Field} {tokens : List Token}
    (record : RecordOf fields tokens) : Opens tokens := by
  cases record <;> exact ⟨_, _, rfl, nofun, nofun⟩

theorem RecordOf.present {fields : List Field} {tokens : List Token}
    (record : RecordOf fields tokens) (rest : List Token) : tokens ≠ .null :: rest := by
  cases record <;> exact nofun

/-- A value that is written as an object spells a record if its members do. -/
theorem RecordOf.of_object {fields : List Field} {members : List (String × Value)}
    (spelled : MembersOf fields (members.map fun member => (member.1, member.2.tokens))) :
    RecordOf fields (Value.object members).tokens := by
  have tokens : Value.memberTokens members =
      (members.map fun member => (member.1, member.2.tokens)).map namedMember := by
    clear spelled
    induction members with
    | nil => rfl
    | cons member members ih => rw [Value.memberTokens, ih]; rfl
  rw [Value.tokens, tokens]
  exact .object spelled

/-! ### Objects -/

/-- The value of a field as a draft holds it once it has met the keys `seen`. -/
def given (seen : List String) (name : String) (a : α) : Option α :=
  if name ∈ seen then some a else none

theorem given_of_mem {seen : List String} {name : String} (met : name ∈ seen) (a : α) :
    given seen name a = some a := if_pos met

theorem given_of_not_mem {seen : List String} {name : String} (fresh : name ∉ seen) (a : α) :
    given seen name a = none := if_neg fresh

@[simp] theorem given_cons_self (seen : List String) (name : String) (a : α) :
    given (name :: seen) name a = some a := given_of_mem List.mem_cons_self a

@[simp] theorem given_cons_of_ne {seen : List String} {key name : String} (apart : name ≠ key)
    (a : α) : given (key :: seen) name a = given seen name a := by
  simp [given, apart]

/-- An optional field is as given, also when it is left out for having no value. -/
theorem join_given {seen : List String} {name : String} {value : Option α}
    (present : name ∈ seen ∨ value = none) : (given seen name value).join = value := by
  by_cases met : name ∈ seen
  · rw [given_of_mem met, Option.join_some]
  · rw [given_of_not_mem met, present.resolve_left met, Option.join_none]

/-- A field with a default is as given, also when it is left out for being the default. -/
theorem getD_given {seen : List String} {name : String} {value default : α}
    (present : name ∈ seen ∨ value = default) : (given seen name value).getD default = value := by
  by_cases met : name ∈ seen
  · rw [given_of_mem met, Option.getD_some]
  · rw [given_of_not_mem met, present.resolve_left met, Option.getD_none]

/-- A draft takes the value of every field once, and skips the value of any other member. -/
structure Drafts (fields : List Field) (member : String → σ → Read σ) (drafted : List String → σ) :
    Prop where
  known : ∀ field ∈ fields, ∀ seen tokens, field.name ∉ seen → field.Spelled tokens →
    Reads (member field.name (drafted seen)) (.colon :: tokens) (drafted (field.name :: seen))
  unknown : ∀ name seen, (∀ field ∈ fields, field.name ≠ name) →
    member name (drafted seen) = (do Read.skipMember; return drafted seen) ∧
      drafted (name :: seen) = drafted seen

variable {fields : List Field} {drafted : List String → σ} {reader : String → σ → Read σ}

/-- A member whose field is not there yet fills the field. -/
theorem Takes.field {name : String} {old : Option α} {value : Read α}
    {spelled : List Token → Prop} {a : α} {fill : α → σ} {done : σ} {tokens : List Token}
    (absent : old = none) (takes : Takes value spelled a) (spelling : spelled tokens)
    (same : fill a = done) :
    Reads (Read.field name old value >>= fun a => Pure.pure (fill a)) (.colon :: tokens) done := by
  subst absent same
  exact ((takes tokens spelling).2.field name).bind_pure fill

theorem IsValue.reads_skipMember {tokens : List Token} (isValue : IsValue tokens) :
    Reads Read.skipMember (.colon :: tokens) () :=
  fun rest => isValue.reads_skip rest

/-- Members fill a draft in any order. -/
theorem Drafts.fills (drafts : Drafts fields reader drafted) {members : List (String × List Token)}
    (distinct : (members.map Prod.fst).Nodup)
    (known : ∀ member ∈ members, ∀ field ∈ fields, field.name = member.1 → field.Spelled member.2)
    (unknown : ∀ member ∈ members, (∀ field ∈ fields, field.name ≠ member.1) →
      IsValue member.2)
    (seen : List String) (fresh : ∀ member ∈ members, member.1 ∉ seen) :
    Fills reader (drafted seen) (members.map namedMember)
      (drafted ((members.map Prod.fst).reverse ++ seen)) := by
  induction members generalizing seen with
  | nil => exact .nil _
  | cons first members ih =>
      obtain ⟨apart, distinct⟩ := List.nodup_cons.mp distinct
      have others := ih distinct (fun member inside => known member (List.mem_cons_of_mem _ inside))
        (fun member inside => unknown member (List.mem_cons_of_mem _ inside)) (first.1 :: seen) (by
          intro member inside
          rw [List.mem_cons, not_or]
          refine ⟨?_, fresh member (List.mem_cons_of_mem _ inside)⟩
          rintro same
          exact apart (List.mem_map.mpr ⟨member, inside, same⟩))
      rw [List.map_cons, List.map_cons, List.reverse_cons, List.append_assoc]
      refine .cons ?_ others
      have new := fresh first List.mem_cons_self
      by_cases isKnown : ∃ field ∈ fields, field.name = first.1
      · obtain ⟨field, inside, same⟩ := isKnown
        have spelled := known first List.mem_cons_self field inside same
        rw [← same] at new ⊢
        exact drafts.known field inside seen first.2 new spelled
      · simp only [not_exists, not_and] at isKnown
        obtain ⟨skips, kept⟩ := drafts.unknown first.1 seen isKnown
        rw [skips, kept]
        exact (unknown first List.mem_cons_self isKnown).reads_skipMember.bind_pure _

/-! ### Lists -/

/-- A reader takes some tokens for a value if the list ends behind them. -/
def ReadsItems (reader : Read α) (tokens : List Token) (a : α) : Prop :=
  ∀ rest, reader (tokens ++ .closeBracket :: rest) = .ok (a, .closeBracket :: rest)

/-- The tokens of the items of a list from an index on. -/
def itemsFrom (index : Nat) (parts : List (List Token)) : List Token :=
  if index = 0 then listed parts else parts.flatMap (Token.comma :: ·)

theorem itemsFrom_nil (index : Nat) : itemsFrom index [] = [] := by
  unfold itemsFrom
  split <;> rfl

/-- A list goes on with its next item, which has a comma in front of it unless it is the first. -/
theorem nextItem_itemsFrom {part : List Token} (opens : Opens part) (index : Nat)
    (parts : List (List Token)) (rest : List Token) :
    Read.nextItem (index = 0) (itemsFrom index (part :: parts) ++ rest) =
      .ok (true, part ++ (itemsFrom (index + 1) parts ++ rest)) := by
  obtain ⟨first, tokens, rfl, notBracket, _⟩ := opens
  by_cases start : index = 0
  · simp [itemsFrom, start, listed, Read.nextItem]
  · simp [itemsFrom, start, Read.nextItem, notBracket]

namespace ReadsItems

variable {field : Field} {parts : List (List Token)} {value : Read α} {next : α → Read β} {a : α}
  {b : β} {index : Nat}

theorem pure (items : ItemsOf [] parts) : ReadsItems (Pure.pure a) (itemsFrom index parts) a := by
  cases items
  intro rest
  rw [itemsFrom_nil]
  rfl

/-- A field that is required takes the next item. -/
theorem itemAt {name : String} {spelled : List Token → Prop}
    (items : ItemsOf (.required name spelled :: fields) parts) (wanted : String) (size : Nat)
    (takes : Takes value spelled a)
    (others : ∀ parts, ItemsOf fields parts → ReadsItems (next a) (itemsFrom (index + 1) parts) b) :
    ReadsItems (Read.itemAt wanted size index value >>= next) (itemsFrom index parts) b := by
  cases items with
  | @cons _ _ part parts first items =>
      intro rest
      obtain ⟨opens, reads⟩ := takes part first
      have item := nextItem_itemsFrom opens index parts (.closeBracket :: rest)
      have read : Read.itemAt wanted size index value
          (itemsFrom index (part :: parts) ++ .closeBracket :: rest) =
            .ok (a, itemsFrom (index + 1) parts ++ .closeBracket :: rest) := by
        rw [Read.itemAt, Read.bind_of_ok item, if_pos rfl]
        exact reads _
      rw [Read.bind_of_ok read]
      exact others parts items rest
  | omitted omissible => exact omissible.elim

/-- A field that may be left out takes the next item, or its default when the list ends. -/
theorem itemOr (items : ItemsOf (field :: fields) parts) {default : α}
    (omitted : field.Omissible → default = a) (takes : Takes value field.Spelled a)
    (others : ∀ parts, ItemsOf fields parts → ReadsItems (next a) (itemsFrom (index + 1) parts) b) :
    ReadsItems (Read.itemOr index default value >>= next) (itemsFrom index parts) b := by
  intro rest
  cases items with
  | @cons _ _ part parts first items =>
      obtain ⟨opens, reads⟩ := takes part first
      have item := nextItem_itemsFrom opens index parts (.closeBracket :: rest)
      have read : Read.itemOr index default value
          (itemsFrom index (part :: parts) ++ .closeBracket :: rest) =
            .ok (a, itemsFrom (index + 1) parts ++ .closeBracket :: rest) := by
        rw [Read.itemOr, Read.bind_of_ok item, if_pos rfl]
        exact reads _
      rw [Read.bind_of_ok read]
      exact others parts items rest
  | omitted omissible items =>
      have item : Read.nextItem (index = 0) (.closeBracket :: rest) =
          .ok (false, .closeBracket :: rest) := rfl
      have read : Read.itemOr index default value (.closeBracket :: rest) =
          .ok (a, .closeBracket :: rest) := by
        rw [Read.itemOr, Read.bind_of_ok item, ← omitted omissible]
        rfl
      have ending := others [] items rest
      rw [itemsFrom_nil] at ending ⊢
      exact (Read.bind_of_ok read).trans ending

end ReadsItems

/-- **Records in every spelling.** A record is read from any object and from any list that spells
its fields, if its draft takes every field once and skips everything else. -/
theorem Takes.record (wanted : String) {ofList : Read α} {complete : σ → Read α} {a : α}
    (drafts : Drafts fields reader drafted)
    (completes : ∀ seen, (∀ field ∈ fields, field.name ∈ seen ∨ field.Omissible) →
      Reads (complete (drafted seen)) [] a)
    (items : ∀ parts, ItemsOf fields parts → ReadsItems ofList (itemsFrom 0 parts) a) :
    Takes (Read.record wanted (Read.draft reader (drafted []) >>= complete) ofList)
      (RecordOf fields) a := by
  intro tokens record
  refine ⟨record.opens, ?_⟩
  cases record with
  | @object members spelled =>
      have fills := drafts.fills spelled.distinct spelled.known spelled.unknown [] (by simp)
      refine Reads.record wanted ofList (fills.reads_draft.bind_nil (completes _ ?_))
      intro field inside
      simpa using spelled.present field inside
  | @list parts spelled =>
      intro rest
      have read := items parts spelled rest
      have whole : Read.record wanted (Read.draft reader (drafted []) >>= complete) ofList
          (.openBracket :: (itemsFrom 0 parts ++ .closeBracket :: rest)) = .ok (a, rest) := by
        rw [Read.record, Read.bind_of_ok read]
        rfl
      simpa [itemsFrom] using whole

end Json

end ScrollStory
