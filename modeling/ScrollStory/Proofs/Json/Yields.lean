import ScrollStory.Proofs.Json.Reading

/-!
# What readers yield

`ScrollStory.Json.Yields` says that every value a reader takes from any tokens satisfies a
predicate. The rules follow the ways in which readers are put together, so that a predicate on the
parts of a record carries over to the record.
-/

namespace ScrollStory

namespace Json

variable {α β σ : Type}

/-- Every value that a reader takes satisfies `p`. -/
def Yields (reader : Read α) (p : α → Prop) : Prop :=
  ∀ tokens a rest, reader tokens = .ok (a, rest) → p a

/-- What follows a reader in a sequence starts from a value of the reader. -/
theorem Read.of_bind {reader : Read α} {next : α → Read β} {tokens rest : List Token} {b : β}
    (read : (reader >>= next) tokens = .ok (b, rest)) :
    ∃ a behind, reader tokens = .ok (a, behind) ∧ next a behind = .ok (b, rest) := by
  cases first : reader tokens with
  | error fault => simp [bind, StateT.bind, Except.bind, first] at read
  | ok result =>
      obtain ⟨a, behind⟩ := result
      exact ⟨a, behind, rfl, by rwa [Read.bind_of_ok first] at read⟩

namespace Yields

theorem trivial (reader : Read α) : Yields reader fun _ => True := fun _ _ _ _ => True.intro

theorem pure {p : α → Prop} {a : α} (holds : p a) : Yields (Pure.pure a) p := by
  intro tokens b rest read
  cases read
  exact holds

theorem throw {p : α → Prop} (fault : Fault) : Yields (throw fault) p := by
  intro tokens a rest read
  cases read

theorem bind {reader : Read α} {next : α → Read β} {p : α → Prop} {q : β → Prop}
    (first : Yields reader p) (second : ∀ a, p a → Yields (next a) q) :
    Yields (reader >>= next) q := by
  intro tokens b rest read
  obtain ⟨a, behind, taken, remaining⟩ := Read.of_bind read
  exact second a (first _ _ _ taken) _ _ _ remaining

/-- A reader that comes after another one whose value does not matter. -/
theorem after {reader : Read α} {next : α → Read β} {q : β → Prop}
    (second : ∀ a, Yields (next a) q) : Yields (reader >>= next) q :=
  (trivial reader).bind fun a _ => second a

theorem map {reader : Read α} {p : α → Prop} {q : β → Prop} {f : α → β} (first : Yields reader p)
    (carries : ∀ a, p a → q (f a)) : Yields (f <$> reader) q :=
  first.bind fun a holds => pure (carries a holds)

/-- A number that is read fits 32 bits. -/
theorem word : Yields Read.word (· < twoTo 32) := by
  intro tokens n rest read
  unfold Read.word at read
  split at read
  · cases read
  · split at read
    · split at read
      · rename_i bounds
        cases read
        omega
      · cases read
    · cases read
    · cases read
  · cases read

/-- What a reader gives is also what an optional value gives, when it is there. -/
theorem optional {value : Read α} {p : α → Prop} (yields : Yields value p) :
    Yields (Read.optional value) fun a => ∀ b ∈ a, p b := by
  intro tokens a rest read
  unfold Read.optional at read
  split at read
  · cases read
    intro b inside
    cases inside
  · have present : Yields (some <$> value) fun a => ∀ b ∈ a, p b := by
      refine yields.map fun a holds b inside => ?_
      cases inside
      exact holds
    exact present _ _ _ read

/-! ## Lists -/

/-- All items satisfy what the reader of an item gives. -/
theorem items {item : Read α} {p : α → Prop} (yields : Yields item p) (fuel : Nat) (first : Bool) :
    Yields (Read.items item fuel first) fun as => ∀ a ∈ as, p a := by
  induction fuel generalizing first with
  | zero =>
      intro tokens as rest read
      cases read
  | succ fuel ih =>
      refine after fun more => ?_
      cases more with
      | false => exact pure fun a member => nomatch member
      | true =>
          refine yields.bind fun a holds => (ih false).bind fun as others => pure ?_
          intro other member
          rcases List.mem_cons.mp member with rfl | later
          · exact holds
          · exact others other later

/-- All items of a list satisfy what the reader of an item gives. -/
theorem list {item : Read α} {p : α → Prop} (yields : Yields item p) :
    Yields (Read.list item) fun as => ∀ a ∈ as, p a := by
  intro tokens as rest read
  unfold Read.list at read
  split at read
  · cases read
  · have gathered (fuel : Nat) : Yields
        (do let as ← Read.items item fuel true
            Read.endList
            return as : Read (List α)) fun as => ∀ a ∈ as, p a :=
      (items yields fuel true).bind fun as all => after fun _ => pure all
    exact gathered _ _ _ _ read
  · cases read

/-! ## Records -/

/-- A property of drafts that every member keeps holds of what all members make of a draft. -/
theorem members {member : String → σ → Read σ} {p : σ → Prop}
    (keeps : ∀ name draft, p draft → Yields (member name draft) p) (fuel : Nat) (first : Bool)
    {draft : σ} (start : p draft) : Yields (Read.members member fuel first draft) p := by
  induction fuel generalizing first draft with
  | zero =>
      intro tokens done rest read
      cases read
  | succ fuel ih =>
      refine after fun key => ?_
      cases key with
      | none => exact pure start
      | some name => exact (keeps name draft start).bind fun next holds => ih false holds

/-- A predicate that every member keeps holds of the draft in the end. -/
theorem draft {member : String → σ → Read σ} {p : σ → Prop} {start : σ} (holds : p start)
    (keeps : ∀ name draft, p draft → Yields (member name draft) p) :
    Yields (Read.draft member start) p := by
  intro tokens done rest read
  exact members keeps _ true holds _ _ _ read

/-- A field holds what its reader gives. -/
theorem field {name : String} {old : Option α} {value : Read α} {p : α → Prop}
    (yields : Yields value p) : Yields (Read.field name old value) p := by
  cases old with
  | some a => exact throw _
  | none => exact after fun _ => yields

theorem required {name : String} {old : Option α} {p : α → Prop} (holds : ∀ a ∈ old, p a) :
    Yields (Read.required name old) p := by
  cases old with
  | some a => exact pure (holds a rfl)
  | none => exact throw _

/-- A required item satisfies what its reader gives. -/
theorem itemAt {wanted : String} {size index : Nat} {value : Read α} {p : α → Prop}
    (yields : Yields value p) : Yields (Read.itemAt wanted size index value) p := by
  refine after fun more => ?_
  cases more with
  | true => exact yields
  | false => exact throw _

/-- An item that may be left out satisfies what its reader gives, if its default does. -/
theorem itemOr {index : Nat} {default : α} {value : Read α} {p : α → Prop} (usual : p default)
    (yields : Yields value p) : Yields (Read.itemOr index default value) p := by
  refine after fun more => ?_
  cases more with
  | true => exact yields
  | false => exact pure usual

/-- A record yields what both its ways of being given yield. -/
theorem record {wanted : String} {ofObject ofList : Read α} {p : α → Prop}
    (object : Yields ofObject p) (list : Yields ofList p) :
    Yields (Read.record wanted ofObject ofList) p := by
  intro tokens a rest read
  unfold Read.record at read
  split at read
  · cases read
  · exact object _ _ _ read
  · have closed : Yields
        (do let a ← ofList
            Read.endList
            return a : Read α) p :=
      list.bind fun a holds => after fun _ => pure holds
    exact closed _ _ _ read
  · cases read

end Yields

end Json

end ScrollStory
