import Mathlib.Data.List.Forall2

/-!
# Steps that may fail

A chain of steps succeeds just if every step does, and so does a step that is taken for every item
of a list. A chain that fails does so with the first failure in it (`ScrollStory.failure?_mapM`).
-/

namespace ScrollStory

variable {ε α β γ : Type}

/-- If steps one after another succeed, then each of them does. -/
theorem of_bind_ok {first : Except ε α} {next : α → Except ε β} {b : β}
    (done : first >>= next = .ok b) : ∃ a, first = .ok a ∧ next a = .ok b := by
  cases first with
  | error fault => cases done
  | ok a => exact ⟨a, rfl, done⟩

variable {step : α → Except ε β} {as : List α} {bs : List β}

/-- Steps over a list succeed with the results of each step. -/
theorem mapM_eq_ok_iff :
    as.mapM step = .ok bs ↔ List.Forall₂ (fun a b => step a = .ok b) as bs := by
  constructor
  · intro done
    induction as generalizing bs with
    | nil =>
        cases done
        exact .nil
    | cons a as ih =>
        rw [List.mapM_cons] at done
        obtain ⟨b, first, done⟩ := of_bind_ok done
        obtain ⟨others, later, done⟩ := of_bind_ok done
        cases done
        exact .cons first (ih later)
  · intro related
    induction related with
    | nil => rfl
    | cons first _ later =>
        rw [List.mapM_cons, first, later]
        rfl

/-- Steps that all succeed give the list of their results. -/
theorem mapM_of_ok {result : α → β} (done : ∀ a ∈ as, step a = .ok (result a)) :
    as.mapM step = .ok (as.map result) :=
  mapM_eq_ok_iff.mpr (List.forall₂_map_right_iff.mpr (List.forall₂_same.mpr done))

/-- A result of steps over a list is that of one of them. -/
theorem exists_of_mem_mapM (done : as.mapM step = .ok bs) {b : β} (member : b ∈ bs) :
    ∃ a ∈ as, step a = .ok b := by
  have related := mapM_eq_ok_iff.mp done
  clear done
  induction related with
  | nil => cases member
  | @cons a first as _ made _ ih =>
      rcases List.mem_cons.mp member with rfl | later
      · exact ⟨a, List.mem_cons_self, made⟩
      · obtain ⟨other, inside, made⟩ := ih later
        exact ⟨other, List.mem_cons_of_mem _ inside, made⟩

/-- Steps over a list succeed just if each of them does. -/
theorem exists_mapM_iff :
    (∃ bs, as.mapM step = .ok bs) ↔ ∀ a ∈ as, ∃ b, step a = .ok b := by
  simp only [mapM_eq_ok_iff]
  constructor
  · rintro ⟨bs, related⟩
    induction related with
    | nil => exact List.forall_mem_nil _
    | cons first _ later => exact List.forall_mem_cons.mpr ⟨⟨_, first⟩, later⟩
  · intro each
    induction as with
    | nil => exact ⟨[], .nil⟩
    | cons a as ih =>
        obtain ⟨⟨b, first⟩, later⟩ := List.forall_mem_cons.mp each
        obtain ⟨bs, related⟩ := ih later
        exact ⟨b :: bs, .cons first related⟩

/-- The results of steps may be changed one by one. -/
theorem map_mapM (step : α → Except ε β) (change : β → γ) (as : List α) :
    (as.mapM step).map (List.map change) = as.mapM fun a => (step a).map change := by
  induction as with
  | nil => rfl
  | cons a as ih =>
      rw [List.mapM_cons, List.mapM_cons, ← ih]
      cases step a with
      | error fault => rfl
      | ok b => cases as.mapM step <;> rfl

/-! ## Failures -/

/-- What a step fails with, if it fails. -/
def failure? : Except ε α → Option ε
  | .error fault => some fault
  | .ok _ => none

theorem failure?_eq_some {result : Except ε α} {fault : ε} :
    failure? result = some fault ↔ result = .error fault := by
  cases result with
  | error other => simp [failure?]
  | ok a => simp [failure?]

theorem failure?_eq_none {result : Except ε α} :
    failure? result = none ↔ ∃ a, result = .ok a := by
  cases result with
  | error fault => simp [failure?]
  | ok a => simp [failure?]

/-- Steps one after another fail with the first failure. -/
theorem failure?_bind (first : Except ε α) (next : α → Except ε β) :
    failure? (first >>= next) =
      (failure? first).or (first.toOption.bind fun a => failure? (next a)) := by
  cases first <;> rfl

/-- A step that cannot fail adds no failure. -/
theorem failure?_bind_ok (first : Except ε α) (result : α → β) :
    failure? (first >>= fun a => pure (result a)) = failure? first := by
  cases first <;> rfl

/-- Of the failures of the items, the first is reported. -/
theorem failure?_mapM (step : α → Except ε β) (as : List α) :
    failure? (as.mapM step) = as.findSome? fun a => failure? (step a) := by
  induction as with
  | nil => rfl
  | cons a as ih =>
      rw [List.mapM_cons, List.findSome?_cons]
      cases step a with
      | error fault => rfl
      | ok b => exact (failure?_bind_ok _ _).trans ih

end ScrollStory
