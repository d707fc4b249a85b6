import ScrollStory.Proofs.Json.Scan
import ScrollStory.Proofs.Json.Whole

/-!
# Values survive their text

A value whose numbers survive their text and that is not nested too deep is read from its text again,
in both layouts (`ScrollStory.Json.Value.read_text`). So different values have different texts.
-/

namespace ScrollStory

namespace Json

open Scan (Scannable)

/-- A number that is scanned into its numeral and read from there. -/
structure Number.Survives (n : Number) : Prop where
  scannable : Scannable n
  readable : Readable n

theorem Number.survives_nat {n : Nat} (fits : n < twoTo 64) : (whole n).Survives :=
  ⟨Scan.scans_writeNat n, readable_nat fits⟩

namespace Value

/-! ## The numbers of a value -/

mutual

/-- A weaker property of every number in a value. -/
theorem EveryNumber.imp {p q : Number → Prop} (weaker : ∀ n, p n → q n) :
    ∀ {value : Value}, value.EveryNumber p → value.EveryNumber q
  | null, _ | bool _, _ | string _, _ => trivial
  | number n, holds => weaker n holds
  | array _, holds => EveryNumberOfItems.imp weaker holds
  | object _, holds => EveryNumberOfMembers.imp weaker holds

/-- The same for the items of a list. -/
theorem EveryNumberOfItems.imp {p q : Number → Prop} (weaker : ∀ n, p n → q n) :
    ∀ {items : List Value}, EveryNumberOfItems p items → EveryNumberOfItems q items
  | [], _ => trivial
  | _ :: _, holds => ⟨EveryNumber.imp weaker holds.1, EveryNumberOfItems.imp weaker holds.2⟩

/-- The same for the members of an object. -/
theorem EveryNumberOfMembers.imp {p q : Number → Prop} (weaker : ∀ n, p n → q n) :
    ∀ {members : List (String × Value)}, EveryNumberOfMembers p members →
      EveryNumberOfMembers q members
  | [], _ => trivial
  | _ :: _, holds => ⟨EveryNumber.imp weaker holds.1, EveryNumberOfMembers.imp weaker holds.2⟩

end

/-! ## The depth of a value -/

/-- A list is nested one level deeper than its items. -/
theorem depth_array_le {α : Type} {toJson : α → Value} {as : List α} {n : Nat}
    (each : ∀ a ∈ as, (toJson a).depth ≤ n) : (array (as.map toJson)).depth ≤ n + 1 := by
  have items : depthOfItems (as.map toJson) ≤ n := by
    induction as with
    | nil => exact Nat.zero_le n
    | cons a as ih =>
        have others := ih fun other member => each other (List.mem_cons_of_mem _ member)
        exact Nat.max_le.mpr ⟨each a List.mem_cons_self, others⟩
  rw [depth]
  omega

/-! ## Reading a text -/

variable {value other : Value}

/-- **Values survive their text.** -/
theorem read_text (format : Format) (survives : value.EveryNumber Number.Survives)
    (shallow : value.depth ≤ deepest) :
    Read.all (read 0) (tokensOfString (value.text format)) = .ok value := by
  have tokens := tokensOfString_text format (survives.imp fun _ => (·.scannable))
  have reads : Reads (read 0) value.tokens value :=
    reads_tokens (survives.imp fun _ => (·.readable)) shallow
  have whole := reads []
  rw [List.append_nil] at whole
  rw [tokens, Read.all, whole]
  rfl

/-- Values with one text are equal, whatever their layouts. -/
theorem eq_of_text {format format' : Format} (survives : value.EveryNumber Number.Survives)
    (shallow : value.depth ≤ deepest) (survives' : other.EveryNumber Number.Survives)
    (shallow' : other.depth ≤ deepest) (same : value.text format = other.text format') :
    value = other := by
  have read := read_text format survives shallow
  rw [same, read_text format' survives' shallow', Except.ok.injEq] at read
  exact read.symm

end Value

end Json

end ScrollStory
