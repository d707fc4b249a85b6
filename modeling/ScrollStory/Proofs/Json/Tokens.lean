import ScrollStory.Json.Token
import ScrollStory.Json.Value

/-!
# Values as tokens

The tokens that spell a JSON value. They are what a written value is scanned into, and what the
readers of a value are run on.
-/

namespace ScrollStory

namespace Json

/-- The values of decimal digits. -/
def digitValues (cs : List Char) : List Nat :=
  cs.map fun c => c.toNat - 48

/-- The numeral as which a number is written. -/
def Number.numeral : Number → Numeral
  | whole n => ⟨n < 0, digitValues (Decimal.digits n.natAbs), none, none⟩
  | decimal d =>
    if d.coefficient = 0 ∨ (-5 ≤ d.magnitude ∧ d.magnitude ≤ 15) then
      { negative := d.negative
        whole := digitValues d.parts.1
        fraction := some (if d.parts.2.isEmpty then [0] else digitValues d.parts.2)
        exponent := none }
    else
      let ds := digitValues (Decimal.digits d.coefficient)
      { negative := d.negative
        whole := ds.take 1
        fraction := if ds.length = 1 then none else some (ds.drop 1)
        exponent := some (d.magnitude < 0, digitValues (Decimal.digits d.magnitude.natAbs)) }

theorem Number.numeral_nat (n : Nat) :
    (whole n).numeral = ⟨false, digitValues (Decimal.digits n), none, none⟩ := by
  have natural : decide ((n : Int) < 0) = false := by simp
  rw [numeral, natural, Int.natAbs_natCast]

/-- Parts of a list or of an object with a comma in front of all but the first. -/
def listed : List (List Token) → List Token
  | [] => []
  | part :: parts => part ++ parts.flatMap (Token.comma :: ·)

/-- Parts between the brackets of a list. -/
abbrev inBrackets (parts : List (List Token)) : List Token :=
  .openBracket :: (listed parts ++ [.closeBracket])

/-- Parts between the braces of an object. -/
abbrev inBraces (parts : List (List Token)) : List Token :=
  .openBrace :: (listed parts ++ [.closeBrace])

/-- With a comma in front of each, there are at least as many tokens as parts. -/
theorem length_le_flatMap_comma (parts : List (List Token)) :
    parts.length ≤ (parts.flatMap (Token.comma :: ·)).length := by
  induction parts with
  | nil => exact Nat.le_refl 0
  | cons part parts ih =>
      rw [List.flatMap_cons, List.length_append, List.length_cons, List.length_cons]
      omega

namespace Value

mutual

/-- The tokens that spell a value. -/
def tokens : Value → List Token
  | null => [.null]
  | bool b => [.bool b]
  | number n => [.number n.numeral]
  | string s => [.string s]
  | array items => .openBracket :: (listed (itemTokens items) ++ [.closeBracket])
  | object members => .openBrace :: (listed (memberTokens members) ++ [.closeBrace])

/-- The tokens of each item of a list. -/
def itemTokens : List Value → List (List Token)
  | [] => []
  | item :: items => item.tokens :: itemTokens items

/-- The tokens of each member of an object. -/
def memberTokens : List (String × Value) → List (List Token)
  | [] => []
  | (key, value) :: members => (.string key :: .colon :: value.tokens) :: memberTokens members

end

mutual

/-- Every number in a value satisfies `p`. -/
def EveryNumber (p : Number → Prop) : Value → Prop
  | number n => p n
  | array items => EveryNumberOfItems p items
  | object members => EveryNumberOfMembers p members
  | null | bool _ | string _ => True

/-- Every number in the items of a list satisfies `p`. -/
def EveryNumberOfItems (p : Number → Prop) : List Value → Prop
  | [] => True
  | item :: items => item.EveryNumber p ∧ EveryNumberOfItems p items

/-- Every number in the members of an object satisfies `p`. -/
def EveryNumberOfMembers (p : Number → Prop) : List (String × Value) → Prop
  | [] => True
  | (_, value) :: members => value.EveryNumber p ∧ EveryNumberOfMembers p members

end

mutual

/-- The number of lists and objects around the innermost part of a value. -/
def depth : Value → Nat
  | array items => 1 + depthOfItems items
  | object members => 1 + depthOfMembers members
  | null | bool _ | number _ | string _ => 0

/-- The greatest depth of an item of a list. -/
def depthOfItems : List Value → Nat
  | [] => 0
  | item :: items => max item.depth (depthOfItems items)

/-- The greatest depth of a member of an object. -/
def depthOfMembers : List (String × Value) → Nat
  | [] => 0
  | (_, value) :: members => max value.depth (depthOfMembers members)

end

/-- An item is no deeper than the deepest one. -/
theorem depth_le_depthOfItems {item : Value} {items : List Value} (member : item ∈ items) :
    item.depth ≤ depthOfItems items := by
  induction items with
  | nil => cases member
  | cons first items ih =>
      rw [depthOfItems]
      rcases List.mem_cons.mp member with rfl | later
      · exact Nat.le_max_left _ _
      · exact Nat.le_trans (ih later) (Nat.le_max_right _ _)

/-- A member is no deeper than the deepest one. -/
theorem depth_le_depthOfMembers {member : String × Value} {members : List (String × Value)}
    (inside : member ∈ members) : member.2.depth ≤ depthOfMembers members := by
  induction members with
  | nil => cases inside
  | cons first members ih =>
      obtain ⟨key, value⟩ := first
      rw [depthOfMembers]
      rcases List.mem_cons.mp inside with rfl | later
      · exact Nat.le_max_left _ _
      · exact Nat.le_trans (ih later) (Nat.le_max_right _ _)

theorem itemTokens_eq_map (items : List Value) : itemTokens items = items.map tokens := by
  induction items with
  | nil => rfl
  | cons item items ih => rw [itemTokens, ih, List.map_cons]

theorem everyNumberOfMembers_append (p : Number → Prop) (members others : List (String × Value)) :
    EveryNumberOfMembers p (members ++ others) ↔
      EveryNumberOfMembers p members ∧ EveryNumberOfMembers p others := by
  induction members with
  | nil => simp [EveryNumberOfMembers]
  | cons member members ih => simp [EveryNumberOfMembers, ih, and_assoc]

/-- Every number in the members of an object, member by member. -/
theorem everyNumberOfMembers_iff (p : Number → Prop) (members : List (String × Value)) :
    EveryNumberOfMembers p members ↔ ∀ member ∈ members, member.2.EveryNumber p := by
  induction members with
  | nil => simp [EveryNumberOfMembers]
  | cons member members ih => simp [EveryNumberOfMembers, ih]

/-- An object whose members are no lists and no objects. -/
theorem depthOfMembers_eq_zero {members : List (String × Value)}
    (flat : ∀ member ∈ members, member.2.depth = 0) : depthOfMembers members = 0 := by
  induction members with
  | nil => rfl
  | cons member members ih => simp_all [depthOfMembers]

/-- Every number in the items of a list, item by item. -/
theorem everyNumberOfItems_iff (p : Number → Prop) (items : List Value) :
    EveryNumberOfItems p items ↔ ∀ item ∈ items, item.EveryNumber p := by
  induction items with
  | nil => simp [EveryNumberOfItems]
  | cons item items ih => simp [EveryNumberOfItems, ih]

end Value

/-- Tokens with which a value or a member may begin. -/
def Opens (tokens : List Token) : Prop :=
  ∃ first rest, tokens = first :: rest ∧ first ≠ .closeBracket ∧ first ≠ .closeBrace

theorem Value.opens_tokens (value : Value) : Opens value.tokens := by
  cases value <;> exact ⟨_, _, rfl, by simp, by simp⟩

end Json

end ScrollStory
