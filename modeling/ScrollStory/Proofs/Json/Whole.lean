import ScrollStory.Json.Whole
import ScrollStory.Proofs.Json.Reading

/-!
# Reading whole values

The tokens that spell a value are read as that value, in front of any others, if its numbers are
read as they are written and it is not nested too deep (`ScrollStory.Json.Value.reads_tokens`). The
induction is over the value: reading a part of a list or of an object ends in delivering the part to
the container that is open around it.
-/

namespace ScrollStory

namespace Json

/-- A number that its own numeral has as its value. -/
def Readable (n : Number) : Prop := n.numeral.value = .ok n

theorem readable_nat {n : Nat} (fits : n < twoTo 64) : Readable (.whole n) :=
  value_numeral_nat fits

namespace Value

/-- Reading the tokens of a value ends in delivering the value. -/
def Delivers (value : Value) (enclosing : Nat) : Prop :=
  ∀ stack rest, value.depth + (enclosing + stack.length) ≤ deepest →
    readFrom enclosing stack (value.tokens ++ rest) = deliver enclosing value stack rest

/-- A value in a list is put to those seen before it when a comma follows. -/
theorem deliver_list_comma (enclosing : Nat) (value : Value) (seen : List Value)
    (stack : List Open) {token : Token} (notBracket : token ≠ .closeBracket) (rest : List Token) :
    deliver enclosing value (.list seen :: stack) (.comma :: token :: rest) =
      readFrom enclosing (.list (value :: seen) :: stack) (token :: rest) := by
  cases token <;> first | exact (notBracket rfl).elim | rfl

/-- The items of a list are gathered behind those before them. -/
theorem readFrom_items {enclosing : Nat} {first : Value} {items : List Value}
    (delivers : ∀ item ∈ first :: items, item.Delivers enclosing) (seen : List Value)
    (stack : List Open) (rest : List Token)
    (shallow : ∀ item ∈ first :: items, item.depth + (enclosing + (stack.length + 1)) ≤ deepest) :
    readFrom enclosing (.list seen :: stack)
        (listed (itemTokens (first :: items)) ++ .closeBracket :: rest) =
      deliver enclosing (.array (seen.reverse ++ first :: items)) stack rest := by
  induction items generalizing first seen with
  | nil =>
      have delivered := delivers first (by simp) (.list seen :: stack) (.closeBracket :: rest)
        (shallow first (by simp))
      simp only [itemTokens, listed, List.flatMap_nil, List.append_nil, delivered, deliver,
        List.reverse_cons]
  | cons second items ih =>
      obtain ⟨token, tokens, opened, notBracket, _⟩ := second.opens_tokens
      have delivered := delivers first (by simp) (.list seen :: stack)
        (.comma :: (listed (itemTokens (second :: items)) ++ .closeBracket :: rest))
        (shallow first (by simp))
      have others := ih (fun item member => delivers item (List.mem_cons_of_mem _ member))
        (first :: seen) (fun item member => shallow item (List.mem_cons_of_mem _ member))
      have split : listed (itemTokens (first :: second :: items)) =
          first.tokens ++ .comma :: listed (itemTokens (second :: items)) := by
        simp only [itemTokens, listed, List.flatMap_cons, List.cons_append]
      rw [split, List.append_assoc, List.cons_append, delivered]
      simp only [itemTokens, listed, opened, List.cons_append] at others ⊢
      rw [deliver_list_comma enclosing first seen stack notBracket, others, List.reverse_cons,
        List.append_assoc]
      rfl

/-- The members of an object are gathered behind those before them. -/
theorem readKey_members {enclosing : Nat} {key : String} {first : Value}
    {members : List (String × Value)}
    (delivers : ∀ member ∈ (key, first) :: members, member.2.Delivers enclosing)
    (seen : List (String × Value)) (stack : List Open) (rest : List Token)
    (shallow : ∀ member ∈ (key, first) :: members,
      member.2.depth + (enclosing + (stack.length + 1)) ≤ deepest) :
    readKey enclosing seen stack (.string key)
        (.colon :: (first.tokens ++ ((memberTokens members).flatMap (Token.comma :: ·) ++
          .closeBrace :: rest))) =
      deliver enclosing (.object (seen.reverse ++ (key, first) :: members)) stack rest := by
  induction members generalizing key first seen with
  | nil =>
      have delivered := delivers (key, first) (by simp) (.object seen key :: stack)
        (.closeBrace :: rest) (shallow (key, first) (by simp))
      simp only [memberTokens, List.flatMap_nil, List.nil_append, readKey, delivered, deliver,
        List.reverse_cons]
  | cons second members ih =>
      obtain ⟨nextKey, next⟩ := second
      have delivered := delivers (key, first) (by simp) (.object seen key :: stack)
        (.comma :: .string nextKey :: .colon :: (next.tokens ++
          ((memberTokens members).flatMap (Token.comma :: ·) ++ .closeBrace :: rest)))
        (shallow (key, first) (by simp))
      have others := ih (fun member inside => delivers member (List.mem_cons_of_mem _ inside))
        ((key, first) :: seen)
        (fun member inside => shallow member (List.mem_cons_of_mem _ inside))
      simp only [readKey] at others
      simp only [memberTokens, List.flatMap_cons, List.cons_append, List.append_assoc, readKey,
        delivered, deliver, others, List.reverse_cons, List.nil_append]

/-- A list is delivered if its items are. -/
theorem delivers_array {enclosing : Nat} {items : List Value}
    (delivers : ∀ item ∈ items, item.Delivers enclosing) : (array items).Delivers enclosing := by
  intro stack rest shallow
  rw [depth] at shallow
  have room : ¬ deepest ≤ enclosing + stack.length := by omega
  cases items with
  | nil =>
      simp only [tokens, itemTokens, listed, List.nil_append, List.cons_append, readFrom, room,
        ↓reduceIte]
  | cons first items =>
      obtain ⟨token, behind, opened, notBracket, _⟩ := first.opens_tokens
      have gathered := readFrom_items delivers [] stack rest fun item member => by
        have bounded := depth_le_depthOfItems member
        omega
      have start (others : List Token) :
          readFrom enclosing stack (.openBracket :: token :: others) =
            readFrom enclosing (.list [] :: stack) (token :: others) := by
        rw [readFrom, if_neg room]
        exact notBracket
      simp only [itemTokens, listed, opened, List.cons_append, List.append_assoc] at gathered
      simp only [tokens, itemTokens, listed, opened, List.cons_append, List.append_assoc,
        List.nil_append, start, gathered, List.reverse_nil]

/-- An object is delivered if the values of its members are. -/
theorem delivers_object {enclosing : Nat} {members : List (String × Value)}
    (delivers : ∀ member ∈ members, member.2.Delivers enclosing) :
    (object members).Delivers enclosing := by
  intro stack rest shallow
  rw [depth] at shallow
  have room : ¬ deepest ≤ enclosing + stack.length := by omega
  cases members with
  | nil =>
      simp only [tokens, memberTokens, listed, List.nil_append, List.cons_append, readFrom, room,
        ↓reduceIte]
  | cons first members =>
      obtain ⟨key, value⟩ := first
      have gathered := readKey_members delivers [] stack rest fun member inside => by
        have bounded := depth_le_depthOfMembers inside
        omega
      simp only [tokens, memberTokens, listed, List.cons_append, List.append_assoc, List.nil_append,
        readFrom, room, ↓reduceIte, gathered, List.reverse_nil]

mutual

/-- A value that can be read is delivered to whatever is open around it. -/
theorem delivers (enclosing : Nat) :
    ∀ value : Value, value.EveryNumber Readable → value.Delivers enclosing
  | null, _ => fun _ _ _ => rfl
  | bool _, _ => fun _ _ _ => rfl
  | string _, _ => fun _ _ _ => rfl
  | number n, readable => by
    intro stack rest _
    have value : n.numeral.value = .ok n := readable
    simp only [tokens, List.cons_append, List.nil_append, readFrom, value]
  | array items, readable => delivers_array (delivers_items enclosing items readable)
  | object members, readable => delivers_object (delivers_members enclosing members readable)

/-- Every item of a list is delivered. -/
theorem delivers_items (enclosing : Nat) :
    ∀ items : List Value, EveryNumberOfItems Readable items →
      ∀ item ∈ items, item.Delivers enclosing
  | [], _ => fun _ member => nomatch member
  | item :: items, readable => by
    have first := delivers enclosing item readable.1
    have others := delivers_items enclosing items readable.2
    intro other member
    rcases List.mem_cons.mp member with rfl | later
    · exact first
    · exact others other later

/-- Every member of an object is delivered. -/
theorem delivers_members (enclosing : Nat) :
    ∀ members : List (String × Value), EveryNumberOfMembers Readable members →
      ∀ member ∈ members, member.2.Delivers enclosing
  | [], _ => fun _ member => nomatch member
  | (key, value) :: members, readable => by
    have first := delivers enclosing value readable.1
    have others := delivers_members enclosing members readable.2
    intro other member
    rcases List.mem_cons.mp member with rfl | later
    · exact first
    · exact others other later

end

/-- **Reading a whole value.** The tokens of a value are read as the value. -/
theorem reads_tokens {enclosing : Nat} {value : Value} (readable : value.EveryNumber Readable)
    (shallow : value.depth + enclosing ≤ deepest) :
    Reads (read enclosing) value.tokens value := by
  intro rest
  rw [read, delivers enclosing value readable [] rest shallow, deliver]

end Value

end Json

end ScrollStory
