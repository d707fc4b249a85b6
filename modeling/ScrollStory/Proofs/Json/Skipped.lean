import ScrollStory.Proofs.Json.Reading

/-!
# Skipping values

The value of a member that nothing is known of is skipped if it is well-formed, whatever it holds
and however deep it is (`ScrollStory.Json.IsValue.reads_skip`).
-/

namespace ScrollStory

namespace Json

/-- A token that may be the key of a member. -/
def Token.IsKey : Token → Prop
  | string _ | unreadable _ => True
  | _ => False

/-- The tokens of a member of an object. -/
def memberOf (member : Token × List Token) : List Token := member.1 :: .colon :: member.2

/-- The tokens of any JSON value. -/
inductive IsValue : List Token → Prop
  | null : IsValue [.null]
  | bool (b : Bool) : IsValue [.bool b]
  | number (numeral : Numeral) : IsValue [.number numeral]
  | string (s : String) : IsValue [.string s]
  | unreadable (fault : Fault) : IsValue [.unreadable fault]
  | list {parts : List (List Token)} (items : ∀ part ∈ parts, IsValue part) :
      IsValue (inBrackets parts)
  | object {members : List (Token × List Token)} (keys : ∀ member ∈ members, member.1.IsKey)
      (values : ∀ member ∈ members, IsValue member.2) :
      IsValue (inBraces (members.map memberOf))

theorem IsValue.opens {tokens : List Token} (isValue : IsValue tokens) : Opens tokens := by
  cases isValue <;> exact ⟨_, _, rfl, by simp, by simp⟩

/-- A skip of these tokens goes on behind them. -/
def Skips (tokens : List Token) : Prop :=
  ∀ stack rest, skipFrom stack (tokens ++ rest) = skipOn stack rest

/-- A key is skipped with its colon. -/
theorem skipKey_of_isKey {key : Token} (isKey : key.IsKey) (stack : List Container)
    (rest : List Token) :
    skipKey stack key (.colon :: rest) = skipFrom (.object :: stack) rest := by
  cases key <;> first | rfl | exact isKey.elim

/-- Items behind the first one of a list are skipped, and then the list ends. -/
theorem skipOn_items {parts : List (List Token)} (skips : ∀ part ∈ parts, Skips part)
    (stack : List Container) (rest : List Token) :
    skipOn (.list :: stack) (parts.flatMap (Token.comma :: ·) ++ .closeBracket :: rest) =
      skipOn stack rest := by
  induction parts with
  | nil => rfl
  | cons part parts ih =>
      have others := ih fun part member => skips part (List.mem_cons_of_mem _ member)
      rw [List.flatMap_cons, List.cons_append, List.cons_append, skipOn, List.append_assoc,
        skips part List.mem_cons_self, others]

/-- Members behind the first one of an object are skipped, and then the object ends. -/
theorem skipOn_members {members : List (Token × List Token)}
    (keys : ∀ member ∈ members, member.1.IsKey) (skips : ∀ member ∈ members, Skips member.2)
    (stack : List Container) (rest : List Token) :
    skipOn (.object :: stack)
        ((members.map memberOf).flatMap (Token.comma :: ·) ++ .closeBrace :: rest) =
      skipOn stack rest := by
  induction members with
  | nil => rfl
  | cons member members ih =>
      have others := ih (fun member inside => keys member (List.mem_cons_of_mem _ inside))
        fun member inside => skips member (List.mem_cons_of_mem _ inside)
      have comma (token : Token) (behind : List Token) :
          skipOn (.object :: stack) (.comma :: token :: behind) = skipKey stack token behind := rfl
      simp only [List.map_cons, List.flatMap_cons, memberOf, List.cons_append, List.append_assoc]
      rw [comma, skipKey_of_isKey (keys _ List.mem_cons_self), skips _ List.mem_cons_self]
      exact others

/-- A value is skipped with all that it contains. -/
theorem IsValue.skips {tokens : List Token} (isValue : IsValue tokens) : Skips tokens := by
  induction isValue with
  | @list parts items ih =>
      intro stack rest
      cases parts with
      | nil => rfl
      | cons part parts =>
          -- A list with an item in it does not end where it begins.
          obtain ⟨token, tokens, rfl, notBracket, _⟩ := (items part List.mem_cons_self).opens
          have first := ih _ List.mem_cons_self (.list :: stack)
            (parts.flatMap (Token.comma :: ·) ++ .closeBracket :: rest)
          have others := skipOn_items (fun part member => ih part (List.mem_cons_of_mem _ member))
            stack rest
          have start (behind : List Token) : skipFrom stack (.openBracket :: token :: behind) =
              skipFrom (.list :: stack) (token :: behind) := by
            rw [skipFrom]
            exact notBracket
          simp only [listed, List.cons_append, List.append_assoc, List.nil_append, start]
          rw [← others, ← first, List.cons_append]
  | @object members keys values ih =>
      intro stack rest
      cases members with
      | nil => rfl
      | cons member members =>
          have isKey := keys _ List.mem_cons_self
          have first := ih _ List.mem_cons_self (.object :: stack)
            ((members.map memberOf).flatMap (Token.comma :: ·) ++ .closeBrace :: rest)
          have others := skipOn_members
            (fun member inside => keys member (List.mem_cons_of_mem _ inside))
            (fun member inside => ih member (List.mem_cons_of_mem _ inside)) stack rest
          have start (behind : List Token) : skipFrom stack (.openBrace :: member.1 :: behind) =
              skipKey stack member.1 behind := by
            rw [skipFrom]
            intro same
            rw [same] at isKey
            exact isKey
          simp only [listed, List.map_cons, memberOf, List.cons_append, List.append_assoc,
            List.nil_append]
          rw [start, skipKey_of_isKey isKey, first, others]
  | _ => exact fun _ _ => rfl

/-- A well-formed value is skipped. -/
theorem IsValue.reads_skip {tokens : List Token} (isValue : IsValue tokens) :
    Reads Read.skip tokens () := by
  intro rest
  rw [Read.skip, isValue.skips, skipOn]

end Json

end ScrollStory
