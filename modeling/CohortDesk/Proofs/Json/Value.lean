import CohortDesk.Proofs.Json.Token

/-!
# Values read from their texts

The tokens of a value are read as that value whatever follows them, and no number among them stands
before another value. So any JSON text of a value is read as it, and a written value is read back if
its numbers are whole and its strings are text.
-/

namespace CohortDesk.Json

set_option autoImplicit false

namespace Value

section Lists

variable {bound : Nat} {tokens after : List Token} {value : Value}

theorem elements?_last (read : first? bound tokens = some (value, .rightBracket :: after)) :
    elements? (bound + 1) tokens = some ([value], after) := by
  rw [elements?, read]
  rfl

theorem elements?_more (read : first? bound tokens = some (value, .comma :: after)) :
    elements? (bound + 1) tokens =
      (elements? bound after).map fun (values, tail) => (value :: values, tail) := by
  rw [elements?, read]
  simp only [Option.bind_eq_bind, Option.bind_some]
  cases elements? bound after <;> rfl

variable {name : Option String}

theorem members?_last (read : first? bound tokens = some (value, .rightBrace :: after)) :
    members? (bound + 1) (.string name :: .colon :: tokens) = some ([(name, value)], after) := by
  rw [members?, read]
  rfl

theorem members?_more (read : first? bound tokens = some (value, .comma :: after)) :
    members? (bound + 1) (.string name :: .colon :: tokens) =
      (members? bound after).map fun (members, tail) => ((name, value) :: members, tail) := by
  rw [members?, read]
  simp only [Option.bind_eq_bind, Option.bind_some]
  cases members? bound after <;> rfl

end Lists

theorem tokens_head (value : Value) :
    ∃ token rest, value.tokens = token :: rest ∧ token ≠ .rightBracket := by
  cases value with
  | bool truth => cases truth <;> exact ⟨_, _, rfl, by decide⟩
  | number whole => exact ⟨_, _, rfl, nofun⟩
  | string text => exact ⟨_, _, rfl, nofun⟩
  | _ => exact ⟨_, _, rfl, by decide⟩

theorem element_tokens_cons (value : Value) (rest : List Value) :
    elementTokens (value :: rest) =
      value.tokens ++ if rest = [] then [.rightBracket] else .comma :: elementTokens rest := by
  cases rest <;> rfl

theorem member_tokens_cons (name : Option String) (value : Value)
    (rest : List (Option String × Value)) :
    memberTokens ((name, value) :: rest) =
      .string name :: .colon ::
        (value.tokens ++ if rest = [] then [.rightBrace] else .comma :: memberTokens rest) := by
  cases rest <;> rfl

theorem first?_left_bracket {bound : Nat} {value : Value} {values : List Value}
    {rest after : List Token}
    (read : elements? bound (elementTokens (value :: values) ++ rest) =
      some (value :: values, after)) :
    first? (bound + 1) (.leftBracket :: (elementTokens (value :: values) ++ rest)) =
      some (.array (value :: values), after) := by
  obtain ⟨token, others, starts, other⟩ := tokens_head value
  rw [element_tokens_cons, starts, List.cons_append, List.cons_append] at read ⊢
  rw [first?]
  · rw [read]
    rfl
  · intro after same
    exact absurd (List.cons.inj same).1 other

theorem first?_left_brace {bound : Nat} {name : Option String} {value : Value}
    {members : List (Option String × Value)} {rest after : List Token}
    (read : members? bound (memberTokens ((name, value) :: members) ++ rest) =
      some ((name, value) :: members, after)) :
    first? (bound + 1) (.leftBrace :: (memberTokens ((name, value) :: members) ++ rest)) =
      some (.object ((name, value) :: members), after) := by
  rw [member_tokens_cons, List.cons_append] at read ⊢
  simp only [first?, read, Option.map_some]

theorem length_tokens_pos (value : Value) : 0 < value.tokens.length := by
  obtain ⟨token, rest, starts, _⟩ := tokens_head value
  rw [starts]
  exact Nat.succ_pos _

-- The recursion is that of the reader, on its bound.
mutual

theorem first?_tokens (bound : Nat) (value : Value) (rest : List Token)
    (enough : 2 * value.tokens.length ≤ bound + 1) :
    first? bound (value.tokens ++ rest) = some (value, rest) := by
  have present := length_tokens_pos value
  cases bound with
  | zero => omega
  | succ bound =>
      match value with
      | .null => rfl
      | .bool true => rfl
      | .bool false => rfl
      | .number _ => rfl
      | .string _ => rfl
      | .array [] => rfl
      | .array (value :: values) =>
          rw [tokens, List.length_cons] at enough
          exact first?_left_bracket (elements?_tokens bound value values rest (by omega))
      | .object [] => rfl
      | .object ((name, value) :: members) =>
          rw [tokens, List.length_cons] at enough
          exact first?_left_brace (members?_tokens bound name value members rest (by omega))

theorem elements?_tokens (bound : Nat) (value : Value) (values : List Value) (rest : List Token)
    (enough : 2 * (elementTokens (value :: values)).length ≤ bound + 2) :
    elements? bound (elementTokens (value :: values) ++ rest) = some (value :: values, rest) := by
  have present := length_tokens_pos value
  rw [element_tokens_cons, List.length_append] at enough
  rw [element_tokens_cons, List.append_assoc]
  cases bound with
  | zero =>
      have closed : 0 < (if values = [] then [Token.rightBracket]
          else .comma :: elementTokens values).length := by
        split <;> exact Nat.succ_pos _
      omega
  | succ bound =>
      match values with
      | [] =>
          rw [if_pos rfl, List.length_singleton] at enough
          exact elements?_last (first?_tokens bound value _ (by omega))
      | next :: values =>
          rw [if_neg (List.cons_ne_nil _ _), List.length_cons] at enough
          rw [if_neg (List.cons_ne_nil _ _), List.cons_append,
            elements?_more (first?_tokens bound value _ (by omega)),
            elements?_tokens bound next values rest (by omega), Option.map_some]

theorem members?_tokens (bound : Nat) (name : Option String) (value : Value)
    (members : List (Option String × Value)) (rest : List Token)
    (enough : 2 * (memberTokens ((name, value) :: members)).length ≤ bound + 2) :
    members? bound (memberTokens ((name, value) :: members) ++ rest) =
      some ((name, value) :: members, rest) := by
  have present := length_tokens_pos value
  rw [member_tokens_cons, List.length_cons, List.length_cons, List.length_append] at enough
  rw [member_tokens_cons, List.cons_append, List.cons_append, List.append_assoc]
  cases bound with
  | zero => omega
  | succ bound =>
      match members with
      | [] =>
          rw [if_pos rfl, List.length_singleton] at enough
          exact members?_last (first?_tokens bound value _ (by omega))
      | (nextName, next) :: members =>
          rw [if_neg (List.cons_ne_nil _ _), List.length_cons] at enough
          rw [if_neg (List.cons_ne_nil _ _), List.cons_append,
            members?_more (first?_tokens bound value _ (by omega)),
            members?_tokens bound nextName next members rest (by omega), Option.map_some]

end

theorem of_tokens?_tokens (value : Value) : ofTokens? value.tokens = some value := by
  have read := first?_tokens (2 * value.tokens.length) value [] (Nat.le_succ _)
  rw [List.append_nil] at read
  rw [ofTokens?, read]

section Apart

theorem is_chain_cons {token : Token} {rest : List Token} (other : token.isNumber = Bool.false)
    (apart : rest.IsChain Token.MayPrecede) : (token :: rest).IsChain Token.MayPrecede := by
  apply List.isChain_cons.2 ⟨_, apart⟩
  intro next _ number
  exact absurd (other.symm.trans number) Bool.false_ne_true

mutual

theorem is_chain_tokens (value : Value) {rest : List Token}
    (start : ∀ next ∈ rest.head?, next.isMark = Bool.true)
    (apart : rest.IsChain Token.MayPrecede) :
    (value.tokens ++ rest).IsChain Token.MayPrecede := by
  match value with
  | .null => exact is_chain_cons rfl apart
  | .bool truth => cases truth <;> exact is_chain_cons rfl apart
  | .number _ => exact List.isChain_cons.2 ⟨fun next head _ => start next head, apart⟩
  | .string _ => exact is_chain_cons rfl apart
  | .array values => exact is_chain_cons rfl (is_chain_element_tokens values apart)
  | .object members => exact is_chain_cons rfl (is_chain_member_tokens members apart)

theorem is_chain_element_tokens (values : List Value) {rest : List Token}
    (apart : rest.IsChain Token.MayPrecede) :
    (elementTokens values ++ rest).IsChain Token.MayPrecede := by
  match values with
  | [] => exact is_chain_cons rfl apart
  | value :: values =>
      have others := is_chain_element_tokens values apart
      rw [element_tokens_cons, List.append_assoc]
      apply is_chain_tokens value
      · split <;> simp [Token.isMark]
      · split
        · exact is_chain_cons rfl apart
        · exact is_chain_cons rfl others

theorem is_chain_member_tokens (members : List (Option String × Value)) {rest : List Token}
    (apart : rest.IsChain Token.MayPrecede) :
    (memberTokens members ++ rest).IsChain Token.MayPrecede := by
  match members with
  | [] => exact is_chain_cons rfl apart
  | (name, value) :: members =>
      have others := is_chain_member_tokens members apart
      rw [member_tokens_cons, List.cons_append, List.cons_append, List.append_assoc]
      apply is_chain_cons rfl
      apply is_chain_cons rfl
      apply is_chain_tokens value
      · split <;> simp [Token.isMark]
      · split
        · exact is_chain_cons rfl apart
        · exact is_chain_cons rfl others

end

end Apart

/-- All numbers in the value are whole and all its strings are text. -/
def Exact (value : Value) : Prop := ∀ token ∈ value.tokens, token.isExact = Bool.true

theorem exact_null : Exact .null := by simp [Exact, tokens, Token.isExact]

theorem exact_number (whole : Int) : Exact (.number (some whole)) := by
  simp [Exact, tokens, Token.isExact]

theorem exact_string (text : String) : Exact (.string (some text)) := by
  simp [Exact, tokens, Token.isExact]

theorem exact_array {values : List Value} (exact : ∀ value ∈ values, value.Exact) :
    Exact (.array values) := by
  suffices all : ∀ token ∈ elementTokens values, token.isExact = Bool.true from
    List.forall_mem_cons.2 ⟨rfl, all⟩
  induction values with
  | nil => simp [elementTokens, Token.isExact]
  | cons value others ih =>
      obtain ⟨first, more⟩ := List.forall_mem_cons.1 exact
      rw [element_tokens_cons]
      apply List.forall_mem_append.2 ⟨first, _⟩
      split
      · simp [Token.isExact]
      · exact List.forall_mem_cons.2 ⟨rfl, ih more⟩

theorem exact_object {members : List (Option String × Value)}
    (exact : ∀ member ∈ members, member.1.isSome = Bool.true ∧ member.2.Exact) :
    Exact (.object members) := by
  suffices all : ∀ token ∈ memberTokens members, token.isExact = Bool.true from
    List.forall_mem_cons.2 ⟨rfl, all⟩
  induction members with
  | nil => simp [memberTokens, Token.isExact]
  | cons member others ih =>
      obtain ⟨⟨named, first⟩, more⟩ := List.forall_mem_cons.1 exact
      obtain ⟨name, named⟩ := Option.isSome_iff_exists.1 named
      rw [member_tokens_cons, named]
      refine List.forall_mem_cons.2 ⟨rfl, List.forall_mem_cons.2 ⟨rfl, ?_⟩⟩
      apply List.forall_mem_append.2 ⟨first, _⟩
      split
      · simp [Token.isExact]
      · exact List.forall_mem_cons.2 ⟨rfl, ih more⟩

end Value

/-- The text is JSON, and this is its value. -/
def Value.Spelled (value : Value) (text : List Char) : Prop := Spells value.tokens text

/-- Whatever JSON text a value has, it is read as that value. -/
theorem read?_spelled {value : Value} {text : List Char} (spelled : value.Spelled text) :
    read? text = some value := by
  have apart := value.is_chain_tokens (by simp) List.isChain_nil
  rw [List.append_nil] at apart
  rw [read?, tokens?_spelled spelled apart]
  exact value.of_tokens?_tokens

theorem read?_write {value : Value} (exact : value.Exact) : read? (write value) = some value :=
  read?_spelled (spells_flatMap exact)

end CohortDesk.Json
