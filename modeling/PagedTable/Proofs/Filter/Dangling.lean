import PagedTable.Proofs.Filter.Grammar
import PagedTable.Proofs.Filter.Reading

/-! # Operators without a term

A minus sign, a bar or a parenthesis that opens a group adds nothing when no
term comes after it. A parenthesis right behind it closes it and nothing else,
so that the two together might as well not be there. And where the text ends,
whatever is still open ends with it. -/

namespace PagedTable.Filter

namespace Reading

theorem run_opener (reading : Reading) (opener : Opener) (rest : List Token) :
    reading.run (opener.token :: rest) = (reading.enter opener).run rest := by
  cases opener <;> rfl

theorem run_enter_closeParen {reading : Reading} (settled : reading.IsSettled) (opener : Opener)
    (rest : List Token) :
    (reading.enter opener).run (.closeParen :: rest) = reading.run rest := by
  have closed : (reading.enter opener).run (.closeParen :: rest) =
      (settle reading.frames ((Frame.mk opener reading.tree).close none)).run rest := rfl
  rw [closed, Frame.close_none, settled]

end Reading

theorem parse_opened_and_closed (opener : Opener) (before after : List Token) :
    parse (before ++ opener.token :: .closeParen :: after) = parse (before ++ after) := by
  rcases Reading.run_append Reading.isSettled_start before with
    ⟨reading, settled, left⟩ | ⟨tree, ended⟩
  · rw [parse, parse, left, left, reading.run_opener, Reading.run_enter_closeParen settled]
  · rw [parse, parse, ended, ended]

/-- An operator that the text or a parenthesis leaves without a term adds
nothing, but it takes that parenthesis with it. As long as no word follows, the
parenthesis makes no difference. -/
theorem parse_dangling (opener : Opener) (before after : List Token) :
    parse (before ++ [opener.token]) = parse before ∧
    parse (before ++ opener.token :: .closeParen :: after) = parse (before ++ after) ∧
    ((∀ token ∈ after, token.word? = none) →
      parse (before ++ opener.token :: .closeParen :: after) =
        parse (before ++ .closeParen :: after)) := by
  refine ⟨?_, parse_opened_and_closed opener before after, ?_⟩
  · apply parse_append_of_wordless
    simpa using opener.word?_token
  · intro wordless
    have closing : ∀ token ∈ Token.closeParen :: after, token.word? = none :=
      List.forall_mem_cons.mpr ⟨rfl, wordless⟩
    rw [parse_opened_and_closed, parse_append_of_wordless before wordless,
      parse_append_of_wordless before closing]

/-- The group in `a | (b -) c` does not end before its last term. -/
theorem parse_dangling_in_group :
    let word (text : String) : Token := .word ⟨text, none⟩
    let before := [word "a", .bar, .openParen, word "b"]
    let after : List Token := [.bar, .closeParen, .closeParen]
    (∀ token ∈ after, token.word? = none) ∧
      parse (before ++ .minus :: .closeParen :: [word "c"]) = parse (before ++ [word "c"]) ∧
      parse (before ++ .minus :: .closeParen :: after) =
        parse (before ++ .closeParen :: after) := by
  intro word before after
  have wordless : ∀ token ∈ after, token.word? = none := by decide
  exact ⟨wordless, (parse_dangling .negation before [word "c"]).2.1,
    (parse_dangling .negation before after).2.2 wordless⟩

/-- In `a -) b` the minus sign takes the parenthesis that would end the filter. -/
theorem parse_dangling_before_closeParen :
    let word (text : String) : Token := .word ⟨text, none⟩
    parse [word "a", .minus, .closeParen, word "b"] ≠ parse [word "a", .closeParen, word "b"] := by
  decide +kernel

/-! ## Groups without an end -/

theorem word?_of_mem_closeParens (count : Nat) :
    ∀ token ∈ List.replicate count Token.closeParen, token.word? = none := by
  intro token member
  rw [List.eq_of_mem_replicate member]
  rfl

/-- Parentheses at the end of a filter make no difference. So they may be left out of
the tokens of an expression, and its groups, with all the operators open in them, end
where they would have ended. -/
theorem parse_ends_open_groups (tokens : List Token) (count : Nat) :
    parse (tokens ++ List.replicate count .closeParen) = parse tokens ∧
    ∀ expression : Expression,
      expression.tokens = tokens ++ List.replicate count .closeParen →
        parse tokens = some expression.tree := by
  have same := parse_append_of_wordless tokens (word?_of_mem_closeParens count)
  refine ⟨same, ?_⟩
  intro expression written
  rw [← same, ← written, expression.parse_tokens]

/-- In `a | -(b (c` two groups are open, one of them behind a bar and a minus sign. -/
theorem parse_ends_open_groups_nested :
    let word (text : String) : Token := .word ⟨text, none⟩
    let factor (text : String) : Factor := .word ⟨text, none⟩
    let tokens := [word "a", .bar, .minus, .openParen, word "b", .openParen, word "c"]
    let inner : Expression :=
      .more (.single (.plain (factor "b"))) (.plain (.group (.single (.plain (factor "c")))))
    let expression : Expression :=
      .more (.single (.plain (factor "a"))) (.alternative (.negation (.group inner)))
    expression.tokens = tokens ++ List.replicate 2 .closeParen ∧
      parse tokens = some expression.tree := by
  intro word factor tokens inner expression
  have written : expression.tokens = tokens ++ List.replicate 2 .closeParen := by decide
  exact ⟨written, (parse_ends_open_groups tokens 2).2 expression written⟩

end PagedTable.Filter
