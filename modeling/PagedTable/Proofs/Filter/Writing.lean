import PagedTable.Filter.Query
import PagedTable.Proofs.Filter.Grammar
import PagedTable.Proofs.Filter.Lexing
import PagedTable.Proofs.Filter.Term

/-! # Writing filters down

A tree is written with every term in quotes and every branch in parentheses.
What is written is read back as the same tree, unless a term holds a quote or a
capital letter, or a field has a name that no filter can name. -/

namespace PagedTable.Filter

open Text Word

/-! ## The text of a tree -/

def inQuotes (text : String) : String :=
  "\"" ++ text ++ "\""

def inParens (text : String) : String :=
  "(" ++ text ++ ")"

def written : Filter → String
  | .anywhere text => inQuotes text
  | .field name relation text => name ++ relation.symbol ++ inQuotes text
  | .both left right => inParens left.written ++ " " ++ inParens right.written
  | .either left right => inParens left.written ++ " | " ++ inParens right.written
  | .negated inner => "-" ++ inParens inner.written

example : written (.both (.field "a" .less "=x") (.negated (.anywhere "b c"))) =
    "(a<\"=x\") (-(\"b c\"))" := rfl

/-- Whether quotes can hold a text and reading leaves it as it is. -/
def IsPlain (text : String) : Prop :=
  '"' ∉ text.toList ∧ lower text = text

def IsWritable : Filter → Prop
  | .anywhere text => IsPlain text
  | .field name _ text => isFieldName name.toList = true ∧ IsPlain text
  | .both left right => left.IsWritable ∧ right.IsWritable
  | .either left right => left.IsWritable ∧ right.IsWritable
  | .negated inner => inner.IsWritable

instance (text : String) : Decidable (IsPlain text) :=
  inferInstanceAs (Decidable (_ ∧ _))

instance decidableIsWritable : (filter : Filter) → Decidable filter.IsWritable
  | .anywhere text => inferInstanceAs (Decidable (IsPlain text))
  | .field _ _ _ => inferInstanceAs (Decidable (_ ∧ _))
  | .both left right =>
    have := decidableIsWritable left
    have := decidableIsWritable right
    inferInstanceAs (Decidable (left.IsWritable ∧ right.IsWritable))
  | .either left right =>
    have := decidableIsWritable left
    have := decidableIsWritable right
    inferInstanceAs (Decidable (left.IsWritable ∧ right.IsWritable))
  | .negated inner => decidableIsWritable inner

/-! ## The derivation of the text -/

def derivation : Filter → Expression
  | .anywhere text => .single (.plain (.word ⟨"", some text⟩))
  | .field name relation text => .single (.plain (.word ⟨name ++ relation.symbol, some text⟩))
  | .both left right =>
    .more (.single (.plain (.group left.derivation))) (.plain (.group right.derivation))
  | .either left right =>
    .more (.single (.plain (.group left.derivation))) (.alternative (.group right.derivation))
  | .negated inner => .single (.plain (.negation (.group inner.derivation)))

theorem tree_derivation {filter : Filter} (writable : filter.IsWritable) :
    filter.derivation.tree = filter := by
  induction filter with
  | anywhere text => exact (ofWord_quoted text).trans (congrArg anywhere writable.2)
  | field name relation text =>
      exact (ofWord_field relation writable.1 text).trans
        (congrArg (field name relation) writable.2.2)
  | both left right leftInduction rightInduction =>
      have leftTree := leftInduction writable.1
      have rightTree := rightInduction writable.2
      exact congr (congrArg both leftTree) rightTree
  | either left right leftInduction rightInduction =>
      have leftTree := leftInduction writable.1
      have rightTree := rightInduction writable.2
      exact congr (congrArg either leftTree) rightTree
  | negated inner induction => exact congrArg negated (induction writable)

/-! ## The tokens of the text -/

/-- Whether a piece of text makes these tokens wherever a word would end behind
it. -/
def Lexes (chars : List Char) (tokens : List Token) : Prop :=
  ∀ rest, EndsBefore rest → Token.lex (chars ++ rest) = tokens ++ Token.lex rest

theorem isBare_of_isNameChar {char : Char} (named : isNameChar char = true) : IsBare char :=
  ⟨Token.isEnd_eq_false_of_mark?_eq_none (isBlank_of_isNameChar named)
    (mark?_of_isNameChar named), unquoted_of_isNameChar named⟩

theorem Relation.isBare_of_mem_symbol (relation : Relation) :
    ∀ char ∈ relation.symbol.toList, IsBare char := by
  cases relation <;> simp [Relation.symbol, IsBare] <;> decide

theorem lexes_quoted {text : String} (unquoted : '"' ∉ text.toList) :
    Lexes (inQuotes text).toList [.word ⟨"", some text⟩] := by
  intro rest ends
  have stands : Token.StandsBare [] := by simp [Token.StandsBare]
  simpa [inQuotes] using Token.lex_quoted stands unquoted ends

theorem lexes_field {name text : String} (relation : Relation)
    (isName : isFieldName name.toList = true) (unquoted : '"' ∉ text.toList) :
    Lexes (name ++ relation.symbol ++ inQuotes text).toList
      [.word ⟨name ++ relation.symbol, some text⟩] := by
  intro rest ends
  -- the name tells how the word starts, and the quotes tell where it ends
  rw [isFieldName, Bool.and_eq_true, List.all_eq_true] at isName
  have nonempty : name.toList ≠ [] := by simpa using isName.1
  have stands : Token.StandsBare (name ++ relation.symbol).toList := by
    rw [String.toList_append]
    refine ⟨?_, ?_⟩
    · intro char member
      rcases List.mem_append.mp member with inName | inSymbol
      · exact isBare_of_isNameChar (isName.2 char inName)
      · exact relation.isBare_of_mem_symbol char inSymbol
    · rcases List.exists_cons_of_ne_nil nonempty with ⟨head, tail, nameChars⟩
      have headNamed : isNameChar head = true := isName.2 head (by simp [nameChars])
      rw [nameChars]
      rintro ⟨⟩
      cases headNamed
  simpa [inQuotes] using Token.lex_quoted stands unquoted ends

/-- A parenthesis ends any word before it, and none runs past one. -/
theorem lex_inParens {text : String} {tokens : List Token} (rest : List Char)
    (lexes : Lexes text.toList tokens) :
    Token.lex ((inParens text).toList ++ rest) =
      .openParen :: (tokens ++ [.closeParen]) ++ Token.lex rest := by
  have chars : (inParens text).toList ++ rest = '(' :: (text.toList ++ ')' :: rest) := by
    simp [inParens]
  have inner := lexes (')' :: rest) (endsBefore_cons rest rfl)
  rw [chars, Token.lex_openParen, inner, Token.lex_closeParen]
  simp

theorem lexes_written {filter : Filter} (writable : filter.IsWritable) :
    Lexes filter.written.toList filter.derivation.tokens := by
  induction filter with
  | anywhere text => exact lexes_quoted writable.1
  | field name relation text => exact lexes_field relation writable.1 writable.2.1
  | both left right leftInduction rightInduction =>
      intro rest _
      have chars : (both left right).written.toList ++ rest =
          (inParens left.written).toList ++ (' ' :: ((inParens right.written).toList ++ rest)) := by
        simp [written]
      rw [chars, lex_inParens _ (leftInduction writable.1), Token.lex_space,
        lex_inParens _ (rightInduction writable.2)]
      simp [derivation, Expression.tokens, Item.tokens, Factor.tokens]
  | either left right leftInduction rightInduction =>
      intro rest _
      have chars : (either left right).written.toList ++ rest =
          (inParens left.written).toList ++
            (' ' :: '|' :: ' ' :: ((inParens right.written).toList ++ rest)) := by
        simp [written]
      rw [chars, lex_inParens _ (leftInduction writable.1), Token.lex_space, Token.lex_bar,
        Token.lex_space, lex_inParens _ (rightInduction writable.2)]
      simp [derivation, Expression.tokens, Item.tokens, Factor.tokens]
  | negated inner induction =>
      intro rest _
      have chars : (negated inner).written.toList ++ rest =
          '-' :: ((inParens inner.written).toList ++ rest) := by
        simp [written]
      rw [chars, Token.lex_minus, lex_inParens _ (induction writable)]
      simp [derivation, Expression.tokens, Item.tokens, Factor.tokens]

/-! ## Reading what has been written -/

/-- Every tree that can be written is read back from what has been written. -/
theorem compile_written (filter : Filter) (writable : filter.IsWritable) :
    (Query.compile filter.written).tree = some filter := by
  have tokens := lexes_written writable [] endsBefore_nil
  rw [List.append_nil, Token.lex_nil, List.append_nil] at tokens
  rw [Query.compile, tokens, Expression.parse_tokens, tree_derivation writable]

/-- A tree with a symbol cut short by its text, marks inside quotes, and an
empty text. -/
def intricate : Filter :=
  .either (.both (.field "a" .less "=x | y") (.negated (.anywhere "-b (c:d)")))
    (.either (.anywhere "") (.field "n.1_" .unequal "ü>"))

theorem compile_written_intricate :
    intricate.IsWritable ∧ (Query.compile intricate.written).tree = some intricate := by
  have writable : intricate.IsWritable := by decide +kernel
  exact ⟨writable, compile_written intricate writable⟩

end PagedTable.Filter
