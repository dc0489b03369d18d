import PagedTable.Filter.Parse

/-! # The grammar of filters

An expression is a sequence of items, an item is a factor that may have a bar
in front of it, and a factor is a word, a factor with a minus sign in front, or
an expression in parentheses. The types below are the derivations of this
grammar. A derivation says both how its tokens are written one after another
and which tree they stand for. -/

namespace PagedTable.Filter

mutual

inductive Factor where
  | word (content : Word)
  | negation (inner : Factor)
  | group (inner : Expression)

inductive Item where
  | plain (factor : Factor)
  | alternative (factor : Factor)

/-- One item or more. The last item stands apart, since the tree of all items
before it is what it is joined to. -/
inductive Expression where
  | single (item : Item)
  | more (before : Expression) (item : Item)

end

/-! ## The tokens of a derivation -/

mutual

def Factor.tokens : Factor → List Token
  | .word content => [.word content]
  | .negation inner => .minus :: inner.tokens
  | .group inner => .openParen :: (inner.tokens ++ [.closeParen])

def Item.tokens : Item → List Token
  | .plain factor => factor.tokens
  | .alternative factor => .bar :: factor.tokens

def Expression.tokens : Expression → List Token
  | .single item => item.tokens
  | .more before item => before.tokens ++ item.tokens

end

/-! ## The tree of a derivation -/

def Item.combine : Item → Filter → Filter → Filter
  | .plain _ => both
  | .alternative _ => either

mutual

def Factor.tree : Factor → Filter
  | .word content => ofWord content
  | .negation inner => .negated inner.tree
  | .group inner => inner.tree

/-- The tree of the factor; a bar in front adds nothing of its own. -/
def Item.tree : Item → Filter
  | .plain factor => factor.tree
  | .alternative factor => factor.tree

def Expression.tree : Expression → Filter
  | .single item => item.tree
  | .more before item => item.combine before.tree item.tree

end

/-- `a | -b (c d)` -/
example :
    let word (text : String) : Factor := .word ⟨text, none⟩
    let inner : Expression := .more (.single (.plain (word "c"))) (.plain (word "d"))
    let whole : Expression :=
      .more (.more (.single (.plain (word "a"))) (.alternative (.negation (word "b"))))
        (.plain (.group inner))
    whole.tokens =
      [.word ⟨"a", none⟩, .bar, .minus, .word ⟨"b", none⟩, .openParen, .word ⟨"c", none⟩,
        .word ⟨"d", none⟩, .closeParen] := rfl

namespace Expression

def first : Expression → Item
  | .single item => item
  | .more before _ => before.first

def later : Expression → List Item
  | .single _ => []
  | .more before item => before.later ++ [item]

/-- The first item gives a tree to start from, and every later one is joined to
the tree so far. -/
theorem tree_eq_foldl (expression : Expression) :
    expression.tree =
      expression.later.foldl (fun tree item => item.combine tree item.tree)
        expression.first.tree := by
  match expression with
  | .single item => rfl
  | .more before item =>
      have earlier := tree_eq_foldl before
      rw [tree, later, first, List.foldl_append, ← earlier]
      rfl

end Expression

/-! ## Reading the tokens of a derivation

Reading a factor comes to the same as reading one word whose tree is the
factor's. What an expression needs beyond that is that nothing around it ends
with its first item: this holds at the start of the text and inside a group. -/

namespace Reading

/-- Whether the constructs around the place of reading outlast a term. -/
def Outlasts (frames : List Frame) : Prop :=
  ∀ tree, settle frames tree = ⟨frames, tree⟩

theorem outlasts_nil : Outlasts [] :=
  fun _ => rfl

theorem outlasts_group (before : Option Filter) (outer : List Frame) :
    Outlasts (⟨.group, before⟩ :: outer) :=
  fun _ => rfl

theorem join_none (combine : Filter → Filter → Filter) (tree : Option Filter) :
    join combine none tree = tree := rfl

theorem settle_negation (before : Option Filter) (outer : List Frame) (tree : Filter) :
    settle (⟨.negation, before⟩ :: outer) (some tree) =
      settle outer (join both before (some (negated tree))) := rfl

theorem settle_alternative (before : Option Filter) (outer : List Frame) (tree : Filter) :
    settle (⟨.alternative, before⟩ :: outer) (some tree) =
      settle outer (join either before (some tree)) := rfl

theorem run_closeParen (before tree : Option Filter) (outer : List Frame) (rest : List Token) :
    run ⟨⟨.group, before⟩ :: outer, tree⟩ (.closeParen :: rest) =
      run (settle outer (join both before tree)) rest := rfl

end Reading

open Reading

mutual

theorem Factor.run_tokens (factor : Factor) (frames : List Frame) (before : Option Filter)
    (rest : List Token) :
    run ⟨frames, before⟩ (factor.tokens ++ rest) =
      run (settle frames (join both before (some factor.tree))) rest := by
  match factor with
  | .word content => rfl
  | .negation inner =>
      have term := inner.run_tokens (⟨.negation, before⟩ :: frames) none rest
      rw [join_none, settle_negation] at term
      exact term
  | .group inner =>
      have content := inner.run_tokens (⟨.group, before⟩ :: frames) (.closeParen :: rest)
        (outlasts_group before frames)
      rw [run_closeParen] at content
      rw [Factor.tokens, List.cons_append, List.append_assoc]
      exact content

theorem Item.run_tokens (item : Item) (frames : List Frame) (before : Option Filter)
    (rest : List Token) :
    run ⟨frames, before⟩ (item.tokens ++ rest) =
      run (settle frames (join item.combine before (some item.tree))) rest := by
  match item with
  | .plain factor => exact factor.run_tokens frames before rest
  | .alternative factor =>
      have term := factor.run_tokens (⟨.alternative, before⟩ :: frames) none rest
      rw [join_none, settle_alternative] at term
      exact term

theorem Expression.run_tokens (expression : Expression) (frames : List Frame)
    (rest : List Token) (outlasts : Outlasts frames) :
    run ⟨frames, none⟩ (expression.tokens ++ rest) =
      run ⟨frames, some expression.tree⟩ rest := by
  match expression with
  | .single item =>
      -- without `outlasts` a negation around the place would end here
      have term := item.run_tokens frames none rest
      rw [outlasts] at term
      exact term
  | .more before item =>
      have earlier := before.run_tokens frames (item.tokens ++ rest) outlasts
      have term := item.run_tokens frames (some before.tree) rest
      rw [outlasts] at term
      rw [Expression.tokens, List.append_assoc, earlier]
      exact term

end

theorem Expression.parse_tokens (expression : Expression) :
    parse expression.tokens = some expression.tree := by
  have whole := expression.run_tokens [] [] outlasts_nil
  rw [List.append_nil] at whole
  exact whole

/-- Whatever is derived from the grammar is read as the grammar means it: the
items of an expression are joined from the left, each by "and" or, with a bar in
front, by "or". -/
theorem parse_derived (expression : Expression) :
    parse expression.tokens =
      some (expression.later.foldl (fun tree item => item.combine tree item.tree)
        expression.first.tree) := by
  rw [expression.parse_tokens, expression.tree_eq_foldl]

end PagedTable.Filter
