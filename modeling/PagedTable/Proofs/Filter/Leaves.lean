import PagedTable.Proofs.Filter.Reading

/-! # Terms and the words they come from

Every word that is read becomes one term, and the terms stand in the tree in
the order of their words. Nothing is read past a parenthesis that closes no
construct, and there is none where no parenthesis closes more than has been
opened. -/

namespace PagedTable.Filter

/-! ## The terms of a tree -/

def leaves : Filter → List Filter
  | .anywhere text => [.anywhere text]
  | .field name relation text => [.field name relation text]
  | .both left right => left.leaves ++ right.leaves
  | .either left right => left.leaves ++ right.leaves
  | .negated inner => inner.leaves

def leavesOf (tree : Option Filter) : List Filter :=
  tree.elim [] leaves

theorem leaves_ne_nil (filter : Filter) : filter.leaves ≠ [] := by
  induction filter with
  | anywhere text => simp [leaves]
  | field name relation text => simp [leaves]
  | both left right leftInduction rightInduction => simp [leaves, leftInduction]
  | either left right leftInduction rightInduction => simp [leaves, leftInduction]
  | negated inner induction => exact induction

theorem leavesOf_eq_nil_iff {tree : Option Filter} : leavesOf tree = [] ↔ tree = none := by
  cases tree with
  | none => simp [leavesOf]
  | some filter => simp [leavesOf, filter.leaves_ne_nil]

theorem leaves_ofWord (word : Word) : (ofWord word).leaves = [ofWord word] := by
  unfold ofWord
  dsimp only
  split
  · split
    · rfl
    · rfl
  · rfl

theorem leavesOf_join (combine : Filter → Filter → Filter)
    (combines : ∀ left right, (combine left right).leaves = left.leaves ++ right.leaves)
    (left right : Option Filter) :
    leavesOf (join combine left right) = leavesOf left ++ leavesOf right := by
  cases left with
  | none => rfl
  | some left =>
      cases right with
      | none => simp [join, leavesOf]
      | some right => exact combines left right

theorem leavesOf_close (frame : Frame) (tree : Option Filter) :
    leavesOf (frame.close tree) = leavesOf frame.before ++ leavesOf tree := by
  have negation : leavesOf (tree.map negated) = leavesOf tree := by
    cases tree <;> rfl
  rcases frame with ⟨opener, before⟩
  cases opener with
  | group => exact leavesOf_join both (fun _ _ => rfl) before tree
  | negation =>
      have joined := leavesOf_join both (fun _ _ => rfl) before (tree.map negated)
      rwa [negation] at joined
  | alternative => exact leavesOf_join either (fun _ _ => rfl) before tree

namespace Reading

/-! ## The terms read so far -/

def leavesBefore : List Frame → List Filter
  | [] => []
  | frame :: outer => leavesBefore outer ++ leavesOf frame.before

def leaves (reading : Reading) : List Filter :=
  leavesBefore reading.frames ++ leavesOf reading.tree

theorem leaves_close (frame : Frame) (outer : List Frame) (tree : Option Filter) :
    leaves ⟨outer, frame.close tree⟩ = leaves ⟨frame :: outer, tree⟩ := by
  simp [leaves, leavesBefore, leavesOf_close]

theorem leaves_settle (frames : List Frame) (tree : Option Filter) :
    (settle frames tree).leaves = leaves ⟨frames, tree⟩ := by
  induction frames generalizing tree with
  | nil => rfl
  | cons frame outer induction =>
      rw [settle]
      split
      · rw [induction, leaves_close]
      · rfl

theorem leavesOf_finish (reading : Reading) : leavesOf reading.finish = reading.leaves := by
  rcases reading with ⟨frames, tree⟩
  induction frames generalizing tree with
  | nil => rfl
  | cons frame outer induction => exact (induction (frame.close tree)).trans (leaves_close _ _ _)

theorem leaves_enter (reading : Reading) (opener : Opener) :
    (reading.enter opener).leaves = reading.leaves := by
  simp [leaves, enter, leavesBefore, leavesOf]

theorem leaves_next? {reading after : Reading} {token : Token}
    (next : reading.next? token = some after) :
    after.leaves = reading.leaves ++ (token.word?.map ofWord).toList := by
  cases reads_of_next? next with
  | opens reading opener => simp [leaves_enter, opener.word?_token]
  | term reading word =>
      have joined := leavesOf_join both (fun _ _ => rfl) reading.tree (some (ofWord word))
      rw [leaves_settle, leaves, joined]
      simp [leaves, leavesOf, Token.word?, leaves_ofWord]
  | closes frame outer tree => simp [leaves_settle, leaves_close, Token.word?]

/-! ## The groups that are open -/

def groups (reading : Reading) : Nat :=
  reading.frames.countP (·.opener = .group)

theorem groups_settle (frames : List Frame) (tree : Option Filter) :
    (settle frames tree).groups = frames.countP (·.opener = .group) := by
  induction frames generalizing tree with
  | nil => rfl
  | cons frame outer induction =>
      rw [settle]
      split
      · next ends =>
          have other : frame.opener ≠ .group := by simp_all [Frame.endsAtTerm]
          rw [induction, List.countP_cons_of_neg (by simpa using other)]
      · rfl

/-- A parenthesis closes one construct, which need not be a group. -/
theorem groups_next? {reading after : Reading} {token : Token}
    (next : reading.next? token = some after) :
    reading.groups + [token].count .openParen ≤ after.groups + [token].count .closeParen := by
  cases reads_of_next? next with
  | opens reading opener => cases opener <;> simp [groups, enter, Opener.token]
  | term reading word => exact Nat.le_of_eq (groups_settle _ _).symm
  | closes frame outer tree =>
      have least : (frame :: outer).countP (·.opener = .group) ≤
          outer.countP (·.opener = .group) + 1 := by
        rw [List.countP_cons]
        split <;> omega
      rw [groups_settle]
      exact least

/-! ## All tokens -/

/-- The reading ends before a parenthesis that closes nothing, and up to there
its terms are those of the words. -/
theorem leavesOf_run (reading : Reading) (tokens : List Token) :
    ∃ front, front <+: tokens ∧
      leavesOf (reading.run tokens) =
        reading.leaves ++ (front.filterMap Token.word?).map ofWord ∧
      ((∀ part, part <+: tokens →
        part.count .closeParen ≤ reading.groups + part.count .openParen) → front = tokens) := by
  induction tokens generalizing reading with
  | nil =>
      refine ⟨[], List.prefix_refl [], ?_, fun _ => rfl⟩
      exact reading.leavesOf_finish.trans (List.append_nil _).symm
  | cons token tokens induction =>
      cases next : reading.next? token with
      | none =>
          rcases next?_eq_none_iff.mp next with ⟨rfl, closed⟩
          refine ⟨[], List.nil_prefix, ?_, ?_⟩
          · rw [run_of_next?_none next, leaves, closed]
            exact (List.append_nil _).symm
          · intro enough
            have none : reading.groups = 0 := by rw [groups, closed]; rfl
            have one := enough [.closeParen] (List.prefix_append [.closeParen] tokens)
            rw [none] at one
            cases one
      | some after =>
          rcases induction after with ⟨front, initial, terms, whole⟩
          refine ⟨token :: front, List.cons_prefix_cons.mpr ⟨rfl, initial⟩, ?_, ?_⟩
          · rw [run_of_next? next, terms, leaves_next? next, List.append_assoc]
            cases token <;> rfl
          · intro enough
            have rest : front = tokens := by
              apply whole
              intro part partInitial
              have known := enough (token :: part) (List.cons_prefix_cons.mpr ⟨rfl, partInitial⟩)
              have change := groups_next? next
              rw [← List.singleton_append, List.count_append, List.count_append] at known
              omega
            rw [rest]

end Reading

/-- Whether every parenthesis that closes stands behind one that opens. -/
def NeverOvercloses (tokens : List Token) : Prop :=
  ∀ part, part <+: tokens → part.count .closeParen ≤ part.count .openParen

/-- Of the tokens up to some place, every word is one term of the tree, in the
same order; there is no tree only if there is no such word. No token is left
out where no parenthesis closes more than has been opened. -/
theorem leavesOf_parse (tokens : List Token) :
    ∃ front, front <+: tokens ∧
      leavesOf (parse tokens) = (front.filterMap Token.word?).map ofWord ∧
      (parse tokens = none ↔ front.filterMap Token.word? = []) ∧
      (NeverOvercloses tokens → front = tokens) := by
  rcases Reading.leavesOf_run ⟨[], none⟩ tokens with ⟨front, initial, terms, whole⟩
  change leavesOf (parse tokens) = (front.filterMap Token.word?).map ofWord at terms
  refine ⟨front, initial, terms, ?_, ?_⟩
  · rw [← leavesOf_eq_nil_iff, terms, List.map_eq_nil_iff]
  · intro closes
    apply whole
    intro part partInitial
    exact Nat.le_trans (closes part partInitial) (Nat.le_add_left _ _)

theorem neverOvercloses_iff {tokens : List Token} :
    NeverOvercloses tokens ↔
      ∀ count < tokens.length + 1,
        (tokens.take count).count .closeParen ≤ (tokens.take count).count .openParen := by
  constructor
  · intro closes count _
    exact closes _ (tokens.take_prefix count)
  · intro closes part initial
    have within := closes part.length (Nat.lt_succ_of_le initial.length_le)
    rwa [← List.prefix_iff_eq_take.mp initial] at within

instance (tokens : List Token) : Decidable (NeverOvercloses tokens) :=
  decidable_of_iff' _ neverOvercloses_iff

/-- Parentheses that close a minus sign and a bar, and a group left open. -/
theorem leavesOf_parse_unbalanced :
    let word (text : String) : Token := .word ⟨text, none⟩
    let tokens := [.openParen, word "a", .minus, .closeParen, .openParen, .bar, .closeParen,
      word "b", .openParen, .closeParen, .minus, word "c"]
    NeverOvercloses tokens ∧
      leavesOf (parse tokens) = [.anywhere "a", .anywhere "b", .anywhere "c"] := by
  intro word tokens
  have closes : NeverOvercloses tokens := by decide +kernel
  rcases leavesOf_parse tokens with ⟨front, _, terms, _, whole⟩
  rw [whole closes] at terms
  exact ⟨closes, terms.trans (by decide +kernel)⟩

end PagedTable.Filter
