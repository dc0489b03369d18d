import PagedTable.Filter.Parse

/-! # Reading token by token

A token either ends the reading or leaves one from which the rest is read. What
is left is always settled: no construct is open whose term has been read. -/

namespace PagedTable.Filter

def Token.word? : Token → Option Word
  | .word content => some content
  | _ => none

def Opener.token : Opener → Token
  | .group => .openParen
  | .negation => .minus
  | .alternative => .bar

theorem Opener.word?_token (opener : Opener) : opener.token.word? = none := by
  cases opener <;> rfl

theorem Frame.close_none (frame : Frame) : frame.close none = frame.before := by
  rcases frame with ⟨opener, before⟩
  cases opener <;> cases before <;> rfl

namespace Reading

/-! ## One token -/

/-- What one more token leaves; none when the reading ends there. -/
def next? (reading : Reading) : Token → Option Reading
  | .minus => some (reading.enter .negation)
  | .bar => some (reading.enter .alternative)
  | .openParen => some (reading.enter .group)
  | .word word => some (settle reading.frames (join both reading.tree (some (ofWord word))))
  | .closeParen =>
    match reading.frames with
    | [] => none
    | frame :: outer => some (settle outer (frame.close reading.tree))

inductive Reads : Reading → Token → Reading → Prop
  | opens (reading : Reading) (opener : Opener) :
      Reads reading opener.token (reading.enter opener)
  | term (reading : Reading) (word : Word) :
      Reads reading (.word word)
        (settle reading.frames (join both reading.tree (some (ofWord word))))
  | closes (frame : Frame) (outer : List Frame) (tree : Option Filter) :
      Reads ⟨frame :: outer, tree⟩ .closeParen (settle outer (frame.close tree))

theorem reads_of_next? {reading after : Reading} {token : Token}
    (next : reading.next? token = some after) : reading.Reads token after := by
  cases token with
  | minus => cases next; exact .opens reading .negation
  | bar => cases next; exact .opens reading .alternative
  | openParen => cases next; exact .opens reading .group
  | word word => cases next; exact .term reading word
  | closeParen =>
      rcases reading with ⟨frames, tree⟩
      cases frames with
      | nil => cases next
      | cons frame outer => cases next; exact .closes frame outer tree

theorem run_of_next? {reading after : Reading} {token : Token}
    (next : reading.next? token = some after) (rest : List Token) :
    reading.run (token :: rest) = after.run rest := by
  cases token with
  | closeParen =>
      rcases reading with ⟨frames, tree⟩
      cases frames with
      | nil => cases next
      | cons frame outer => cases next; rfl
  | _ => cases next; rfl

/-- Only a parenthesis that closes nothing ends a reading. -/
theorem next?_eq_none_iff {reading : Reading} {token : Token} :
    reading.next? token = none ↔ token = .closeParen ∧ reading.frames = [] := by
  cases token with
  | closeParen => cases known : reading.frames <;> simp [next?, known]
  | _ => simp [next?]

theorem run_of_next?_none {reading : Reading} {token : Token}
    (ends : reading.next? token = none) (rest : List Token) :
    reading.run (token :: rest) = reading.tree := by
  rcases next?_eq_none_iff.mp ends with ⟨rfl, closed⟩
  rw [run, closed]

/-! ## Settled readings -/

def IsSettled (reading : Reading) : Prop :=
  settle reading.frames reading.tree = reading

theorem isSettled_start : IsSettled ⟨[], none⟩ := rfl

theorem isSettled_settle (frames : List Frame) (tree : Option Filter) :
    (settle frames tree).IsSettled := by
  induction frames generalizing tree with
  | nil => rfl
  | cons frame outer induction =>
      rw [settle]
      split
      · exact induction _
      · next stays => rw [IsSettled, settle, if_neg stays]

theorem isSettled_enter (reading : Reading) (opener : Opener) :
    (reading.enter opener).IsSettled := by
  simp [IsSettled, enter, settle]

theorem isSettled_of_next? {reading after : Reading} {token : Token}
    (next : reading.next? token = some after) : after.IsSettled := by
  cases reads_of_next? next with
  | opens reading opener => exact reading.isSettled_enter opener
  | term reading word => exact isSettled_settle _ _
  | closes frame outer tree => exact isSettled_settle outer _

/-- Tokens at the front either end the reading, whatever follows them, or leave
one from which all that follows is read. -/
theorem run_append {reading : Reading} (settled : reading.IsSettled) (front : List Token) :
    (∃ after : Reading, after.IsSettled ∧ ∀ rest, reading.run (front ++ rest) = after.run rest) ∨
      ∃ tree, ∀ rest, reading.run (front ++ rest) = tree := by
  induction front generalizing reading with
  | nil => exact Or.inl ⟨reading, settled, fun _ => rfl⟩
  | cons token front induction =>
      cases next : reading.next? token with
      | none => exact Or.inr ⟨reading.tree, fun rest => run_of_next?_none next (front ++ rest)⟩
      | some after =>
          have later := induction (isSettled_of_next? next)
          simpa only [List.cons_append, run_of_next? next] using later

/-! ## The end of the text -/

theorem finish_enter (reading : Reading) (opener : Opener) :
    (reading.enter opener).finish = reading.finish := by
  rw [finish, enter, List.foldl_cons, Frame.close_none, finish]

theorem finish_settle (frames : List Frame) (tree : Option Filter) :
    (settle frames tree).finish = finish ⟨frames, tree⟩ := by
  induction frames generalizing tree with
  | nil => rfl
  | cons frame outer induction =>
      rw [settle]
      split
      · exact induction _
      · rfl

theorem finish_of_next? {reading after : Reading} {token : Token}
    (next : reading.next? token = some after) (wordless : token.word? = none) :
    after.finish = reading.finish := by
  cases reads_of_next? next with
  | opens reading opener => exact reading.finish_enter opener
  | term reading word => cases wordless
  | closes frame outer tree => exact finish_settle outer (frame.close tree)

/-- What is still open ends with the text, or at a parenthesis, or not at all
before the text ends: without a further word it comes to the same. -/
theorem run_of_wordless (reading : Reading) {rest : List Token}
    (wordless : ∀ token ∈ rest, token.word? = none) : reading.run rest = reading.finish := by
  induction rest generalizing reading with
  | nil => rfl
  | cons token rest induction =>
      have parts := List.forall_mem_cons.mp wordless
      cases next : reading.next? token with
      | none =>
          have closed := (next?_eq_none_iff.mp next).2
          rw [run_of_next?_none next, finish, closed]
          rfl
      | some after =>
          rw [run_of_next? next, induction after parts.2, finish_of_next? next parts.1]

end Reading

theorem parse_append_of_wordless (front : List Token) {rest : List Token}
    (wordless : ∀ token ∈ rest, token.word? = none) : parse (front ++ rest) = parse front := by
  rcases Reading.run_append Reading.isSettled_start front with
    ⟨reading, _, left⟩ | ⟨tree, ended⟩
  · have whole := left []
    rw [List.append_nil] at whole
    rw [parse, parse, left, whole, reading.run_of_wordless wordless]
    rfl
  · have whole := ended []
    rw [List.append_nil] at whole
    rw [parse, parse, ended, whole]

end PagedTable.Filter
