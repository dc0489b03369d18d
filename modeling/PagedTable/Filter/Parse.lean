import PagedTable.Filter.Token
import PagedTable.Filter.Tree

/-! # Reading a filter

Terms that follow one another are joined from the left: by "or" when a bar
stands between them, by "and" otherwise. A minus sign and a bar apply to the
one term after them, which may be a group in parentheses.

Reading never fails. A minus sign or a bar without a term adds nothing, groups
that are still open end with the text, and a parenthesis that closes no group
ends the filter.

What surrounds the place of reading is held as a list of open constructs, the
innermost first. -/

namespace PagedTable.Filter

inductive Opener where
  | group
  | negation
  | alternative
deriving DecidableEq, Repr

structure Frame where
  opener : Opener
  before : Option Filter
deriving DecidableEq, Repr

/-- Joins two trees; one alone stands for itself. -/
def join (combine : Filter → Filter → Filter) : Option Filter → Option Filter → Option Filter
  | some left, some right => some (combine left right)
  | some left, none => some left
  | none, right => right

namespace Frame

def close (frame : Frame) (tree : Option Filter) : Option Filter :=
  match frame.opener with
  | .group => join both frame.before tree
  | .negation => join both frame.before (tree.map negated)
  | .alternative => join either frame.before tree

def endsAtTerm (frame : Frame) : Bool :=
  frame.opener ≠ .group

end Frame

/-- The open constructs, innermost first, and what has been read inside the
innermost. -/
structure Reading where
  frames : List Frame
  tree : Option Filter
deriving DecidableEq, Repr

namespace Reading

/-- Closes every construct that ends with the term just read. -/
def settle : List Frame → Option Filter → Reading
  | [], tree => ⟨[], tree⟩
  | frame :: outer, tree =>
    if frame.endsAtTerm && tree.isSome then settle outer (frame.close tree)
    else ⟨frame :: outer, tree⟩

def enter (reading : Reading) (opener : Opener) : Reading :=
  ⟨⟨opener, reading.tree⟩ :: reading.frames, none⟩

/-- The tree when the text ends here: every open construct ends with it. -/
def finish (reading : Reading) : Option Filter :=
  reading.frames.foldl (fun tree frame => frame.close tree) reading.tree

def run (reading : Reading) : List Token → Option Filter
  | [] => reading.finish
  | .minus :: rest => run (reading.enter .negation) rest
  | .bar :: rest => run (reading.enter .alternative) rest
  | .openParen :: rest => run (reading.enter .group) rest
  | .word word :: rest =>
    run (settle reading.frames (join both reading.tree (some (ofWord word)))) rest
  | .closeParen :: rest =>
    match reading.frames with
    | [] => reading.tree
    | frame :: outer => run (settle outer (frame.close reading.tree)) rest

end Reading

/-- The tree of a sequence of tokens; `none` when it holds no term. -/
def parse (tokens : List Token) : Option Filter :=
  Reading.run ⟨[], none⟩ tokens

example : parse [.word ⟨"a", none⟩, .bar, .minus, .word ⟨"b", none⟩, .word ⟨"c", none⟩] =
    some (.both (.either (.anywhere "a") (.negated (.anywhere "b"))) (.anywhere "c")) := by
  decide +kernel

end PagedTable.Filter
