import PagedTable.Filter.Word

/-! # Tokens of a filter

A filter text is a sequence of words and of four marks, each one character
long. Blanks between them are skipped. A minus sign is a mark only where a word
would start; inside a word it is part of the word. -/

namespace PagedTable.Filter

open Text

inductive Token where
  | minus
  | bar
  | openParen
  | closeParen
  | word (content : Word)
deriving DecidableEq, Repr

namespace Token

def display : Token → String
  | .minus => "-"
  | .bar => "|"
  | .openParen => "("
  | .closeParen => ")"
  | .word content => content.text

def mark? (char : Char) : Option Token :=
  if char = '-' then some .minus
  else if char = '|' then some .bar
  else if char = '(' then some .openParen
  else if char = ')' then some .closeParen
  else none

theorem isEnd_eq_false_of_mark?_eq_none {char : Char} (visible : isBlank char = false)
    (unmarked : mark? char = none) : Word.isEnd char = false := by
  grind [mark?, Word.isEnd]

def lex : List Char → List Token
  | [] => []
  | char :: rest =>
    match blank : isBlank char with
    | true => lex rest
    | false =>
      match unmarked : mark? char with
      | some token => token :: lex rest
      | none =>
        -- the word takes at least one character, so the rest is shorter
        have := Word.scan_length_lt char rest
          (isEnd_eq_false_of_mark?_eq_none blank unmarked)
        .word (Word.scan (char :: rest)).1 :: lex (Word.scan (char :: rest)).2
termination_by chars => chars.length
decreasing_by
  · exact Nat.lt_succ_self _
  · exact Nat.lt_succ_self _
  · assumption

example : lex "-a (b|c)".toList =
    [.minus, .word ⟨"a", none⟩, .openParen, .word ⟨"b", none⟩, .bar, .word ⟨"c", none⟩,
      .closeParen] := by
  cbv

end Token

end PagedTable.Filter
