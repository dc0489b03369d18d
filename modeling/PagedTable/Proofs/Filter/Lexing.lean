import PagedTable.Filter.Token

/-! # Lexing piece by piece

What the lexer makes of a text is the first token and what it makes of the
rest. A word is scanned in the same way: its bare characters one by one, then a
quoted run as a whole. -/

namespace PagedTable.Filter

open Text

namespace Word

/-! ## Scanning a word -/

/-- Whether a word that stands in front of a text is over where that text
begins. -/
def EndsBefore (rest : List Char) : Prop :=
  ∀ char ∈ rest.head?, isEnd char = true

theorem endsBefore_nil : EndsBefore [] := by
  intro char member
  cases member

theorem endsBefore_cons {char : Char} (rest : List Char) (ends : isEnd char = true) :
    EndsBefore (char :: rest) := by
  intro head member
  cases member
  exact ends

theorem ne_quote_of_isEnd {char : Char} (ends : isEnd char = true) : char ≠ '"' := by
  rintro rfl
  exact absurd ends (by decide)

theorem scanQuoted_false_of_endsBefore {rest : List Char} (ends : EndsBefore rest) :
    scanQuoted false rest = ([], rest) := by
  cases rest with
  | nil => rfl
  | cons char rest =>
      have isEnd : isEnd char = true := ends char rfl
      rw [scanQuoted, if_neg (ne_quote_of_isEnd isEnd)]
      simp [isEnd]

/-- An open quote runs through all characters but quotes. -/
theorem scanQuoted_true_append {quoted : List Char} (rest : List Char)
    (unquoted : '"' ∉ quoted) :
    scanQuoted true (quoted ++ rest) =
      (quoted ++ (scanQuoted true rest).1, (scanQuoted true rest).2) := by
  induction quoted with
  | nil => rfl
  | cons char quoted induction =>
      have parts := List.ne_and_not_mem_of_not_mem_cons unquoted
      rw [List.cons_append, scanQuoted, if_neg parts.1.symm, induction parts.2]
      rfl

theorem scan_of_endsBefore {rest : List Char} (ends : EndsBefore rest) :
    scan rest = (⟨"", none⟩, rest) := by
  cases rest with
  | nil => rfl
  | cons char rest =>
      have isEnd : isEnd char = true := ends char rfl
      rw [scan, if_neg (ne_quote_of_isEnd isEnd), if_pos isEnd]

theorem scan_quoted {quoted rest : List Char} (unquoted : '"' ∉ quoted)
    (ends : EndsBefore rest) :
    scan ('"' :: (quoted ++ '"' :: rest)) = (⟨"", some (String.ofList quoted)⟩, rest) := by
  have closing : scanQuoted true ('"' :: rest) = ([], rest) :=
    scanQuoted_false_of_endsBefore ends
  rw [scan, if_pos rfl, scanQuoted_true_append _ unquoted, closing, List.append_nil]

def IsBare (char : Char) : Prop :=
  isEnd char = false ∧ char ≠ '"'

instance (char : Char) : Decidable (IsBare char) :=
  inferInstanceAs (Decidable (_ ∧ _))

theorem scan_bare_append {bare : List Char} (rest : List Char)
    (allBare : ∀ char ∈ bare, IsBare char) :
    scan (bare ++ rest) =
      (⟨String.ofList (bare ++ (scan rest).1.bare.toList), (scan rest).1.quoted⟩,
        (scan rest).2) := by
  induction bare with
  | nil => simp
  | cons char bare induction =>
      have head := allBare char List.mem_cons_self
      have tail := induction fun other member => allBare other (List.mem_cons_of_mem char member)
      rw [List.cons_append, scan, if_neg head.2, tail]
      simp [head.1]

end Word

namespace Token

/-! ## Splitting off the first token -/

theorem lex_nil : lex [] = [] := by
  rw [lex]

theorem lex_blank {char : Char} (rest : List Char) (blank : isBlank char = true) :
    lex (char :: rest) = lex rest := by
  rw [lex]
  split
  next => rfl
  next visible => cases blank.symm.trans visible

theorem lex_mark {char : Char} {token : Token} (rest : List Char)
    (visible : isBlank char = false) (marked : mark? char = some token) :
    lex (char :: rest) = token :: lex rest := by
  rw [lex]
  split
  next blank => cases blank.symm.trans visible
  next =>
    split
    next other found => cases found.symm.trans marked; rfl
    next unmarked => cases unmarked.symm.trans marked

theorem lex_word {chars : List Char} {char : Char} (starts : chars.head? = some char)
    (visible : isBlank char = false) (unmarked : mark? char = none) :
    lex chars = .word (Word.scan chars).1 :: lex (Word.scan chars).2 := by
  cases chars with
  | nil => cases starts
  | cons head rest =>
      cases starts
      rw [lex]
      split
      next blank => cases blank.symm.trans visible
      next =>
        split
        next token marked => cases marked.symm.trans unmarked
        next => rfl

/-! ## Whole words -/

/-- Whether characters can stand outside quotes at the start of a word. -/
def StandsBare (chars : List Char) : Prop :=
  (∀ char ∈ chars, Word.IsBare char) ∧ chars.head? ≠ some '-'

instance (chars : List Char) : Decidable (StandsBare chars) :=
  haveI := List.decidableBAll Word.IsBare chars
  inferInstanceAs (Decidable (_ ∧ _))

theorem isBlank_of_isBare {char : Char} (bare : Word.IsBare char) : isBlank char = false := by
  have inside := bare.1
  simp only [Word.isEnd, Bool.or_eq_false_iff] at inside
  exact inside.1.1.1

theorem mark?_of_isBare {char : Char} (bare : Word.IsBare char) (different : char ≠ '-') :
    mark? char = none := by
  have inside := bare.1
  simp [Word.isEnd] at inside
  simp [mark?, different, inside]

theorem lex_standsBare {bare : List Char} (rest : List Char) (stands : StandsBare bare)
    (nonempty : bare ≠ []) :
    lex (bare ++ rest) =
      .word (Word.scan (bare ++ rest)).1 :: lex (Word.scan (bare ++ rest)).2 := by
  cases bare with
  | nil => exact absurd rfl nonempty
  | cons char bare =>
      have isBare := stands.1 char List.mem_cons_self
      have different : char ≠ '-' := by simpa using stands.2
      exact lex_word rfl (isBlank_of_isBare isBare) (mark?_of_isBare isBare different)

theorem lex_bare {bare rest : List Char} (stands : StandsBare bare) (nonempty : bare ≠ [])
    (ends : Word.EndsBefore rest) :
    lex (bare ++ rest) = .word ⟨String.ofList bare, none⟩ :: lex rest := by
  rw [lex_standsBare rest stands nonempty, Word.scan_bare_append rest stands.1,
    Word.scan_of_endsBefore ends]
  simp

/-- A word in front of a place where words end, part of it in quotes. -/
theorem lex_quoted {bare quoted rest : List Char} (stands : StandsBare bare)
    (unquoted : '"' ∉ quoted) (ends : Word.EndsBefore rest) :
    lex (bare ++ '"' :: (quoted ++ '"' :: rest)) =
      .word ⟨String.ofList bare, some (String.ofList quoted)⟩ :: lex rest := by
  have scanned := Word.scan_bare_append ('"' :: (quoted ++ '"' :: rest)) stands.1
  rw [Word.scan_quoted unquoted ends] at scanned
  have whole : lex (bare ++ '"' :: (quoted ++ '"' :: rest)) =
      .word (Word.scan (bare ++ '"' :: (quoted ++ '"' :: rest))).1 ::
        lex (Word.scan (bare ++ '"' :: (quoted ++ '"' :: rest))).2 := by
    by_cases empty : bare = []
    · rw [empty]
      exact lex_word rfl (by decide) rfl
    · exact lex_standsBare _ stands empty
  rw [whole, scanned]
  simp

/-! ## Marks and blanks -/

theorem lex_minus (rest : List Char) : lex ('-' :: rest) = .minus :: lex rest :=
  lex_mark rest (by decide) rfl

theorem lex_bar (rest : List Char) : lex ('|' :: rest) = .bar :: lex rest :=
  lex_mark rest (by decide) rfl

theorem lex_openParen (rest : List Char) : lex ('(' :: rest) = .openParen :: lex rest :=
  lex_mark rest (by decide) rfl

theorem lex_closeParen (rest : List Char) : lex (')' :: rest) = .closeParen :: lex rest :=
  lex_mark rest (by decide) rfl

theorem lex_space (rest : List Char) : lex (' ' :: rest) = lex rest :=
  lex_blank rest (by decide)

end Token

end PagedTable.Filter
