import PagedTable.Proofs.Filter.Writing

/-! # Tokens written down

Tokens are written with a blank between them, and the quoted part of a word in
quotes. What the lexer makes of a text can be written in this way and is read
again as it was, so that every filter has a normal form. -/

namespace PagedTable.Filter

open Text

namespace Word

/-! ## The parts of a word -/

theorem splitBytes_append (front back : List Char) :
    splitBytes (String.ofList front).utf8ByteSize (front ++ back) = (front, back) := by
  induction front with
  | nil =>
      cases back with
      | nil => rfl
      | cons char back =>
          have positive : ¬char.utf8Size ≤ 0 := Nat.not_le.mpr char.utf8Size_pos
          exact if_neg positive
  | cons char front induction =>
      have size : (String.ofList (char :: front)).utf8ByteSize =
          char.utf8Size + (String.ofList front).utf8ByteSize := by
        simp [String.ofList_cons]
      rw [size, List.cons_append, splitBytes, if_pos (Nat.le_add_right _ _),
        Nat.add_sub_cancel_left, induction]

/-- Whether a word keeps apart, once written, from marks and from other words.
Where its quotes begin is known as a number of bytes. -/
def IsWellFormed (word : Word) : Prop :=
  '"' ∉ word.text.toList ∧
    match word.quotedFrom with
    | none => word.text ≠ "" ∧ Token.StandsBare word.text.toList
    | some count =>
      ∃ front back, word.text.toList = front ++ back ∧
        (String.ofList front).utf8ByteSize = count ∧ Token.StandsBare front

theorem isWellFormed_bare_iff {bare : String} :
    IsWellFormed ⟨bare, none⟩ ↔ bare ≠ "" ∧ Token.StandsBare bare.toList := by
  have whole : (⟨bare, none⟩ : Word).text = bare := String.append_empty
  constructor
  · intro wellFormed
    have parts := wellFormed.2
    dsimp only [quotedFrom, Option.map_none] at parts
    rwa [whole] at parts
  · intro parts
    refine ⟨?_, ?_⟩
    · rw [whole]
      intro quote
      exact absurd rfl (parts.2.1 _ quote).2
    · dsimp only [quotedFrom, Option.map_none]
      rwa [whole]

theorem isWellFormed_quoted_iff {bare quoted : String} :
    IsWellFormed ⟨bare, some quoted⟩ ↔ '"' ∉ quoted.toList ∧ Token.StandsBare bare.toList := by
  have whole : (⟨bare, some quoted⟩ : Word).text.toList = bare.toList ++ quoted.toList :=
    String.toList_append
  constructor
  · rintro ⟨unquoted, front, back, parts, size, stands⟩
    -- no other part of the text has as many bytes as the bare part
    have same : (bare.toList, quoted.toList) = (front, back) := by
      rw [← splitBytes_append bare.toList, ← splitBytes_append front, size, ← parts, whole,
        String.ofList_toList]
    cases same
    refine ⟨?_, stands⟩
    intro quote
    exact unquoted (by simp [whole, quote])
  · rintro ⟨unquoted, stands⟩
    refine ⟨?_, bare.toList, quoted.toList, whole, by rw [String.ofList_toList], stands⟩
    rw [whole, List.mem_append]
    rintro (quote | quote)
    · exact absurd rfl (stands.1 _ quote).2
    · exact unquoted quote

instance : (word : Word) → Decidable word.IsWellFormed
  | ⟨_, none⟩ => decidable_of_iff' _ isWellFormed_bare_iff
  | ⟨_, some _⟩ => decidable_of_iff' _ isWellFormed_quoted_iff

/-! ## Words that have been read -/

theorem quote_not_mem_scanQuoted (isOpen : Bool) (chars : List Char) :
    '"' ∉ (scanQuoted isOpen chars).1 := by
  induction chars generalizing isOpen with
  | nil => simp [scanQuoted]
  | cons char rest induction =>
      rw [scanQuoted]
      split
      · exact induction _
      · next different =>
          split
          · simp
          · simpa [Ne.symm different] using induction isOpen

theorem isBare_of_mem_scan (chars : List Char) :
    ∀ char ∈ (scan chars).1.bare.toList, IsBare char := by
  induction chars with
  | nil => simp [scan]
  | cons char rest induction =>
      rw [scan]
      split
      · simp
      · next unquoted =>
          split
          · simp
          · next inside => simpa [IsBare, inside, unquoted] using induction

theorem eq_of_head?_bare_scan {char first : Char} {rest : List Char}
    (starts : (scan (char :: rest)).1.bare.toList.head? = some first) : first = char := by
  rw [scan] at starts
  split at starts
  · cases starts
  · split at starts
    · cases starts
    · simpa using starts.symm

theorem quote_not_mem_scan {chars : List Char} {quoted : String}
    (found : (scan chars).1.quoted = some quoted) : '"' ∉ quoted.toList := by
  induction chars with
  | nil => cases found
  | cons char rest induction =>
      rw [scan] at found
      split at found
      · cases found
        rw [String.toList_ofList]
        exact quote_not_mem_scanQuoted true rest
      · split at found
        · cases found
        · exact induction found

/-- A word without quotes has its first character. -/
theorem bare_scan_ne_empty {char : Char} {rest : List Char} (inside : isEnd char = false)
    (unquoted : (scan (char :: rest)).1.quoted = none) : (scan (char :: rest)).1.bare ≠ "" := by
  rw [scan] at *
  split at unquoted
  · cases unquoted
  · next different =>
      rw [if_neg different, inside]
      simp

theorem isWellFormed_scan {char : Char} {rest : List Char} (visible : isBlank char = false)
    (unmarked : Token.mark? char = none) : (scan (char :: rest)).1.IsWellFormed := by
  have inside := Token.isEnd_eq_false_of_mark?_eq_none visible unmarked
  have stands : Token.StandsBare (scan (char :: rest)).1.bare.toList := by
    refine ⟨isBare_of_mem_scan _, ?_⟩
    intro starts
    rw [← eq_of_head?_bare_scan starts] at unmarked
    cases unmarked
  rcases known : (scan (char :: rest)).1 with ⟨bare, quoted⟩
  rw [known] at stands
  cases quoted with
  | none =>
      have nonempty := bare_scan_ne_empty inside (congrArg quoted known)
      rw [known] at nonempty
      exact isWellFormed_bare_iff.mpr ⟨nonempty, stands⟩
  | some text =>
      have unquoted := quote_not_mem_scan (congrArg quoted known)
      exact isWellFormed_quoted_iff.mpr ⟨unquoted, stands⟩

end Word

namespace Token

theorem mark?_ne_word (char : Char) (word : Word) : mark? char ≠ some (.word word) := by
  grind [mark?]

theorem isWellFormed_of_mem_lex {chars : List Char} {word : Word}
    (member : .word word ∈ lex chars) : word.IsWellFormed := by
  induction chars using lex.induct with
  | case1 => simp [lex_nil] at member
  | case2 char rest blank induction =>
      rw [lex_blank rest blank] at member
      exact induction member
  | case3 char rest visible mark marked induction =>
      rw [lex_mark rest visible marked] at member
      rcases List.mem_cons.mp member with rfl | later
      · exact absurd marked (mark?_ne_word char word)
      · exact induction later
  | case4 char rest visible unmarked shorter induction =>
      rw [lex_word rfl visible unmarked] at member
      rcases List.mem_cons.mp member with first | later
      · cases first
        exact Word.isWellFormed_scan visible unmarked
      · exact induction later

/-! ## Writing -/

def spelled : Token → String
  | .word ⟨bare, none⟩ => bare
  | .word ⟨bare, some quoted⟩ => bare ++ inQuotes quoted
  | mark => mark.display

def spell (tokens : List Token) : String :=
  " ".intercalate (tokens.map spelled)

example : spell [.minus, .word ⟨"n:", some "a b"⟩, .closeParen] = "- n:\"a b\" )" := by
  decide +kernel

theorem lexes_mark {mark : Char} {token : Token} (visible : isBlank mark = false)
    (marked : mark? mark = some token) : Lexes [mark] [token] :=
  fun rest _ => lex_mark rest visible marked

theorem lexes_spelled {token : Token}
    (wellFormed : ∀ word, token = .word word → word.IsWellFormed) :
    Lexes token.spelled.toList [token] := by
  cases token with
  | minus => exact lexes_mark (by decide) rfl
  | bar => exact lexes_mark (by decide) rfl
  | openParen => exact lexes_mark (by decide) rfl
  | closeParen => exact lexes_mark (by decide) rfl
  | word word =>
      rcases word with ⟨bare, quoted⟩
      intro rest ends
      cases quoted with
      | none =>
          have parts := Word.isWellFormed_bare_iff.mp (wellFormed _ rfl)
          have nonempty : bare.toList ≠ [] := by simpa using parts.1
          simpa [spelled] using lex_bare parts.2 nonempty ends
      | some quoted =>
          have parts := Word.isWellFormed_quoted_iff.mp (wellFormed _ rfl)
          simpa [spelled, inQuotes] using lex_quoted parts.2 parts.1 ends

theorem toList_spell_cons_cons (first second : Token) (rest : List Token) :
    (spell (first :: second :: rest)).toList =
      first.spelled.toList ++ ' ' :: (spell (second :: rest)).toList := by
  simp [spell, String.toList_intercalate]

theorem lexes_spell {tokens : List Token}
    (wellFormed : ∀ word, .word word ∈ tokens → word.IsWellFormed) :
    Lexes (spell tokens).toList tokens := by
  induction tokens with
  | nil => exact fun _ _ => rfl
  | cons token tokens induction =>
      have head : Lexes token.spelled.toList [token] := by
        apply lexes_spelled
        rintro word rfl
        exact wellFormed word List.mem_cons_self
      have tail := induction fun word member => wellFormed word (List.mem_cons_of_mem token member)
      cases tokens with
      | nil => simpa [spell] using head
      | cons next tokens =>
          intro rest ends
          have separated := head (' ' :: ((spell (next :: tokens)).toList ++ rest))
            (Word.endsBefore_cons _ rfl)
          rw [toList_spell_cons_cons, List.append_assoc, List.cons_append, separated, lex_space,
            tail rest ends]
          rfl

theorem lex_spell {tokens : List Token}
    (wellFormed : ∀ word, .word word ∈ tokens → word.IsWellFormed) :
    lex (spell tokens).toList = tokens := by
  have lexed := lexes_spell wellFormed [] Word.endsBefore_nil
  rwa [List.append_nil, lex_nil, List.append_nil] at lexed

/-- Words that have been read are well formed, tokens whose words are well
formed are read again as they were written, and so a filter means what its
normal form means. -/
theorem tokens_survive_spelling :
    (∀ (text : String) (word : Word), .word word ∈ lex text.toList → word.IsWellFormed) ∧
    (∀ tokens : List Token, (∀ word, .word word ∈ tokens → word.IsWellFormed) →
      lex (spell tokens).toList = tokens) ∧
    ∀ text : String, (Query.compile (spell (lex text.toList))).tree = (Query.compile text).tree := by
  refine ⟨fun text word => isWellFormed_of_mem_lex, fun tokens => lex_spell, ?_⟩
  intro text
  have same := lex_spell fun word (member : .word word ∈ lex text.toList) =>
    isWellFormed_of_mem_lex member
  rw [Query.compile, Query.compile, same]

/-- Marks inside quotes, a symbol cut short by its quotes, quotes around nothing. -/
theorem tokens_survive_spelling_intricate :
    let tokens : List Token :=
      [.minus, .word ⟨"ü<", some "=x | -y"⟩, .openParen, .word ⟨"", some ""⟩, .bar,
        .word ⟨"a-b", none⟩, .closeParen, .closeParen]
    (∀ word, .word word ∈ tokens → word.IsWellFormed) ∧ lex (spell tokens).toList = tokens := by
  intro tokens
  have wellFormed : ∀ word, .word word ∈ tokens → word.IsWellFormed := by
    intro word member
    simp only [tokens, List.mem_cons, Token.word.injEq, reduceCtorEq, List.not_mem_nil,
      false_or, or_false] at member
    rcases member with rfl | rfl | rfl
    · decide +kernel
    · decide +kernel
    · decide +kernel
  exact ⟨wellFormed, tokens_survive_spelling.2.1 tokens wellFormed⟩

end Token

end PagedTable.Filter
