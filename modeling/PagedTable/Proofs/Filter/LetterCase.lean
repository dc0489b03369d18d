import PagedTable.Filter.Query
import PagedTable.Proofs.Filter.Lexing
import PagedTable.Proofs.Filter.Reading
import PagedTable.Proofs.Filter.Term
import PagedTable.Proofs.Text.LetterCase

/-! # Filters that differ in letter case

Filter texts that differ in the case of ASCII letters are cut into the same
words but for their case, and these become the same tree but for the names of
its fields. -/

namespace PagedTable.Filter

open Text

/-! ## Words -/

namespace Word

def toLower (word : Word) : Word :=
  ⟨word.bare.toLower, word.quoted.map String.toLower⟩

theorem isEnd_toLower (char : Char) : isEnd char.toLower = isEnd char :=
  apply_toLower (by decide +kernel) char

theorem scanQuoted_map_toLower (isOpen : Bool) (chars : List Char) :
    scanQuoted isOpen (chars.map Char.toLower) =
      ((scanQuoted isOpen chars).1.map Char.toLower,
        (scanQuoted isOpen chars).2.map Char.toLower) := by
  induction chars generalizing isOpen with
  | nil => rfl
  | cons char rest induction =>
      have quote : char.toLower = '"' ↔ char = '"' := toLower_eq_iff (by decide) char
      rw [List.map_cons, scanQuoted, scanQuoted]
      simp only [quote, isEnd_toLower, induction]
      split
      · rfl
      · split <;> rfl

theorem scan_map_toLower (chars : List Char) :
    scan (chars.map Char.toLower) =
      ((scan chars).1.toLower, (scan chars).2.map Char.toLower) := by
  induction chars with
  | nil => simp [scan, toLower, toLower_empty]
  | cons char rest induction =>
      have quote : char.toLower = '"' ↔ char = '"' := toLower_eq_iff (by decide) char
      rw [List.map_cons, scan, scan]
      simp only [quote, isEnd_toLower, induction, scanQuoted_map_toLower]
      split
      · simp only [toLower, toLower_empty, toLower_ofList, Option.map_some]
      · split
        · simp only [toLower, toLower_empty, Option.map_none, List.map_cons]
        · simp only [toLower, toLower_ofList, toList_toLower, List.map_cons]

theorem text_toLower (word : Word) : word.toLower.text = word.text.toLower := by
  rcases word with ⟨bare, quoted⟩
  cases quoted with
  | none => simp [text, toLower]
  | some quoted => exact (toLower_append bare quoted).symm

end Word

namespace Token

def toLower : Token → Token
  | .word content => .word content.toLower
  | token => token

theorem mark?_toLower (char : Char) : mark? char.toLower = mark? char :=
  apply_toLower (by decide +kernel) char

theorem toLower_of_mark? {char : Char} {token : Token} (marked : mark? char = some token) :
    token.toLower = token := by
  cases token with
  | word content => grind [mark?]
  | _ => rfl

theorem lex_map_toLower (chars : List Char) :
    lex (chars.map Char.toLower) = (lex chars).map toLower := by
  induction chars using lex.induct with
  | case1 => rw [List.map_nil, lex_nil, List.map_nil]
  | case2 char rest blank induction =>
      have lowered : isBlank char.toLower = true := (isBlank_toLower char).trans blank
      rw [List.map_cons, lex_blank rest blank, lex_blank _ lowered, induction]
  | case3 char rest visible token marked induction =>
      have lowered : isBlank char.toLower = false := (isBlank_toLower char).trans visible
      have mark : mark? char.toLower = some token := (mark?_toLower char).trans marked
      rw [List.map_cons, lex_mark rest visible marked, lex_mark _ lowered mark, induction,
        List.map_cons, toLower_of_mark? marked]
  | case4 char rest visible unmarked shorter induction =>
      have lowered : isBlank char.toLower = false := (isBlank_toLower char).trans visible
      have mark : mark? char.toLower = none := (mark?_toLower char).trans unmarked
      have starts : (char :: rest).head? = some char := rfl
      have lowerStarts : ((char :: rest).map Char.toLower).head? = some char.toLower := rfl
      have second := lex_word lowerStarts lowered mark
      rw [Word.scan_map_toLower] at second
      dsimp only at second
      rw [lex_word starts visible unmarked, second, induction, List.map_cons, toLower]

end Token

/-! ## Terms -/

namespace Relation

theorem nearer_map_toLower (chars : List Char) (best : Option (Nat × Relation))
    (relation : Relation) :
    nearer (chars.map Char.toLower) best relation = nearer chars best relation := by
  have caseless : ∀ mark ∈ relation.symbol.toList, mark.isAlpha = false := by
    cases relation <;> simp [symbol]
  rw [nearer, nearer, firstAt?_map_toLower caseless]

theorem locate?_map_toLower (chars : List Char) :
    locate? (chars.map Char.toLower) = locate? chars := by
  have same : nearer (chars.map Char.toLower) = nearer chars := by
    funext best relation
    exact nearer_map_toLower chars best relation
  rw [locate?_eq_foldl, same, locate?_eq_foldl]

end Relation

theorem isNameChar_toLower (char : Char) : isNameChar char.toLower = isNameChar char :=
  apply_toLower (by decide +kernel) char

theorem isFieldName_map_toLower (name : List Char) :
    isFieldName (name.map Char.toLower) = isFieldName name := by
  have named : isNameChar ∘ Char.toLower = isNameChar := funext isNameChar_toLower
  rw [isFieldName, List.isEmpty_map, List.all_map, named, isFieldName]

def lowerNames : Filter → Filter
  | .anywhere text => .anywhere text
  | .field name relation text => .field name.toLower relation text
  | .both left right => .both left.lowerNames right.lowerNames
  | .either left right => .either left.lowerNames right.lowerNames
  | .negated inner => .negated inner.lowerNames

theorem ofWord_toLower (word : Word) : ofWord word.toLower = (ofWord word).lowerNames := by
  have bare : word.toLower.bare.toList = word.bare.toList.map Char.toLower :=
    toList_toLower word.bare
  rw [ofWord, ofWord, word.text_toLower, bare, Relation.locate?_map_toLower]
  cases Relation.locate? word.bare.toList with
  | none => simp only [lower_toLower, lowerNames]
  | some found =>
      simp only [toList_toLower, ← List.map_take, ← List.map_drop, isFieldName_map_toLower,
        lowerChars_map_toLower, lower_toLower]
      split
      · rw [lowerNames, toLower_ofList]
      · rfl

/-! ## Trees -/

theorem join_lowerNames (combine : Filter → Filter → Filter)
    (commutes : ∀ left right,
      (combine left right).lowerNames = combine left.lowerNames right.lowerNames)
    (before tree : Option Filter) :
    (join combine before tree).map lowerNames =
      join combine (before.map lowerNames) (tree.map lowerNames) := by
  cases before with
  | none => rfl
  | some left =>
      cases tree with
      | none => rfl
      | some right => exact congrArg some (commutes left right)

namespace Frame

def lowerNames (frame : Frame) : Frame :=
  ⟨frame.opener, frame.before.map Filter.lowerNames⟩

theorem close_lowerNames (frame : Frame) (tree : Option Filter) :
    frame.lowerNames.close (tree.map Filter.lowerNames) =
      (frame.close tree).map Filter.lowerNames := by
  rcases frame with ⟨opener, before⟩
  cases opener with
  | group => exact (join_lowerNames both (fun _ _ => rfl) before tree).symm
  | negation =>
      have inner : (tree.map Filter.lowerNames).map negated =
          (tree.map negated).map Filter.lowerNames := by
        cases tree <;> rfl
      have joined := join_lowerNames both (fun _ _ => rfl) before (tree.map negated)
      rw [← inner] at joined
      exact joined.symm
  | alternative => exact (join_lowerNames either (fun _ _ => rfl) before tree).symm

end Frame

namespace Reading

def lowerNames (reading : Reading) : Reading :=
  ⟨reading.frames.map Frame.lowerNames, reading.tree.map Filter.lowerNames⟩

theorem settle_lowerNames (frames : List Frame) (tree : Option Filter) :
    settle (frames.map Frame.lowerNames) (tree.map Filter.lowerNames) =
      (settle frames tree).lowerNames := by
  induction frames generalizing tree with
  | nil => rfl
  | cons frame outer induction =>
      have ends : frame.lowerNames.endsAtTerm = frame.endsAtTerm := rfl
      rw [List.map_cons, settle, settle, ends, Option.isSome_map, frame.close_lowerNames,
        induction]
      split <;> rfl

theorem finish_lowerNames (reading : Reading) :
    reading.lowerNames.finish = reading.finish.map Filter.lowerNames := by
  rcases reading with ⟨frames, tree⟩
  induction frames generalizing tree with
  | nil => rfl
  | cons frame outer induction =>
      have next := induction (frame.close tree)
      rw [lowerNames, ← frame.close_lowerNames] at next
      exact next

theorem next?_lowerNames (reading : Reading) (token : Token) :
    reading.lowerNames.next? token.toLower = (reading.next? token).map lowerNames := by
  rcases reading with ⟨frames, tree⟩
  cases token with
  | word word =>
      have joined := join_lowerNames both (fun _ _ => rfl) tree (some (ofWord word))
      rw [Option.map_some, ← ofWord_toLower] at joined
      change some (settle (frames.map Frame.lowerNames) (join both (tree.map Filter.lowerNames)
        (some (ofWord word.toLower)))) = _
      rw [← joined, settle_lowerNames]
      rfl
  | closeParen =>
      cases frames with
      | nil => rfl
      | cons frame outer =>
          change some (settle (outer.map Frame.lowerNames)
            (frame.lowerNames.close (tree.map Filter.lowerNames))) = _
          rw [frame.close_lowerNames, settle_lowerNames]
          rfl
  | _ => rfl

theorem run_toLower (reading : Reading) (tokens : List Token) :
    reading.lowerNames.run (tokens.map Token.toLower) =
      (reading.run tokens).map Filter.lowerNames := by
  induction tokens generalizing reading with
  | nil => exact reading.finish_lowerNames
  | cons token rest induction =>
      have lowered := reading.next?_lowerNames token
      rw [List.map_cons]
      cases next : reading.next? token with
      | none =>
          rw [next] at lowered
          rw [run_of_next?_none next, run_of_next?_none lowered]
          rfl
      | some after =>
          rw [next] at lowered
          rw [run_of_next? next, run_of_next? lowered, induction]

end Reading

theorem parse_map_toLower (tokens : List Token) :
    parse (tokens.map Token.toLower) = (parse tokens).map lowerNames :=
  Reading.run_toLower ⟨[], none⟩ tokens

/-- The case of a filter text shows in the names of the fields only. -/
theorem tree_compile_toLower (text : String) :
    (Query.compile text.toLower).tree = (Query.compile text).tree.map lowerNames := by
  change parse (Token.lex text.toLower.toList) = (parse (Token.lex text.toList)).map lowerNames
  rw [toList_toLower, Token.lex_map_toLower, parse_map_toLower]

end PagedTable.Filter
