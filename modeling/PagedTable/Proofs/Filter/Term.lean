import PagedTable.Filter.Token
import PagedTable.Filter.Tree

/-! # The term of a word

A field name holds no character of any relation symbol, nor one that the lexer
looks for. So a symbol is found in a name and what follows exactly where it is
found in what follows. -/

namespace PagedTable

open Text

/-! ## Searching behind a text without the first character sought -/

theorem Text.firstAt?_append {head : Char} (part : List Char) {before : List Char}
    (rest : List Char) (absent : head ∉ before) :
    firstAt? (head :: part) (before ++ rest) =
      (firstAt? (head :: part) rest).map (· + before.length) := by
  induction before with
  | nil => simp
  | cons char before induction =>
      have parts := List.ne_and_not_mem_of_not_mem_cons absent
      have apart : (head :: part).isPrefixOf (char :: (before ++ rest)) = false := by
        simp [List.isPrefixOf, parts.1]
      rw [List.cons_append, firstAt?, apart, induction parts.2]
      cases firstAt? (head :: part) rest with
      | none => rfl
      | some place => simp [Nat.add_assoc]

namespace Filter

/-! ## Characters of a field name -/

theorem isNameChar_code {char : Char} (named : isNameChar char = true) :
    (48 ≤ char.toNat ∧ char.toNat ≤ 57) ∨ (65 ≤ char.toNat ∧ char.toNat ≤ 90) ∨
      (97 ≤ char.toNat ∧ char.toNat ≤ 122) ∨ char.toNat = 95 ∨ char.toNat = 46 := by
  unfold isNameChar Char.isAlphanum Char.isAlpha Char.isUpper Char.isLower Char.isDigit at named
  simp only [Bool.or_eq_true, Bool.and_eq_true, decide_eq_true_eq, ge_iff_le,
    UInt32.le_iff_toNat_le] at named
  rcases named with ((((upper | lower) | digit) | underscore) | dot)
  · exact Or.inr (Or.inl upper)
  · exact Or.inr (Or.inr (Or.inl lower))
  · exact Or.inl digit
  · subst underscore
    simp
  · subst dot
    simp

theorem isBlank_of_isNameChar {char : Char} (named : isNameChar char = true) :
    isBlank char = false := by
  have code := isNameChar_code named
  simp only [isBlank, blankRanges, CodeRanges.contain, List.any_cons, List.any_nil]
  simp
  omega

theorem mark?_of_isNameChar {char : Char} (named : isNameChar char = true) :
    Token.mark? char = none := by
  have minus : char ≠ '-' := by rintro rfl; cases named
  have bar : char ≠ '|' := by rintro rfl; cases named
  have openParen : char ≠ '(' := by rintro rfl; cases named
  have closeParen : char ≠ ')' := by rintro rfl; cases named
  simp [Token.mark?, minus, bar, openParen, closeParen]

theorem unquoted_of_isNameChar {char : Char} (named : isNameChar char = true) : char ≠ '"' := by
  rintro rfl
  cases named

/-! ## Symbols behind a field name -/

namespace Relation

theorem symbol_eq_cons (relation : Relation) :
    ∃ head tail, relation.symbol.toList = head :: tail ∧ isNameChar head = false := by
  cases relation <;> exact ⟨_, _, rfl, rfl⟩

theorem firstAt?_symbol_append (relation : Relation) {name : List Char} (rest : List Char)
    (named : ∀ char ∈ name, isNameChar char = true) :
    firstAt? relation.symbol.toList (name ++ rest) =
      (firstAt? relation.symbol.toList rest).map (· + name.length) := by
  rcases relation.symbol_eq_cons with ⟨head, tail, symbol, unnamed⟩
  have absent : head ∉ name := by
    intro member
    cases (named head member).symm.trans unnamed
  rw [symbol]
  exact firstAt?_append tail rest absent

/-- One step of `locate?`: of two symbols, the one that starts first. -/
def nearer (chars : List Char) (best : Option (Nat × Relation)) (relation : Relation) :
    Option (Nat × Relation) :=
  match firstAt? relation.symbol.toList chars with
  | none => best
  | some place => if best.all (place < ·.1) then some (place, relation) else best

theorem locate?_eq_foldl (chars : List Char) :
    locate? chars = all.foldl (nearer chars) none := rfl

theorem nearer_append {name : List Char} (rest : List Char)
    (named : ∀ char ∈ name, isNameChar char = true) (best : Option (Nat × Relation))
    (relation : Relation) :
    nearer (name ++ rest) (best.map (Prod.map (· + name.length) id)) relation =
      (nearer rest best relation).map (Prod.map (· + name.length) id) := by
  unfold nearer
  rw [firstAt?_symbol_append relation rest named]
  cases firstAt? relation.symbol.toList rest with
  | none => rfl
  | some place =>
      cases best with
      | none => rfl
      | some found => by_cases earlier : place < found.1 <;> simp [earlier]

/-- A name in front of a text only moves the place of the symbol. -/
theorem locate?_append {name : List Char} (rest : List Char)
    (named : ∀ char ∈ name, isNameChar char = true) :
    locate? (name ++ rest) = (locate? rest).map (Prod.map (· + name.length) id) := by
  rw [locate?_eq_foldl, locate?_eq_foldl, ← List.foldl_hom _ (nearer_append rest named)]
  rfl

theorem locate?_symbol (relation : Relation) :
    locate? relation.symbol.toList = some (0, relation) := by
  cases relation <;> decide

end Relation

/-! ## Words that name a field -/

/-- A word whose bare part goes on with a symbol right behind a name. -/
theorem ofWord_eq_field {word : Word} {name rest : List Char} {relation : Relation}
    (isName : isFieldName name = true) (split : word.bare.toList = name ++ rest)
    (located : Relation.locate? rest = some (0, relation)) :
    ofWord word = .field (String.ofList name) relation
      (String.ofList
        (lowerChars (word.text.toList.drop (name.length + relation.symbol.length)))) := by
  have named : ∀ char ∈ name, isNameChar char = true := by
    rw [isFieldName, Bool.and_eq_true, List.all_eq_true] at isName
    exact isName.2
  have found : Relation.locate? word.bare.toList = some (name.length, relation) := by
    rw [split, Relation.locate?_append _ named, located]
    simp
  have before : word.text.toList.take name.length = name := by
    rw [Word.text, String.toList_append, split, List.append_assoc, List.take_left]
  rw [ofWord, found]
  simp only [before, isName, if_true]

/-! ## Words that end with a quoted part -/

theorem ofWord_quoted (text : String) : ofWord ⟨"", some text⟩ = .anywhere (lower text) := by
  have whole : (⟨"", some text⟩ : Word).text = text := String.empty_append
  have nowhere : Relation.locate? "".toList = none := by decide
  rw [ofWord, nowhere, whole]

/-- The symbol ends where the quoted part begins, whatever that part starts
with. -/
theorem ofWord_field {name : String} (relation : Relation)
    (isName : isFieldName name.toList = true) (text : String) :
    ofWord ⟨name ++ relation.symbol, some text⟩ = .field name relation (lower text) := by
  have chars : (⟨name ++ relation.symbol, some text⟩ : Word).text.toList =
      (name.toList ++ relation.symbol.toList) ++ text.toList := by
    simp [Word.text]
  have length : name.toList.length + relation.symbol.length =
      (name.toList ++ relation.symbol.toList).length := by
    rw [List.length_append, relation.symbol.length_toList]
  rw [ofWord_eq_field isName String.toList_append relation.locate?_symbol, chars, length,
    List.drop_left, String.ofList_toList, lower]

end Filter

end PagedTable
