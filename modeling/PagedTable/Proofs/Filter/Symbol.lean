import Mathlib.Data.List.Basic
import PagedTable.Proofs.Filter.Spelling
import PagedTable.Proofs.Text.Containment

/-! # The symbol of a word

Every symbol is looked for in the whole bare part of a word, and the one that is found
first is taken. This comes to a look at one place only: a word names a field when a symbol
stands right behind the characters of a name at its start, and its relation is that of the
longest symbol there. -/

namespace PagedTable

open Text

namespace Filter

namespace Relation

/-! ## The longest symbol -/

/-- Whether a text starts with the symbol of a relation, and with no other symbol that is
as long. -/
structure IsLongest (relation : Relation) (chars : List Char) : Prop where
  starts : relation.symbol.toList <+: chars
  longest : ∀ other, other ≠ relation → other.symbol.toList <+: chars →
    other.symbol.length < relation.symbol.length

theorem mem_all (relation : Relation) : relation ∈ all := by
  cases relation <;> decide

/-- No symbol comes before one that starts with it. -/
theorem pairwise_all : all.Pairwise fun earlier later =>
    ¬earlier.symbol.toList <+: later.symbol.toList := by
  decide

/-- Where a text starts with symbols at all, one of these is listed first. -/
theorem exists_first {chars : List Char}
    (present : ∃ relation : Relation, relation.symbol.toList <+: chars) :
    ∃ before relation after, all = before ++ relation :: after ∧
      relation.symbol.toList <+: chars ∧
      ∀ other ∈ before, ¬other.symbol.toList <+: chars := by
  rcases present with ⟨candidate, starts⟩
  cases found : all.find? fun relation => relation.symbol.toList <+: chars with
  | none =>
      have absent := List.find?_eq_none.mp found candidate candidate.mem_all
      exact absurd (decide_eq_true starts) absent
  | some relation =>
      rcases List.find?_eq_some_iff_append.mp found with ⟨starts, before, after, split, absent⟩
      exact ⟨before, relation, after, split, of_decide_eq_true starts,
        fun other early => by simpa using absent other early⟩

theorem isLongest_of_split {chars : List Char} {before after : List Relation}
    {relation : Relation} (split : all = before ++ relation :: after)
    (starts : relation.symbol.toList <+: chars)
    (absent : ∀ other ∈ before, ¬other.symbol.toList <+: chars) :
    relation.IsLongest chars := by
  refine ⟨starts, ?_⟩
  intro other different otherStarts
  have listed := other.mem_all
  rw [split, List.mem_append, List.mem_cons] at listed
  rcases listed with early | same | late
  · exact absurd otherStarts (absent other early)
  · exact absurd same different
  · have ordered := pairwise_all
    rw [split, List.pairwise_append, List.pairwise_cons] at ordered
    rw [← String.length_toList, ← String.length_toList]
    -- both start the text, so that the longer of the two starts with the other
    exact Nat.lt_of_not_le fun short =>
      ordered.2.1.1 other late (List.prefix_of_prefix_length_le starts otherStarts short)

/-! ## Symbols at the start of a text -/

/-- The characters that symbols start with. -/
theorem exists_starts_iff {chars : List Char} :
    (∃ relation : Relation, relation.symbol.toList <+: chars) ↔
      ∃ char ∈ chars.head?, char ∈ [':', '<', '>', '='] := by
  constructor
  · rintro ⟨relation, rest, rfl⟩
    cases relation <;> exact ⟨_, rfl, by decide⟩
  · rintro ⟨char, starts, member⟩
    cases chars with
    | nil => cases starts
    | cons head rest =>
        cases starts
        simp only [List.mem_cons, List.not_mem_nil, or_false] at member
        rcases member with rfl | rfl | rfl | rfl
        · exact ⟨.contains, rest, rfl⟩
        · exact ⟨.less, rest, rfl⟩
        · exact ⟨.greater, rest, rfl⟩
        · exact ⟨.equal, rest, rfl⟩

section

variable {chars : List Char} {best : Option (Nat × Relation)} {relation : Relation}

theorem nearer_of_starts (starts : relation.symbol.toList <+: chars)
    (later : ∀ found ∈ best, 0 < found.1) : nearer chars best relation = some (0, relation) := by
  unfold nearer
  rw [firstAt?_eq_zero_iff.mpr starts]
  have better : best.all (0 < ·.1) = true :=
    (Option.all_eq_true _ _).mpr fun found member => decide_eq_true (later found member)
  exact if_pos better

theorem nearer_zero (other : Relation) :
    nearer chars (some (0, relation)) other = some (0, relation) := by
  unfold nearer
  cases firstAt? other.symbol.toList chars <;> rfl

theorem pos_of_mem_nearer (absent : ¬relation.symbol.toList <+: chars)
    (later : ∀ found ∈ best, 0 < found.1) : ∀ found ∈ nearer chars best relation, 0 < found.1 := by
  unfold nearer
  rw [← firstAt?_eq_zero_iff] at absent
  cases known : firstAt? relation.symbol.toList chars with
  | none => exact later
  | some place =>
      have positive : 0 < place := Nat.pos_of_ne_zero fun zero => absent (zero ▸ known)
      dsimp only
      split
      · intro found member
        cases member
        exact positive
      · exact later

theorem pos_of_mem_foldl_nearer {relations : List Relation}
    (absent : ∀ relation ∈ relations, ¬relation.symbol.toList <+: chars)
    (later : ∀ found ∈ best, 0 < found.1) :
    ∀ found ∈ relations.foldl (nearer chars) best, 0 < found.1 := by
  induction relations generalizing best with
  | nil => exact later
  | cons head rest induction =>
      have parts := List.forall_mem_cons.mp absent
      exact induction parts.2 (pos_of_mem_nearer parts.1 later)

end

/-- Where no symbol stands at the start of a text, the search ends further on, if at all. -/
theorem pos_of_mem_locate? {chars : List Char}
    (absent : ¬∃ relation : Relation, relation.symbol.toList <+: chars) :
    ∀ found ∈ locate? chars, 0 < found.1 := by
  exact pos_of_mem_foldl_nearer (fun relation _ starts => absent ⟨relation, starts⟩) (by simp)

/-- Where symbols stand at the start of a text, the search ends there with the longest. -/
theorem exists_locate?_eq {chars : List Char}
    (present : ∃ relation : Relation, relation.symbol.toList <+: chars) :
    ∃ relation : Relation, relation.IsLongest chars ∧ locate? chars = some (0, relation) := by
  rcases exists_first present with ⟨before, relation, after, split, starts, absent⟩
  have later : ∀ found ∈ before.foldl (nearer chars) none, 0 < found.1 :=
    pos_of_mem_foldl_nearer absent (by simp)
  refine ⟨relation, isLongest_of_split split starts absent, ?_⟩
  rw [locate?_eq_foldl, split, List.foldl_append, List.foldl_cons, nearer_of_starts starts later]
  exact List.foldl_fixed' nearer_zero after

end Relation

/-! ## Words that name no field -/

theorem isFieldName_eq_false_of_mem {name : List Char} {char : Char} (member : char ∈ name)
    (unnamed : isNameChar char = false) : isFieldName name = false := by
  have others : name.all isNameChar = false :=
    List.all_eq_false.mpr ⟨char, member, by simp [unnamed]⟩
  rw [isFieldName, others, Bool.and_false]

theorem ofWord_eq_anywhere {word : Word}
    (unnamed : ∀ found ∈ Relation.locate? word.bare.toList,
      isFieldName (word.text.toList.take found.1) = false) :
    ofWord word = .anywhere (lower word.text) := by
  unfold ofWord
  cases known : Relation.locate? word.bare.toList with
  | none => rfl
  | some found => simp [unnamed found known]

/-- A word without a name at its start, or with something else than a symbol behind it. -/
theorem ofWord_eq_anywhere_of_split {word : Word} {name rest : List Char}
    (split : word.bare.toList = name ++ rest) (named : ∀ char ∈ name, isNameChar char = true)
    (stops : ∀ char ∈ rest.head?, isNameChar char = false)
    (unnamed : ¬(name ≠ [] ∧ ∃ relation : Relation, relation.symbol.toList <+: rest)) :
    ofWord word = .anywhere (lower word.text) := by
  apply ofWord_eq_anywhere
  intro found located
  rw [split, Relation.locate?_append _ named] at located
  rcases Option.map_eq_some_iff.mp located with ⟨behind, known, rfl⟩
  by_cases present : ∃ relation : Relation, relation.symbol.toList <+: rest
  · -- a symbol at the very start has no name in front of it
    have empty : name = [] := Classical.not_not.mp fun nonempty => unnamed ⟨nonempty, present⟩
    rcases Relation.exists_locate?_eq present with ⟨relation, _, first⟩
    cases known.symm.trans first
    rw [empty]
    rfl
  · -- what stands behind the name is a part of what comes before any symbol
    have later := Relation.pos_of_mem_locate? present behind known
    rcases Nat.exists_eq_add_one.mpr later with ⟨place, position⟩
    cases rest with
    | nil => cases known
    | cons char rest =>
        apply isFieldName_eq_false_of_mem _ (stops char rfl)
        rw [Word.text, String.toList_append, split, List.append_assoc]
        simp only [Prod.map, position]
        rw [Nat.add_comm, List.take_length_add_append]
        simp

/-! ## The bare part of a text -/

/-- Whether a text begins with a start that is not quoted, the quoted part beginning after
a number of bytes, if there is one. -/
def Word.IsBarePart (text : String) (quotedFrom : Option Nat) (start : String) : Prop :=
  match quotedFrom with
  | none => start = text
  | some count => start.toList <+: text.toList ∧ start.utf8ByteSize = count

theorem Word.IsBarePart.ofText {text start : String} {quotedFrom : Option Nat}
    (cut : IsBarePart text quotedFrom start) :
    (ofText text quotedFrom).bare = start ∧ (ofText text quotedFrom).text = text := by
  cases quotedFrom with
  | none =>
      cases cut
      exact ⟨rfl, String.append_empty⟩
  | some count =>
      rcases cut with ⟨⟨back, split⟩, rfl⟩
      have parts : splitBytes start.utf8ByteSize text.toList = (start.toList, back) := by
        have front := splitBytes_append start.toList back
        rwa [String.ofList_toList, split] at front
      have bare : (Word.ofText text (some start.utf8ByteSize)).bare = start := by
        rw [Word.ofText, parts, String.ofList_toList]
      refine ⟨bare, ?_⟩
      rw [Word.text, bare, Word.ofText, parts, ← String.toList_inj, String.toList_append]
      simp [split]

/-- A word names a field exactly when the characters of a name at its start have a symbol
behind them. The longest such symbol is the one taken, and what follows it, quoted or not,
is the text of the term. Any other word is looked for as a whole. -/
theorem ofWord_splits_at_longest_symbol {text start : String} {quotedFrom : Option Nat}
    (cut : Word.IsBarePart text quotedFrom start) :
    let term := ofWord (Word.ofText text quotedFrom)
    let name := start.toList.takeWhile isNameChar
    let rest := start.toList.dropWhile isNameChar
    let named := name ≠ [] ∧ ∃ char ∈ rest.head?, char ∈ [':', '<', '>', '=']
    ((∃ field relation value, term = .field field relation value) ↔ named) ∧
      (named → ∃ relation : Relation, relation.IsLongest rest ∧
        term = .field (String.ofList name) relation
          (String.ofList (lowerChars (text.toList.drop (name.length + relation.symbol.length))))) ∧
      (¬named → term = .anywhere (lower text)) := by
  intro term name rest named
  rcases cut.ofText with ⟨bare, whole⟩
  have split : (Word.ofText text quotedFrom).bare.toList = name ++ rest := by
    rw [bare]
    exact List.takeWhile_append_dropWhile.symm
  have letters : ∀ char ∈ name, isNameChar char = true := List.all_eq_true.mp List.all_takeWhile
  have field : named → ∃ relation : Relation, relation.IsLongest rest ∧
      term = .field (String.ofList name) relation
        (String.ofList (lowerChars (text.toList.drop (name.length + relation.symbol.length)))) := by
    rintro ⟨nonempty, starts⟩
    have isName : isFieldName name = true := by
      simp [isFieldName, nonempty, List.all_eq_true.mpr letters]
    rcases Relation.exists_locate?_eq (Relation.exists_starts_iff.mpr starts) with
      ⟨relation, isLongest, located⟩
    have term := ofWord_eq_field isName split located
    rw [whole] at term
    exact ⟨relation, isLongest, term⟩
  have anywhere : ¬named → term = .anywhere (lower text) := by
    intro unnamed
    have stops : ∀ char ∈ rest.head?, isNameChar char = false := by
      intro char head
      have first := List.head?_dropWhile_not isNameChar start.toList
      rwa [show (start.toList.dropWhile isNameChar).head? = some char from head] at first
    have term := ofWord_eq_anywhere_of_split split letters stops
      (by rwa [Relation.exists_starts_iff])
    rwa [whole] at term
  refine ⟨⟨?_, ?_⟩, field, anywhere⟩
  · rintro ⟨_, _, _, isField⟩
    refine Classical.not_not.mp fun unnamed => ?_
    cases isField.symm.trans (anywhere unnamed)
  · intro isNamed
    rcases field isNamed with ⟨relation, _, isField⟩
    exact ⟨_, relation, _, isField⟩

/-- A quote that stands between the two characters of a symbol. -/
theorem ofWord_splits_at_longest_symbol_cut_by_quote :
    let start := "Size>"
    let term := ofWord (Word.ofText "Size>=X" (some 5))
    let name := start.toList.takeWhile isNameChar
    let rest := start.toList.dropWhile isNameChar
    Word.IsBarePart "Size>=X" (some 5) start ∧ name = "Size".toList ∧ rest = ['>'] ∧
      (∃ field relation value, term = .field field relation value) ∧
      (∃ relation : Relation, relation.IsLongest rest ∧
        term = .field (String.ofList name) relation
          (String.ofList
            (lowerChars ("Size>=X".toList.drop (name.length + relation.symbol.length))))) ∧
      term = .field "Size" .greater "=x" := by
  intro start term name rest
  have cut : Word.IsBarePart "Size>=X" (some 5) start := ⟨⟨['=', 'X'], by decide⟩, by decide⟩
  have named : name ≠ [] ∧ ∃ char ∈ rest.head?, char ∈ [':', '<', '>', '='] :=
    ⟨by decide, '>', by decide, by decide⟩
  rcases ofWord_splits_at_longest_symbol cut with ⟨isField, taken, _⟩
  exact ⟨cut, by decide, by decide, isField.mpr named, taken named, by decide +kernel⟩

end Filter

end PagedTable
