import Mathlib.Data.Nat.Digits.Defs
import PagedTable.Filter.Match
import PagedTable.Proofs.Filter.Term
import PagedTable.Proofs.Number.Rounded

/-! # Relations of order

Two values are compared by the integers they start with, however long these are.
Rounding may make different integers equal, so that a strict comparison fails, but
no comparison ever holds the other way round. -/

namespace PagedTable

open Text

/-! ## Digits -/

def numeral (digits : List Char) : Nat :=
  Nat.ofDigits 10 (digits.reverse.map fun digit => digit.toNat - 0x30)

theorem mapM_digitValue? (digits : List Char) :
    digits.mapM digitValue? =
      if digits.all Char.isDigit then some (digits.map fun digit => digit.toNat - 0x30)
      else none := by
  induction digits with
  | nil => rfl
  | cons digit digits induction =>
      rw [List.mapM_cons, induction, digitValue?, List.all_cons, List.map_cons]
      cases digit.isDigit with
      | false => rfl
      | true => cases digits.all Char.isDigit <;> rfl

theorem readDigits?_eq_some_iff {digits : List Char} {number : Nat} :
    readDigits? digits = some number ↔
      (∀ digit ∈ digits, digit.isDigit = true) ∧ number = numeral digits := by
  have value : (digits.map fun digit => digit.toNat - 0x30).foldl (10 * · + ·) 0 =
      numeral digits := by
    rw [numeral, Nat.ofDigits_eq_foldr, List.map_reverse, List.foldr_reverse]
    congr 1
    funext total digit
    exact Nat.add_comm _ _
  rw [readDigits?, mapM_digitValue?, ← List.all_eq_true]
  split
  case isTrue ascii =>
    rw [Option.map_some, value, Option.some_inj, and_iff_right ascii, eq_comm]
  case isFalse other => simp [other]

theorem isDecimal_of_isDigit {char : Char} (digit : char.isDigit = true) :
    isDecimal char = true := by
  have code := Char.isDigit_iff_toNat.mp digit
  simp only [isDecimal, CodeRanges.contain, decimalRanges, List.any_cons, Bool.or_eq_true,
    Bool.and_eq_true, decide_eq_true_eq]
  exact Or.inl code

theorem isBlank_of_isDigit {char : Char} (digit : char.isDigit = true) :
    isBlank char = false := by
  apply Filter.isBlank_of_isNameChar
  simp [Filter.isNameChar, Char.isAlphanum, digit]

/-! ## Leading integers -/

def signs : List (List Char) :=
  [[], ['+'], ['-']]

/-- Whether a text starts with an integer: blanks, which may be missing, a sign,
which may be missing, and digits of which all that follow one another are ASCII
digits. -/
inductive LeadsWith (chars : List Char) (value : Int) : Prop
  | intro (blanks sign digits rest : List Char)
      (text : chars = blanks ++ (sign ++ (digits ++ rest)))
      (blank : ∀ char ∈ blanks, isBlank char = true) (known : sign ∈ signs)
      (present : digits ≠ []) (ascii : ∀ digit ∈ digits, digit.isDigit = true)
      (all : ∀ char ∈ rest.head?, isDecimal char = false)
      (worth : value = Rounded.signed (sign = ['-']) (numeral digits))

theorem takeWhile_of_ends {holds : Char → Bool} {run rest : List Char}
    (all : ∀ char ∈ run, holds char = true) (ends : ∀ char ∈ rest.head?, holds char = false) :
    (run ++ rest).takeWhile holds = run := by
  rw [List.takeWhile_append_of_pos all]
  cases rest with
  | nil => simp
  | cons char rest => simp [ends char rfl]

theorem dropWhile_of_ends {holds : Char → Bool} {run rest : List Char}
    (all : ∀ char ∈ run, holds char = true) (ends : ∀ char ∈ rest.head?, holds char = false) :
    (run ++ rest).dropWhile holds = rest := by
  rw [List.dropWhile_append_of_pos all]
  cases rest with
  | nil => rfl
  | cons char rest => simp [ends char rfl]

theorem splitSign_append {sign chars : List Char} (known : sign ∈ signs)
    (digit : ∀ char ∈ chars.head?, char.isDigit = true) :
    splitSign (sign ++ chars) = (decide (sign = ['-']), chars) := by
  simp only [signs, List.mem_cons, List.not_mem_nil, or_false] at known
  rcases known with rfl | rfl | rfl
  · rw [List.nil_append]
    unfold splitSign
    split
    · cases digit '-' rfl
    · cases digit '+' rfl
    · rfl
  · rfl
  · rfl

theorem exists_sign (chars : List Char) :
    ∃ sign ∈ signs, chars = sign ++ (splitSign chars).2 ∧
      (splitSign chars).1 = decide (sign = ['-']) := by
  unfold splitSign
  split
  · exact ⟨['-'], by decide, rfl, rfl⟩
  · exact ⟨['+'], by decide, rfl, rfl⟩
  · exact ⟨[], by decide, rfl, rfl⟩

/-- A leading integer is read, and rounded. -/
theorem LeadsWith.exists_read {chars : List Char} {value : Int} (leads : LeadsWith chars value) :
    ∃ negative number, value = Rounded.signed negative number ∧
      leadingInteger? chars = some (.ofNat negative number) := by
  rcases leads with ⟨blanks, sign, digits, rest, rfl, blank, known, present, ascii, all, worth⟩
  have first : ∀ char ∈ (digits ++ rest).head?, char.isDigit = true := by
    intro char member
    rw [List.head?_append, List.head?_eq_some_head present, Option.some_or] at member
    exact ascii char (Option.some.inj member ▸ List.head_mem present)
  have unblank : ∀ char ∈ (sign ++ (digits ++ rest)).head?, isBlank char = false := by
    simp only [signs, List.mem_cons, List.not_mem_nil, or_false] at known
    rcases known with rfl | rfl | rfl
    · exact fun char member => isBlank_of_isDigit (first char member)
    · rintro _ ⟨⟩
      decide
    · rintro _ ⟨⟩
      decide
  refine ⟨decide (sign = ['-']), numeral digits, worth, ?_⟩
  have decimal : ∀ digit ∈ digits, isDecimal digit = true :=
    fun digit member => isDecimal_of_isDigit (ascii digit member)
  have read : readDigits? digits = some (numeral digits) :=
    readDigits?_eq_some_iff.mpr ⟨ascii, rfl⟩
  rw [leadingInteger?, dropWhile_of_ends blank unblank, splitSign_append known first]
  dsimp only
  rw [takeWhile_of_ends decimal all, if_neg (by simpa using present), read, Option.map_some]

/-- What is read is a leading integer. -/
theorem exists_leadsWith {chars : List Char} {read : Rounded}
    (known : leadingInteger? chars = some read) :
    ∃ negative number, LeadsWith chars (Rounded.signed negative number) ∧
      read = .ofNat negative number := by
  rcases exists_sign (chars.dropWhile isBlank) with ⟨sign, isSign, text, negative⟩
  unfold leadingInteger? at known
  dsimp only at known
  split at known
  case isTrue => cases known
  case isFalse present =>
    rcases Option.map_eq_some_iff.mp known with ⟨number, digits, rfl⟩
    rw [readDigits?_eq_some_iff] at digits
    refine ⟨_, number, ?_, rfl⟩
    refine .intro (chars.takeWhile isBlank) sign
      ((splitSign (chars.dropWhile isBlank)).2.takeWhile isDecimal)
      ((splitSign (chars.dropWhile isBlank)).2.dropWhile isDecimal) ?_ ?_ isSign ?_ digits.1 ?_ ?_
    · rw [List.takeWhile_append_dropWhile, ← text, List.takeWhile_append_dropWhile]
    · exact fun char member => List.all_eq_true.mp List.all_takeWhile char member
    · simpa using present
    · intro char member
      have ends := List.head?_dropWhile_not isDecimal (splitSign (chars.dropWhile isBlank)).2
      rw [Option.mem_def.mp member] at ends
      exact ends
    · rw [digits.2, negative]

/-! ## Comparisons -/

namespace Filter.Relation

variable {value text : String}

theorem order_of_read {first second : Rounded}
    (left : leadingInteger? value.toList = some first)
    (right : leadingInteger? text.toList = some second) :
    less.holds value text = decide (first.rank < second.rank) ∧
      atMost.holds value text = decide (first.rank ≤ second.rank) ∧
      greater.holds value text = decide (second.rank < first.rank) ∧
      atLeast.holds value text = decide (second.rank ≤ first.rank) := by
  simp [holds, left, right]

theorem order_of_unread
    (unread : leadingInteger? value.toList = none ∨ leadingInteger? text.toList = none) :
    ∀ relation ∈ [less, atMost, greater, atLeast], relation.holds value text = false := by
  rcases unread with left | right
  · simp [holds, left]
  · cases left : leadingInteger? value.toList <;> simp [holds, left, right]

/-- What is read of two leading integers is ordered as they are, but that it may be
equal where they are not. -/
theorem exists_ranks {left right : Int} (leftLeads : LeadsWith value.toList left)
    (rightLeads : LeadsWith text.toList right) :
    ∃ first second : Rounded, leadingInteger? value.toList = some first ∧
      leadingInteger? text.toList = some second ∧
      (left ≤ right → first.rank ≤ second.rank) ∧ (right ≤ left → second.rank ≤ first.rank) ∧
      (left.natAbs ≤ 2 ^ 53 → first.rank = left) ∧
      (right.natAbs ≤ 2 ^ 53 → second.rank = right) := by
  rcases leftLeads.exists_read with ⟨leftSign, leftNumber, rfl, leftRead⟩
  rcases rightLeads.exists_read with ⟨rightSign, rightNumber, rfl, rightRead⟩
  refine ⟨_, _, leftRead, rightRead, Rounded.rank_mono, Rounded.rank_mono, ?_, ?_⟩
  · rw [Rounded.natAbs_signed]
    exact fun fits => Rounded.rank_eq_signed fits leftSign
  · rw [Rounded.natAbs_signed]
    exact fun fits => Rounded.rank_eq_signed fits rightSign

theorem isUnread_of_not_leadsWith {chars : List Char}
    (never : ∀ integer : Int, ¬ LeadsWith chars integer) : leadingInteger? chars = none := by
  cases read : leadingInteger? chars with
  | none => rfl
  | some rounded =>
      rcases exists_leadsWith read with ⟨negative, number, leads, _⟩
      exact absurd leads (never _)

structure FollowsOrder (value text : String) (left right : Int) : Prop where
  below : left < right → atMost.holds value text = true ∧ greater.holds value text = false
  above : right < left → atLeast.holds value text = true ∧ less.holds value text = false
  equal : left = right →
    atMost.holds value text = true ∧ atLeast.holds value text = true ∧
      less.holds value text = false ∧ greater.holds value text = false
  precise : left.natAbs ≤ 2 ^ 53 → right.natAbs ≤ 2 ^ 53 →
    less.holds value text = decide (left < right) ∧
      atMost.holds value text = decide (left ≤ right) ∧
      greater.holds value text = decide (right < left) ∧
      atLeast.holds value text = decide (right ≤ left)

/-- The relations of order compare leading integers: they hold the way the integers
are ordered or not at all, they hold just as these are ordered where both integers
fit the bits that are kept, and none holds where there is no leading integer. -/
theorem order_never_contradicts_integers (value text : String) :
    (∀ left right : Int, LeadsWith value.toList left → LeadsWith text.toList right →
      FollowsOrder value text left right) ∧
    ((∀ left : Int, ¬ LeadsWith value.toList left) ∨
        (∀ right : Int, ¬ LeadsWith text.toList right) →
      ∀ relation ∈ [less, atMost, greater, atLeast], relation.holds value text = false) := by
  constructor
  · intro left right leftLeads rightLeads
    rcases exists_ranks leftLeads rightLeads with
      ⟨first, second, leftRead, rightRead, upwards, downwards, leftFits, rightFits⟩
    rcases order_of_read leftRead rightRead with ⟨isLess, isAtMost, isGreater, isAtLeast⟩
    constructor
    · intro below
      rw [isAtMost, isGreater, decide_eq_true_iff, decide_eq_false_iff_not, Int.not_lt]
      exact ⟨upwards below.le, upwards below.le⟩
    · intro above
      rw [isAtLeast, isLess, decide_eq_true_iff, decide_eq_false_iff_not, Int.not_lt]
      exact ⟨downwards above.le, downwards above.le⟩
    · intro same
      rw [isLess, isAtMost, isGreater, isAtLeast]
      simp only [decide_eq_true_eq, decide_eq_false_iff_not, Int.not_lt]
      exact ⟨upwards same.le, downwards same.ge, downwards same.ge, upwards same.le⟩
    · intro leftFew rightFew
      rw [isLess, isAtMost, isGreater, isAtLeast, leftFits leftFew, rightFits rightFew]
      exact ⟨rfl, rfl, rfl, rfl⟩
  · rintro (noLeft | noRight)
    · exact order_of_unread (Or.inl (isUnread_of_not_leadsWith noLeft))
    · exact order_of_unread (Or.inr (isUnread_of_not_leadsWith noRight))

/-- The two integers differ in their last digit and are rounded to the same number:
they are in order, but not strictly. -/
theorem order_never_contradicts_integers_beyond_bits :
    let value := "\u2003-009007199254740993 MB"
    let text := "-9007199254740992.5"
    LeadsWith value.toList (-9007199254740993) ∧ LeadsWith text.toList (-9007199254740992) ∧
      atMost.holds value text = true ∧ greater.holds value text = false ∧
      less.holds value text = false ∧ (-9007199254740993 : Int) < -9007199254740992 := by
  intro value text
  have left : LeadsWith value.toList (-9007199254740993) := by
    refine .intro ['\u2003'] ['-'] "009007199254740993".toList [' ', 'M', 'B']
      (by decide +kernel) ?_ (by decide) (by decide) ?_ ?_ (by decide +kernel)
    · exact List.all_eq_true.mp (by decide +kernel)
    · exact List.all_eq_true.mp (by decide +kernel)
    · rintro _ ⟨⟩
      decide +kernel
  have right : LeadsWith text.toList (-9007199254740992) := by
    refine .intro [] ['-'] "9007199254740992".toList ['.', '5']
      (by decide +kernel) nofun (by decide) (by decide) ?_ ?_ (by decide +kernel)
    · exact List.all_eq_true.mp (by decide +kernel)
    · rintro _ ⟨⟩
      decide +kernel
  have ordered := (order_never_contradicts_integers value text).1 _ _ left right
  rcases ordered.below (by decide) with ⟨isAtMost, isGreater⟩
  exact ⟨left, right, isAtMost, isGreater, by decide +kernel, by decide⟩

end Filter.Relation

end PagedTable
