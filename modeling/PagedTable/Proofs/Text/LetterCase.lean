import PagedTable.Number.Leading
import PagedTable.Text.LowerCase
import PagedTable.Text.Search

/-! # Texts that differ in letter case

The texts of a filter and of a record are compared after lower-casing. Texts
that differ in the case of ASCII letters have the same lower case, also where it
depends on the neighbours of a letter, and they start with the same integer. -/

namespace PagedTable

namespace Text

/-! ## Single characters -/

/-- A property that each capital letter shares with its small letter does not
depend on case. -/
theorem apply_toLower {β : Type} {property : Char → β}
    (letters : ∀ place < 26,
      property (Char.ofNat (0x61 + place)) = property (Char.ofNat (0x41 + place)))
    (char : Char) : property char.toLower = property char := by
  have small : ∀ place < 26,
      (Char.ofNat (0x41 + place)).toLower = Char.ofNat (0x61 + place) := by
    decide
  by_cases capital : 0x41 ≤ char.toNat ∧ char.toNat ≤ 0x5a
  · have within : char.toNat - 0x41 < 26 := by omega
    have same : Char.ofNat (0x41 + (char.toNat - 0x41)) = char := by
      rw [Nat.add_sub_cancel' capital.1, Char.ofNat_toNat]
    have known := small _ within
    have shared := letters _ within
    rw [same] at known shared
    rw [known, shared]
  · have same : char.toLower = char := by
      unfold Char.toLower
      exact dif_neg capital
    rw [same]

theorem isBlank_toLower (char : Char) : isBlank char.toLower = isBlank char :=
  apply_toLower (by decide +kernel) char

theorem isDecimal_toLower (char : Char) : isDecimal char.toLower = isDecimal char :=
  apply_toLower (by decide +kernel) char

theorem digitValue?_toLower (char : Char) : digitValue? char.toLower = digitValue? char :=
  apply_toLower (by decide +kernel) char

theorem isCased_toLower (char : Char) : isCased char.toLower = isCased char :=
  apply_toLower (by decide +kernel) char

theorem isCaseIgnorable_toLower (char : Char) :
    isCaseIgnorable char.toLower = isCaseIgnorable char :=
  apply_toLower (by decide +kernel) char

theorem lowerChar_toLower (char : Char) : lowerChar char.toLower = lowerChar char :=
  apply_toLower (by decide +kernel) char

/-- A character that is no ASCII letter is the lower case of itself only. -/
theorem toLower_eq_iff {mark : Char} (caseless : mark.isAlpha = false) (char : Char) :
    char.toLower = mark ↔ char = mark := by
  have letters : ∀ place < 26, (Char.ofNat (0x61 + place)).isAlpha = true ∧
      (Char.ofNat (0x41 + place)).isAlpha = true := by
    decide
  let isMark (char : Char) : Bool := char = mark
  have known : isMark char.toLower = isMark char := by
    refine apply_toLower ?_ char
    intro place within
    have small : Char.ofNat (0x61 + place) ≠ mark := by
      rintro rfl
      exact absurd (letters place within).1 (by simp [caseless])
    have capital : Char.ofNat (0x41 + place) ≠ mark := by
      rintro rfl
      exact absurd (letters place within).2 (by simp [caseless])
    exact (decide_eq_false small).trans (decide_eq_false capital).symm
  exact decide_eq_decide.mp known

/-! ## Texts and their characters -/

theorem toList_toLower (text : String) : text.toLower.toList = text.toList.map Char.toLower :=
  String.toList_map

theorem toLower_ofList (chars : List Char) :
    (String.ofList chars).toLower = String.ofList (chars.map Char.toLower) := by
  apply String.toList_inj.mp
  rw [toList_toLower, String.toList_ofList, String.toList_ofList]

theorem toLower_empty : "".toLower = "" :=
  toLower_ofList []

theorem toLower_append (first second : String) :
    (first ++ second).toLower = first.toLower ++ second.toLower := by
  apply String.toList_inj.mp
  rw [toList_toLower, String.toList_append, List.map_append, String.toList_append,
    toList_toLower, toList_toLower]

/-- Whether two texts differ in the case of ASCII letters only. -/
def SameLetters (first second : String) : Prop :=
  first.toLower = second.toLower

theorem sameLetters_iff {first second : String} :
    SameLetters first second ↔
      first.toList.map Char.toLower = second.toList.map Char.toLower := by
  rw [← toList_toLower, ← toList_toLower, String.toList_inj, SameLetters]

instance (first second : String) : Decidable (SameLetters first second) :=
  decidable_of_iff' _ sameLetters_iff

/-! ## Lower case -/

theorem startsCased_map_toLower (chars : List Char) :
    startsCased (chars.map Char.toLower) = startsCased chars := by
  have passed : isCaseIgnorable ∘ Char.toLower = isCaseIgnorable :=
    funext isCaseIgnorable_toLower
  simp only [startsCased, List.dropWhile_map, passed, List.head?_map, Option.any_map,
    isCased_toLower]

theorem lowerAfter_map_toLower (before chars : List Char) :
    lowerAfter (before.map Char.toLower) (chars.map Char.toLower) = lowerAfter before chars := by
  induction chars generalizing before with
  | nil => rfl
  | cons char rest induction =>
      have sigma : char.toLower = 'Σ' ↔ char = 'Σ' := toLower_eq_iff (by decide) char
      have next := induction (char :: before)
      rw [List.map_cons] at next
      simp only [List.map_cons, lowerAfter, lowerSigma, startsCased_map_toLower, sigma,
        lowerChar_toLower, next]

theorem lowerChars_map_toLower (chars : List Char) :
    lowerChars (chars.map Char.toLower) = lowerChars chars :=
  lowerAfter_map_toLower [] chars

/-- ASCII letters may be lower-cased first. -/
theorem lower_toLower (text : String) : lower text.toLower = lower text := by
  rw [lower, toList_toLower, lowerChars_map_toLower, lower]

/-! ## Search -/

theorem isPrefixOf_map_toLower {part : List Char} (caseless : ∀ mark ∈ part, mark.isAlpha = false)
    (chars : List Char) : part.isPrefixOf (chars.map Char.toLower) = part.isPrefixOf chars := by
  induction part generalizing chars with
  | nil => rfl
  | cons mark part induction =>
      have parts := List.forall_mem_cons.mp caseless
      cases chars with
      | nil => rfl
      | cons char chars =>
          have same : (mark == char.toLower) = (mark == char) := by
            rw [Bool.eq_iff_iff, beq_iff_eq, beq_iff_eq]
            exact eq_comm.trans ((toLower_eq_iff parts.1 char).trans eq_comm)
          rw [List.map_cons, List.isPrefixOf, List.isPrefixOf, same, induction parts.2]

/-- A part without letters is found in the same place whatever the case of the
letters around it. -/
theorem firstAt?_map_toLower {part : List Char} (caseless : ∀ mark ∈ part, mark.isAlpha = false)
    (chars : List Char) : firstAt? part (chars.map Char.toLower) = firstAt? part chars := by
  induction chars with
  | nil => rfl
  | cons char rest induction =>
      have same := isPrefixOf_map_toLower caseless (char :: rest)
      rw [List.map_cons] at same
      rw [List.map_cons, firstAt?, firstAt?, same, induction]

end Text

/-! ## Leading integers -/

open Text

theorem splitSign_map_toLower (chars : List Char) :
    splitSign (chars.map Char.toLower) =
      ((splitSign chars).1, (splitSign chars).2.map Char.toLower) := by
  cases chars with
  | nil => rfl
  | cons char rest =>
      have minus : char.toLower = '-' ↔ char = '-' := toLower_eq_iff (by decide) char
      have plus : char.toLower = '+' ↔ char = '+' := toLower_eq_iff (by decide) char
      rw [List.map_cons]
      unfold splitSign
      split <;> split <;> simp_all

theorem readDigits?_map_toLower (digits : List Char) :
    readDigits? (digits.map Char.toLower) = readDigits? digits := by
  have value : digitValue? ∘ Char.toLower = digitValue? := funext digitValue?_toLower
  rw [readDigits?, List.mapM_map, value, readDigits?]

theorem leadingInteger?_map_toLower (chars : List Char) :
    leadingInteger? (chars.map Char.toLower) = leadingInteger? chars := by
  have blank : isBlank ∘ Char.toLower = isBlank := funext isBlank_toLower
  have decimal : isDecimal ∘ Char.toLower = isDecimal := funext isDecimal_toLower
  simp only [leadingInteger?, List.dropWhile_map, blank, splitSign_map_toLower,
    List.takeWhile_map, decimal, List.isEmpty_map, readDigits?_map_toLower]

end PagedTable
