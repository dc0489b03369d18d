import PagedTable.Text.Cluster
import PagedTable.Text.DisplayWidth

/-! # Simple characters

Most characters take one column and are a sign of their own, as long as their neighbours
are such characters too. A text of simple characters takes as many columns as it has
characters, in each edition, and falls into its single characters. -/

namespace PagedTable.Text

/-- Whether a character takes one column in front of what does not matter to it, does not
matter to what is in front of it, and is not drawn to its neighbours. -/
def IsSimple (char : Char) : Prop :=
  (∀ edition ∈ [Edition.earlier, .latest], Context.read edition char {} = (1, {})) ∧
    BreakClass.of char = .other ∧ consonantRanges.contain char = false

instance (char : Char) : Decidable (IsSimple char) :=
  inferInstanceAs (Decidable (_ ∧ _))

/-- The printable characters of ASCII are simple. -/
theorem isSimple_of_printable {char : Char} (lower : 0x20 ≤ char.toNat)
    (upper : char.toNat ≤ 0x7e) : IsSimple char := by
  have all : ∀ place < 0x5f, IsSimple (Char.ofNat (0x20 + place)) := by decide +kernel
  have simple := all (char.toNat - 0x20) (by omega)
  rwa [Nat.add_sub_cancel' lower, Char.ofNat_toNat] at simple

theorem isSimple_of_all {chars : List Char} (all : chars.all (decide <| IsSimple ·) = true) :
    ∀ char ∈ chars, IsSimple char :=
  fun char member => of_decide_eq_true (List.all_eq_true.mp all char member)

theorem isSimple_of_isDigit {char : Char} (digit : char.isDigit = true) : IsSimple char := by
  unfold Char.isDigit at digit
  simp only [Bool.and_eq_true, decide_eq_true_eq, ge_iff_le, UInt32.le_iff_toNat_le] at digit
  have lower : 48 ≤ char.toNat := digit.1
  have upper : char.toNat ≤ 57 := digit.2
  exact isSimple_of_printable (by omega) (by omega)

namespace IsSimple

variable {char : Char}

theorem read_eq (simple : IsSimple char) (edition : Edition) :
    Context.read edition char {} = (1, {}) :=
  simple.1 edition (by cases edition <;> simp)

theorem seam_start (simple : IsSimple char) : Seam.start char = ⟨.other, .none, .none, false⟩ := by
  rcases simple with ⟨_, breakClass, other⟩
  simp [Seam.start, Seam.push, Seam.nextPicture, Seam.nextConsonant, breakClass, other]

theorem joins_eq_false (simple : IsSimple char) :
    Seam.joins ⟨.other, .none, .none, false⟩ char = false := by
  unfold Seam.joins
  rw [simple.2.1]
  rfl

end IsSimple

variable {chars : List Char} (simple : ∀ char ∈ chars, IsSimple char)

include simple

theorem measure_of_isSimple (edition : Edition) :
    measure edition chars = ((chars.length : Int), {}) := by
  induction chars with
  | nil => rfl
  | cons char rest induction =>
      have parts := List.forall_mem_cons.mp simple
      have before := induction parts.2
      unfold measure at before ⊢
      rw [List.foldr_cons, before, parts.1.read_eq edition]
      rfl

theorem widthIn_of_isSimple (edition : Edition) : widthIn edition chars = chars.length := by
  rw [widthIn, measure_of_isSimple simple edition]
  rfl

theorem displayWidth_of_isSimple : displayWidth chars = chars.length :=
  widthIn_of_isSimple simple .latest

theorem clusters_of_isSimple : clusters chars = chars.map fun char => [char] := by
  -- behind a simple character the open cluster is that character, and the seam is as at its start
  have after : ∀ {rest : List Char} (head : Char), (∀ char ∈ rest, IsSimple char) →
      clustersAfter ⟨.other, .none, .none, false⟩ [head] rest =
        (head :: rest).map fun char => [char] := by
    intro rest
    induction rest with
    | nil => exact fun head _ => rfl
    | cons char rest induction =>
        intro head simple
        have parts := List.forall_mem_cons.mp simple
        rw [clustersAfter, parts.1.joins_eq_false, if_neg Bool.false_ne_true, parts.1.seam_start,
          induction char parts.2]
        rfl
  cases chars with
  | nil => rfl
  | cons head rest =>
      have parts := List.forall_mem_cons.mp simple
      rw [clusters, parts.1.seam_start, after head parts.2]

end PagedTable.Text
