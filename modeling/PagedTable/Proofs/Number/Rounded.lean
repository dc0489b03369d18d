import Mathlib.Data.Nat.Dist
import PagedTable.Number.Rounded

/-! # Rounding to nearest

The leading bits of a number are those of the nearest number that needs no more of
them. That alone keeps the order: of two numbers the greater is never rounded to
the lesser, and a number that needs no more bits is kept as it is. -/

namespace PagedTable.Rounded

/-! ## Multiples of a power of two -/

theorem dvd_roundAt (places number : Nat) : 2 ^ places ∣ roundAt places number :=
  Nat.dvd_mul_left _ _

/-- A number is rounded by half a unit at most. -/
theorem roundAt_near (places number : Nat) :
    2 * roundAt places number ≤ 2 * number + 2 ^ places ∧
      2 * number ≤ 2 * roundAt places number + 2 ^ places := by
  have whole := Nat.div_add_mod' number (2 ^ places)
  have rest := Nat.mod_lt number (Nat.two_pow_pos places)
  unfold roundAt
  dsimp only [Nat.pow_eq]
  split
  case isTrue up =>
    have half : 2 ^ places ≤ 2 * (number % 2 ^ places) := by
      simp only [Bool.or_eq_true, Bool.and_eq_true, decide_eq_true_eq] at up
      omega
    rw [Nat.add_one_mul (number / 2 ^ places)]
    omega
  case isFalse down =>
    have half : 2 * (number % 2 ^ places) ≤ 2 ^ places := by
      simp only [Bool.or_eq_true, decide_eq_true_eq, not_or] at down
      omega
    rw [Nat.add_zero]
    omega

/-- No multiple of the unit is nearer. -/
theorem dist_roundAt_le {places other : Nat} (multiple : 2 ^ places ∣ other) (number : Nat) :
    Nat.dist number (roundAt places number) ≤ Nat.dist number other := by
  have near := roundAt_near places number
  rcases dvd_roundAt places number with ⟨rounded, known⟩
  rcases multiple with ⟨factor, rfl⟩
  rw [known] at near ⊢
  unfold Nat.dist
  rcases Nat.lt_trichotomy rounded factor with below | same | above
  · have apart := Nat.mul_le_mul_left (2 ^ places) below
    rw [Nat.succ_eq_add_one, Nat.mul_add_one] at apart
    omega
  · rw [same]
  · have apart := Nat.mul_le_mul_left (2 ^ places) above
    rw [Nat.succ_eq_add_one, Nat.mul_add_one] at apart
    omega

/-! ## Numbers of few bits -/

/-- Whether a number has no more leading bits than are kept, zeros behind them apart. -/
def IsShort (number : Nat) : Prop :=
  ∃ leading places : Nat, leading < 2 ^ precision ∧ number = leading * 2 ^ places

/-- The leading bits may also have been rounded up to one bit more. -/
theorem isShort_of_le {leading : Nat} (le : leading ≤ 2 ^ precision) (places : Nat) :
    IsShort (leading * 2 ^ places) := by
  rcases Nat.lt_or_eq_of_le le with less | rfl
  · exact ⟨leading, places, less, rfl⟩
  · refine ⟨2 ^ (precision - 1), places + 1, by decide, ?_⟩
    rw [← Nat.pow_add, ← Nat.pow_add]
    congr 1
    have kept : precision = 53 := rfl
    omega

def shorten (number : Nat) : Nat :=
  roundAt (number.log2 + 1 - precision) number

theorem isShort_shorten (number : Nat) : IsShort (shorten number) := by
  let places := number.log2 + 1 - precision
  have bits : number < 2 ^ precision * 2 ^ places := by
    rw [← Nat.pow_add]
    apply Nat.lt_of_lt_of_le Nat.lt_log2_self
    exact Nat.pow_le_pow_right (by decide) (by omega)
  have quotient : number / 2 ^ places < 2 ^ precision :=
    (Nat.div_lt_iff_lt_mul (Nat.two_pow_pos places)).mpr bits
  apply isShort_of_le
  dsimp only [Nat.pow_eq]
  split
  · exact quotient
  · exact Nat.le_of_lt quotient

/-- No other number of few bits is nearer. -/
theorem dist_shorten_le {other : Nat} (short : IsShort other) (number : Nat) :
    Nat.dist number (shorten number) ≤ Nat.dist number other := by
  rcases short with ⟨leading, places, few, rfl⟩
  rcases Nat.lt_or_ge places (number.log2 + 1 - precision) with fewer | enough
  · -- then it is below the leading bit of the number, which is a multiple of the unit
    have kept : precision = 53 := rfl
    have leadingBit : 2 ^ number.log2 ≤ number := by
      apply Nat.log2_self_le
      rintro rfl
      rw [Nat.log2_zero] at fewer
      omega
    have below : leading * 2 ^ places ≤ 2 ^ number.log2 := by
      calc
        leading * 2 ^ places ≤ 2 ^ precision * 2 ^ places :=
          Nat.mul_le_mul_right _ (Nat.le_of_lt few)
        _ = 2 ^ (precision + places) := (Nat.pow_add ..).symm
        _ ≤ 2 ^ number.log2 := Nat.pow_le_pow_right (by decide) (by omega)
    have multiple : 2 ^ (number.log2 + 1 - precision) ∣ 2 ^ number.log2 :=
      Nat.pow_dvd_pow 2 (by omega)
    apply Nat.le_trans (dist_roundAt_le multiple number)
    unfold Nat.dist
    omega
  · exact dist_roundAt_le ((Nat.pow_dvd_pow 2 enough).trans (Nat.dvd_mul_left _ _)) number

theorem shorten_eq_self {number : Nat} (short : IsShort number) : shorten number = number := by
  have near := dist_shorten_le short number
  rw [Nat.dist_self] at near
  exact (Nat.eq_of_dist_eq_zero (Nat.le_zero.mp near)).symm

theorem shorten_mono {first second : Nat} (le : first ≤ second) :
    shorten first ≤ shorten second := by
  have lower := dist_shorten_le (isShort_shorten second) first
  have upper := dist_shorten_le (isShort_shorten first) second
  rcases Nat.lt_or_eq_of_le le with less | rfl
  · unfold Nat.dist at lower upper
    omega
  · exact Nat.le_refl _

/-! ## Magnitudes -/

def weight (number : Nat) : Nat :=
  (roundMagnitude number).getD overflow

theorem weight_eq_min (number : Nat) : weight number = min (shorten number) overflow := by
  unfold weight roundMagnitude shorten
  dsimp only
  split
  case isTrue finite => rw [Option.getD_some, Nat.min_eq_left (Nat.le_of_lt finite)]
  case isFalse infinite => rw [Option.getD_none, Nat.min_eq_right (Nat.le_of_not_lt infinite)]

theorem weight_mono {first second : Nat} (le : first ≤ second) :
    weight first ≤ weight second := by
  rw [weight_eq_min, weight_eq_min]
  exact min_le_min_right overflow (shorten_mono le)

/-- Numbers of as many bits as are kept, and the next one, are not rounded. -/
theorem weight_eq_self {number : Nat} (le : number ≤ 2 ^ precision) :
    weight number = number := by
  have short : IsShort number := Nat.mul_one number ▸ isShort_of_le le 0
  have finite : 2 ^ precision ≤ overflow := by decide +kernel
  rw [weight_eq_min, shorten_eq_self short, Nat.min_eq_left (le.trans finite)]

/-! ## Signed numbers -/

def signed (negative : Bool) (number : Nat) : Int :=
  if negative then -number else number

theorem natAbs_signed (negative : Bool) (number : Nat) :
    (signed negative number).natAbs = number := by
  cases negative
  · rfl
  · exact Int.natAbs_neg number

theorem rank_ofNat (negative : Bool) (number : Nat) :
    (ofNat negative number).rank = signed negative (weight number) := by
  rw [rank, ofNat, weight, signed]

/-- Rounding may make two integers equal, but does not invert their order. -/
theorem rank_mono {left right : Bool} {first second : Nat}
    (le : signed left first ≤ signed right second) :
    (ofNat left first).rank ≤ (ofNat right second).rank := by
  have zero : weight 0 = 0 := weight_eq_self (Nat.zero_le _)
  rw [rank_ofNat, rank_ofNat]
  unfold signed at le ⊢
  cases left <;> cases right <;> simp only [Bool.false_eq_true, if_true, if_false] at le ⊢
  case false.false =>
    have weights : weight first ≤ weight second := weight_mono (by omega)
    omega
  case false.true =>
    -- only zero is both at least zero and at most zero
    have none : first = 0 ∧ second = 0 := by omega
    rw [none.1, none.2, zero]
    omega
  case true.false => omega
  case true.true =>
    have weights : weight second ≤ weight first := weight_mono (by omega)
    omega

theorem rank_eq_signed {number : Nat} (le : number ≤ 2 ^ precision) (negative : Bool) :
    (ofNat negative number).rank = signed negative number := by
  rw [rank_ofNat, weight_eq_self le]

end PagedTable.Rounded
