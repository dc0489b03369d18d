import Mathlib.Algebra.Group.Nat.Defs

/-! # Machine words

A word of so many bits holds the numbers below a power of two, and a signed one the
integers of half that range on either side of zero. Arithmetic in words is that of all
numbers as long as its results fit: a sum or a product that no word holds is none, and
so is a difference below zero. -/

namespace PagedTable.Machine

def fit? (bits value : Nat) : Option Nat :=
  if value < 2 ^ bits then some value else none

def add? (bits first second : Nat) : Option Nat :=
  fit? bits (first + second)

def mul? (bits first second : Nat) : Option Nat :=
  fit? bits (first * second)

def sub? (first second : Nat) : Option Nat :=
  if second ≤ first then some (first - second) else none

/-- A quotient, rounded up by adding one to it. -/
def divCeil? (bits first second : Nat) : Option Nat :=
  if first % second = 0 then some (first / second) else add? bits (first / second) 1

example : add? 8 200 55 = some 255 ∧ add? 8 200 56 = none ∧ sub? 3 4 = none := by decide

variable {bits first second : Nat}

theorem fit?_eq_some {value : Nat} (fits : value < 2 ^ bits) : fit? bits value = some value :=
  if_pos fits

theorem add?_eq_some (fits : first + second < 2 ^ bits) :
    add? bits first second = some (first + second) :=
  fit?_eq_some fits

theorem mul?_eq_some (fits : first * second < 2 ^ bits) :
    mul? bits first second = some (first * second) :=
  fit?_eq_some fits

theorem sub?_eq_some (ordered : second ≤ first) : sub? first second = some (first - second) :=
  if_pos ordered

theorem divCeil?_eq_some (positive : 0 < second) (fits : first + 1 < 2 ^ bits) :
    divCeil? bits first second = some ((first + (second - 1)) / second) := by
  have whole := Nat.div_add_mod first second
  have rest := Nat.mod_lt first positive
  have smaller := Nat.div_le_self first second
  unfold divCeil?
  split
  case isTrue exact =>
    congr 1
    symm
    apply Nat.div_eq_of_lt_le
    · rw [Nat.mul_comm]
      omega
    · rw [Nat.succ_mul, Nat.mul_comm]
      omega
  case isFalse inexact =>
    rw [add?_eq_some (by omega)]
    congr 1
    symm
    apply Nat.div_eq_of_lt_le
    · rw [Nat.succ_mul, Nat.mul_comm]
      omega
    · rw [Nat.succ_mul, Nat.succ_mul, Nat.mul_comm]
      omega

/-! ## Signed words -/

def fitSigned? (bits : Nat) (value : Int) : Option Int :=
  if -(2 ^ (bits - 1) : Nat) ≤ value ∧ value < (2 ^ (bits - 1) : Nat) then some value else none

def distance? (bits : Nat) (first second : Int) : Option Nat := do
  let apart ← fitSigned? bits (first - second)
  let distance ← fitSigned? bits apart.natAbs
  some distance.toNat

example : fitSigned? 8 (-128) = some (-128) ∧ distance? 8 (-128) 0 = none := by decide

/-- So small that three such integers add up in a signed word of 32 bits. -/
def IsSmall (value : Int) : Prop :=
  value.natAbs ≤ 2 ^ 29

instance (value : Int) : Decidable (IsSmall value) :=
  inferInstanceAs (Decidable (_ ≤ _))

theorem fitSigned?_eq_some {value : Int} (fits : value.natAbs < 2 ^ (bits - 1)) :
    fitSigned? bits value = some value := by
  have bound : ((2 ^ (bits - 1) : Nat) : Int) = 2 ^ (bits - 1) := Int.natCast_pow 2 _
  exact if_pos (by omega)

theorem distance?_eq_some {first second : Int} (fits : (first - second).natAbs < 2 ^ (bits - 1)) :
    distance? bits first second = some (first - second).natAbs := by
  rw [distance?, fitSigned?_eq_some fits, Option.bind_eq_bind, Option.bind_some,
    fitSigned?_eq_some (by rwa [Int.natAbs_natCast]), Option.bind_some, Int.toNat_natCast]

end PagedTable.Machine
