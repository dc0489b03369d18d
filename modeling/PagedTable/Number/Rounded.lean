/-! # Rounded integers

Integers of any length are compared after rounding to a floating point number
of 64 bits: 53 significant bits, halves to the even neighbour, and an overflow
to infinity from 2 ^ 1024 on. Every result is again an integer or an infinity,
and zero keeps its sign. -/

namespace PagedTable

/-- A sign and a rounded magnitude; a missing magnitude is infinite. -/
structure Rounded where
  negative : Bool
  magnitude : Option Nat
deriving DecidableEq, Repr

namespace Rounded

/-- The number of bits of a magnitude that are kept. -/
def precision : Nat := 53

/-- The least magnitude that counts as infinite. -/
def overflow : Nat := Nat.pow 2 1024

/-- The multiple of `2 ^ places` nearest to a number, halves to the multiple
that is even. -/
def roundAt (places number : Nat) : Nat :=
  let unit := Nat.pow 2 places
  let quotient := number / unit
  let rest := 2 * (number % unit)
  let up := unit < rest || (unit = rest && quotient % 2 = 1)
  (quotient + if up then 1 else 0) * unit

def roundMagnitude (number : Nat) : Option Nat :=
  let rounded := roundAt (number.log2 + 1 - precision) number
  if rounded < overflow then some rounded else none

def ofNat (negative : Bool) (number : Nat) : Rounded :=
  ⟨negative, roundMagnitude number⟩

/-- An integer by which rounded numbers are compared: an infinite magnitude
ranks above every finite one, and the two zeros rank alike. -/
def rank (number : Rounded) : Int :=
  let size : Int := number.magnitude.getD overflow
  if number.negative then -size else size

/-- The 64 bits of the number: sign, exponent, and the bits after the first. -/
def toBits (number : Rounded) : Nat :=
  let sign := if number.negative then Nat.pow 2 63 else 0
  let size :=
    match number.magnitude with
    | none => 0x7ff * Nat.pow 2 52
    | some 0 => 0
    | some size => (size.log2 + 1022) * Nat.pow 2 52 + size * Nat.pow 2 52 / Nat.pow 2 size.log2
  sign + size

example : (ofNat false 150).toBits = 0x4062c00000000000 := by decide +kernel

example : ofNat true (2 ^ 53 + 1) = ⟨true, some (2 ^ 53)⟩ := by decide +kernel

example : ofNat false (2 ^ 1024 - 1) = ⟨false, none⟩ := by decide +kernel

end Rounded

end PagedTable
