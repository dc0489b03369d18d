/-! # Decimal numbers

A text is a number when it is a sign, which may be missing, before digits with
at most one point among them and perhaps a power of ten. Infinity and the value
that is no number have names of their own, in letters of either case. -/

namespace PagedTable

def isDigits (chars : List Char) : Bool :=
  !chars.isEmpty && chars.all Char.isDigit

def dropSign : List Char → List Char
  | '+' :: rest => rest
  | '-' :: rest => rest
  | chars => chars

def afterMark? (isAtMark : Char → Bool) (chars : List Char) : Option (List Char) :=
  ((chars.dropWhile (!isAtMark ·)).head?).map fun _ => (chars.dropWhile (!isAtMark ·)).drop 1

/-- Digits with at most one point, which may stand first or last. -/
def isMantissa (chars : List Char) : Bool :=
  let whole := chars.takeWhile (· ≠ '.')
  let fraction := (chars.dropWhile (· ≠ '.')).drop 1
  (whole ++ fraction).all Char.isDigit && !(whole ++ fraction).isEmpty

def isPowerMark (char : Char) : Bool :=
  char = 'e' || char = 'E'

def isNumeric (chars : List Char) : Bool :=
  let unsigned := dropSign chars
  let name := String.ofList (unsigned.map Char.toLower)
  name = "inf" || name = "infinity" || name = "nan" ||
    isMantissa (unsigned.takeWhile (!isPowerMark ·)) &&
      (afterMark? isPowerMark unsigned).all fun power => isDigits (dropSign power)

example : ["1", "-1.5e+3", ".5", "5.", "+NaN", "1e5"].all (isNumeric ·.toList) := by
  decide +kernel

example : ["", ".", "-", "1e", "1.2.3", "0x1", " 1", "1_000"].all (!isNumeric ·.toList) := by
  decide +kernel

end PagedTable
