import PagedTable.Number.Rounded
import PagedTable.Text.Blank
import PagedTable.Text.Digit

/-! # Leading integers

Texts such as "150 MB" are compared by the integer they start with. -/

namespace PagedTable

open Text

def splitSign : List Char → Bool × List Char
  | '-' :: rest => (true, rest)
  | '+' :: rest => (false, rest)
  | chars => (false, chars)

/-- The rounded integer a text starts with: blanks, perhaps a sign, then as
many decimal digits as follow. There is none without digits, or when some digit
is not an ASCII one. -/
def leadingInteger? (chars : List Char) : Option Rounded :=
  let (negative, rest) := splitSign (chars.dropWhile isBlank)
  let digits := rest.takeWhile isDecimal
  if digits.isEmpty then none else (readDigits? digits).map (Rounded.ofNat negative)

example : leadingInteger? " -150 MB".toList = some ⟨true, some 150⟩ := by decide +kernel

end PagedTable
