import PagedTable.Number.Rounded
import PagedTable.Text.Digit
import PagedTable.Document.Value

/-! # Plain values

Numbers, dates, times and quoted texts of a settings document. A reader takes
the front of a text and gives what it has read together with the rest, or
nothing when the front is not what it reads. -/

namespace PagedTable.Document

open Text

abbrev Reader (α : Type) := List Char → Option (α × List Char)

def readWord (word : String) : Reader Unit := fun chars =>
  if word.toList.isPrefixOf chars then some ((), chars.drop word.length) else none

def skipSpaces (chars : List Char) : List Char :=
  chars.dropWhile fun char => char = ' ' ∨ char = '\t'

/-! ## Characters -/

/-- The characters that may stand in a comment or a quoted text: all but the
control characters, the tab excepted. -/
def isShown (char : Char) : Bool :=
  char = '\t' || (0x20 ≤ char.toNat && char.toNat ≠ 0x7f)

def hexValue? (char : Char) : Option Nat :=
  if char.isDigit then some (char.toNat - '0'.toNat)
  else if 'a' ≤ char ∧ char ≤ 'f' then some (char.toNat - 'a'.toNat + 10)
  else if 'A' ≤ char ∧ char ≤ 'F' then some (char.toNat - 'A'.toNat + 10)
  else none

def baseDigit? (base : Nat) (char : Char) : Option Nat :=
  (hexValue? char).filter (· < base)

def numberOf (base : Nat) (digits : List Nat) : Nat :=
  digits.foldl (base * · + ·) 0

/-! ## Digits -/

def readDigits (base : Nat) : Reader (List Nat)
  | [] => none
  | first :: '_' :: rest =>
    (baseDigit? base first).bind fun digit =>
      (readDigits base rest).map fun read => (digit :: read.1, read.2)
  | first :: rest =>
    (baseDigit? base first).map fun digit =>
      match readDigits base rest with
      | some read => (digit :: read.1, read.2)
      | none => ([digit], rest)

def readExactly (count : Nat) : Reader Nat := fun chars =>
  let digits := chars.take count
  if digits.length = count then (readDigits? digits).map fun number => (number, chars.drop count)
  else none

def readPair (low high : Nat) : Reader Nat := fun chars =>
  (readExactly 2 chars).filter fun read => low ≤ read.1 ∧ read.1 ≤ high

/-- Reads a sign, which may be missing; true stands for minus. -/
def readSign : List Char → Bool × List Char
  | '-' :: rest => (true, rest)
  | '+' :: rest => (false, rest)
  | chars => (false, chars)

/-! ## Numbers -/

/-- Reads the digits of a decimal number, which starts with a zero only when
that is all of it. -/
def readWhole : Reader (List Nat)
  | '0' :: rest => some ([0], rest)
  | chars => readDigits 10 chars

def inRange (value : Int) : Bool :=
  -0x8000000000000000 ≤ value ∧ value < 0x8000000000000000

def readDecimal : Reader Value := fun chars =>
  let (negative, rest) := readSign chars
  (readWhole rest).bind fun (digits, rest) =>
    let number : Int := numberOf 10 digits
    let value := if negative then -number else number
    if inRange value then some (.integer value, rest) else none

def readBased (mark : String) (base : Nat) : Reader Value := fun chars => do
  let (_, rest) ← readWord mark chars
  let (digits, rest) ← readDigits base rest
  let value : Int := numberOf base digits
  if inRange value then some (.integer value, rest) else none

def readInteger : Reader Value := fun chars =>
  if (readWord "0x" chars).isSome then readBased "0x" 16 chars
  else if (readWord "0o" chars).isSome then readBased "0o" 8 chars
  else if (readWord "0b" chars).isSome then readBased "0b" 2 chars
  else readDecimal chars

def readAfter {α : Type} (marks : List Char) (read : Reader α) : List Char →
    Option (Option α × List Char)
  | [] => some (none, [])
  | char :: rest =>
    if char ∈ marks then (read rest).map fun result => (some result.1, result.2)
    else some (none, char :: rest)

def readPower : Reader Int := fun chars =>
  let (negative, rest) := readSign chars
  (readDigits 10 rest).map fun (digits, rest) =>
    let number : Int := numberOf 10 digits
    (if negative then -number else number, rest)

/-- Whether digits with the point after some of them, times a power of ten, are
too large for a floating point number of 64 bits. -/
def overflows (whole fraction : List Nat) (power : Int) : Bool :=
  let significant := (whole ++ fraction).dropWhile (· = 0)
  let shift := power - fraction.length
  -- the number lies between ten to the power one below this, and to this power
  let magnitude := (significant.length : Int) + shift
  if significant.isEmpty ∨ magnitude ≤ 300 then false
  else if 400 < magnitude then true
  else
    let number := numberOf 10 significant
    -- halfway between the largest finite number and the next power of two
    let limit := Nat.pow 2 1024 - Nat.pow 2 970
    if 0 ≤ shift then limit ≤ number * Nat.pow 10 shift.toNat
    else limit * Nat.pow 10 (-shift).toNat ≤ number

def readFraction : Reader Value := fun chars => do
  let (negative, rest) := readSign chars
  let (whole, afterWhole) ← readWhole rest
  let (fraction, afterFraction) ← readAfter ['.'] (readDigits 10) afterWhole
  let (power, rest) ← readAfter ['e', 'E'] readPower afterFraction
  if fraction.isNone ∧ power.isNone then none
  else if !negative ∧ overflows whole (fraction.getD []) (power.getD 0) then none
  else some (.float, rest)

def readSpecial : Reader Value := fun chars =>
  let (_, rest) := readSign chars
  ((readWord "inf" rest).or (readWord "nan" rest)).map fun read => (.float, read.2)

/-! ## Dates and times -/

def isLeapYear (year : Nat) : Bool :=
  year % 4 = 0 && (year % 100 ≠ 0 || year % 400 = 0)

def daysOf (year month : Nat) : Nat :=
  if month = 2 then (if isLeapYear year then 29 else 28)
  else if month ∈ [4, 6, 9, 11] then 30
  else 31

def readDate : Reader Unit := fun chars => do
  let (year, rest) ← readExactly 4 chars
  let (_, rest) ← readWord "-" rest
  let (month, rest) ← readPair 1 12 rest
  let (_, rest) ← readWord "-" rest
  let (_, rest) ← readPair 1 (daysOf year month) rest
  return ((), rest)

def readTime : Reader Unit := fun chars => do
  let (_, rest) ← readPair 0 23 chars
  let (_, rest) ← readWord ":" rest
  let (_, rest) ← readPair 0 59 rest
  let (_, rest) ← readWord ":" rest
  let (_, rest) ← readPair 0 60 rest
  match rest with
  | '.' :: more =>
    let digits := more.takeWhile Char.isDigit
    if digits.isEmpty then return ((), rest) else return ((), more.drop digits.length)
  | _ => return ((), rest)

def readOffset : Reader Unit := fun chars =>
  match chars with
  | 'Z' :: rest => some ((), rest)
  | 'z' :: rest => some ((), rest)
  | sign :: rest =>
    if sign = '+' ∨ sign = '-' then do
      let (_, rest) ← readPair 0 23 rest
      let (_, rest) ← readWord ":" rest
      let (_, rest) ← readPair 0 59 rest
      return ((), rest)
    else none
  | [] => none

def skipOptional (read : Reader Unit) (chars : List Char) : List Char :=
  ((read chars).map (·.2)).getD chars

def readTimeAfterDate : Reader Unit
  | mark :: rest =>
    if mark = 'T' ∨ mark = 't' ∨ mark = ' ' then
      (readTime rest).map fun read => ((), skipOptional readOffset read.2)
    else none
  | [] => none

def readMoment : Reader Value := fun chars =>
  match readDate chars with
  | some (_, rest) => some (.moment, skipOptional readTimeAfterDate rest)
  | none => (readTime chars).map fun read => (.moment, read.2)

def readNumeric : Reader Value := fun chars =>
  (readMoment chars).or ((readFraction chars).or ((readSpecial chars).or (readInteger chars)))

/-! ## Quoted texts -/

def readCode (count : Nat) : Reader Char := fun chars =>
  let digits := chars.take count
  if digits.length < count then none
  else (digits.mapM hexValue?).bind fun values =>
    let code := numberOf 16 values
    if code.isValidChar then some (Char.ofNat code, chars.drop count) else none

def readEscape : Reader Char
  | 'b' :: rest => some ('\x08', rest)
  | 'f' :: rest => some ('\x0c', rest)
  | 'n' :: rest => some ('\n', rest)
  | 'r' :: rest => some ('\r', rest)
  | 't' :: rest => some ('\t', rest)
  | '"' :: rest => some ('"', rest)
  | '\\' :: rest => some ('\\', rest)
  | 'u' :: rest => readCode 4 rest
  | 'U' :: rest => readCode 8 rest
  | _ => none

structure QuoteStyle where
  mark : Char
  escapes : Bool
  /-- The text may go on over several lines, between triple marks. -/
  lines : Bool

/-- A backslash at the end of a line swallows the line's end and all blanks
after it. -/
def foldLine? (chars : List Char) : Option (List Char) :=
  match skipSpaces chars with
  | '\n' :: rest => some (dropBlankLines rest)
  | '\r' :: '\n' :: rest => some (dropBlankLines rest)
  | _ => none
where
  dropBlankLines : List Char → List Char
    | '\r' :: '\n' :: rest => dropBlankLines rest
    | char :: rest =>
      if char = ' ' ∨ char = '\t' ∨ char = '\n' then dropBlankLines rest else char :: rest
    | [] => []

/-- The end of a text between triple marks: up to two more marks in front of
the closing ones belong to the text. -/
def closeLines? (mark : Char) (chars : List Char) : Option (List Char × List Char) :=
  let marks := (chars.take 5).takeWhile (· = mark)
  if marks.length < 3 then none
  else some (List.replicate (marks.length - 3) mark, chars.drop marks.length)

/-- Reads the inside of a quoted text up to its closing mark. The fuel bounds
the number of steps; each takes at least one character. -/
def readInside (style : QuoteStyle) : Nat → Reader (List Char)
  | 0, _ => none
  | _, [] => none
  | fuel + 1, char :: rest =>
    let goOn (text : List Char) (rest : List Char) : Option (List Char × List Char) :=
      (readInside style fuel rest).map fun read => (text ++ read.1, read.2)
    if char = style.mark then
      if style.lines then
        match closeLines? style.mark (char :: rest) with
        | some closed => some closed
        | none => goOn [char] rest
      else some ([], rest)
    else if char = '\\' ∧ style.escapes then
      match if style.lines then foldLine? rest else none with
      | some rest => goOn [] rest
      | none => (readEscape rest).bind fun read => goOn [read.1] read.2
    else if isShown char then goOn [char] rest
    else if !style.lines then none
    else if char = '\n' then goOn ['\n'] rest
    else match char, rest with
      | '\r', '\n' :: rest => goOn ['\n'] rest
      | _, _ => none

def readQuoted (style : QuoteStyle) : Reader String := fun chars =>
  (readInside style (chars.length + 1) chars).map fun read => (String.ofList read.1, read.2)

def dropFirstEnd : List Char → List Char
  | '\n' :: rest => rest
  | '\r' :: '\n' :: rest => rest
  | chars => chars

def readLineText : Reader String
  | '"' :: rest => readQuoted ⟨'"', true, false⟩ rest
  | '\'' :: rest => readQuoted ⟨'\'', false, false⟩ rest
  | _ => none

def readText : Reader String
  | '"' :: '"' :: '"' :: rest => readQuoted ⟨'"', true, true⟩ (dropFirstEnd rest)
  | '\'' :: '\'' :: '\'' :: rest => readQuoted ⟨'\'', false, true⟩ (dropFirstEnd rest)
  | chars => readLineText chars

end PagedTable.Document
