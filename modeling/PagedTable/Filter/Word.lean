import PagedTable.Text.Blank

/-! # Words of a filter

A word runs until a blank, a parenthesis or a bar. Double quotes make it run on
through those characters: each quote turns this on or off, is no part of the
word itself, and an open one swallows the rest of the text. -/

namespace PagedTable.Filter

open Text

/-- A word with its quote characters removed, cut where the first of them
stood. Operators are only looked for in the bare part. -/
structure Word where
  bare : String
  quoted : Option String
deriving DecidableEq, Repr

namespace Word

def text (word : Word) : String :=
  word.bare ++ word.quoted.getD ""

/-- How many bytes of the text come before the first quote, if there is one. -/
def quotedFrom (word : Word) : Option Nat :=
  word.quoted.map fun _ => word.bare.utf8ByteSize

def splitBytes : Nat → List Char → List Char × List Char
  | _, [] => ([], [])
  | count, char :: rest =>
    if char.utf8Size ≤ count then
      let split := splitBytes (count - char.utf8Size) rest
      (char :: split.1, split.2)
    else ([], char :: rest)

def ofText (text : String) (quotedFrom : Option Nat) : Word :=
  match quotedFrom with
  | none => ⟨text, none⟩
  | some count =>
    let split := splitBytes count text.toList
    ⟨String.ofList split.1, some (String.ofList split.2)⟩

def isEnd (char : Char) : Bool :=
  isBlank char || char = '(' || char = ')' || char = '|'

/-- The rest of a word after a quote, and what follows the word. The flag says
whether a quote is open. -/
def scanQuoted (isOpen : Bool) : List Char → List Char × List Char
  | [] => ([], [])
  | char :: rest =>
    if char = '"' then scanQuoted (!isOpen) rest
    else if !isOpen && isEnd char then ([], char :: rest)
    else
      let scanned := scanQuoted isOpen rest
      (char :: scanned.1, scanned.2)

def scan : List Char → Word × List Char
  | [] => (⟨"", none⟩, [])
  | char :: rest =>
    if char = '"' then
      let scanned := scanQuoted true rest
      (⟨"", some (String.ofList scanned.1)⟩, scanned.2)
    else if isEnd char then (⟨"", none⟩, char :: rest)
    else
      let scanned := scan rest
      (⟨String.ofList (char :: scanned.1.bare.toList), scanned.1.quoted⟩, scanned.2)

example : scan "name:\"a b\" c".toList = (⟨"name:", some "a b"⟩, " c".toList) := by decide +kernel

theorem scanQuoted_length_le (isOpen : Bool) (chars : List Char) :
    (scanQuoted isOpen chars).2.length ≤ chars.length := by
  induction chars generalizing isOpen with
  | nil => simp [scanQuoted]
  | cons char rest induction =>
    have shorter := induction isOpen
    have flipped := induction (!isOpen)
    grind [scanQuoted]

theorem scan_length_le (chars : List Char) : (scan chars).2.length ≤ chars.length := by
  induction chars with
  | nil => simp [scan]
  | cons char rest induction =>
    have quoted := scanQuoted_length_le true rest
    grind [scan]

/-- A character that does not end a word is part of the word or opens a quote. -/
theorem scan_length_lt (char : Char) (rest : List Char) (inside : isEnd char = false) :
    (scan (char :: rest)).2.length < (char :: rest).length := by
  have quoted := scanQuoted_length_le true rest
  have scanned := scan_length_le rest
  grind [scan]

end Word

end PagedTable.Filter
