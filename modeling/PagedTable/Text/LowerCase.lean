import PagedTable.Text.Case

/-! # Lower case

Texts are compared after lower-casing. A character has a lower case of its own,
with two exceptions: the capital i with a dot becomes two characters, and the
lower case of the capital sigma depends on where in a word it stands. -/

namespace PagedTable.Text

def lowerChar (char : Char) : List Char :=
  if char.toNat < 0x80 then [char.toLower]
  else if char = 'İ' then ['i', '\u0307']
  else match caseRuns.find? (·.holds char.toNat) with
    | some run => [Char.ofNat (run.shift char.toNat)]
    | none => [char]

/-- Whether a character with case comes next, case-ignorable ones passed over. -/
def startsCased (chars : List Char) : Bool :=
  (chars.dropWhile isCaseIgnorable).head?.any isCased

/-- The lower case of a capital sigma between two texts, the one before it
given with its nearest character first. A sigma that ends a word has a form of
its own. -/
def lowerSigma (before after : List Char) : Char :=
  if startsCased before && !startsCased after then 'ς' else 'σ'

/-- Lower-cases what follows the characters `before`, which are given with the
nearest first. -/
def lowerAfter (before : List Char) : List Char → List Char
  | [] => []
  | char :: rest =>
    (if char = 'Σ' then [lowerSigma before rest] else lowerChar char) ++
      lowerAfter (char :: before) rest

def lowerChars (chars : List Char) : List Char :=
  lowerAfter [] chars

def lower (text : String) : String :=
  String.ofList (lowerChars text.toList)

example : lowerChars "Size".toList = "size".toList := by decide

example : lowerChars "ΑΣ ΣΑ".toList = "ας σα".toList := by decide +kernel

end PagedTable.Text
