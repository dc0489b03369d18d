import PagedTable.Text.BreakClass

/-! # Clusters

A cluster is a run of characters that is read as one sign: a letter with its
marks, the letters of a Hangul syllable, two regional indicators, emoji drawn
together. A text is split where neither the classes of two neighbours nor what
the cluster has held so far keep them together. -/

namespace PagedTable.Text

/-- How far a cluster has come in joining one pictograph to another. -/
inductive PictureState where
  | none
  | picture
  /-- A pictograph, and a joiner behind it. -/
  | joined
deriving DecidableEq, Repr

inductive ConsonantState where
  | none
  | consonant
  /-- A consonant, and a linker somewhere behind it. -/
  | linked
deriving DecidableEq, Repr

/-- What the characters of a cluster are to the character after them. -/
structure Seam where
  last : BreakClass
  picture : PictureState := .none
  consonant : ConsonantState := .none
  /-- Whether one regional indicator waits for a second. -/
  halfFlag : Bool := false
deriving DecidableEq, Repr

namespace Seam

def nonJoiner : Char := '\u200c'

def nextPicture (state : PictureState) : BreakClass → PictureState
  | .pictograph => .picture
  | .extender => if state = .picture then .picture else .none
  | .joiner => if state = .picture then .joined else .none
  | _ => .none

def nextConsonant (state : ConsonantState) (breakClass : BreakClass) (char : Char) :
    ConsonantState :=
  if consonantRanges.contain char then .consonant
  else if state = .none ∨ char = nonJoiner then .none
  else if linkerRanges.contain char then .linked
  else match breakClass with
    | .extender | .joiner => state
    | _ => .none

def push (seam : Seam) (char : Char) : Seam :=
  let breakClass := BreakClass.of char
  { last := breakClass
    picture := nextPicture seam.picture breakClass
    consonant := nextConsonant seam.consonant breakClass char
    halfFlag := breakClass = .regional && !seam.halfFlag }

def start (char : Char) : Seam :=
  push ⟨.other, .none, .none, false⟩ char

def joinsSyllable : BreakClass → BreakClass → Bool
  | .leading, .leading | .leading, .vowel | .leading, .openSyllable | .leading, .closedSyllable =>
    true
  | .openSyllable, .vowel | .openSyllable, .trailing => true
  | .vowel, .vowel | .vowel, .trailing => true
  | .closedSyllable, .trailing | .trailing, .trailing => true
  | _, _ => false

def joins (seam : Seam) (char : Char) : Bool :=
  match seam.last, BreakClass.of char with
  | .carriageReturn, .lineFeed => true
  | _, .extender | _, .joiner | _, .spacing => !seam.last.standsAlone
  | last, next =>
    !last.standsAlone && !next.standsAlone &&
      (joinsSyllable last next
        || last = .prepended
        || (seam.consonant = .linked && consonantRanges.contain char)
        || (seam.picture = .joined && next = .pictograph)
        || (seam.halfFlag && next = .regional))

end Seam

/-- The clusters of what follows the open cluster `current`, which has its last
character first. -/
def clustersAfter (seam : Seam) (current : List Char) : List Char → List (List Char)
  | [] => [current.reverse]
  | char :: rest =>
    if seam.joins char then clustersAfter (seam.push char) (char :: current) rest
    else current.reverse :: clustersAfter (.start char) [char] rest

def clusters : List Char → List (List Char)
  | [] => []
  | char :: rest => clustersAfter (.start char) [char] rest

example : clusters "e\u0301日".toList = ["e\u0301".toList, ['日']] := by decide +kernel

example : clusters "🇦🇧🇨".toList = ["🇦🇧".toList, "🇨".toList] := by decide +kernel

end PagedTable.Text
