import PagedTable.Screen.Glyph
import PagedTable.Screen.Style
import PagedTable.Text.Blank

/-! # Lines of the screen

A line is a row of columns, each with a text and a style. A glyph stands in the
first of its columns. When a line is looked at, the text of a column covers as
many columns as its display width says. -/

namespace PagedTable

open Text

structure Column where
  text : String := " "
  style : Style := {}
deriving DecidableEq, Repr

abbrev Line := List Column

namespace Line

/-! ## Drawing -/

def filled (width : Nat) (text : String) : Line :=
  List.replicate width { text }

def blank (width : Nat) : Line :=
  filled width " "

def paint (start stop : Nat) (style : Style) (line : Line) : Line :=
  line.mapIdx fun place column =>
    if start ≤ place ∧ place < stop then { column with style := style.onto column.style }
    else column

/-- Puts a glyph at a place, and clears the other columns it takes. Even one
that takes no room replaces the text at its place. -/
def put (start : Nat) (glyph : Glyph) (line : Line) : Line :=
  line.mapIdx fun place column =>
    if place = start then { column with text := glyph.text }
    else if start < place ∧ place < start + glyph.width then {}
    else column

def putAll (limit : Nat) : List Glyph → Nat → Line → Line
  | [], _, line => line
  | glyph :: rest, start, line =>
    if limit < start + glyph.width then line
    else putAll limit rest (start + glyph.width) (line.put start glyph)

def putText (limit start : Nat) (text : String) (line : Line) : Line :=
  if placedWidth text = 0 then line else line.putAll limit (Glyph.ofText text) start

structure Piece where
  text : String
  style : Style := {}
deriving DecidableEq, Repr

/-- The glyphs of pieces, each in the style of its piece. What takes no room is
left out, and so is a glyph wider than the line. -/
def styledGlyphs (width : Nat) (pieces : List Piece) : List (Glyph × Style) :=
  pieces.flatMap fun piece =>
    ((Glyph.visible piece.text).filter (·.width ≤ width)).map (·, piece.style)

/-- Writes glyphs side by side from a place on, up to the first that does not
fit. The other columns of a glyph stay as they are. -/
def writeFrom : Nat → List (Glyph × Style) → Line → Line
  | _, [], line => line
  | start, (glyph, style) :: rest, line =>
    if line.length < start + glyph.width then line
    else writeFrom (start + glyph.width) rest
      ((line.put start { glyph with width := 1 }).paint start (start + 1) style)

def write (pieces : List Piece) (line : Line) : Line :=
  writeFrom 0 (styledGlyphs line.length pieces) line

/-! ## Looking at a line -/

def seenUnder (style : Style) : Nat → Line → Line
  | _, [] => []
  | covered + 1, _ :: rest => ⟨"", style⟩ :: seenUnder style covered rest
  | 0, column :: rest =>
    column :: seenUnder column.style (displayWidth column.text.toList - 1) rest

/-- What is seen of a line: a column covered by the glyph before it shows no
text of its own, and the style of that glyph. -/
def seen (line : Line) : Line :=
  seenUnder {} 0 line

def text (line : Line) : String :=
  let chars := (line.seen.flatMap (·.text.toList)).reverse.dropWhile isBlank
  String.ofList chars.reverse

structure Run where
  start : Nat
  length : Nat
  style : Style
deriving DecidableEq, Repr

def extendRuns (place : Nat) (style : Style) : List Run → List Run
  | run :: rest =>
    if run.style = style then ⟨place, run.length + 1, style⟩ :: rest
    else ⟨place, 1, style⟩ :: run :: rest
  | [] => [⟨place, 1, style⟩]

def runs (line : Line) : List Run :=
  line.seen.zipIdx.foldr (fun entry runs => extendRuns entry.2 entry.1.style runs) []

def styledRuns (line : Line) : List Run :=
  line.runs.filter (·.style ≠ {})

example : ((blank 3).write [⟨"a", { bold := true }⟩, ⟨"日本", {}⟩]).text = "a日" := by
  decide +kernel

end Line

end PagedTable
