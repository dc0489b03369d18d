/-! # Delimited rows

A file of delimited text holds one row per line. A field that starts with a
quote runs to the closing quote, whatever stands in between; a quote inside it
is written twice. What follows the closing quote belongs to the field as it is.
Empty lines are no rows, and at the end of the file an open row ends. -/

namespace PagedTable.Delimited

abbrev Field := List UInt8

def quoteByte : UInt8 := 0x22

def isLineEnd (byte : UInt8) : Bool :=
  byte = 0x0a || byte = 0x0d

inductive Place where
  | row
  | field
  | plain
  | quoted
  /-- After a quote within quotes, which closes them unless it is doubled. -/
  | afterQuote
deriving DecidableEq, Repr

/-- A place in a file: the number of bytes before it, and its line, where a line
feed ends a line even within quotes. -/
structure Position where
  byte : Nat := 0
  line : Nat := 1
deriving DecidableEq, Repr

def Position.next (position : Position) (byte : UInt8) : Position :=
  { byte := position.byte + 1
    line := if byte = 0x0a then position.line + 1 else position.line }

structure FieldRow where
  start : Position
  fields : List Field
deriving DecidableEq, Repr

/-- What has been read: whole rows, whole fields of the current row, and the
bytes of the current field, each with the last one first. -/
structure Scan where
  place : Place := .row
  rows : List FieldRow := []
  fields : List Field := []
  bytes : Field := []
  start : Position := {}
  position : Position := {}

namespace Scan

def endField (scan : Scan) : Scan :=
  { scan with place := .field, fields := scan.bytes.reverse :: scan.fields, bytes := [] }

def endRow (scan : Scan) : Scan :=
  { rows := ⟨scan.start, (scan.bytes.reverse :: scan.fields).reverse⟩ :: scan.rows
    start := scan.position
    position := scan.position }

def keep (scan : Scan) (place : Place) (byte : UInt8) : Scan :=
  { scan with place, bytes := byte :: scan.bytes }

def readPlain (delimiter : UInt8) (scan : Scan) (byte : UInt8) : Scan :=
  if byte = delimiter then scan.endField
  else if isLineEnd byte then scan.endRow
  else scan.keep .plain byte

def readFirst (delimiter : UInt8) (scan : Scan) (byte : UInt8) : Scan :=
  if byte = quoteByte then { scan with place := .quoted } else scan.readPlain delimiter byte

def read (delimiter : UInt8) (scan : Scan) (byte : UInt8) : Scan :=
  let scan := { scan with position := scan.position.next byte }
  match scan.place with
  | .row => if isLineEnd byte then scan else scan.readFirst delimiter byte
  | .field => scan.readFirst delimiter byte
  | .plain => scan.readPlain delimiter byte
  | .quoted =>
    if byte = quoteByte then { scan with place := .afterQuote } else scan.keep .quoted byte
  | .afterQuote =>
    if byte = quoteByte then scan.keep .quoted byte else scan.readPlain delimiter byte

def finish (scan : Scan) : List FieldRow :=
  (if scan.place = .row then scan else scan.endRow).rows.reverse

end Scan

def byteOrderMark : List UInt8 := [0xef, 0xbb, 0xbf]

def dropMark (bytes : List UInt8) : List UInt8 :=
  if byteOrderMark.isPrefixOf bytes then bytes.drop byteOrderMark.length else bytes

/-- The rows of a file. The mark at its start counts among the bytes before all
rows but the first. -/
def rows (delimiter : UInt8) (bytes : List UInt8) : List FieldRow :=
  let text := dropMark bytes
  (text.foldl (Scan.read delimiter)
    { position := { byte := bytes.length - text.length } }).finish

example : (rows 0x2c "a,\"b\"\"c\"d\n\n,".toUTF8.data.toList).map FieldRow.fields =
    [["a".toUTF8.data.toList, "b\"cd".toUTF8.data.toList], [[], []]] := by
  decide +kernel

example : (rows 0x2c "a\r\nb".toUTF8.data.toList).map FieldRow.start = [⟨0, 1⟩, ⟨2, 1⟩] := by
  decide +kernel

end PagedTable.Delimited
