import PagedTable.Settings.Basic
import PagedTable.Source.Delimited
import PagedTable.Source.File
import PagedTable.Text.Digit

/-! # Loading

The first row of a file names the columns, and every further row becomes a
record. Rows may be longer or shorter than the first; what is missing is empty,
what is in excess is dropped. A row whose identifier an earlier row has already
is left out. Both are told of in a warning. -/

namespace PagedTable

open Text

inductive Warning where
  | noIdColumn (name : String)
  /-- A row, counted from one, repeats an identifier. -/
  | duplicateId (id : RecordId) (row : Nat)
  /-- So many rows are shorter than the header. -/
  | padded (rows : Nat)
deriving DecidableEq, Repr

def Warning.message : Warning → String
  | .noIdColumn name => "No id column '" ++ name ++ "', numbering rows"
  | .duplicateId id row => "Duplicate id " ++ id.display ++ " on row " ++ toString row
  | .padded rows => "Padded " ++ toString rows ++ " short row(s) with empty cells"

structure Loaded where
  headers : List String
  records : List Record
  warnings : List Warning
deriving DecidableEq, Repr

/-- The integer a text is, if it is one of 64 bits: perhaps a sign, then ASCII
digits only. -/
def readInteger? (text : String) : Option Int :=
  let negative := text.toList.head? = some '-'
  let digits :=
    if negative ∨ text.toList.head? = some '+' then text.toList.drop 1 else text.toList
  if digits.isEmpty then none
  else (readDigits? digits).bind fun number =>
    let value : Int := if negative then -number else number
    if -0x8000000000000000 ≤ value ∧ value < 0x8000000000000000 then some value else none

def RecordId.ofText (text : String) : RecordId :=
  match readInteger? text with
  | some value => .number value
  | none => .name text

namespace Loaded

def idPlace? (settings : Settings) (headers : List String) : Option Nat :=
  settings.idColumn.bind headers.idxOf?

/-- The identifier of a row, given the rows before it: its field in the id
column, and its number where it has no such field. -/
def idOf (settings : Settings) (headers : List String) (before : Nat) (row : List String) :
    RecordId :=
  match (idPlace? settings headers).bind (row[·]?) with
  | some text => .ofText text
  | none => .number (before + 1)

def searched (settings : Settings) (headers : List String) : List String :=
  match settings.defaultFields.filter (· ∈ headers) with
  | [] => headers
  | names => names

def recordOf (settings : Settings) (headers : List String) (id : RecordId) (row : List String) :
    Record :=
  { id
    contents := .ofEntries (headers.mapIdx fun place name => (name, row.getD place ""))
      (searched settings headers) }

def addRow (settings : Settings) (headers : List String) (loaded : Loaded)
    (entry : List String × Nat) : Loaded :=
  let id := idOf settings headers entry.2 entry.1
  if id ∈ loaded.records.map Record.id then
    { loaded with warnings := loaded.warnings ++ [.duplicateId id (entry.2 + 1)] }
  else { loaded with records := loaded.records ++ [recordOf settings headers id entry.1] }

def idWarnings (settings : Settings) (headers : List String) : List Warning :=
  match settings.idColumn with
  | some name => if name ∈ headers then [] else [.noIdColumn name]
  | none => []

def ofRows (settings : Settings) (headers : List String) (rows : List (List String)) : Loaded :=
  let loaded :=
    rows.zipIdx.foldl (addRow settings headers) ⟨headers, [], idWarnings settings headers⟩
  let short := rows.countP fun row => row.length < headers.length
  if 0 < short then { loaded with warnings := loaded.warnings ++ [.padded short] } else loaded

end Loaded

/-! ## Texts of fields -/

/-- Whether a byte is one of the blanks that are dropped before a field is
read as text. -/
def isBlankByte (byte : UInt8) : Bool :=
  byte = 0x20 || byte = 0x09 || byte = 0x0a || byte = 0x0c || byte = 0x0d

def trimBlankBytes (bytes : Delimited.Field) : Delimited.Field :=
  ((bytes.dropWhile isBlankByte).reverse.dropWhile isBlankByte).reverse

def readTexts (number : Nat) (row : Delimited.FieldRow) : Except ReadError (List String) :=
  row.fields.zipIdx.mapM fun (bytes, field) =>
    match decodeText? bytes with
    | some text => .ok text
    | none =>
      .error (.unreadable ⟨number, row.start.line, row.start.byte, field, readableLength bytes⟩)

def readTrimmed (entry : Delimited.FieldRow × Nat) : Except ReadError (List String) :=
  let row := { entry.1 with fields := entry.1.fields.map trimBlankBytes }
  (readTexts entry.2 row).map fun texts =>
    texts.map fun text => String.ofList (trimBlanks text.toList)

def Source.load (source : Source) (settings : Settings) (file : Option File) :
    Except ReadError Loaded :=
  match file with
  | none => .error .missing
  | some file => do
    let rows := Delimited.rows source.delimiter file.bytes
    let headers ← (rows.head?.map (readTexts 0)).getD (.ok [])
    let texts ← (rows.zipIdx.drop 1).mapM readTrimmed
    return Loaded.ofRows settings headers texts

end PagedTable
