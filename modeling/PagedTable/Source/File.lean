import PagedTable.Text.LowerCase

/-! # Files

A file is known by its path. What it holds, if it is there at all, is a list of
bytes; every time it is written it gets a new revision. -/

namespace PagedTable

open Text

structure TextFault where
  /-- The number of the row, which the header counts from zero. -/
  row : Nat
  /-- The line on which the row before it has ended. -/
  line : Nat
  /-- The number of bytes up to the end of the row before it. -/
  byte : Nat
  field : Nat
  readable : Nat
deriving DecidableEq, Repr

def TextFault.message (fault : TextFault) : String :=
  "CSV parse error: record " ++ toString fault.row ++ " (line " ++ toString fault.line ++
    ", field: " ++ toString fault.field ++ ", byte: " ++ toString fault.byte ++
    "): invalid utf-8: invalid UTF-8 in field " ++ toString fault.field ++
    " near byte index " ++ toString fault.readable

inductive ReadError where
  | missing
  | malformed
  | unreadable (fault : TextFault)
deriving DecidableEq, Repr

def ReadError.message : ReadError → String
  | .missing => "file not found"
  | .malformed => "invalid data"
  | .unreadable fault => fault.message

structure File where
  bytes : List UInt8
  revision : Nat
deriving DecidableEq, Repr

def decodeText? (bytes : List UInt8) : Option String :=
  String.fromUTF8? bytes.toByteArray

/-- The number of bytes at the start that are text in UTF-8, as many as can be. -/
def readableLength (bytes : List UInt8) : Nat :=
  ((List.range (bytes.length + 1)).reverse.find? fun length =>
    (decodeText? (bytes.take length)).isSome).getD 0

/-! ## Paths -/

def pathParts (path : String) : List String :=
  (path.splitOn "/").filter fun part => part ≠ "" ∧ part ≠ "."

/-- What follows the last dot of a name, unless the name starts with that dot. -/
def extensionOf? (name : String) : Option String :=
  let tail := name.toList.reverse.takeWhile (· ≠ '.')
  if tail.length + 1 < name.length then some (String.ofList tail.reverse) else none

def pathExtension? (path : String) : Option String :=
  (pathParts path).getLast?.bind fun name => if name = ".." then none else extensionOf? name

/-! ## Delimiters -/

def comma : UInt8 := 0x2c

def tab : UInt8 := 0x09

def semicolon : UInt8 := 0x3b

def pipe : UInt8 := 0x7c

def pathDelimiter? (path : String) : Option UInt8 :=
  match (pathExtension? path).map lower with
  | some "csv" => some comma
  | some "tsv" => some tab
  | some "tab" => some tab
  | _ => none

def delimiterName (delimiter : UInt8) : String :=
  if delimiter = comma then "comma"
  else if delimiter = tab then "tab"
  else if delimiter = semicolon then "semicolon"
  else if delimiter = pipe then "pipe"
  else "'" ++ String.singleton (Char.ofNat delimiter.toNat) ++ "'"

structure Source where
  path : String
  delimiter : UInt8
deriving DecidableEq, Repr

/-- The source at a path. A delimiter that is given goes before the one of the
extension, and without either the delimiter is the comma. -/
def Source.ofPath (path : String) (delimiter : Option UInt8) : Source :=
  ⟨path, (delimiter.or (pathDelimiter? path)).getD comma⟩

end PagedTable
