import PagedTable.Document.Scalar

/-! # Reading a document

A document is read line by line. A header says which table the lines after it
belong to, every other line gives a value a name. Blank lines and comments may
stand anywhere between them. -/

namespace PagedTable.Document

/-- Drops blanks, line ends and comments. A character that may not stand in a
comment is kept, and nothing that follows can then be read. -/
def skipLines (inComment : Bool) : List Char → List Char
  | [] => []
  | '\r' :: '\n' :: rest => skipLines false rest
  | char :: rest =>
    if char = '\n' then skipLines false rest
    else if inComment then if isShown char then skipLines true rest else char :: rest
    else if char = ' ' ∨ char = '\t' then skipLines false rest
    else if char = '#' then skipLines true rest
    else char :: rest

def endLine? (chars : List Char) : Option (List Char) :=
  let afterComment :=
    match skipSpaces chars with
    | '#' :: rest => rest.dropWhile isShown
    | rest => rest
  match afterComment with
  | [] => some []
  | '\n' :: rest => some rest
  | '\r' :: '\n' :: rest => some rest
  | _ => none

/-! ## Names -/

def isBareChar (char : Char) : Bool :=
  char.isAlphanum || char = '_' || char = '-'

def readPart : Reader String := fun chars =>
  let bare := chars.takeWhile isBareChar
  if bare.isEmpty then readLineText chars
  else some (String.ofList bare, chars.drop bare.length)

def readParts : Nat → Reader (List String)
  | 0, _ => none
  | limit + 1, chars =>
    (readPart (skipSpaces chars)).bind fun (part, rest) =>
      match skipSpaces rest with
      | '.' :: more => (readParts limit more).map fun read => (part :: read.1, read.2)
      | rest => some ([part], rest)

/-- A name has fewer parts, and values are nested less deep, than this. -/
def nestingLimit : Nat := 80

def readName : Reader (List String) :=
  readParts (nestingLimit - 1)

/-! ## Values -/

def readItems (read : Reader Value) : Nat → Reader (List Value)
  | 0, _ => none
  | fuel + 1, chars =>
    match skipLines false chars with
    | ']' :: rest => some ([], rest)
    | start =>
      (read start).bind fun (value, rest) =>
        match skipLines false rest with
        | ',' :: more => (readItems read fuel more).map fun read => (value :: read.1, read.2)
        | ']' :: more => some ([value], more)
        | _ => none

def readEntry (read : Reader Value) (entries : Entries) : Reader Entries := fun chars =>
  (readName chars).bind fun (name, rest) =>
    match name, rest with
    | first :: parts, '=' :: rest =>
      (read (skipSpaces rest)).bind fun (value, rest) =>
        (entries.addDotted first parts value).map fun entries => (entries, rest)
    | _, _ => none

def readBraces (read : Reader Value) : Nat → Entries → Reader Entries
  | 0, _, _ => none
  | fuel + 1, entries, chars =>
    (readEntry read entries chars).bind fun (entries, rest) =>
      match skipSpaces rest with
      | ',' :: more => readBraces read fuel entries more
      | '}' :: more => some (entries, more)
      | _ => none

def readArray (read : Reader Value) : Reader Value := fun chars =>
  (readItems read (chars.length + 1) chars).map fun read => (.array read.1, read.2)

def readTable (read : Reader Value) : Reader Value := fun chars =>
  match skipSpaces chars with
  | '}' :: rest => some (.table .braces [], rest)
  | _ =>
    (readBraces read (chars.length + 1) [] chars).map fun read => (.table .braces read.1, read.2)

def readPlain : Reader Value := fun chars =>
  match chars with
  | [] => none
  | first :: _ =>
    if first = '"' ∨ first = '\'' then (readText chars).map fun read => (.text read.1, read.2)
    else if first = '+' ∨ first = '-' ∨ first.isDigit then readNumeric chars
    else
      match readWord "true" chars, readWord "false" chars with
      | some (_, rest), _ => some (.boolean true, rest)
      | _, some (_, rest) => some (.boolean false, rest)
      | _, _ => readSpecial chars

/-- Reads a value in which others are nested to a limited depth. No plain value
starts with a bracket or a brace. -/
def readValue : Nat → Reader Value
  | depth + 1, '[' :: rest => readArray (readValue depth) rest
  | depth + 1, '{' :: rest => readTable (readValue depth) rest
  | _, chars => readPlain chars

/-! ## Lines -/

structure Draft where
  root : Entries := []
  header : List String := []

namespace Draft

def readHeader (draft : Draft) (closing : String) (begins : String → Entries → Option Entries) :
    Reader Draft := fun chars => do
  let (path, rest) ← readName chars
  let (_, rest) ← readWord closing rest
  let name ← path.getLast?
  let root ← draft.root.modifyAt path.dropLast (begins name)
  return (⟨root, path⟩, rest)

def readBinding (draft : Draft) : Reader Draft := fun chars => do
  let (name, rest) ← readName chars
  let (_, rest) ← readWord "=" rest
  let (value, rest) ← readValue (nestingLimit - 1) (skipSpaces rest)
  let root ← draft.root.modifyAt draft.header fun entries =>
    match name with
    | [] => none
    | first :: parts => entries.addDotted first parts value
  return ({ draft with root }, rest)

def readStatement (draft : Draft) : Reader Draft
  | '[' :: '[' :: rest => draft.readHeader "]]" Entries.beginAnother rest
  | '[' :: rest => draft.readHeader "]" Entries.beginTable rest
  | chars => draft.readBinding chars

/-- Reads all lines. The fuel bounds their number. -/
def readAll : Nat → Draft → List Char → Option Draft
  | 0, _, _ => none
  | fuel + 1, draft, chars =>
    match skipLines false chars with
    | [] => some draft
    | start =>
      (draft.readStatement start).bind fun (draft, rest) =>
        (endLine? rest).bind fun rest => readAll fuel draft rest

end Draft

def read? (text : String) : Option Entries :=
  let chars := text.toList
  let chars := if chars.head? = some '\ufeff' then chars.drop 1 else chars
  (Draft.readAll (chars.length + 1) {} chars).map (·.root)

end PagedTable.Document
