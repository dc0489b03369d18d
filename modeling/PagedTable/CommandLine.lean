import PagedTable.Source.File

/-! # The command line

Arguments are taken from left to right, and the first thing wrong with one ends
the reading. -/

namespace PagedTable

open Text

structure Choices where
  delimiter : Option UInt8 := none
  settingsPath : Option String := none
  watch : Bool := false
  logPath : Option String := none
deriving DecidableEq, Repr

structure Arguments extends Choices where
  /-- The file to show; of several paths the last one counts. -/
  path : String
deriving DecidableEq, Repr

inductive Refusal where
  | helpWanted
  | noPath
  | unknownOption (option : String)
  /-- The option is the last argument, although a value belongs to it. -/
  | missingValue (option : String)
  | badDelimiter (text : String)
deriving DecidableEq, Repr

def helpLines : List String :=
  ["fasttable - page, filter, check and reorder the rows of a CSV file",
   "",
   "USAGE:",
   "    fasttable [OPTIONS] FILE",
   "",
   "OPTIONS:",
   "    -c, --config <FILE>      Read settings from a TOML file",
   "    -d, --delimiter <DELIM>  Set the field delimiter (comma, tab, semicolon, pipe, or char)",
   "    -w, --watch              Reload the file when it changes",
   "    --log <FILE>             Write logs to FILE instead of the terminal",
   "    -h, --help               Print this help message",
   "",
   "KEYS:",
   "    /                 Edit the filter (Enter applies, Esc clears)",
   "    Left/Right        Previous/next page (Shift for first/last)",
   "    Up/Down           Move the cursor",
   "    Space             Check the cursor row (Shift for a range)",
   "    a                 Check or uncheck all filtered rows",
   "    mouse drag        Reorder rows; Esc cancels",
   "    q                 Quit",
   "",
   "Log verbosity follows FASTTABLE_LOG (default: info)."]

namespace Refusal

def lines : Refusal → List String
  | .helpWanted => helpLines
  | .noPath => helpLines
  | .unknownOption option => ["Unknown option: " ++ option]
  | .missingValue option => ["Error: " ++ option ++ " requires an argument"]
  | .badDelimiter text =>
    ["Invalid delimiter: '" ++ text ++
      "'. Use comma, tab, semicolon, pipe, or a single character."]

def message (refusal : Refusal) : String :=
  String.join (refusal.lines.map (· ++ "\n"))

/-- Only the wish for help is no failure. -/
def exitCode : Refusal → Nat
  | .helpWanted => 0
  | _ => 1

end Refusal

def readDelimiter (text : String) : Except Refusal UInt8 :=
  match lower text with
  | "comma" | "," => .ok comma
  | "tab" | "\\t" | "\t" => .ok tab
  | "semicolon" | ";" => .ok semicolon
  | "pipe" | "|" => .ok pipe
  | _ =>
    match text.toUTF8.data.toList with
    | [byte] => .ok byte
    | _ => .error (.badDelimiter text)

inductive ValueOption where
  | delimiter
  | settings
  | log
deriving DecidableEq, Repr

namespace ValueOption

def ofWord? : String → Option ValueOption
  | "-d" | "--delimiter" => some .delimiter
  | "-c" | "--config" => some .settings
  | "--log" => some .log
  | _ => none

def choose (option : ValueOption) (value : String) (choices : Choices) :
    Except Refusal Choices :=
  match option with
  | .delimiter =>
    (readDelimiter value).map fun delimiter => { choices with delimiter := some delimiter }
  | .settings => .ok { choices with settingsPath := some value }
  | .log => .ok { choices with logPath := some value }

end ValueOption

namespace Arguments

def readFrom (path : Option String) (choices : Choices) :
    List String → Except Refusal Arguments
  | [] =>
    match path with
    | some path => .ok { choices with path }
    | none => .error .noPath
  | word :: rest =>
    match ValueOption.ofWord? word, rest with
    | some _, [] => .error (.missingValue word)
    | some option, value :: rest =>
      match option.choose value choices with
      | .ok choices => readFrom path choices rest
      | .error refusal => .error refusal
    | none, rest =>
      if word = "-w" ∨ word = "--watch" then readFrom path { choices with watch := true } rest
      else if word = "-h" ∨ word = "--help" then .error .helpWanted
      else if word.toList.head? = some '-' then .error (.unknownOption word)
      else readFrom (some word) choices rest

def read (words : List String) : Except Refusal Arguments :=
  readFrom none {} words

end Arguments

end PagedTable
