import PagedTable.CommandLine
import PagedTable.Settings.Read
import PagedTable.Viewer.Draw

/-! # The program

Reads the arguments, the settings and the file, and shows the first screen. -/

namespace PagedTable

def readFile (path : String) : IO (Option File) := do
  try
    let bytes ← IO.FS.readBinFile path
    return some ⟨bytes.toList, 0⟩
  catch _ => return none

def readSettings (path : Option String) : IO (Except ReadError Settings) := do
  match path with
  | none => return .ok {}
  | some path => return Settings.ofFile (← readFile path)

def usualArea : Rect := ⟨0, 0, 80, 24⟩

def showFirst (arguments : Arguments) : IO UInt32 := do
  let source := Source.ofPath arguments.path arguments.delimiter
  let file ← readFile arguments.path
  let settings ← readSettings arguments.settingsPath
  match settings.bind fun settings => Viewer.start source settings arguments.watch file with
  | .ok viewer =>
    let screen := (viewer.layOut usualArea).draw usualArea.width usualArea.height
    for line in screen.lines do
      IO.println line.text
    return 0
  | .error error =>
    IO.eprintln error.message
    return 1

end PagedTable

open PagedTable

def main (words : List String) : IO UInt32 := do
  match Arguments.read words with
  | .ok arguments => showFirst arguments
  | .error refusal =>
    IO.eprint refusal.message
    return UInt32.ofNat refusal.exitCode
