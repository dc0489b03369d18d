import PagedTable.Document.Statement
import PagedTable.Settings.Basic
import PagedTable.Source.File

/-! # Reading settings

Every setting may be missing and then has its default. Names that are no
settings are passed over. A value of the wrong kind, or a number out of range,
makes the whole file malformed. -/

namespace PagedTable

open Document

namespace Settings

def get? {α : Type} (entries : Entries) (name : String) (default : α) (read : Value → Option α) :
    Option α :=
  match entries.lookup name with
  | none => some default
  | some value => read value

def readNatural : Value → Option Nat
  | .integer value => if 0 ≤ value then some value.toNat else none
  | _ => none

def readDistance : Value → Option Int
  | .integer value => if -0x80000000 ≤ value ∧ value < 0x80000000 then some value else none
  | _ => none

def readBoolean : Value → Option Bool
  | .boolean value => some value
  | _ => none

def readString : Value → Option String
  | .text text => some text
  | _ => none

def readStrings : Value → Option (List String)
  | .array items => items.mapM readString
  | _ => none

def readTuning (entries : Entries) : Option DragTuning := do
  let base : DragTuning := {}
  let threshold ← get? entries "threshold" base.threshold readDistance
  let scrollMargin ← get? entries "scroll_margin" base.scrollMargin readDistance
  let scrollStep ← get? entries "scroll_step" base.scrollStep readDistance
  let scrollInterval ← get? entries "scroll_interval_ms" base.scrollInterval readNatural
  return { threshold, scrollMargin, scrollStep, scrollInterval }

def tuningNames : List String :=
  ["threshold", "scroll_margin", "scroll_step", "scroll_interval_ms"]

/-- The tuning by name or by place. A date counts as a table without any of the
names. -/
def readDrag : Value → Option DragTuning
  | .table _ entries => readTuning entries
  | .moment => readTuning []
  | .array items =>
    if items.length ≤ tuningNames.length then readTuning (tuningNames.zip items) else none
  | _ => none

def ofEntries (entries : Entries) : Option Settings := do
  let table : TableOptions := {}
  let base : Settings := {}
  let pageSize ← get? entries "page_size" table.pageSize readNatural
  let maxLinks ← get? entries "max_visible_page_links" table.maxLinks readNatural
  let showDots ← get? entries "show_page_dots" table.showDots readBoolean
  let selectAnywhere ← get? entries "row_select_anywhere" table.selectAnywhere readBoolean
  let infoEmpty ← get? entries "info_empty" table.infoEmpty readString
  let drag ← get? entries "drag" table.drag readDrag
  let refreshSeconds ← get? entries "refresh_secs" base.refreshSeconds readNatural
  let defaultFields ← get? entries "default_fields" base.defaultFields readStrings
  let idColumn ← get? entries "id_column" base.idColumn fun value => (readString value).map some
  return {
    table := { pageSize, maxLinks, showDots, selectAnywhere, infoEmpty, drag }
    refreshSeconds, defaultFields, idColumn }

def ofText (text : String) : Except ReadError Settings :=
  match (Document.read? text).bind ofEntries with
  | some settings => .ok settings
  | none => .error .malformed

def ofFile (file : Option File) : Except ReadError Settings :=
  match file with
  | none => .error .missing
  | some file =>
    match decodeText? file.bytes with
    | some text => ofText text
    | none => .error .malformed

end Settings

end PagedTable
