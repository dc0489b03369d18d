/-! # Documents of settings

A document, written in the TOML format, is a table of named values. Tables come
about in several ways, and the way decides what may be added to a table later
on: one that was written out in full is closed, one that a longer name merely
passed through is not. -/

namespace PagedTable.Document

inductive Origin where
  /-- Passed through by the header of another table. -/
  | passed
  /-- Passed through by the dotted name of a value. -/
  | dotted
  | headed
  | braces
deriving DecidableEq, Repr

inductive Value where
  | text (text : String)
  | integer (value : Int)
  | float
  | boolean (value : Bool)
  | moment
  | array (items : List Value)
  | table (origin : Origin) (entries : List (String × Value))
  /-- Tables with the same header, in double brackets. -/
  | tables (items : List (List (String × Value)))

/-- The named values of a table, each name once. -/
abbrev Entries := List (String × Value)

namespace Entries

def replace (entries : Entries) (name : String) (value : Value) : Entries :=
  entries.map fun entry => if entry.1 = name then (name, value) else entry

def modifyLast (items : List Entries) (change : Entries → Option Entries) :
    Option (List Entries) :=
  match items.getLast? with
  | some last => (change last).map fun changed => items.dropLast ++ [changed]
  | none => none

/-- Adds a value under a dotted name. The parts before the last name tables,
which come about here if need be. Tables that are closed take nothing more, and
no name can be given twice. -/
def addDotted (entries : Entries) (name : String) (rest : List String) (value : Value) :
    Option Entries :=
  match rest with
  | [] => if (entries.lookup name).isSome then none else some (entries ++ [(name, value)])
  | next :: rest =>
    match entries.lookup name with
    | none =>
      (addDotted [] next rest value).map fun inner => entries ++ [(name, .table .dotted inner)]
    | some (.table .dotted inner) =>
      (addDotted inner next rest value).map fun inner =>
        entries.replace name (.table .dotted inner)
    | some (.table .passed inner) =>
      -- such a table can be passed through once more, but takes no value itself
      if rest.isEmpty then none
      else (addDotted inner next rest value).map fun inner =>
        entries.replace name (.table .passed inner)
    | some (.tables items) =>
      if rest.isEmpty then none
      else (modifyLast items fun inner => addDotted inner next rest value).map fun items =>
        entries.replace name (.tables items)
    | some _ => none

/-- Changes the table that a header leads to. Tables on the way come about if
need be; of several with the same header the last one is meant. -/
def modifyAt (entries : Entries) (path : List String) (change : Entries → Option Entries) :
    Option Entries :=
  match path with
  | [] => change entries
  | name :: rest =>
    match entries.lookup name with
    | none =>
      (modifyAt [] rest change).map fun inner => entries ++ [(name, .table .passed inner)]
    | some (.table .braces _) => none
    | some (.table origin inner) =>
      (modifyAt inner rest change).map fun inner => entries.replace name (.table origin inner)
    | some (.tables items) =>
      (modifyLast items fun inner => modifyAt inner rest change).map fun items =>
        entries.replace name (.tables items)
    | some _ => none

def beginTable (name : String) (entries : Entries) : Option Entries :=
  match entries.lookup name with
  | none => some (entries ++ [(name, .table .headed [])])
  | some (.table .passed inner) => some (entries.replace name (.table .headed inner))
  | some _ => none

def beginAnother (name : String) (entries : Entries) : Option Entries :=
  match entries.lookup name with
  | none => some (entries ++ [(name, .tables [[]])])
  | some (.tables items) => some (entries.replace name (.tables (items ++ [[]])))
  | some _ => none

end Entries

end PagedTable.Document
