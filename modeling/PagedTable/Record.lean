import PagedTable.Text.LowerCase

/-! # Records

The rows of a table come from records. A record has an identifier, something a
filter can search, and, once it has been shown, the texts of its cells. -/

namespace PagedTable

open Text

inductive RecordId where
  | number (value : Int)
  | name (text : String)
deriving DecidableEq, Repr

namespace RecordId

def display : RecordId → String
  | .number value => toString value
  | .name text => text

def le : RecordId → RecordId → Bool
  | .number first, .number second => first ≤ second
  | .number _, .name _ => true
  | .name _, .number _ => false
  | .name first, .name second => first ≤ second

def sorted (ids : List RecordId) : List RecordId :=
  (ids.mergeSort le).eraseDups

end RecordId

inductive Contents where
  | text (text : String)
  /-- Named values, and the names of those searched by terms without a field. -/
  | fields (values : List (String × String)) (defaults : List String)
deriving DecidableEq, Repr

namespace Contents

/-- Sets the value of a name, which then comes last. -/
def insertValue (values : List (String × String)) (entry : String × String) :
    List (String × String) :=
  values.filter (·.1 ≠ entry.1) ++ [entry]

/-- Named values from a list of entries; the last entry of a name counts. -/
def ofEntries (entries : List (String × String)) (defaults : List String) : Contents :=
  .fields (entries.foldl insertValue []) defaults

end Contents

structure Record where
  id : RecordId
  contents : Contents
  cells : Option (List String) := none
deriving DecidableEq, Repr

namespace Record

/-- The lower-cased text that terms without a field search. A default name
without a value counts as an empty value. -/
def searchText (record : Record) : String :=
  match record.contents with
  | .text text => lower text
  | .fields values defaults =>
    lower (" ".intercalate (defaults.map fun name => (values.lookup name).getD ""))

/-- The value of a name: that of the very name if there is one, else that of a
name that differs in letter case only. -/
def value? (record : Record) (name : String) : Option String :=
  match record.contents with
  | .text _ => none
  | .fields values _ =>
    match values.lookup name with
    | some value => some value
    | none => (values.find? fun entry => lower entry.1 = lower name).map (·.2)

end Record

end PagedTable
