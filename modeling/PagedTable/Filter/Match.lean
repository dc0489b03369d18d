import PagedTable.Filter.Query
import PagedTable.Number.Leading
import PagedTable.Record

/-! # Matching records

Letter case does not matter when a filter is matched: the texts of a filter are
lower-cased when it is read, and the texts of a record when it is searched. -/

namespace PagedTable

open Text

/-- Whether a value is in a relation to the text of a term, which is taken as
it is. The four relations of order compare leading integers and fail where
there is none. -/
def Filter.Relation.holds (relation : Filter.Relation) (value text : String) : Bool :=
  let ordered (test : Int → Int → Bool) : Bool :=
    match leadingInteger? value.toList, leadingInteger? text.toList with
    | some left, some right => test left.rank right.rank
    | _, _ => false
  match relation with
  | .contains => occursIn text.toList (lowerChars value.toList)
  | .equal => lower value = text
  | .unequal => lower value ≠ text
  | .greater => ordered fun left right => right < left
  | .atLeast => ordered fun left right => right ≤ left
  | .less => ordered fun left right => left < right
  | .atMost => ordered fun left right => left ≤ right

namespace Filter

/-- Whether a record passes the filter. A field the record does not have is in
no relation to any text. -/
def accepts (record : Record) : Filter → Bool
  | .anywhere text => occursIn text.toList record.searchText.toList
  | .field name relation text =>
    match record.value? name with
    | some value => relation.holds value text
    | none => false
  | .both left right => left.accepts record && right.accepts record
  | .either left right => left.accepts record || right.accepts record
  | .negated inner => !inner.accepts record

end Filter

def Query.accepts (query : Query) (record : Record) : Bool :=
  query.tree.all (·.accepts record)

end PagedTable
