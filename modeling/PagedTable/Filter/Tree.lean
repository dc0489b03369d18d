import PagedTable.Filter.Relation
import PagedTable.Filter.Word
import PagedTable.Text.LowerCase
import PagedTable.Text.Quoted

/-! # Filter trees

What a filter text means: terms, joined by "and", "or" and "not". The text of
every term is lower-cased when the term is made. -/

namespace PagedTable

open Text

inductive Filter where
  | anywhere (text : String)
  | field (name : String) (relation : Filter.Relation) (text : String)
  | both (left right : Filter)
  | either (left right : Filter)
  | negated (inner : Filter)
deriving DecidableEq, Repr

namespace Filter

def isNameChar (char : Char) : Bool :=
  char.isAlphanum || char = '_' || char = '.'

def isFieldName (name : List Char) : Bool :=
  !name.isEmpty && name.all isNameChar

/-- The term a word stands for. It names a field when the bare part holds the
symbol of a relation and what comes before the first one is a field name; the
text of the term is then all that follows the symbol. -/
def ofWord (word : Word) : Filter :=
  let chars := word.text.toList
  match Relation.locate? word.bare.toList with
  | some (place, relation) =>
    if isFieldName (chars.take place) then
      .field (String.ofList (chars.take place)) relation
        (String.ofList (lowerChars (chars.drop (place + relation.symbol.length))))
    else .anywhere (lower word.text)
  | none => .anywhere (lower word.text)

example : ofWord ⟨"Size>=10", none⟩ = .field "Size" .atLeast "10" := by decide +kernel

example : ofWord ⟨"", some "a:b"⟩ = .anywhere "a:b" := by decide +kernel

def display : Filter → String
  | .anywhere text => quote text
  | .field name relation text => name ++ relation.symbol ++ quote text
  | .both left right => "(" ++ left.display ++ " AND " ++ right.display ++ ")"
  | .either left right => "(" ++ left.display ++ " OR " ++ right.display ++ ")"
  | .negated inner => "NOT " ++ inner.display

end Filter

end PagedTable
