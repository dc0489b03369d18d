import PagedTable.Filter.Parse

/-! # Queries

A query is a filter text together with the tree that was read from it, so that
the text is read once and not for every record. -/

namespace PagedTable

structure Query where
  text : String
  /-- The tree read from the text; without one, every record matches. -/
  tree : Option Filter
deriving DecidableEq, Repr

namespace Query

def compile (text : String) : Query :=
  ⟨text, Filter.parse (Filter.Token.lex text.toList)⟩

def empty : Query :=
  ⟨"", none⟩

def isEmpty (query : Query) : Bool :=
  query.tree.isNone

end Query

end PagedTable
