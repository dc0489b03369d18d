import PagedTable.Span

/-! # Pages

A long list is shown page by page. The pager offers links to the pages around
the current one; together they form a window that is moved just far enough to
stay between the first page and the last. -/

namespace PagedTable

/-- How a list is cut into pages. Pages count from one; the current page is
zero only when there is nothing to show. -/
structure Paging where
  pageCount : Nat
  current : Nat
  firstLink : Nat
  /-- The last linked page; below `firstLink` when there are no pages. -/
  lastLink : Nat
deriving DecidableEq, Repr

namespace Paging

def empty : Paging :=
  ⟨0, 0, 0, 0⟩

/-- The number of pages a list takes; a page size of zero counts as one. -/
def countPages (total pageSize : Nat) : Nat :=
  (total + (max pageSize 1 - 1)) / max pageSize 1

def window (pageCount current maxLinks : Nat) : Nat × Nat :=
  let half := maxLinks / 2
  if pageCount ≤ maxLinks then (1, pageCount)
  else if current - 1 ≤ half then (1, maxLinks)
  else if pageCount - half ≤ current - 1 then (pageCount - maxLinks + 1, pageCount)
  else (current - half, current - half + maxLinks - 1)

/-- Cuts a list of a given length into pages, as near to the wanted current
page as there is one. -/
def paginate (total pageSize current maxLinks : Nat) : Paging :=
  let pageCount := countPages total pageSize
  let current := min (max current 1) pageCount
  let links := window pageCount current (max maxLinks 1)
  ⟨pageCount, current, links.1, links.2⟩

/-- The places of the list that a page shows. Page zero shows none. -/
def pageSpan (total pageSize page : Nat) : Span :=
  if page = 0 then ⟨0, 0⟩
  else
    let start := min ((page - 1) * max pageSize 1) total
    ⟨start, min (start + max pageSize 1) total⟩

example : paginate 200 10 10 5 = ⟨20, 10, 8, 12⟩ := by decide

example : pageSpan 25 10 3 = ⟨20, 25⟩ := by decide

def links (paging : Paging) : List Nat :=
  (Span.mk paging.firstLink (paging.lastLink + 1)).places

end Paging

end PagedTable
