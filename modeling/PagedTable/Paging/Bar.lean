import PagedTable.Drawn.Serial
import PagedTable.Paging.Window

/-! # The pager bar

The bar leads to the previous page, to the first page, to the pages of the
window, to the last page and to the next one. Dots mark a gap between numbers. -/

namespace PagedTable

inductive PagerEntry where
  | previous (disabled : Bool)
  | page (number : Nat) (active : Bool)
  | dots
  | next (disabled : Bool)
deriving DecidableEq, Repr

namespace PagerEntry

def label : PagerEntry → String
  | .previous _ => "← Prev"
  | .page number _ => toString number
  | .dots => "…"
  | .next _ => "Next →"

def isDisabled : PagerEntry → Bool
  | .previous disabled => disabled
  | .page _ _ => false
  | .dots => true
  | .next disabled => disabled

def isActive : PagerEntry → Bool
  | .page _ active => active
  | _ => false

instance : Serial PagerEntry where
  serial entry :=
    let state :=
      if entry.isActive then "active" else if entry.isDisabled then "disabled" else ""
    state ++ "|" ++ entry.label

end PagerEntry

namespace Paging

def link (paging : Paging) (number : Nat) : PagerEntry :=
  .page number (number = paging.current)

def leading (paging : Paging) (showDots : Bool) : List PagerEntry :=
  if 1 < paging.firstLink then
    paging.link 1 :: if 2 < paging.firstLink ∧ showDots then [.dots] else []
  else []

def trailing (paging : Paging) (showDots : Bool) : List PagerEntry :=
  if paging.lastLink ≠ paging.pageCount then
    (if paging.lastLink + 1 < paging.pageCount ∧ showDots then [.dots] else []) ++
      [paging.link paging.pageCount]
  else []

def bar (paging : Paging) (showDots : Bool) : List PagerEntry :=
  [.previous (paging.current ≤ 1)] ++ paging.leading showDots ++
    paging.links.map paging.link ++ paging.trailing showDots ++
    [.next (paging.current = paging.pageCount ∨ paging.pageCount = 0)]

example : (bar (paginate 70 10 4 5) true).map PagerEntry.label =
    ["← Prev", "1", "2", "3", "4", "5", "6", "7", "Next →"] := by
  decide

end Paging

end PagedTable
