import PagedTable.Proofs.Number.Word
import PagedTable.Proofs.Paging.Partition
import PagedTable.Proofs.Paging.Window
import PagedTable.Table.Refresh

/-! # Paging in machine words

Everything the pager computes, with each sum, product and difference taken in words of
64 bits. For a list that fits into memory none of them fails, however large a page is and
whatever page is asked for: a difference is taken where its branch keeps it from falling
below zero, and pages are numbered no further than there are elements. -/

namespace PagedTable

/-! ## The same computations in words -/

namespace Paging

def countPages? (total pageSize : Nat) : Option Nat :=
  Machine.divCeil? 64 total (max pageSize 1)

def window? (pageCount current maxLinks : Nat) : Option (Nat × Nat) :=
  let half := maxLinks / 2
  if pageCount ≤ maxLinks then some (1, pageCount)
  else do
    let before ← Machine.sub? current 1
    if before ≤ half then some (1, maxLinks)
    else do
      let nearEnd ← Machine.sub? pageCount half
      if nearEnd ≤ before then do
        let hidden ← Machine.sub? pageCount maxLinks
        let first ← Machine.add? 64 hidden 1
        some (first, pageCount)
      else do
        let first ← Machine.sub? current half
        let stop ← Machine.add? 64 first maxLinks
        let last ← Machine.sub? stop 1
        some (first, last)

def paginate? (total pageSize current maxLinks : Nat) : Option Paging := do
  let pageCount ← countPages? total pageSize
  let current := min (max current 1) pageCount
  let links ← window? pageCount current (max maxLinks 1)
  some ⟨pageCount, current, links.1, links.2⟩

def pageSpan? (total pageSize page : Nat) : Option Span :=
  if page = 0 then some ⟨0, 0⟩
  else do
    let before ← Machine.sub? page 1
    let first ← Machine.mul? 64 before (max pageSize 1)
    let start := min first total
    let stop ← Machine.add? 64 start (max pageSize 1)
    some ⟨start, min stop total⟩

def links? (paging : Paging) : Option (List Nat) := do
  let stop ← Machine.add? 64 paging.lastLink 1
  some (Span.mk paging.firstLink stop).places

def trailing? (paging : Paging) (showDots : Bool) : Option (List PagerEntry) :=
  if paging.lastLink ≠ paging.pageCount then do
    let next ← Machine.add? 64 paging.lastLink 1
    some ((if next < paging.pageCount ∧ showDots then [.dots] else []) ++
      [paging.link paging.pageCount])
  else some []

def bar? (paging : Paging) (showDots : Bool) : Option (List PagerEntry) := do
  let links ← paging.links?
  let trailing ← paging.trailing? showDots
  some ([.previous (paging.current ≤ 1)] ++ paging.leading showDots ++
    links.map paging.link ++ trailing ++
    [.next (paging.current = paging.pageCount ∨ paging.pageCount = 0)])

end Paging

def Table.infoText? (table : Table) : Option String :=
  let total := table.content.length
  if total = 0 then some table.options.infoEmpty
  else if table.page = 0 then
    some ("No matching records found (total " ++ toString total ++ ")")
  else do
    let rows ← Machine.sub? table.pageSpan.stop table.pageSpan.start
    let first ← Machine.add? 64 table.pageSpan.start 1
    let stop ← Machine.add? 64 first rows
    let last ← Machine.sub? stop 1
    some ("Showing records " ++ toString first ++ "-" ++ toString last ++
      " from " ++ toString table.filtered.length ++
      if table.isFiltered then " filtered (total " ++ toString total ++ ")" else "")

/-! ## Nothing leaves the words -/

namespace Paging

theorem countPages?_eq_some {total : Nat} (short : total < 2 ^ 63) (pageSize : Nat) :
    countPages? total pageSize = some (countPages total pageSize) :=
  Machine.divCeil?_eq_some (max_one_pos pageSize) (by omega)

theorem window?_eq_some {pageCount current maxLinks : Nat} (short : pageCount < 2 ^ 63)
    (numbered : pageCount ≠ 0 → 1 ≤ current) (within : current ≤ pageCount) :
    window? pageCount current maxLinks = some (window pageCount current maxLinks) := by
  unfold window? window
  dsimp only
  split
  case isTrue => rfl
  case isFalse wide =>
    rw [Machine.sub?_eq_some (numbered (by omega)), Option.bind_eq_bind, Option.bind_some]
    split
    case isTrue => rfl
    case isFalse left =>
      rw [Machine.sub?_eq_some (by omega), Option.bind_some]
      split
      case isTrue =>
        rw [Machine.sub?_eq_some (by omega), Option.bind_some, Machine.add?_eq_some (by omega)]
        rfl
      case isFalse =>
        rw [Machine.sub?_eq_some (by omega), Option.bind_some, Machine.add?_eq_some (by omega),
          Option.bind_some, Machine.sub?_eq_some (by omega)]
        rfl

theorem paginate?_eq_some {total : Nat} (short : total < 2 ^ 63)
    (pageSize current maxLinks : Nat) :
    paginate? total pageSize current maxLinks =
      some (paginate total pageSize current maxLinks) := by
  have pages := countPages_le_total total pageSize
  rw [paginate?, countPages?_eq_some short, Option.bind_eq_bind, Option.bind_some]
  dsimp only
  rw [window?_eq_some (by omega) (by omega) (Nat.min_le_right _ _)]
  rfl

/-- Where a page starts and stops fits, because the page does exist. -/
theorem pageSpan?_eq_some {total pageSize page : Nat} (short : total < 2 ^ 63)
    (word : pageSize < 2 ^ 64) (within : page ≤ countPages total pageSize) :
    pageSpan? total pageSize page = some (pageSpan total pageSize page) := by
  cases page with
  | zero => rfl
  | succ page =>
      have fits := stop_lt_word short word within
      rw [pageSpan?, if_neg (Nat.succ_ne_zero page), Machine.sub?_eq_some (Nat.le_add_left 1 page),
        Option.bind_eq_bind, Option.bind_some, Nat.add_sub_cancel, Machine.mul?_eq_some (by omega),
        Option.bind_some]
      dsimp only
      rw [Machine.add?_eq_some (by omega)]
      rfl

section Bar

variable {paging : Paging}

theorem links?_eq_some (fits : paging.lastLink + 1 < 2 ^ 64) :
    paging.links? = some paging.links := by
  rw [links?, Machine.add?_eq_some fits]
  rfl

theorem trailing?_eq_some (fits : paging.lastLink + 1 < 2 ^ 64) (showDots : Bool) :
    paging.trailing? showDots = some (paging.trailing showDots) := by
  unfold trailing? trailing
  split
  · rw [Machine.add?_eq_some fits]
    rfl
  · rfl

theorem bar?_eq_some (fits : paging.lastLink + 1 < 2 ^ 64) (showDots : Bool) :
    paging.bar? showDots = some (paging.bar showDots) := by
  rw [bar?, links?_eq_some fits, trailing?_eq_some fits]
  rfl

end Bar

end Paging

theorem Table.infoText?_eq_some {table : Table}
    (ordered : table.pageSpan.start ≤ table.pageSpan.stop)
    (fits : table.pageSpan.stop < 2 ^ 63) : table.infoText? = some table.infoText := by
  unfold infoText? infoText
  dsimp only
  split
  case isTrue => rfl
  case isFalse =>
    split
    case isTrue => rfl
    case isFalse =>
      have last : table.pageSpan.start + 1 + table.pageSpan.length - 1 =
          table.pageSpan.start + table.pageSpan.length := by
        omega
      unfold Span.length at last
      rw [Machine.sub?_eq_some ordered, Option.bind_eq_bind, Option.bind_some,
        Machine.add?_eq_some (by omega), Option.bind_some, Machine.add?_eq_some (by omega),
        Option.bind_some, Machine.sub?_eq_some (by omega), Option.bind_some, last]
      rfl

namespace Paging

structure FitsWords (total pageSize current maxLinks : Nat) (paging : Paging) (span : Span) :
    Prop where
  paginate : paginate? total pageSize current maxLinks = some paging
  pageSpan : pageSpan? total pageSize paging.current = some span
  bar : ∀ showDots, paging.bar? showDots = some (paging.bar showDots)
  infoText : ∀ table : Table, table.page = paging.current → table.pageSpan = span →
    table.infoText? = some table.infoText
  ordered : span.start ≤ span.stop
  inside : span.stop ≤ total

/-- Whatever page is asked for and however many links are wanted, all that the pager and
the line about the page compute fits into words, and the page lies within the list. -/
theorem arithmetic_stays_in_words {total pageSize : Nat} (short : total < 2 ^ 63)
    (word : pageSize < 2 ^ 64) (current maxLinks : Nat) :
    let paging : Paging := paginate total pageSize current maxLinks
    let span := pageSpan total pageSize paging.current
    FitsWords total pageSize current maxLinks paging span := by
  intro paging span
  have ordered : span.start ≤ span.stop := start_pageSpan_le _ _ _
  have inside : span.stop ≤ total := stop_pageSpan_le _ _ _
  have pages : paging.pageCount ≤ total := countPages_le_total total pageSize
  have stops : paging.lastLink ≤ paging.pageCount := (wellPlaced_paginate _ _ _ _).stops
  refine ⟨paginate?_eq_some short _ _ _, ?_, ?_, ?_, ordered, inside⟩
  · exact pageSpan?_eq_some short word (current_paginate_le total pageSize current maxLinks)
  · exact bar?_eq_some (by omega)
  · intro table _ spans
    exact Table.infoText?_eq_some (by rwa [spans]) (by rw [spans]; omega)

/-- The longest list there can be: on the last of its pages, with a window in front of it,
and on a page that is as large as a word allows. -/
theorem arithmetic_stays_in_words_at_limits :
    let total := 2 ^ 63 - 1
    let size := 2 ^ 64 - 1
    let last : Paging := paginate total 1 (2 ^ 64 - 1) 5
    let whole : Paging := paginate total size 1 (2 ^ 64 - 1)
    let table : Table :=
      { content := [⟨.number 1, .text "", none⟩]
        page := last.current
        pageSpan := pageSpan total 1 last.current }
    total < 2 ^ 63 ∧ size < 2 ^ 64 ∧
      last = ⟨total, total, total - 4, total⟩ ∧ whole = ⟨1, 1, 1, 1⟩ ∧
      pageSpan total 1 last.current = ⟨total - 1, total⟩ ∧
      pageSpan total size whole.current = ⟨0, total⟩ ∧
      paginate? total 1 (2 ^ 64 - 1) 5 = some last ∧
      pageSpan? total 1 last.current = some (pageSpan total 1 last.current) ∧
      pageSpan? total size whole.current = some (pageSpan total size whole.current) ∧
      last.bar? true = some (last.bar true) ∧
      table.infoText? = some table.infoText := by
  intro total size last whole table
  have short : total < 2 ^ 63 := by decide
  have word : size < 2 ^ 64 := by decide
  have onLast := arithmetic_stays_in_words short (show 1 < 2 ^ 64 by decide) (2 ^ 64 - 1) 5
  have onWhole := arithmetic_stays_in_words short word 1 (2 ^ 64 - 1)
  exact ⟨short, word, by decide +kernel, by decide +kernel, by decide +kernel, by decide +kernel,
    onLast.paginate, onLast.pageSpan, onWhole.pageSpan, onLast.bar true,
    onLast.infoText table rfl rfl⟩

end Paging

end PagedTable
