import PagedTable.Proofs.Table.Display

/-! # Leafing through a table

Whoever turns to the pages one after another, from the first to the last, sees
every record of the filtered list once and in its order. A filter that looks at the
cells of a record may take it off the list for having been seen. -/

namespace PagedTable.Table

def leafThrough (table : Table) : List Nat → List Table
  | [] => []
  | page :: pages => table.setPage page :: (table.setPage page).leafThrough pages

def pageNumbers (table : Table) : List Nat :=
  List.range' 1 table.paging.pageCount

theorem flatMap_recordsOfPage {table : Table} (standing : table.Standing) :
    table.pageNumbers.flatMap table.recordsOfPage = table.filteredRecords := by
  cases standing with
  | fresh silent filtered paging =>
      have nothing : table.filteredRecords = [] := by rw [filteredRecords, filtered]; rfl
      rw [pageNumbers, paging, nothing]
      rfl
  | shown known pageCount bar upToDate =>
      have length : table.filteredRecords.length = table.filtered.length :=
        List.filterMap_length_eq_length.mpr known
      have pages := Paging.flatMap_of_pageSpan_eq_self table.filteredRecords table.options.pageSize
      rw [length, ← pageCount] at pages
      exact pages

/-- Turning pages leaves the list as it is, so that each of them is found where
it was when the leafing began. -/
theorem forall₂_leafThrough {table earlier : Table} (upToDate : table.UpToDate)
    (ignores : table.FilterIgnoresCells) (keeps : table.KeepsList earlier)
    (begun : earlier.UpToDate) {pages : List Nat}
    (within : ∀ page ∈ pages, 1 ≤ page ∧ page ≤ earlier.paging.pageCount) :
    List.Forall₂ (fun page shown => ShowsPage shown earlier page) pages
      (table.leafThrough pages) := by
  induction pages generalizing table with
  | nil => exact .nil
  | cons page pages induction =>
      have bounds := List.forall_mem_cons.mp within
      have next := setPage_upToDate ignores page
      have step := upToDate.setPage_keepsList page
      have shows := next.showsPage (step.trans keeps) begun.isSome_getElem?
      have samePages : table.paging.pageCount = earlier.paging.pageCount := by
        rw [upToDate.pageCount, begun.pageCount, keeps.filtered, keeps.options]
      rw [upToDate.page_setPage bounds.1.1 (samePages ▸ bounds.1.2)] at shows
      exact .cons shows
        (induction next (step.filterIgnoresCells ignores) (step.trans keeps) bounds.2)

theorem leafThrough_pageNumbers {table : Table} (standing : table.Standing)
    (ignores : table.FilterIgnoresCells) :
    List.Forall₂ (fun page shown => ShowsPage shown table page) table.pageNumbers
      (table.leafThrough table.pageNumbers) := by
  cases standing with
  | fresh silent filtered paging =>
      rw [pageNumbers, paging]
      exact .nil
  | shown known pageCount bar upToDate =>
      refine forall₂_leafThrough (upToDate ignores) ignores (.refl table) (upToDate ignores) ?_
      intro page member
      have bounds := List.mem_range'_1.mp member
      omega

structure PartsList (total pageSize current : Nat) (paging : Paging) : Prop where
  cuts : Paging.Cuts total (max pageSize 1) paging.pageCount (Paging.pageSpan total pageSize)
  pageCount : paging.pageCount = ⌈(total : ℚ) / (max pageSize 1 : Nat)⌉₊
  current_eq_zero : paging.current = 0 ↔ total = 0
  clamped : total ≠ 0 → paging.current = max 1 (min current paging.pageCount)
  word : total < 2 ^ 63 → pageSize < 2 ^ 64 → ∀ page < paging.pageCount,
    page * max pageSize 1 + max pageSize 1 < 2 ^ 64

/-- The pages of a list follow one another without a gap. Leafing through them shows
the list, unless a filter looks at the cells that are filled on the way. -/
theorem pages_partition :
    (∀ total pageSize current maxLinks : Nat,
      PartsList total pageSize current (Paging.paginate total pageSize current maxLinks)) ∧
      ∀ (options : TableOptions) (hooks : Hooks) (operations : List Operation),
        let table := run { options, hooks } operations
        table.pageNumbers.flatMap table.recordsOfPage = table.filteredRecords ∧
          (table.FilterIgnoresCells →
            let shown := table.leafThrough table.pageNumbers
            List.Forall₂ (fun page shown => ShowsPage shown table page) table.pageNumbers shown ∧
              List.Forall₂ (Record.IsShown hooks) table.filteredRecords
                (shown.flatMap pageRecords) ∧
              (shown.flatMap rows).map (·.head.id) = table.filteredIds) := by
  constructor
  · intro total pageSize current maxLinks
    exact ⟨Paging.cuts_pageSpan total pageSize, Paging.countPages_eq_ceil total pageSize,
      Paging.current_paginate_eq_zero_iff,
      fun nonempty => Paging.current_paginate_clamped nonempty pageSize current maxLinks,
      fun short word page within => Paging.stop_lt_word short word within⟩
  · intro options hooks operations table
    have standing : table.Standing := standing_run_new options hooks operations
    have whole := flatMap_recordsOfPage standing
    refine ⟨whole, fun ignores => ?_⟩
    have pages := leafThrough_pageNumbers standing ignores
    refine ⟨pages, ?_, ?_⟩
    · rw [← whole, ← show table.hooks = hooks from hooks_run _ operations]
      exact List.rel_flatMap pages fun _ _ shows => shows.records
    · have ids : List.Forall₂ Eq
          (table.pageNumbers.flatMap fun page => (table.recordsOfPage page).map Record.id)
          ((table.leafThrough table.pageNumbers).flatMap fun shown =>
            shown.rows.map (·.head.id)) :=
        List.rel_flatMap pages fun _ _ shows => List.forall₂_eq_eq_eq ▸ shows.rowIds.symm
      rw [List.forall₂_eq_eq_eq] at ids
      rw [filteredIds, ← whole, List.map_flatMap, List.map_flatMap, ids]

/-- The longest list there can be, and a table that stands on its last page. -/
theorem pages_partition_tour :
    (let paging := Paging.paginate (2 ^ 63 - 1) 10 0 5
     2 ^ 63 - 1 ≠ 0 ∧ paging.current = max 1 (min 0 paging.pageCount) ∧
       0 < paging.pageCount ∧ 0 * max 10 1 + max 10 1 < 2 ^ 64) ∧
    (let table := run {} tour
     table.FilterIgnoresCells ∧
       (table.leafThrough table.pageNumbers).map pageIds =
         [[.number 1, .number 3, .number 4], [.number 5]] ∧
       ((table.leafThrough table.pageNumbers).flatMap rows).map (·.head.id) =
         table.filteredIds) := by
  have parts := pages_partition.1 (2 ^ 63 - 1) 10 0 5
  rcases (pages_partition.2 {} {} tour).2 filterIgnoresCells_run_tour with ⟨_, _, ids⟩
  exact ⟨⟨by decide, parts.clamped (by decide), by decide,
      parts.word (by decide) (by decide) 0 (by decide)⟩,
    filterIgnoresCells_run_tour, by decide +kernel, ids⟩

/-- Turning to the first page shows what was to be on the second, which is empty
by the time one turns to it. -/
theorem leafing_skips_rows_unseen_only :
    let table := run {} unseenOnly
    let shown := table.leafThrough table.pageNumbers
    table.pageNumbers = [1, 2] ∧
      table.filteredIds = (List.range' 10 20).map (fun number => .number number) ∧
      shown.map pageIds = [(List.range' 20 10).map (fun number => .number number), []] ∧
      (shown.flatMap rows).map (·.head.id) ≠ table.filteredIds := by
  decide +kernel

end PagedTable.Table
