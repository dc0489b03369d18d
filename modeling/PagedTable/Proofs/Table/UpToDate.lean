import Mathlib.Data.List.Sort
import PagedTable.Proofs.Paging.Pages
import PagedTable.Proofs.Table.Operation

/-! # Tables that are up to date

What a table displays is made anew piece by piece and patched, but it is what
one would compute from scratch. A further refresh of such a table replaces
nothing. -/

namespace PagedTable

/-- Whether a filter looks at what a record is, and not at the cells that a
table keeps with it. -/
def IgnoresCells (external : Record → Bool) : Prop :=
  ∀ record cells, external { record with cells } = external record

attribute [ext] Table

namespace Table

def FilterIgnoresCells (table : Table) : Prop :=
  ∀ external ∈ table.external, IgnoresCells external

/-- Whether all that a table displays is what its content, its filters, its
selection and its page number come to. -/
structure UpToDate (table : Table) : Prop where
  ascending : table.filtered.Pairwise (· < ·)
  mem_filtered : ∀ place, place ∈ table.filtered ↔
    ∃ record, table.content[place]? = some record ∧ table.accepts record = true
  paging : table.paging =
    Paging.paginate table.filtered.length table.options.pageSize table.page table.options.maxLinks
  page_eq_zero : table.page = 0 ↔ table.filtered = []
  page_within : table.filtered ≠ [] → 1 ≤ table.page ∧ table.page ≤ table.paging.pageCount
  pageSpan : table.pageSpan =
    Paging.pageSpan table.filtered.length table.options.pageSize table.page
  filled : ∀ record ∈ table.pageRecords, record.cells.isSome = true
  rows : table.rows.map Row.look =
    table.pageRecords.map fun record =>
      (⟨record.id, if table.selection.isChecked record.id then [checkedClass] else []⟩,
        (table.buildRow record).cells.map serial)
  bar : table.bar.map serial = (table.paging.bar table.options.showDots).map serial
  selection : table.selection.validate table.contentIds = table.selection
  stats : table.stats =
    { total := table.content.length
      filtered := table.filtered.length
      pageRows := table.rows.length
      current := table.page
      pageCount := table.paging.pageCount
      checked := table.selection.checked.length
      pageChecked := table.pageChecked
      info := table.infoText }

/-! ## The filtered places -/

theorem accepts_fill {table : Table} (ignores : table.FilterIgnoresCells) (hooks : Hooks)
    (record : Record) : table.accepts (record.fill hooks) = table.accepts record := by
  rcases record.fill_eq hooks with ⟨cells, equal⟩
  unfold accepts
  rw [equal, table.query.accepts_cells]
  cases known : table.external with
  | none => rfl
  | some external => rw [Option.all_some, Option.all_some, ignores external known]

theorem mem_filtered_refilter {table : Table} {place : Nat} :
    place ∈ table.refilter.filtered ↔
      ∃ record, table.content[place]? = some record ∧ table.accepts record = true := by
  constructor
  · intro member
    rcases List.mem_map.mp member with ⟨⟨record, other⟩, entry, rfl⟩
    have parts := List.mem_filter.mp entry
    exact ⟨record, List.mk_mem_zipIdx_iff_getElem?.mp parts.1, parts.2⟩
  · rintro ⟨record, known, accepted⟩
    have entry : (record, place) ∈ table.content.zipIdx :=
      List.mk_mem_zipIdx_iff_getElem?.mpr known
    exact List.mem_map.mpr ⟨(record, place), List.mem_filter.mpr ⟨entry, accepted⟩, rfl⟩

theorem pairwise_filtered_refilter (table : Table) :
    table.refilter.filtered.Pairwise (· < ·) :=
  Span.pairwise_places_filter table.content _

/-- Filling cells lets the same records pass. -/
theorem mem_filtered_refresh {table : Table} (ignores : table.FilterIgnoresCells) (place : Nat) :
    place ∈ table.refresh.filtered ↔
      ∃ record, table.refresh.content[place]? = some record ∧
        table.refresh.accepts record = true := by
  have same : ∀ record, table.refresh.accepts record = table.accepts record := by
    intro record
    rw [accepts, refresh_query, refresh_external]
    rfl
  rw [refresh_filtered, mem_filtered_refilter, refresh_content, getElem?_filledContent]
  change (∃ record, table.content[place]? = some record ∧ _) ↔
    ∃ record, table.content[place]?.map _ = some record ∧ _
  cases table.content[place]? with
  | none => simp
  | some record =>
      simp only [same, Option.map_some, Option.some.injEq, exists_eq_left']
      split
      · rw [accepts_fill ignores]
      · rfl

theorem isSome_getElem?_refresh (table : Table) :
    ∀ place ∈ table.refresh.filtered, (table.refresh.content[place]?).isSome = true := by
  intro place member
  rw [refresh_filtered, mem_filtered_refilter] at member
  rcases member with ⟨record, known, _⟩
  rw [refresh_content, getElem?_filledContent, Option.isSome_map]
  exact Option.isSome_iff_exists.mpr ⟨record, known⟩

/-! ## The page on display -/

/-- Every place on the page is a place of the content. -/
theorem length_pageRecords {table : Table}
    (known : ∀ place ∈ table.filtered, (table.content[place]?).isSome = true)
    (within : table.pageSpan.stop ≤ table.filtered.length) :
    table.pageRecords.length = table.pageSpan.length := by
  rw [pageRecords, List.filterMap_length_eq_length.mpr, Span.length_of within]
  intro place member
  exact known place (Span.mem_of_mem member)

theorem isSome_cells_pageRecords_refresh {table : Table} :
    ∀ record ∈ table.refresh.pageRecords, record.cells.isSome = true := by
  intro record member
  rcases List.mem_filterMap.mp member with ⟨place, onPage, known⟩
  rw [refresh_places] at onPage
  rw [refresh_content, getElem?_filledContent] at known
  rcases Option.map_eq_some_iff.mp known with ⟨unfilled, _, rfl⟩
  rw [if_pos onPage]
  exact unfilled.isSome_cells_fill _

/-! ## After a refresh -/

theorem refresh_upToDate {table : Table} (ignores : table.FilterIgnoresCells) :
    table.refresh.UpToDate := by
  have paging := table.refresh_paging
  have pageOf := table.refresh_page
  have zero : table.refresh.page = 0 ↔ table.refresh.filtered = [] := by
    rw [pageOf, paging, Paging.current_paginate_eq_zero_iff, List.length_eq_zero_iff]
  have bound : table.refresh.page ≤ table.refresh.paging.pageCount := by
    rw [pageOf, paging]
    exact Paging.current_paginate_le _ _ _ _
  have rows : table.refresh.rows.map Row.look =
      (table.refresh.pageRecords.map table.refresh.buildRow).map Row.look := by
    rw [refresh_rows, map_look_patchRows]
  have pageRows : table.refresh.pageSpan.length = table.refresh.rows.length := by
    have within : table.refresh.pageSpan.stop ≤ table.refresh.filtered.length := by
      rw [refresh_pageSpan]
      exact Paging.stop_pageSpan_le _ _ _
    rw [refresh_rows, length_patchRows, List.length_map,
      length_pageRecords table.isSome_getElem?_refresh within]
  constructor
  · rw [refresh_filtered]
    exact table.pairwise_filtered_refilter
  · exact mem_filtered_refresh ignores
  · rw [refresh_options, pageOf, paging, Paging.paginate_current]
  · exact zero
  · intro nonempty
    exact ⟨Nat.one_le_iff_ne_zero.mpr (mt zero.mp nonempty), bound⟩
  · rw [refresh_options]
    exact table.refresh_pageSpan
  · exact isSome_cells_pageRecords_refresh
  · rw [rows, List.map_map]
    rfl
  · rw [refresh_bar, map_serial_patch, refresh_options]
  · rw [refresh_contentIds, refresh_selection, Selection.validate_validate]
  · rw [refresh_stats, pageRows, refresh_selection]
    rfl

/-! ## A further refresh -/

namespace UpToDate

variable {table : Table}

theorem page_eq_current (upToDate : table.UpToDate) : table.page = table.paging.current := by
  have current := Paging.current_paginate table.filtered.length table.options.pageSize
    table.page table.options.maxLinks
  rw [← upToDate.paging] at current
  have count : table.paging.pageCount =
      Paging.countPages table.filtered.length table.options.pageSize := by
    rw [upToDate.paging]
    rfl
  by_cases empty : table.filtered = []
  · have page := upToDate.page_eq_zero.mpr empty
    have noPages : Paging.countPages table.filtered.length table.options.pageSize = 0 :=
      Paging.countPages_eq_zero_iff.mpr (List.length_eq_zero_iff.mpr empty)
    omega
  · have within := upToDate.page_within empty
    omega

theorem refresh_filtered (upToDate : table.UpToDate) :
    table.refresh.filtered = table.filtered := by
  rw [Table.refresh_filtered]
  apply table.pairwise_filtered_refilter.eq_of_mem_iff upToDate.ascending
  intro place
  rw [mem_filtered_refilter, upToDate.mem_filtered]

theorem refresh_paging (upToDate : table.UpToDate) : table.refresh.paging = table.paging := by
  rw [Table.refresh_paging, upToDate.refresh_filtered, ← upToDate.paging]

theorem refresh_page (upToDate : table.UpToDate) : table.refresh.page = table.page := by
  rw [Table.refresh_page, upToDate.refresh_paging, ← upToDate.page_eq_current]

theorem refresh_pageSpan (upToDate : table.UpToDate) :
    table.refresh.pageSpan = table.pageSpan := by
  rw [Table.refresh_pageSpan, upToDate.refresh_filtered, upToDate.refresh_page,
    ← upToDate.pageSpan]

theorem refresh_selection (upToDate : table.UpToDate) :
    table.refresh.selection = table.selection := by
  rw [Table.refresh_selection, upToDate.selection]

theorem filled_paged (upToDate : table.UpToDate) :
    ∀ record ∈ table.paged.pageRecords, record.cells.isSome = true := by
  have places := table.refresh_places
  rw [upToDate.refresh_filtered, upToDate.refresh_pageSpan] at places
  intro record member
  rw [pageRecords, ← places] at member
  exact upToDate.filled record member

theorem refresh_content (upToDate : table.UpToDate) :
    table.refresh.content = table.content := by
  rw [Table.refresh_content, filledContent_eq_self upToDate.filled_paged]
  rfl

/-- What is built afresh looks like what is displayed already. -/
theorem map_look_rows (upToDate : table.UpToDate) :
    table.rows.map Row.look = (table.pageRecords.map table.buildRow).map Row.look := by
  rw [upToDate.rows, List.map_map]
  rfl

theorem refresh_builtRows (upToDate : table.UpToDate) :
    table.refresh.pageRecords.map table.refresh.buildRow =
      table.pageRecords.map table.buildRow := by
  have build : table.refresh.buildRow = table.buildRow := by
    funext record
    rw [buildRow, buildRow, upToDate.refresh_selection, refresh_hooks]
  rw [build, pageRecords, pageRecords, upToDate.refresh_filtered, upToDate.refresh_pageSpan,
    upToDate.refresh_content]

theorem isSome_getElem? (upToDate : table.UpToDate) :
    ∀ place ∈ table.filtered, (table.content[place]?).isSome = true := by
  intro place member
  rcases (upToDate.mem_filtered place).mp member with ⟨record, known, _⟩
  rw [known]
  rfl

theorem length_pageSpan (upToDate : table.UpToDate) :
    table.pageSpan.length = table.rows.length := by
  have rows := congrArg List.length upToDate.rows
  rw [List.length_map, List.length_map] at rows
  rw [rows, length_pageRecords upToDate.isSome_getElem?]
  rw [upToDate.pageSpan]
  exact Paging.stop_pageSpan_le _ _ _

theorem count_selection (upToDate : table.UpToDate) :
    table.selection.count = table.selection.checked.length := by
  rw [← upToDate.selection]
  rfl

/-- A further refresh is noted, and nothing else comes of it. -/
theorem refresh_eq (upToDate : table.UpToDate) :
    table.refresh =
      { table with
        rowEdits := []
        barEdits := []
        journal := table.journal ++ [.rowsUpdated table.stats] } := by
  -- the figures last, as they count what the other fields hold
  have same : table.refresh =
      { table with
        rowEdits := []
        barEdits := []
        stats := table.refresh.stats
        journal := table.journal ++ [.rowsUpdated table.refresh.stats] } := by
    apply Table.ext
    · exact table.refresh_options
    · exact table.refresh_hooks
    · exact upToDate.refresh_content
    · exact table.refresh_pending
    · exact table.refresh_query
    · exact table.refresh_external
    · exact upToDate.refresh_filtered
    · exact upToDate.refresh_page
    · exact upToDate.refresh_paging
    · exact upToDate.refresh_pageSpan
    · exact upToDate.refresh_selection
    · rw [refresh_rows, upToDate.refresh_builtRows, patchRows_eq_self upToDate.map_look_rows]
    · rw [refresh_bar, upToDate.refresh_paging, patch_eq_self upToDate.bar]
    · rw [refresh_rowEdits, upToDate.refresh_builtRows, rowEdits_eq_nil upToDate.map_look_rows]
    · rw [refresh_barEdits, upToDate.refresh_paging, edits_eq_nil upToDate.bar]
    · rfl
    · exact table.refresh_gesture
    · rw [refresh_journal, fillNotices_eq_nil upToDate.filled_paged, List.append_nil]
  have stats : table.refresh.stats = table.stats := by
    rw [refresh_stats, upToDate.stats, ← upToDate.length_pageSpan, ← upToDate.count_selection]
    rw [same]
    rfl
  rw [same, stats]

/-- The display depends neither on the gesture nor on the content that waits. -/
theorem touch (upToDate : table.UpToDate) (gesture : Gesture) (pending : Option (List Record))
    (journal : List Notice) : { table with gesture, pending, journal }.UpToDate :=
  { ascending := upToDate.ascending
    mem_filtered := upToDate.mem_filtered
    paging := upToDate.paging
    page_eq_zero := upToDate.page_eq_zero
    page_within := upToDate.page_within
    pageSpan := upToDate.pageSpan
    filled := upToDate.filled
    rows := upToDate.rows
    bar := upToDate.bar
    selection := upToDate.selection
    stats := upToDate.stats }

end UpToDate

/-! ## Runs -/

def Operation.FilterIgnoresCells : Operation → Prop
  | .setExternal (some external) => IgnoresCells external
  | _ => True

def WasRefreshed (table : Table) : Bool :=
  table.journal.any Notice.isRowsUpdated

structure StaysUpToDate (table : Table) : Prop where
  ignores : table.FilterIgnoresCells
  upToDate : table.WasRefreshed = true → table.UpToDate

theorem Outcome.staysUpToDate {table after : Table} {operation : Operation}
    (outcome : Outcome table operation after) (ignores : operation.FilterIgnoresCells)
    (stays : table.StaysUpToDate) : after.StaysUpToDate := by
  cases outcome with
  | refreshed changed notices _ external =>
      have changedIgnores : changed.FilterIgnoresCells := by
        intro filter member
        rcases external with kept | set
        · rw [kept] at member
          exact stays.ignores filter member
        · rw [set, member] at ignores
          exact ignores
      refine ⟨?_, fun _ => ?_⟩
      · intro filter member
        exact changedIgnores filter (changed.refresh_external ▸ member)
      · exact (refresh_upToDate changedIgnores).touch _ _ _
  | untouched gesture pending notices silent =>
      refine ⟨stays.ignores, fun refreshed => ?_⟩
      rw [WasRefreshed, List.any_append, silent, Bool.or_false] at refreshed
      exact (stays.upToDate refreshed).touch _ _ _

theorem run_staysUpToDate {table : Table} (operations : List Operation)
    (ignores : ∀ operation ∈ operations, operation.FilterIgnoresCells)
    (stays : table.StaysUpToDate) : (table.run operations).StaysUpToDate :=
  run_keeps StaysUpToDate stays operations fun other still operation member =>
    (other.perform_outcome operation).staysUpToDate (ignores operation member) still

/-- Whether a further refresh leaves alone all that is displayed. The stamps
stand for the cells and entries themselves: those on display stay, whichever
are built anew. -/
structure IsAtRest (table : Table) : Prop where
  refresh : table.refresh =
    { table with
      rowEdits := []
      barEdits := []
      journal := table.journal ++ [.rowsUpdated table.stats] }
  rows : ∀ shown built : List (Row (Stamped Cell)), shown.map Row.unstamped = table.rows →
    built.map Row.unstamped = table.refresh.pageRecords.map table.refresh.buildRow →
    patchRows shown built = shown ∧ PagedTable.rowEdits shown built = []
  bar : ∀ shown built : List (Stamped PagerEntry), shown.map Stamped.value = table.bar →
    built.map Stamped.value = table.refresh.paging.bar table.options.showDots →
    patch shown built = shown ∧ edits shown built = []

theorem UpToDate.isAtRest {table : Table} (upToDate : table.UpToDate) : table.IsAtRest := by
  refine ⟨upToDate.refresh_eq, ?_, ?_⟩
  · intro shown built shownRows builtRows
    have same : shown.map Row.look = built.map Row.look := by
      rw [← map_look_unstamped, ← map_look_unstamped, shownRows, builtRows,
        upToDate.refresh_builtRows, upToDate.map_look_rows]
    exact ⟨patchRows_eq_self same, rowEdits_eq_nil same⟩
  · intro shown built shownBar builtBar
    have same : shown.map serial = built.map serial := by
      rw [← map_serial_unstamped, ← map_serial_unstamped, shownBar, builtBar,
        upToDate.refresh_paging, upToDate.bar]
    exact ⟨patch_eq_self same, edits_eq_nil same⟩

/-- Once a table has been refreshed, it is up to date after every operation. -/
theorem run_upToDate (options : TableOptions) (hooks : Hooks) (operations : List Operation)
    (ignores : ∀ operation ∈ operations, operation.FilterIgnoresCells)
    (refreshed : (run { options, hooks } operations).WasRefreshed = true) :
    (run { options, hooks } operations).UpToDate ∧
      (run { options, hooks } operations).IsAtRest := by
  -- a new table is not up to date, but it has told nobody of any rows either
  have fresh : StaysUpToDate { options, hooks } := by
    refine ⟨?_, ?_⟩
    · intro filter member
      cases member
    · intro refreshed
      cases refreshed
  have upToDate := (run_staysUpToDate operations ignores fresh).upToDate refreshed
  exact ⟨upToDate, upToDate.isAtRest⟩

/-- Rows on two pages, one of them checked, with content that waits for the end
of a drag. -/
def tour : List Operation :=
  let record (number : Int) : Record := { id := .number number, contents := .text "" }
  [.update [record 1, record 2, record 3, record 4, record 5],
    .setExternal (some fun record => record.id ≠ .number 2),
    .setPageSize 3 none none,
    .check (.number 5) true,
    .shortcut .nextPage,
    .pointerDown 0 (some (.number 5)) 0,
    .pointerMove 0 4 [⟨.number 5, 0, 2⟩],
    .update [record 7]]

theorem run_upToDate_tour :
    (∀ operation ∈ tour, operation.FilterIgnoresCells) ∧ (run {} tour).WasRefreshed = true ∧
      (run {} tour).UpToDate ∧ (run {} tour).IsAtRest := by
  have ignores : ∀ operation ∈ tour, operation.FilterIgnoresCells := by
    simp [tour, Operation.FilterIgnoresCells, IgnoresCells]
  have refreshed : (run {} tour).WasRefreshed = true := by decide +kernel
  exact ⟨ignores, refreshed, run_upToDate {} {} tour ignores refreshed⟩

/-- A filter that looks at the cells may reject a record for having been
displayed. -/
example :
    let records : List Record := [{ id := .number 1, contents := .text "" }]
    let table := run {} [.setExternal (some (·.cells.isNone)), .update records]
    table.filteredRecords.map table.accepts = [false] := by decide +kernel

end Table

end PagedTable
