import PagedTable.Table.Refresh
import PagedTable.Proofs.Drawn.Patch

/-! # What a refresh makes of a table

A refresh leaves alone what it starts from: the options, the filters, the
gesture, the content that waits, and the content but for the cells of the
records on display. Everything else it makes from these. -/

namespace PagedTable

/-! ## Records and the cells kept with them -/

namespace Record

theorem fill_of_isSome {record : Record} (hooks : Hooks) (filled : record.cells.isSome = true) :
    record.fill hooks = record := by
  rcases Option.isSome_iff_exists.mp filled with ⟨cells, known⟩
  rw [fill, known]

/-- Only the cells can change when a record is filled. -/
theorem fill_eq (hooks : Hooks) (record : Record) :
    ∃ cells : List String, record.fill hooks = { record with cells := some cells } := by
  rcases record with ⟨id, contents, cells⟩
  cases cells with
  | none => exact ⟨(hooks.fill.map (· ⟨id, contents, none⟩)).getD [], rfl⟩
  | some cells => exact ⟨cells, rfl⟩

theorem id_fill (hooks : Hooks) (record : Record) : (record.fill hooks).id = record.id := by
  rcases record.fill_eq hooks with ⟨cells, equal⟩
  rw [equal]

theorem isSome_cells_fill (hooks : Hooks) (record : Record) :
    (record.fill hooks).cells.isSome = true := by
  rcases record.fill_eq hooks with ⟨cells, equal⟩
  rw [equal]
  rfl

end Record

theorem Filter.accepts_cells (filter : Filter) (record : Record) (cells : Option (List String)) :
    filter.accepts { record with cells } = filter.accepts record := by
  induction filter with
  | anywhere text => rfl
  | field name relation text => rfl
  | both left right leftInduction rightInduction =>
      rw [accepts, accepts, leftInduction, rightInduction]
  | either left right leftInduction rightInduction =>
      rw [accepts, accepts, leftInduction, rightInduction]
  | negated inner induction => rw [accepts, accepts, induction]

theorem Query.accepts_cells (query : Query) (record : Record) (cells : Option (List String)) :
    query.accepts { record with cells } = query.accepts record := by
  unfold Query.accepts
  cases query.tree with
  | none => rfl
  | some filter => exact filter.accepts_cells record cells

namespace Table

/-! ## The page with its cells -/

theorem pageIds_subset (table : Table) : table.pageIds ⊆ table.contentIds := by
  intro id member
  rcases List.mem_map.mp member with ⟨record, shown, rfl⟩
  rcases List.mem_filterMap.mp shown with ⟨place, _, known⟩
  exact List.mem_map_of_mem (List.mem_of_getElem? known)

/-- The table when it is known which records are on display, but these have not
been drawn. -/
def paged (table : Table) : Table :=
  table.refilter.revalidate.repage

def filledContent (table : Table) : List Record :=
  table.content.zipIdx.map fun entry =>
    if entry.2 ∈ table.pageSpan.of table.filtered then entry.1.fill table.hooks else entry.1

def fillNotices (table : Table) : List Notice :=
  if table.hooks.fill.isSome then
    (table.pageRecords.filter (·.cells.isNone)).map (.filled ·.id)
  else []

theorem fillPage_eq (table : Table) :
    table.fillPage =
      { table with
        content := table.filledContent
        journal := table.journal ++ table.fillNotices } := by
  unfold fillPage fillNotices
  split
  · rfl
  · rw [List.append_nil]
    rfl

theorem getElem?_filledContent (table : Table) (place : Nat) :
    table.filledContent[place]? =
      table.content[place]?.map fun record =>
        if place ∈ table.pageSpan.of table.filtered then record.fill table.hooks else record := by
  rw [filledContent, List.getElem?_map, List.getElem?_zipIdx, Option.map_map, Nat.zero_add]
  rfl

/-- No cells are missing when all records on display have some. -/
theorem filledContent_eq_self {table : Table}
    (filled : ∀ record ∈ table.pageRecords, record.cells.isSome = true) :
    table.filledContent = table.content := by
  apply List.ext_getElem?
  intro place
  rw [getElem?_filledContent]
  cases known : table.content[place]? with
  | none => rfl
  | some record =>
      by_cases shown : place ∈ table.pageSpan.of table.filtered
      · have onPage : record ∈ table.pageRecords :=
          List.mem_filterMap.mpr ⟨place, shown, known⟩
        rw [Option.map_some, if_pos shown, record.fill_of_isSome _ (filled record onPage)]
      · rw [Option.map_some, if_neg shown]

theorem fillNotices_eq_nil {table : Table}
    (filled : ∀ record ∈ table.pageRecords, record.cells.isSome = true) :
    table.fillNotices = [] := by
  have none : table.pageRecords.filter (·.cells.isNone) = [] := by
    rw [List.filter_eq_nil_iff]
    intro record member missing
    have known := filled record member
    rw [Option.isNone_iff_eq_none] at missing
    rw [missing] at known
    cases known
  rw [fillNotices, none]
  exact ite_self _

theorem map_id_filledContent (table : Table) :
    table.filledContent.map Record.id = table.contentIds := by
  -- place by place, since the places filled are known by their numbers
  apply List.ext_getElem?
  intro place
  rw [contentIds, List.getElem?_map, List.getElem?_map, getElem?_filledContent, Option.map_map]
  congr 1
  funext record
  rw [Function.comp_apply]
  split
  · exact record.id_fill table.hooks
  · rfl

/-! ## What a refresh leaves alone -/

theorem refresh_eq (table : Table) :
    table.refresh =
      let filled :=
        { table.paged with
          content := table.paged.filledContent
          journal := table.journal ++ table.paged.fillNotices }
      filled.redraw.recount.note [.rowsUpdated filled.redraw.recount.stats] := by
  rw [refresh, fillPage_eq]
  rfl

theorem refresh_options (table : Table) : table.refresh.options = table.options := by
  rw [refresh_eq]; rfl

theorem refresh_hooks (table : Table) : table.refresh.hooks = table.hooks := by
  rw [refresh_eq]; rfl

theorem refresh_pending (table : Table) : table.refresh.pending = table.pending := by
  rw [refresh_eq]; rfl

theorem refresh_query (table : Table) : table.refresh.query = table.query := by
  rw [refresh_eq]; rfl

theorem refresh_external (table : Table) : table.refresh.external = table.external := by
  rw [refresh_eq]; rfl

theorem refresh_gesture (table : Table) : table.refresh.gesture = table.gesture := by
  rw [refresh_eq]; rfl

theorem refresh_isDragging (table : Table) : table.refresh.isDragging = table.isDragging := by
  rw [isDragging, refresh_gesture]; rfl

theorem refresh_content (table : Table) :
    table.refresh.content = table.paged.filledContent := by
  rw [refresh_eq]; rfl

theorem refresh_contentIds (table : Table) : table.refresh.contentIds = table.contentIds := by
  rw [contentIds, refresh_content, map_id_filledContent]
  rfl

/-! ## What a refresh makes -/

theorem refresh_filtered (table : Table) :
    table.refresh.filtered = table.refilter.filtered := by
  rw [refresh_eq]; rfl

theorem refresh_selection (table : Table) :
    table.refresh.selection = table.selection.validate table.contentIds := by
  rw [refresh_eq]; rfl

theorem refresh_paging (table : Table) :
    table.refresh.paging =
      Paging.paginate table.refresh.filtered.length table.options.pageSize table.page
        table.options.maxLinks := by
  rw [refresh_filtered, refresh_eq]; rfl

theorem refresh_page (table : Table) : table.refresh.page = table.refresh.paging.current := by
  rw [refresh_eq]; rfl

theorem refresh_pageSpan (table : Table) :
    table.refresh.pageSpan =
      Paging.pageSpan table.refresh.filtered.length table.options.pageSize table.refresh.page := by
  rw [refresh_eq]; rfl

/-- The page is chosen before it is filled. -/
theorem refresh_places (table : Table) :
    table.refresh.pageSpan.of table.refresh.filtered =
      table.paged.pageSpan.of table.paged.filtered := by
  rw [refresh_eq]; rfl

theorem refresh_bar (table : Table) :
    table.refresh.bar = patch table.bar (table.refresh.paging.bar table.options.showDots) := by
  rw [refresh_eq]; rfl

theorem refresh_barEdits (table : Table) :
    table.refresh.barEdits =
      edits table.bar (table.refresh.paging.bar table.options.showDots) := by
  rw [refresh_eq]; rfl

theorem refresh_rows (table : Table) :
    table.refresh.rows =
      patchRows table.rows (table.refresh.pageRecords.map table.refresh.buildRow) := by
  rw [refresh_eq]; rfl

theorem refresh_rowEdits (table : Table) :
    table.refresh.rowEdits =
      PagedTable.rowEdits table.rows (table.refresh.pageRecords.map table.refresh.buildRow) := by
  rw [refresh_eq]; rfl

theorem refresh_stats (table : Table) :
    table.refresh.stats =
      { total := table.refresh.content.length
        filtered := table.refresh.filtered.length
        pageRows := table.refresh.pageSpan.length
        current := table.refresh.page
        pageCount := table.refresh.paging.pageCount
        checked := table.refresh.selection.count
        pageChecked := table.refresh.pageChecked
        info := table.refresh.infoText } := by
  rw [refresh_eq]; rfl

theorem refresh_journal (table : Table) :
    table.refresh.journal =
      table.journal ++ table.paged.fillNotices ++ [.rowsUpdated table.refresh.stats] := by
  rw [refresh_eq]; rfl

/-- A refresh tells of cells and of rows, and of nothing else. -/
theorem filterMap_journal_refresh {α : Type} {read : Notice → Option α}
    (filled : ∀ id, read (.filled id) = none) (updated : ∀ stats, read (.rowsUpdated stats) = none)
    (table : Table) :
    table.refresh.journal.filterMap read = table.journal.filterMap read := by
  have silent : table.paged.fillNotices.filterMap read = [] := by
    apply List.filterMap_eq_nil_iff.mpr
    intro notice member
    unfold fillNotices at member
    split at member
    · rcases List.mem_map.mp member with ⟨record, _, rfl⟩
      exact filled record.id
    · cases member
  rw [refresh_journal, List.filterMap_append, List.filterMap_append, silent, List.append_nil,
    List.filterMap_cons_none (updated _)]
  exact List.append_nil _

end Table

end PagedTable
