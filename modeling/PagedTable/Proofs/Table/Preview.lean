import PagedTable.Proofs.Gesture.Stretch
import PagedTable.Proofs.Table.Drop
import PagedTable.Proofs.Table.UpToDate

/-! # Previews of a drop

During a drag a table shows how its page would stand after a drop. The preview
moves rows within the page, while the drop moves records in the whole content,
which is then filtered and cut into pages again. -/

namespace PagedTable

namespace Table

/-! ## The page, from the content alone -/

theorem filterMap_getElem?_zipIdx {α : Type} (values : List α) (passes : α → Bool) :
    ((values.zipIdx.filter fun entry => passes entry.1).map (·.2)).filterMap (values[·]?) =
      values.filter passes := by
  have found : ∀ entry ∈ values.zipIdx.filter fun entry => passes entry.1,
      values[entry.2]? = some entry.1 := by
    intro entry member
    exact List.mk_mem_zipIdx_iff_getElem?.mp (List.mem_of_mem_filter member)
  calc
    _ = (values.zipIdx.filter fun entry => passes entry.1).filterMap (values[·.2]?) :=
      List.filterMap_map
    _ = (values.zipIdx.filter fun entry => passes entry.1).filterMap (some ·.1) :=
      List.filterMap_congr found
    _ = (values.zipIdx.filter fun entry => passes entry.1).map (·.1) := by
      rw [List.filterMap_eq_map']
    _ = (values.zipIdx.map (·.1)).filter passes := List.filter_map.symm
    _ = values.filter passes := by rw [List.zipIdx_map_fst]

def passingIds (table : Table) : List RecordId :=
  (table.content.filter table.accepts).map Record.id

theorem filteredIds_refilter (table : Table) : table.refilter.filteredIds = table.passingIds :=
  congrArg (List.map Record.id) (filterMap_getElem?_zipIdx table.content table.accepts)

theorem filteredIds_eq_filterMap (table : Table) :
    table.filteredIds = table.filtered.filterMap (table.contentIds[·]?) := by
  simp [filteredIds, filteredRecords, contentIds, List.map_filterMap]

theorem pageIds_eq_filterMap (table : Table) :
    table.pageIds = (table.pageSpan.of table.filtered).filterMap (table.contentIds[·]?) := by
  simp [pageIds, pageRecords, contentIds, List.map_filterMap]

/-- Filling cells displays the same records. -/
theorem filteredIds_refresh (table : Table) : table.refresh.filteredIds = table.passingIds := by
  rw [← filteredIds_refilter, filteredIds_eq_filterMap, filteredIds_eq_filterMap,
    refresh_contentIds, refresh_filtered]
  rfl

theorem pageSpan_refresh_congr {first second : Table} (options : first.options = second.options)
    (page : first.page = second.page)
    (count : first.refresh.filtered.length = second.refresh.filtered.length) :
    first.refresh.pageSpan = second.refresh.pageSpan := by
  rw [refresh_pageSpan, refresh_pageSpan, refresh_page, refresh_page, refresh_paging,
    refresh_paging, options, page, count]

namespace UpToDate

variable {table : Table}

theorem isSome_contentIds (upToDate : table.UpToDate) :
    ∀ place ∈ table.filtered, (table.contentIds[place]?).isSome = true := by
  intro place member
  rw [contentIds, List.getElem?_map, Option.isSome_map]
  exact upToDate.isSome_getElem? place member

theorem filteredIds_eq (upToDate : table.UpToDate) : table.filteredIds = table.passingIds := by
  rw [← filteredIds_refresh, upToDate.refresh_eq]
  rfl

theorem length_filteredIds (upToDate : table.UpToDate) :
    table.filteredIds.length = table.filtered.length := by
  rw [filteredIds_eq_filterMap, List.filterMap_length_eq_length]
  exact upToDate.isSome_contentIds

theorem pageIds_eq (upToDate : table.UpToDate) :
    table.pageIds = table.pageSpan.of table.filteredIds := by
  rw [pageIds_eq_filterMap, filteredIds_eq_filterMap, Span.filterMap_of upToDate.isSome_contentIds]

end UpToDate

/-! ## Before anything is displayed -/

theorem wasRefreshed_refresh (table : Table) (notices : List Notice) :
    (table.refresh.note notices).WasRefreshed = true := by
  simp [WasRefreshed, note, refresh_journal, Notice.isRowsUpdated]

theorem Outcome.content_eq_nil {table after : Table} {operation : Operation}
    (outcome : Outcome table operation after)
    (empty : table.WasRefreshed = false → table.content = []) (new : after.WasRefreshed = false) :
    after.content = [] := by
  cases outcome with
  | refreshed changed notices =>
      rw [changed.wasRefreshed_refresh] at new
      cases new
  | untouched gesture pending notices silent =>
      rw [WasRefreshed, List.any_append, silent, Bool.or_false] at new
      exact empty new

theorem content_run_eq_nil {table : Table} (operations : List Operation)
    (empty : table.WasRefreshed = false → table.content = [])
    (new : (table.run operations).WasRefreshed = false) : (table.run operations).content = [] :=
  run_keeps (fun other => other.WasRefreshed = false → other.content = []) empty operations
    (fun other still operation _ => (other.perform_outcome operation).content_eq_nil still) new

theorem staysUpToDate_new (options : TableOptions) (hooks : Hooks) :
    StaysUpToDate { options, hooks } := by
  refine ⟨?_, ?_⟩
  · intro filter member
    cases member
  · intro refreshed
    cases refreshed

theorem pageIds_eq_nil {table : Table} (empty : table.contentIds = []) : table.pageIds = [] := by
  rw [pageIds_eq_filterMap, empty]
  simp

/-! ## The page after a drop -/

theorem perm_moved (move : Option Move) (records : List Record) :
    (moved move records).Perm records := by
  cases move with
  | none => exact .refl records
  | some move => exact move.perm_apply Record.id records

theorem preview?_of_held {table : Table} {drag : Drag} (held : table.gesture = .dragging drag) :
    table.preview? = some (match drag.target with
      | some target => (Move.mk drag.moving target).apply id table.pageIds
      | none => table.pageIds) := by
  rw [preview?, held]
  rfl

theorem perform_drop {table : Table} {drag : Drag} (held : table.gesture = .dragging drag)
    (nothing : table.pending = none) (extend : Bool) :
    ∃ notices, (table.perform (.pointerUp drag.pointer extend)).2 =
      ({ table with
          gesture := .idle
          content := moved (drag.target.map (Move.mk drag.moving)) table.content }.note
        notices).refresh := by
  have whole : (table.perform (.pointerUp drag.pointer extend)).2 =
      (table.pointerUp drag.pointer extend).2 := rfl
  rw [whole, pointerUp_of_held held, finishDrop_eq]
  dsimp only
  rw [nothing]
  exact ⟨_, rfl⟩

def pageAfter (table : Table) (move : Option Move) : List RecordId :=
  table.pageSpan.of (((moved move table.content).filter table.accepts).map Record.id)

theorem pageIds_drop {table : Table} (upToDate : table.UpToDate)
    (ignores : table.FilterIgnoresCells) {drag : Drag} (held : table.gesture = .dragging drag)
    (nothing : table.pending = none) (extend : Bool) :
    (table.perform (.pointerUp drag.pointer extend)).2.pageIds =
      table.pageAfter (drag.target.map (Move.mk drag.moving)) := by
  rcases perform_drop held nothing extend with ⟨notices, whole⟩
  rw [whole]
  let changed : Table := { table with
    gesture := .idle
    content := moved (drag.target.map (Move.mk drag.moving)) table.content }.note notices
  change changed.refresh.pageIds = _
  have changedUpToDate : changed.refresh.UpToDate := refresh_upToDate ignores
  have count : changed.refresh.filtered.length = table.refresh.filtered.length := by
    rw [← changedUpToDate.length_filteredIds, ← (refresh_upToDate ignores).length_filteredIds,
      filteredIds_refresh, filteredIds_refresh]
    exact (((perm_moved _ table.content).filter _).map Record.id).length_eq
  have span : changed.refresh.pageSpan = table.refresh.pageSpan :=
    pageSpan_refresh_congr rfl rfl count
  rw [changedUpToDate.pageIds_eq, filteredIds_refresh, span, upToDate.refresh_pageSpan]
  rfl

/-! ## What the preview foretells -/

theorem moved_of_refused {moving : List RecordId} {target : Option Target}
    {records : List Record}
    (refused : ∀ place ∈ target, (Move.mk moving place).applies (records.map Record.id) = false) :
    moved (target.map (Move.mk moving)) records = records := by
  cases target with
  | none => rfl
  | some target => exact Move.apply_of_refused (refused target rfl)

theorem preview?_of_refused {table : Table} {drag : Drag} (held : table.gesture = .dragging drag)
    (refused : ∀ target ∈ drag.target,
      (Move.mk drag.moving target).applies table.pageIds = false) :
    table.preview? = some table.pageIds := by
  rw [preview?_of_held held]
  cases known : drag.target with
  | none => rfl
  | some target =>
      have stays := refused target known
      rw [← List.map_id table.pageIds] at stays
      exact congrArg some (Move.apply_of_refused stays)

/-- Whether the rows of a page that a move leaves alone keep their places when
the move is made in the whole list: no row moves there from in front of the page,
unless the block heads the page, and none from behind it, unless the block ends
the page. -/
def Fits (move : Move) (table : Table) : Prop :=
  ((∀ id ∈ table.filteredIds.take table.pageSpan.start, id ∉ move.ids) ∨
    move.Heads table.pageIds) ∧
  ((∀ id ∈ table.filteredIds.drop table.pageSpan.stop, id ∉ move.ids) ∨
    move.Ends table.pageIds)

/-- Whether a move is made on one side of the page, with all of the page on the
other. -/
def Misses (move : Move) (table : Table) : Prop :=
  ∃ front back, table.contentIds = front ++ back ∧
    ((move.applies front = true ∧ (∀ id ∈ back, id ∉ move.ids) ∧
        ∀ id ∈ table.pageIds, id ∉ front) ∨
      (move.applies back = true ∧ (∀ id ∈ front, id ∉ move.ids) ∧
        ∀ id ∈ table.pageIds, id ∉ back))

/-- A move next to a record that passes is seen through the filters as the same
move. -/
theorem passingIds_moved {table : Table} (nodup : table.contentIds.Nodup) {move : Move}
    (shown : move.target.anchor ∈ table.passingIds) :
    ((moved (some move) table.content).filter table.accepts).map Record.id =
      move.apply id table.passingIds := by
  rcases List.mem_map.mp shown with ⟨anchor, passes, sameId⟩
  have anchorPasses : ∀ record ∈ table.content, record.id = move.target.anchor →
      table.accepts record = true := by
    intro record member named
    have same := List.inj_on_of_nodup_map nodup member (List.mem_of_mem_filter passes)
      (named.trans sameId.symm)
    rw [same]
    exact (List.mem_filter.mp passes).2
  rw [passingIds, ← Move.map_apply, ← Move.filter_apply anchorPasses]
  rfl

theorem UpToDate.pageAfter_eq_iff {table : Table} (upToDate : table.UpToDate)
    (nodup : table.contentIds.Nodup) {move : Move}
    (applies : move.applies table.pageIds = true) :
    table.pageAfter (some move) = move.apply id table.pageIds ↔ Fits move table := by
  have shown : table.filteredIds.Nodup := by
    rw [upToDate.filteredIds_eq]
    exact nodup.sublist (List.filter_sublist.map Record.id)
  have ordered : table.pageSpan.start ≤ table.pageSpan.stop := by
    rw [upToDate.pageSpan]
    exact Paging.start_pageSpan_le _ _ _
  have within : table.pageSpan.stop ≤ table.filteredIds.length := by
    rw [upToDate.length_filteredIds, upToDate.pageSpan]
    exact Paging.stop_pageSpan_le _ _ _
  have anchorPasses : move.target.anchor ∈ table.passingIds := by
    have onPage := (Move.applies_iff.mp applies).2
    rw [upToDate.pageIds_eq, upToDate.filteredIds_eq] at onPage
    exact Span.mem_of_mem onPage
  rw [pageAfter, passingIds_moved nodup anchorPasses, ← upToDate.filteredIds_eq, Fits]
  rw [upToDate.pageIds_eq] at applies ⊢
  exact Move.of_apply_eq_iff shown ordered within applies

theorem UpToDate.pageAfter_of_misses {table : Table} (upToDate : table.UpToDate)
    (nodup : table.contentIds.Nodup) {move : Move} (misses : Misses move table) :
    table.pageAfter (some move) = table.pageIds := by
  rcases misses with ⟨front, back, split, side⟩
  rcases List.map_eq_append_iff.mp split with ⟨early, late, content, rfl, rfl⟩
  have page : table.pageIds = table.pageSpan.of
      ((early.filter table.accepts).map Record.id ++
        (late.filter table.accepts).map Record.id) := by
    rw [upToDate.pageIds_eq, upToDate.filteredIds_eq, passingIds, content, List.filter_append,
      List.map_append]
  have listed : ∀ {records : List Record} {id : RecordId},
      id ∈ (records.filter table.accepts).map Record.id → id ∈ records.map Record.id :=
    fun member => (List.filter_sublist.map Record.id).subset member
  have count : ∀ records : List Record,
      (((move.apply Record.id records).filter table.accepts).map Record.id).length =
        ((records.filter table.accepts).map Record.id).length :=
    fun records => (((move.perm_apply Record.id records).filter _).map _).length_eq
  rw [page] at side ⊢
  rcases side with ⟨applies, stays, unseen⟩ | ⟨applies, stays, unseen⟩
  · have whole : moved (some move) table.content = move.apply Record.id early ++ late := by
      rw [content]
      exact Move.apply_append_of_front applies (by simpa using stays)
    rw [pageAfter, whole, List.filter_append, List.map_append]
    exact Span.of_append_congr_left (count early) fun id seen => unseen id seen ∘ listed
  · have absent : move.target.anchor ∉ early.map Record.id := by
      intro first
      rw [split] at nodup
      exact nodup.disjoint first (Move.applies_iff.mp applies).2
    have whole : moved (some move) table.content = early ++ move.apply Record.id late := by
      rw [content]
      exact Move.apply_append_of_back applies (by simpa using stays) absent
    rw [pageAfter, whole, List.filter_append, List.map_append]
    exact Span.of_append_congr_right (count late) fun id seen => unseen id seen ∘ listed

theorem Misses.applies {table : Table} {move : Move} (misses : Misses move table) :
    move.applies table.contentIds = true ∧ move.applies table.pageIds = false := by
  rcases misses with ⟨front, back, split, side⟩
  obtain ⟨part, within, applies, unseen⟩ : ∃ part, part ⊆ table.contentIds ∧
      move.applies part = true ∧ ∀ id ∈ table.pageIds, id ∉ part := by
    rw [split]
    rcases side with ⟨applies, -, unseen⟩ | ⟨applies, -, unseen⟩
    · exact ⟨front, List.subset_append_left front back, applies, unseen⟩
    · exact ⟨back, List.subset_append_right front back, applies, unseen⟩
  have parts := Move.applies_iff.mp applies
  refine ⟨Move.applies_iff.mpr ⟨parts.1, within parts.2⟩, Bool.eq_false_iff.mpr ?_⟩
  exact fun onPage => unseen _ (Move.applies_iff.mp onPage).2 parts.2

theorem applies_contentIds {table : Table} {move : Move}
    (applies : move.applies table.pageIds = true) : move.applies table.contentIds = true := by
  have parts := Move.applies_iff.mp applies
  exact Move.applies_iff.mpr ⟨parts.1, table.pageIds_subset parts.2⟩

theorem pageIds_drop_of_new {table : Table} (empty : table.content = []) {drag : Drag}
    (held : table.gesture = .dragging drag) (nothing : table.pending = none) (extend : Bool) :
    (table.perform (.pointerUp drag.pointer extend)).2.pageIds = table.pageIds := by
  have noIds : table.contentIds = [] := by
    rw [contentIds, empty]
    rfl
  rcases perform_drop held nothing extend with ⟨notices, whole⟩
  rw [whole, pageIds_eq_nil noIds]
  apply pageIds_eq_nil
  have still : moved (drag.target.map (Move.mk drag.moving)) table.content = [] := by
    rw [empty]
    exact (perm_moved _ []).eq_nil
  rw [refresh_contentIds]
  exact congrArg (List.map Record.id) still

theorem wasRefreshed_of_mem {options : TableOptions} {hooks : Hooks}
    {operations : List Operation} {id : RecordId}
    (known : id ∈ (({ options, hooks } : Table).run operations).contentIds) :
    (({ options, hooks } : Table).run operations).WasRefreshed = true := by
  by_contra new
  have empty := content_run_eq_nil operations (fun _ => rfl) (Bool.eq_false_iff.mpr new)
  rw [contentIds, empty] at known
  cases known

/-- A preview is what a drop would leave on the page, unless rows from other
pages are dropped among those of the page. A filter that looks at the cells is set
aside, as it may let other rows pass by the time of the drop. -/
theorem preview_foretells_drop (options : TableOptions) (hooks : Hooks)
    (operations : List Operation)
    (ignores : ∀ operation ∈ operations, operation.FilterIgnoresCells) :
    let table := ({ options, hooks } : Table).run operations
    table.contentIds.Nodup → table.pending = none →
    ∀ (drag : Drag) (extend : Bool), table.gesture = .dragging drag →
    let ended := (table.perform (.pointerUp drag.pointer extend)).2
    ∃ ids, table.preview? = some ids ∧
      ((∀ target ∈ drag.target, (Move.mk drag.moving target).applies table.contentIds = false) →
        ended.pageIds = ids) ∧
      (∀ target ∈ drag.target, Misses ⟨drag.moving, target⟩ table → ended.pageIds = ids) ∧
      ∀ target ∈ drag.target, (Move.mk drag.moving target).applies table.pageIds = true →
        (ended.pageIds = ids ↔ Fits ⟨drag.moving, target⟩ table) := by
  intro table nodup nothing drag extend held ended
  have stays : table.StaysUpToDate := run_staysUpToDate operations ignores (staysUpToDate_new _ _)
  obtain ⟨ids, shown⟩ : ∃ ids, table.preview? = some ids := ⟨_, preview?_of_held held⟩
  have unchanged : (∀ target ∈ drag.target,
      (Move.mk drag.moving target).applies table.pageIds = false) → ids = table.pageIds :=
    fun refused => Option.some.inj (shown.symm.trans (preview?_of_refused held refused))
  refine ⟨ids, shown, ?_, ?_, ?_⟩
  · intro refused
    have refusedOnPage : ∀ target ∈ drag.target,
        (Move.mk drag.moving target).applies table.pageIds = false := by
      intro target aimed
      apply Bool.eq_false_iff.mpr
      intro applies
      exact Bool.eq_false_iff.mp (refused target aimed) (applies_contentIds applies)
    rw [unchanged refusedOnPage]
    cases refreshed : table.WasRefreshed with
    | false =>
        have empty := content_run_eq_nil operations (fun _ => rfl) refreshed
        exact pageIds_drop_of_new empty held nothing extend
    | true =>
        have upToDate := stays.upToDate refreshed
        have drop := pageIds_drop upToDate stays.ignores held nothing extend
        rw [pageAfter, moved_of_refused refused] at drop
        rw [upToDate.pageIds_eq, upToDate.filteredIds_eq]
        exact drop
  · intro target aimed misses
    have refusedOnPage : ∀ other ∈ drag.target,
        (Move.mk drag.moving other).applies table.pageIds = false := by
      intro other also
      rw [Option.mem_unique also aimed]
      exact misses.applies.2
    have known := (Move.applies_iff.mp misses.applies.1).2
    have upToDate := stays.upToDate (wasRefreshed_of_mem known)
    have drop := pageIds_drop upToDate stays.ignores held nothing extend
    rw [aimed] at drop
    rw [unchanged refusedOnPage]
    exact drop.trans (upToDate.pageAfter_of_misses nodup misses)
  · intro target aimed applies
    have known := (Move.applies_iff.mp (applies_contentIds applies)).2
    have upToDate := stays.upToDate (wasRefreshed_of_mem known)
    have drop := pageIds_drop upToDate stays.ignores held nothing extend
    have moves := preview?_of_held held
    rw [aimed] at drop moves
    rw [Option.some.inj (shown.symm.trans moves), ← upToDate.pageAfter_eq_iff nodup applies]
    exact Eq.congr_left drop

/-- Two records to a page, some of them checked, and a drag on the second page. -/
def dragOnSecondPage (checked : List Int) (row origin line : Int) : List Operation :=
  let record (number : Int) : Record := { id := .number number, contents := .text "" }
  [.update [record 1, record 2, record 3, record 4, record 5, record 6]] ++
    checked.map (fun number => .check (.number number) true) ++
    [.setPage 2,
      .pointerDown 0 (some (.number row)) origin,
      .pointerMove 0 line [⟨.number 3, 0, 2⟩, ⟨.number 4, 2, 2⟩]]

/-- The first row of the page is not pushed out by the row that comes along, as
both are dropped above it. A drag that was aimed on one page leaves the next one
alone. -/
theorem preview_foretells_drop_at_top :
    let options : TableOptions := { pageSize := 2 }
    let onPage := dragOnSecondPage [1, 4] 4 3 0
    let offPage := dragOnSecondPage [3] 3 0 3 ++ [.setPage 3]
    let first := run { options } onPage
    let second := run { options } offPage
    (∀ operation ∈ onPage ++ offPage, operation.FilterIgnoresCells) ∧
      first.contentIds.Nodup ∧ first.pending = none ∧
      first.gesture = .dragging ⟨[.number 1, .number 4], some ⟨.number 3, .before⟩, 0, 0, none⟩ ∧
      first.preview? = some [.number 4, .number 3] ∧
      (first.perform (.pointerUp 0 false)).2.pageIds = [.number 4, .number 3] ∧
      second.contentIds.Nodup ∧ second.pending = none ∧
      second.gesture = .dragging ⟨[.number 3], some ⟨.number 4, .after⟩, 0, 3, none⟩ ∧
      second.preview? = some [.number 5, .number 6] ∧
      (second.perform (.pointerUp 0 false)).2.pageIds = [.number 5, .number 6] := by
  intro options onPage offPage first second
  have ignores : ∀ operation ∈ onPage ++ offPage, operation.FilterIgnoresCells := by
    simp [onPage, offPage, dragOnSecondPage, Operation.FilterIgnoresCells]
  have firstNodup : first.contentIds.Nodup := by decide +kernel
  have firstPending : first.pending = none := by decide +kernel
  have firstHeld : first.gesture =
      .dragging ⟨[.number 1, .number 4], some ⟨.number 3, .before⟩, 0, 0, none⟩ := by
    decide +kernel
  have firstPreview : first.preview? = some [.number 4, .number 3] := by decide +kernel
  have fits : Fits ⟨[.number 1, .number 4], ⟨.number 3, .before⟩⟩ first := by
    refine ⟨Or.inr ⟨rfl, by decide +kernel⟩, Or.inl (by decide +kernel)⟩
  have secondNodup : second.contentIds.Nodup := by decide +kernel
  have secondPending : second.pending = none := by decide +kernel
  have secondHeld : second.gesture =
      .dragging ⟨[.number 3], some ⟨.number 4, .after⟩, 0, 3, none⟩ := by
    decide +kernel
  have secondPreview : second.preview? = some [.number 5, .number 6] := by decide +kernel
  have misses : Misses ⟨[.number 3], ⟨.number 4, .after⟩⟩ second := by
    refine ⟨[.number 1, .number 2, .number 3, .number 4], [.number 5, .number 6], ?_, Or.inl ?_⟩
    · decide +kernel
    · decide +kernel
  rcases preview_foretells_drop options {} onPage
    (fun operation member => ignores operation (List.mem_append_left _ member)) firstNodup
    firstPending _ false firstHeld with ⟨ids, shown, -, -, inPlace⟩
  rcases preview_foretells_drop options {} offPage
    (fun operation member => ignores operation (List.mem_append_right _ member)) secondNodup
    secondPending _ false secondHeld with ⟨others, alsoShown, -, elsewhere, -⟩
  rw [Option.some.inj (shown.symm.trans firstPreview)] at inPlace
  rw [Option.some.inj (alsoShown.symm.trans secondPreview)] at elsewhere
  exact ⟨ignores, firstNodup, firstPending, firstHeld, firstPreview,
    (inPlace _ rfl (by decide +kernel)).mpr fits, secondNodup, secondPending, secondHeld,
    secondPreview, elsewhere _ rfl misses⟩

/-- The preview moves what is on the page, while the drop brings a row in from
the page before, and pushes the first row out. -/
theorem preview_misses_rows_from_other_pages :
    let table := run { options := { pageSize := 2 } } (dragOnSecondPage [1, 3] 3 0 3)
    table.contentIds.Nodup ∧ table.pending = none ∧
      table.preview? = some [.number 4, .number 3] ∧
      (table.perform (.pointerUp 0 false)).2.pageIds = [.number 1, .number 3] := by
  decide +kernel

end Table

end PagedTable
