import PagedTable.Proofs.Paging.Entries
import PagedTable.Proofs.Paging.Partition
import PagedTable.Proofs.Table.Deferral
import PagedTable.Proofs.Table.UpToDate

/-! # Turning to a page

A table that is up to date shows, once another page is chosen, the records that
this page has in the filtered list. The list itself stays as it was, but for
cells that are filled on the way. -/

namespace PagedTable

namespace Record.IsShown

variable {hooks : Hooks} {given between shown : Record}

theorem refl (hooks : Hooks) (record : Record) : IsShown hooks record record :=
  Or.inl rfl

theorem trans (first : IsShown hooks given between) (second : IsShown hooks between shown) :
    IsShown hooks given shown := by
  rcases first with rfl | rfl
  · exact second
  · -- cells that have been filled stay
    rw [IsShown, fill_of_isSome hooks (given.isSome_cells_fill hooks), or_self] at second
    exact Or.inr second

theorem rel_trans {given between shown : Option Record}
    (first : Option.Rel (IsShown hooks) given between)
    (second : Option.Rel (IsShown hooks) between shown) :
    Option.Rel (IsShown hooks) given shown := by
  cases first with
  | none => exact second
  | some related =>
      cases second with
      | some further => exact .some (related.trans further)

theorem id_eq (related : IsShown hooks given shown) : shown.id = given.id := by
  rcases related with rfl | rfl
  · rfl
  · exact given.id_fill hooks

end Record.IsShown

namespace Table

/-! ## The same list -/

theorem rel_getElem? {α β : Type} {R : α → β → Prop} {first : List α} {second : List β}
    (related : List.Forall₂ R first second) (place : Nat) :
    Option.Rel R first[place]? second[place]? := by
  induction related generalizing place with
  | nil => exact .none
  | cons head rest induction =>
      cases place with
      | zero => exact .some head
      | succ place => exact induction place

/-- Whether a table lists what an earlier one listed. Cells may have been filled
since. -/
structure KeepsList (table earlier : Table) : Prop where
  options : table.options = earlier.options
  hooks : table.hooks = earlier.hooks
  external : table.external = earlier.external
  filtered : table.filtered = earlier.filtered
  content : ∀ place : Nat,
    Option.Rel (Record.IsShown earlier.hooks) earlier.content[place]? table.content[place]?

namespace KeepsList

variable {table between earlier : Table}

theorem refl (table : Table) : table.KeepsList table := by
  refine ⟨rfl, rfl, rfl, rfl, fun place => ?_⟩
  cases table.content[place]? with
  | none => exact .none
  | some record => exact .some (.refl _ record)

theorem trans (second : table.KeepsList between) (first : between.KeepsList earlier) :
    table.KeepsList earlier := by
  refine ⟨second.options.trans first.options, second.hooks.trans first.hooks,
    second.external.trans first.external, second.filtered.trans first.filtered, fun place => ?_⟩
  have later := second.content place
  rw [first.hooks] at later
  exact Record.IsShown.rel_trans (first.content place) later

theorem filterIgnoresCells (keeps : table.KeepsList earlier)
    (ignores : earlier.FilterIgnoresCells) : table.FilterIgnoresCells := by
  rw [FilterIgnoresCells, keeps.external]
  exact ignores

/-- The records at some places, then and now. -/
theorem forall₂_filterMap (keeps : table.KeepsList earlier) (places : List Nat) :
    List.Forall₂ (Record.IsShown earlier.hooks) (places.filterMap (earlier.content[·]?))
      (places.filterMap (table.content[·]?)) := by
  refine List.rel_filterMap (R := Eq) ?_ (List.forall₂_eq_eq_eq ▸ rfl)
  rintro place _ rfl
  exact keeps.content place

end KeepsList

/-! ## One page -/

def recordsOfPage (table : Table) (page : Nat) : List Record :=
  (Paging.pageSpan table.filtered.length table.options.pageSize page).of table.filteredRecords

structure ShowsPage (table earlier : Table) (page : Nat) : Prop where
  current : table.page = page
  records : List.Forall₂ (Record.IsShown earlier.hooks) (earlier.recordsOfPage page)
    table.pageRecords
  /-- The rows look as they do when they are built from these records. -/
  rows : table.rows.map Row.look = (table.pageRecords.map table.buildRow).map Row.look

theorem ShowsPage.rowIds {table earlier : Table} {page : Nat}
    (shows : table.ShowsPage earlier page) :
    table.rows.map (·.head.id) = (earlier.recordsOfPage page).map Record.id := by
  have heads := congrArg (List.map fun look => look.1.id) shows.rows
  rw [List.map_map, List.map_map, List.map_map] at heads
  have ids : List.Forall₂ Eq ((earlier.recordsOfPage page).map Record.id)
      (table.pageRecords.map Record.id) :=
    List.rel_map (fun _ _ related => related.id_eq.symm) shows.records
  exact heads.trans (List.forall₂_eq_eq_eq ▸ ids).symm

theorem setPage_upToDate {table : Table} (ignores : table.FilterIgnoresCells) (page : Nat) :
    (table.setPage page).UpToDate := by
  have sameIgnores : { table with page }.FilterIgnoresCells := ignores
  exact refresh_upToDate sameIgnores

namespace UpToDate

variable {table : Table}

theorem pageCount (upToDate : table.UpToDate) :
    table.paging.pageCount = Paging.countPages table.filtered.length table.options.pageSize := by
  rw [upToDate.paging]
  rfl

theorem setPage_keepsList (upToDate : table.UpToDate) (page : Nat) :
    (table.setPage page).KeepsList table := by
  refine ⟨refresh_options _, refresh_hooks _, refresh_external _, ?_, ?_⟩
  · -- the page number has no part in the filter
    exact (Table.refresh_filtered _).trans (table.refresh_filtered.symm.trans
      upToDate.refresh_filtered)
  · exact rel_getElem? (forall₂_refresh_content { table with page })

theorem page_setPage (upToDate : table.UpToDate) {page : Nat} (numbered : 1 ≤ page)
    (within : page ≤ table.paging.pageCount) : (table.setPage page).page = page := by
  rw [setPage, Table.refresh_page, Table.refresh_paging, Paging.current_paginate,
    Nat.max_eq_left numbered]
  change min page (Paging.countPages (table.setPage page).filtered.length _) = page
  rw [(upToDate.setPage_keepsList page).filtered]
  exact Nat.min_eq_left (upToDate.pageCount ▸ within)

theorem showsPage {earlier : Table} (upToDate : table.UpToDate) (keeps : table.KeepsList earlier)
    (known : ∀ place ∈ earlier.filtered, (earlier.content[place]?).isSome = true) :
    table.ShowsPage earlier table.page := by
  refine ⟨rfl, ?_, upToDate.map_look_rows⟩
  rw [recordsOfPage, filteredRecords, ← Span.filterMap_of known, pageRecords, upToDate.pageSpan,
    keeps.filtered, keeps.options]
  exact keeps.forall₂_filterMap _

/-- Turning to a page that there is. -/
theorem setPage_showsPage (upToDate : table.UpToDate) (ignores : table.FilterIgnoresCells)
    {page : Nat} (numbered : 1 ≤ page) (within : page ≤ table.paging.pageCount) :
    (table.setPage page).ShowsPage table page := by
  have shows := (setPage_upToDate ignores page).showsPage (upToDate.setPage_keepsList page)
    upToDate.isSome_getElem?
  rw [upToDate.page_setPage numbered within] at shows
  exact shows

end UpToDate

/-! ## Any run -/

/-- What holds of a table whatever filters were set on the way: nothing has been
shown so far, or the pages are those of the filtered list. -/
inductive Standing (table : Table) : Prop
  | fresh (silent : table.WasRefreshed = false) (filtered : table.filtered = [])
      (paging : table.paging = .empty)
  | shown
      (known : ∀ place ∈ table.filtered, (table.content[place]?).isSome = true)
      (pageCount : table.paging.pageCount =
        Paging.countPages table.filtered.length table.options.pageSize)
      (bar : table.bar = table.paging.bar table.options.showDots)
      (upToDate : table.FilterIgnoresCells → table.UpToDate)

theorem refresh_bar_eq (table : Table) :
    table.refresh.bar = table.refresh.paging.bar table.options.showDots := by
  rw [refresh_bar]
  exact patch_eq_new fun _ _ _ _ => PagerEntry.eq_of_serial_eq

theorem Outcome.standing {table after : Table} {operation : Operation}
    (outcome : Outcome table operation after) (standing : table.Standing) : after.Standing := by
  cases outcome with
  | refreshed changed notices hooks external =>
      refine .shown changed.isSome_getElem?_refresh ?_ ?_ ?_
      · change changed.refresh.paging.pageCount =
          Paging.countPages changed.refresh.filtered.length changed.refresh.options.pageSize
        rw [refresh_paging, refresh_options]
        rfl
      · change changed.refresh.bar = changed.refresh.paging.bar changed.refresh.options.showDots
        rw [refresh_options]
        exact changed.refresh_bar_eq
      · intro ignores
        have changedIgnores : changed.FilterIgnoresCells := by
          rw [FilterIgnoresCells, ← changed.refresh_external]
          exact ignores
        exact (refresh_upToDate changedIgnores).touch _ _ _
  | untouched gesture pending notices silent =>
      cases standing with
      | fresh unseen filtered paging =>
          refine .fresh ?_ filtered paging
          rw [WasRefreshed, List.any_append, silent, Bool.or_false]
          exact unseen
      | shown known pageCount bar upToDate =>
          exact .shown known pageCount bar fun ignores => (upToDate ignores).touch _ _ _

theorem run_standing {table : Table} (standing : table.Standing) (operations : List Operation) :
    (table.run operations).Standing :=
  run_keeps Standing standing operations fun other still operation _ =>
    (other.perform_outcome operation).standing still

theorem standing_run_new (options : TableOptions) (hooks : Hooks) (operations : List Operation) :
    (run { options, hooks } operations).Standing :=
  run_standing (.fresh rfl rfl rfl) operations

theorem upToDate_run_new {options : TableOptions} {hooks : Hooks} {operations : List Operation}
    (refreshed : (run { options, hooks } operations).WasRefreshed = true)
    (ignores : (run { options, hooks } operations).FilterIgnoresCells) :
    (run { options, hooks } operations).UpToDate := by
  cases standing_run_new options hooks operations with
  | fresh silent =>
      rw [silent] at refreshed
      cases refreshed
  | shown known pageCount bar upToDate => exact upToDate ignores

theorem filterIgnoresCells_run_tour : (run {} tour).FilterIgnoresCells := by
  have external : (run {} tour).external =
      some fun record : Record => decide (record.id ≠ .number 2) := rfl
  rw [FilterIgnoresCells, external]
  rintro _ ⟨⟩ record cells
  rfl

/-- Three pages of rows, and a filter that lets through what has not been shown
so far. What is shown no longer passes, so that every refresh lists less. -/
def unseenOnly : List Operation :=
  [.update ((List.range 30).map fun number => { id := .number number, contents := .text "" }),
    .setExternal (some (·.cells.isNone))]

end Table

end PagedTable
