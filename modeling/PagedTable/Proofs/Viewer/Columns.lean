import Mathlib.Data.List.Forall2
import Mathlib.Data.List.Infix
import PagedTable.Proofs.Drawn.Faithful
import PagedTable.Proofs.Source.Rows
import PagedTable.Proofs.Table.UpToDate
import PagedTable.Proofs.Viewer.Turn

/-! # Header and body

The columns of the header are those of the file that was loaded last. Records
that wait for the end of a drag come with columns of their own, so header and
body are in step whenever nothing waits, and as long after that as the header
stays as it is. -/

namespace PagedTable

/-! ## Records -/

/-- Whether the cells of a record, if it has any, are those under some headers. -/
def Record.FitsUnder (headers : List String) (record : Record) : Prop :=
  ∀ cells ∈ record.cells, cells = cellsUnder headers record

namespace Record

variable {headers : List String} {record : Record}

theorem fitsUnder_of_unfilled (unfilled : record.cells = none) : record.FitsUnder headers := by
  intro cells member
  rw [unfilled] at member
  cases member

theorem FitsUnder.fill (fits : record.FitsUnder headers) :
    (record.fill (headerHooks headers)).FitsUnder headers := by
  cases known : record.cells with
  | none =>
      intro cells member
      rw [Record.fill, known] at member ⊢
      exact (Option.some.inj member).symm
  | some cells =>
      rw [fill_of_isSome _ (known ▸ rfl)]
      exact fits

end Record

/-! ## Cells -/

def Cell.IsMarked (cell : Cell) : Prop :=
  ∃ text : String, cell = markNumber { content := text }

theorem content_markNumber (cell : Cell) : (markNumber cell).content = cell.content := by
  unfold markNumber Cell.addClass
  split
  · split
    · rfl
    · rfl
  · rfl

theorem Cell.IsMarked.plain {cell : Cell} (marked : cell.IsMarked) : cell.IsPlain := by
  rcases marked with ⟨text, rfl⟩
  have classless : (Cell.mk text []).IsPlain := fun _ member => absurd member List.not_mem_nil
  exact classless.markNumber

namespace Table

variable {headers : List String} {steady : Prop} {table : Table}

theorem marked_buildRow (hooks : table.hooks = headerHooks headers) (record : Record) :
    ∀ cell ∈ (table.buildRow record).cells, cell.IsMarked := by
  intro cell member
  rw [buildRow, hooks] at member
  rcases List.mem_mapIdx.mp member with ⟨column, within, rfl⟩
  exact ⟨_, rfl⟩

theorem contents_buildRow (hooks : table.hooks = headerHooks headers) (record : Record) :
    (table.buildRow record).cells.map Cell.content = record.cells.getD [] := by
  rw [buildRow, hooks]
  apply List.ext_getElem?
  intro column
  simp [headerHooks, content_markNumber, Function.comp_def]

theorem mem_filledContent {record : Record} (member : record ∈ table.filledContent) :
    ∃ given ∈ table.content, given.IsShown table.hooks record := by
  rcases List.mem_map.mp member with ⟨⟨given, place⟩, entry, rfl⟩
  refine ⟨given, List.fst_mem_of_mem_zipIdx entry, ?_⟩
  dsimp only
  split
  · exact Or.inr rfl
  · exact Or.inl rfl

theorem mem_content_of_mem_pageRecords {record : Record} (member : record ∈ table.pageRecords) :
    record ∈ table.content := by
  rcases List.mem_filterMap.mp member with ⟨place, _, there⟩
  exact List.mem_of_getElem? there

/-! ## What a table shows -/

/-- Whether a table shows its records under some headers: no row but as it is
built from a record. Where content waits, the cells of the content there is may
be those under other headers, unless something is known to keep them `steady`. -/
structure Shows (headers : List String) (steady : Prop) (table : Table) : Prop where
  hooks : table.hooks = headerHooks headers
  rows : table.rows = table.pageRecords.map table.buildRow
  filled : ∀ record ∈ table.pageRecords, record.cells.isSome = true
  waiting : ∀ records ∈ table.pending, ∀ record ∈ records, record.cells = none
  fits : table.pending = none ∨ steady → ∀ record ∈ table.content, record.FitsUnder headers

namespace Shows

theorem marked (shows : table.Shows headers steady) :
    ∀ row ∈ table.rows, ∀ cell ∈ row.cells, cell.IsMarked := by
  intro row member
  rw [shows.rows] at member
  rcases List.mem_map.mp member with ⟨record, _, rfl⟩
  exact marked_buildRow shows.hooks record

theorem mono {less : Prop} (shows : table.Shows headers steady) (implies : less → steady) :
    table.Shows headers less :=
  { shows with fits := fun either => shows.fits (either.imp id implies) }

end Shows

theorem shows_new (options : TableOptions) (headers : List String) :
    Shows headers True { options, hooks := headerHooks headers } where
  hooks := rfl
  rows := rfl
  filled := by simp [pageRecords]
  waiting := by simp
  fits := by simp

theorem shows_refresh (hooks : table.hooks = headerHooks headers)
    (marked : ∀ row ∈ table.rows, ∀ cell ∈ row.cells, cell.IsMarked)
    (waiting : ∀ records ∈ table.pending, ∀ record ∈ records, record.cells = none)
    (fits : table.pending = none ∨ steady → ∀ record ∈ table.content, record.FitsUnder headers) :
    table.refresh.Shows headers steady := by
  have freshHooks : table.refresh.hooks = headerHooks headers := table.refresh_hooks.trans hooks
  refine ⟨freshHooks, ?_, isSome_cells_pageRecords_refresh, ?_, ?_⟩
  · rw [refresh_rows]
    apply patchRows_eq_new_of_isPlain
    · exact fun row rowMember cell member => (marked row rowMember cell member).plain
    · intro fresh freshMember cell member
      rcases List.mem_map.mp freshMember with ⟨record, _, rfl⟩
      exact (marked_buildRow freshHooks record cell member).plain
  · rw [refresh_pending]
    exact waiting
  · rw [refresh_pending, refresh_content]
    intro either record member
    rcases mem_filledContent member with ⟨given, givenMember, shown⟩
    have givenFits := fits either given givenMember
    rcases shown with rfl | rfl
    · exact givenFits
    · rw [show table.paged.hooks = headerHooks headers from hooks]
      exact givenFits.fill

theorem Turn.shows {aiming filtering : Prop} {after : Table}
    (turn : Turn aiming filtering table after) (shows : table.Shows headers steady) :
    after.Shows headers steady := by
  cases turn with
  | refreshed changed notices hooks content pending rows =>
      have fresh : changed.refresh.Shows headers steady := by
        apply shows_refresh (hooks.trans shows.hooks)
        · rw [rows]
          exact shows.marked
        · rw [pending]
          exact shows.waiting
        · rw [pending, content]
          exact shows.fits
      exact ⟨fresh.hooks, fresh.rows, fresh.filled, fresh.waiting, fresh.fits⟩
  | ended content notices known =>
      refine shows_refresh shows.hooks shows.marked ?_ ?_
      · simp [note]
      · -- what waited has no cells yet, whatever became of the header
        intro _ record member
        have origin := known record member
        cases waits : table.pending with
        | none =>
            rw [waits] at origin
            exact shows.fits (Or.inl waits) record origin
        | some records =>
            rw [waits] at origin
            exact Record.fitsUnder_of_unfilled (shows.waiting records waits record origin)
  | touched gesture journal unaimed =>
      exact ⟨shows.hooks, shows.rows, shows.filled, shows.waiting, shows.fits⟩

theorem Course.shows {aiming filtering : Prop} {after : Table}
    (course : Course aiming filtering table after) (shows : table.Shows headers steady) :
    after.Shows headers steady :=
  course.keeps (Shows headers steady) shows fun turn => turn.shows

/-- Records that come with headers of their own. During a drag these headers are
ahead of the content. -/
theorem shows_update {records : List Record} (shows : table.Shows headers steady)
    (fresh : List String) (unfilled : ∀ record ∈ records, record.cells = none) :
    ({ table with hooks := headerHooks fresh }.update records).Shows fresh
      (steady ∧ fresh = headers) := by
  unfold update
  split
  · have same : { table with hooks := headerHooks fresh }.buildRow = table.buildRow := by
      funext record
      rw [buildRow, buildRow, shows.hooks]
      rfl
    refine ⟨rfl, ?_, shows.filled, ?_, ?_⟩
    · exact shows.rows.trans (congrArg (table.pageRecords.map ·) same.symm)
    · intro others member
      rw [← Option.some.inj member]
      exact unfilled
    · rintro (nothing | ⟨still, rfl⟩)
      · cases nothing
      · exact shows.fits (Or.inr still)
  · refine shows_refresh rfl shows.marked shows.waiting ?_
    intro _ record member
    exact Record.fitsUnder_of_unfilled (unfilled record member)

end Table

/-! ## Files -/

theorem unfilled_of_load {source : Source} {settings : Settings} {file : Option File}
    {loaded : Loaded} (load : source.load settings file = .ok loaded) :
    ∀ record ∈ loaded.records, record.cells = none := by
  cases file with
  | none => cases load
  | some file =>
      simp only [Source.load, bind, Except.bind] at load
      split at load
      · cases load
      · split at load
        · cases load
        · rw [← Except.ok.inj load]
          exact Loaded.unfilled_ofRows settings _ _

namespace Viewer

variable {viewer : Viewer} {steady : Prop}

/-! ## Events -/

def Shows (steady : Prop) (viewer : Viewer) : Prop :=
  viewer.table.Shows viewer.headers steady

theorem Shows.mono {less : Prop} (shows : viewer.Shows steady) (implies : less → steady) :
    viewer.Shows less :=
  Table.Shows.mono shows implies

theorem Proceeds.shows {aiming filtering : Prop} {after : Viewer}
    (proceeds : Proceeds aiming filtering viewer after) (shows : viewer.Shows steady) :
    after.Shows steady := by
  rw [Shows, proceeds.headers]
  exact proceeds.course.shows shows

theorem Looks.shows {file : Option File} {after : Viewer} (looks : Looks viewer file after)
    (shows : viewer.Shows steady) : after.Shows (steady ∧ after.headers = viewer.headers) := by
  cases looks with
  | unchanged | failed => exact shows.mono And.left
  | replaced found there changed lastCheck loaded load =>
      exact Table.shows_update shows loaded.headers (unfilled_of_load load)

theorem shows_handle (shows : viewer.Shows steady) (event : Event) :
    (viewer.handle event).Shows (steady ∧ (viewer.handle event).headers = viewer.headers) := by
  rcases viewer.exists_look event with ⟨before, after, proceeds, looks, goesOn⟩
  have looked := looks.shows (proceeds.shows shows)
  rw [proceeds.headers, ← goesOn.headers] at looked
  exact goesOn.shows looked

/-! ## Runs -/

theorem shows_run (shows : viewer.Shows steady) (events : List Event)
    (still : steady → ∀ first, first <+: events → (viewer.run first).headers = viewer.headers) :
    (viewer.run events).Shows steady := by
  induction events generalizing viewer with
  | nil => exact shows
  | cons event events induction =>
      have next (holds : steady) : (viewer.handle event).headers = viewer.headers :=
        still holds [event] ⟨events, rfl⟩
      have handled : (viewer.handle event).Shows steady :=
        (shows_handle shows event).mono fun holds => ⟨holds, next holds⟩
      rw [run_cons]
      apply induction handled
      intro holds first initial
      rw [next holds]
      exact still holds (event :: first) (List.cons_prefix_cons.mpr ⟨rfl, initial⟩)

theorem shows_ofLoaded (source : Source) (settings : Settings) (watch : Bool)
    (revision : Option Nat) {loaded : Loaded}
    (unfilled : ∀ record ∈ loaded.records, record.cells = none) :
    (ofLoaded source settings watch revision loaded).Shows True := by
  have updated := Table.shows_update (Table.shows_new settings.table loaded.headers)
    loaded.headers unfilled
  exact Table.Shows.mono updated fun holds => ⟨holds, rfl⟩

theorem shows_start {source : Source} {settings : Settings} {watch : Bool} {file : Option File}
    (started : start source settings watch file = .ok viewer) : viewer.Shows True := by
  rcases exists_loaded_of_start started with ⟨loaded, load, rfl⟩
  exact shows_ofLoaded source settings watch _ (unfilled_of_load load)

/-! ## Header and body -/

/-- Whether each row of the page has one cell for each header, with the value of
that name in the record of the row, or nothing where the record has none. -/
def InStep (viewer : Viewer) : Prop :=
  List.Forall₂
    (fun row record =>
      row.head.id = record.id ∧
      row.cells.map Cell.content = viewer.headers.map fun name => (record.value? name).getD "")
    viewer.table.rows viewer.table.pageRecords

instance (viewer : Viewer) : Decidable viewer.InStep :=
  inferInstanceAs (Decidable (List.Forall₂ _ _ _))

theorem Shows.cells_buildRow (shows : viewer.Shows True) {record : Record}
    (member : record ∈ viewer.table.pageRecords) :
    (viewer.table.buildRow record).cells.map Cell.content = cellsUnder viewer.headers record := by
  rcases Option.isSome_iff_exists.mp (shows.filled record member) with ⟨cells, known⟩
  have fits := shows.fits (Or.inr trivial) record (Table.mem_content_of_mem_pageRecords member)
  rw [Table.contents_buildRow shows.hooks, known, fits cells known]
  rfl

theorem Shows.inStep (shows : viewer.Shows True) : viewer.InStep := by
  rw [InStep, shows.rows, List.forall₂_map_left_iff, List.forall₂_same]
  intro record member
  exact ⟨rfl, shows.cells_buildRow member⟩

/-- Where no content waits, header and body are in step, and from there on for as
long as the header stays as it is. -/
theorem header_and_body_in_step {source : Source} {settings : Settings} {watch : Bool}
    {file : Option File} {viewer : Viewer} (events later : List Event)
    (started : start source settings watch file = .ok viewer)
    (nothing : (viewer.run events).table.pending = none)
    (still : ∀ first, first <+: later →
      (viewer.run (events ++ first)).headers = (viewer.run events).headers) :
    (viewer.run (events ++ later)).InStep := by
  have before : (viewer.run events).Shows False :=
    shows_run ((shows_start started).mono False.elim) events False.elim
  have settled : (viewer.run events).Shows True :=
    { before with fits := fun _ => before.fits (Or.inl nothing) }
  rw [run_append]
  apply (shows_run settled later _).inStep
  intro _ first initial
  rw [← run_append]
  exact still first initial

/-! ### A reload during a drag -/

def people? : Except ReadError Viewer :=
  start ⟨"people.csv", comma⟩ {} true (some (fileOf "name,age\nAnn,31\nBob,42\n" 0))

def firstOntoSecond : List Event :=
  [.layOut ⟨0, 0, 80, 24⟩, .mouse ⟨.down .left, 10, 2, false⟩, .mouse ⟨.drag .left, 10, 3, false⟩]

/-- The header of a file that comes during a drag is shown at once, over rows of
the file before. -/
theorem header_ahead_of_body :
    ∃ viewer, people? = .ok viewer ∧
      ¬ (viewer.run (firstOntoSecond ++ [.reload (some (fileOf "name\nBob\n" 1))])).InStep := by
  apply exists_ok_of_mem_toOption
  decide +kernel

/-- The columns change without a drag, and only the rows change during one. -/
theorem header_and_body_in_step_during_drag :
    let events : List Event := [.reload (some (fileOf "name,city\nAnn,Rome\nBob,Oslo\n" 1))]
    let later : List Event :=
      firstOntoSecond ++ [.reload (some (fileOf "name,city\nBob,Rome\n" 2)), .tick 0 none]
    ∃ viewer, people? = .ok viewer ∧ (viewer.run events).table.pending = none ∧
      (∀ first, first <+: later →
        (viewer.run (events ++ first)).headers = (viewer.run events).headers) ∧
      (viewer.run (events ++ later)).table.pending.isSome = true ∧
      (viewer.run (events ++ later)).InStep := by
  intro events later
  have known : ∃ viewer ∈ people?.toOption, (viewer.run events).table.pending = none ∧
      (∀ first ∈ later.inits,
        (viewer.run (events ++ first)).headers = (viewer.run events).headers) ∧
      (viewer.run (events ++ later)).table.pending.isSome = true := by
    decide +kernel
  rcases exists_ok_of_mem_toOption known with ⟨viewer, started, nothing, still, waits⟩
  have steady : ∀ first, first <+: later →
      (viewer.run (events ++ first)).headers = (viewer.run events).headers :=
    fun first initial => still first ((List.mem_inits first later).mpr initial)
  exact ⟨viewer, started, nothing, steady, waits,
    header_and_body_in_step events later started nothing steady⟩

end Viewer

end PagedTable
