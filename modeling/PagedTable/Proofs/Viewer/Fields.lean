import PagedTable.Proofs.Viewer.Columns

/-! # Fields and cells

Fields of a file are kept by the names of their columns, and cells ask for them by
these names. So a cell shows the field of its own column unless the name of the
column stands again further right. -/

namespace PagedTable

/-! ## Where records come from -/

namespace Table

/-- Whether all records of a table, and those that wait, are among some records, but
that their cells may have been filled. -/
structure ComesFrom (origin : List Record) (table : Table) : Prop where
  content : ∀ record ∈ table.content, ∃ given ∈ origin, ∃ cells, record = { given with cells }
  pending : ∀ records ∈ table.pending, ∀ record ∈ records,
    ∃ given ∈ origin, ∃ cells, record = { given with cells }

variable {origin : List Record} {table : Table}

theorem ComesFrom.refresh (comes : table.ComesFrom origin) : table.refresh.ComesFrom origin := by
  refine ⟨?_, ?_⟩
  · rw [refresh_content]
    intro record member
    rcases mem_filledContent member with ⟨shown, shownMember, same | filled⟩
    · rw [same]
      exact comes.content shown shownMember
    · rcases comes.content shown shownMember with ⟨given, givenMember, cells, rfl⟩
      rcases Record.fill_eq table.paged.hooks { given with cells } with ⟨others, equal⟩
      exact ⟨given, givenMember, some others, filled.trans equal⟩
  · rw [refresh_pending]
    exact comes.pending

theorem Turn.comesFrom {aiming filtering : Prop} {after : Table}
    (turn : Turn aiming filtering table after) (comes : table.ComesFrom origin) :
    after.ComesFrom origin := by
  cases turn with
  | refreshed changed notices hooks content pending =>
      have same : changed.ComesFrom origin := ⟨content ▸ comes.content, pending ▸ comes.pending⟩
      exact ⟨same.refresh.content, same.refresh.pending⟩
  | ended content notices known =>
      refine ComesFrom.refresh ⟨?_, by simp [note]⟩
      intro record member
      have place := known record member
      cases waits : table.pending with
      | none =>
          rw [waits] at place
          exact comes.content record place
      | some records =>
          rw [waits] at place
          exact comes.pending records waits record place
  | touched gesture journal unaimed => exact ⟨comes.content, comes.pending⟩

theorem Course.comesFrom {aiming filtering : Prop} {after : Table}
    (course : Course aiming filtering table after) (comes : table.ComesFrom origin) :
    after.ComesFrom origin :=
  course.keeps (ComesFrom origin) comes fun turn => turn.comesFrom

end Table

namespace Viewer

variable {viewer : Viewer} {origin : List Record} {headers : List String}
  {revision : Option Nat}

/-! ## While the file stays as it is -/

structure Keeps (headers : List String) (revision : Option Nat) (origin : List Record)
    (viewer : Viewer) : Prop where
  headers : viewer.headers = headers
  lastRevision : viewer.lastRevision = revision
  comesFrom : viewer.table.ComesFrom origin

theorem Proceeds.keeps {aiming filtering : Prop} {after : Viewer}
    (proceeds : Proceeds aiming filtering viewer after)
    (keeps : viewer.Keeps headers revision origin) : after.Keeps headers revision origin where
  headers := proceeds.headers.trans keeps.headers
  lastRevision := proceeds.lastRevision.trans keeps.lastRevision
  comesFrom := proceeds.course.comesFrom keeps.comesFrom

theorem Looks.keeps {file : Option File} {after : Viewer} (looks : Looks viewer file after)
    (keeps : viewer.Keeps headers revision origin)
    (same : ∀ found ∈ file, revision = some found.revision) :
    after.Keeps headers revision origin := by
  cases looks with
  | unchanged => exact ⟨keeps.headers, keeps.lastRevision, keeps.comesFrom⟩
  | failed found there changed =>
      exact absurd (keeps.lastRevision.trans (same found there)) changed
  | replaced found there changed =>
      exact absurd (keeps.lastRevision.trans (same found there)) changed

theorem Keeps.handle (keeps : viewer.Keeps headers revision origin) (event : Event)
    (same : ∀ found ∈ event.file?, revision = some found.revision) :
    (viewer.handle event).Keeps headers revision origin := by
  rcases viewer.exists_look event with ⟨before, after, proceeds, looks, goesOn⟩
  exact goesOn.keeps (looks.keeps (proceeds.keeps keeps) same)

theorem Keeps.run (keeps : viewer.Keeps headers revision origin) (events : List Event)
    (same : ∀ event ∈ events, ∀ found ∈ event.file?, revision = some found.revision) :
    (viewer.run events).Keeps headers revision origin :=
  List.foldlRecOn events _ keeps fun _ still event member => still.handle event (same event member)

theorem keeps_ofLoaded (source : Source) (settings : Settings) (watch : Bool)
    (revision : Option Nat) (loaded : Loaded) :
    (ofLoaded source settings watch revision loaded).Keeps loaded.headers revision
      loaded.records := by
  refine ⟨rfl, rfl, Table.ComesFrom.refresh ⟨?_, by simp⟩⟩
  intro record member
  exact ⟨record, member, record.cells, rfl⟩

/-! ## What a row shows -/

theorem Keeps.row (keeps : viewer.Keeps headers revision origin) (shows : viewer.Shows True)
    {row : Row Cell} (member : row ∈ viewer.table.rows) :
    ∃ given ∈ origin, row.head.id = given.id ∧
      row.cells.map Cell.content = cellsUnder headers given := by
  rw [shows.rows] at member
  rcases List.mem_map.mp member with ⟨record, onPage, rfl⟩
  rcases keeps.comesFrom.content record (Table.mem_content_of_mem_pageRecords onPage) with
    ⟨given, givenMember, cells, rfl⟩
  have contents := shows.cells_buildRow onPage
  rw [keeps.headers] at contents
  exact ⟨given, givenMember, rfl, contents⟩

theorem getElem?_cellsUnder {settings : Settings} {place last : Nat} {name : String}
    (column : headers[place]? = some name) (here : headers[last]? = some name)
    (gone : name ∉ headers.drop (last + 1)) (id : RecordId) (row : List String) :
    (cellsUnder headers (Loaded.recordOf settings headers id row))[place]? =
      some (row.getD last "") := by
  rw [cellsUnder, List.getElem?_map, column, Option.map_some,
    Loaded.value?_recordOf settings headers here gone, Option.getD_some]

/-- Whether the rows of a table are those of a file with some headers, where the rows
that are kept of it have been given identifiers. -/
structure ShowsFields (table : Table) (headers : List String) (kept : List (List String × Nat))
    (entryId : List String × Nat → RecordId) : Prop where
  page : table.rows.map (·.head.id) = table.pageIds
  origin : ∀ row ∈ table.rows, ∃ entry ∈ kept, row.head.id = entryId entry
  length : ∀ row ∈ table.rows, ∀ entry ∈ kept, row.head.id = entryId entry →
    row.cells.length = headers.length
  /-- A cell shows the field of the last column with the name of its own. -/
  cell : ∀ row ∈ table.rows, ∀ entry ∈ kept, row.head.id = entryId entry →
    ∀ (place last : Nat) (name : String),
      headers[place]? = some name → headers[last]? = some name →
        name ∉ headers.drop (last + 1) →
          (row.cells[place]?).map Cell.content = some (entry.1.getD last "")

/-- While the file stays as it is, every row shown is that of a row of the file, and
has a cell for each column. The cell shows its own field where the name of its column
does not stand again further right. -/
theorem cells_show_last_of_name (source : Source) (settings : Settings) (watch : Bool)
    (revision : Option Nat) (headers : List String) (rows : List (List String))
    (events : List Event)
    (same : ∀ event ∈ events, ∀ found ∈ event.file?, revision = some found.revision) :
    let shown := ofLoaded source settings watch revision (Loaded.ofRows settings headers rows)
    let viewer := shown.run events
    let kept := Loaded.kept settings headers rows
    let entryId := Loaded.entryId settings headers
    shown.table.contentIds = kept.map entryId ∧
      ShowsFields viewer.table headers kept entryId := by
  intro shown viewer kept entryId
  have records := Loaded.records_ofRows settings headers rows
  have fresh : shown.Keeps headers revision (Loaded.ofRows settings headers rows).records := by
    have loaded := keeps_ofLoaded source settings watch revision
      (Loaded.ofRows settings headers rows)
    rw [Loaded.headers_ofRows] at loaded
    exact loaded
  have keeps := fresh.run events same
  have shows : viewer.Shows True := by
    refine shows_run (shows_ofLoaded source settings watch revision
      (Loaded.unfilled_ofRows settings headers rows)) events ?_
    intro _ first initial
    have early := fresh.run first fun event member => same event (initial.subset member)
    exact early.headers.trans fresh.headers.symm
  have origin : ∀ row ∈ viewer.table.rows, ∃ entry ∈ kept, row.head.id = entryId entry ∧
      row.cells.map Cell.content =
        cellsUnder headers (Loaded.recordOf settings headers (entryId entry) entry.1) := by
    intro row member
    rcases keeps.row shows member with ⟨given, givenMember, id, contents⟩
    rw [records] at givenMember
    rcases List.mem_map.mp givenMember with ⟨entry, entryMember, rfl⟩
    exact ⟨entry, entryMember, id, contents⟩
  have contents : ∀ row ∈ viewer.table.rows, ∀ entry ∈ kept, row.head.id = entryId entry →
      row.cells.map Cell.content =
        cellsUnder headers (Loaded.recordOf settings headers (entryId entry) entry.1) := by
    intro row member entry entryMember id
    rcases origin row member with ⟨other, otherMember, otherId, shownCells⟩
    have unique : other = entry :=
      List.inj_on_of_nodup_map (Loaded.nodup_kept settings headers rows) otherMember entryMember
        (otherId.symm.trans id)
    exact unique ▸ shownCells
  refine ⟨?_, ?_, ?_, ?_, ?_⟩
  · have ids : shown.table.contentIds =
        (Loaded.ofRows settings headers rows).records.map Record.id :=
      Table.refresh_contentIds _
    rw [ids, records, List.map_map]
    rfl
  · rw [shows.rows, List.map_map]
    rfl
  · intro row member
    rcases origin row member with ⟨entry, entryMember, id, _⟩
    exact ⟨entry, entryMember, id⟩
  · intro row member entry entryMember id
    simpa [cellsUnder] using congrArg List.length (contents row member entry entryMember id)
  · intro row member entry entryMember id place last name column here gone
    rw [← List.getElem?_map, contents row member entry entryMember id]
    exact getElem?_cellsUnder column here gone _ _

/-! ### A name that stands twice -/

/-- The second row repeats an identifier, and the third is too short. -/
theorem cells_show_last_of_name_repeated :
    let settings : Settings := { idColumn := some "id" }
    let headers := ["id", "name", "age", "name"]
    let rows := [["1", "Ann", "31", "Smith"], ["1", "Bob", "42", "Brown"], ["2", "Cid"]]
    let events : List Event := [.layOut ⟨0, 0, 80, 24⟩, .tick 1000 (some (fileOf "" 7))]
    let viewer := (ofLoaded ⟨"people.csv", comma⟩ settings true (some 7)
      (Loaded.ofRows settings headers rows)).run events
    (∀ event ∈ events, ∀ found ∈ event.file?, some 7 = some found.revision) ∧
    viewer.table.pageIds = [.number 1, .number 2] ∧
    (∀ row ∈ viewer.table.rows, row.head.id = .number 1 →
      (row.cells[1]?).map Cell.content = some "Smith" ∧
      (row.cells[2]?).map Cell.content = some "31") ∧
    ∀ row ∈ viewer.table.rows, row.head.id = .number 2 →
      (row.cells[0]?).map Cell.content = some "2" ∧
      (row.cells[3]?).map Cell.content = some "" := by
  intro settings headers rows events viewer
  have same : ∀ event ∈ events, ∀ found ∈ event.file?, some 7 = some found.revision := by
    intro event member found there
    rcases List.mem_cons.mp member with rfl | member
    · cases there
    · rw [List.mem_singleton.mp member] at there
      rw [← Option.some.inj there]
      rfl
  rcases cells_show_last_of_name ⟨"people.csv", comma⟩ settings true (some 7) headers rows events
    same with ⟨_, shows⟩
  refine ⟨same, by decide +kernel, ?_, ?_⟩
  · intro row member id
    have shown := shows.cell row member (["1", "Ann", "31", "Smith"], 0) (by decide +kernel) id
    exact ⟨shown 1 3 "name" rfl rfl (by decide), shown 2 2 "age" rfl rfl (by decide)⟩
  · intro row member id
    have shown := shows.cell row member (["2", "Cid"], 2) (by decide +kernel) id
    exact ⟨shown 0 0 "id" rfl rfl (by decide), shown 3 3 "name" rfl rfl (by decide)⟩

/-- Both columns are called the same, and both show the second field. -/
theorem cell_shows_field_of_other_column :
    ∃ viewer, start ⟨"twins.csv", comma⟩ {} false (some (fileOf "a,a\n1,2\n" 0)) = .ok viewer ∧
      ∃ row ∈ viewer.table.rows, row.cells.map Cell.content = ["2", "2"] ∧
        ∃ entry ∈ Loaded.kept {} viewer.headers [["1", "2"]],
          row.head.id = Loaded.entryId {} viewer.headers entry ∧
          (row.cells[0]?).map Cell.content ≠ some (entry.1.getD 0 "") := by
  apply exists_ok_of_mem_toOption
  decide +kernel

end Viewer

end PagedTable
