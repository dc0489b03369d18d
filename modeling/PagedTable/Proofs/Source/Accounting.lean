import Mathlib.Data.List.Forall2
import PagedTable.Proofs.Source.Rows
import PagedTable.Proofs.Span

/-! # What becomes of every row

A row either becomes a record or is told of as a duplicate. Where rows have a field
in the id column it is no other than a field of an earlier row that makes a row a
duplicate, except that rows too short for that field have their numbers for
identifiers, and these can be found in the id column as well. -/

namespace PagedTable

namespace Warning

def isDuplicate : Warning → Bool
  | .duplicateId _ _ => true
  | _ => false

def padded? : Warning → Option Nat
  | .padded rows => some rows
  | _ => none

end Warning

namespace Loaded

variable (settings : Settings) (headers : List String)

/-! ## Identifiers -/

/-- Whether a text is the field of a row in the id column, the first one with the
name that is asked for. -/
def HasIdField (row : List String) (text : String) : Prop :=
  ∃ name column, settings.idColumn = some name ∧ headers[column]? = some name ∧
    name ∉ headers.take column ∧ row[column]? = some text

inductive Identifies (row : List String) (above : Nat) : RecordId → Prop
  | field (text : String) (found : HasIdField settings headers row text) :
      Identifies row above (.ofText text)
  | number (missing : ∀ text, ¬ HasIdField settings headers row text) :
      Identifies row above (.number (above + 1))

variable {settings headers}

theorem idPlace?_eq_some_iff {column : Nat} :
    idPlace? settings headers = some column ↔
      ∃ name, settings.idColumn = some name ∧ headers[column]? = some name ∧
        name ∉ headers.take column := by
  rw [idPlace?, Option.bind_eq_some_iff]
  apply exists_congr
  intro name
  apply and_congr_right
  intro _
  rw [List.idxOf?_eq_some_iff, List.getElem?_eq_some_iff, List.mem_take_iff_getElem]
  constructor
  · rintro ⟨within, here, first⟩
    refine ⟨⟨within, here⟩, ?_⟩
    rintro ⟨earlier, bound, same⟩
    exact first earlier (by omega) same
  · rintro ⟨⟨within, here⟩, absent⟩
    refine ⟨within, here, ?_⟩
    intro earlier before same
    exact absent ⟨earlier, by omega, same⟩

theorem hasIdField_iff {row : List String} {text : String} :
    HasIdField settings headers row text ↔
      (idPlace? settings headers).bind (row[·]?) = some text := by
  rw [Option.bind_eq_some_iff]
  constructor
  · rintro ⟨name, column, asked, here, first, field⟩
    exact ⟨column, idPlace?_eq_some_iff.mpr ⟨name, asked, here, first⟩, field⟩
  · rintro ⟨column, place, field⟩
    rcases idPlace?_eq_some_iff.mp place with ⟨name, asked, here, first⟩
    exact ⟨name, column, asked, here, first, field⟩

instance (row : List String) (text : String) : Decidable (HasIdField settings headers row text) :=
  decidable_of_iff' _ hasIdField_iff

theorem identifies_iff {row : List String} {above : Nat} {id : RecordId} :
    Identifies settings headers row above id ↔ entryId settings headers (row, above) = id := by
  unfold entryId idOf
  cases known : (idPlace? settings headers).bind (row[·]?) with
  | none =>
      have missing : ∀ text, ¬ HasIdField settings headers row text := by
        intro text found
        rw [hasIdField_iff, known] at found
        cases found
      constructor
      · rintro (⟨text, found⟩ | _)
        · exact absurd found (missing text)
        · rfl
      · rintro rfl
        exact .number missing
  | some text =>
      have found : HasIdField settings headers row text := hasIdField_iff.mpr known
      constructor
      · rintro (⟨other, otherFound⟩ | missing)
        · rw [hasIdField_iff, known] at otherFound
          rw [Option.some.inj otherFound]
        · exact absurd found (missing text)
      · rintro rfl
        exact .field text found

theorem entryId_of_field {row : List String} {text : String}
    (found : HasIdField settings headers row text) (above : Nat) :
    entryId settings headers (row, above) = .ofText text :=
  identifies_iff.mp (.field text found)

/-! ## Rows that are left out -/

variable (settings headers)

def leftOut (rows : List (List String)) : List (List String × Nat) :=
  rows.zipIdx.filter fun entry => !decide (IsFirst settings headers rows.zipIdx entry)

theorem length_kept_add_length_leftOut (rows : List (List String)) :
    (kept settings headers rows).length + (leftOut settings headers rows).length =
      rows.length := by
  have whole := List.length_eq_length_filter_add (l := rows.zipIdx)
    fun entry => decide (IsFirst settings headers rows.zipIdx entry)
  rw [List.length_zipIdx] at whole
  exact whole.symm

theorem leftOut_concat (rows : List (List String)) (row : List String) :
    leftOut settings headers (rows ++ [row]) =
      leftOut settings headers rows ++
        if entryId settings headers (row, rows.length) ∈
            rows.zipIdx.map (entryId settings headers) then [(row, rows.length)]
        else [] := by
  have above : ∀ entry ∈ rows.zipIdx,
      (!decide (IsFirst settings headers (rows ++ [row]).zipIdx entry)) =
        !decide (IsFirst settings headers rows.zipIdx entry) :=
    fun _ member => congrArg not
      (decide_eq_decide.mpr (isFirst_above_iff settings headers rows row member))
  have last := isFirst_row_iff settings headers rows row
  rw [leftOut, filter_zipIdx_concat, List.filter_congr above, ← leftOut]
  congr 1
  split
  case isTrue taken => simp [last, taken]
  case isFalse free => simp [last, free]

def repeated (entry : List String × Nat) : Warning :=
  .duplicateId (entryId settings headers entry) (entry.2 + 1)

theorem warnings_addRow (loaded : Loaded) (entry : List String × Nat) :
    (addRow settings headers loaded entry).warnings =
      loaded.warnings ++
        if entryId settings headers entry ∈ loaded.records.map Record.id then
          [repeated settings headers entry]
        else [] := by
  unfold addRow repeated entryId
  dsimp only
  split
  · rfl
  · exact (List.append_nil _).symm

theorem warnings_foldl_addRow (loaded : Loaded) (empty : loaded.records = [])
    (rows : List (List String)) :
    (rows.zipIdx.foldl (addRow settings headers) loaded).warnings =
      loaded.warnings ++ (leftOut settings headers rows).map (repeated settings headers) := by
  induction rows using List.reverseRecOn with
  | nil => exact (List.append_nil _).symm
  | append_singleton rows row induction =>
      have known : (rows.zipIdx.foldl (addRow settings headers) loaded).records.map Record.id =
          (kept settings headers rows).map (entryId settings headers) := by
        rw [records_foldl_addRow settings headers loaded empty, List.map_map]
        rfl
      rw [zipIdx_concat, List.foldl_append, List.foldl_cons, List.foldl_nil, warnings_addRow,
        known, induction, leftOut_concat, List.map_append, List.append_assoc]
      simp only [mem_map_kept]
      split
      · rfl
      · rfl

theorem warnings_ofRows (rows : List (List String)) :
    (ofRows settings headers rows).warnings =
      idWarnings settings headers ++
        (leftOut settings headers rows).map (repeated settings headers) ++
          if 0 < rows.countP (·.length < headers.length) then
            [.padded (rows.countP (·.length < headers.length))]
          else [] := by
  have told := warnings_foldl_addRow settings headers ⟨headers, [], idWarnings settings headers⟩
    rfl rows
  unfold ofRows
  dsimp only
  split
  · rw [told]
  · rw [told, List.append_nil]

theorem exists_name_of_mem_idWarnings {warning : Warning}
    (member : warning ∈ idWarnings settings headers) : ∃ name, warning = .noIdColumn name := by
  unfold idWarnings at member
  split at member
  · next name _ =>
    split at member
    · cases member
    · exact ⟨name, List.mem_singleton.mp member⟩
  · cases member

theorem countP_isDuplicate_ofRows (rows : List (List String)) :
    (ofRows settings headers rows).warnings.countP Warning.isDuplicate =
      (leftOut settings headers rows).length := by
  have named : (idWarnings settings headers).countP Warning.isDuplicate = 0 := by
    rw [List.countP_eq_zero]
    intro warning member
    rcases exists_name_of_mem_idWarnings settings headers member with ⟨name, rfl⟩
    exact Bool.false_ne_true
  have told : ((leftOut settings headers rows).map (repeated settings headers)).countP
      Warning.isDuplicate = (leftOut settings headers rows).length := by
    rw [List.countP_map]
    exact List.countP_eq_length.mpr fun _ _ => rfl
  rw [warnings_ofRows, List.countP_append, List.countP_append, named, told, Nat.zero_add]
  split
  · rfl
  · rfl

theorem filterMap_padded?_ofRows (rows : List (List String)) :
    (ofRows settings headers rows).warnings.filterMap Warning.padded? =
      if 0 < rows.countP (·.length < headers.length) then
        [rows.countP (·.length < headers.length)]
      else [] := by
  have named : (idWarnings settings headers).filterMap Warning.padded? = [] := by
    rw [List.filterMap_eq_nil_iff]
    intro warning member
    rcases exists_name_of_mem_idWarnings settings headers member with ⟨name, rfl⟩
    rfl
  have told : ((leftOut settings headers rows).map (repeated settings headers)).filterMap
      Warning.padded? = [] := by
    rw [List.filterMap_map]
    exact List.filterMap_eq_nil_iff.mpr fun _ _ => rfl
  rw [warnings_ofRows, List.filterMap_append, List.filterMap_append, named, told]
  split
  · rfl
  · rfl

/-! ## Rows at their places -/

def IsFirstAt (rows : List (List String)) (place : Nat) : Prop :=
  ∃ row id, rows[place]? = some row ∧ Identifies settings headers row place id ∧
    ∀ earlier < place, ∀ other, rows[earlier]? = some other →
      ¬ Identifies settings headers other earlier id

variable {settings headers} {rows : List (List String)} {row : List String} {place : Nat}

theorem isFirst_iff_isFirstAt (here : rows[place]? = some row) :
    IsFirst settings headers rows.zipIdx (row, place) ↔
      IsFirstAt settings headers rows place := by
  constructor
  · intro first
    refine ⟨row, entryId settings headers (row, place), here, identifies_iff.mpr rfl, ?_⟩
    intro earlier before other found same
    have member : (other, earlier) ∈ rows.zipIdx := List.mk_mem_zipIdx_iff_getElem?.mpr found
    exact first (other, earlier) member before (identifies_iff.mp same)
  · rintro ⟨known, id, found, identified, first⟩ ⟨other, earlier⟩ member before same
    rw [here] at found
    cases found
    have otherFound := List.mk_mem_zipIdx_iff_getElem?.mp member
    apply first earlier before other otherFound
    rw [identifies_iff, same]
    exact identifies_iff.mp identified

theorem mem_kept_iff :
    (row, place) ∈ kept settings headers rows ↔
      rows[place]? = some row ∧ IsFirstAt settings headers rows place := by
  rw [kept, List.mem_filter, List.mk_mem_zipIdx_iff_getElem?, decide_eq_true_iff]
  exact and_congr_right isFirst_iff_isFirstAt

theorem mem_leftOut_iff :
    (row, place) ∈ leftOut settings headers rows ↔
      rows[place]? = some row ∧ ¬ IsFirstAt settings headers rows place := by
  rw [leftOut, List.mem_filter, List.mk_mem_zipIdx_iff_getElem?, Bool.not_eq_true',
    decide_eq_false_iff_not]
  exact and_congr_right fun here => not_congr (isFirst_iff_isFirstAt here)

theorem duplicateId_mem_warnings_iff {id : RecordId} {number : Nat} :
    .duplicateId id number ∈ (ofRows settings headers rows).warnings ↔
      ∃ place row, number = place + 1 ∧ rows[place]? = some row ∧
        Identifies settings headers row place id ∧ ¬ IsFirstAt settings headers rows place := by
  have other : .duplicateId id number ∉ idWarnings settings headers := by
    intro member
    rcases exists_name_of_mem_idWarnings settings headers member with ⟨name, same⟩
    cases same
  have last : ∀ short : Nat, .duplicateId id number ∉
      if 0 < short then [Warning.padded short] else [] := by
    intro short
    split
    · simp
    · simp
  rw [warnings_ofRows, List.mem_append, List.mem_append, or_iff_left (last _), or_iff_right other,
    List.mem_map]
  constructor
  · rintro ⟨⟨row, place⟩, member, told⟩
    rcases mem_leftOut_iff.mp member with ⟨here, notFirst⟩
    injection told with same counted
    exact ⟨place, row, counted.symm, here, identifies_iff.mpr same, notFirst⟩
  · rintro ⟨place, row, rfl, here, identified, notFirst⟩
    refine ⟨(row, place), mem_leftOut_iff.mpr ⟨here, notFirst⟩, ?_⟩
    rw [repeated, identifies_iff.mp identified]

/-! ## Accounting -/

variable (settings headers)

/-- Whether a record is that of the row at a place: it has the identifier of the
row, and what the row has in the last column of a name, empty where it is short. -/
def IsRecordAt (rows : List (List String)) (place : Nat) (record : Record) : Prop :=
  ∃ row, rows[place]? = some row ∧ Identifies settings headers row place record.id ∧
    ∀ column name, headers[column]? = some name → name ∉ headers.drop (column + 1) →
      record.value? name = some (row.getD column "")

structure AccountsFor (rows : List (List String)) (loaded : Loaded) : Prop where
  columns : loaded.headers = headers
  distinct : (loaded.records.map Record.id).Nodup
  /-- The records are those of the rows that are first with their identifiers, in
  the order of the file. -/
  records : ∃ places : List Nat, places.Pairwise (· < ·) ∧
    (∀ place, place ∈ places ↔ IsFirstAt settings headers rows place) ∧
    List.Forall₂ (IsRecordAt settings headers rows) places loaded.records
  repeated : ∀ id number, .duplicateId id number ∈ loaded.warnings ↔
    ∃ place row, number = place + 1 ∧ rows[place]? = some row ∧
      Identifies settings headers row place id ∧ ¬ IsFirstAt settings headers rows place
  conserved : loaded.records.length + loaded.warnings.countP Warning.isDuplicate = rows.length
  padded : loaded.warnings.filterMap Warning.padded? =
    if 0 < rows.countP (·.length < headers.length) then
      [rows.countP (·.length < headers.length)]
    else []

theorem isRecordAt_recordOf (here : rows[place]? = some row) :
    IsRecordAt settings headers rows place
      (recordOf settings headers (entryId settings headers (row, place)) row) :=
  ⟨row, here, identifies_iff.mpr rfl,
    fun _ _ column last => value?_recordOf settings headers column last _ row⟩

theorem accountsFor_ofRows (rows : List (List String)) :
    AccountsFor settings headers rows (ofRows settings headers rows) where
  columns := headers_ofRows settings headers rows
  distinct := by
    rw [records_ofRows, List.map_map]
    exact nodup_kept settings headers rows
  records := by
    refine ⟨(kept settings headers rows).map Prod.snd, Span.pairwise_places_filter rows _, ?_, ?_⟩
    · intro place
      rw [List.mem_map]
      constructor
      · rintro ⟨⟨row, _⟩, member, rfl⟩
        exact (mem_kept_iff.mp member).2
      · intro first
        rcases first with ⟨row, id, here, rest⟩
        exact ⟨(row, place), mem_kept_iff.mpr ⟨here, row, id, here, rest⟩, rfl⟩
    · rw [records_ofRows, List.forall₂_map_left_iff, List.forall₂_map_right_iff,
        List.forall₂_same]
      rintro ⟨row, place⟩ member
      exact isRecordAt_recordOf settings headers (mem_kept_iff.mp member).1
  repeated := fun _ _ => duplicateId_mem_warnings_iff
  conserved := by
    rw [countP_isDuplicate_ofRows, records_ofRows, List.length_map]
    exact length_kept_add_length_leftOut settings headers rows
  padded := filterMap_padded?_ofRows settings headers rows

end Loaded

def Source.deliver (source : Source) (file : File) :
    Except ReadError (List String × List (List String)) := do
  let rows := Delimited.rows source.delimiter file.bytes
  let headers ← (rows.head?.map (readTexts 0)).getD (.ok [])
  let texts ← (rows.zipIdx.drop 1).mapM readTrimmed
  return (headers, texts)

theorem Source.load_eq (source : Source) (settings : Settings) (file : File) :
    source.load settings (some file) =
      (source.deliver file).map fun read => Loaded.ofRows settings read.1 read.2 := by
  unfold Source.load Source.deliver
  dsimp only
  cases ((Delimited.rows source.delimiter file.bytes).head?.map (readTexts 0)).getD (.ok []) with
  | error => rfl
  | ok headers =>
      cases ((Delimited.rows source.delimiter file.bytes).zipIdx.drop 1).mapM readTrimmed with
      | error => rfl
      | ok texts => rfl

theorem Source.delivered_of_load {source : Source} {settings : Settings} {file : File}
    {loaded : Loaded} (succeeds : source.load settings (some file) = .ok loaded) :
    ∃ headers rows, source.deliver file = .ok (headers, rows) ∧
      loaded = Loaded.ofRows settings headers rows := by
  rw [Source.load_eq] at succeeds
  cases read : source.deliver file with
  | error =>
      rw [read] at succeeds
      cases succeeds
  | ok delivered =>
      rw [read] at succeeds
      cases succeeds
      exact ⟨delivered.1, delivered.2, rfl, rfl⟩

namespace Loaded

/-- Every row of a file that is loaded is accounted for. -/
theorem every_row_accounted_for (settings : Settings) :
    (∀ headers rows, AccountsFor settings headers rows (ofRows settings headers rows)) ∧
      ∀ (source : Source) (file : File) (loaded : Loaded),
        source.load settings (some file) = .ok loaded →
          ∃ headers rows, source.deliver file = .ok (headers, rows) ∧
            AccountsFor settings headers rows loaded := by
  refine ⟨accountsFor_ofRows settings, ?_⟩
  intro source file loaded succeeds
  rcases Source.delivered_of_load succeeds with ⟨headers, rows, delivered, rfl⟩
  exact ⟨headers, rows, delivered, accountsFor_ofRows settings headers rows⟩

/-- Of five rows two are too short, and of those the second has the identifier of
the row before it, whose number is in the id column further down. -/
theorem every_row_accounted_for_ragged :
    let settings : Settings := { idColumn := some "id" }
    let source : Source := ⟨"people.csv", comma⟩
    let file : File := ⟨"name,id,town\nAnn,x\nBob\nCid,2,Rome\nDan,x\n".toUTF8.toList, 0⟩
    let rows := [["Ann", "x"], ["Bob"], ["Cid", "2", "Rome"], ["Dan", "x"]]
    let loaded := ofRows settings ["name", "id", "town"] rows
    source.load settings (some file) = .ok loaded ∧
      loaded.records.map Record.id = [.name "x", .number 2] ∧
      AccountsFor settings ["name", "id", "town"] rows loaded := by
  intro settings source file rows loaded
  have succeeds : source.load settings (some file) = .ok loaded := by decide +kernel
  have delivered : source.deliver file = .ok (["name", "id", "town"], rows) := by decide +kernel
  rcases (every_row_accounted_for settings).2 source file loaded succeeds with
    ⟨headers, texts, same, accounts⟩
  rw [delivered] at same
  cases same
  exact ⟨succeeds, by decide +kernel, accounts⟩

/-! ## Rows that have a field in the id column -/

variable (settings : Settings) (headers : List String)

/-- Whether a row further up has a field for the same identifier. -/
def RepeatsField (rows : List (List String)) (place : Nat) (text : String) : Prop :=
  ∃ earlier < place, ∃ row other, rows[earlier]? = some row ∧
    HasIdField settings headers row other ∧ RecordId.ofText other = .ofText text

/-- Whether a row further up that has no such field has the identifier for its
number. -/
def RepeatsNumber (rows : List (List String)) (place : Nat) (text : String) : Prop :=
  ∃ earlier < place, ∃ row, rows[earlier]? = some row ∧
    (∀ other, ¬ HasIdField settings headers row other) ∧
    RecordId.ofText text = .number (earlier + 1)

/-- Whether of the rows with a field in the id column exactly those that repeat an
identifier are left out, each with a warning. -/
def LeavesOutRepeats (rows : List (List String)) (loaded : Loaded) : Prop :=
  ∃ places : List Nat, places.Pairwise (· < ·) ∧
    List.Forall₂ (IsRecordAt settings headers rows) places loaded.records ∧
    ∀ place row text, rows[place]? = some row → HasIdField settings headers row text →
      (place ∉ places ↔
        RepeatsField settings headers rows place text ∨
          RepeatsNumber settings headers rows place text) ∧
      (place ∉ places ↔ .duplicateId (.ofText text) (place + 1) ∈ loaded.warnings)

variable {settings headers} {rows : List (List String)} {row : List String} {place : Nat}
  {text : String}

theorem identifies_of_field {id : RecordId} (found : HasIdField settings headers row text) :
    Identifies settings headers row place id ↔ id = .ofText text := by
  rw [identifies_iff, entryId_of_field found, eq_comm]

theorem not_isFirstAt_iff (here : rows[place]? = some row)
    (found : HasIdField settings headers row text) :
    ¬ IsFirstAt settings headers rows place ↔
      RepeatsField settings headers rows place text ∨
        RepeatsNumber settings headers rows place text := by
  constructor
  · intro notFirst
    by_contra fresh
    apply notFirst
    refine ⟨row, .ofText text, here, .field text found, ?_⟩
    intro earlier before other otherHere same
    apply fresh
    generalize known : RecordId.ofText text = id at same
    cases same with
    | field otherText otherFound =>
        exact Or.inl ⟨earlier, before, other, otherText, otherHere, otherFound, known.symm⟩
    | number missing => exact Or.inr ⟨earlier, before, other, otherHere, missing, known⟩
  · rintro repeats ⟨known, id, knownHere, identified, first⟩
    rw [here] at knownHere
    cases knownHere
    rw [identifies_of_field found] at identified
    rw [identified] at first
    rcases repeats with ⟨earlier, before, other, otherText, otherHere, otherFound, same⟩ |
      ⟨earlier, before, other, otherHere, missing, same⟩
    · exact first earlier before other otherHere ((identifies_of_field otherFound).mpr same.symm)
    · rw [same] at first
      exact first earlier before other otherHere (.number missing)

theorem not_isFirstAt_iff_warned (here : rows[place]? = some row)
    (found : HasIdField settings headers row text) :
    ¬ IsFirstAt settings headers rows place ↔
      .duplicateId (.ofText text) (place + 1) ∈ (ofRows settings headers rows).warnings := by
  rw [duplicateId_mem_warnings_iff]
  constructor
  · intro notFirst
    exact ⟨place, row, rfl, here, .field text found, notFirst⟩
  · rintro ⟨other, _, counted, _, _, notFirst⟩
    rw [show place = other by omega]
    exact notFirst

theorem leavesOutRepeats_ofRows (rows : List (List String)) :
    LeavesOutRepeats settings headers rows (ofRows settings headers rows) := by
  rcases (accountsFor_ofRows settings headers rows).records with
    ⟨places, ascending, firsts, records⟩
  refine ⟨places, ascending, records, ?_⟩
  intro place row text here found
  rw [firsts place]
  exact ⟨not_isFirstAt_iff here found, not_isFirstAt_iff_warned here found⟩

/-- A row with a field in the id column is left out for one of two reasons: a row
further up has a field for the same identifier, or is too short for one and has
the identifier for its number. -/
theorem left_out_for_identifier_above (settings : Settings) :
    (∀ headers rows, LeavesOutRepeats settings headers rows (ofRows settings headers rows)) ∧
      ∀ (source : Source) (file : File) (loaded : Loaded),
        source.load settings (some file) = .ok loaded →
          ∃ headers rows, source.deliver file = .ok (headers, rows) ∧
            LeavesOutRepeats settings headers rows loaded := by
  refine ⟨fun headers rows => leavesOutRepeats_ofRows rows, ?_⟩
  intro source file loaded succeeds
  rcases Source.delivered_of_load succeeds with ⟨headers, rows, delivered, rfl⟩
  exact ⟨headers, rows, delivered, leavesOutRepeats_ofRows rows⟩

/-- The third row repeats the field of the second, and the fourth the number of the
first, which is short. -/
theorem left_out_for_identifier_above_ragged :
    let settings : Settings := { idColumn := some "id" }
    let source : Source := ⟨"people.csv", comma⟩
    let file : File := ⟨"name,id\nAnn\nBob,7\nCid,+7\nDan,1\n".toUTF8.toList, 0⟩
    let rows := [["Ann"], ["Bob", "7"], ["Cid", "+7"], ["Dan", "1"]]
    let loaded := ofRows settings ["name", "id"] rows
    source.load settings (some file) = .ok loaded ∧
      loaded.records.map Record.id = [.number 1, .number 7] ∧
      LeavesOutRepeats settings ["name", "id"] rows loaded := by
  intro settings source file rows loaded
  have succeeds : source.load settings (some file) = .ok loaded := by decide +kernel
  have delivered : source.deliver file = .ok (["name", "id"], rows) := by decide +kernel
  rcases (left_out_for_identifier_above settings).2 source file loaded succeeds with
    ⟨headers, texts, same, leavesOut⟩
  rw [delivered] at same
  cases same
  exact ⟨succeeds, by decide +kernel, leavesOut⟩

/-- A row is left out for the number of a row that is too short for an identifier,
though no other row has its field in the id column. -/
theorem identifier_lost_to_number :
    let settings : Settings := { idColumn := some "id" }
    let source : Source := ⟨"people.csv", comma⟩
    let file : File := ⟨"name,id\nAnn\nBob,1\n".toUTF8.toList, 0⟩
    let rows := [["Ann"], ["Bob", "1"]]
    let loaded := ofRows settings ["name", "id"] rows
    source.deliver file = .ok (["name", "id"], rows) ∧
      source.load settings (some file) = .ok loaded ∧
      HasIdField settings ["name", "id"] ["Bob", "1"] "1" ∧
      loaded.records.map (·.value? "name") = [some "Ann"] ∧
      loaded.warnings = [.duplicateId (.ofText "1") 2, .padded 1] ∧
      ¬ RepeatsField settings ["name", "id"] rows 1 "1" := by
  intro settings source file rows loaded
  refine ⟨by decide +kernel, by decide +kernel, by decide +kernel, by decide +kernel,
    by decide +kernel, ?_⟩
  rintro ⟨earlier, before, row, other, here, found, _⟩
  obtain rfl : earlier = 0 := by omega
  obtain rfl : ["Ann"] = row := Option.some.inj here
  rw [hasIdField_iff] at found
  cases found

end Loaded

end PagedTable
