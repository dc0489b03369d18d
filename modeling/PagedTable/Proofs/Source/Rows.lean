import Mathlib.Data.List.Induction
import Mathlib.Data.List.Nodup
import PagedTable.Source.Load

/-! # From rows to records

Every row whose identifier no earlier row has becomes a record. A record keeps its
fields under the names of their columns, and of columns with one name the last one
counts. -/

namespace PagedTable

/-! ## Named values -/

namespace Contents

theorem lookup_filter_of_ne {name key : String} (other : name ≠ key)
    (values : List (String × String)) :
    (values.filter (·.1 ≠ key)).lookup name = values.lookup name := by
  induction values with
  | nil => rfl
  | cons entry values induction =>
      rcases entry with ⟨first, value⟩
      by_cases same : first = key
      · have apart : (name == first) = false := by simpa [same] using other
        rw [List.filter_cons_of_neg (by simpa using same), induction, List.lookup_cons, apart]
      · rw [List.filter_cons_of_pos (by simpa using same), List.lookup_cons, List.lookup_cons,
          induction]

theorem lookup_insertValue (values : List (String × String)) (entry : String × String)
    (name : String) :
    (insertValue values entry).lookup name =
      if name = entry.1 then some entry.2 else values.lookup name := by
  rcases entry with ⟨key, value⟩
  rw [insertValue, List.lookup_append]
  by_cases same : name = key
  · have gone : (values.filter (·.1 ≠ key)).lookup key = none := by
      rw [List.lookup_eq_none_iff]
      intro listed member
      have apart : listed.1 ≠ key := of_decide_eq_true (List.mem_filter.mp member).2
      simpa using apart.symm
    rw [same, gone, if_pos rfl, Option.none_or, List.lookup_cons_self]
  · have last : [(key, value)].lookup name = none := by simp [same]
    rw [lookup_filter_of_ne same, last, if_neg same, Option.or_none]

/-- Of all values set under a name the last one is found. -/
theorem lookup_foldl_insertValue (entries : List (String × String)) (name : String) :
    (entries.foldl insertValue []).lookup name = entries.reverse.lookup name := by
  induction entries using List.reverseRecOn with
  | nil => rfl
  | append_singleton entries entry induction =>
      rcases entry with ⟨key, value⟩
      rw [List.foldl_append, List.foldl_cons, List.foldl_nil, lookup_insertValue, induction,
        List.reverse_append, List.reverse_singleton, List.singleton_append, List.lookup_cons]
      by_cases same : name = key
      · simp [same]
      · have apart : (name == key) = false := by simpa using same
        simp [same, apart]

theorem lookup_reverse_of_last {entries : List (String × String)} {name value : String} {last : Nat}
    (here : entries[last]? = some (name, value))
    (gone : name ∉ (entries.drop (last + 1)).map Prod.fst) :
    entries.reverse.lookup name = some value := by
  rcases List.getElem?_eq_some_iff.mp here with ⟨within, known⟩
  have behind : (entries.drop (last + 1)).reverse.lookup name = none := by
    rw [List.lookup_eq_none_iff]
    intro entry member
    have apart : name ≠ entry.1 := by
      rintro rfl
      exact gone (List.mem_map_of_mem (List.mem_reverse.mp member))
    simpa using apart
  rw [← List.take_append_drop last entries, List.drop_eq_getElem_cons within, known,
    List.reverse_append, List.reverse_cons, List.lookup_append, List.lookup_append, behind,
    Option.none_or, List.lookup_cons_self, Option.some_or]

end Contents

namespace Loaded

variable (settings : Settings) (headers : List String)

/-! ## Records -/

/-- A record has the field of a column under its name, unless a later column has
that name too. -/
theorem value?_recordOf {name : String} {last : Nat} (here : headers[last]? = some name)
    (gone : name ∉ headers.drop (last + 1)) (id : RecordId) (row : List String) :
    (recordOf settings headers id row).value? name = some (row.getD last "") := by
  let entries := headers.mapIdx fun place name => (name, row.getD place "")
  have names : entries.map Prod.fst = headers := by
    apply List.ext_getElem?
    intro place
    simp [entries, Function.comp_def]
  have found : (entries.foldl Contents.insertValue []).lookup name = some (row.getD last "") := by
    rw [Contents.lookup_foldl_insertValue]
    apply Contents.lookup_reverse_of_last
    · rw [List.getElem?_mapIdx, here]
      rfl
    · rw [List.map_drop, names]
      exact gone
  rw [Record.value?, recordOf, Contents.ofEntries]
  dsimp only
  rw [found]

/-! ## Rows that become records -/

def entryId (entry : List String × Nat) : RecordId :=
  idOf settings headers entry.2 entry.1

def IsFirst (entries : List (List String × Nat)) (entry : List String × Nat) : Prop :=
  ∀ earlier ∈ entries, earlier.2 < entry.2 →
    entryId settings headers earlier ≠ entryId settings headers entry

instance (entries : List (List String × Nat)) (entry : List String × Nat) :
    Decidable (IsFirst settings headers entries entry) :=
  inferInstanceAs (Decidable (∀ earlier ∈ entries, _))

def kept (rows : List (List String)) : List (List String × Nat) :=
  rows.zipIdx.filter fun entry => IsFirst settings headers rows.zipIdx entry

variable {settings headers} {entries : List (List String × Nat)} {last : List String × Nat}

theorem isFirst_concat_iff {entry : List String × Nat} (ahead : entry.2 ≤ last.2) :
    IsFirst settings headers (entries ++ [last]) entry ↔
      IsFirst settings headers entries entry := by
  constructor
  · intro first earlier member
    exact first earlier (List.mem_append_left _ member)
  · intro first earlier member precedes
    rcases List.mem_append.mp member with old | new
    · exact first earlier old precedes
    · rw [List.mem_singleton.mp new] at precedes
      exact absurd ahead (Nat.not_le_of_lt precedes)

theorem isFirst_last_iff (before : ∀ entry ∈ entries, entry.2 < last.2) :
    IsFirst settings headers (entries ++ [last]) last ↔
      entryId settings headers last ∉ entries.map (entryId settings headers) := by
  rw [isFirst_concat_iff (Nat.le_refl _), List.mem_map]
  constructor
  · rintro first ⟨earlier, member, same⟩
    exact first earlier member (before earlier member) same
  · intro free earlier member _ same
    exact free ⟨earlier, member, same⟩

variable (settings headers)

theorem zipIdx_concat (rows : List (List String)) (row : List String) :
    (rows ++ [row]).zipIdx = rows.zipIdx ++ [(row, rows.length)] := by
  rw [List.zipIdx_append]
  simp

theorem filter_zipIdx_concat (rows : List (List String)) (row : List String)
    (passes : List String × Nat → Bool) :
    (rows ++ [row]).zipIdx.filter passes =
      rows.zipIdx.filter passes ++ [(row, rows.length)].filter passes := by
  rw [zipIdx_concat, List.filter_append]

/-- A further row does not change which of the rows above it are first. -/
theorem isFirst_above_iff (rows : List (List String)) (row : List String)
    {entry : List String × Nat} (member : entry ∈ rows.zipIdx) :
    IsFirst settings headers (rows ++ [row]).zipIdx entry ↔
      IsFirst settings headers rows.zipIdx entry := by
  have before := List.snd_lt_of_mem_zipIdx member
  rw [zipIdx_concat]
  exact isFirst_concat_iff (by omega)

theorem isFirst_row_iff (rows : List (List String)) (row : List String) :
    IsFirst settings headers (rows ++ [row]).zipIdx (row, rows.length) ↔
      entryId settings headers (row, rows.length) ∉
        rows.zipIdx.map (entryId settings headers) := by
  rw [zipIdx_concat]
  apply isFirst_last_iff
  intro entry member
  have bounds := List.snd_lt_of_mem_zipIdx member
  omega

theorem kept_concat (rows : List (List String)) (row : List String) :
    kept settings headers (rows ++ [row]) =
      kept settings headers rows ++
        if entryId settings headers (row, rows.length) ∈
            rows.zipIdx.map (entryId settings headers) then []
        else [(row, rows.length)] := by
  have above : ∀ entry ∈ rows.zipIdx,
      decide (IsFirst settings headers (rows ++ [row]).zipIdx entry) =
        decide (IsFirst settings headers rows.zipIdx entry) :=
    fun _ member => decide_eq_decide.mpr (isFirst_above_iff settings headers rows row member)
  have last := isFirst_row_iff settings headers rows row
  rw [kept, filter_zipIdx_concat, List.filter_congr above, ← kept]
  congr 1
  split
  case isTrue taken => simp [last, taken]
  case isFalse free => simp [last, free]

/-- A row that is left out has the identifier of one that is not. -/
theorem mem_map_kept {rows : List (List String)} {id : RecordId} :
    id ∈ (kept settings headers rows).map (entryId settings headers) ↔
      id ∈ rows.zipIdx.map (entryId settings headers) := by
  induction rows using List.reverseRecOn with
  | nil => rfl
  | append_singleton rows row induction =>
      rw [kept_concat, zipIdx_concat, List.map_append, List.map_append, List.mem_append,
        List.mem_append, induction]
      split
      case isTrue taken =>
        rw [List.map_nil, List.map_singleton, List.mem_singleton]
        constructor
        · rintro (old | nothing)
          · exact Or.inl old
          · cases nothing
        · rintro (old | rfl)
          · exact Or.inl old
          · exact Or.inl taken
      case isFalse => rfl

theorem nodup_kept (rows : List (List String)) :
    ((kept settings headers rows).map (entryId settings headers)).Nodup := by
  induction rows using List.reverseRecOn with
  | nil => exact List.nodup_nil
  | append_singleton rows row induction =>
      rw [kept_concat, List.map_append]
      split
      case isTrue => simpa using induction
      case isFalse free =>
        rw [List.map_singleton, ← List.concat_eq_append]
        apply induction.concat
        rw [mem_map_kept]
        exact free

theorem records_addRow (loaded : Loaded) (entry : List String × Nat) :
    (addRow settings headers loaded entry).records =
      loaded.records ++
        if entryId settings headers entry ∈ loaded.records.map Record.id then []
        else [recordOf settings headers (entryId settings headers entry) entry.1] := by
  unfold addRow entryId
  dsimp only
  split
  · exact (List.append_nil _).symm
  · rfl

theorem records_foldl_addRow (loaded : Loaded) (empty : loaded.records = [])
    (rows : List (List String)) :
    (rows.zipIdx.foldl (addRow settings headers) loaded).records =
      (kept settings headers rows).map fun entry =>
        recordOf settings headers (entryId settings headers entry) entry.1 := by
  induction rows using List.reverseRecOn with
  | nil => exact empty
  | append_singleton rows row induction =>
      have known : entryId settings headers (row, rows.length) ∈
            (rows.zipIdx.foldl (addRow settings headers) loaded).records.map Record.id ↔
          entryId settings headers (row, rows.length) ∈
            rows.zipIdx.map (entryId settings headers) := by
        rw [← mem_map_kept, induction, List.map_map]
        rfl
      rw [zipIdx_concat, List.foldl_append, List.foldl_cons, List.foldl_nil, kept_concat,
        List.map_append, ← induction, records_addRow]
      by_cases taken : entryId settings headers (row, rows.length) ∈
          rows.zipIdx.map (entryId settings headers)
      · rw [if_pos taken, if_pos (known.mpr taken), List.map_nil]
      · rw [if_neg taken, if_neg (mt known.mp taken), List.map_singleton]

theorem records_ofRows (rows : List (List String)) :
    (ofRows settings headers rows).records =
      (kept settings headers rows).map fun entry =>
        recordOf settings headers (entryId settings headers entry) entry.1 := by
  have added := records_foldl_addRow settings headers
    ⟨headers, [], idWarnings settings headers⟩ rfl rows
  unfold ofRows
  dsimp only
  split
  · exact added
  · exact added

/-- Records have no cells before they are shown. -/
theorem unfilled_ofRows (rows : List (List String)) :
    ∀ record ∈ (ofRows settings headers rows).records, record.cells = none := by
  rw [records_ofRows]
  intro record member
  rcases List.mem_map.mp member with ⟨entry, _, rfl⟩
  rfl

/-! ## Headers -/

theorem headers_addRow (loaded : Loaded) (entry : List String × Nat) :
    (addRow settings headers loaded entry).headers = loaded.headers := by
  unfold addRow
  dsimp only
  split
  · rfl
  · rfl

theorem headers_foldl_addRow (entries : List (List String × Nat)) (loaded : Loaded) :
    (entries.foldl (addRow settings headers) loaded).headers = loaded.headers := by
  induction entries generalizing loaded with
  | nil => rfl
  | cons entry entries induction => rw [List.foldl_cons, induction, headers_addRow]

theorem headers_ofRows (rows : List (List String)) :
    (ofRows settings headers rows).headers = headers := by
  have added := headers_foldl_addRow settings headers rows.zipIdx
    ⟨headers, [], idWarnings settings headers⟩
  unfold ofRows
  dsimp only
  split
  · exact added
  · exact added

end Loaded

end PagedTable
