import PagedTable.Proofs.Drawn.Serial
import PagedTable.Proofs.Paging.Entries
import PagedTable.Viewer.State

/-! # What serial texts tell

A pager entry is told from its serial text, and so is a cell whose classes have plain
names. The viewer gives cells no other names, so that the rows it leaves on display are
the new rows, apart from where their cells come from. -/

namespace PagedTable

namespace Cell

/-- Whether the classes of a cell can be read from its serial text. -/
def IsPlain (cell : Cell) : Prop :=
  ∀ name ∈ cell.classes, IsPlainName name

instance (cell : Cell) : Decidable cell.IsPlain :=
  inferInstanceAs (Decidable (∀ name ∈ cell.classes, IsPlainName name))

theorem IsPlain.addClass {cell : Cell} (plain : cell.IsPlain) {name : String}
    (namePlain : IsPlainName name) : (cell.addClass name).IsPlain := by
  unfold Cell.addClass
  split
  · exact plain
  · intro other member
    rcases List.mem_append.mp member with earlier | added
    · exact plain other earlier
    · rw [List.mem_singleton.mp added]
      exact namePlain

theorem IsPlain.markNumber {cell : Cell} (plain : cell.IsPlain) : (markNumber cell).IsPlain := by
  unfold PagedTable.markNumber
  split
  · exact plain.addClass (by decide)
  · exact plain

theorem serial_eq_iff {first second : Cell} (firstPlain : first.IsPlain)
    (secondPlain : second.IsPlain) :
    serial first = serial second ↔
      first.content = second.content ∧ first.classes = second.classes := by
  constructor
  · intro same
    rw [eq_of_serial_eq firstPlain secondPlain same]
    exact ⟨rfl, rfl⟩
  · rintro ⟨contents, classes⟩
    change " ".intercalate first.classes ++ "|" ++ first.content = _
    rw [contents, classes]
    rfl

end Cell

theorem patchRows_eq_new_of_isPlain {old new : List (Row Cell)}
    (oldPlain : ∀ row ∈ old, ∀ cell ∈ row.cells, cell.IsPlain)
    (newPlain : ∀ row ∈ new, ∀ cell ∈ row.cells, cell.IsPlain) : patchRows old new = new := by
  apply patchRows_eq_new
  intro row rowMember fresh freshMember head headMember cell cellMember
  exact Cell.eq_of_serial_eq (oldPlain row rowMember head headMember)
    (newPlain fresh freshMember cell cellMember)

/-- Where the cells are plain, patched rows differ from the new ones in the stamps of
their cells only. -/
theorem map_unstamped_patchRows_of_isPlain {old new : List (Row (Stamped Cell))}
    (plain : ∀ row ∈ old ++ new, ∀ cell ∈ row.cells, cell.value.IsPlain) :
    (patchRows old new).map Row.unstamped = new.map Row.unstamped := by
  have unstamped (rows : List (Row (Stamped Cell))) (among : ∀ row ∈ rows, row ∈ old ++ new) :
      ∀ row ∈ rows.map Row.unstamped, ∀ cell ∈ row.cells, cell.IsPlain := by
    intro row member cell cellMember
    rcases List.mem_map.mp member with ⟨stamped, stampedMember, rfl⟩
    rcases List.mem_map.mp cellMember with ⟨value, valueMember, rfl⟩
    exact plain stamped (among stamped stampedMember) value valueMember
  rw [map_unstamped_patchRows]
  exact patchRows_eq_new_of_isPlain (unstamped old fun _ => List.mem_append_left new)
    (unstamped new fun _ => List.mem_append_right old)

structure SerialIsFaithful : Prop where
  entries : ∀ first second : PagerEntry, serial first = serial second ↔ first = second
  cells : ∀ first second : Cell, first.IsPlain → second.IsPlain →
    (serial first = serial second ↔
      first.content = second.content ∧ first.classes = second.classes)
  rendered : ∀ headers cell column record, cell.IsPlain →
    ((headerHooks headers).render cell column record).IsPlain
  rows : ∀ old new : List (Row (Stamped Cell)),
    (∀ row ∈ old ++ new, ∀ cell ∈ row.cells, cell.value.IsPlain) →
    (patchRows old new).map Row.unstamped = new.map Row.unstamped

/-- Serial texts tell pager entries apart, and plain cells, which are all that the viewer
makes. So patched rows are the new rows, and do not only look like them. -/
theorem serial_texts_tell_apart : SerialIsFaithful := by
  refine ⟨?_, ?_, ?_, ?_⟩
  · exact fun first second => ⟨PagerEntry.eq_of_serial_eq, congrArg serial⟩
  · exact fun first second firstPlain secondPlain => Cell.serial_eq_iff firstPlain secondPlain
  · exact fun headers cell column record plain => plain.markNumber
  · exact fun old new plain => map_unstamped_patchRows_of_isPlain plain

/-- Contents with bars and blanks in them, so that a class of one cell stands behind the
bar of another. The first cell stays and the second one is replaced. -/
theorem serial_texts_tell_apart_with_bars :
    let row (cells : List (Stamped Cell)) : Row (Stamped Cell) := ⟨⟨.number 1, []⟩, cells⟩
    let old := [row [⟨0, ⟨"|7", ["a", "b"]⟩⟩, ⟨1, ⟨"b |7", ["a"]⟩⟩]]
    let new := [row [⟨2, ⟨"|7", ["a", "b"]⟩⟩, ⟨3, ⟨"7", ["a", "b"]⟩⟩]]
    (∀ row ∈ old ++ new, ∀ cell ∈ row.cells, cell.value.IsPlain) ∧
      (patchRows old new).map (fun row => row.cells.map Stamped.stamp) = [[0, 3]] ∧
      (patchRows old new).map Row.unstamped = new.map Row.unstamped ∧
      ((Cell.mk "b |7" ["a"]).IsPlain ∧ (Cell.mk "7" ["a", "b"]).IsPlain ∧
        serial (Cell.mk "b |7" ["a"]) ≠ serial (Cell.mk "7" ["a", "b"])) ∧
      ((headerHooks []).render ⟨"7", []⟩ 0 ⟨.number 1, .text "", none⟩).IsPlain := by
  intro row old new
  have plain : ∀ row ∈ old ++ new, ∀ cell ∈ row.cells, cell.value.IsPlain := by decide
  have firstPlain : (Cell.mk "b |7" ["a"]).IsPlain := by decide
  have secondPlain : (Cell.mk "7" ["a", "b"]).IsPlain := by decide
  have faithful := serial_texts_tell_apart
  refine ⟨plain, by decide, faithful.rows old new plain, ⟨firstPlain, secondPlain, ?_⟩,
    faithful.rendered [] ⟨"7", []⟩ 0 _ (by decide)⟩
  intro same
  exact absurd ((faithful.cells _ _ firstPlain secondPlain).mp same).2 (by decide)

end PagedTable
