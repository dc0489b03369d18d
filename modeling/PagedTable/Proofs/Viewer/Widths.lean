import Mathlib.Order.Nat
import PagedTable.Proofs.Text.Simple
import PagedTable.Viewer.Layout

/-! # Widths of columns

A column is as wide as the widest text it shows, and three columns wide at least. A
width that is too large for what holds it wraps around, so that this is true of columns
only in which all texts are narrow enough. -/

namespace PagedTable

open Text

def leastWidth : Nat := 3

/-- The texts in a column of a table: its header, and the cells of the rows that reach it. -/
def columnTexts (headers : List String) (rows : List (List String)) (column : Nat) :
    List String :=
  headers[column]?.toList ++ rows.filterMap (·[column]?)

def neededWidth (headers : List String) (rows : List (List String)) (column : Nat) : Nat :=
  ((columnTexts headers rows column).map fun text => displayWidth text.toList).foldl max leastWidth

section Needed

variable {headers : List String} {rows : List (List String)} {column : Nat}

theorem foldl_max_le_iff {values : List Nat} {initial bound : Nat} :
    values.foldl max initial ≤ bound ↔ initial ≤ bound ∧ ∀ value ∈ values, value ≤ bound := by
  induction values generalizing initial with
  | nil => simp
  | cons value values induction =>
      rw [List.foldl_cons, induction, Nat.max_le, List.forall_mem_cons, and_assoc]

theorem neededWidth_le_iff {bound : Nat} :
    neededWidth headers rows column ≤ bound ↔
      leastWidth ≤ bound ∧
        ∀ text ∈ columnTexts headers rows column, displayWidth text.toList ≤ bound := by
  rw [neededWidth, foldl_max_le_iff, List.forall_mem_map]

theorem displayWidth_le_neededWidth {text : String}
    (member : text ∈ columnTexts headers rows column) :
    displayWidth text.toList ≤ neededWidth headers rows column :=
  (neededWidth_le_iff.mp (Nat.le_refl _)).2 text member

theorem leastWidth_le_neededWidth : leastWidth ≤ neededWidth headers rows column :=
  (neededWidth_le_iff.mp (Nat.le_refl _)).1

theorem neededWidth_lt (fits : ∀ text ∈ columnTexts headers rows column,
    displayWidth text.toList < widthLimit) : neededWidth headers rows column < widthLimit := by
  have bound : neededWidth headers rows column ≤ widthLimit - 1 := by
    apply neededWidth_le_iff.mpr
    exact ⟨by decide, fun text member => Nat.le_sub_one_of_lt (fits text member)⟩
  exact Nat.lt_of_le_of_lt bound (by decide)

theorem columnTexts_subset {fewer : List (List String)} (subset : fewer ⊆ rows) :
    columnTexts headers fewer column ⊆ columnTexts headers rows column := by
  intro text member
  rcases List.mem_append.mp member with header | cell
  · exact List.mem_append_left _ header
  · rcases List.mem_filterMap.mp cell with ⟨row, rowMember, shown⟩
    exact List.mem_append_right _ (List.mem_filterMap.mpr ⟨row, subset rowMember, shown⟩)

theorem neededWidth_mono {fewer : List (List String)} (subset : fewer ⊆ rows) :
    neededWidth headers fewer column ≤ neededWidth headers rows column := by
  apply neededWidth_le_iff.mpr
  exact ⟨leastWidth_le_neededWidth,
    fun text member => displayWidth_le_neededWidth (columnTexts_subset subset member)⟩

/-- The width of a column is what it needs, as far as that is held. -/
theorem getElem?_columnWidths (there : column < headers.length) :
    (columnWidths headers rows)[column]? =
      some (neededWidth headers rows column % widthLimit) := by
  have header : headers[column]? = some headers[column] := List.getElem?_eq_getElem there
  have same : max (max ((rows.filterMap fun row =>
      (row[column]?).map fun content => displayWidth content.toList).foldl max 0)
        (displayWidth headers[column].toList)) 3 = neededWidth headers rows column := by
    apply eq_of_forall_ge_iff
    intro bound
    rw [neededWidth_le_iff, columnTexts, header, Nat.max_le, Nat.max_le, foldl_max_le_iff,
      ← List.map_filterMap, List.forall_mem_map]
    simp only [leastWidth, Option.toList_some, List.singleton_append, List.forall_mem_cons]
    constructor
    · rintro ⟨⟨⟨_, cells⟩, head⟩, least⟩
      exact ⟨least, head, cells⟩
    · rintro ⟨least, head, cells⟩
      exact ⟨⟨⟨Nat.zero_le bound, cells⟩, head⟩, least⟩
  unfold columnWidths
  dsimp only
  rw [List.getElem?_mapIdx, header, Option.map_some, same]

end Needed

structure FitsColumn (headers : List String) (rows : List (List String)) (column width : Nat) :
    Prop where
  found : (columnWidths headers rows)[column]? = some width
  least : leastWidth ≤ width
  holds : ∀ text ∈ columnTexts headers rows column, displayWidth text.toList ≤ width
  minimal : ∀ bound, leastWidth ≤ bound →
    (∀ text ∈ columnTexts headers rows column, displayWidth text.toList ≤ bound) →
    width ≤ bound
  fewer : ∀ fewer, fewer ⊆ rows →
    ∃ narrower, (columnWidths headers fewer)[column]? = some narrower ∧ narrower ≤ width

/-- There is a width for each header. A column whose texts can be held is as wide as the
widest of them and as the least width, and no wider; with fewer rows it is not wider. -/
theorem columns_hold_what_they_show {headers : List String} {rows : List (List String)}
    {column : Nat} (there : column < headers.length)
    (fits : ∀ text ∈ columnTexts headers rows column, displayWidth text.toList < widthLimit) :
    (columnWidths headers rows).length = headers.length ∧
      ∃ width, FitsColumn headers rows column width := by
  refine ⟨List.length_mapIdx, neededWidth headers rows column, ?_, leastWidth_le_neededWidth,
    fun text member => displayWidth_le_neededWidth member, ?_, ?_⟩
  · rw [getElem?_columnWidths there, Nat.mod_eq_of_lt (neededWidth_lt fits)]
  · exact fun bound least widest => neededWidth_le_iff.mpr ⟨least, widest⟩
  · intro fewer subset
    refine ⟨_, getElem?_columnWidths there, ?_⟩
    exact Nat.le_trans (Nat.mod_le _ _) (neededWidth_mono subset)

/-- Rows of different lengths, the longer one with a wide text in its second column. -/
theorem columns_hold_what_they_show_ragged :
    let headers := ["id", "名前"]
    let rows := [["12345"], ["7", "日本語", "more"]]
    1 < headers.length ∧
      columnTexts headers rows 1 = ["名前", "日本語"] ∧
      (∀ text ∈ columnTexts headers rows 1, displayWidth text.toList < widthLimit) ∧
      displayWidth "日本語".toList = 6 ∧ [["12345"]] ⊆ rows ∧
      columnWidths headers [["12345"]] = [5, 4] ∧
      ∃ width, (columnWidths headers rows)[1]? = some width ∧ leastWidth ≤ width ∧
        displayWidth "日本語".toList ≤ width ∧
        ∃ narrower, (columnWidths headers [["12345"]])[1]? = some narrower ∧
          narrower ≤ width := by
  intro headers rows
  have there : 1 < headers.length := by decide
  have texts : columnTexts headers rows 1 = ["名前", "日本語"] := by decide
  have fits : ∀ text ∈ columnTexts headers rows 1, displayWidth text.toList < widthLimit := by
    decide +kernel
  have fewer : [["12345"]] ⊆ rows := by decide
  rcases columns_hold_what_they_show there fits with ⟨_, width, column⟩
  exact ⟨there, texts, fits, by decide +kernel, fewer, by decide +kernel, width, column.found,
    column.least, column.holds "日本語" (texts ▸ by decide), column.fewer _ fewer⟩

theorem columnWidths_of_widthLimit {text : String}
    (wide : displayWidth text.toList = widthLimit) : columnWidths ["id"] [[text]] = [0] := by
  change [max (max (max 0 (displayWidth text.toList)) (displayWidth "id".toList)) 3 % widthLimit] =
    [0]
  rw [wide]
  decide +kernel

/-- A text one column wider than can be held leaves no room at all, where without its row
there would be some. -/
theorem wide_column_collapses :
    let wide := String.ofList (List.replicate widthLimit 'a')
    displayWidth wide.toList = widthLimit ∧ columnWidths ["id"] [] = [leastWidth] ∧
      columnWidths ["id"] [[wide]] = [0] := by
  intro wide
  have simple : ∀ char ∈ wide.toList, IsSimple char := by
    intro char member
    rw [String.toList_ofList] at member
    rw [List.eq_of_mem_replicate member]
    exact isSimple_of_printable (by decide) (by decide)
  have width : displayWidth wide.toList = widthLimit := by
    rw [displayWidth_of_isSimple simple, String.toList_ofList, List.length_replicate]
  exact ⟨width, by decide +kernel, columnWidths_of_widthLimit width⟩

end PagedTable
