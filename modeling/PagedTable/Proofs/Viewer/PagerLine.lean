import Mathlib.Algebra.GroupWithZero.Nat
import PagedTable.Proofs.Number.Word
import PagedTable.Proofs.Paging.Entries
import PagedTable.Proofs.Screen.Line
import PagedTable.Viewer.Draw

/-! # Entries under the pointer

A click on the pager line finds its entry by adding up the widths of the entries one by
one. The entries are drawn elsewhere, as texts next to each other. Both agree: a click
finds the entry that is drawn in its column, and none in front of the bar, behind it or
between two entries. -/

namespace PagedTable

open Text

/-! ## Labels -/

namespace PagerEntry

def drawnText (entry : PagerEntry) : String :=
  " " ++ entry.label ++ " "

theorem isSimple_label (entry : PagerEntry) : ∀ char ∈ entry.label.toList, IsSimple char := by
  cases entry with
  | previous disabled =>
      change ∀ char ∈ "← Prev".toList, IsSimple char
      exact isSimple_of_all (by decide +kernel)
  | page number active =>
      intro char member
      change char ∈ (toString number).toList at member
      rw [Nat.toString_eq_ofList_toDigits, String.toList_ofList] at member
      exact isSimple_of_isDigit (Nat.isDigit_of_mem_toDigits (by decide) (by decide) member)
  | dots => exact isSimple_of_all (by decide +kernel)
  | next disabled =>
      change ∀ char ∈ "Next →".toList, IsSimple char
      exact isSimple_of_all (by decide +kernel)

theorem isSimple_gap : ∀ char ∈ " ".toList, IsSimple char :=
  isSimple_of_all (by decide +kernel)

theorem isSimple_drawnText (entry : PagerEntry) :
    ∀ char ∈ entry.drawnText.toList, IsSimple char := by
  intro char member
  simp only [drawnText, String.toList_append, List.mem_append] at member
  rcases member with (before | label) | behind
  · exact isSimple_gap char before
  · exact entry.isSimple_label char label
  · exact isSimple_gap char behind

theorem width_eq (entry : PagerEntry) : entry.width = entry.drawnText.toList.length := by
  rw [width, displayWidth_of_isSimple entry.isSimple_label, drawnText]
  simp [String.toList_append]

theorem displayWidth_drawnText (entry : PagerEntry) :
    displayWidth entry.drawnText.toList = entry.width := by
  rw [displayWidth_of_isSimple entry.isSimple_drawnText, width_eq]

end PagerEntry

/-! ## Where entries are drawn -/

def drawnWidth (entries : List PagerEntry) : Nat :=
  ((entries.flatMap Viewer.entryPieces).map fun piece => displayWidth piece.text.toList).sum

/-- The columns that the entry at a place is drawn in, when the bar starts at another. -/
def entrySpan? (left : Nat) (entries : List PagerEntry) (place : Nat) : Option Span :=
  entries[place]?.map fun entry =>
    let start := left + drawnWidth (entries.take place)
    ⟨start, start + displayWidth entry.drawnText.toList⟩

theorem drawnWidth_cons (entry : PagerEntry) (rest : List PagerEntry) :
    drawnWidth (entry :: rest) = entry.width + 1 + drawnWidth rest := by
  have gap : displayWidth " ".toList = 1 := displayWidth_of_isSimple PagerEntry.isSimple_gap
  have texts : (Viewer.entryPieces entry).map (fun piece => displayWidth piece.text.toList) =
      [displayWidth entry.drawnText.toList, displayWidth " ".toList] := rfl
  rw [drawnWidth, List.flatMap_cons, List.map_append, List.sum_append, texts, gap,
    entry.displayWidth_drawnText]
  simp [drawnWidth]

theorem entrySpan?_zero (left : Nat) (entry : PagerEntry) (rest : List PagerEntry) :
    entrySpan? left (entry :: rest) 0 = some ⟨left, left + entry.width⟩ := by
  simp [entrySpan?, drawnWidth, entry.displayWidth_drawnText]

theorem entrySpan?_succ (left : Nat) (entry : PagerEntry) (rest : List PagerEntry) (place : Nat) :
    entrySpan? left (entry :: rest) (place + 1) =
      entrySpan? (left + entry.width + 1) rest place := by
  simp [entrySpan?, drawnWidth_cons, Nat.add_assoc]

theorem le_of_entrySpan? {left place : Nat} {entries : List PagerEntry} {span : Span}
    (drawn : entrySpan? left entries place = some span) :
    left ≤ span.start ∧ span.start ≤ span.stop := by
  rcases Option.map_eq_some_iff.mp drawn with ⟨entry, _, rfl⟩
  exact ⟨Nat.le_add_right left _, Nat.le_add_right _ _⟩

/-! ## Where entries are found -/

theorem entryAt?_eq_some_iff {column left place : Nat} {entries : List PagerEntry} :
    entryAt? column left entries = some place ↔
      ∃ span ∈ entrySpan? left entries place, span.Holds column := by
  induction entries generalizing left place with
  | nil => simp [entryAt?, entrySpan?]
  | cons entry rest induction =>
      unfold entryAt?
      split
      case isTrue inside =>
        cases place with
        | zero => simpa [entrySpan?_zero, Span.Holds] using inside
        | succ place =>
            rw [entrySpan?_succ]
            constructor
            · intro found
              cases found
            · rintro ⟨span, drawn, starts, _⟩
              -- the later entries are drawn behind the first one, which takes the column
              have later := le_of_entrySpan? drawn
              omega
      case isFalse outside =>
        cases place with
        | zero => simpa [entrySpan?_zero, Span.Holds] using outside
        | succ place =>
            rw [entrySpan?_succ, ← induction]
            simp

theorem entryAt?_eq_none_iff {column left : Nat} {entries : List PagerEntry} :
    entryAt? column left entries = none ↔
      column < left ∨ (∃ place, ∃ span ∈ entrySpan? left entries place, column = span.stop) ∨
        left + drawnWidth entries ≤ column := by
  induction entries generalizing left with
  | nil =>
      have empty : drawnWidth [] = 0 := rfl
      simp only [entryAt?, empty, true_iff]
      omega
  | cons entry rest induction =>
      -- the gaps are the one behind the first entry, and those of the rest
      have gaps : (∃ place, ∃ span ∈ entrySpan? left (entry :: rest) place, column = span.stop) ↔
          column = left + entry.width ∨
            ∃ place, ∃ span ∈ entrySpan? (left + entry.width + 1) rest place,
              column = span.stop := by
        constructor
        · rintro ⟨place, span, drawn, ends⟩
          cases place with
          | zero =>
              rw [entrySpan?_zero] at drawn
              cases drawn
              exact Or.inl ends
          | succ place =>
              rw [entrySpan?_succ] at drawn
              exact Or.inr ⟨place, span, drawn, ends⟩
        · rintro (ends | ⟨place, span, drawn, ends⟩)
          · exact ⟨0, _, entrySpan?_zero left entry rest, ends⟩
          · exact ⟨place + 1, span, entrySpan?_succ left entry rest place ▸ drawn, ends⟩
      rw [gaps, drawnWidth_cons]
      unfold entryAt?
      split
      case isTrue inside =>
        constructor
        · intro nothing
          cases nothing
        · rintro (before | (ends | ⟨place, span, drawn, ends⟩) | after)
          · omega
          · omega
          · have later := le_of_entrySpan? drawn
            omega
          · omega
      case isFalse outside =>
        rw [Option.map_eq_none_iff, induction]
        constructor
        · rintro (before | gap | after)
          · have split : column < left ∨ column = left + entry.width := by omega
            exact split.imp id fun ends => Or.inl (Or.inl ends)
          · exact Or.inr (Or.inl (Or.inr gap))
          · exact Or.inr (Or.inr (by omega))
        · rintro (before | (ends | gap) | after)
          · exact Or.inl (by omega)
          · exact Or.inl (by omega)
          · exact Or.inr (Or.inl gap)
          · exact Or.inr (Or.inr (by omega))

/-! ## The search in words -/

/-- The search for the entry at a column in words of 16 bits, as those that count the
columns of a screen. -/
def searchBar? (column left : Nat) : List PagerEntry → Option (Option Nat)
  | [] => some none
  | entry :: rest => do
    let label ← Machine.fit? 16 (displayWidth entry.label.toList)
    let width ← Machine.add? 16 label 2
    let stop ← Machine.add? 16 left width
    if left ≤ column ∧ column < stop then some (some 0)
    else do
      let step ← Machine.add? 16 width 1
      let next ← Machine.add? 16 left step
      let place ← searchBar? column next rest
      some (place.map (· + 1))

theorem searchBar?_eq_some {column left : Nat} {entries : List PagerEntry}
    (fits : left + drawnWidth entries < 2 ^ 16) :
    searchBar? column left entries = some (entryAt? column left entries) := by
  induction entries generalizing left with
  | nil => rfl
  | cons entry rest induction =>
      rw [drawnWidth_cons] at fits
      have width : displayWidth entry.label.toList + 2 = entry.width := rfl
      rw [searchBar?, Machine.fit?_eq_some (by omega), Option.bind_eq_bind, Option.bind_some,
        Machine.add?_eq_some (by omega), Option.bind_some, width, Machine.add?_eq_some (by omega),
        Option.bind_some, entryAt?]
      split
      case isTrue => rfl
      case isFalse =>
        rw [Machine.add?_eq_some (by omega), Option.bind_some, Machine.add?_eq_some (by omega),
          Option.bind_some, induction (by omega)]
        rfl

/-! ## What is drawn -/

theorem isSimple_entryPieces {entries : List PagerEntry} :
    ∀ piece ∈ entries.flatMap Viewer.entryPieces, ∀ char ∈ piece.text.toList, IsSimple char := by
  intro piece member
  rcases List.mem_flatMap.mp member with ⟨entry, _, among⟩
  rcases List.mem_cons.mp among with rfl | gap
  · exact entry.isSimple_drawnText
  · rw [List.mem_singleton.mp gap]
    exact PagerEntry.isSimple_gap

/-! ### Column by column

A column of a bar lies in its first entry, in the gap behind it, or in the rest. -/

section Columns

variable (left : Nat) (entry : PagerEntry) (rest : List PagerEntry)

theorem entryAt?_of_lt {column : Nat} (inside : column < entry.width) :
    entryAt? (left + column) left (entry :: rest) = some 0 := by
  rw [entryAt?, if_pos (by omega)]

theorem entryAt?_gap : entryAt? (left + entry.width) left (entry :: rest) = none := by
  apply entryAt?_eq_none_iff.mpr
  exact Or.inr (Or.inl ⟨0, _, entrySpan?_zero left entry rest, rfl⟩)

theorem entryAt?_add (column : Nat) :
    entryAt? (left + (entry.width + 1 + column)) left (entry :: rest) =
      (entryAt? (left + entry.width + 1 + column) (left + entry.width + 1) rest).map (· + 1) := by
  have same : left + (entry.width + 1 + column) = left + entry.width + 1 + column := by omega
  rw [entryAt?, if_neg (by omega), same]

/-- The characters of a bar are those of its first entry, a blank, and the others. -/
theorem signs_cons :
    Line.signs ((entry :: rest).flatMap Viewer.entryPieces) =
      entry.drawnText.toList.map (·, Viewer.entryStyle entry) ++
        (' ', {}) :: Line.signs (rest.flatMap Viewer.entryPieces) := by
  simp [Line.signs, Viewer.entryPieces, PagerEntry.drawnText]

theorem getElem?_signs_of_lt {column : Nat} (inside : column < entry.width) :
    (Line.signs ((entry :: rest).flatMap Viewer.entryPieces))[column]? =
      entry.drawnText.toList[column]?.map (·, Viewer.entryStyle entry) := by
  rw [entry.width_eq] at inside
  rw [signs_cons, List.getElem?_append_left (by rwa [List.length_map]), List.getElem?_map]

theorem getElem?_signs_gap :
    (Line.signs ((entry :: rest).flatMap Viewer.entryPieces))[entry.width]? = some (' ', {}) := by
  rw [signs_cons, entry.width_eq, List.getElem?_append_right (Nat.le_of_eq (List.length_map _)),
    List.length_map, Nat.sub_self]
  rfl

theorem getElem?_signs_add (column : Nat) :
    (Line.signs ((entry :: rest).flatMap Viewer.entryPieces))[entry.width + 1 + column]? =
      (Line.signs (rest.flatMap Viewer.entryPieces))[column]? := by
  have place : entry.drawnText.toList.length + 1 + column - entry.drawnText.toList.length =
      column + 1 := by
    omega
  rw [signs_cons, entry.width_eq, List.getElem?_append_right (by rw [List.length_map]; omega),
    List.length_map, place, List.getElem?_cons_succ]

end Columns

section Bar

variable {column left : Nat} {entries : List PagerEntry}

/-- Where an entry is found, a character of it is drawn. -/
theorem getElem?_signs_of_some {place : Nat}
    (found : entryAt? (left + column) left entries = some place) :
    ∃ entry ∈ entries[place]?,
      ∃ char ∈ entry.drawnText.toList[column - drawnWidth (entries.take place)]?,
        (Line.signs (entries.flatMap Viewer.entryPieces))[column]? =
          some (char, Viewer.entryStyle entry) := by
  induction entries generalizing column left place with
  | nil => cases found
  | cons entry rest induction =>
      rcases Nat.lt_trichotomy column entry.width with inside | rfl | after
      · rw [entryAt?_of_lt left entry rest inside] at found
        cases found
        obtain ⟨char, known⟩ : ∃ char, entry.drawnText.toList[column]? = some char :=
          ⟨_, List.getElem?_eq_getElem (entry.width_eq ▸ inside)⟩
        refine ⟨entry, rfl, char, known, ?_⟩
        rw [getElem?_signs_of_lt entry rest inside, known]
        rfl
      · rw [entryAt?_gap] at found
        cases found
      · obtain ⟨offset, rfl⟩ := Nat.exists_eq_add_of_le after
        rw [entryAt?_add] at found
        rcases Option.map_eq_some_iff.mp found with ⟨place, before, rfl⟩
        rcases induction before with ⟨other, there, char, shown, drawn⟩
        have same : entry.width + 1 + offset - drawnWidth ((entry :: rest).take (place + 1)) =
            offset - drawnWidth (rest.take place) := by
          rw [List.take_succ_cons, drawnWidth_cons, Nat.add_sub_add_left]
        refine ⟨other, there, char, ?_, ?_⟩
        · rw [same]
          exact shown
        · rw [getElem?_signs_add, drawn]

/-- Where none is found, there is a blank between entries, or nothing. -/
theorem eq_blank_of_none (nothing : entryAt? (left + column) left entries = none) :
    ∀ sign ∈ (Line.signs (entries.flatMap Viewer.entryPieces))[column]?, sign = (' ', {}) := by
  induction entries generalizing column left with
  | nil => simp [Line.signs]
  | cons entry rest induction =>
      rcases Nat.lt_trichotomy column entry.width with inside | rfl | after
      · rw [entryAt?_of_lt left entry rest inside] at nothing
        cases nothing
      · rw [getElem?_signs_gap]
        exact fun sign member => (Option.some.inj member).symm
      · obtain ⟨offset, rfl⟩ := Nat.exists_eq_add_of_le after
        rw [entryAt?_add] at nothing
        rw [getElem?_signs_add]
        exact induction (Option.map_eq_none_iff.mp nothing)

end Bar

/-- What is drawn at a column, when a search has come to an end there: a character of the
entry that was found, or a blank in no style at all. -/
inductive Viewer.DrawsFound (entries : List PagerEntry) (column : Nat) (drawn : Option Column) :
    Option Nat → Prop
  | entry {place : Nat} {entry : PagerEntry} {char : Char} (there : entries[place]? = some entry)
      (character :
        entry.drawnText.toList[column - drawnWidth (entries.take place)]? = some char)
      (shown : drawn = some ⟨String.ofList [char], Viewer.entryStyle entry⟩) :
      DrawsFound entries column drawn (some place)
  | blank (shown : drawn = some {}) : DrawsFound entries column drawn none

theorem Viewer.drawsFound_pagerLine (viewer : Viewer) {width column : Nat}
    (within : column < width) (left : Nat) :
    DrawsFound viewer.table.bar column (viewer.pagerLine width)[column]?
      (entryAt? (left + column) left viewer.table.bar) := by
  rw [pagerLine, Line.getElem?_write_blank within isSimple_entryPieces]
  cases search : entryAt? (left + column) left viewer.table.bar with
  | some place =>
      rcases getElem?_signs_of_some search with ⟨entry, there, char, character, drawn⟩
      apply DrawsFound.entry there character
      rw [drawn]
  | none =>
      apply DrawsFound.blank
      have blank := eq_blank_of_none search
      cases drawn : (Line.signs (viewer.table.bar.flatMap entryPieces))[column]? with
      | none => rfl
      | some sign => rw [blank sign drawn]

structure FindsDrawn (entries : List PagerEntry) (left : Nat) : Prop where
  counts : ∀ column, searchBar? column left entries = some (entryAt? column left entries)
  hit : ∀ column place, entryAt? column left entries = some place ↔
    ∃ span ∈ entrySpan? left entries place, span.Holds column
  missed : ∀ column, entryAt? column left entries = none ↔
    column < left ∨ (∃ place, ∃ span ∈ entrySpan? left entries place, column = span.stop) ∨
      left + drawnWidth entries ≤ column
  unique : ∀ column, ∀ first second,
    (∃ span ∈ entrySpan? left entries first, span.Holds column) →
    (∃ span ∈ entrySpan? left entries second, span.Holds column) → first = second
  drawn : ∀ viewer : Viewer, viewer.table.bar = entries → ∀ width column, column < width →
    Viewer.DrawsFound entries column (viewer.pagerLine width)[column]?
      (entryAt? (left + column) left entries)

/-- As long as the columns of a bar can be counted, the search for an entry finds the one
that is drawn in a column, and none where there is none: in front of the bar, in a gap or
behind the bar. What a screen shows at the column is a character of the very entry. -/
theorem hits_are_where_entries_are_drawn (entries : List PagerEntry) (left : Nat)
    (fits : left + drawnWidth entries < 2 ^ 16) : FindsDrawn entries left := by
  refine ⟨fun column => searchBar?_eq_some fits, fun column place => entryAt?_eq_some_iff,
    fun column => entryAt?_eq_none_iff, ?_, ?_⟩
  · intro column first second inFirst inSecond
    have found := entryAt?_eq_some_iff.mpr inFirst
    rw [entryAt?_eq_some_iff.mpr inSecond] at found
    exact (Option.some.inj found).symm
  · rintro viewer rfl width column within
    exact viewer.drawsFound_pagerLine within left

/-- On a bar that starts at the third column, the link to the tenth page is found where it
is drawn, the gap in front of it finds nothing, nor does a column behind the bar. -/
theorem hits_are_where_entries_are_drawn_from_third_column :
    let entries : List PagerEntry :=
      [.previous true, .page 1 true, .page 10 false, .next false]
    2 + drawnWidth entries < 2 ^ 16 ∧
      (List.range 4).map (entrySpan? 2 entries) =
        [some ⟨2, 10⟩, some ⟨11, 14⟩, some ⟨15, 19⟩, some ⟨20, 28⟩] ∧
      searchBar? 16 2 entries = some (some 2) ∧ entryAt? 14 2 entries = none ∧
      entryAt? 40 2 entries = none ∧
      ∀ viewer : Viewer, viewer.table.bar = entries →
        (viewer.pagerLine 80)[14]? = some ⟨"1", { ink := some .cyan }⟩ := by
  intro entries
  have total : drawnWidth entries = 27 := by decide +kernel
  have fits : 2 + drawnWidth entries < 2 ^ 16 := by omega
  have spans : (List.range 4).map (entrySpan? 2 entries) =
      [some ⟨2, 10⟩, some ⟨11, 14⟩, some ⟨15, 19⟩, some ⟨20, 28⟩] := by
    decide +kernel
  have first : entrySpan? 2 entries 1 = some ⟨11, 14⟩ := by decide +kernel
  have second : entrySpan? 2 entries 2 = some ⟨15, 19⟩ := by decide +kernel
  have finds := hits_are_where_entries_are_drawn entries 2 fits
  have hit : entryAt? 16 2 entries = some 2 := (finds.hit 16 2).mpr ⟨_, second, by decide⟩
  refine ⟨fits, spans, hit ▸ finds.counts 16, (finds.missed 14).mpr ?_,
    (finds.missed 40).mpr ?_, ?_⟩
  · exact Or.inr (Or.inl ⟨1, _, first, rfl⟩)
  · exact Or.inr (Or.inr (by omega))
  · intro viewer bar
    have there := finds.drawn viewer bar 80 14 (by decide)
    rw [show 2 + 14 = 16 from rfl, hit] at there
    have before : drawnWidth (entries.take 2) = 13 := by decide +kernel
    cases there with
    | entry same character shown =>
        cases same
        rw [before] at character
        cases character
        exact shown

end PagedTable
