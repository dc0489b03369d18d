import Mathlib.Data.List.Basic
import PagedTable.Proofs.Text.Simple
import PagedTable.Screen.Line

/-! # Simple texts on a line

A text of simple characters is written one character to a column, from where it starts up
to the end of the line. The other columns stay as they are. -/

namespace PagedTable

open Text

def Glyph.ofSimple (char : Char) : Glyph :=
  ⟨String.ofList [char], 1⟩

theorem Glyph.visible_of_isSimple {text : String} (simple : ∀ char ∈ text.toList, IsSimple char) :
    Glyph.visible text = text.toList.map Glyph.ofSimple := by
  have glyphs : Glyph.ofText text = text.toList.map Glyph.ofSimple := by
    have lineless : ∀ cluster ∈ clusters text.toList, cluster ≠ ['\n'] := by
      rw [clusters_of_isSimple simple]
      rintro cluster member rfl
      rcases List.mem_map.mp member with ⟨char, charMember, same⟩
      have feed : char = '\n' := by simpa using same
      exact absurd (simple char charMember) (feed ▸ by decide +kernel)
    rw [Glyph.ofText, List.filter_eq_self.mpr (by simpa using lineless),
      clusters_of_isSimple simple, List.map_map]
    apply List.map_congr_left
    intro char member
    have width : widthIn .earlier [char] = 1 :=
      widthIn_of_isSimple (by simpa using simple char member) .earlier
    rw [Function.comp_apply, Glyph.ofCluster, width]
    rfl
  rw [Glyph.visible, glyphs, List.filter_eq_self]
  intro glyph member
  rcases List.mem_map.mp member with ⟨char, _, rfl⟩
  rfl

namespace Line

def signs (pieces : List Piece) : List (Char × Style) :=
  pieces.flatMap fun piece => piece.text.toList.map (·, piece.style)

theorem styledGlyphs_of_isSimple {width : Nat} (room : 0 < width) {pieces : List Piece}
    (simple : ∀ piece ∈ pieces, ∀ char ∈ piece.text.toList, IsSimple char) :
    styledGlyphs width pieces =
      (signs pieces).map fun sign => (Glyph.ofSimple sign.1, sign.2) := by
  rw [styledGlyphs, signs, List.map_flatMap]
  apply List.flatMap_congr
  intro piece member
  rw [Glyph.visible_of_isSimple (simple piece member), List.filter_eq_self.mpr, List.map_map,
    List.map_map]
  · rfl
  · intro glyph glyphMember
    rcases List.mem_map.mp glyphMember with ⟨char, _, rfl⟩
    exact decide_eq_true room

/-- One glyph of a single column changes nothing but that column. -/
theorem getElem?_paint_put (start : Nat) (glyph : Glyph) (style : Style) (ground : Line)
    (column : Nat) :
    ((ground.put start { glyph with width := 1 }).paint start (start + 1) style)[column]? =
      if column = start then
        ground[column]?.map fun below => ⟨glyph.text, style.onto below.style⟩
      else ground[column]? := by
  rw [paint, put, List.getElem?_mapIdx, List.getElem?_mapIdx, Option.map_map]
  by_cases here : column = start
  · simp [here, Function.comp_def]
  · have beside : ¬ (start ≤ column ∧ column < start + 1) := by omega
    have uncovered : ¬ (start < column ∧ column < start + 1) := by omega
    simp only [if_neg here, if_neg beside, if_neg uncovered, Function.comp_def, Option.map_id']

/-- Glyphs of a single column each are written one to a column. -/
theorem getElem?_writeFrom (start : Nat) (glyphs : List (Glyph × Style))
    (narrow : ∀ entry ∈ glyphs, entry.1.width = 1) (ground : Line) (column : Nat) :
    (writeFrom start glyphs ground)[column]? =
      if start ≤ column then
        match glyphs[column - start]? with
        | some (glyph, style) =>
          ground[column]?.map fun below => ⟨glyph.text, style.onto below.style⟩
        | none => ground[column]?
      else ground[column]? := by
  induction glyphs generalizing start ground with
  | nil => simp [writeFrom]
  | cons entry rest induction =>
      rcases entry with ⟨glyph, style⟩
      have parts := List.forall_mem_cons.mp narrow
      have single : glyph.width = 1 := parts.1
      rw [writeFrom, single]
      split
      case isTrue full =>
        -- nothing is written any more, and there are no columns from here on
        split
        · have outside : ground[column]? = none := List.getElem?_eq_none (by omega)
          rw [outside]
          split <;> rfl
        · rfl
      case isFalse =>
        rw [induction (start + 1) parts.2, getElem?_paint_put]
        rcases Nat.lt_trichotomy column start with before | rfl | after
        · rw [if_neg (by omega), if_neg (by omega), if_neg (by omega)]
        · rw [if_neg (by omega), if_pos rfl, if_pos (Nat.le_refl column), Nat.sub_self]
          rfl
        · have place : column - start = column - (start + 1) + 1 := by omega
          rw [if_pos (by omega), if_neg (by omega), if_pos (by omega), place,
            List.getElem?_cons_succ]

/-- What a column of a blank line shows when simple texts have been written on it. -/
theorem getElem?_write_blank {width column : Nat} (within : column < width) {pieces : List Piece}
    (simple : ∀ piece ∈ pieces, ∀ char ∈ piece.text.toList, IsSimple char) :
    ((blank width).write pieces)[column]? =
      some (match (signs pieces)[column]? with
        | some (char, style) => ⟨String.ofList [char], style⟩
        | none => {}) := by
  have below : (blank width)[column]? = some {} := by
    rw [blank, filled, List.getElem?_replicate, if_pos within]
  have room : (blank width).length = width := List.length_replicate
  have narrow : ∀ entry ∈ styledGlyphs width pieces, entry.1.width = 1 := by
    rw [styledGlyphs_of_isSimple (by omega) simple]
    intro entry member
    rcases List.mem_map.mp member with ⟨sign, _, rfl⟩
    rfl
  rw [write, room, getElem?_writeFrom 0 _ narrow, if_pos (Nat.zero_le column), below,
    styledGlyphs_of_isSimple (by omega) simple, List.getElem?_map, Nat.sub_zero]
  cases (signs pieces)[column]? with
  | none => rfl
  | some sign => simp [Glyph.ofSimple, Style.onto_plain]

end Line

end PagedTable
