import PagedTable.Proofs.Gesture.Pace
import PagedTable.Proofs.Gesture.Slot
import PagedTable.Proofs.Span
import PagedTable.Proofs.Viewer.Body

/-! # Lines and rows

A click finds the row on a line by its distance from the top of the body, and a drag by
the box whose middle is nearest. Both see the same rows, since the boxes lie on
consecutive lines, one for each row on screen. -/

namespace PagedTable

namespace Body

variable {body : Body} {page moving : List RecordId} {id : RecordId} {box : RowBox}
  {line row pageLength : Nat}

/-! ## The rows on screen -/

/-- Only a body that begins on the page shows any of its rows. -/
theorem start_visible (holds : (body.visible pageLength).Holds row) :
    (body.visible pageLength).start = body.first := by
  unfold Span.Holds visible at *
  dsimp only at *
  omega

theorem lt_of_holds_visible (holds : (body.visible pageLength).Holds row) : row < pageLength :=
  Nat.lt_of_lt_of_le holds.2 (Nat.min_le_right _ _)

theorem rowAt?_eq_some_iff :
    body.rowAt? line pageLength = some row ↔
      (body.visible pageLength).Holds row ∧ line = body.top + (row - body.first) := by
  unfold rowAt?
  dsimp only
  constructor
  · intro found
    split at found
    · next inside =>
        cases found
        exact ⟨inside.2, by omega⟩
    · cases found
  · rintro ⟨holds, rfl⟩
    have starts := start_visible holds
    have begins := holds.1
    have same : body.first + (body.top + (row - body.first) - body.top) = row := by omega
    rw [same, if_pos ⟨Nat.le_add_right _ _, holds⟩]

/-! ## Boxes -/

theorem getElem?_boxes (body : Body) (page : List RecordId) (offset : Nat) :
    (body.boxes page)[offset]? =
      ((body.visible page.length).of page)[offset]?.map fun id => ⟨id, body.top + offset, 1⟩ := by
  rw [boxes, List.getElem?_map, List.zip_eq_zipWith, List.getElem?_zipWith]
  cases known : ((body.visible page.length).of page)[offset]? with
  | none => cases (body.visible page.length).places[offset]? <;> rfl
  | some id =>
      rw [Span.getElem?_of] at known
      split at known
      · next inside =>
          have starts : (body.visible page.length).start = body.first :=
            start_visible ⟨Nat.le_add_right _ offset, inside⟩
          have within : offset < (body.visible page.length).length := by
            unfold Span.length
            omega
          rw [Span.places, List.getElem?_range' within, starts]
          simp
      · cases known

theorem boxes_eq (body : Body) (page : List RecordId) :
    body.boxes page =
      ((body.visible page.length).of page).mapIdx fun offset id => ⟨id, body.top + offset, 1⟩ := by
  apply List.ext_getElem?
  intro offset
  rw [getElem?_boxes, List.getElem?_mapIdx]

theorem mem_boxes_iff :
    box ∈ body.boxes page ↔
      ∃ row id, (body.visible page.length).Holds row ∧ page[row]? = some id ∧
        box = ⟨id, body.top + (row - body.first : Nat), 1⟩ := by
  rw [List.mem_iff_getElem?]
  constructor
  · rintro ⟨offset, known⟩
    rw [getElem?_boxes, Span.getElem?_of] at known
    rcases Option.map_eq_some_iff.mp known with ⟨id, found, rfl⟩
    split at found
    · next inside =>
        have holds : (body.visible page.length).Holds (body.first + offset) := by
          rw [← start_visible ⟨Nat.le_add_right _ offset, inside⟩]
          exact ⟨Nat.le_add_right _ _, inside⟩
        rw [start_visible holds] at found
        exact ⟨body.first + offset, id, holds, found, by rw [Nat.add_sub_cancel_left]⟩
    · cases found
  · rintro ⟨row, id, holds, known, rfl⟩
    have starts := start_visible holds
    have place : body.first + (row - body.first) = row := by
      have begins := holds.1
      omega
    refine ⟨row - body.first, ?_⟩
    rw [getElem?_boxes, Span.getElem?_of, starts, place, if_pos holds.2, known]
    rfl

theorem middle_of_mem_boxes (member : box ∈ body.boxes page) : box.middle = box.top := by
  rcases mem_boxes_iff.mp member with ⟨row, id, _, _, rfl⟩
  exact Int.add_zero _

theorem pairwise_middle_boxes (body : Body) (page : List RecordId) :
    ((body.boxes page).map RowBox.middle).Pairwise (· < ·) := by
  rw [boxes_eq, List.pairwise_iff_getElem]
  intro earlier later _ _ before
  simp only [List.getElem_map, List.getElem_mapIdx, RowBox.middle]
  omega

/-! ## Clicks -/

theorem rowAt?_iff_box (distinct : page.Nodup) :
    body.rowAt? line page.length = some row ↔
      ∃ box ∈ body.boxes page, box.top = line ∧ page[row]? = some box.id := by
  rw [rowAt?_eq_some_iff]
  constructor
  · rintro ⟨holds, rfl⟩
    have known := List.getElem?_eq_getElem (lt_of_holds_visible holds)
    exact ⟨_, mem_boxes_iff.mpr ⟨row, _, holds, known, rfl⟩, (Int.natCast_add _ _).symm, known⟩
  · rintro ⟨box, member, onLine, known⟩
    rcases mem_boxes_iff.mp member with ⟨other, id, holds, found, rfl⟩
    have same : other = row :=
      (List.getElem?_inj (lt_of_holds_visible holds) distinct).mp (found.trans known.symm)
    subst same
    exact ⟨holds, by dsimp only at onLine; omega⟩

/-! ## Drags -/

theorem dropTarget_on_box (member : box ∈ body.boxes page) :
    dropTarget (body.boxes page) moving box.top =
      if box.id ∈ moving then none else some ⟨box.id, .after⟩ := by
  have middle := middle_of_mem_boxes member
  have nearest := RowBox.isNearest_of_middle_eq (body.pairwise_middle_boxes page) member middle
  rw [dropTarget_of_isNearest nearest, middle, if_neg (Int.lt_irrefl _)]

theorem dropTarget_above_boxes {line : Int} (first : (body.boxes page).head? = some box)
    (above : line < box.top) :
    dropTarget (body.boxes page) moving line =
      if box.id ∈ moving then none else some ⟨box.id, .before⟩ := by
  have middle := middle_of_mem_boxes (List.mem_of_mem_head? first)
  rw [← middle] at above
  have nearest :=
    RowBox.isNearest_of_le_middle (body.pairwise_middle_boxes page) first (Int.le_of_lt above)
  rw [dropTarget_of_isNearest nearest, if_pos above]

theorem dropTarget_below_boxes {line : Int} (last : (body.boxes page).getLast? = some box)
    (below : box.top < line) :
    dropTarget (body.boxes page) moving line =
      if box.id ∈ moving then none else some ⟨box.id, .after⟩ := by
  have middle := middle_of_mem_boxes (List.mem_of_mem_getLast? last)
  rw [← middle] at below
  have nearest :=
    RowBox.isNearest_of_middle_le (body.pairwise_middle_boxes page) last (Int.le_of_lt below)
  rw [dropTarget_of_isNearest nearest, if_neg (Int.not_lt.mpr (Int.le_of_lt below))]

/-- Whether clicks in a body and drags over some boxes meet the same rows of a page. -/
structure SeesSameRows (body : Body) (page : List RecordId) (boxes : List RowBox) : Prop where
  boxes_eq : boxes = ((body.visible page.length).of page).mapIdx
    fun offset id => ⟨id, body.top + offset, 1⟩
  click : ∀ line row, body.rowAt? line page.length = some row ↔
    ∃ box ∈ boxes, box.top = line ∧ page[row]? = some box.id
  within : ∀ line row, body.rowAt? line page.length = some row → row < page.length
  onRow : ∀ moving line row id, body.rowAt? line page.length = some row →
    page[row]? = some id →
      dropTarget boxes moving line = if id ∈ moving then none else some ⟨id, .after⟩
  above : ∀ moving, ∀ first ∈ boxes.head?, ∀ line < first.top,
    dropTarget boxes moving line =
      if first.id ∈ moving then none else some ⟨first.id, .before⟩
  below : ∀ moving, ∀ last ∈ boxes.getLast?, ∀ line > last.top,
    dropTarget boxes moving line =
      if last.id ∈ moving then none else some ⟨last.id, .after⟩

/-- A line has a row where it has a box, and it is the same row. On that line a drag
drops behind the row, above all boxes in front of the first row, and below them behind
the last, unless the row itself is on the move. -/
theorem clicks_and_drags_see_same_rows (body : Body) {page : List RecordId}
    (distinct : page.Nodup) : body.SeesSameRows page (body.boxes page) := by
  refine ⟨body.boxes_eq page, fun _ _ => rowAt?_iff_box distinct, ?_, ?_, ?_, ?_⟩
  · intro line row clicked
    exact lt_of_holds_visible (rowAt?_eq_some_iff.mp clicked).1
  · intro moving line row id clicked known
    rcases (rowAt?_iff_box distinct).mp clicked with ⟨box, member, onLine, found⟩
    rw [← onLine, Option.some.inj (known.symm.trans found)]
    exact dropTarget_on_box member
  · exact fun moving first begins line above => dropTarget_above_boxes begins above
  · exact fun moving last ends line below => dropTarget_below_boxes ends below

/-- The last two of four rows are on screen, and the last one is on the move. -/
theorem clicks_and_drags_see_same_rows_near_end :
    let body : Body := { first := 2, height := 3, top := 3 }
    let page := [1, 2, 3, 4].map RecordId.number
    let moving := [RecordId.number 4]
    page.Nodup ∧
      body.boxes page = [⟨.number 3, 3, 1⟩, ⟨.number 4, 4, 1⟩] ∧
      (∃ box ∈ body.boxes page, box.top = 4 ∧ page[3]? = some box.id) ∧
      body.rowAt? 5 page.length = none ∧
      dropTarget (body.boxes page) moving 3 = some ⟨.number 3, .after⟩ ∧
      dropTarget (body.boxes page) moving 0 = some ⟨.number 3, .before⟩ ∧
      dropTarget (body.boxes page) moving 9 = none := by
  intro body page moving
  have distinct : page.Nodup := by decide
  have sees := body.clicks_and_drags_see_same_rows distinct
  have first : (body.boxes page).head? = some ⟨.number 3, 3, 1⟩ := by decide
  have last : (body.boxes page).getLast? = some ⟨.number 4, 4, 1⟩ := by decide
  exact ⟨distinct, sees.boxes_eq, (sees.click 4 3).mp (by decide), by decide,
    sees.onRow moving 3 2 (.number 3) (by decide) (by decide),
    sees.above moving _ first 0 (by decide), sees.below moving _ last 9 (by decide)⟩

/-! ## In words of 32 bits -/

/-- Whether the lines of a body are those of a screen, which are numbered in 16 bits. -/
structure FitsScreen (body : Body) : Prop where
  top : body.top < 2 ^ 16
  height : body.height < 2 ^ 16

theorem FitsScreen.isSmall_of_mem_boxes (fits : body.FitsScreen) (member : box ∈ body.boxes page) :
    box.IsSmall := by
  rcases mem_boxes_iff.mp member with ⟨row, id, holds, _, rfl⟩
  have starts := start_visible holds
  have stops : row < body.first + body.height := by
    rw [← starts]
    exact Nat.lt_of_lt_of_le holds.2 (Nat.min_le_left _ _)
  have top := fits.top
  have height := fits.height
  have offset : row - body.first < 2 ^ 16 := by omega
  have one : Machine.IsSmall 1 := by decide
  refine ⟨?_, one⟩
  unfold Machine.IsSmall
  dsimp only
  omega

theorem FitsScreen.isSmall_extent (fits : body.FitsScreen) : body.extent.IsSmall := by
  have top := fits.top
  have height := fits.height
  have same : signed 32 body.height = body.height := signed_eq (by omega)
  constructor
  · unfold Machine.IsSmall extent
    dsimp only
    omega
  · unfold Machine.IsSmall extent
    dsimp only
    rw [same]
    omega

/-- On a screen neither the way of a pointer, nor the target of a drag, nor its step of
scrolling overflows. -/
theorem FitsScreen.drag_fits_words (fits : body.FitsScreen) :
    (∀ line origin : Nat, line < 2 ^ 16 → origin < 2 ^ 16 →
      Machine.distance? 32 line origin = some ((line : Int) - origin).natAbs) ∧
    (∀ (page moving : List RecordId) (line : Nat), line < 2 ^ 16 →
      searchTarget? (body.boxes page) moving line =
        some (dropTarget (body.boxes page) moving line)) ∧
    ∀ (gesture : Gesture) (tuning : DragTuning), tuning.IsSmall →
      gesture.searchStep? tuning body.extent = some (gesture.scrollStep? tuning body.extent) := by
  refine ⟨?_, ?_, ?_⟩
  · intro line origin onScreen originOnScreen
    exact Machine.distance?_eq_some (by omega)
  · intro page moving line onScreen
    have near : Machine.IsSmall line := by
      unfold Machine.IsSmall
      omega
    exact searchTarget?_eq_some (fun box member => fits.isSmall_of_mem_boxes member) moving near
  · intro gesture tuning small
    exact gesture.searchStep?_eq_some small fits.isSmall_extent

end Body

end PagedTable
