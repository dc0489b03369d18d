import PagedTable.Proofs.Viewer.Aim
import PagedTable.Proofs.Viewer.Body
import PagedTable.Proofs.Viewer.Columns

/-! # Scrolling and redraws

Scrolling leaves the cursor where it is, while every redraw brings the cursor back
on screen, as near to where the page was scrolled to as can be. So a page stays
scrolled for as long as the cursor is on screen. -/

namespace PagedTable

namespace Body

variable {body : Body}

def placedOn (body : Body) (area : Rect) : Body :=
  { body with
    top := (Layout.of area).table.top + 2
    left := (Layout.of area).table.left + 1
    height := max ((Layout.of area).table.height - 3) 1 }

structure LiesOn (body : Body) (area : Rect) : Prop where
  top : body.top = (Layout.of area).table.top + 2
  left : body.left = (Layout.of area).table.left + 1
  height : body.height = max ((Layout.of area).table.height - 3) 1

theorem liesOn_placedOn (body : Body) (area : Rect) : (body.placedOn area).LiesOn area :=
  ⟨rfl, rfl, rfl⟩

namespace LiesOn

variable {area : Rect}

theorem tall (lies : body.LiesOn area) : 1 ≤ body.height := by
  rw [lies.height]
  exact le_max_right _ 1

theorem placedOn_eq (lies : body.LiesOn area) : body.placedOn area = body := by
  rw [placedOn, ← lies.top, ← lies.left, ← lies.height]

theorem clamp (lies : body.LiesOn area) (pageLength : Nat) :
    (body.clamp pageLength).LiesOn area := by
  rw [clamp_eq lies.tall]
  exact ⟨lies.top, lies.left, lies.height⟩

theorem scrollBy (lies : body.LiesOn area) (step : Int) (pageLength : Nat) :
    (body.scrollBy step pageLength).LiesOn area := by
  unfold Body.scrollBy
  exact ⟨lies.top, lies.left, lies.height⟩

end LiesOn

/-- What a redraw leaves of scrolling that began with a body on a page. -/
structure RedrawKeeps (body scrolled redrawn : Body) (pageLength : Nat) : Prop where
  keeps : redrawn.first = scrolled.first ↔ scrolled.ShowsCursor
  first : redrawn.first = max (min scrolled.first body.cursor) (body.cursor + 1 - body.height)
  cursor : redrawn.cursor = body.cursor
  clamp : redrawn.clamp pageLength = redrawn

end Body

namespace Viewer

variable {viewer : Viewer}

/-! ## Redraws -/

theorem body_layOut (viewer : Viewer) (area : Rect) :
    (viewer.layOut area).body = (viewer.body.placedOn area).clamp viewer.pageLength := rfl

theorem liesOn_layOut (viewer : Viewer) (area : Rect) : (viewer.layOut area).body.LiesOn area :=
  (viewer.body.liesOn_placedOn area).clamp _

theorem layOut_layOut (viewer : Viewer) (area : Rect) :
    (viewer.layOut area).layOut area = viewer.layOut area := by
  have same : ((viewer.layOut area).layOut area).body = (viewer.layOut area).body := by
    rw [body_layOut, (viewer.liesOn_layOut area).placedOn_eq, body_layOut]
    exact Body.clamp_clamp (viewer.body.liesOn_placedOn area).tall _
  exact congrArg (fun body => { viewer.layOut area with body }) same

theorem pageIds_length (shows : viewer.Shows False) :
    viewer.table.pageIds.length = viewer.pageLength := by
  rw [pageLength, shows.rows, List.length_map, Table.pageIds, List.length_map]

theorem pageLength_scroll (viewer : Viewer) (step : Int) :
    (viewer.scroll step).pageLength = viewer.pageLength := by
  rw [scroll, pageLength, pageLength]

def Scrolled (drawn scrolled : Viewer) : Prop :=
  (∃ step, scrolled = drawn.scroll step) ∨ ∃ now, scrolled = drawn.autoScroll now

theorem Scrolled.pageLength {scrolled : Viewer} (scrolls : Scrolled viewer scrolled) :
    scrolled.pageLength = viewer.pageLength := by
  rcases scrolls with ⟨step, rfl⟩ | ⟨now, rfl⟩
  · exact viewer.pageLength_scroll step
  · unfold autoScroll
    dsimp only
    split
    · rfl
    · unfold scroll
      rfl

theorem Scrolled.body {scrolled : Viewer} (scrolls : Scrolled viewer scrolled) :
    scrolled.body = viewer.body ∨
      ∃ step, scrolled.body = viewer.body.scrollBy step viewer.table.pageIds.length := by
  rcases scrolls with ⟨step, rfl⟩ | ⟨now, rfl⟩
  · right
    refine ⟨step, ?_⟩
    unfold scroll
    rfl
  · unfold autoScroll
    dsimp only
    split
    · exact Or.inl rfl
    case h_2 step _ =>
      right
      refine ⟨step, ?_⟩
      unfold scroll
      rfl

/-- What scrolling leaves of a viewer that has been drawn. -/
theorem Scrolled.fits {scrolled : Viewer} {area : Rect} (scrolls : Scrolled viewer scrolled)
    (shows : viewer.Shows False) (fits : viewer.body.FitsPage viewer.pageLength)
    (lies : viewer.body.LiesOn area) :
    scrolled.body.FitsPage scrolled.pageLength ∧ scrolled.body.LiesOn area ∧
      scrolled.body.cursor = viewer.body.cursor := by
  rw [scrolls.pageLength]
  rcases scrolls.body with same | ⟨step, moved⟩
  · rw [same]
    exact ⟨fits, lies, rfl⟩
  · rw [moved, pageIds_length shows]
    exact ⟨Body.fitsPage_scrollBy fits.tall fits.cursor step, lies.scrollBy step _,
      Body.cursor_scrollBy _ step _⟩

/-! ## How long scrolling lasts -/

/-- A redraw keeps what has been scrolled as long as the cursor is on screen. Where
it is not, the redraw scrolls to the nearest rows that show it, and further redraws
change nothing. -/
theorem redraw_keeps_scrolling (body : Body) (step : Int) (pageLength : Nat)
    (tall : 1 ≤ body.height) (onPage : body.cursor < pageLength) :
    body.RedrawKeeps (body.scrollBy step pageLength)
      ((body.scrollBy step pageLength).clamp pageLength) pageLength ∧
    ∀ {source : Source} {settings : Settings} {watch : Bool} {file : Option File}
      {viewer : Viewer} (events : List Event) (area : Rect) (scrolled : Viewer),
      start source settings watch file = .ok viewer →
        let drawn := (viewer.run events).layOut area
        Scrolled drawn scrolled →
          let redrawn := scrolled.layOut area
          (redrawn.body.first = scrolled.body.first ↔ scrolled.body.ShowsCursor) ∧
          redrawn.body.cursor = drawn.body.cursor ∧
          redrawn.layOut area = redrawn := by
  refine ⟨?_, ?_⟩
  · have fits := Body.fitsPage_scrollBy tall (onPage.trans_le (le_max_left _ 1)) step
    have cursor := body.cursor_scrollBy step pageLength
    have height := body.height_scrollBy step pageLength
    -- its first row is computed with numbers of 64 bits, so it is not to be unfolded
    generalize body.scrollBy step pageLength = scrolled at *
    refine ⟨fits.first_clamp_eq_iff, ?_, ?_, Body.clamp_clamp fits.tall pageLength⟩
    · rw [← cursor, ← height]
      exact fits.first_clamp
    · exact fits.cursor_clamp.trans cursor
  · intro source settings watch file viewer events area scrolled started drawn scrolls redrawn
    have shows : drawn.Shows False :=
      shows_run ((shows_start started).mono False.elim) events False.elim
    have lies : drawn.body.LiesOn area := (viewer.run events).liesOn_layOut area
    have drawnFits : drawn.body.FitsPage drawn.pageLength :=
      Body.fitsPage_clamp ((viewer.run events).body.liesOn_placedOn area).tall _
    clear_value drawn
    rcases scrolls.fits shows drawnFits lies with ⟨fits, stillLies, cursor⟩
    have whole : redrawn.body = scrolled.body.clamp scrolled.pageLength := by
      rw [body_layOut, stillLies.placedOn_eq]
    rw [whole]
    exact ⟨fits.first_clamp_eq_iff, fits.cursor_clamp.trans cursor, scrolled.layOut_layOut area⟩

/-! ### A page longer than the screen -/

def clickThird : List Event :=
  [.layOut ⟨0, 0, 80, 10⟩, .mouse ⟨.down .left, 10, 4, false⟩, .mouse ⟨.up .left, 10, 4, false⟩]

def firstToLastLine : List Event :=
  [.layOut ⟨0, 0, 80, 10⟩, .mouse ⟨.down .left, 10, 2, false⟩,
    .mouse ⟨.drag .left, 10, 5, false⟩, .tick 0 none]

/-- The wheel turns twice, and the cursor in the third row becomes the first on
screen. -/
theorem redraw_keeps_scrolling_to_cursor :
    let body : Body := { cursor := 2, height := 4 }
    let area : Rect := ⟨0, 0, 80, 10⟩
    ((body.scrollBy 2 8).first = 2 ∧ ((body.scrollBy 2 8).clamp 8).first = 2) ∧
    ∃ viewer, letters? = .ok viewer ∧
      let scrolled := ((viewer.run clickThird).layOut area).scroll 2
      scrolled.body.first = 2 ∧ (scrolled.layOut area).body.first = 2 := by
  intro body area
  have computed : ∃ viewer ∈ letters?.toOption,
      let scrolled := ((viewer.run clickThird).layOut area).scroll 2
      scrolled.body.first = 2 ∧ scrolled.body.ShowsCursor := by
    decide +kernel
  rcases exists_ok_of_mem_toOption computed with ⟨viewer, started, first, shown⟩
  rcases redraw_keeps_scrolling body 2 8 (by decide) (by decide) with ⟨bodies, viewers⟩
  have scrolledFirst : (body.scrollBy 2 8).first = 2 := by decide
  have kept := bodies.keeps.mpr (by decide)
  refine ⟨⟨scrolledFirst, kept.trans scrolledFirst⟩, viewer, started, first, ?_⟩
  have stays := (viewers clickThird area _ started (Or.inl ⟨2, rfl⟩)).1.mpr shown
  exact stays.trans first

/-- The cursor is in the dragged row. The clock scrolls it off the screen, and the
next redraw brings it back. -/
theorem redraw_takes_scrolling_back :
    let body : Body := { height := 4 }
    let area : Rect := ⟨0, 0, 80, 10⟩
    ((body.scrollBy 1 10).first = 1 ∧ ((body.scrollBy 1 10).clamp 10).first = 0) ∧
    ∃ viewer, letters? = .ok viewer ∧
      let scrolled := viewer.run firstToLastLine
      scrolled.table.isDragging = true ∧ scrolled.body.first = 1 ∧
        (scrolled.layOut area).body.first = 0 := by
  refine ⟨by decide, ?_⟩
  apply exists_ok_of_mem_toOption
  decide +kernel

end Viewer

end PagedTable
