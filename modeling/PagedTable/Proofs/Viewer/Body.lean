import Mathlib.Order.Lattice
import PagedTable.Proofs.Number.Word
import PagedTable.Viewer.Body

/-! # The body follows the cursor

Once it has been fitted to a page, the body stays on it. Every move of the cursor takes
the body along, and scrolling, which leaves the cursor behind, goes no further than the
page. So the body is full of rows as long as the page has enough of them. -/

namespace PagedTable

namespace Body

variable {body : Body} {pageLength : Nat}

def ShowsCursor (body : Body) : Prop :=
  body.first ≤ body.cursor ∧ body.cursor < body.first + body.height

instance (body : Body) : Decidable body.ShowsCursor :=
  inferInstanceAs (Decidable (_ ∧ _))

/-- Whether the cursor is on a page of some length, and the body shows no more than
that page. -/
structure FitsPage (body : Body) (pageLength : Nat) : Prop where
  tall : 1 ≤ body.height
  cursor : body.cursor < max pageLength 1
  first : body.first ≤ pageLength - body.height

/-! ## Scrolling to the cursor -/

theorem showCursor_eq (tall : 1 ≤ body.height) :
    body.showCursor =
      { body with first := max (min body.first body.cursor) (body.cursor + 1 - body.height) } := by
  rcases body with ⟨cursor, first, height, top, left⟩
  rw [showCursor, max_eq_left tall]
  dsimp only at tall ⊢
  split
  case isTrue above => congr 1; omega
  case isFalse =>
    split
    case isTrue below => congr 1; omega
    case isFalse => congr 1; omega

theorem showsCursor_showCursor (tall : 1 ≤ body.height) : body.showCursor.ShowsCursor := by
  rw [showCursor_eq tall, ShowsCursor]
  dsimp only
  omega

namespace FitsPage

theorem showCursor (fits : body.FitsPage pageLength) : body.showCursor.FitsPage pageLength := by
  rcases fits with ⟨tall, onPage, within⟩
  rw [showCursor_eq tall]
  refine ⟨tall, onPage, ?_⟩
  dsimp only
  omega

theorem withCursor (fits : body.FitsPage pageLength) {cursor : Nat}
    (onPage : cursor < max pageLength 1) :
    { body with cursor : Body }.FitsPage pageLength :=
  ⟨fits.tall, onPage, fits.first⟩

end FitsPage

/-! ## Clamping -/

theorem clamp_eq (tall : 1 ≤ body.height) (pageLength : Nat) :
    body.clamp pageLength =
      { body with
        cursor := min body.cursor (pageLength - 1)
        first :=
          max (min (min body.first (pageLength - body.height)) (min body.cursor (pageLength - 1)))
            (min body.cursor (pageLength - 1) + 1 - body.height) } :=
  showCursor_eq tall

theorem showsCursor_clamp (tall : 1 ≤ body.height) (pageLength : Nat) :
    (body.clamp pageLength).ShowsCursor :=
  showsCursor_showCursor tall

theorem fitsPage_clamp (tall : 1 ≤ body.height) (pageLength : Nat) :
    (body.clamp pageLength).FitsPage pageLength := by
  apply FitsPage.showCursor
  refine ⟨tall, ?_, min_le_right _ _⟩
  dsimp only
  omega

namespace FitsPage

theorem clamp_eq (fits : body.FitsPage pageLength) :
    body.clamp pageLength =
      { body with first := max (min body.first body.cursor) (body.cursor + 1 - body.height) } := by
  rcases fits with ⟨tall, onPage, within⟩
  have stays : min body.cursor (pageLength - 1) = body.cursor := by omega
  rw [Body.clamp_eq tall, stays, min_eq_left within]

theorem first_clamp (fits : body.FitsPage pageLength) :
    (body.clamp pageLength).first =
      max (min body.first body.cursor) (body.cursor + 1 - body.height) := by
  rw [fits.clamp_eq]

theorem cursor_clamp (fits : body.FitsPage pageLength) :
    (body.clamp pageLength).cursor = body.cursor := by
  rw [fits.clamp_eq]

theorem clamp_eq_self (fits : body.FitsPage pageLength) (shown : body.ShowsCursor) :
    body.clamp pageLength = body := by
  rcases shown with ⟨above, below⟩
  have stays : max (min body.first body.cursor) (body.cursor + 1 - body.height) = body.first := by
    omega
  rw [fits.clamp_eq, stays]

theorem first_clamp_eq_iff (fits : body.FitsPage pageLength) :
    (body.clamp pageLength).first = body.first ↔ body.ShowsCursor := by
  have tall := fits.tall
  rw [fits.first_clamp, ShowsCursor]
  omega

end FitsPage

/-- What has been clamped stays as it is. -/
theorem clamp_clamp (tall : 1 ≤ body.height) (pageLength : Nat) :
    (body.clamp pageLength).clamp pageLength = body.clamp pageLength :=
  (fitsPage_clamp tall pageLength).clamp_eq_self (showsCursor_clamp tall pageLength)

/-! ## One motion -/

inductive Motion where
  | up
  | down
  | top
  | scroll (step : Int)
deriving DecidableEq, Repr

namespace Motion

def IsOfCursor : Motion → Prop
  | .scroll _ => False
  | _ => True

def destination (pageLength cursor : Nat) : Motion → Nat
  | .up => cursor - 1
  | .down => min (cursor + 1) (pageLength - 1)
  | .top => 0
  | .scroll _ => cursor

end Motion

def go (body : Body) (pageLength : Nat) : Motion → Body
  | .up => body.moveUp
  | .down => body.moveDown pageLength
  | .top => body.moveToTop
  | .scroll step => body.scrollBy step pageLength

theorem fitsPage_scrollBy (tall : 1 ≤ body.height) (onPage : body.cursor < max pageLength 1)
    (step : Int) : (body.scrollBy step pageLength).FitsPage pageLength := by
  unfold scrollBy
  exact ⟨tall, onPage, min_le_right _ _⟩

theorem cursor_scrollBy (body : Body) (step : Int) (pageLength : Nat) :
    (body.scrollBy step pageLength).cursor = body.cursor := by
  rw [scrollBy]

theorem height_scrollBy (body : Body) (step : Int) (pageLength : Nat) :
    (body.scrollBy step pageLength).height = body.height := by
  rw [scrollBy]

theorem cursor_showCursor (tall : 1 ≤ body.height) : body.showCursor.cursor = body.cursor := by
  rw [showCursor_eq tall]

theorem height_showCursor (tall : 1 ≤ body.height) : body.showCursor.height = body.height := by
  rw [showCursor_eq tall]

namespace FitsPage

/-- All that a motion can do: nothing, or move the cursor and the body after it, or
scroll. -/
theorem go_cases (fits : body.FitsPage pageLength) (motion : Motion) :
    (body.go pageLength motion = body ∧
      motion.destination pageLength body.cursor = body.cursor) ∨
    body.go pageLength motion =
      { body with cursor := motion.destination pageLength body.cursor : Body }.showCursor ∨
    ∃ step, motion = .scroll step := by
  have onPage := fits.cursor
  cases motion with
  | up =>
      by_cases room : 0 < body.cursor
      · exact Or.inr (Or.inl (if_pos room))
      · have stays : body.cursor - 1 = body.cursor := by omega
        exact Or.inl ⟨if_neg room, stays⟩
  | down =>
      by_cases room : body.cursor + 1 < pageLength
      · rw [Motion.destination, min_eq_left (Nat.le_sub_one_of_lt room)]
        exact Or.inr (Or.inl (if_pos room))
      · have stays : min (body.cursor + 1) (pageLength - 1) = body.cursor := by omega
        exact Or.inl ⟨if_neg room, stays⟩
  | top =>
      -- the cursor in the first row leaves the body nothing to scroll to but the top
      have first : max (min body.first 0) (0 + 1 - body.height) = 0 := by
        have tall := fits.tall
        omega
      have moved := @showCursor_eq { body with cursor := 0 } fits.tall
      rw [first] at moved
      exact Or.inr (Or.inl moved.symm)
  | scroll step => exact Or.inr (Or.inr ⟨step, rfl⟩)

theorem destination_lt (fits : body.FitsPage pageLength) (motion : Motion) :
    motion.destination pageLength body.cursor < max pageLength 1 := by
  have onPage := fits.cursor
  cases motion <;> dsimp only [Motion.destination] <;> omega

theorem go (fits : body.FitsPage pageLength) (motion : Motion) :
    (body.go pageLength motion).FitsPage pageLength := by
  rcases fits.go_cases motion with ⟨same, _⟩ | moved | ⟨step, rfl⟩
  · rw [same]
    exact fits
  · rw [moved]
    exact (fits.withCursor (fits.destination_lt motion)).showCursor
  · exact fitsPage_scrollBy fits.tall fits.cursor step

theorem height_go (fits : body.FitsPage pageLength) (motion : Motion) :
    (body.go pageLength motion).height = body.height := by
  rcases fits.go_cases motion with ⟨same, _⟩ | moved | ⟨step, rfl⟩
  · rw [same]
  · rw [moved]
    exact height_showCursor fits.tall
  · exact body.height_scrollBy step pageLength

theorem cursor_go (fits : body.FitsPage pageLength) (motion : Motion) :
    (body.go pageLength motion).cursor = motion.destination pageLength body.cursor := by
  rcases fits.go_cases motion with ⟨same, stays⟩ | moved | ⟨step, rfl⟩
  · rw [same, stays]
  · rw [moved]
    exact cursor_showCursor fits.tall
  · exact body.cursor_scrollBy step pageLength

/-- A move of the cursor that does anything brings it on screen. -/
theorem showsCursor_go (fits : body.FitsPage pageLength) {motion : Motion}
    (ofCursor : motion.IsOfCursor) (effective : body.go pageLength motion ≠ body) :
    (body.go pageLength motion).ShowsCursor := by
  rcases fits.go_cases motion with ⟨same, _⟩ | moved | ⟨step, rfl⟩
  · exact absurd same effective
  · rw [moved]
    exact showsCursor_showCursor fits.tall
  · cases ofCursor

theorem length_visible (fits : body.FitsPage pageLength) :
    (body.visible pageLength).length = min body.height pageLength := by
  have within := fits.first
  unfold visible Span.length
  dsimp only
  omega

end FitsPage

/-! ## Many motions -/

def roam (body : Body) (pageLength : Nat) (motions : List Motion) : Body :=
  motions.foldl (fun body motion => body.go pageLength motion) body

namespace FitsPage

theorem roam (fits : body.FitsPage pageLength) (motions : List Motion) :
    (body.roam pageLength motions).FitsPage pageLength :=
  List.foldlRecOn (motive := (FitsPage · pageLength)) motions _ fits
    fun _ still motion _ => still.go motion

theorem height_roam (fits : body.FitsPage pageLength) (motions : List Motion) :
    (body.roam pageLength motions).height = body.height := by
  induction motions generalizing body with
  | nil => rfl
  | cons motion motions induction =>
      exact (induction (fits.go motion)).trans (fits.height_go motion)

end FitsPage

/-- Whether a body of some height stays on a page, and goes where it is told. -/
structure RoamsPage (roamed : Body) (height pageLength : Nat) : Prop where
  cursor : roamed.cursor < max pageLength 1
  first : roamed.first ≤ pageLength - height
  full : (roamed.visible pageLength).length = min height pageLength
  goes : ∀ motion : Motion,
    (roamed.go pageLength motion).cursor = motion.destination pageLength roamed.cursor
  shows : ∀ motion : Motion, motion.IsOfCursor →
    let moved := roamed.go pageLength motion
    moved ≠ roamed → moved.first ≤ moved.cursor ∧ moved.cursor < moved.first + height

structure SettlesOnPage (clamped : Body) (height pageLength : Nat) : Prop where
  cursor : clamped.cursor < max pageLength 1
  above : clamped.first ≤ clamped.cursor
  below : clamped.cursor < clamped.first + height
  first : clamped.first ≤ pageLength - height
  clamp : clamped.clamp pageLength = clamped

theorem FitsPage.roamsPage (fits : body.FitsPage pageLength) :
    body.RoamsPage body.height pageLength where
  cursor := fits.cursor
  first := fits.first
  full := fits.length_visible
  goes motion := fits.cursor_go motion
  shows motion ofCursor effective := by
    rw [← fits.height_go motion]
    exact fits.showsCursor_go ofCursor effective

/-- Clamping brings the cursor on the page and on screen, and the body on the page.
There both stay wherever the cursor moves and the body scrolls, so that no line is blank
for which the page has a row. Every move of the cursor that does anything leaves it on
screen. -/
theorem cursor_and_body_stay_on_page (body : Body) (pageLength : Nat) (tall : 1 ≤ body.height) :
    let clamped := body.clamp pageLength
    clamped.SettlesOnPage body.height pageLength ∧
      ∀ motions, (clamped.roam pageLength motions).RoamsPage body.height pageLength := by
  intro clamped
  have fits : clamped.FitsPage pageLength := fitsPage_clamp tall pageLength
  have shown : clamped.ShowsCursor := showsCursor_clamp tall pageLength
  have height : clamped.height = body.height := by
    rw [show clamped = _ from clamp_eq tall pageLength]
  rw [← height]
  refine ⟨⟨fits.cursor, shown.1, shown.2, fits.first, clamp_clamp tall pageLength⟩, ?_⟩
  intro motions
  rw [← fits.height_roam motions]
  exact (fits.roam motions).roamsPage

/-- The page ends above the cursor, which comes back to its last row. Then the wheel leaves
the cursor behind, and the next move up brings it on screen again. -/
theorem cursor_and_body_stay_on_page_after_wheel :
    let body : Body := { cursor := 8, first := 6, height := 3 }
    let clamped := body.clamp 7
    let roamed := clamped.roam 7 [.scroll 2, .scroll (-9)]
    let moved := roamed.go 7 .up
    1 ≤ body.height ∧ clamped.clamp 7 = clamped ∧ ¬roamed.ShowsCursor ∧
      (roamed.visible 7).length = 3 ∧ Motion.up.IsOfCursor ∧ moved ≠ roamed ∧
      moved.cursor = 5 ∧ moved.first ≤ moved.cursor ∧ moved.cursor < moved.first + 3 := by
  intro body clamped roamed moved
  have tall : 1 ≤ body.height := by decide
  have effective : moved ≠ roamed := by decide
  rcases cursor_and_body_stay_on_page body 7 tall with ⟨settles, roams⟩
  have roaming : roamed.RoamsPage 3 7 := roams [.scroll 2, .scroll (-9)]
  have cursor : roamed.cursor = 6 := by decide
  have goesTo : moved.cursor = 5 := by
    rw [show moved.cursor = _ from roaming.goes .up, cursor]
    rfl
  exact ⟨tall, settles.clamp, by decide, roaming.full, trivial, effective, goesTo,
    roaming.shows .up trivial effective⟩

/-! ## In machine words

Rows of a page are counted in words of 64 bits, and scrolled in signed ones. -/

def showCursor? (body : Body) : Option Body :=
  let height := max body.height 1
  if body.cursor < body.first then some { body with first := body.cursor }
  else do
    let stop ← Machine.add? 64 body.first height
    if stop ≤ body.cursor then do
      let next ← Machine.add? 64 body.cursor 1
      let first ← Machine.sub? next height
      some { body with first }
    else some body

/-- The body after a step of scrolling. A number is not clamped where the bounds cross. -/
def scrollBy? (body : Body) (step : Int) (pageLength : Nat) : Option Body := do
  let last := signed 64 (pageLength - body.height)
  let first ← Machine.fitSigned? 64 (signed 64 body.first + step)
  if 0 ≤ last then some { body with first := (max 0 (min first last)).toNat } else none

/-- What two numbers of 62 bits come to fits, signed or not. -/
structure IsShort (body : Body) : Prop where
  cursor : body.cursor < 2 ^ 62
  first : body.first < 2 ^ 62
  height : body.height < 2 ^ 62

theorem FitsPage.isShort (fits : body.FitsPage pageLength) (short : pageLength < 2 ^ 62)
    (low : body.height < 2 ^ 62) : body.IsShort := by
  rcases fits with ⟨_, onPage, within⟩
  exact ⟨by omega, by omega, low⟩

theorem signed_eq {bits number : Nat} (fits : 2 * number < 2 ^ bits) :
    signed bits number = number := by
  have modulus : Nat.pow 2 bits = 2 ^ bits := rfl
  apply Int.bmod_eq_of_le_mul_two <;> omega

theorem showCursor?_eq_some (short : body.IsShort) : body.showCursor? = some body.showCursor := by
  rcases short with ⟨cursor, first, height⟩
  unfold showCursor? showCursor
  dsimp only
  split
  · rfl
  · rw [Machine.add?_eq_some (by omega), Option.bind_eq_bind, Option.bind_some]
    split
    · rw [Machine.add?_eq_some (by omega), Option.bind_some, Machine.sub?_eq_some (by omega)]
      rfl
    · rfl

theorem scrollBy?_eq_some (short : body.IsShort) {step : Int} (word : step.natAbs ≤ 2 ^ 31)
    {pageLength : Nat} (shortPage : pageLength < 2 ^ 63) :
    body.scrollBy? step pageLength = some (body.scrollBy step pageLength) := by
  have first := short.first
  have start : signed 64 body.first = body.first := signed_eq (by omega)
  have last : signed 64 (pageLength - body.height) = (pageLength - body.height : Nat) :=
    signed_eq (by omega)
  unfold scrollBy? scrollBy
  rw [start, last, Machine.fitSigned?_eq_some (by omega), Option.bind_eq_bind, Option.bind_some,
    if_pos (Int.natCast_nonneg _)]
  have clamped : (max 0 (min (body.first + step) (pageLength - body.height : Nat))).toNat =
      min (body.first + step).toNat (pageLength - body.height) := by
    omega
  rw [clamped]

/-- Wherever a body has gone on a page that fits into memory, no sum overflows. -/
theorem FitsPage.roam_fits_words (fits : body.FitsPage pageLength) (short : pageLength < 2 ^ 62)
    (low : body.height < 2 ^ 62) (motions : List Motion) :
    let roamed := body.roam pageLength motions
    roamed.showCursor? = some roamed.showCursor ∧
      ∀ step : Int, step.natAbs ≤ 2 ^ 31 →
        roamed.scrollBy? step pageLength = some (roamed.scrollBy step pageLength) := by
  intro roamed
  have stays : roamed.IsShort := by
    apply (fits.roam motions).isShort short
    rw [fits.height_roam motions]
    exact low
  exact ⟨showCursor?_eq_some stays, fun step word => scrollBy?_eq_some stays word (by omega)⟩

end Body

end PagedTable
