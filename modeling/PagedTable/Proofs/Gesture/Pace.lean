import Mathlib.Data.List.Induction
import PagedTable.Gesture.Drag
import PagedTable.Proofs.Number.Word

/-! # The pace of scrolling

While the pointer of a drag is near an edge of the body, the clock scrolls: at once when
it finds the pointer there, and from then on once in an interval. Between two ticks the
pointer may move, the body may lie elsewhere and the drag may get a new target. None of
this touches the time of the last step. Only a tick that finds the pointer away from the
edges forgets it, and so does the end of the drag. -/

namespace PagedTable

structure Beat where
  now : Nat
  extent : Extent
  line : Int
  step : Option Int
deriving DecidableEq, Repr

namespace Beat

variable {tuning : DragTuning} {beat : Beat}

def AtTop (beat : Beat) (tuning : DragTuning) : Prop :=
  beat.line < beat.extent.top + tuning.scrollMargin

def AtBottom (beat : Beat) (tuning : DragTuning) : Prop :=
  beat.extent.top + beat.extent.height - tuning.scrollMargin ≤ beat.line

def AtEdge (beat : Beat) (tuning : DragTuning) : Prop :=
  beat.AtTop tuning ∨ beat.AtBottom tuning

instance (beat : Beat) (tuning : DragTuning) : Decidable (beat.AtTop tuning) :=
  inferInstanceAs (Decidable (_ < _))

instance (beat : Beat) (tuning : DragTuning) : Decidable (beat.AtBottom tuning) :=
  inferInstanceAs (Decidable (_ ≤ _))

instance (beat : Beat) (tuning : DragTuning) : Decidable (beat.AtEdge tuning) :=
  inferInstanceAs (Decidable (_ ∨ _))

/-- When the last step was made, after a tick; none if the pointer has been away from the
edges since. -/
def lastStep? (beat : Beat) (tuning : DragTuning) (last : Option Nat) : Option Nat :=
  if beat.step.isSome then some beat.now else if beat.AtEdge tuning then last else none

def lastStepAfter? (tuning : DragTuning) (last : Option Nat) (beats : List Beat) : Option Nat :=
  beats.foldl (fun last beat => beat.lastStep? tuning last) last

structure Answers (tuning : DragTuning) (last : Option Nat) (beat : Beat) : Prop where
  away : ¬beat.AtEdge tuning → beat.step = none
  early : ∀ time ∈ last, beat.now - time < tuning.scrollInterval → beat.step = none
  top : (∀ time ∈ last, tuning.scrollInterval ≤ beat.now - time) → beat.AtTop tuning →
    beat.step = some (-tuning.scrollStep)
  bottom : (∀ time ∈ last, tuning.scrollInterval ≤ beat.now - time) → ¬beat.AtTop tuning →
    beat.AtBottom tuning → beat.step = some tuning.scrollStep

/-- Whether a tick comes less than the interval after a step, and the pointer has been at
an edge ever since. -/
def ComesTooSoon (tuning : DragTuning) (earlier : List Beat) (beat : Beat) : Prop :=
  ∃ front stepped between, earlier = front ++ stepped :: between ∧ stepped.step.isSome = true ∧
    (∀ other ∈ between, other.AtEdge tuning) ∧
    beat.now < stepped.now + tuning.scrollInterval

/-! ## The last step of a stretch -/

theorem lastStep?_of_step (last : Option Nat) {step : Int} (moves : beat.step = some step) :
    beat.lastStep? tuning last = some beat.now := by
  rw [lastStep?, moves]
  rfl

theorem lastStep?_of_near (last : Option Nat) (quiet : beat.step = none)
    (near : beat.AtEdge tuning) : beat.lastStep? tuning last = last := by
  rw [lastStep?, quiet]
  exact if_pos near

theorem lastStep?_of_away (last : Option Nat) (quiet : beat.step = none)
    (away : ¬beat.AtEdge tuning) : beat.lastStep? tuning last = none := by
  rw [lastStep?, quiet]
  exact if_neg away

theorem lastStepAfter?_append (last : Option Nat) (front back : List Beat) :
    lastStepAfter? tuning last (front ++ back) =
      lastStepAfter? tuning (lastStepAfter? tuning last front) back :=
  List.foldl_append

theorem lastStepAfter?_of_atEdge {beats : List Beat} (time : Nat)
    (near : ∀ beat ∈ beats, beat.AtEdge tuning) :
    ∃ last, lastStepAfter? tuning (some time) beats = some last ∧
      (last = time ∨ ∃ beat ∈ beats, beat.now = last) := by
  induction beats generalizing time with
  | nil => exact ⟨time, rfl, Or.inl rfl⟩
  | cons beat beats induction =>
      have parts := List.forall_mem_cons.mp near
      cases moves : beat.step with
      | some step =>
          rcases induction beat.now parts.2 with ⟨last, known, found⟩
          rw [← beat.lastStep?_of_step (some time) moves] at known
          refine ⟨last, known, Or.inr ?_⟩
          rcases found with same | ⟨later, member, same⟩
          · exact ⟨beat, List.mem_cons_self, same.symm⟩
          · exact ⟨later, List.mem_cons_of_mem beat member, same⟩
      | none =>
          rcases induction time parts.2 with ⟨last, known, found⟩
          rw [← beat.lastStep?_of_near (some time) moves parts.1] at known
          refine ⟨last, known, ?_⟩
          rcases found with same | ⟨later, member, same⟩
          · exact Or.inl same
          · exact Or.inr ⟨later, List.mem_cons_of_mem beat member, same⟩

/-- A step that is remembered has been made, and since then the pointer has stayed at the
edges. -/
theorem exists_of_lastStepAfter? {beats : List Beat} {time : Nat}
    (known : lastStepAfter? tuning none beats = some time) :
    ∃ front stepped between, beats = front ++ stepped :: between ∧ stepped.step.isSome = true ∧
      (∀ other ∈ between, other.AtEdge tuning) ∧ stepped.now = time := by
  -- from the last tick backwards, since a tick away from the edges hides all before it
  induction beats using List.reverseRecOn with
  | nil => cases known
  | append_singleton beats beat induction =>
      rw [lastStepAfter?_append] at known
      cases moves : beat.step with
      | some step =>
          have last := (beat.lastStep?_of_step _ moves).symm.trans known
          exact ⟨beats, beat, [], rfl, by rw [moves]; rfl, nofun, Option.some.inj last⟩
      | none =>
          by_cases near : beat.AtEdge tuning
          · have last := (beat.lastStep?_of_near _ moves near).symm.trans known
            rcases induction last with ⟨front, stepped, between, rfl, steps, stays, same⟩
            refine ⟨front, stepped, between ++ [beat], by simp, steps, ?_, same⟩
            exact List.forall_mem_append.mpr ⟨stays, List.forall_mem_singleton.mpr near⟩
          · cases (beat.lastStep?_of_away _ moves near).symm.trans known

/-! ## Early and late ticks -/

namespace Answers

/-- Nothing but a step in the same stretch at the edges holds a tick back. -/
theorem due_or_comesTooSoon {earlier : List Beat}
    (answers : beat.Answers tuning (lastStepAfter? tuning none earlier)) :
    (∀ time ∈ lastStepAfter? tuning none earlier, tuning.scrollInterval ≤ beat.now - time) ∨
      beat.step = none ∧ beat.ComesTooSoon tuning earlier := by
  cases known : lastStepAfter? tuning none earlier with
  | none => exact Or.inl nofun
  | some time =>
      by_cases soon : beat.now - time < tuning.scrollInterval
      · right
        rcases exists_of_lastStepAfter? known with
          ⟨front, stepped, between, split, steps, near, same⟩
        have within : beat.now < stepped.now + tuning.scrollInterval := by omega
        exact ⟨answers.early time known soon, front, stepped, between, split, steps, near, within⟩
      · left
        intro other same
        rw [← Option.some.inj same]
        exact Nat.not_lt.mp soon

theorem interval_le {front between : List Beat} {first : Beat}
    (answers : beat.Answers tuning (lastStepAfter? tuning none (front ++ first :: between)))
    (steps : first.step.isSome = true) (moves : beat.step.isSome = true)
    (near : ∀ other ∈ between, other.AtEdge tuning)
    (rising : ∀ other ∈ between, first.now ≤ other.now ∧ other.now ≤ beat.now)
    (later : first.now ≤ beat.now) : first.now + tuning.scrollInterval ≤ beat.now := by
  rcases Option.isSome_iff_exists.mp steps with ⟨step, stepped⟩
  -- the timer may have been set again in between, but not to an earlier time
  rcases lastStepAfter?_of_atEdge first.now near with ⟨last, known, found⟩
  have remembered : lastStepAfter? tuning none (front ++ first :: between) = some last := by
    rw [lastStepAfter?_append, ← known, ← first.lastStep?_of_step _ stepped]
    rfl
  have due : tuning.scrollInterval ≤ beat.now - last := by
    by_contra early
    rw [answers.early last remembered (Nat.not_le.mp early)] at moves
    cases moves
  have bounds : first.now ≤ last ∧ last ≤ beat.now := by
    rcases found with rfl | ⟨other, member, rfl⟩
    · exact ⟨Nat.le_refl _, later⟩
    · exact rising other member
  omega

end Answers

end Beat

namespace Gesture

inductive Input where
  | pointerDown (pointer : Nat) (row : Option RecordId) (line : Int)
  | pointerMove (pointer : Nat) (line : Int) (boxes : List RowBox) (selection : Selection)
      (order : List RecordId)
  | pointerUp (pointer : Nat)
  | cancel
  | tick (now : Nat) (extent : Extent)
  | retarget (boxes : List RowBox)

def receive (gesture : Gesture) (tuning : DragTuning) : Input → Gesture
  | .pointerDown pointer row line => (gesture.pointerDown pointer row line).2
  | .pointerMove pointer line boxes selection order =>
    (gesture.pointerMove tuning pointer line boxes selection order).2
  | .pointerUp pointer => (gesture.pointerUp pointer).2
  | .cancel => gesture.cancel.2
  | .tick now extent => (gesture.tick tuning now extent).2
  | .retarget boxes => gesture.retarget boxes

def dragsOn (gesture : Gesture) (tuning : DragTuning) : List Input → Bool
  | [] => gesture.isDragging
  | input :: rest => gesture.isDragging && (gesture.receive tuning input).dragsOn tuning rest

def beat? (gesture : Gesture) (tuning : DragTuning) : Input → Option Beat
  | .tick now extent => gesture.drag?.map fun drag =>
    ⟨now, extent, drag.pointerLine, (gesture.tick tuning now extent).1⟩
  | _ => none

def beats (gesture : Gesture) (tuning : DragTuning) : List Input → List Beat
  | [] => []
  | input :: rest =>
    (gesture.beat? tuning input).toList ++ (gesture.receive tuning input).beats tuning rest

variable {gesture : Gesture} {tuning : DragTuning} {drag next : Drag}

/-! ## One tick -/

theorem tick_of_not_dragging (still : gesture.isDragging = false) (now : Nat) (extent : Extent) :
    gesture.tick tuning now extent = (none, gesture) := by
  cases gesture with
  | dragging drag => cases still
  | _ => rfl

theorem tick_away {now : Nat} {extent : Extent}
    (away : (Gesture.dragging drag).scrollStep? tuning extent = none) :
    (Gesture.dragging drag).tick tuning now extent =
      (none, .dragging { drag with lastScroll := none }) := by
  rw [tick, away]

theorem tick_early {now time : Nat} {extent : Extent} {step : Int}
    (near : (Gesture.dragging drag).scrollStep? tuning extent = some step)
    (last : time ∈ drag.lastScroll) (early : now - time < tuning.scrollInterval) :
    (Gesture.dragging drag).tick tuning now extent = (none, .dragging drag) := by
  have stays : (drag.lastScroll.any fun last => now - last < tuning.scrollInterval) = true := by
    rw [last, Option.any_some, decide_eq_true early]
  rw [tick, near]
  exact if_pos stays

theorem tick_due {now : Nat} {extent : Extent} {step : Int}
    (near : (Gesture.dragging drag).scrollStep? tuning extent = some step)
    (due : ∀ time ∈ drag.lastScroll, tuning.scrollInterval ≤ now - time) :
    (Gesture.dragging drag).tick tuning now extent =
      (some step, .dragging { drag with lastScroll := some now }) := by
  have moves : (drag.lastScroll.any fun last => now - last < tuning.scrollInterval) = false := by
    cases last : drag.lastScroll with
    | none => rfl
    | some time => exact decide_eq_false (Nat.not_lt.mpr (due time last))
  rw [tick, near]
  exact if_neg (ne_true_of_eq_false moves)

theorem exists_scrollStep? (drag : Drag) (beat : Beat) (same : beat.line = drag.pointerLine)
    (near : beat.AtEdge tuning) :
    ∃ step, (Gesture.dragging drag).scrollStep? tuning beat.extent = some step ∧
      (beat.AtTop tuning → step = -tuning.scrollStep) ∧
      (¬beat.AtTop tuning → step = tuning.scrollStep) := by
  unfold Beat.AtEdge Beat.AtTop Beat.AtBottom at near
  unfold Beat.AtTop
  rw [same] at near ⊢
  by_cases top : drag.pointerLine < beat.extent.top + tuning.scrollMargin
  · exact ⟨-tuning.scrollStep, if_pos top, fun _ => rfl, fun below => absurd top below⟩
  · refine ⟨tuning.scrollStep, ?_, fun above => absurd above top, fun _ => rfl⟩
    exact (if_neg top).trans (if_pos (near.resolve_left top))

theorem scrollStep?_eq_none (drag : Drag) (beat : Beat) (same : beat.line = drag.pointerLine)
    (away : ¬beat.AtEdge tuning) :
    (Gesture.dragging drag).scrollStep? tuning beat.extent = none := by
  unfold Beat.AtEdge Beat.AtTop Beat.AtBottom at away
  rw [same, not_or] at away
  exact (if_neg away.1).trans (if_neg away.2)

theorem answers_tick (tuning : DragTuning) (drag : Drag) (now : Nat) (extent : Extent) :
    let ticked := (Gesture.dragging drag).tick tuning now extent
    let beat : Beat := ⟨now, extent, drag.pointerLine, ticked.1⟩
    beat.Answers tuning drag.lastScroll ∧
      ticked.2 = .dragging { drag with lastScroll := beat.lastStep? tuning drag.lastScroll } := by
  intro ticked beat
  by_cases near : beat.AtEdge tuning
  · rcases exists_scrollStep? drag beat rfl near with ⟨step, wanted, top, bottom⟩
    by_cases due : ∀ time ∈ drag.lastScroll, tuning.scrollInterval ≤ now - time
    · have whole : ticked = (some step, .dragging { drag with lastScroll := some now }) :=
        tick_due wanted due
      have moves : beat.step = some step := congrArg Prod.fst whole
      refine ⟨⟨fun away => absurd near away, ?_, ?_, ?_⟩, ?_⟩
      · exact fun time last early => absurd early (Nat.not_lt.mpr (due time last))
      · exact fun _ above => moves.trans (congrArg some (top above))
      · exact fun _ below _ => moves.trans (congrArg some (bottom below))
      · rw [beat.lastStep?_of_step _ moves, whole]
    · rcases not_forall₂.mp due with ⟨time, last, early⟩
      have whole : ticked = (none, .dragging drag) :=
        tick_early wanted last (Nat.not_le.mp early)
      have quiet : beat.step = none := congrArg Prod.fst whole
      refine ⟨⟨fun away => absurd near away, fun _ _ _ => quiet, ?_, ?_⟩, ?_⟩
      · exact fun due => absurd (due time last) early
      · exact fun due => absurd (due time last) early
      · rw [beat.lastStep?_of_near _ quiet near, whole]
  · have whole : ticked = (none, .dragging { drag with lastScroll := none }) :=
      tick_away (scrollStep?_eq_none drag beat rfl near)
    have quiet : beat.step = none := congrArg Prod.fst whole
    refine ⟨⟨fun _ => quiet, fun _ _ _ => quiet, ?_, ?_⟩, ?_⟩
    · exact fun _ above => absurd (Or.inl above) near
    · exact fun _ _ below => absurd (Or.inr below) near
    · rw [beat.lastStep?_of_away _ quiet near, whole]

/-! ## The ticks of a drag -/

theorem exists_drag_of_dragsOn {inputs : List Input}
    (lasts : gesture.dragsOn tuning inputs = true) : ∃ drag, gesture = .dragging drag := by
  have dragging : gesture.isDragging = true := by
    cases inputs with
    | nil => exact lasts
    | cons input rest => exact (Bool.and_eq_true_iff.mp lasts).1
  cases gesture with
  | dragging drag => exact ⟨drag, rfl⟩
  | _ => cases dragging

/-- A drag starts without a step. -/
theorem lastScroll_of_starts {input : Input} (still : gesture.isDragging = false)
    (starts : gesture.receive tuning input = .dragging drag) : drag.lastScroll = none := by
  cases gesture with
  | dragging other => cases still
  | idle =>
      cases input with
      | pointerDown pointer row line => cases row <;> cases starts
      | _ => cases starts
  | armed row armedBy origin =>
      cases input with
      | pointerMove pointer line boxes selection order =>
          rw [receive, pointerMove] at starts
          split at starts
          · cases starts
          · cases starts
            rfl
      | pointerUp pointer =>
          rw [receive, pointerUp] at starts
          split at starts <;> cases starts
      | _ => cases starts

/-- Nothing but a tick touches the timer of a drag that goes on. -/
theorem receive_dragging {input : Input}
    (goesOn : (Gesture.dragging drag).receive tuning input = .dragging next) :
    ((Gesture.dragging drag).beat? tuning input = none ∧ next.lastScroll = drag.lastScroll) ∨
      ∃ beat, (Gesture.dragging drag).beat? tuning input = some beat ∧
        beat.Answers tuning drag.lastScroll ∧
        next.lastScroll = beat.lastStep? tuning drag.lastScroll := by
  cases input with
  | pointerDown pointer row line => cases goesOn
  | pointerMove pointer line boxes selection order =>
      left
      rw [receive, pointerMove] at goesOn
      split at goesOn
      · cases goesOn
        exact ⟨rfl, rfl⟩
      · cases goesOn
        exact ⟨rfl, rfl⟩
  | pointerUp pointer =>
      left
      rw [receive, pointerUp] at goesOn
      split at goesOn
      · cases goesOn
      · cases goesOn
        exact ⟨rfl, rfl⟩
  | cancel => cases goesOn
  | tick now extent =>
      right
      have ticked := answers_tick tuning drag now extent
      refine ⟨_, rfl, ticked.1, ?_⟩
      rw [receive, ticked.2] at goesOn
      cases goesOn
      rfl
  | retarget boxes =>
      cases goesOn
      exact Or.inl ⟨rfl, rfl⟩

/-- The timer of a drag holds the last step of the ticks before, so that every tick
answers by them. -/
theorem answers_of_beats_eq {inputs : List Input} {front back : List Beat} {beat : Beat}
    (lasts : (Gesture.dragging drag).dragsOn tuning inputs = true)
    (split : (Gesture.dragging drag).beats tuning inputs = front ++ beat :: back) :
    beat.Answers tuning (Beat.lastStepAfter? tuning drag.lastScroll front) := by
  induction inputs generalizing drag front with
  | nil => cases front <;> cases split
  | cons input rest induction =>
      -- the drag after the input starts from the timer that the first tick leaves
      have later := (Bool.and_eq_true_iff.mp lasts).2
      rcases exists_drag_of_dragsOn later with ⟨next, goesOn⟩
      rw [beats, goesOn] at split
      rw [goesOn] at later
      rcases receive_dragging goesOn with ⟨noBeat, same⟩ | ⟨first, isBeat, answers, last⟩
      · rw [noBeat] at split
        rw [← same]
        exact induction later split
      · rw [isBeat] at split
        cases front with
        | nil =>
            cases (List.cons.inj split).1
            exact answers
        | cons other front =>
            rcases List.cons.inj split with ⟨rfl, rest⟩
            change beat.Answers tuning
              (Beat.lastStepAfter? tuning (first.lastStep? tuning drag.lastScroll) front)
            rw [← last]
            exact induction later rest

end Gesture

/-! ## The pace of a drag -/

/-- While the pointer stays at the edges, the steps of a drag are at least an interval
apart. Every tick that finds it there yields a step, up at the top and down at the bottom,
unless it comes too soon after another. Where there is no drag a tick does nothing. -/
theorem scrolling_keeps_pace (tuning : DragTuning) {gesture : Gesture} (start : Gesture.Input)
    (inputs : List Gesture.Input) (still : gesture.isDragging = false)
    (lasts : (gesture.receive tuning start).dragsOn tuning inputs = true)
    (ordered : ((gesture.receive tuning start).beats tuning inputs).Pairwise
      fun earlier later => earlier.now ≤ later.now) :
    let beats := (gesture.receive tuning start).beats tuning inputs
    (∀ (front : List Beat) (first : Beat) (between : List Beat) (second : Beat) (back : List Beat),
      beats = (front ++ first :: between) ++ second :: back →
        first.step.isSome = true → second.step.isSome = true →
        (∀ beat ∈ between, beat.AtEdge tuning) →
          first.now + tuning.scrollInterval ≤ second.now) ∧
    (∀ (front : List Beat) (beat : Beat) (back : List Beat), beats = front ++ beat :: back →
      (beat.AtTop tuning → beat.step = some (-tuning.scrollStep) ∨
        beat.step = none ∧ beat.ComesTooSoon tuning front) ∧
      (¬beat.AtTop tuning → beat.AtBottom tuning → beat.step = some tuning.scrollStep ∨
        beat.step = none ∧ beat.ComesTooSoon tuning front) ∧
      (¬beat.AtEdge tuning → beat.step = none)) ∧
    ∀ other : Gesture, other.isDragging = false →
      ∀ now extent, other.tick tuning now extent = (none, other) := by
  rcases Gesture.exists_drag_of_dragsOn lasts with ⟨drag, starts⟩
  have fresh : drag.lastScroll = none := Gesture.lastScroll_of_starts still starts
  rw [starts] at lasts ordered ⊢
  intro beats
  have answers : ∀ front beat back, beats = front ++ beat :: back →
      beat.Answers tuning (Beat.lastStepAfter? tuning none front) := by
    intro front beat back split
    rw [← fresh]
    exact Gesture.answers_of_beats_eq lasts split
  refine ⟨?_, ?_, fun other idle now extent => Gesture.tick_of_not_dragging idle now extent⟩
  · intro front first between second back split steps moves near
    have times : beats.Pairwise fun earlier later => earlier.now ≤ later.now := ordered
    rw [split, List.pairwise_append, List.pairwise_append, List.pairwise_cons] at times
    rcases times with ⟨⟨_, ⟨afterFirst, _⟩, _⟩, _, beforeSecond⟩
    have toSecond : ∀ other ∈ first :: between, other.now ≤ second.now := fun other member =>
      beforeSecond other (List.mem_append_right front member) second List.mem_cons_self
    refine (answers _ _ _ split).interval_le steps moves near ?_ (toSecond first List.mem_cons_self)
    exact fun other member =>
      ⟨afterFirst other member, toSecond other (List.mem_cons_of_mem first member)⟩
  · intro front beat back split
    have answer := answers front beat back split
    refine ⟨?_, ?_, answer.away⟩
    · intro top
      exact answer.due_or_comesTooSoon.imp_left fun due => answer.top due top
    · intro below bottom
      exact answer.due_or_comesTooSoon.imp_left fun due => answer.bottom due below bottom

/-- The drag begins at the bottom, goes up to the top within an interval, and comes back
by way of the middle. There a tick finds it, and so the next one need not wait. -/
theorem scrolling_keeps_pace_across_edges :
    let tuning : DragTuning :=
      { threshold := 2, scrollMargin := 2, scrollStep := 3, scrollInterval := 50 }
    let body : Extent := ⟨0, 20⟩
    let moveTo (line : Int) : Gesture.Input := .pointerMove 0 line [] {} []
    let gesture : Gesture := .armed (.number 1) 0 10
    let inputs : List Gesture.Input :=
      [.tick 0 body, moveTo 0, .tick 10 body, .retarget [], .tick 50 body, moveTo 10, .tick 60 body,
        moveTo 19, .tick 70 body]
    let bottom : Beat := ⟨0, body, 19, some 3⟩
    let early : Beat := ⟨10, body, 0, none⟩
    let top : Beat := ⟨50, body, 0, some (-3)⟩
    let away : Beat := ⟨60, body, 10, none⟩
    let back : Beat := ⟨70, body, 19, some 3⟩
    gesture.isDragging = false ∧
      (gesture.receive tuning (moveTo 19)).dragsOn tuning inputs = true ∧
      (gesture.receive tuning (moveTo 19)).beats tuning inputs = [bottom, early, top, away, back] ∧
      bottom.now + tuning.scrollInterval ≤ top.now ∧
      early.ComesTooSoon tuning [bottom] ∧
      back.step = some tuning.scrollStep ∧
      gesture.tick tuning 0 body = (none, gesture) := by
  intro tuning body moveTo gesture inputs bottom early top away back
  have still : gesture.isDragging = false := rfl
  have lasts : (gesture.receive tuning (moveTo 19)).dragsOn tuning inputs = true := by decide
  have ticks : (gesture.receive tuning (moveTo 19)).beats tuning inputs =
      [bottom, early, top, away, back] := by
    decide
  have ordered : ((gesture.receive tuning (moveTo 19)).beats tuning inputs).Pairwise
      fun earlier later => earlier.now ≤ later.now := by
    rw [ticks]
    decide
  rcases scrolling_keeps_pace tuning (moveTo 19) inputs still lasts ordered with ⟨apart, due, idle⟩
  have steps := apart [] bottom [early] top [away, back] ticks (by decide) (by decide) (by decide)
  have waits := (due [bottom] early [top, away, back] ticks).1 (by decide)
  have resumes := (due [bottom, early, top, away] back [] ticks).2.1 (by decide) (by decide)
  exact ⟨still, lasts, ticks, steps, (waits.resolve_left (by decide)).2,
    resumes.resolve_right fun soon => absurd soon.1 (by decide), idle gesture still 0 body⟩

/-! ## In words of 32 bits -/

structure DragTuning.IsSmall (tuning : DragTuning) : Prop where
  scrollMargin : Machine.IsSmall tuning.scrollMargin
  scrollStep : Machine.IsSmall tuning.scrollStep

structure Extent.IsSmall (extent : Extent) : Prop where
  top : Machine.IsSmall extent.top
  height : Machine.IsSmall extent.height

namespace Gesture

def searchStep? (gesture : Gesture) (tuning : DragTuning) (extent : Extent) :
    Option (Option Int) :=
  match gesture.drag? with
  | none => some none
  | some drag => do
    let upper ← Machine.fitSigned? 32 (extent.top + tuning.scrollMargin)
    if drag.pointerLine < upper then do
      let step ← Machine.fitSigned? 32 (-tuning.scrollStep)
      some (some step)
    else do
      let bottom ← Machine.fitSigned? 32 (extent.top + extent.height)
      let lower ← Machine.fitSigned? 32 (bottom - tuning.scrollMargin)
      some (if lower ≤ drag.pointerLine then some tuning.scrollStep else none)

/-- Wherever the pointer is, the step is found without an overflow as long as the body and
the tuning are small. -/
theorem searchStep?_eq_some (gesture : Gesture) {tuning : DragTuning} (slow : tuning.IsSmall)
    {extent : Extent} (small : extent.IsSmall) :
    gesture.searchStep? tuning extent = some (gesture.scrollStep? tuning extent) := by
  rcases slow with ⟨margin, step⟩
  rcases small with ⟨top, height⟩
  unfold Machine.IsSmall at margin step top height
  unfold searchStep? scrollStep?
  cases gesture.drag? with
  | none => rfl
  | some drag =>
      dsimp only
      rw [Machine.fitSigned?_eq_some (by omega), Option.bind_eq_bind, Option.bind_some,
        Option.bind_some]
      split
      · rw [Machine.fitSigned?_eq_some (by omega), Option.bind_some]
      · rw [Machine.fitSigned?_eq_some (by omega), Option.bind_some,
          Machine.fitSigned?_eq_some (by omega), Option.bind_some]

end Gesture

end PagedTable
