import PagedTable.Gesture.Slot
import PagedTable.Proofs.Number.Word

/-! # Slots count rows

Between rows whose middles lie in order, the slot in which a pointer drops what it
drags has as many rows in front as have their middle at the pointer or before it. So
it follows the pointer. -/

namespace PagedTable

def Target.slot? (target : Target) (rows : List RecordId) : Option Nat :=
  (rows.idxOf? target.anchor).map fun row =>
    match target.placement with
    | .before => row
    | .after => row + 1

namespace RowBox

variable {line : Int} {boxes rest : List RowBox} {head box : RowBox}

/-! ## The nearest row -/

/-- Whether a row is the first of those whose middle is nearest to a line. -/
def IsNearest (line : Int) (boxes : List RowBox) (box : RowBox) : Prop :=
  ∃ front back, boxes = front ++ box :: back ∧
    (∀ other ∈ front, box.distance line < other.distance line) ∧
    ∀ other ∈ back, box.distance line ≤ other.distance line

theorem isNearest_cons_iff :
    IsNearest line (head :: rest) box ↔
      (head = box ∧ ∀ other ∈ rest, head.distance line ≤ other.distance line) ∨
      (IsNearest line rest box ∧ box.distance line < head.distance line) := by
  constructor
  · rintro ⟨front, back, split, before, behind⟩
    cases front with
    | nil =>
        rcases List.cons.inj split with ⟨rfl, rfl⟩
        exact Or.inl ⟨rfl, behind⟩
    | cons first front =>
        rcases List.cons.inj split with ⟨rfl, rfl⟩
        have farther := before head List.mem_cons_self
        have later := fun other member => before other (List.mem_cons_of_mem head member)
        exact Or.inr ⟨⟨front, back, rfl, later, behind⟩, farther⟩
  · rintro (⟨rfl, behind⟩ | ⟨⟨front, back, rfl, before, behind⟩, farther⟩)
    · exact ⟨[], rest, rfl, nofun, behind⟩
    · refine ⟨head :: front, back, rfl, ?_, behind⟩
      intro other member
      rcases List.mem_cons.mp member with rfl | later
      · exact farther
      · exact before other later

theorem IsNearest.mem (nearest : IsNearest line boxes box) : box ∈ boxes := by
  rcases nearest with ⟨front, back, rfl, _, _⟩
  exact List.mem_append_right front List.mem_cons_self

theorem IsNearest.distance_le (nearest : IsNearest line boxes box) :
    ∀ other ∈ boxes, box.distance line ≤ other.distance line := by
  rcases nearest with ⟨front, back, rfl, before, behind⟩
  intro other member
  rcases List.mem_append.mp member with early | late
  · exact Nat.le_of_lt (before other early)
  · rcases List.mem_cons.mp late with rfl | late
    · exact Nat.le_refl _
    · exact behind other late

theorem nearest?_eq_none_iff : nearest? line boxes = none ↔ boxes = [] := by
  cases boxes with
  | nil => exact ⟨fun _ => rfl, fun _ => rfl⟩
  | cons head rest =>
      rw [nearest?]
      cases nearest? line rest with
      | none => simp
      | some other => simp

theorem nearest?_eq_some_iff : nearest? line boxes = some box ↔ IsNearest line boxes box := by
  induction boxes generalizing box with
  | nil =>
      constructor
      · nofun
      · rintro ⟨front, back, split, _⟩
        cases List.append_ne_nil_of_right_ne_nil front (List.cons_ne_nil box back) split.symm
  | cons head rest induction =>
      rw [isNearest_cons_iff, nearest?]
      cases known : nearest? line rest with
      | none =>
          have absent : ¬IsNearest line rest box := by
            rw [← induction, known]
            nofun
          rcases nearest?_eq_none_iff.mp known with rfl
          simp [absent]
      | some other =>
          have nearest : IsNearest line rest other := induction.mp known
          rw [← induction, known]
          -- a tie goes to the head, which comes first
          by_cases closer : other.distance line < head.distance line
          · have notHead : ¬∀ other ∈ rest, head.distance line ≤ other.distance line :=
              fun least => Nat.not_lt_of_le (least other nearest.mem) closer
            simp only [if_pos closer, notHead, and_false, false_or]
            exact ⟨fun same => ⟨same, Option.some.inj same ▸ closer⟩, And.left⟩
          · have least : ∀ other ∈ rest, head.distance line ≤ other.distance line :=
              fun next member =>
                Nat.le_trans (Nat.not_lt.mp closer) (nearest.distance_le next member)
            simp only [if_neg closer]
            constructor
            · intro same
              exact Or.inl ⟨Option.some.inj same, least⟩
            · rintro (⟨same, _⟩ | ⟨same, farther⟩)
              · rw [same]
              · exact absurd (Option.some.inj same ▸ farther) closer

/-! ## Rows in order -/

variable {front back : List RowBox}

/-- The rows with their middle at a line or before it are those in front of the
nearest one, and that one too unless the line is before its middle. -/
theorem countP_middle_le (ordered : ((front ++ box :: back).map middle).Pairwise (· < ·))
    (before : ∀ other ∈ front, box.distance line < other.distance line)
    (behind : ∀ other ∈ back, box.distance line ≤ other.distance line) :
    (front ++ box :: back).countP (·.middle ≤ line) =
      if line < box.middle then front.length else front.length + 1 := by
  rw [List.pairwise_map, List.pairwise_append, List.pairwise_cons] at ordered
  rcases ordered with ⟨_, ⟨below, _⟩, above⟩
  have frontAll : front.countP (·.middle ≤ line) = front.length := by
    rw [List.countP_eq_length]
    intro other member
    have higher := above other member box List.mem_cons_self
    have farther := before other member
    rw [distance, distance] at farther
    exact decide_eq_true (by omega)
  have backNone : back.countP (·.middle ≤ line) = 0 := by
    rw [List.countP_eq_zero]
    intro other member
    have lower := below other member
    have farther := behind other member
    rw [distance, distance] at farther
    exact mt of_decide_eq_true (by omega)
  rw [List.countP_append, List.countP_cons, frontAll, backNone]
  by_cases early : line < box.middle
  · simp [early]
  · simp [early, Int.not_lt.mp early]

/-- A row is nearest to a line at which those in front of it end and those behind it
begin. -/
theorem isNearest_of_ordered (ordered : ((front ++ box :: back).map middle).Pairwise (· < ·))
    (passed : front ≠ [] → box.middle ≤ line) (ahead : back ≠ [] → line ≤ box.middle) :
    IsNearest line (front ++ box :: back) box := by
  rw [List.pairwise_map, List.pairwise_append, List.pairwise_cons] at ordered
  rcases ordered with ⟨_, ⟨below, _⟩, above⟩
  refine ⟨front, back, rfl, ?_, ?_⟩
  · intro other member
    have higher := above other member box List.mem_cons_self
    have reached := passed (List.ne_nil_of_mem member)
    rw [distance, distance]
    omega
  · intro other member
    have lower := below other member
    have unreached := ahead (List.ne_nil_of_mem member)
    rw [distance, distance]
    omega

theorem isNearest_of_middle_eq (ordered : (boxes.map middle).Pairwise (· < ·))
    (member : box ∈ boxes) (same : box.middle = line) : IsNearest line boxes box := by
  rcases List.append_of_mem member with ⟨front, back, rfl⟩
  exact isNearest_of_ordered ordered (fun _ => Int.le_of_eq same) fun _ => Int.ge_of_eq same

theorem isNearest_of_le_middle (ordered : (boxes.map middle).Pairwise (· < ·))
    (first : boxes.head? = some box) (above : line ≤ box.middle) : IsNearest line boxes box := by
  rcases List.head?_eq_some_iff.mp first with ⟨back, rfl⟩
  exact isNearest_of_ordered (List.nil_append _ ▸ ordered) (absurd rfl) fun _ => above

theorem isNearest_of_middle_le (ordered : (boxes.map middle).Pairwise (· < ·))
    (last : boxes.getLast? = some box) (below : box.middle ≤ line) : IsNearest line boxes box := by
  rcases List.getLast?_eq_some_iff.mp last with ⟨front, rfl⟩
  exact isNearest_of_ordered ordered (fun _ => below) (absurd rfl)

end RowBox

/-! ## The slot of a drop -/

section

variable {boxes : List RowBox} {moving : List RecordId} {line : Int} {target : Target}

theorem dropTarget_of_isNearest {box : RowBox} (nearest : RowBox.IsNearest line boxes box) :
    dropTarget boxes moving line =
      if box.id ∈ moving then none
      else some ⟨box.id, if line < box.middle then .before else .after⟩ := by
  rw [dropTarget, RowBox.nearest?_eq_some_iff.mpr nearest]

theorem dropTarget_eq_some_iff :
    dropTarget boxes moving line = some target ↔
      ∃ box, RowBox.IsNearest line boxes box ∧ box.id ∉ moving ∧
        target = ⟨box.id, if line < box.middle then .before else .after⟩ := by
  simp only [← RowBox.nearest?_eq_some_iff, dropTarget]
  cases RowBox.nearest? line boxes with
  | none => simp
  | some box =>
      by_cases moves : box.id ∈ moving
      · simp [moves]
      · simp [moves, eq_comm]

theorem dropTarget_eq_none_iff :
    dropTarget boxes moving line = none ↔
      boxes = [] ∨ ∃ box, RowBox.IsNearest line boxes box ∧ box.id ∈ moving := by
  simp only [← RowBox.nearest?_eq_some_iff, dropTarget]
  cases known : RowBox.nearest? line boxes with
  | none => simp [RowBox.nearest?_eq_none_iff.mp known]
  | some box =>
      have nonempty : boxes ≠ [] := by
        rintro rfl
        cases known
      simp [nonempty]

theorem slot?_of_dropTarget (ordered : (boxes.map RowBox.middle).Pairwise (· < ·))
    (distinct : (boxes.map RowBox.id).Nodup)
    (aimed : dropTarget boxes moving line = some target) :
    target.slot? (boxes.map RowBox.id) = some (boxes.countP (·.middle ≤ line)) := by
  rcases dropTarget_eq_some_iff.mp aimed with ⟨box, ⟨front, back, rfl, before, behind⟩, _, rfl⟩
  have place : ((front ++ box :: back).map RowBox.id).idxOf? box.id = some front.length := by
    rw [List.map_append, List.map_cons, List.nodup_append] at distinct
    have absent : (front.map RowBox.id).idxOf? box.id = none :=
      List.idxOf?_eq_none_iff.mpr fun member =>
        distinct.2.2 _ member _ List.mem_cons_self rfl
    rw [List.idxOf?] at absent
    simp [List.idxOf?, List.findIdx?_append, List.findIdx?_cons, absent]
  rw [Target.slot?, place, RowBox.countP_middle_le ordered before behind]
  by_cases early : line < box.middle
  · simp [early]
  · simp [early]

end

/-- The slot of a drop is told by counting rows, so that a pointer that moves down
never moves it up. There is none only where the nearest row is on the move. -/
theorem dropTarget_counts_rows {boxes : List RowBox}
    (ordered : (boxes.map RowBox.middle).Pairwise (· < ·))
    (distinct : (boxes.map RowBox.id).Nodup) (moving : List RecordId) (line : Int) :
    (∀ target, dropTarget boxes moving line = some target →
      target.slot? (boxes.map RowBox.id) = some (boxes.countP (·.middle ≤ line))) ∧
    (dropTarget boxes moving line = none ↔
      boxes = [] ∨ ∃ box, RowBox.IsNearest line boxes box ∧ box.id ∈ moving) ∧
    ∀ later target next, line ≤ later → dropTarget boxes moving line = some target →
      dropTarget boxes moving later = some next →
      ∃ slot nextSlot, target.slot? (boxes.map RowBox.id) = some slot ∧
        next.slot? (boxes.map RowBox.id) = some nextSlot ∧ slot ≤ nextSlot := by
  refine ⟨?_, dropTarget_eq_none_iff, ?_⟩
  · intro target aimed
    exact slot?_of_dropTarget ordered distinct aimed
  · intro later target next further aimed aimedNext
    refine ⟨_, _, slot?_of_dropTarget ordered distinct aimed,
      slot?_of_dropTarget ordered distinct aimedNext, ?_⟩
    apply List.countP_mono_left
    intro box _ above
    exact decide_eq_true (Int.le_trans (of_decide_eq_true above) further)

/-- The middles are at -2, 2 and 5, and the last of the rows is on the move. A pointer
on line 0 is as near to the first as to the second. -/
theorem dropTarget_counts_rows_between_middles :
    let boxes : List RowBox := [⟨.number 1, -4, 5⟩, ⟨.number 2, 3, -3⟩, ⟨.number 3, 4, 3⟩]
    let target : Target := ⟨.number 1, .after⟩
    let next : Target := ⟨.number 2, .after⟩
    (boxes.map RowBox.middle).Pairwise (· < ·) ∧ (boxes.map RowBox.id).Nodup ∧
      dropTarget boxes [.number 3] 0 = some target ∧
      target.slot? (boxes.map RowBox.id) = some 1 ∧
      dropTarget boxes [.number 3] 3 = some next ∧
      (∃ slot nextSlot, target.slot? (boxes.map RowBox.id) = some slot ∧
        next.slot? (boxes.map RowBox.id) = some nextSlot ∧ slot ≤ nextSlot) ∧
      ∃ box, RowBox.IsNearest 4 boxes box ∧ box.id ∈ [RecordId.number 3] := by
  intro boxes target next
  have ordered : (boxes.map RowBox.middle).Pairwise (· < ·) := by decide
  have distinct : (boxes.map RowBox.id).Nodup := by decide
  have aimed : dropTarget boxes [.number 3] 0 = some target := by decide
  have aimedNext : dropTarget boxes [.number 3] 3 = some next := by decide
  rcases dropTarget_counts_rows ordered distinct [.number 3] 0 with ⟨counts, _, follows⟩
  have refused := (dropTarget_counts_rows ordered distinct [.number 3] 4).2.1.mp (by decide)
  refine ⟨ordered, distinct, aimed, counts target aimed, aimedNext, ?_, ?_⟩
  · exact follows 3 target next (by decide) aimed aimedNext
  · exact refused.resolve_left (by decide)

/-! ## In words of 32 bits

The same computations with each sum and difference taken in signed words. None of them
fails as long as lines and heights are small. -/

namespace RowBox

structure IsSmall (box : RowBox) : Prop where
  top : Machine.IsSmall box.top
  height : Machine.IsSmall box.height

def middle? (box : RowBox) : Option Int :=
  Machine.fitSigned? 32 (box.top + box.height.tdiv 2)

def distance? (box : RowBox) (line : Int) : Option Nat := do
  let middle ← box.middle?
  Machine.distance? 32 line middle

def searchNearest? (line : Int) : List RowBox → Option (Option RowBox)
  | [] => some none
  | box :: rest => do
    let distance ← box.distance? line
    match ← searchNearest? line rest with
    | none => some (some box)
    | some other => do
      let otherDistance ← other.distance? line
      some (some (if otherDistance < distance then other else box))

variable {box : RowBox} {boxes : List RowBox} {line : Int}

theorem IsSmall.natAbs_middle_le (small : box.IsSmall) : box.middle.natAbs ≤ 3 * 2 ^ 28 := by
  rcases small with ⟨top, height⟩
  have half : (box.height.tdiv 2).natAbs = box.height.natAbs / 2 := Int.natAbs_tdiv _ _
  unfold Machine.IsSmall at top height
  unfold middle
  omega

theorem middle?_eq_some (small : box.IsSmall) : box.middle? = some box.middle := by
  have within := small.natAbs_middle_le
  exact Machine.fitSigned?_eq_some (by unfold middle at within; omega)

theorem distance?_eq_some (small : box.IsSmall) (near : Machine.IsSmall line) :
    box.distance? line = some (box.distance line) := by
  have within := small.natAbs_middle_le
  unfold Machine.IsSmall at near
  rw [distance?, middle?_eq_some small, Option.bind_eq_bind, Option.bind_some,
    Machine.distance?_eq_some (by omega)]
  rfl

theorem searchNearest?_eq_some (small : ∀ box ∈ boxes, box.IsSmall)
    (near : Machine.IsSmall line) : searchNearest? line boxes = some (nearest? line boxes) := by
  induction boxes with
  | nil => rfl
  | cons box rest induction =>
      rw [searchNearest?, nearest?, distance?_eq_some (small box List.mem_cons_self) near,
        induction fun other member => small other (List.mem_cons_of_mem box member)]
      cases known : nearest? line rest with
      | none => rfl
      | some other =>
          have member : other ∈ rest := (nearest?_eq_some_iff.mp known).mem
          have otherSmall := small other (List.mem_cons_of_mem box member)
          simp only [Option.bind_eq_bind, Option.bind_some, distance?_eq_some otherSmall near]

end RowBox

def searchTarget? (boxes : List RowBox) (moving : List RecordId) (line : Int) :
    Option (Option Target) := do
  match ← RowBox.searchNearest? line boxes with
  | none => some none
  | some box =>
    if box.id ∈ moving then some none
    else do
      let middle ← box.middle?
      some (some ⟨box.id, if line < middle then .before else .after⟩)

theorem searchTarget?_eq_some {boxes : List RowBox} (small : ∀ box ∈ boxes, box.IsSmall)
    (moving : List RecordId) {line : Int} (near : Machine.IsSmall line) :
    searchTarget? boxes moving line = some (dropTarget boxes moving line) := by
  unfold searchTarget? dropTarget
  rw [RowBox.searchNearest?_eq_some small near, Option.bind_eq_bind, Option.bind_some]
  cases known : RowBox.nearest? line boxes with
  | none => rfl
  | some box =>
      have member : box ∈ boxes := (RowBox.nearest?_eq_some_iff.mp known).mem
      dsimp only
      split
      · rfl
      · rw [RowBox.middle?_eq_some (small box member)]
        rfl

end PagedTable
