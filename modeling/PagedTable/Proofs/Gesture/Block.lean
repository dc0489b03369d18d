import PagedTable.Proofs.Gesture.Stretch

/-! # Moves of one block

A move puts what it takes away back as one block, next to the first item with the
anchor's identifier. Identifiers may repeat, and the move may name some that no
item has. There is only one list that comes of it. -/

namespace PagedTable

namespace Placement

variable {α : Type} {moves : α → Bool} {anchor : α} {block : List α}

theorem filter_beside_block (placement : Placement) (moving : ∀ item ∈ block, moves item = true)
    (rests : moves anchor = false) : (placement.beside anchor block).filter moves = block := by
  have all := (Move.filter_of_moving moving).1
  cases placement with
  | before => simp [beside, all, rests]
  | after => simp [beside, all, rests]

theorem filter_beside_rest (placement : Placement) (moving : ∀ item ∈ block, moves item = true)
    (rests : moves anchor = false) :
    (placement.beside anchor block).filter (!moves ·) = [anchor] := by
  have none := (Move.filter_of_moving moving).2
  cases placement with
  | before => simp [beside, none, rests]
  | after => simp [beside, none, rests]

/-- Where all that moves is in the block, there is nothing around it but what rests. -/
theorem filter_around_beside (placement : Placement) {front back : List α}
    (moving : ∀ item ∈ block, moves item = true) (rests : moves anchor = false)
    (together : (front ++ placement.beside anchor block ++ back).filter moves = block) :
    (front ++ placement.beside anchor block ++ back).filter (!moves ·) =
      front ++ anchor :: back := by
  rw [List.filter_append, List.filter_append, filter_beside_block _ moving rests] at together
  have lengths := congrArg List.length together
  simp only [List.length_append] at lengths
  have frontNone : front.filter moves = [] := List.eq_nil_of_length_eq_zero (by omega)
  have backNone : back.filter moves = [] := List.eq_nil_of_length_eq_zero (by omega)
  have frontAll := (Move.filter_of_resting (by simpa [List.filter_eq_nil_iff] using frontNone)).2
  have backAll := (Move.filter_of_resting (by simpa [List.filter_eq_nil_iff] using backNone)).2
  rw [List.filter_append, List.filter_append, filter_beside_rest _ moving rests, frontAll,
    backAll, List.append_assoc]
  rfl

end Placement

namespace Move

variable {α : Type} {move : Move} {idOf : α → RecordId} {items moved : List α}

theorem find?_anchor_resting (stays : move.target.anchor ∉ move.ids) :
    (items.filter fun item => !move.ids.contains (idOf item)).find?
        (fun item => idOf item = move.target.anchor) =
      items.find? fun item => idOf item = move.target.anchor := by
  rw [List.find?_filter]
  congr 1
  funext item
  by_cases found : idOf item = move.target.anchor
  · simp [found, stays]
  · simp [found]

/-! ## What comes of a move -/

/-- Whether a list is what comes of a move: what moves and what rests have each
kept their order, and what moves stands next to the anchor as one block. -/
structure Places (move : Move) (idOf : α → RecordId) (items moved : List α) : Prop where
  perm : moved.Perm items
  moving : moved.filter (fun item => move.ids.contains (idOf item)) =
    items.filter fun item => move.ids.contains (idOf item)
  resting : moved.filter (fun item => !move.ids.contains (idOf item)) =
    items.filter fun item => !move.ids.contains (idOf item)
  block : ∃ front anchor back,
    items.find? (fun item => idOf item = move.target.anchor) = some anchor ∧
    (∀ item ∈ front, idOf item ≠ move.target.anchor) ∧
    moved = front ++
      move.target.placement.beside anchor
        (items.filter fun item => move.ids.contains (idOf item)) ++ back

theorem places_apply (stays : move.target.anchor ∉ move.ids)
    (known : move.target.anchor ∈ items.map idOf) :
    move.Places idOf items (move.apply idOf items) := by
  refine ⟨move.perm_apply idOf items, move.filter_apply_moving idOf items,
    move.filter_apply_rest idOf items, ?_⟩
  rcases exists_find?_anchor known with ⟨anchor, first⟩
  have firstResting := (find?_anchor_resting stays).trans first
  rcases find?_anchor_eq_some_iff.mp firstResting with ⟨front, back, split, found, absent⟩
  refine ⟨front, anchor, back, first, by simpa using absent, ?_⟩
  rw [apply, if_pos (applies_iff.mpr ⟨stays, known⟩), split, insertAt_beside found absent]

theorem Places.eq_apply (places : move.Places idOf items moved)
    (stays : move.target.anchor ∉ move.ids) : moved = move.apply idOf items := by
  rcases places.block with ⟨front, anchor, back, first, absent, split⟩
  have found : idOf anchor = move.target.anchor := by
    simpa using List.find?_some first
  have known : move.target.anchor ∈ items.map idOf :=
    List.mem_map.mpr ⟨anchor, List.mem_of_find?_eq_some first, found⟩
  -- the block has all that moves, so that what rests is what is around it
  have together := places.moving
  have resting := places.resting
  rw [split] at together resting
  rw [Placement.filter_around_beside _ (by simp) (by simpa [found] using stays) together]
    at resting
  rw [split, apply, if_pos (applies_iff.mpr ⟨stays, known⟩), ← resting,
    insertAt_beside found (by simpa using absent)]

/-- All that matters is which of the items in the list are named. -/
theorem apply_congr {others : List RecordId}
    (same : ∀ item ∈ items, idOf item ∈ others ↔ idOf item ∈ move.ids) :
    (Move.mk others move.target).apply idOf items = move.apply idOf items := by
  have applies : (Move.mk others move.target).applies (items.map idOf) =
      move.applies (items.map idOf) := by
    rw [Bool.eq_iff_iff, applies_iff, applies_iff]
    apply and_congr_left
    intro known
    rcases List.mem_map.mp known with ⟨item, member, found⟩
    exact not_congr (found ▸ same item member)
  have named : ∀ item ∈ items, others.contains (idOf item) = move.ids.contains (idOf item) := by
    intro item member
    simpa using same item member
  have moving := List.filter_congr named
  have resting := List.filter_congr fun item member => congrArg not (named item member)
  rw [apply, apply, applies, moving, resting]

/-- A move changes the order of the identifiers if it changes anything. -/
theorem changes_iff : move.changes idOf items = true ↔ move.apply idOf items ≠ items := by
  rw [changes, decide_eq_true_iff]
  exact not_congr ⟨apply_eq_self, congrArg (List.map idOf)⟩

/-- Whether a move moves what it names as one block, if it moves anything. -/
structure MovesBlock (move : Move) (idOf : α → RecordId) (items : List α) : Prop where
  refused : move.target.anchor ∈ move.ids ∨ move.target.anchor ∉ items.map idOf →
    move.apply idOf items = items ∧ move.changes idOf items = false
  places : move.target.anchor ∉ move.ids → move.target.anchor ∈ items.map idOf →
    ∀ moved, move.Places idOf items moved ↔ moved = move.apply idOf items
  congr : ∀ others : List RecordId,
    (∀ item ∈ items, idOf item ∈ others ↔ idOf item ∈ move.ids) →
      (Move.mk others move.target).apply idOf items = move.apply idOf items ∧
      (Move.mk others move.target).changes idOf items = move.changes idOf items
  changes : move.changes idOf items = true ↔ move.apply idOf items ≠ items

/-- A move whose anchor is missing or moves itself does nothing. Any other puts
what it names next to the anchor as one block, in whatever order it names them, and
it tells of a change where there is one. -/
theorem apply_moves_block (move : Move) (idOf : α → RecordId) (items : List α) :
    move.MovesBlock idOf items := by
  refine ⟨?_, ?_, ?_, changes_iff⟩
  · intro refused
    have same : move.apply idOf items = items := by
      apply apply_of_refused
      rw [Bool.eq_false_iff, Ne, applies_iff]
      rintro ⟨stays, known⟩
      exact refused.elim stays (absurd known)
    refine ⟨same, ?_⟩
    rw [Bool.eq_false_iff, Ne, changes_iff]
    exact not_not_intro same
  · intro stays known moved
    constructor
    · intro places
      exact places.eq_apply stays
    · rintro rfl
      exact places_apply stays known
  · intro others same
    have applied := apply_congr same
    exact ⟨applied, by rw [changes, changes, applied]⟩

/-- Two items have the anchor's identifier, the rows that move are on both sides of
the first, and two of these share an identifier as well. -/
theorem apply_moves_block_among_repeats :
    let move : Move := ⟨[.number 3, .number 9, .number 2], ⟨.number 1, .after⟩⟩
    let items : List (RecordId × String) :=
      [(.number 2, "a"), (.number 1, "b"), (.number 2, "c"), (.number 1, "d"), (.number 3, "e")]
    let moved : List (RecordId × String) :=
      [(.number 1, "b"), (.number 2, "a"), (.number 2, "c"), (.number 3, "e"), (.number 1, "d")]
    .number 1 ∉ move.ids ∧ .number 1 ∈ items.map Prod.fst ∧
      move.Places Prod.fst items moved ∧ move.changes Prod.fst items = true ∧
      (Move.mk [.number 2, .number 3] move.target).apply Prod.fst items = moved := by
  intro move items moved
  have stays : .number 1 ∉ move.ids := by decide
  have known : .number 1 ∈ items.map Prod.fst := by decide
  have outcome : moved = move.apply Prod.fst items := by decide
  have block := move.apply_moves_block Prod.fst items
  refine ⟨stays, known, (block.places stays known moved).mpr outcome, ?_, ?_⟩
  · rw [block.changes]
    decide
  · rw [outcome]
    exact (block.congr [.number 2, .number 3] (by decide)).1

end Move

end PagedTable
