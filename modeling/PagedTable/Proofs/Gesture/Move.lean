import PagedTable.Gesture.Move

/-! # Moves keep what there is

A move only takes items to another place: none is lost and none comes in. The
items that move keep their order, and so do the others, so that a move which
leaves the identifiers in place leaves the items in place as well. -/

namespace PagedTable

def Placement.beside {α : Type} (placement : Placement) (anchor : α) (block : List α) : List α :=
  match placement with
  | .before => block ++ [anchor]
  | .after => anchor :: block

namespace Move

variable {α : Type}

theorem perm_insertAt (target : Target) (idOf : α → RecordId) (block items : List α) :
    (insertAt target idOf block items).Perm (block ++ items) := by
  induction items with
  | nil =>
      rw [insertAt, List.append_nil]
  | cons item rest induction =>
      rw [insertAt]
      split
      · cases target.placement with
        | before => exact .refl _
        | after => exact List.perm_middle.symm
      · exact (induction.cons item).trans List.perm_middle.symm

theorem perm_apply (move : Move) (idOf : α → RecordId) (items : List α) :
    (move.apply idOf items).Perm items := by
  unfold apply
  split
  · have inserted := perm_insertAt move.target idOf
      (items.filter fun item => move.ids.contains (idOf item))
      (items.filter fun item => !move.ids.contains (idOf item))
    exact inserted.trans (List.filter_append_perm _ items)
  · exact .refl items

/-! ## Order -/

section

variable {moves : α → Bool} {items : List α}

theorem filter_of_moving (moving : ∀ item ∈ items, moves item = true) :
    items.filter moves = items ∧ items.filter (!moves ·) = [] :=
  ⟨List.filter_eq_self.mpr moving, List.filter_eq_nil_iff.mpr (by simpa using moving)⟩

theorem filter_of_resting (resting : ∀ item ∈ items, moves item = false) :
    items.filter moves = [] ∧ items.filter (!moves ·) = items :=
  ⟨List.filter_eq_nil_iff.mpr (by simpa using resting),
    List.filter_eq_self.mpr (by simpa using resting)⟩

end

theorem filter_insertAt_block (target : Target) (idOf : α → RecordId) (moves : α → Bool)
    {block items : List α} (moving : ∀ item ∈ block, moves item = true)
    (resting : ∀ item ∈ items, moves item = false) :
    (insertAt target idOf block items).filter moves = block := by
  have all := (filter_of_moving moving).1
  induction items with
  | nil => exact all
  | cons item rest induction =>
      have itemRests := resting item List.mem_cons_self
      have restRests := fun other member => resting other (List.mem_cons_of_mem item member)
      have none := (filter_of_resting restRests).1
      rw [insertAt]
      split
      · cases target.placement <;> simp [itemRests, all, none]
      · simpa [itemRests] using induction restRests

theorem filter_insertAt_rest (target : Target) (idOf : α → RecordId) (moves : α → Bool)
    {block items : List α} (moving : ∀ item ∈ block, moves item = true)
    (resting : ∀ item ∈ items, moves item = false) :
    (insertAt target idOf block items).filter (!moves ·) = items := by
  have none := (filter_of_moving moving).2
  induction items with
  | nil => exact none
  | cons item rest induction =>
      have itemRests := resting item List.mem_cons_self
      have restRests := fun other member => resting other (List.mem_cons_of_mem item member)
      have all := (filter_of_resting restRests).2
      rw [insertAt]
      split
      · cases target.placement <;> simp [itemRests, all, none]
      · simpa [itemRests] using induction restRests

theorem filter_apply_moving (move : Move) (idOf : α → RecordId) (items : List α) :
    (move.apply idOf items).filter (fun item => move.ids.contains (idOf item)) =
      items.filter fun item => move.ids.contains (idOf item) := by
  unfold apply
  split
  · apply filter_insertAt_block
    · simp
    · simp
  · rfl

theorem filter_apply_rest (move : Move) (idOf : α → RecordId) (items : List α) :
    (move.apply idOf items).filter (fun item => !move.ids.contains (idOf item)) =
      items.filter fun item => !move.ids.contains (idOf item) := by
  unfold apply
  split
  · apply filter_insertAt_rest
    · simp
    · simp
  · rfl

/-- Where some items of a list go is known from the identifiers. -/
theorem eq_of_map_eq_of_filter_eq {idOf : α → RecordId} (moves : RecordId → Bool)
    {first second : List α} (ids : first.map idOf = second.map idOf)
    (moving : first.filter (fun item => moves (idOf item)) =
      second.filter fun item => moves (idOf item))
    (rest : first.filter (fun item => !moves (idOf item)) =
      second.filter fun item => !moves (idOf item)) : first = second := by
  induction first generalizing second with
  | nil => exact (List.map_eq_nil_iff.mp ids.symm).symm
  | cons item first induction =>
      cases second with
      | nil => cases ids
      | cons other second =>
          have sameIds := List.cons.inj ids
          cases known : moves (idOf item) with
          | true =>
              simp [← sameIds.1, known] at moving rest
              rw [moving.1, induction sameIds.2 moving.2 rest]
          | false =>
              simp [← sameIds.1, known] at moving rest
              rw [rest.1, induction sameIds.2 moving rest.2]

theorem apply_eq_self {move : Move} {idOf : α → RecordId} {items : List α}
    (same : (move.apply idOf items).map idOf = items.map idOf) :
    move.apply idOf items = items :=
  eq_of_map_eq_of_filter_eq move.ids.contains same (move.filter_apply_moving idOf items)
    (move.filter_apply_rest idOf items)

theorem apply_of_refused {move : Move} {idOf : α → RecordId} {items : List α}
    (refused : move.applies (items.map idOf) = false) : move.apply idOf items = items := by
  rw [apply, refused]
  rfl

theorem apply_of_missing {move : Move} {idOf : α → RecordId} {items : List α}
    (missing : move.target.anchor ∉ items.map idOf) : move.apply idOf items = items := by
  apply apply_of_refused
  rw [applies, List.contains_eq_mem, List.contains_eq_mem, decide_eq_false missing,
    Bool.and_false]

/-! ## Identifiers -/

section

variable {β : Type} (idOf : β → RecordId) (read : α → β) (items : List α)

theorem map_insertAt (target : Target) (block : List α) :
    (insertAt target (fun item => idOf (read item)) block items).map read =
      insertAt target idOf (block.map read) (items.map read) := by
  induction items with
  | nil => rfl
  | cons item rest induction =>
      rw [insertAt, List.map_cons, insertAt]
      split
      · cases target.placement <;> simp
      · rw [List.map_cons, induction]

/-- A move goes by the identifiers, whatever else is kept with the items. -/
theorem map_apply_of (move : Move) :
    (move.apply (fun item => idOf (read item)) items).map read =
      move.apply idOf (items.map read) := by
  have ids : (items.map read).map idOf = items.map fun item => idOf (read item) :=
    List.map_map
  unfold apply
  rw [ids]
  split
  · rw [map_insertAt, List.filter_map, List.filter_map]
    rfl
  · rfl

end

theorem map_apply (move : Move) (idOf : α → RecordId) (items : List α) :
    (move.apply idOf items).map idOf = move.apply id (items.map idOf) :=
  map_apply_of id idOf items move

/-! ## The place of the block

A block goes next to the first item with the anchor's identifier. -/

section

variable {target : Target} {idOf : α → RecordId} {items front : List α} {anchor : α}

theorem find?_anchor_eq_some_iff :
    items.find? (fun item => idOf item = target.anchor) = some anchor ↔
      ∃ front back, items = front ++ anchor :: back ∧ idOf anchor = target.anchor ∧
        target.anchor ∉ front.map idOf := by
  rw [List.find?_eq_some_iff_append]
  constructor
  · rintro ⟨found, front, back, split, others⟩
    exact ⟨front, back, split, of_decide_eq_true found, by simpa using others⟩
  · rintro ⟨front, back, split, found, absent⟩
    exact ⟨decide_eq_true found, front, back, split, by simpa using absent⟩

theorem exists_find?_anchor (known : target.anchor ∈ items.map idOf) :
    ∃ anchor, items.find? (fun item => idOf item = target.anchor) = some anchor := by
  rcases List.mem_map.mp known with ⟨item, member, same⟩
  apply Option.isSome_iff_exists.mp
  rw [List.find?_isSome]
  exact ⟨item, member, decide_eq_true same⟩

theorem insertAt_append_of_not_mem (absent : target.anchor ∉ front.map idOf)
    (block items : List α) :
    insertAt target idOf block (front ++ items) = front ++ insertAt target idOf block items := by
  induction front with
  | nil => rfl
  | cons item rest induction =>
      have parts := List.ne_and_not_mem_of_not_mem_cons absent
      simp [insertAt, Ne.symm parts.1, induction parts.2]

theorem insertAt_beside (found : idOf anchor = target.anchor)
    (absent : target.anchor ∉ front.map idOf) (block back : List α) :
    insertAt target idOf block (front ++ anchor :: back) =
      front ++ target.placement.beside anchor block ++ back := by
  rw [insertAt_append_of_not_mem absent, insertAt, if_pos found]
  cases target.placement with
  | before => simp [Placement.beside]
  | after => simp [Placement.beside]

theorem insertAt_append_of_mem (known : target.anchor ∈ items.map idOf) (block back : List α) :
    insertAt target idOf block (items ++ back) = insertAt target idOf block items ++ back := by
  rcases exists_find?_anchor known with ⟨anchor, first⟩
  rcases find?_anchor_eq_some_iff.mp first with ⟨front, rest, rfl, found, absent⟩
  rw [List.append_assoc, List.cons_append, insertAt_beside found absent,
    insertAt_beside found absent, List.append_assoc _ rest]

end

end Move

end PagedTable
