import PagedTable.Proofs.Gesture.Move
import PagedTable.Proofs.Span

/-! # Moves seen in part

Of a list in which rows are moved, only the places of a span are looked at. When
the anchor is among what is seen, the same move made in that part alone comes
to the same, unless the block brings rows from outside and the rows already
there have to make room for them. A move that keeps to one side of the span is
not seen at all. Of a filtered list, it is enough that the anchor passes. -/

namespace PagedTable

/-! ## Rows that come from outside

What comes from before the span shifts the rows in front of the block out of
it, and what comes from behind shifts out the rows after the block. -/

theorem Span.of_block_eq_iff {α : Type} {before front left inner right back after : List α}
    (nodup : (before ++ front ++ (left ++ inner ++ right) ++ back ++ after).Nodup) :
    (Span.mk (before.length + left.length)
        (before.length + left.length + (front ++ inner ++ back).length)).of
          (before ++ front ++ (left ++ inner ++ right) ++ back ++ after) =
        front ++ inner ++ back ↔
      (left = [] ∨ front = []) ∧ (right = [] ∨ back = []) := by
  constructor
  · intro same
    refine ⟨?_, ?_⟩
    · by_contra crowded
      rcases not_or.mp crowded with ⟨comes, shifted⟩
      rcases List.exists_cons_of_ne_nil comes with ⟨newcomer, others, rfl⟩
      rcases List.exists_cons_of_ne_nil shifted with ⟨row, rest, rfl⟩
      have seen : row ∈ row :: rest ++ inner ++ back := by simp
      rw [← same] at seen
      refine Span.not_mem_of_of_mem_take nodup ?_ seen
      simp only [List.append_assoc, List.cons_append, List.take_length_add_append]
      simp
    · by_contra crowded
      rcases not_or.mp crowded with ⟨comes, shifted⟩
      rcases List.exists_cons_of_ne_nil comes with ⟨newcomer, others, rfl⟩
      rcases (List.eq_nil_or_concat' back).resolve_left shifted with ⟨rest, row, rfl⟩
      have seen : row ∈ front ++ inner ++ (rest ++ [row]) := by simp
      rw [← same] at seen
      refine Span.not_mem_of_of_mem_drop nodup ?_ seen
      have split : before ++ front ++ (left ++ inner ++ newcomer :: others) ++ (rest ++ [row]) ++
          after = before ++ front ++ (left ++ inner ++ newcomer :: others) ++ rest ++
            row :: after := by
        simp
      rw [split, List.drop_append_of_le_length]
      · simp
      · simp
        omega
  · rintro ⟨leftEmpty | frontEmpty, rightEmpty | backEmpty⟩
    · subst leftEmpty rightEmpty
      simpa using Span.of_append before (front ++ inner ++ back) after
    · subst leftEmpty backEmpty
      simpa using Span.of_append before (front ++ inner) (right ++ after)
    · subst frontEmpty rightEmpty
      simpa using Span.of_append (before ++ left) (inner ++ back) after
    · subst frontEmpty backEmpty
      simpa using Span.of_append (before ++ left) inner (right ++ after)

namespace Move

/-! ## The place of the block

Where a block goes depends on the list alone. It goes in front of all rows or
behind them only next to the first or the last. -/

theorem exists_place {target : Target} {items : List RecordId} (nodup : items.Nodup)
    (known : target.anchor ∈ items) :
    ∃ front back, items = front ++ back ∧
      (∀ block, insertAt target id block items = front ++ block ++ back) ∧
      (front = [] ↔ target.placement = .before ∧ items.head? = some target.anchor) ∧
      (back = [] ↔ target.placement = .after ∧ items.getLast? = some target.anchor) := by
  have listed : target.anchor ∈ items.map id := by rwa [List.map_id]
  rcases exists_find?_anchor listed with ⟨anchor, first⟩
  rcases find?_anchor_eq_some_iff.mp first with ⟨front, back, rfl, found, absent⟩
  have place : anchor = target.anchor := found
  subst place
  have heads : front = [] ↔ (front ++ target.anchor :: back).head? = some target.anchor := by
    cases front with
    | nil => simp
    | cons other front => simpa [eq_comm] using List.ne_of_not_mem_cons absent
  have ends : back = [] ↔ (front ++ target.anchor :: back).getLast? = some target.anchor := by
    cases back with
    | nil => simp
    | cons next back =>
        have later : target.anchor ∉ next :: back :=
          (List.nodup_cons.mp nodup.of_append_right).1
        have different : (next :: back).getLast? ≠ some target.anchor :=
          fun last => later (List.mem_of_mem_getLast? last)
        simpa using different
  cases placement : target.placement with
  | before =>
      refine ⟨front, target.anchor :: back, rfl, ?_, by simpa using heads, by simp⟩
      intro block
      rw [insertAt_beside found absent, placement]
      simp [Placement.beside]
  | after =>
      refine ⟨front ++ [target.anchor], back, by simp, ?_, by simp, by simpa using ends⟩
      intro block
      rw [insertAt_beside found absent, placement]
      simp [Placement.beside]

/-! ## Moves whose anchor is seen -/

def moving (move : Move) (items : List RecordId) : List RecordId :=
  items.filter (move.ids.contains ·)

def resting (move : Move) (items : List RecordId) : List RecordId :=
  items.filter (!move.ids.contains ·)

def Heads (move : Move) (items : List RecordId) : Prop :=
  move.target.placement = .before ∧ (move.resting items).head? = some move.target.anchor

def Ends (move : Move) (items : List RecordId) : Prop :=
  move.target.placement = .after ∧ (move.resting items).getLast? = some move.target.anchor

theorem moving_eq_nil_iff {move : Move} {items : List RecordId} :
    move.moving items = [] ↔ ∀ item ∈ items, item ∉ move.ids := by
  simp [moving, List.filter_eq_nil_iff]

theorem length_moving_add_resting (move : Move) (items : List RecordId) :
    (move.moving items).length + (move.resting items).length = items.length :=
  (List.length_eq_length_filter_add _).symm

theorem applies_iff {move : Move} {items : List RecordId} :
    move.applies items = true ↔ move.target.anchor ∉ move.ids ∧ move.target.anchor ∈ items := by
  simp [applies]

theorem apply_of_applies {move : Move} {items : List RecordId}
    (applies : move.applies items = true) :
    move.apply id items =
      insertAt move.target id (move.moving items) (move.resting items) := by
  rw [apply, List.map_id, applies]
  rfl

theorem applies_append {move : Move} {items : List RecordId} (applies : move.applies items = true)
    (before after : List RecordId) : move.applies (before ++ items ++ after) = true := by
  have parts := applies_iff.mp applies
  exact applies_iff.mpr ⟨parts.1, by simp [parts.2]⟩

theorem exists_apply_append {move : Move} {items : List RecordId} (nodup : items.Nodup)
    (applies : move.applies items = true) {before : List RecordId}
    (absent : move.target.anchor ∉ before) (after : List RecordId) :
    ∃ front back, move.resting items = front ++ back ∧ (front = [] ↔ move.Heads items) ∧
      (back = [] ↔ move.Ends items) ∧
      move.apply id items = front ++ move.moving items ++ back ∧
      move.apply id (before ++ items ++ after) =
        move.resting before ++ front ++
          (move.moving before ++ move.moving items ++ move.moving after) ++ back ++
          move.resting after := by
  have known : move.target.anchor ∈ move.resting items := by
    simpa [resting, and_comm] using applies_iff.mp applies
  have stillAbsent : move.target.anchor ∉ move.resting before :=
    fun member => absent (List.mem_of_mem_filter member)
  have restingNodup : (move.resting items).Nodup := nodup.filter _
  rcases exists_place restingNodup known with ⟨front, back, split, insert, heads, ends⟩
  refine ⟨front, back, split, heads, ends, ?_, ?_⟩
  · rw [apply_of_applies applies, insert]
  · have parts : move.resting (before ++ items ++ after) =
        move.resting before ++ (move.resting items ++ move.resting after) := by
      simp [resting]
    rw [apply_of_applies (applies_append applies before after), parts,
      insertAt_append_of_not_mem (by rwa [List.map_id]),
      insertAt_append_of_mem (by rwa [List.map_id]), insert]
    simp [moving]

/-- The move as seen through a span is the move of what is seen, but for rows
that come from outside and push out others. -/
theorem of_apply_eq_iff {move : Move} {span : Span} {values : List RecordId}
    (nodup : values.Nodup) (ordered : span.start ≤ span.stop)
    (within : span.stop ≤ values.length) (applies : move.applies (span.of values) = true) :
    span.of (move.apply id values) = move.apply id (span.of values) ↔
      ((∀ value ∈ values.take span.start, value ∉ move.ids) ∨ move.Heads (span.of values)) ∧
      ((∀ value ∈ values.drop span.stop, value ∉ move.ids) ∨ move.Ends (span.of values)) := by
  have whole := Span.take_append_of_append_drop ordered values
  have startLength := Span.length_take_start ordered within
  have spanLength := Span.length_of within
  have seen : move.target.anchor ∈ span.of values := (applies_iff.mp applies).2
  have absent : move.target.anchor ∉ values.take span.start :=
    fun early => Span.not_mem_of_of_mem_take nodup early seen
  have seenNodup : (span.of values).Nodup := by
    rw [← whole] at nodup
    exact nodup.of_append_left.of_append_right
  rcases exists_apply_append seenNodup applies absent (values.drop span.stop) with
    ⟨front, back, rest, heads, ends, inner, outer⟩
  rw [whole] at outer
  have moved : (move.apply id values).Nodup := (move.perm_apply id values).nodup_iff.mpr nodup
  have startParts := move.length_moving_add_resting (values.take span.start)
  have innerLength := ((move.perm_apply id (span.of values)).length_eq)
  rw [outer] at moved
  have place : span = Span.mk
      ((move.resting (values.take span.start)).length +
        (move.moving (values.take span.start)).length)
      ((move.resting (values.take span.start)).length +
        (move.moving (values.take span.start)).length +
        (front ++ move.moving (span.of values) ++ back).length) := by
    rw [← inner, innerLength, spanLength, Nat.add_comm (move.resting _).length, startParts,
      startLength, Span.length, Nat.add_sub_cancel' ordered]
  rw [← moving_eq_nil_iff, ← moving_eq_nil_iff, ← heads, ← ends, ← Span.of_block_eq_iff moved,
    ← place, ← outer, inner]

/-! ## Moves within one part

What stands in front of all that takes part in a move stays as it is, and so
does what stands behind. -/

section

variable {α : Type} {move : Move} {idOf : α → RecordId} {front back : List α}

theorem mem_resting_of_applies {items : List α} (applies : move.applies (items.map idOf) = true) :
    move.target.anchor ∈ (items.filter fun item => !move.ids.contains (idOf item)).map idOf := by
  have parts := applies_iff.mp applies
  rcases List.mem_map.mp parts.2 with ⟨item, member, same⟩
  exact List.mem_map.mpr ⟨item, List.mem_filter.mpr ⟨member, by simpa [same] using parts.1⟩, same⟩

theorem apply_append_of_front (applies : move.applies (front.map idOf) = true)
    (stays : ∀ item ∈ back, idOf item ∉ move.ids) :
    move.apply idOf (front ++ back) = move.apply idOf front ++ back := by
  have whole : move.applies ((front ++ back).map idOf) = true := by
    rw [List.map_append]
    exact applies_append applies [] _
  have rests : ∀ item ∈ back, move.ids.contains (idOf item) = false := by simpa using stays
  rcases filter_of_resting rests with ⟨none, all⟩
  rw [apply, if_pos whole, apply, if_pos applies, List.filter_append, List.filter_append, none,
    all, List.append_nil, insertAt_append_of_mem (mem_resting_of_applies applies)]

theorem apply_append_of_back (applies : move.applies (back.map idOf) = true)
    (stays : ∀ item ∈ front, idOf item ∉ move.ids)
    (absent : move.target.anchor ∉ front.map idOf) :
    move.apply idOf (front ++ back) = front ++ move.apply idOf back := by
  have whole : move.applies ((front ++ back).map idOf) = true := by
    have parts := applies_iff.mp applies
    exact applies_iff.mpr ⟨parts.1, by rw [List.map_append]; exact List.mem_append_right _ parts.2⟩
  have rests : ∀ item ∈ front, move.ids.contains (idOf item) = false := by simpa using stays
  rcases filter_of_resting rests with ⟨none, all⟩
  rw [apply, if_pos whole, apply, if_pos applies, List.filter_append, List.filter_append, none,
    all, List.nil_append, insertAt_append_of_not_mem absent]

end

/-! ## Moves seen through a filter

A filter that lets the anchor pass lets the move pass as well. -/

theorem filter_insertAt {α : Type} {target : Target} {idOf : α → RecordId} {passes : α → Bool}
    {items : List α} (anchor : ∀ item ∈ items, idOf item = target.anchor → passes item = true)
    (block : List α) :
    (insertAt target idOf block items).filter passes =
      insertAt target idOf (block.filter passes) (items.filter passes) := by
  induction items with
  | nil => rfl
  | cons item rest induction =>
      have later := induction fun other member => anchor other (List.mem_cons_of_mem item member)
      by_cases found : idOf item = target.anchor
      · have known := anchor item List.mem_cons_self found
        cases placement : target.placement <;> simp [insertAt, found, placement, known]
      · cases known : passes item <;> simp [insertAt, found, known, later]

theorem applies_filter {α : Type} {move : Move} {idOf : α → RecordId} {passes : α → Bool}
    {items : List α}
    (anchor : ∀ item ∈ items, idOf item = move.target.anchor → passes item = true) :
    move.applies ((items.filter passes).map idOf) = move.applies (items.map idOf) := by
  have known : move.target.anchor ∈ (items.filter passes).map idOf ↔
      move.target.anchor ∈ items.map idOf := by
    constructor
    · exact fun member => (List.filter_sublist.map idOf).subset member
    · intro member
      rcases List.mem_map.mp member with ⟨item, listed, same⟩
      exact List.mem_map.mpr ⟨item, List.mem_filter.mpr ⟨listed, anchor item listed same⟩, same⟩
  rw [Bool.eq_iff_iff, applies_iff, applies_iff, known]

theorem filter_apply {α : Type} {move : Move} {idOf : α → RecordId} {passes : α → Bool}
    {items : List α}
    (anchor : ∀ item ∈ items, idOf item = move.target.anchor → passes item = true) :
    (move.apply idOf items).filter passes = move.apply idOf (items.filter passes) := by
  have stays : ∀ item ∈ items.filter fun item => !move.ids.contains (idOf item),
      idOf item = move.target.anchor → passes item = true :=
    fun item member => anchor item (List.mem_of_mem_filter member)
  unfold apply
  rw [applies_filter anchor]
  split
  · rw [filter_insertAt stays, List.filter_comm passes, List.filter_comm passes]
  · rfl

end Move

end PagedTable
