import Mathlib.Data.List.Nodup
import PagedTable.Span

/-! # Parts of a list

What is seen of a list through a span is told by its places. A change in front of
the span or behind it is not seen, as long as the places stay the same. -/

namespace PagedTable.Span

theorem length_of {α : Type} {span : Span} {values : List α} (within : span.stop ≤ values.length) :
    (span.of values).length = span.length := by
  rw [of, List.length_drop, List.length_take, Nat.min_eq_left within]
  rfl

theorem map_of {α β : Type} (span : Span) (transform : α → β) (values : List α) :
    (span.of values).map transform = span.of (values.map transform) := by
  rw [of, List.map_drop, List.map_take, of]

theorem map_some_filterMap {α β : Type} {read : α → Option β} {values : List α}
    (known : ∀ value ∈ values, (read value).isSome = true) :
    (values.filterMap read).map some = values.map read := by
  induction values with
  | nil => rfl
  | cons value values induction =>
      have parts := List.forall_mem_cons.mp known
      rcases Option.isSome_iff_exists.mp parts.1 with ⟨result, found⟩
      simp [found, induction parts.2]

theorem mem_of_mem {α : Type} {span : Span} {values : List α} {value : α}
    (member : value ∈ span.of values) : value ∈ values :=
  List.mem_of_mem_take (List.mem_of_mem_drop member)

/-- Reading the values of a span is reading all values, as long as none is
passed over. -/
theorem filterMap_of {α β : Type} {span : Span} {read : α → Option β} {values : List α}
    (known : ∀ value ∈ values, (read value).isSome = true) :
    (span.of values).filterMap read = span.of (values.filterMap read) := by
  apply (List.map_inj_right fun _ _ => Option.some.inj).mp
  have seen : ∀ value ∈ span.of values, (read value).isSome = true :=
    fun value member => known value (mem_of_mem member)
  rw [map_some_filterMap seen, map_of, map_of, map_some_filterMap known]

/-! ## A span and what is around it -/

theorem of_range {span : Span} {total : Nat} (within : span.stop ≤ total) :
    span.of (List.range total) = span.places := by
  rw [of, List.take_range, Nat.min_eq_left within, List.range_eq_range', List.drop_range',
    Nat.mul_one, Nat.zero_add, places, length]

/-- A span that starts where a part of the list ends continues that part. -/
theorem take_append_of {α : Type} {span : Span} (ordered : span.start ≤ span.stop)
    (values : List α) : values.take span.start ++ span.of values = values.take span.stop := by
  have first : values.take span.start = (values.take span.stop).take span.start := by
    rw [List.take_take, Nat.min_eq_left ordered]
  rw [first, of, List.take_append_drop]

theorem take_append_of_append_drop {α : Type} {span : Span} (ordered : span.start ≤ span.stop)
    (values : List α) :
    values.take span.start ++ span.of values ++ values.drop span.stop = values := by
  rw [take_append_of ordered, List.take_append_drop]

theorem of_append {α : Type} (front middle back : List α) :
    (Span.mk front.length (front.length + middle.length)).of (front ++ middle ++ back) =
      middle := by
  rw [of, List.take_left' (List.length_append), List.drop_left]

theorem length_take_start {α : Type} {span : Span} {values : List α}
    (ordered : span.start ≤ span.stop) (within : span.stop ≤ values.length) :
    (values.take span.start).length = span.start := by
  rw [List.length_take, Nat.min_eq_left (Nat.le_trans ordered within)]

theorem not_mem_of_of_mem_take {α : Type} {span : Span} {values : List α} {value : α}
    (nodup : values.Nodup) (early : value ∈ values.take span.start) :
    value ∉ span.of values := by
  intro seen
  rw [of, List.drop_take] at seen
  exact List.disjoint_take_drop nodup (Nat.le_refl _) early (List.mem_of_mem_take seen)

theorem not_mem_of_of_mem_drop {α : Type} {span : Span} {values : List α} {value : α}
    (nodup : values.Nodup) (late : value ∈ values.drop span.stop) :
    value ∉ span.of values := by
  intro seen
  exact List.disjoint_take_drop nodup (Nat.le_refl _) (List.mem_of_mem_drop seen) late

/-! ## Places -/

theorem getElem?_of {α : Type} (span : Span) (values : List α) (place : Nat) :
    (span.of values)[place]? =
      if span.start + place < span.stop then values[span.start + place]? else none := by
  rw [of, List.getElem?_drop, List.getElem?_take]

theorem mem_of_iff {α : Type} {span : Span} {values : List α} {value : α} :
    value ∈ span.of values ↔
      ∃ place, span.start ≤ place ∧ place < span.stop ∧ values[place]? = some value := by
  rw [List.mem_iff_getElem?]
  constructor
  · rintro ⟨offset, known⟩
    rw [getElem?_of] at known
    split at known
    · next inside => exact ⟨span.start + offset, Nat.le_add_right _ _, inside, known⟩
    · cases known
  · rintro ⟨place, starts, stops, known⟩
    refine ⟨place - span.start, ?_⟩
    rw [getElem?_of, Nat.add_sub_cancel' starts, if_pos stops, known]

theorem of_congr {α : Type} {span : Span} {first second : List α}
    (same : ∀ place, span.start ≤ place → place < span.stop → first[place]? = second[place]?) :
    span.of first = span.of second := by
  apply List.ext_getElem?
  intro place
  rw [getElem?_of, getElem?_of]
  split
  · next inside => exact same _ (Nat.le_add_right _ _) inside
  · rfl

/-- What lies in front of a span may be replaced by as much. -/
theorem of_append_congr_left {α : Type} {span : Span} {front other back : List α}
    (same : other.length = front.length)
    (unseen : ∀ value ∈ span.of (front ++ back), value ∉ front) :
    span.of (other ++ back) = span.of (front ++ back) := by
  apply of_congr
  intro place starts stops
  by_cases early : place < front.length
  · have known : (front ++ back)[place]? = some front[place] := by
      rw [List.getElem?_append_left early, List.getElem?_eq_getElem early]
    exact absurd (List.getElem_mem early) (unseen _ (mem_of_iff.mpr ⟨place, starts, stops, known⟩))
  · rw [List.getElem?_append_right (by omega), List.getElem?_append_right (by omega), same]

/-- What lies behind a span may be replaced by as much. -/
theorem of_append_congr_right {α : Type} {span : Span} {front back other : List α}
    (same : other.length = back.length)
    (unseen : ∀ value ∈ span.of (front ++ back), value ∉ back) :
    span.of (front ++ other) = span.of (front ++ back) := by
  apply of_congr
  intro place starts stops
  by_cases early : place < front.length
  · rw [List.getElem?_append_left early, List.getElem?_append_left early]
  · rw [List.getElem?_append_right (by omega)]
    cases known : (front ++ back)[place]? with
    | none =>
        rw [List.getElem?_append_right (by omega), List.getElem?_eq_none_iff] at known
        exact List.getElem?_eq_none (by omega)
    | some value =>
        have seen := mem_of_iff.mpr ⟨place, starts, stops, known⟩
        rw [List.getElem?_append_right (by omega)] at known
        exact absurd (List.mem_of_getElem? known) (unseen _ seen)

/-- What is picked out of a list comes in the order of its places. -/
theorem pairwise_places_filter {α : Type} (values : List α) (picks : α × Nat → Bool) :
    ((values.zipIdx.filter picks).map Prod.snd).Pairwise (· < ·) := by
  have whole : (values.zipIdx.map Prod.snd).Pairwise (· < ·) := by
    rw [List.zipIdx_map_snd]
    exact List.pairwise_lt_range'
  exact whole.sublist (List.filter_sublist.map Prod.snd)

end PagedTable.Span
