import Mathlib.Data.Rat.Floor
import PagedTable.Proofs.Paging.Pages

/-! # A list and its pages

The pages of a list follow one another without a gap. Put together they are the
list, whatever its length and the size of a page; all but the last are full, and
the last is not empty. -/

namespace PagedTable

namespace Paging

/-! ## The number of pages -/

theorem countPages_eq_ceil (total pageSize : Nat) :
    countPages total pageSize = ⌈(total : ℚ) / (max pageSize 1 : Nat)⌉₊ := by
  have positive : (0 : ℚ) < (max pageSize 1 : Nat) := Nat.cast_pos.mpr (max_one_pos pageSize)
  apply eq_of_forall_ge_iff
  intro count
  rw [countPages_le_iff, Nat.ceil_le, div_le_iff₀ positive, ← Nat.cast_mul, Nat.cast_le]

/-! ## Where pages start and stop -/

theorem start_pageSpan_succ (total pageSize page : Nat) :
    (pageSpan total pageSize (page + 1)).start = min (page * max pageSize 1) total := by
  rw [pageSpan, if_neg (Nat.succ_ne_zero page), Nat.add_sub_cancel]

theorem stop_pageSpan_succ (total pageSize page : Nat) :
    (pageSpan total pageSize (page + 1)).stop = min ((page + 1) * max pageSize 1) total := by
  rw [pageSpan, if_neg (Nat.succ_ne_zero page), Nat.add_sub_cancel, Nat.succ_mul]
  dsimp only
  omega

/-- Neither the start of a page nor its stop, before it is cut off at the end of
the list, leaves a machine word. -/
theorem stop_lt_word {total pageSize page : Nat} (short : total < 2 ^ 63)
    (word : pageSize < 2 ^ 64) (within : page < countPages total pageSize) :
    page * max pageSize 1 + max pageSize 1 < 2 ^ 64 := by
  have before := lt_countPages_iff.mp within
  rcases Nat.eq_zero_or_pos page with rfl | positive
  · omega
  · -- with a page in front of it, no page is longer than the list
    have one := Nat.le_mul_of_pos_left (max pageSize 1) positive
    omega

/-- The first pages of a list are its front. -/
theorem flatMap_of_pageSpan {α : Type} (values : List α) (pageSize count : Nat) :
    (List.range' 1 count).flatMap (fun page => (pageSpan values.length pageSize page).of values) =
      values.take (count * max pageSize 1) := by
  induction count with
  | zero => simp
  | succ count induction =>
      have front : values.take (count * max pageSize 1) =
          values.take (pageSpan values.length pageSize (count + 1)).start := by
        rw [start_pageSpan_succ, ← List.take_take, List.take_length]
      have whole : values.take ((count + 1) * max pageSize 1) =
          values.take (pageSpan values.length pageSize (count + 1)).stop := by
        rw [stop_pageSpan_succ, ← List.take_take, List.take_length]
      rw [List.range'_1_concat, List.flatMap_append, List.flatMap_singleton, induction, front,
        whole, Nat.add_comm 1 count]
      exact Span.take_append_of (start_pageSpan_le _ _ _) values

/-- The pages of a list are the list. -/
theorem flatMap_of_pageSpan_eq_self {α : Type} (values : List α) (pageSize : Nat) :
    (List.range' 1 (countPages values.length pageSize)).flatMap
        (fun page => (pageSpan values.length pageSize page).of values) =
      values := by
  rw [flatMap_of_pageSpan]
  exact List.take_of_length_le (countPages_le_iff.mp (Nat.le_refl _))

/-! ## Pages that are numbered from one -/

/-- Whether a list of a given length falls into a number of pages, all of one
size but for the last. -/
structure Cuts (total size count : Nat) (span : Nat → Span) : Prop where
  nonempty : ∀ page, 1 ≤ page → page ≤ count → (span page).start < (span page).stop
  consecutive : ∀ page, 1 ≤ page → page < count → (span page).stop = (span (page + 1)).start
  full : ∀ page, 1 ≤ page → page < count → (span page).length = size
  covers : (List.range' 1 count).flatMap (fun page => (span page).places) = List.range total

theorem cuts_pageSpan (total pageSize : Nat) :
    Cuts total (max pageSize 1) (countPages total pageSize) (pageSpan total pageSize) := by
  have positive := max_one_pos pageSize
  -- a page with a successor stops where that one starts, before the end of the list
  have stops : ∀ page, 1 ≤ page → page < countPages total pageSize →
      (pageSpan total pageSize page).stop = page * max pageSize 1 ∧
        page * max pageSize 1 < total := by
    intro page numbered within
    have before := lt_countPages_iff.mp within
    obtain ⟨page, rfl⟩ := Nat.exists_eq_add_one.mpr numbered
    rw [stop_pageSpan_succ]
    exact ⟨Nat.min_eq_left before.le, before⟩
  constructor
  · intro page numbered within
    obtain ⟨page, rfl⟩ := Nat.exists_eq_add_one.mpr numbered
    have before := lt_countPages_iff.mp within
    rw [start_pageSpan_succ, stop_pageSpan_succ, Nat.succ_mul]
    omega
  · intro page numbered within
    rcases stops page numbered within with ⟨stop, before⟩
    rw [stop, start_pageSpan_succ, Nat.min_eq_left before.le]
  · intro page numbered within
    rcases stops page numbered within with ⟨stop, before⟩
    obtain ⟨page, rfl⟩ := Nat.exists_eq_add_one.mpr numbered
    rw [Nat.succ_mul] at stop before
    rw [Span.length, stop, start_pageSpan_succ]
    omega
  · have pages := flatMap_of_pageSpan_eq_self (List.range total) pageSize
    rw [List.length_range] at pages
    rw [← pages]
    congr 1
    funext page
    exact (Span.of_range (stop_pageSpan_le total pageSize page)).symm

theorem current_paginate_clamped {total : Nat} (nonempty : total ≠ 0)
    (pageSize current maxLinks : Nat) :
    (paginate total pageSize current maxLinks).current =
      max 1 (min current (paginate total pageSize current maxLinks).pageCount) := by
  have some : countPages total pageSize ≠ 0 := mt countPages_eq_zero_iff.mp nonempty
  have count : (paginate total pageSize current maxLinks).pageCount =
      countPages total pageSize := rfl
  rw [current_paginate, count]
  omega

end Paging

end PagedTable
