import PagedTable.Paging.Window
import PagedTable.Proofs.Span

/-! # Pages of a list

The current page is one of the pages there are, so that choosing it again
changes nothing, and the places of a page lie within the list. -/

namespace PagedTable

namespace Paging

/-! ## The number of pages -/

theorem max_one_pos (pageSize : Nat) : 0 < max pageSize 1 :=
  Nat.lt_of_lt_of_le Nat.zero_lt_one (Nat.le_max_right pageSize 1)

theorem countPages_le_iff {total pageSize count : Nat} :
    countPages total pageSize ≤ count ↔ total ≤ count * max pageSize 1 := by
  rw [countPages, Nat.div_le_iff_le_mul_add_pred (max_one_pos pageSize), Nat.mul_comm]
  omega

theorem lt_countPages_iff {total pageSize page : Nat} :
    page < countPages total pageSize ↔ page * max pageSize 1 < total := by
  rw [← Nat.not_le, countPages_le_iff, Nat.not_le]

theorem countPages_eq_zero_iff {total pageSize : Nat} :
    countPages total pageSize = 0 ↔ total = 0 := by
  rw [← Nat.le_zero, countPages_le_iff, Nat.zero_mul, Nat.le_zero]

theorem countPages_le_total (total pageSize : Nat) : countPages total pageSize ≤ total :=
  countPages_le_iff.mpr (Nat.le_mul_of_pos_right total (max_one_pos pageSize))

/-! ## The current page -/

theorem current_paginate (total pageSize current maxLinks : Nat) :
    (paginate total pageSize current maxLinks).current =
      min (max current 1) (countPages total pageSize) := rfl

theorem current_paginate_eq_zero_iff {total pageSize current maxLinks : Nat} :
    (paginate total pageSize current maxLinks).current = 0 ↔ total = 0 := by
  have count : countPages total pageSize = 0 ↔ total = 0 := countPages_eq_zero_iff
  rw [current_paginate]
  omega

theorem current_paginate_le (total pageSize current maxLinks : Nat) :
    (paginate total pageSize current maxLinks).current ≤
      (paginate total pageSize current maxLinks).pageCount :=
  Nat.min_le_right _ _

theorem paginate_current (total pageSize current maxLinks : Nat) :
    paginate total pageSize (paginate total pageSize current maxLinks).current maxLinks =
      paginate total pageSize current maxLinks := by
  have clamped : min (max (min (max current 1) (countPages total pageSize)) 1)
      (countPages total pageSize) = min (max current 1) (countPages total pageSize) := by
    omega
  simp only [paginate, clamped]

/-! ## The places of a page -/

theorem start_pageSpan_le (total pageSize page : Nat) :
    (pageSpan total pageSize page).start ≤ (pageSpan total pageSize page).stop := by
  unfold pageSpan
  split
  · exact Nat.le_refl 0
  · dsimp only
    omega

theorem stop_pageSpan_le (total pageSize page : Nat) :
    (pageSpan total pageSize page).stop ≤ total := by
  unfold pageSpan
  split
  · exact Nat.zero_le total
  · exact Nat.min_le_right _ total

end Paging

end PagedTable
