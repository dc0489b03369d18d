import Mathlib.Algebra.Group.Nat.Defs
import Mathlib.Tactic.SplitIfs
import PagedTable.Proofs.Paging.Pages

/-! # The window of links

A window that does not hold all pages is as wide as it may be. The current page stands
in its middle, unless the first page or the last one is nearer than half its width: then
the window begins or ends there. So it moves along with the current page and holds it. -/

namespace PagedTable

namespace Paging

/-! ## Where a window starts -/

/-- The start of a window around the current page, moved as far as the first page and
the last one make it necessary. -/
def centredStart (pageCount current width : Nat) : Nat :=
  max 1 (min (current - width / 2) (pageCount - width + 1))

theorem window_eq (pageCount current width : Nat) :
    window pageCount current width =
      if pageCount ≤ width then (1, pageCount)
      else (centredStart pageCount current width,
        centredStart pageCount current width + width - 1) := by
  unfold window centredStart
  dsimp only
  split_ifs with whole left right
  · rfl
  -- the start is held back by the first page, by the last one, or by neither
  all_goals
    rw [Prod.mk.injEq]
    omega

theorem centredStart_mono {current later : Nat} (before : current ≤ later)
    (pageCount width : Nat) :
    centredStart pageCount current width ≤ centredStart pageCount later width := by
  unfold centredStart
  omega

theorem one_le_centredStart (pageCount current width : Nat) :
    1 ≤ centredStart pageCount current width :=
  Nat.le_max_left _ _

/-- A window that does not hold all pages ends no later than they do. -/
theorem centredStart_add_le {pageCount width : Nat} (hidden : width < pageCount) (current : Nat) :
    centredStart pageCount current width + width ≤ pageCount + 1 := by
  unfold centredStart
  omega

theorem centredStart_le {current : Nat} (numbered : 1 ≤ current) (pageCount width : Nat) :
    centredStart pageCount current width ≤ current := by
  unfold centredStart
  omega

/-- The window reaches as far as the current page. -/
theorem lt_centredStart_add {pageCount current width : Nat} (hidden : width < pageCount)
    (positive : 1 ≤ width) (within : current ≤ pageCount) :
    current < centredStart pageCount current width + width := by
  unfold centredStart
  omega

/-! ## Links around the current page -/

structure WellPlaced (paging : Paging) : Prop where
  starts : 1 ≤ paging.firstLink
  stops : paging.lastLink ≤ paging.pageCount
  surrounds : paging.pageCount ≠ 0 →
    paging.firstLink ≤ paging.current ∧ paging.current ≤ paging.lastLink
  vacant : paging.pageCount = 0 → paging.firstLink = 1 ∧ paging.current = 0

theorem mem_links {paging : Paging} {number : Nat} :
    number ∈ paging.links ↔ paging.firstLink ≤ number ∧ number ≤ paging.lastLink := by
  rw [links, Span.places, Span.length, List.mem_range'_1]
  dsimp only
  omega

theorem length_links (paging : Paging) :
    paging.links.length = paging.lastLink + 1 - paging.firstLink :=
  List.length_range'

theorem head?_links {paging : Paging} (ordered : paging.firstLink ≤ paging.lastLink) :
    paging.links.head? = some paging.firstLink := by
  rw [links, Span.places, Span.length, List.head?_range', if_neg (by dsimp only; omega)]

theorem getLast?_links {paging : Paging} (ordered : paging.firstLink ≤ paging.lastLink) :
    paging.links.getLast? = some paging.lastLink := by
  rw [links, Span.places, Span.length, List.getLast?_range', if_neg (by dsimp only; omega)]
  dsimp only
  congr 1
  omega

section Paginate

variable {total pageSize current maxLinks : Nat}

theorem paginate_of_le
    (whole : (paginate total pageSize current maxLinks).pageCount ≤ max maxLinks 1) :
    (paginate total pageSize current maxLinks).firstLink = 1 ∧
      (paginate total pageSize current maxLinks).lastLink =
        (paginate total pageSize current maxLinks).pageCount := by
  dsimp only [paginate] at whole ⊢
  rw [window_eq, if_pos whole]
  exact ⟨rfl, rfl⟩

theorem paginate_of_lt
    (hidden : max maxLinks 1 < (paginate total pageSize current maxLinks).pageCount) :
    (paginate total pageSize current maxLinks).firstLink =
        centredStart (paginate total pageSize current maxLinks).pageCount
          (paginate total pageSize current maxLinks).current (max maxLinks 1) ∧
      (paginate total pageSize current maxLinks).lastLink =
        (paginate total pageSize current maxLinks).firstLink + max maxLinks 1 - 1 := by
  dsimp only [paginate] at hidden ⊢
  rw [window_eq, if_neg (Nat.not_le.mpr hidden)]
  exact ⟨rfl, rfl⟩

theorem wellPlaced_paginate (total pageSize current maxLinks : Nat) :
    (paginate total pageSize current maxLinks).WellPlaced := by
  have within := current_paginate_le total pageSize current maxLinks
  have numbered : (paginate total pageSize current maxLinks).pageCount ≠ 0 →
      1 ≤ (paginate total pageSize current maxLinks).current := by
    dsimp only [paginate]
    omega
  have positive := Nat.le_max_right maxLinks 1
  rcases Nat.lt_or_ge (max maxLinks 1) (paginate total pageSize current maxLinks).pageCount with
    hidden | whole
  · rcases paginate_of_lt hidden with ⟨first, last⟩
    have starts := one_le_centredStart (paginate total pageSize current maxLinks).pageCount
      (paginate total pageSize current maxLinks).current (max maxLinks 1)
    have stops := centredStart_add_le hidden (paginate total pageSize current maxLinks).current
    have reaches := lt_centredStart_add hidden positive within
    have held := fun nonempty => centredStart_le (numbered nonempty)
      (paginate total pageSize current maxLinks).pageCount (max maxLinks 1)
    constructor <;> omega
  · rcases paginate_of_le whole with ⟨first, last⟩
    constructor <;> omega

end Paginate

structure CentresLinks (paging : Paging) (width total : Nat) (turned : Nat → Paging) : Prop where
  whole : paging.pageCount ≤ width → paging.firstLink = 1 ∧ paging.lastLink = paging.pageCount
  centred : width < paging.pageCount →
    (paging.firstLink : Int) =
        max 1 (min ((paging.current : Int) - (width : Int) / 2)
          ((paging.pageCount : Int) - width + 1)) ∧
      (paging.lastLink : Int) = paging.firstLink + width - 1
  within : ∀ number ∈ paging.links, 1 ≤ number ∧ number ≤ paging.pageCount
  length : paging.links.length = min width paging.pageCount
  current : paging.pageCount ≠ 0 → paging.current ∈ paging.links
  moves : ∀ later, paging.current ≤ (turned later).current →
    paging.firstLink ≤ (turned later).firstLink
  word : total < 2 ^ 63 → width < paging.pageCount → paging.firstLink + width < 2 ^ 64

/-- The links are those of the centred window, clamped to the pages there are. There are
as many as there may be, the current page is among them, and they move along with it. -/
theorem links_centred_on_current (total pageSize current maxLinks : Nat) :
    let paging : Paging := paginate total pageSize current maxLinks
    let width := max maxLinks 1
    CentresLinks paging width total fun later => paginate total pageSize later maxLinks := by
  intro paging width
  have placed : paging.WellPlaced := wellPlaced_paginate total pageSize current maxLinks
  have whole : paging.pageCount ≤ width →
      paging.firstLink = 1 ∧ paging.lastLink = paging.pageCount := paginate_of_le
  have clamped : width < paging.pageCount →
      paging.firstLink = centredStart paging.pageCount paging.current width ∧
        paging.lastLink = paging.firstLink + width - 1 := paginate_of_lt
  refine ⟨whole, ?_, ?_, ?_, ?_, ?_, ?_⟩
  · intro hidden
    rcases clamped hidden with ⟨first, last⟩
    rw [centredStart] at first
    omega
  · intro number member
    rcases mem_links.mp member with ⟨after, before⟩
    exact ⟨Nat.le_trans placed.starts after, Nat.le_trans before placed.stops⟩
  · rw [length_links]
    rcases Nat.lt_or_ge width paging.pageCount with hidden | fits
    · rcases clamped hidden with ⟨first, last⟩
      omega
    · rcases whole fits with ⟨first, last⟩
      omega
  · exact fun nonempty => mem_links.mpr (placed.surrounds nonempty)
  · intro later before
    rcases Nat.lt_or_ge width paging.pageCount with hidden | fits
    · have moved : (paginate total pageSize later maxLinks).firstLink =
          centredStart paging.pageCount (paginate total pageSize later maxLinks).current width :=
        And.left (paginate_of_lt hidden)
      rw [(clamped hidden).1, moved]
      exact centredStart_mono before paging.pageCount width
    · rw [(whole fits).1]
      exact (wellPlaced_paginate total pageSize later maxLinks).starts
  · intro short hidden
    have stops := centredStart_add_le hidden paging.current
    have pages : paging.pageCount ≤ total := countPages_le_total total pageSize
    rw [(clamped hidden).1]
    omega

/-- The first of the pages from which on the window stays at the end. -/
theorem links_centred_on_current_near_end :
    let paging := paginate 200 10 18 6
    let later := paginate 200 10 20 6
    paging = ⟨20, 18, 15, 20⟩ ∧ max 6 1 < paging.pageCount ∧
      (paging.firstLink : Int) = max 1 (min (18 - 6 / 2) (20 - 6 + 1)) ∧
      (paging.lastLink : Int) = paging.firstLink + 6 - 1 ∧
      paging.links.length = min 6 paging.pageCount ∧
      paging.current ∈ paging.links ∧ paging.current ≤ later.current ∧
      paging.firstLink ≤ later.firstLink ∧ paging.firstLink + 6 < 2 ^ 64 := by
  intro paging later
  have hidden : max 6 1 < paging.pageCount := by decide
  have before : paging.current ≤ later.current := by decide
  have links := links_centred_on_current 200 10 18 6
  exact ⟨by decide, hidden, (links.centred hidden).1, (links.centred hidden).2, links.length,
    links.current (by decide), before, links.moves 20 before, links.word (by decide) hidden⟩

end Paging

end PagedTable
