import PagedTable.Proofs.Paging.Entries

/-! # The bar from end to end

Between its two ends a bar links to pages in ascending order, from the first to the last,
and puts dots where numbers are left out. It does not matter which part of the bar a number
comes from: the dots stand over the gaps between neighbours, and over nothing else. -/

namespace PagedTable

def PagerEntry.number? : PagerEntry → Option Nat
  | .page number _ => some number
  | _ => none

namespace Paging

/-! ## Links with dots over the gaps -/

def gap (showDots : Bool) (number : Nat) (next? : Option Nat) : List PagerEntry :=
  if next?.any (number + 1 < ·) ∧ showDots then [.dots] else []

/-- Links to pages. Dots, if they are shown at all, stand wherever neighbouring numbers
are not consecutive. -/
def spaced (paging : Paging) (showDots : Bool) : List Nat → List PagerEntry
  | [] => []
  | number :: rest =>
    paging.link number :: (gap showDots number rest.head? ++ paging.spaced showDots rest)

example : (spaced ⟨9, 5, 4, 6⟩ true [1, 4, 5, 6, 8]).map PagerEntry.label =
    ["1", "…", "4", "5", "6", "…", "8"] := by
  decide

section Spaced

variable (paging : Paging) (showDots : Bool)

/-- Two runs of links are joined by the gap between the numbers that meet. -/
theorem spaced_append (before : List Nat) (number next : Nat) (rest : List Nat) :
    paging.spaced showDots (before ++ number :: next :: rest) =
      paging.spaced showDots (before ++ [number]) ++ gap showDots number (some next) ++
        paging.spaced showDots (next :: rest) := by
  induction before with
  | nil => simp [spaced, gap]
  | cons head before induction =>
      have heads : (before ++ number :: next :: rest).head? = (before ++ [number]).head? := by
        cases before <;> rfl
      rw [List.cons_append, List.cons_append, spaced, spaced, heads, induction]
      simp

/-- Consecutive pages have no dots between them. -/
theorem spaced_range' (start length : Nat) :
    paging.spaced showDots (List.range' start length) =
      (List.range' start length).map paging.link := by
  induction length generalizing start with
  | zero => rfl
  | succ length induction =>
      rw [List.range'_succ, spaced, induction]
      cases length with
      | zero => simp [gap]
      | succ length => simp [List.range'_succ, gap]

theorem filterMap_spaced {α : Type} {read : PagerEntry → Option α} (skips : read .dots = none)
    (numbers : List Nat) :
    (paging.spaced showDots numbers).filterMap read =
      numbers.filterMap fun number => read (paging.link number) := by
  have nothing : ∀ number next?, (gap showDots number next?).filterMap read = [] := by
    intro number next?
    unfold gap
    split <;> simp [skips]
  induction numbers with
  | nil => rfl
  | cons number rest induction =>
      rw [spaced, List.filterMap_cons, List.filterMap_cons, List.filterMap_append, nothing,
        induction]
      rfl

theorem filterMap_number?_spaced (numbers : List Nat) :
    (paging.spaced showDots numbers).filterMap PagerEntry.number? = numbers := by
  rw [paging.filterMap_spaced showDots rfl]
  exact List.filterMap_some

theorem filter_isActive_spaced (numbers : List Nat) :
    (paging.spaced showDots numbers).filter PagerEntry.isActive =
      (numbers.filter (· = paging.current)).map paging.link := by
  rw [← List.filterMap_eq_filter, paging.filterMap_spaced showDots rfl, ← List.filterMap_eq_map,
    ← List.filterMap_eq_filter, List.filterMap_filterMap]
  congr 1
  funext number
  by_cases shown : number = paging.current
  · simp [link, PagerEntry.isActive, Option.guard, shown]
  · simp [link, PagerEntry.isActive, Option.guard, shown]

/-! ## The parts of a bar -/

theorem spaced_leading {pages : List Nat} (first : pages.head? = some paging.firstLink) :
    paging.spaced showDots ((if 1 < paging.firstLink then [1] else []) ++ pages) =
      paging.leading showDots ++ paging.spaced showDots pages := by
  unfold leading
  split
  · simp [spaced, gap, first]
  · rfl

theorem spaced_trailing {pages : List Nat} (last : pages.getLast? = some paging.lastLink) :
    paging.spaced showDots
        (pages ++ if paging.lastLink ≠ paging.pageCount then [paging.pageCount] else []) =
      paging.spaced showDots pages ++ paging.trailing showDots := by
  rcases List.getLast?_eq_some_iff.mp last with ⟨front, rfl⟩
  unfold trailing
  split
  · rw [List.append_assoc, List.singleton_append, spaced_append]
    simp [spaced, gap]
  · rw [List.append_nil, List.append_nil]

theorem spaced_links : paging.spaced showDots paging.links = paging.links.map paging.link :=
  paging.spaced_range' showDots _ _

end Spaced

/-! ## The numbers of a bar -/

def numbers (paging : Paging) : List Nat :=
  (if 1 < paging.firstLink then [1] else []) ++ paging.links ++
    if paging.lastLink ≠ paging.pageCount then [paging.pageCount] else []

theorem mem_numbers {paging : Paging} {number : Nat} :
    number ∈ paging.numbers ↔ paging.IsLinked number := by
  rw [numbers, IsLinked, List.mem_append, List.mem_append, List.mem_ite_nil_right,
    List.mem_ite_nil_right]
  simp only [List.mem_singleton]
  tauto

namespace WellPlaced

variable {paging : Paging} (placed : paging.WellPlaced)

include placed

theorem pairwise_numbers : paging.numbers.Pairwise (· < ·) := by
  have ordered : paging.links.Pairwise (· < ·) := List.pairwise_lt_range'
  have vacant := placed.vacant
  have surrounds := placed.surrounds
  have stops := placed.stops
  rw [numbers, List.pairwise_append, List.pairwise_append]
  refine ⟨⟨by split <;> simp, ordered, ?_⟩, by split <;> simp, ?_⟩
  · intro first firstMember number member
    rw [List.mem_ite_nil_right, List.mem_singleton] at firstMember
    have bounds := mem_links.mp member
    omega
  · intro number member last lastMember
    rw [List.mem_append, List.mem_ite_nil_right, List.mem_singleton, mem_links] at member
    rw [List.mem_ite_nil_right, List.mem_singleton] at lastMember
    omega

theorem one_mem_numbers (nonempty : paging.pageCount ≠ 0) : 1 ∈ paging.numbers := by
  have surrounds := placed.surrounds nonempty
  have starts := placed.starts
  rw [mem_numbers, IsLinked, mem_links]
  omega

theorem pageCount_mem_numbers (nonempty : paging.pageCount ≠ 0) :
    paging.pageCount ∈ paging.numbers := by
  have surrounds := placed.surrounds nonempty
  have stops := placed.stops
  rw [mem_numbers, IsLinked, mem_links]
  omega

/-- A bar is its links with dots over the gaps, between its two ends. -/
theorem bar_eq_spaced (showDots : Bool) :
    paging.bar showDots =
      .previous (paging.current ≤ 1) :: paging.spaced showDots paging.numbers ++
        [.next (paging.current = paging.pageCount ∨ paging.pageCount = 0)] := by
  have parts : paging.spaced showDots paging.numbers =
      paging.leading showDots ++ paging.links.map paging.link ++ paging.trailing showDots := by
    by_cases empty : paging.pageCount = 0
    · rcases placed.vacant empty with ⟨first, -⟩
      have last : paging.lastLink = 0 := Nat.le_zero.mp (empty ▸ placed.stops)
      simp [numbers, leading, trailing, links, Span.places, Span.length, first, last, empty, spaced]
    · have ordered := Nat.le_trans (placed.surrounds empty).1 (placed.surrounds empty).2
      rw [numbers, List.append_assoc, spaced_leading,
        spaced_trailing paging showDots (getLast?_links ordered), spaced_links, List.append_assoc]
      rw [List.head?_append, head?_links ordered]
      rfl
  rw [parts, bar]
  simp

theorem filterMap_number?_bar (showDots : Bool) :
    (paging.bar showDots).filterMap PagerEntry.number? = paging.numbers := by
  rw [placed.bar_eq_spaced, List.cons_append, List.filterMap_cons, List.filterMap_append,
    filterMap_number?_spaced]
  exact List.append_nil _

/-- One link is active, that to the current page. -/
theorem filter_isActive_bar (nonempty : paging.pageCount ≠ 0) (showDots : Bool) :
    (paging.bar showDots).filter PagerEntry.isActive = [.page paging.current true] := by
  have member : paging.current ∈ paging.numbers :=
    mem_numbers.mpr (Or.inl (mem_links.mpr (placed.surrounds nonempty)))
  have distinct : paging.numbers.Nodup := placed.pairwise_numbers.imp Nat.ne_of_lt
  have once : paging.numbers.filter (· = paging.current) = [paging.current] := by
    rw [List.filter_eq, List.count_eq_one_of_mem distinct member]
    rfl
  rw [placed.bar_eq_spaced, List.cons_append, List.filter_cons, List.filter_append,
    filter_isActive_spaced, once]
  simp [link, PagerEntry.isActive]

end WellPlaced

structure CompletesBar (paging : Paging) (showDots : Bool) (bar : List PagerEntry)
    (numbers : List Nat) : Prop where
  ends : ∃ first last : Bool,
    bar = .previous first :: paging.spaced showDots numbers ++ [.next last] ∧
      (first = true ↔ ¬∃ page, 1 ≤ page ∧ page < paging.current) ∧
      (last = true ↔ ¬∃ page, paging.current < page ∧ page ≤ paging.pageCount)
  ascending : numbers.Pairwise (· < ·)
  within : ∀ number ∈ numbers, 1 ≤ number ∧ number ≤ paging.pageCount
  first : paging.pageCount ≠ 0 → 1 ∈ numbers
  last : paging.pageCount ≠ 0 → paging.pageCount ∈ numbers
  links : paging.pageCount ≠ 0 → ∀ number ∈ paging.links, number ∈ numbers
  active : paging.pageCount ≠ 0 →
    bar.filter PagerEntry.isActive = [.page paging.current true]

/-- A bar links to pages in ascending order, among them the first, the last and those of
the window, and to the current one as the active one. Dots stand between two numbers
where, and only where, there are pages between them. -/
theorem bar_complete_and_ordered (total pageSize current maxLinks : Nat) (showDots : Bool) :
    let paging : Paging := paginate total pageSize current maxLinks
    let bar := paging.bar showDots
    CompletesBar paging showDots bar (bar.filterMap PagerEntry.number?) := by
  intro paging bar
  have placed : paging.WellPlaced := wellPlaced_paginate total pageSize current maxLinks
  have within : paging.current ≤ paging.pageCount :=
    current_paginate_le total pageSize current maxLinks
  rw [show bar.filterMap PagerEntry.number? = paging.numbers from
    placed.filterMap_number?_bar showDots]
  refine ⟨⟨_, _, placed.bar_eq_spaced showDots, ?_, ?_⟩, placed.pairwise_numbers, ?_,
    placed.one_mem_numbers, placed.pageCount_mem_numbers, ?_, ?_⟩
  · rw [decide_eq_true_iff]
    constructor
    · rintro first ⟨page, numbered, before⟩
      omega
    · intro nothing
      exact Nat.not_lt.mp fun later => nothing ⟨1, Nat.le_refl 1, later⟩
  · rw [decide_eq_true_iff]
    constructor
    · rintro last ⟨page, after, numbered⟩
      omega
    · intro nothing
      by_contra other
      exact nothing ⟨paging.pageCount, by omega, Nat.le_refl _⟩
  · exact fun number member => placed.within_of_isLinked (mem_numbers.mp member)
  · exact fun _ number member => mem_numbers.mpr (Or.inl member)
  · exact fun nonempty => placed.filter_isActive_bar nonempty showDots

/-- A window that lies next to the first page, so that there are dots on one side only. -/
theorem bar_complete_and_ordered_near_start :
    let paging := paginate 200 10 4 5
    let bar := paging.bar true
    let numbers := bar.filterMap PagerEntry.number?
    paging = ⟨20, 4, 2, 6⟩ ∧ numbers = [1, 2, 3, 4, 5, 6, 20] ∧
      paging.spaced true numbers =
        [.page 1 false, .page 2 false, .page 3 false, .page 4 true, .page 5 false,
          .page 6 false, .dots, .page 20 false] ∧
      (∃ first last : Bool,
        bar = .previous first :: paging.spaced true numbers ++ [.next last] ∧
          (first = true ↔ ¬∃ page, 1 ≤ page ∧ page < paging.current) ∧
          (last = true ↔ ¬∃ page, paging.current < page ∧ page ≤ paging.pageCount)) ∧
      numbers.Pairwise (· < ·) ∧ paging.pageCount ≠ 0 ∧
      bar.filter PagerEntry.isActive = [.page paging.current true] := by
  intro paging bar numbers
  have nonempty : paging.pageCount ≠ 0 := by decide
  have complete := bar_complete_and_ordered 200 10 4 5 true
  exact ⟨by decide, by decide, by decide, complete.ends, complete.ascending, nonempty,
    complete.active nonempty⟩

end Paging

end PagedTable
