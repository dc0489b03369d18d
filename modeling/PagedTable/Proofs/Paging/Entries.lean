import PagedTable.Paging.Bar
import PagedTable.Proofs.Drawn.Serial
import PagedTable.Proofs.Paging.Window

/-! # Entries of the pager bar

Different entries have different serial texts, so that a patched bar is the new
bar itself. The entries of a bar lead to pages that there are. -/

namespace PagedTable

/-! ## Numbers as texts -/

theorem toString_inj {first second : Nat} (same : toString first = toString second) :
    first = second := by
  rw [Nat.toString_eq_ofList_toDigits, Nat.toString_eq_ofList_toDigits, String.ofList_inj] at same
  rw [← @Nat.ofDigitChars_ten_toDigits first, same, Nat.ofDigitChars_ten_toDigits]

/-- A number is no text that holds anything but digits. -/
theorem toString_ne {text : String} {char : Char} (member : char ∈ text.toList)
    (other : char.isDigit = false) (number : Nat) : toString number ≠ text := by
  rintro rfl
  rw [Nat.toString_eq_ofList_toDigits, String.toList_ofList] at member
  have digit := Nat.isDigit_of_mem_toDigits (by decide) (by decide) member
  rw [other] at digit
  cases digit

/-! ## Told apart by serial texts -/

namespace PagerEntry

def state (entry : PagerEntry) : String :=
  if entry.isActive then "active" else if entry.isDisabled then "disabled" else ""

theorem toList_serial (entry : PagerEntry) :
    (serial entry).toList = entry.state.toList ++ '|' :: entry.label.toList := by
  change (entry.state ++ "|" ++ entry.label).toList = _
  rw [String.toList_append, String.toList_append, List.append_assoc]
  rfl

theorem bar_not_mem_state (entry : PagerEntry) : '|' ∉ entry.state.toList := by
  unfold state
  split
  · decide
  · split <;> decide

/-- The label of a link is unlike all other labels. -/
theorem label_ne_toString {entry : PagerEntry}
    (other : ∀ number active, entry ≠ .page number active) (number : Nat) :
    entry.label ≠ toString number := by
  apply Ne.symm
  cases entry with
  | previous disabled =>
      exact toString_ne (show '←' ∈ "← Prev".toList by decide) (by decide) number
  | page number active => exact absurd rfl (other number active)
  | dots => exact toString_ne (show '…' ∈ "…".toList by decide) (by decide) number
  | next disabled => exact toString_ne (show '→' ∈ "Next →".toList by decide) (by decide) number

theorem isActive_eq_of_state (entry : PagerEntry) :
    entry.isActive = decide (entry.state = "active") := by
  rcases entry with (_ | _) | ⟨_, _ | _⟩ | _ | (_ | _) <;> rfl

theorem isDisabled_eq_of_state (entry : PagerEntry) :
    entry.isDisabled = decide (entry.state = "disabled") := by
  rcases entry with (_ | _) | ⟨_, _ | _⟩ | _ | (_ | _) <;> rfl

theorem eq_of_label_eq {first second : PagerEntry} (labels : first.label = second.label)
    (active : first.isActive = second.isActive)
    (disabled : first.isDisabled = second.isDisabled) : first = second := by
  cases first <;> cases second
  case previous.previous => exact congrArg previous disabled
  case next.next => exact congrArg next disabled
  case dots.dots => rfl
  case page.page => exact congr (congrArg page (toString_inj labels)) active
  -- the kinds that are left have different labels
  case page.previous | page.dots | page.next =>
    exact absurd labels.symm (label_ne_toString (by simp) _)
  case previous.page | dots.page | next.page =>
    exact absurd labels (label_ne_toString (by simp) _)
  case previous.dots => exact absurd labels (show "← Prev" ≠ "…" by decide)
  case previous.next => exact absurd labels (show "← Prev" ≠ "Next →" by decide)
  case dots.previous => exact absurd labels (show "…" ≠ "← Prev" by decide)
  case dots.next => exact absurd labels (show "…" ≠ "Next →" by decide)
  case next.previous => exact absurd labels (show "Next →" ≠ "← Prev" by decide)
  case next.dots => exact absurd labels (show "Next →" ≠ "…" by decide)

/-- Different entries have different serial texts. -/
theorem eq_of_serial_eq {first second : PagerEntry} (same : serial first = serial second) :
    first = second := by
  have letters := congrArg String.toList same
  rw [toList_serial, toList_serial] at letters
  rcases append_cons_inj_of_not_mem first.bar_not_mem_state second.bar_not_mem_state letters with
    ⟨states, labels⟩
  rw [String.toList_inj] at states labels
  apply eq_of_label_eq labels
  · rw [isActive_eq_of_state, isActive_eq_of_state, states]
  · rw [isDisabled_eq_of_state, isDisabled_eq_of_state, states]

/-! ## Where entries lead -/

def LeadsTo : PagerEntry → Nat → Nat → Prop
  | .previous disabled, current, goal => disabled = false ∧ goal + 1 = current
  | .page number _, _, goal => goal = number
  | .dots, _, _ => False
  | .next disabled, current, goal => disabled = false ∧ goal = current + 1

end PagerEntry

namespace Paging

/-! ## Entries of a bar -/

def IsLinked (paging : Paging) (number : Nat) : Prop :=
  number ∈ paging.links ∨ number = 1 ∧ 1 < paging.firstLink ∨
    number = paging.pageCount ∧ paging.lastLink ≠ paging.pageCount

theorem mem_leading {paging : Paging} {showDots : Bool} {entry : PagerEntry}
    (member : entry ∈ paging.leading showDots) :
    entry = .dots ∨ ∃ number, entry = paging.link number ∧ paging.IsLinked number := by
  unfold leading at member
  split at member
  case isFalse => cases member
  case isTrue hidden =>
    rcases List.mem_cons.mp member with rfl | dots
    · exact Or.inr ⟨1, rfl, Or.inr (Or.inl ⟨rfl, hidden⟩)⟩
    · split at dots
      · exact Or.inl (List.mem_singleton.mp dots)
      · cases dots

theorem mem_trailing {paging : Paging} {showDots : Bool} {entry : PagerEntry}
    (member : entry ∈ paging.trailing showDots) :
    entry = .dots ∨ ∃ number, entry = paging.link number ∧ paging.IsLinked number := by
  unfold trailing at member
  split at member
  case isFalse => cases member
  case isTrue hidden =>
    rcases List.mem_append.mp member with dots | last
    · split at dots
      · exact Or.inl (List.mem_singleton.mp dots)
      · cases dots
    · exact Or.inr ⟨paging.pageCount, List.mem_singleton.mp last, Or.inr (Or.inr ⟨rfl, hidden⟩)⟩

theorem mem_bar {paging : Paging} {showDots : Bool} {entry : PagerEntry}
    (member : entry ∈ paging.bar showDots) :
    entry = .previous (paging.current ≤ 1) ∨
      entry = .next (paging.current = paging.pageCount ∨ paging.pageCount = 0) ∨
      entry = .dots ∨ ∃ number, entry = paging.link number ∧ paging.IsLinked number := by
  simp only [bar, List.mem_append, List.mem_singleton] at member
  rcases member with (((previous | leading) | window) | trailing) | next
  · exact Or.inl previous
  · exact Or.inr (Or.inr (mem_leading leading))
  · rcases List.mem_map.mp window with ⟨number, linked, rfl⟩
    exact Or.inr (Or.inr (Or.inr ⟨number, rfl, Or.inl linked⟩))
  · exact Or.inr (Or.inr (mem_trailing trailing))
  · exact Or.inr (Or.inl next)

/-- The links of a bar lead to pages that there are. -/
theorem WellPlaced.within_of_isLinked {paging : Paging} (placed : paging.WellPlaced)
    {number : Nat} (linked : paging.IsLinked number) :
    1 ≤ number ∧ number ≤ paging.pageCount := by
  have starts := placed.starts
  have stops := placed.stops
  have vacant := placed.vacant
  rw [IsLinked, mem_links] at linked
  omega

section Paginate

variable {total pageSize current maxLinks : Nat}

/-- An entry of a bar leads to a page that there is, unless it is disabled. -/
theorem exists_leadsTo {showDots : Bool} {entry : PagerEntry}
    (member : entry ∈ (paginate total pageSize current maxLinks).bar showDots)
    (enabled : entry.isDisabled = false) :
    ∃ goal, entry.LeadsTo (paginate total pageSize current maxLinks).current goal ∧
      1 ≤ goal ∧ goal ≤ (paginate total pageSize current maxLinks).pageCount := by
  have bound := current_paginate_le total pageSize current maxLinks
  rcases mem_bar member with rfl | rfl | rfl | ⟨number, rfl, linked⟩
  · have later := Nat.not_le.mp (of_decide_eq_false enabled)
    refine ⟨_, ⟨enabled, Nat.sub_add_cancel (Nat.le_of_lt later)⟩, ?_, ?_⟩ <;> omega
  · have earlier := of_decide_eq_false enabled
    refine ⟨_, ⟨enabled, rfl⟩, Nat.le_add_left 1 _, ?_⟩
    omega
  · cases enabled
  · exact ⟨number, rfl, (wellPlaced_paginate _ _ _ _).within_of_isLinked linked⟩

end Paginate

end Paging

end PagedTable
