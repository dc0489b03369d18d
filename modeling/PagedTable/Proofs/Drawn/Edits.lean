import Mathlib.Data.List.Basic
import PagedTable.Proofs.Drawn.Patch

/-! # Edits of a list

What a patch reports holds each edit that is due once, in a fixed order. Made
one after the other in a copy of the old list, these edits come to the same list
as the patch. -/

namespace PagedTable

variable {α : Type}

/-! ## Single edits -/

namespace Edit

def next : Edit → Edit
  | .replaced place => .replaced (place + 1)
  | .appended place => .appended (place + 1)
  | .removed place => .removed (place + 1)

/-- Makes an edit in a list. New elements come from another list, and an edit
that does not fit the list fails. -/
def make? (new shown : List α) : Edit → Option (List α)
  | .replaced place =>
    if place < shown.length then new[place]?.map (shown.set place) else none
  | .appended place =>
    if place = shown.length then new[place]?.map fun fresh => shown ++ [fresh] else none
  | .removed place =>
    if place < shown.length then some (shown.eraseIdx place) else none

def Due [Serial α] (old new : List α) : Edit → Prop
  | .replaced place =>
    ∃ head ∈ old[place]?, ∃ fresh ∈ new[place]?, serial head ≠ serial fresh
  | .appended place => old.length ≤ place ∧ place < new.length
  | .removed place => new.length ≤ place ∧ place < old.length

/-- Replacements come first, then what is appended, each from the start of the
list, and at last what is removed, from its end. -/
def Precedes : Edit → Edit → Prop
  | .replaced first, .replaced second => first < second
  | .replaced _, _ => True
  | .appended first, .appended second => first < second
  | .appended _, .removed _ => True
  | .removed first, .removed second => second < first
  | _, _ => False

theorem not_precedes_self (edit : Edit) : ¬ edit.Precedes edit := by
  cases edit <;> simp [Precedes]

theorem Precedes.next {first second : Edit} (precedes : first.Precedes second) :
    first.next.Precedes second.next := by
  cases first <;> cases second <;> simp_all [Precedes, Edit.next]

theorem make?_next (new : List α) (head : α) (shown : List α) (edit : Edit) :
    edit.next.make? new (head :: shown) = (edit.make? new.tail shown).map (head :: ·) := by
  cases edit with
  | replaced place =>
      by_cases within : place < shown.length
      · simp [next, make?, within, Function.comp_def]
        rfl
      · simp [next, make?, within]
  | appended place =>
      by_cases atEnd : place = shown.length
      · simp [next, make?, atEnd, Function.comp_def]
      · simp [next, make?, atEnd]
  | removed place =>
      by_cases within : place < shown.length
      · simp [next, make?, within]
      · simp [next, make?, within]

theorem foldlM_make?_next (new : List α) (head : α) (shown : List α) (script : List Edit) :
    (script.map next).foldlM (make? new) (head :: shown) =
      (script.foldlM (make? new.tail) shown).map (head :: ·) := by
  induction script generalizing shown with
  | nil => rfl
  | cons edit script induction =>
      rw [List.map_cons, List.foldlM_cons, List.foldlM_cons, make?_next]
      cases edit.make? new.tail shown with
      | none => rfl
      | some shown => exact induction shown

theorem foldlM_make?_appended (new : List α) :
    ((List.range new.length).map appended).foldlM (make? new) [] = some new := by
  induction new with
  | nil => rfl
  | cons fresh new induction =>
      have rest := foldlM_make?_next (fresh :: new) fresh [] ((List.range new.length).map appended)
      rw [List.tail_cons, induction, List.map_map] at rest
      rw [List.length_cons, List.range_succ_eq_map, List.map_cons, List.map_map, List.foldlM_cons]
      exact rest

theorem foldlM_make?_removed (old : List α) :
    ((List.range old.length).reverse.map removed).foldlM (make? []) old = some [] := by
  induction old with
  | nil => rfl
  | cons head old induction =>
      have rest := foldlM_make?_next [] head old ((List.range old.length).reverse.map removed)
      rw [List.tail_nil, induction, List.map_map] at rest
      rw [List.length_cons, List.range_succ_eq_map, List.reverse_cons, ← List.map_reverse,
        List.map_append, List.map_map, List.foldlM_append]
      change (List.foldlM _ _ (List.map (next ∘ removed) _) >>= _) = _
      rw [rest]
      rfl

end Edit

/-! ## What a patch reports -/

section List

variable [Serial α]

theorem editsFrom_succ (place : Nat) (old new : List α) :
    editsFrom (place + 1) old new = (editsFrom place old new).map Edit.next := by
  induction new generalizing place old with
  | nil =>
      simp [editsFrom, List.range'_eq_map_range, Edit.next, Nat.add_right_comm]
  | cons fresh new induction =>
      cases old with
      | nil => simp [editsFrom, List.range'_eq_map_range, Edit.next, Nat.add_right_comm]
      | cons head old =>
          rw [editsFrom, editsFrom, induction (place + 1) old, List.map_append]
          split <;> rfl

theorem edits_nil_right (old : List α) :
    edits old [] = (List.range old.length).reverse.map .removed := by
  cases old <;> simp [edits, editsFrom, List.range_eq_range']

theorem edits_nil_left (new : List α) :
    edits [] new = (List.range new.length).map .appended := by
  cases new <;> simp [edits, editsFrom, List.range_eq_range']

theorem edits_cons (head fresh : α) (old new : List α) :
    edits (head :: old) (fresh :: new) =
      (if serial head = serial fresh then [] else [.replaced 0]) ++
        (edits old new).map Edit.next := by
  rw [edits, editsFrom, editsFrom_succ]
  rfl

theorem Edit.due_cons {head fresh : α} {old new : List α} {edit : Edit} :
    edit.Due (head :: old) (fresh :: new) ↔
      edit = .replaced 0 ∧ serial head ≠ serial fresh ∨
        ∃ earlier : Edit, earlier.Due old new ∧ earlier.next = edit := by
  constructor
  · intro due
    cases edit with
    | replaced place =>
        cases place with
        | zero => exact Or.inl ⟨rfl, by simpa [Due] using due⟩
        | succ place => exact Or.inr ⟨.replaced place, by simpa [Due] using due, rfl⟩
    | appended place =>
        cases place with
        | zero => simp [Due] at due
        | succ place => exact Or.inr ⟨.appended place, by simpa [Due] using due, rfl⟩
    | removed place =>
        cases place with
        | zero => simp [Due] at due
        | succ place => exact Or.inr ⟨.removed place, by simpa [Due] using due, rfl⟩
  · rintro (⟨rfl, differ⟩ | ⟨earlier, due, rfl⟩)
    · simpa [Due] using differ
    · cases earlier <;> simpa [Due, next] using due

theorem mem_edits_iff {old new : List α} {edit : Edit} :
    edit ∈ edits old new ↔ edit.Due old new := by
  induction new generalizing old edit with
  | nil => cases edit <;> simp [edits_nil_right, Edit.Due]
  | cons fresh new induction =>
      cases old with
      | nil => cases edit <;> simp [edits_nil_left, Edit.Due]
      | cons head old =>
          rw [edits_cons, List.mem_append, List.mem_map, Edit.due_cons]
          simp only [induction]
          split <;> simp [*]

theorem pairwise_edits (old new : List α) : (edits old new).Pairwise Edit.Precedes := by
  induction new generalizing old with
  | nil =>
      rw [edits_nil_right, List.pairwise_map, List.pairwise_reverse]
      exact List.pairwise_lt_range
  | cons fresh new induction =>
      cases old with
      | nil =>
          rw [edits_nil_left, List.pairwise_map]
          exact List.pairwise_lt_range
      | cons head old =>
          rw [edits_cons, List.pairwise_append]
          refine ⟨?_, ?_, ?_⟩
          · split <;> simp
          · exact (induction old).map Edit.next fun _ _ => Edit.Precedes.next
          · intro first firstMember second secondMember
            rcases List.mem_map.mp secondMember with ⟨edit, _, rfl⟩
            have replaced : first = .replaced 0 := by
              split at firstMember <;> simp_all
            rw [replaced]
            cases edit <;> simp [Edit.Precedes, Edit.next]

theorem foldlM_make?_edits (old new : List α) :
    (edits old new).foldlM (Edit.make? new) old = some (patch old new) := by
  induction new generalizing old with
  | nil =>
      rw [edits_nil_right, patch_nil]
      exact Edit.foldlM_make?_removed old
  | cons fresh new induction =>
      cases old with
      | nil =>
          rw [edits_nil_left]
          exact Edit.foldlM_make?_appended (fresh :: new)
      | cons head old =>
          rw [edits_cons, List.foldlM_append, patch]
          have rest (shown : α) :=
            Edit.foldlM_make?_next (fresh :: new) shown old (edits old new)
          simp only [List.tail_cons, induction old] at rest
          split
          · exact rest head
          · exact rest fresh

/-! ## What stays -/

theorem getElem?_patch {old new : List α} {place : Nat} {head fresh : α}
    (before : old[place]? = some head) (wanted : new[place]? = some fresh) :
    (patch old new)[place]? = some (if serial head = serial fresh then head else fresh) := by
  induction new generalizing old place with
  | nil => simp at wanted
  | cons first new induction =>
      cases old with
      | nil => simp at before
      | cons kept old =>
          cases place with
          | zero => simp_all [patch]
          | succ place =>
              rw [patch, List.getElem?_cons_succ]
              exact induction before wanted

end List

end PagedTable
