import PagedTable.Drawn.Patch

/-! # What a patch shows

A patched list shows what the new list shows. Where the old list shows the same
already, nothing is replaced: the old elements stay, and there is no edit to
report. Elements that carry a stamp show that they are the very same ones. -/

namespace PagedTable

variable {α : Type} [Serial α]

/-! ## Lists -/

theorem patch_nil (old : List α) : patch old [] = [] := by
  cases old <;> rfl

theorem map_serial_patch (old new : List α) :
    (patch old new).map serial = new.map serial := by
  induction new generalizing old with
  | nil => rw [patch_nil]
  | cons fresh new induction =>
      cases old with
      | nil => rfl
      | cons head old =>
          rw [patch, List.map_cons, List.map_cons, induction old]
          by_cases same : serial head = serial fresh
          · rw [if_pos same, same]
          · rw [if_neg same]

theorem patch_eq_self {old new : List α} (same : old.map serial = new.map serial) :
    patch old new = old := by
  induction new generalizing old with
  | nil => rw [patch_nil, List.map_eq_nil_iff.mp same]
  | cons fresh new induction =>
      cases old with
      | nil => cases same
      | cons head old =>
          have parts := List.cons.inj same
          rw [patch, if_pos parts.1, induction parts.2]

theorem editsFrom_eq_nil {old new : List α} (place : Nat)
    (same : old.map serial = new.map serial) : editsFrom place old new = [] := by
  induction new generalizing old place with
  | nil =>
      rw [List.map_eq_nil_iff.mp same]
      rfl
  | cons fresh new induction =>
      cases old with
      | nil => cases same
      | cons head old =>
          have parts := List.cons.inj same
          rw [editsFrom, if_pos parts.1, induction (place + 1) parts.2]
          rfl

theorem edits_eq_nil {old new : List α} (same : old.map serial = new.map serial) :
    edits old new = [] :=
  editsFrom_eq_nil 0 same

/-! ## Rows -/

namespace Row

def look (row : Row α) : RowHead × List String :=
  (row.head, row.cells.map serial)

end Row

theorem patchRows_nil (old : List (Row α)) : patchRows old [] = [] := by
  cases old <;> rfl

theorem map_look_patchRows (old new : List (Row α)) :
    (patchRows old new).map Row.look = new.map Row.look := by
  induction new generalizing old with
  | nil => rw [patchRows_nil]
  | cons fresh new induction =>
      cases old with
      | nil => rfl
      | cons row old =>
          rw [patchRows, List.map_cons, List.map_cons, induction old]
          simp only [Row.look, map_serial_patch]

theorem length_patchRows (old new : List (Row α)) : (patchRows old new).length = new.length := by
  have looks := congrArg List.length (map_look_patchRows old new)
  rwa [List.length_map, List.length_map] at looks

theorem patchRows_eq_self {old new : List (Row α)} (same : old.map Row.look = new.map Row.look) :
    patchRows old new = old := by
  induction new generalizing old with
  | nil => rw [patchRows_nil, List.map_eq_nil_iff.mp same]
  | cons fresh new induction =>
      cases old with
      | nil => cases same
      | cons row old =>
          have parts := List.cons.inj same
          have look := Prod.mk.inj parts.1
          rw [patchRows, induction parts.2, patch_eq_self look.2, ← look.1]

theorem rowEditsFrom_eq_nil {old new : List (Row α)} (place : Nat)
    (same : old.map Row.look = new.map Row.look) : rowEditsFrom place old new = [] := by
  induction new generalizing old place with
  | nil =>
      rw [List.map_eq_nil_iff.mp same]
      rfl
  | cons fresh new induction =>
      cases old with
      | nil => cases same
      | cons row old =>
          have parts := List.cons.inj same
          have look := Prod.mk.inj parts.1
          rw [rowEditsFrom, if_pos look.1, edits_eq_nil look.2, induction (place + 1) parts.2]
          rfl

theorem rowEdits_eq_nil {old new : List (Row α)} (same : old.map Row.look = new.map Row.look) :
    rowEdits old new = [] :=
  rowEditsFrom_eq_nil 0 same

/-! ## Stamps -/

def Row.unstamped (row : Row (Stamped α)) : Row α :=
  ⟨row.head, row.cells.map (·.value)⟩

theorem Row.look_unstamped (row : Row (Stamped α)) : row.unstamped.look = row.look := by
  simp only [Row.look, Row.unstamped, List.map_map]
  rfl

theorem map_look_unstamped (rows : List (Row (Stamped α))) :
    (rows.map Row.unstamped).map Row.look = rows.map Row.look := by
  rw [List.map_map]
  exact List.map_congr_left fun row _ => row.look_unstamped

theorem map_serial_unstamped (values : List (Stamped α)) :
    (values.map Stamped.value).map serial = values.map serial := by
  rw [List.map_map]
  rfl

/-- A patch pays no heed to stamps. -/
theorem map_value_patch (old new : List (Stamped α)) :
    (patch old new).map Stamped.value =
      patch (old.map Stamped.value) (new.map Stamped.value) := by
  induction new generalizing old with
  | nil => rw [patch_nil, List.map_nil, patch_nil]
  | cons fresh new induction =>
      cases old with
      | nil => rfl
      | cons head old =>
          rw [patch, List.map_cons, List.map_cons, List.map_cons, patch, induction old,
            apply_ite Stamped.value]
          rfl

theorem map_unstamped_patchRows (old new : List (Row (Stamped α))) :
    (patchRows old new).map Row.unstamped =
      patchRows (old.map Row.unstamped) (new.map Row.unstamped) := by
  induction new generalizing old with
  | nil => rw [patchRows_nil, List.map_nil, patchRows_nil]
  | cons fresh new induction =>
      cases old with
      | nil => rfl
      | cons row old =>
          rw [patchRows, List.map_cons, List.map_cons, List.map_cons, patchRows, induction old]
          simp only [Row.unstamped, map_value_patch]

end PagedTable
