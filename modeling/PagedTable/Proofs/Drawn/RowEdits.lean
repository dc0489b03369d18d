import PagedTable.Proofs.Drawn.Edits

/-! # Edits of rows

What a patch of rows reports is a script as well: of edits of the rows, and of
edits of the cells in each row that the old page and the new one share. -/

namespace PagedTable

variable {α : Type}

/-! ## Single edits -/

namespace RowEdit

def next : RowEdit → RowEdit
  | .head row => .head (row + 1)
  | .cell row edit => .cell (row + 1) edit
  | .appended row => .appended (row + 1)
  | .removed row => .removed (row + 1)

def make? (new shown : List (Row α)) : RowEdit → Option (List (Row α))
  | .head place =>
    match shown[place]?, new[place]? with
    | some row, some fresh => some (shown.set place { row with head := fresh.head })
    | _, _ => none
  | .cell place edit =>
    match shown[place]?, new[place]? with
    | some row, some fresh =>
      (edit.make? fresh.cells row.cells).map fun cells => shown.set place { row with cells }
    | _, _ => none
  | .appended place => Edit.make? new shown (.appended place)
  | .removed place => Edit.make? new shown (.removed place)

def Due [Serial α] (old new : List (Row α)) : RowEdit → Prop
  | .head place => ∃ row ∈ old[place]?, ∃ fresh ∈ new[place]?, row.head ≠ fresh.head
  | .cell place edit =>
    ∃ row ∈ old[place]?, ∃ fresh ∈ new[place]?, edit.Due row.cells fresh.cells
  | .appended place => old.length ≤ place ∧ place < new.length
  | .removed place => new.length ≤ place ∧ place < old.length

/-- What changes in the common rows comes first, row by row and with the head
of a row before its cells. Then rows are appended or removed. -/
def Precedes : RowEdit → RowEdit → Prop
  | .head first, .head second => first < second
  | .head first, .cell second _ => first ≤ second
  | .cell first _, .head second => first < second
  | .cell first edit, .cell second other =>
    first < second ∨ first = second ∧ edit.Precedes other
  | .head _, _ => True
  | .cell _ _, _ => True
  | .appended first, .appended second => first < second
  | .appended _, .removed _ => True
  | .removed first, .removed second => second < first
  | _, _ => False

theorem not_precedes_self (edit : RowEdit) : ¬ edit.Precedes edit := by
  cases edit <;> simp [Precedes, Edit.not_precedes_self]

theorem Precedes.next {first second : RowEdit} (precedes : first.Precedes second) :
    first.next.Precedes second.next := by
  cases first <;> cases second <;> simp_all [Precedes, RowEdit.next]

theorem make?_next (new : List (Row α)) (row : Row α) (shown : List (Row α)) (edit : RowEdit) :
    edit.next.make? new (row :: shown) = (edit.make? new.tail shown).map (row :: ·) := by
  cases edit with
  | head place =>
      simp only [next, make?, List.getElem?_cons_succ, List.getElem?_tail]
      split <;> simp
  | cell place edit =>
      simp only [next, make?, List.getElem?_cons_succ, List.getElem?_tail]
      split <;> simp [Function.comp_def]
  | appended place => exact Edit.make?_next new row shown (.appended place)
  | removed place => exact Edit.make?_next new row shown (.removed place)

theorem foldlM_make?_next (new : List (Row α)) (row : Row α) (shown : List (Row α))
    (script : List RowEdit) :
    (script.map next).foldlM (make? new) (row :: shown) =
      (script.foldlM (make? new.tail) shown).map (row :: ·) := by
  induction script generalizing shown with
  | nil => rfl
  | cons edit script induction =>
      rw [List.map_cons, List.foldlM_cons, List.foldlM_cons, make?_next]
      cases edit.make? new.tail shown with
      | none => rfl
      | some shown => exact induction shown

/-- Edits of cells leave the head of the row and the other rows alone. -/
theorem foldlM_make?_cell (fresh row : Row α) (new shown : List (Row α)) (script : List Edit) :
    (script.map (cell 0)).foldlM (make? (fresh :: new)) (row :: shown) =
      (script.foldlM (Edit.make? fresh.cells) row.cells).map fun cells =>
        { row with cells } :: shown := by
  induction script generalizing row with
  | nil => rfl
  | cons edit script induction =>
      rw [List.map_cons, List.foldlM_cons, List.foldlM_cons]
      simp only [make?, List.getElem?_cons_zero, List.set_cons_zero]
      cases edit.make? fresh.cells row.cells with
      | none => rfl
      | some cells => exact induction { row with cells }

end RowEdit

/-! ## What a patch reports -/

section Rows

variable [Serial α]

theorem rowEditsFrom_succ (place : Nat) (old new : List (Row α)) :
    rowEditsFrom (place + 1) old new = (rowEditsFrom place old new).map RowEdit.next := by
  induction new generalizing place old with
  | nil =>
      simp [rowEditsFrom, List.range'_eq_map_range, RowEdit.next, Nat.add_right_comm]
  | cons fresh new induction =>
      cases old with
      | nil => simp [rowEditsFrom, List.range'_eq_map_range, RowEdit.next, Nat.add_right_comm]
      | cons row old =>
          rw [rowEditsFrom, rowEditsFrom, induction (place + 1) old, List.map_append,
            List.map_append, List.map_map]
          split <;> rfl

theorem rowEdits_nil_right (old : List (Row α)) :
    rowEdits old [] = (List.range old.length).reverse.map .removed := by
  cases old <;> simp [rowEdits, rowEditsFrom, List.range_eq_range']

theorem rowEdits_nil_left (new : List (Row α)) :
    rowEdits [] new = (List.range new.length).map .appended := by
  cases new <;> simp [rowEdits, rowEditsFrom, List.range_eq_range']

theorem rowEdits_cons (row fresh : Row α) (old new : List (Row α)) :
    rowEdits (row :: old) (fresh :: new) =
      (if row.head = fresh.head then [] else [.head 0]) ++
        (edits row.cells fresh.cells).map (.cell 0) ++ (rowEdits old new).map RowEdit.next := by
  rw [rowEdits, rowEditsFrom, rowEditsFrom_succ]
  rfl

theorem RowEdit.due_cons {row fresh : Row α} {old new : List (Row α)} {edit : RowEdit} :
    edit.Due (row :: old) (fresh :: new) ↔
      (edit = .head 0 ∧ row.head ≠ fresh.head ∨
        ∃ change : Edit, change.Due row.cells fresh.cells ∧ .cell 0 change = edit) ∨
        ∃ earlier : RowEdit, earlier.Due old new ∧ earlier.next = edit := by
  constructor
  · intro due
    cases edit with
    | head place =>
        cases place with
        | zero => exact Or.inl (Or.inl ⟨rfl, by simpa [Due] using due⟩)
        | succ place => exact Or.inr ⟨.head place, by simpa [Due] using due, rfl⟩
    | cell place change =>
        cases place with
        | zero => exact Or.inl (Or.inr ⟨change, by simpa [Due] using due, rfl⟩)
        | succ place => exact Or.inr ⟨.cell place change, by simpa [Due] using due, rfl⟩
    | appended place =>
        cases place with
        | zero => simp [Due] at due
        | succ place => exact Or.inr ⟨.appended place, by simpa [Due] using due, rfl⟩
    | removed place =>
        cases place with
        | zero => simp [Due] at due
        | succ place => exact Or.inr ⟨.removed place, by simpa [Due] using due, rfl⟩
  · rintro ((⟨rfl, differ⟩ | ⟨change, due, rfl⟩) | ⟨earlier, due, rfl⟩)
    · simpa [Due] using differ
    · simpa [Due] using due
    · cases earlier <;> simpa [Due, next] using due

theorem mem_rowEdits_iff {old new : List (Row α)} {edit : RowEdit} :
    edit ∈ rowEdits old new ↔ edit.Due old new := by
  induction new generalizing old edit with
  | nil => cases edit <;> simp [rowEdits_nil_right, RowEdit.Due]
  | cons fresh new induction =>
      cases old with
      | nil => cases edit <;> simp [rowEdits_nil_left, RowEdit.Due]
      | cons row old =>
          rw [rowEdits_cons, List.mem_append, List.mem_append, List.mem_map, List.mem_map,
            RowEdit.due_cons]
          simp only [induction, mem_edits_iff]
          split <;> simp [*]

theorem pairwise_rowEdits (old new : List (Row α)) :
    (rowEdits old new).Pairwise RowEdit.Precedes := by
  induction new generalizing old with
  | nil =>
      rw [rowEdits_nil_right, List.pairwise_map, List.pairwise_reverse]
      exact List.pairwise_lt_range
  | cons fresh new induction =>
      cases old with
      | nil =>
          rw [rowEdits_nil_left, List.pairwise_map]
          exact List.pairwise_lt_range
      | cons row old =>
          have later (first : RowEdit) (here : first = .head 0 ∨ ∃ edit, first = .cell 0 edit)
              (second : RowEdit) : first.Precedes second.next := by
            rcases here with rfl | ⟨edit, rfl⟩ <;>
              cases second <;> simp [RowEdit.Precedes, RowEdit.next]
          rw [rowEdits_cons, List.pairwise_append, List.pairwise_append]
          refine ⟨⟨?_, ?_, ?_⟩, ?_, ?_⟩
          · split <;> simp
          · refine (pairwise_edits row.cells fresh.cells).map (RowEdit.cell 0) ?_
            intro first second precedes
            exact Or.inr ⟨rfl, precedes⟩
          · intro first firstMember second secondMember
            rcases List.mem_map.mp secondMember with ⟨edit, _, rfl⟩
            have head : first = .head 0 := by
              split at firstMember <;> simp_all
            simp [head, RowEdit.Precedes]
          · exact (induction old).map RowEdit.next fun _ _ => RowEdit.Precedes.next
          · intro first firstMember second secondMember
            rcases List.mem_map.mp secondMember with ⟨edit, _, rfl⟩
            refine later first ?_ edit
            rcases List.mem_append.mp firstMember with member | member
            · left
              split at member <;> simp_all
            · right
              rcases List.mem_map.mp member with ⟨change, _, rfl⟩
              exact ⟨change, rfl⟩

theorem foldlM_make?_rowEdits (old new : List (Row α)) :
    (rowEdits old new).foldlM (RowEdit.make? new) old = some (patchRows old new) := by
  induction new generalizing old with
  | nil =>
      rw [rowEdits_nil_right, patchRows_nil, List.foldlM_map, ← Edit.foldlM_make?_removed old,
        List.foldlM_map]
      rfl
  | cons fresh new induction =>
      cases old with
      | nil =>
          have appended := Edit.foldlM_make?_appended (fresh :: new)
          rw [List.foldlM_map] at appended
          rw [rowEdits_nil_left, List.foldlM_map]
          exact appended
      | cons row old =>
          have head : (if row.head = fresh.head then [] else [.head 0]).foldlM
              (RowEdit.make? (fresh :: new)) (row :: old) =
              some ({ row with head := fresh.head } :: old) := by
            split
            next same => rw [← same]; rfl
            next => rfl
          have cells := RowEdit.foldlM_make?_cell fresh { row with head := fresh.head } new old
            (edits row.cells fresh.cells)
          rw [foldlM_make?_edits] at cells
          have rest := RowEdit.foldlM_make?_next (fresh :: new)
            ⟨fresh.head, patch row.cells fresh.cells⟩ old (rowEdits old new)
          rw [List.tail_cons, induction old] at rest
          rw [rowEdits_cons, List.foldlM_append, List.foldlM_append, head, patchRows]
          change (List.foldlM _ _ _ >>= _) = _
          rw [cells]
          exact rest

/-! ## What stays -/

theorem getElem?_patchRows {old new : List (Row α)} {place : Nat} {row fresh : Row α}
    (before : old[place]? = some row) (wanted : new[place]? = some fresh) :
    (patchRows old new)[place]? = some ⟨fresh.head, patch row.cells fresh.cells⟩ := by
  induction new generalizing old place with
  | nil => simp at wanted
  | cons first new induction =>
      cases old with
      | nil => simp at before
      | cons kept old =>
          cases place with
          | zero => simp_all [patchRows]
          | succ place =>
              rw [patchRows, List.getElem?_cons_succ]
              exact induction before wanted

def cellAt? (rows : List (Row α)) (place column : Nat) : Option α :=
  rows[place]?.bind fun row => row.cells[column]?

theorem cellAt?_patchRows {old new : List (Row α)} {place column : Nat} {head fresh : α}
    (before : cellAt? old place column = some head)
    (wanted : cellAt? new place column = some fresh) :
    cellAt? (patchRows old new) place column =
      some (if serial head = serial fresh then head else fresh) := by
  rcases Option.bind_eq_some_iff.mp before with ⟨row, rowBefore, headBefore⟩
  rcases Option.bind_eq_some_iff.mp wanted with ⟨freshRow, rowWanted, freshWanted⟩
  rw [cellAt?, getElem?_patchRows rowBefore rowWanted]
  exact getElem?_patch headBefore freshWanted

/-- What can be said of the rows on display, and of the script, when new rows have
been patched into old ones. Cells are equal when they are the very same cell, as
stamps tell, and not when they only look the same. -/
structure Reconciles (old new shown : List (Row α)) (script : List RowEdit) : Prop where
  look : shown.map Row.look = new.map Row.look
  kept : ∀ place column head fresh, cellAt? old place column = some head →
    cellAt? new place column = some fresh →
    ∃ cell, cellAt? shown place column = some cell ∧
      (cell = head ↔ serial head = serial fresh) ∧ (cell = head ∨ cell = fresh)
  due : ∀ edit, edit ∈ script ↔ edit.Due old new
  ordered : script.Pairwise RowEdit.Precedes
  once : script.Nodup
  replayed : script.foldlM (RowEdit.make? new) old = some shown
  /-- Rows that look like the new ones replace nothing. -/
  settled : ∀ again : List (Row α), again.map Row.look = new.map Row.look →
    patchRows shown again = shown ∧ rowEdits shown again = []

theorem patchRows_reconciles (old new : List (Row α)) :
    Reconciles old new (patchRows old new) (rowEdits old new) where
  look := map_look_patchRows old new
  kept := by
    intro place column head fresh before wanted
    refine ⟨_, cellAt?_patchRows before wanted, ?_⟩
    by_cases same : serial head = serial fresh
    · simp [same]
    · have other : fresh ≠ head := fun equal => same (congrArg serial equal.symm)
      simp [same, other]
  due _ := mem_rowEdits_iff
  ordered := pairwise_rowEdits old new
  once := by
    refine (pairwise_rowEdits old new).imp ?_
    rintro edit _ precedes rfl
    exact edit.not_precedes_self precedes
  replayed := foldlM_make?_rowEdits old new
  settled := by
    intro again sameLook
    have same := (map_look_patchRows old new).trans sameLook.symm
    exact ⟨patchRows_eq_self same, rowEdits_eq_nil same⟩

end Rows

/-- The first cell stays, the second one is replaced, and a third one is new. -/
example :
    let row (id : Int) (cells : List (Stamped Cell)) : Row (Stamped Cell) :=
      ⟨⟨.number id, []⟩, cells⟩
    let old := [row 1 [⟨0, ⟨"a", []⟩⟩, ⟨1, ⟨"b", []⟩⟩], row 2 []]
    let new := [row 3 [⟨2, ⟨"a", []⟩⟩, ⟨3, ⟨"x", []⟩⟩, ⟨4, ⟨"c", []⟩⟩]]
    (patchRows old new).map (fun row => row.cells.map Stamped.stamp) = [[0, 3, 4]] ∧
      rowEdits old new =
        [.head 0, .cell 0 (.replaced 1), .cell 0 (.appended 2), .removed 1] := by
  decide

end PagedTable
