import PagedTable.Proofs.Selection
import PagedTable.Proofs.Span

/-! # Ranges and clicks

A range goes from one row of a list to another, whichever of the two is named first.
A click always flips the row it hits. It reaches further only from the row that was
clicked before, and only as long as both rows are in the list. -/

namespace PagedTable.Selection

/-! ## Single rows -/

theorem isChecked_set (selection : Selection) (id other : RecordId) (checked : Bool) :
    (selection.set id checked).isChecked other =
      if other = id then checked else selection.isChecked other := by
  unfold set
  split
  · next already =>
    split
    · next same => rw [same, already]
    · rfl
  · cases checked with
    | true =>
        by_cases same : other = id
        · simp [isChecked, same]
        · simp [isChecked, same]
    | false =>
        by_cases same : other = id
        · simp [isChecked, same, selection.nodup.not_mem_erase]
        · simp [isChecked, same, List.mem_erase_of_ne]

theorem isChecked_setAll (selection : Selection) (checked : Bool) (ids : List RecordId)
    (id : RecordId) :
    (selection.setAll checked ids).isChecked id =
      if id ∈ ids then checked else selection.isChecked id := by
  induction ids generalizing selection with
  | nil => rfl
  | cons head rest induction =>
      have split : selection.setAll checked (head :: rest) =
          (selection.set head checked).setAll checked rest := rfl
      rw [split, induction, isChecked_set]
      by_cases later : id ∈ rest
      · simp [later]
      · simp [later]

/-! ## From one row to another -/

def Between (ids : List RecordId) (first second id : RecordId) : Prop :=
  ∃ left right place : Nat, ids[left]? = some first ∧ ids[right]? = some second ∧
    ids[place]? = some id ∧ min left right ≤ place ∧ place ≤ max left right

theorem between_self {ids : List RecordId} {first second : RecordId} (firstListed : first ∈ ids)
    (secondListed : second ∈ ids) : Between ids first second first := by
  rcases List.mem_iff_getElem?.mp firstListed with ⟨left, atLeft⟩
  rcases List.mem_iff_getElem?.mp secondListed with ⟨right, atRight⟩
  exact ⟨left, right, left, atLeft, atRight, atLeft, Nat.min_le_left _ _, Nat.le_max_left _ _⟩

theorem between?_comm (ids : List RecordId) (first second : RecordId) :
    between? ids first second = between? ids second first := by
  unfold between?
  cases ids.idxOf? first with
  | none => cases ids.idxOf? second <;> rfl
  | some left =>
      cases ids.idxOf? second with
      | none => rfl
      | some right =>
          dsimp only
          rw [Nat.min_comm, Nat.max_comm]

theorem between?_eq_none {ids : List RecordId} {first second : RecordId}
    (missing : first ∉ ids ∨ second ∉ ids) : between? ids first second = none := by
  unfold between?
  rcases missing with absent | absent
  · rw [List.idxOf?_eq_none_iff.mpr absent]
  · rw [List.idxOf?_eq_none_iff.mpr absent]
    cases ids.idxOf? first <;> rfl

/-- Where rows do not repeat, each has one place. -/
theorem idxOf?_eq_some_iff {ids : List RecordId} (distinct : ids.Nodup) {id : RecordId}
    {place : Nat} : ids.idxOf? id = some place ↔ ids[place]? = some id := by
  rw [List.idxOf?_eq_some_iff, List.getElem?_eq_some_iff]
  constructor
  · rintro ⟨within, found, _⟩
    exact ⟨within, found⟩
  · rintro ⟨within, found⟩
    refine ⟨within, found, ?_⟩
    intro earlier before same
    have places := distinct.getElem_inj_iff.mp (same.trans found.symm)
    omega

theorem exists_between? {ids : List RecordId} (distinct : ids.Nodup) {first second : RecordId}
    (firstListed : first ∈ ids) (secondListed : second ∈ ids) :
    ∃ part, between? ids first second = some part ∧
      ∀ id, id ∈ part ↔ Between ids first second id := by
  rcases List.mem_iff_getElem?.mp firstListed with ⟨left, atLeft⟩
  rcases List.mem_iff_getElem?.mp secondListed with ⟨right, atRight⟩
  have leftPlace := (idxOf?_eq_some_iff distinct).mpr atLeft
  have rightPlace := (idxOf?_eq_some_iff distinct).mpr atRight
  refine ⟨_, by rw [between?, leftPlace, rightPlace], ?_⟩
  intro id
  rw [Span.mem_of_iff]
  constructor
  · rintro ⟨place, starts, stops, found⟩
    exact ⟨left, right, place, atLeft, atRight, found, starts, Nat.le_of_lt_succ stops⟩
  · rintro ⟨otherLeft, otherRight, place, firstThere, secondThere, found, starts, stops⟩
    -- rows do not repeat, so these are the places that were found
    have sameLeft := leftPlace.symm.trans ((idxOf?_eq_some_iff distinct).mpr firstThere)
    have sameRight := rightPlace.symm.trans ((idxOf?_eq_some_iff distinct).mpr secondThere)
    cases sameLeft
    cases sameRight
    exact ⟨place, starts, Nat.lt_succ_of_le stops, found⟩

theorem setRange?_comm (selection : Selection) (first second : RecordId) (checked : Bool)
    (ids : List RecordId) :
    selection.setRange? first second checked ids =
      selection.setRange? second first checked ids := by
  rw [setRange?, setRange?, between?_comm]

/-! ## Clicks -/

section

variable {selection : Selection} {id last other : RecordId} {extend : Bool} {ids : List RecordId}

theorem isChecked_click (selection : Selection) (id other : RecordId) (extend : Bool)
    (ids : List RecordId) :
    (selection.click id extend ids).isChecked other =
      if other ∈ selection.reach id extend ids then !selection.isChecked id
      else selection.isChecked other := by
  rw [click_eq]
  exact isChecked_setAll selection _ _ other

theorem mem_reach_iff (distinct : ids.Nodup) (remembered : selection.lastClicked = some last)
    (idListed : id ∈ ids) (lastListed : last ∈ ids) :
    other ∈ selection.reach id true ids ↔ Between ids id last other := by
  rcases exists_between? distinct idListed lastListed with ⟨part, known, members⟩
  rw [reach, if_pos rfl, remembered, Option.bind_some, known]
  exact members other

theorem reach_eq_self
    (alone : ¬(extend = true ∧ ∃ last ∈ selection.lastClicked, id ∈ ids ∧ last ∈ ids)) :
    selection.reach id extend ids = [id] := by
  unfold reach
  cases extend with
  | false => rfl
  | true =>
      cases remembered : selection.lastClicked with
      | none => rfl
      | some last =>
          have missing : id ∉ ids ∨ last ∉ ids := by
            rw [← not_and_or]
            exact fun listed => alone ⟨rfl, last, remembered, listed⟩
          rw [if_pos rfl, Option.bind_some, between?_eq_none missing]
          rfl

theorem mem_reach_self (distinct : ids.Nodup) (selection : Selection) (id : RecordId)
    (extend : Bool) : id ∈ selection.reach id extend ids := by
  by_cases wide : extend = true ∧ ∃ last ∈ selection.lastClicked, id ∈ ids ∧ last ∈ ids
  · rcases wide with ⟨rfl, last, remembered, idListed, lastListed⟩
    rw [mem_reach_iff distinct remembered idListed lastListed]
    exact between_self idListed lastListed
  · rw [reach_eq_self wide]
    exact List.mem_singleton_self id

end

structure ClickSelects (selection : Selection) (id : RecordId) (extend : Bool)
    (ids : List RecordId) (clicked : Selection) : Prop where
  flips : clicked.isChecked id = !selection.isChecked id
  lastClicked : clicked.lastClicked = some id
  between : ∀ last, extend = true → selection.lastClicked = some last → id ∈ ids → last ∈ ids →
    (∀ other, Between ids id last other → clicked.isChecked other = clicked.isChecked id) ∧
    ∀ other, ¬Between ids id last other →
      clicked.isChecked other = selection.isChecked other
  alone : ¬(extend = true ∧ ∃ last ∈ selection.lastClicked, id ∈ ids ∧ last ∈ ids) →
    ∀ other, other ≠ id → clicked.isChecked other = selection.isChecked other

/-- Between two rows of a list, whichever comes first, a range gives its state to all
rows and to no others. A click flips its row, and with an earlier row in the list to
extend from it brings all rows between the two into the same state. -/
theorem ranges_and_clicks_select_between (selection : Selection) {ids : List RecordId}
    (distinct : ids.Nodup) :
    (∀ first second checked,
      selection.setRange? first second checked ids =
        selection.setRange? second first checked ids ∧
      (first ∈ ids → second ∈ ids →
        ∃ set, selection.setRange? first second checked ids = some set ∧
          (∀ id, Between ids first second id → set.isChecked id = checked) ∧
          ∀ id, ¬Between ids first second id → set.isChecked id = selection.isChecked id) ∧
      (first ∉ ids ∨ second ∉ ids →
        selection.setRange? first second checked ids = none)) ∧
    ∀ id extend, selection.ClickSelects id extend ids (selection.click id extend ids) := by
  refine ⟨?_, ?_⟩
  · intro first second checked
    refine ⟨setRange?_comm selection first second checked ids, ?_, ?_⟩
    · intro firstListed secondListed
      rcases exists_between? distinct firstListed secondListed with ⟨part, known, members⟩
      refine ⟨selection.setAll checked part, by rw [setRange?, known]; rfl, ?_, ?_⟩
      · intro id between
        rw [isChecked_setAll, if_pos ((members id).mpr between)]
      · intro id outside
        rw [isChecked_setAll, if_neg (mt (members id).mp outside)]
    · intro missing
      rw [setRange?, between?_eq_none missing]
      rfl
  · intro id extend
    let clicked := selection.click id extend ids
    have flips : clicked.isChecked id = !selection.isChecked id := by
      rw [isChecked_click, if_pos (mem_reach_self distinct selection id extend)]
    refine ⟨flips, rfl, ?_, ?_⟩
    · rintro last rfl remembered idListed lastListed
      refine ⟨?_, ?_⟩
      · intro other between
        rw [flips, isChecked_click,
          if_pos ((mem_reach_iff distinct remembered idListed lastListed).mpr between)]
      · intro other outside
        rw [isChecked_click,
          if_neg (mt (mem_reach_iff distinct remembered idListed lastListed).mp outside)]
    · intro alone other different
      rw [isChecked_click, reach_eq_self alone,
        if_neg (mt List.mem_singleton.mp different)]

/-- The row clicked before stands behind the one that is clicked now, which is
checked, and another checked row is not in the list. -/
theorem ranges_and_clicks_select_between_out_of_order :
    let selection : Selection :=
      { checked := [.number 1, .number 9]
        known := [.number 1, .number 2, .number 3, .number 4, .number 9]
        count := 2
        lastClicked := some (.number 4) }
    let ids : List RecordId := [.number 3, .number 1, .number 2, .number 4]
    let clicked := selection.click (.number 1) true ids
    ids.Nodup ∧
      selection.setRange? (.number 2) (.number 3) true ids =
        selection.setRange? (.number 3) (.number 2) true ids ∧
      selection.setRange? (.number 9) (.number 3) true ids = none ∧
      clicked.isChecked (.number 1) = false ∧
      Between ids (.number 1) (.number 4) (.number 2) ∧
      clicked.isChecked (.number 2) = clicked.isChecked (.number 1) ∧
      ¬Between ids (.number 1) (.number 4) (.number 9) ∧
      clicked.isChecked (.number 9) = selection.isChecked (.number 9) := by
  intro selection ids clicked
  have distinct : ids.Nodup := by decide
  have between : Between ids (.number 1) (.number 4) (.number 2) :=
    ⟨1, 3, 2, rfl, rfl, rfl, by decide, by decide⟩
  have outside : ¬Between ids (.number 1) (.number 4) (.number 9) := by
    rintro ⟨_, _, _, _, _, listed, _⟩
    exact absurd (List.mem_of_getElem? listed) (by decide)
  rcases ranges_and_clicks_select_between selection distinct with ⟨ranges, clicks⟩
  have click := clicks (.number 1) true
  have reached := click.between (.number 4) rfl rfl (by decide) (by decide)
  refine ⟨distinct, (ranges _ _ _).1, (ranges _ _ _).2.2 (Or.inl (by decide)), ?_,
    between, reached.1 _ between, outside, reached.2 _ outside⟩
  rw [click.flips]
  decide

end PagedTable.Selection
