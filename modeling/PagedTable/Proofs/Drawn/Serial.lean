import PagedTable.Proofs.Drawn.Patch

/-! # Told apart by serial texts

A patch compares serial texts only. Where different elements have different
texts, what it leaves on display is the new list itself. Cells are told apart in
this way as long as the names of their classes leave out what separates them. -/

namespace PagedTable

/-! ## Patches of what is told apart -/

section List

variable {α : Type} [Serial α]

theorem patch_eq_new {old new : List α}
    (apart : ∀ head ∈ old, ∀ fresh ∈ new, serial head = serial fresh → head = fresh) :
    patch old new = new := by
  induction new generalizing old with
  | nil => rw [patch_nil]
  | cons fresh new induction =>
      cases old with
      | nil => rfl
      | cons head old =>
          have rest : patch old new = new := by
            apply induction
            intro other otherMember value valueMember
            exact apart other (List.mem_cons_of_mem head otherMember) value
              (List.mem_cons_of_mem fresh valueMember)
          rw [patch, rest]
          split
          case isTrue same =>
            rw [apart head List.mem_cons_self fresh List.mem_cons_self same]
          case isFalse => rfl

theorem patchRows_eq_new {old new : List (Row α)}
    (apart : ∀ row ∈ old, ∀ fresh ∈ new, ∀ head ∈ row.cells, ∀ cell ∈ fresh.cells,
      serial head = serial cell → head = cell) :
    patchRows old new = new := by
  induction new generalizing old with
  | nil => rw [patchRows_nil]
  | cons fresh new induction =>
      cases old with
      | nil => rfl
      | cons row old =>
          have rest : patchRows old new = new := by
            apply induction
            intro other otherMember value valueMember
            exact apart other (List.mem_cons_of_mem row otherMember) value
              (List.mem_cons_of_mem fresh valueMember)
          have cells : patch row.cells fresh.cells = fresh.cells :=
            patch_eq_new (apart row List.mem_cons_self fresh List.mem_cons_self)
          rw [patchRows, rest, cells]

end List

/-! ## Cells -/

/-- Whether a text can be read back from a list of names with blanks between
them, followed by a bar. -/
def IsPlainName (name : String) : Prop :=
  name ≠ "" ∧ ' ' ∉ name.toList ∧ '|' ∉ name.toList

instance (name : String) : Decidable (IsPlainName name) :=
  inferInstanceAs (Decidable (_ ∧ _))

/-- A list ends where a mark stands that it does not hold. -/
theorem append_cons_inj_of_not_mem {α : Type} {mark : α} {first second rest other : List α}
    (firstFree : mark ∉ first) (secondFree : mark ∉ second)
    (same : first ++ mark :: rest = second ++ mark :: other) :
    first = second ∧ rest = other := by
  induction first generalizing second with
  | nil =>
      cases second with
      | nil => exact ⟨rfl, (List.cons.inj same).2⟩
      | cons name second =>
          have marked : mark ∈ name :: second := List.mem_cons.mpr (Or.inl (List.cons.inj same).1)
          exact absurd marked secondFree
  | cons head first induction =>
      cases second with
      | nil =>
          have marked : mark ∈ head :: first :=
            List.mem_cons.mpr (Or.inl (List.cons.inj same).1.symm)
          exact absurd marked firstFree
      | cons name second =>
          have parts := List.cons.inj same
          have tails := induction (List.not_mem_of_not_mem_cons firstFree)
            (List.not_mem_of_not_mem_cons secondFree) parts.2
          rw [parts.1, tails.1]
          exact ⟨rfl, tails.2⟩

/-- Plain names are what stands between the blanks. Without any name there is
still the empty text. -/
theorem words_intercalate_blank {names : List String}
    (plain : ∀ name ∈ names, IsPlainName name) :
    ((" ".intercalate names).toList.splitOn ' ').filter (· ≠ []) = names.map String.toList := by
  rw [String.toList_intercalate]
  by_cases nothing : names = []
  · rw [nothing]
    rfl
  · rw [show " ".toList = [' '] from rfl, List.splitOn_intercalate]
    · rw [List.filter_eq_self]
      intro letters member
      rcases List.mem_map.mp member with ⟨name, nameMember, rfl⟩
      simpa using (plain name nameMember).1
    · intro letters member
      rcases List.mem_map.mp member with ⟨name, nameMember, rfl⟩
      exact (plain name nameMember).2.1
    · simpa using nothing

theorem intercalate_blank_inj {first second : List String}
    (firstPlain : ∀ name ∈ first, IsPlainName name)
    (secondPlain : ∀ name ∈ second, IsPlainName name)
    (same : " ".intercalate first = " ".intercalate second) : first = second := by
  have letters : first.map String.toList = second.map String.toList := by
    rw [← words_intercalate_blank firstPlain, ← words_intercalate_blank secondPlain, same]
  exact (List.map_inj_right fun _ _ => String.toList_inj.mp).mp letters

theorem bar_not_mem_intercalate {names : List String}
    (plain : ∀ name ∈ names, IsPlainName name) : '|' ∉ (" ".intercalate names).toList := by
  induction names with
  | nil => simp
  | cons name names induction =>
      have head := (plain name List.mem_cons_self).2.2
      have rest := induction fun other member => plain other (List.mem_cons_of_mem name member)
      cases names with
      | nil => simpa using head
      | cons other names => simpa [head] using rest

namespace Cell

theorem eq_of_serial_eq {first second : Cell}
    (firstPlain : ∀ name ∈ first.classes, IsPlainName name)
    (secondPlain : ∀ name ∈ second.classes, IsPlainName name)
    (same : serial first = serial second) : first = second := by
  have letters : (" ".intercalate first.classes).toList ++ '|' :: first.content.toList =
      (" ".intercalate second.classes).toList ++ '|' :: second.content.toList := by
    simpa [serial] using congrArg String.toList same
  -- the first bar is the one that was put there
  rcases append_cons_inj_of_not_mem (bar_not_mem_intercalate firstPlain)
    (bar_not_mem_intercalate secondPlain) letters with ⟨names, content⟩
  have sameClasses : first.classes = second.classes :=
    intercalate_blank_inj firstPlain secondPlain (String.toList_inj.mp names)
  have sameContent : first.content = second.content := String.toList_inj.mp content
  change Cell.mk first.content first.classes = second
  rw [sameContent, sameClasses]

/-- Without plain names two cells may look the same. -/
example : serial (Cell.mk "b|c" ["a"]) = serial (Cell.mk "c" ["a|b"]) := by decide

end Cell

end PagedTable
