import Mathlib.Data.List.Find
import PagedTable.Filter.Match
import PagedTable.Proofs.Filter.LetterCase

/-! # Matching without regard to letter case

Whether a record passes a filter depends neither on the case of the ASCII
letters in the filter, the names of its fields included, nor on the case of
those in the texts of the record. -/

namespace PagedTable

open Text

/-! ## Records that differ in letter case -/

namespace Contents

def names : Contents → List String
  | .text _ => []
  | .fields values _ => values.map (·.1)

/-- Whether no two names differ in letter case only. -/
def NamesApart (contents : Contents) : Prop :=
  ∀ first ∈ contents.names, ∀ second ∈ contents.names, lower first = lower second → first = second

instance (contents : Contents) : Decidable contents.NamesApart :=
  inferInstanceAs (Decidable (∀ first ∈ contents.names, _))

/-- Whether two records hold the same, but for the case of the ASCII letters in
the text or in the values. The names are the same, in whatever order they are
listed. -/
inductive SameLetters : Contents → Contents → Prop
  | text {first second : String} (same : Text.SameLetters first second) :
      SameLetters (.text first) (.text second)
  | fields {values others : List (String × String)} (defaults : List String)
      (same : ∀ name,
        (values.lookup name).map String.toLower = (others.lookup name).map String.toLower) :
      SameLetters (.fields values defaults) (.fields others defaults)

end Contents

/-! ## Values -/

theorem lookup_eq_map_find? (values : List (String × String)) (name : String) :
    values.lookup name = (values.find? (·.1 = name)).map (·.2) := by
  induction values with
  | nil => rfl
  | cons entry values induction =>
      rcases entry with ⟨first, value⟩
      by_cases same : first = name
      · simp [same]
      · simp [List.lookup_cons, beq_false_of_ne (Ne.symm same), same, induction]

theorem isSome_lookup_iff {values : List (String × String)} {name : String} :
    (values.lookup name).isSome = true ↔ name ∈ values.map (·.1) := by
  simp

namespace Record

variable {record : Record} {values : List (String × String)} {defaults : List String}
  {name key : String}

/-- Where names differ in more than their case, a value is found under the one
name that is sought, in whatever case. -/
theorem value?_of_mem (fields : record.contents = .fields values defaults)
    (apart : record.contents.NamesApart) (member : key ∈ values.map (·.1))
    (same : lower key = lower name) : record.value? name = values.lookup key := by
  rw [fields] at apart
  rw [value?, fields]
  dsimp only
  cases known : values.lookup name with
  | some value =>
      have listed : name ∈ values.map (·.1) := isSome_lookup_iff.mp (known ▸ rfl)
      rw [apart key member name listed same, known]
  | none =>
      dsimp only
      rw [lookup_eq_map_find?]
      congr 1
      apply List.find?_congr
      intro entry entryMember
      have listed : entry.1 ∈ values.map (·.1) := List.mem_map_of_mem entryMember
      rw [← same, decide_eq_decide]
      exact ⟨apart entry.1 listed key member, congrArg lower⟩

theorem value?_of_not_mem (fields : record.contents = .fields values defaults)
    (missing : ∀ key ∈ values.map (·.1), lower key ≠ lower name) : record.value? name = none := by
  have unlisted : values.lookup name = none := by
    rw [← Option.not_isSome_iff_eq_none, isSome_lookup_iff]
    intro member
    exact missing name member rfl
  have unfound : (values.find? fun entry => lower entry.1 = lower name) = none := by
    rw [List.find?_eq_none]
    intro entry member
    simpa using missing entry.1 (List.mem_map_of_mem member)
  rw [value?, fields]
  dsimp only
  rw [unlisted, unfound]
  rfl

end Record

namespace Contents

theorem SameLetters.refl (contents : Contents) : contents.SameLetters contents := by
  cases contents with
  | text text => exact .text rfl
  | fields values defaults => exact .fields defaults fun _ => rfl

theorem SameLetters.mem_names_iff {contents twin : Contents} (same : contents.SameLetters twin)
    (name : String) : name ∈ contents.names ↔ name ∈ twin.names := by
  cases same with
  | text same => exact Iff.rfl
  | fields defaults same =>
      have known := congrArg Option.isSome (same name)
      rw [Option.isSome_map, Option.isSome_map] at known
      rw [names, names, ← isSome_lookup_iff, ← isSome_lookup_iff, known]

theorem SameLetters.namesApart {contents twin : Contents} (same : contents.SameLetters twin)
    (apart : contents.NamesApart) : twin.NamesApart := by
  intro first firstMember second secondMember
  exact apart first ((same.mem_names_iff first).mpr firstMember) second
    ((same.mem_names_iff second).mpr secondMember)

end Contents

theorem lower_of_sameLetters {first second : String} (same : SameLetters first second) :
    lower first = lower second := by
  rw [← lower_toLower first, same, lower_toLower]

namespace Record

variable {record twin : Record}

theorem map_toLower_value? (same : record.contents.SameLetters twin.contents)
    (apart : record.contents.NamesApart) {name other : String} (names : lower name = lower other) :
    (record.value? name).map String.toLower = (twin.value? other).map String.toLower := by
  have twinApart := same.namesApart apart
  have listed := same.mem_names_iff
  rcases record with ⟨id, contents, cells⟩
  rcases twin with ⟨twinId, twinContents, twinCells⟩
  cases same with
  | text same => rfl
  | fields defaults same =>
      rename_i values others
      by_cases found : ∃ key ∈ values.map (·.1), lower key = lower name
      · rcases found with ⟨key, member, equal⟩
        rw [value?_of_mem rfl apart member equal,
          value?_of_mem rfl twinApart ((listed key).mp member) (equal.trans names)]
        exact same key
      · have missing : ∀ key ∈ values.map (·.1), lower key ≠ lower name := by
          intro key member equal
          exact found ⟨key, member, equal⟩
        have twinMissing : ∀ key ∈ others.map (·.1), lower key ≠ lower other := by
          intro key member
          rw [← names]
          exact missing key ((listed key).mpr member)
        rw [value?_of_not_mem rfl missing, value?_of_not_mem rfl twinMissing]

/-! ## The text searched by terms without a field -/

theorem toLower_intercalate_blank (words : List String) :
    (" ".intercalate words).toLower = " ".intercalate (words.map String.toLower) := by
  induction words with
  | nil => exact toLower_empty
  | cons word words induction =>
      cases words with
      | nil => rw [List.map_singleton, String.intercalate_singleton, String.intercalate_singleton]
      | cons next words =>
          have blank : " ".toLower = " " := toLower_ofList [' ']
          rw [String.intercalate_cons_cons, toLower_append, toLower_append, induction, blank,
            List.map_cons, List.map_cons, List.map_cons, String.intercalate_cons_cons]

/-- The values of the default names, in small letters. -/
theorem toLower_defaultText (values : List (String × String)) (defaults : List String) :
    (" ".intercalate (defaults.map fun name => (values.lookup name).getD "")).toLower =
      " ".intercalate
        (defaults.map fun name => ((values.lookup name).map String.toLower).getD "") := by
  have lowered : ∀ value : Option String,
      (value.getD "").toLower = (value.map String.toLower).getD "" := by
    intro value
    cases value with
    | none => exact toLower_empty
    | some value => rfl
  rw [toLower_intercalate_blank, List.map_map]
  congr 1
  exact List.map_congr_left fun name _ => lowered (values.lookup name)

theorem searchText_of_sameLetters (same : record.contents.SameLetters twin.contents) :
    record.searchText = twin.searchText := by
  rcases record with ⟨id, contents, cells⟩
  rcases twin with ⟨twinId, twinContents, twinCells⟩
  cases same with
  | text same => exact lower_of_sameLetters same
  | fields defaults same =>
      apply lower_of_sameLetters
      rw [SameLetters, toLower_defaultText, toLower_defaultText]
      simp only [same]

end Record

namespace Filter

theorem Relation.holds_toLower (relation : Relation) (value text : String) :
    relation.holds value.toLower text = relation.holds value text := by
  simp only [holds, toList_toLower, lowerChars_map_toLower, lower_toLower,
    leadingInteger?_map_toLower]

theorem accepts_field (record : Record) (name : String) (relation : Relation) (text : String) :
    (field name relation text).accepts record =
      (record.value? name).any (relation.holds · text) := by
  rw [accepts]
  cases record.value? name <;> rfl

theorem accepts_lowerNames {record twin : Record}
    (same : record.contents.SameLetters twin.contents) (apart : record.contents.NamesApart)
    (filter : Filter) : filter.lowerNames.accepts twin = filter.accepts record := by
  induction filter with
  | anywhere text => rw [lowerNames, accepts, accepts, Record.searchText_of_sameLetters same]
  | field name relation text =>
      have values := Record.map_toLower_value? same apart (lower_toLower name).symm
      have held := congrArg (Option.any (relation.holds · text)) values
      simp only [Option.any_map, Relation.holds_toLower] at held
      rw [lowerNames, accepts_field, accepts_field, held]
  | both left right leftInduction rightInduction =>
      rw [lowerNames, accepts, accepts, leftInduction, rightInduction]
  | either left right leftInduction rightInduction =>
      rw [lowerNames, accepts, accepts, leftInduction, rightInduction]
  | negated inner induction => rw [lowerNames, accepts, accepts, induction]

end Filter

/-- A filter that differs in the case of ASCII letters accepts the same records,
and so it does if the record differs in the case of those in its text or its
values. -/
theorem Query.accepts_ignores_case (text other : String) (record twin : Record)
    (sameText : SameLetters text other) (apart : record.contents.NamesApart)
    (same : record.contents.SameLetters twin.contents) :
    (Query.compile text).accepts record = (Query.compile other).accepts twin := by
  have trees : (compile text).tree.map Filter.lowerNames =
      (compile other).tree.map Filter.lowerNames := by
    rw [← Filter.tree_compile_toLower, sameText, Filter.tree_compile_toLower]
  -- both trees are compared, at the same record, with the one that has small letters
  have first : ∀ filter : Filter, filter.lowerNames.accepts twin = filter.accepts record :=
    Filter.accepts_lowerNames same apart
  have second : ∀ filter : Filter, filter.lowerNames.accepts twin = filter.accepts twin :=
    Filter.accepts_lowerNames (.refl _) (same.namesApart apart)
  calc
    (compile text).accepts record
      = ((compile text).tree.map Filter.lowerNames).all (·.accepts twin) := by
        simp only [accepts, Option.all_map, first]
    _ = ((compile other).tree.map Filter.lowerNames).all (·.accepts twin) := by rw [trees]
    _ = (compile other).accepts twin := by
        simp only [accepts, Option.all_map, second]

/-- Fields are named in another case than the record has. A capital sigma, whose
lower case depends on the letters around it, has other letters around it. -/
theorem Query.accepts_ignores_case_sigma :
    let text := "CITY:\"aΣ b\" -(Size<10|x)"
    let other := "City:\"AΣ B\" -(sIZE<10|X)"
    let record : Record :=
      { id := .number 1, contents := .fields [("City", "OaΣ Bay"), ("size", "12 KB")] ["size"] }
    let twin : Record :=
      { id := .number 2, contents := .fields [("size", "12 kb"), ("City", "oAΣ bay")] ["size"] }
    SameLetters text other ∧ record.contents.NamesApart ∧
      record.contents.SameLetters twin.contents ∧
      (Query.compile text).accepts record = true ∧ (Query.compile other).accepts twin = true := by
  intro text other record twin
  have sameText : SameLetters text other := by decide +kernel
  have apart : record.contents.NamesApart := by decide +kernel
  have same : record.contents.SameLetters twin.contents := by
    refine .fields _ ?_
    have city : SameLetters "OaΣ Bay" "oAΣ bay" := by decide +kernel
    have size : SameLetters "12 KB" "12 kb" := by decide +kernel
    intro name
    by_cases isCity : name = "City"
    · subst isCity
      exact congrArg some city
    · by_cases isSize : name = "size"
      · subst isSize
        exact congrArg some size
      · simp [List.lookup_cons, beq_false_of_ne isCity, beq_false_of_ne isSize]
  have accepted : (Query.compile text).accepts record = true := by decide +kernel
  refine ⟨sameText, apart, same, accepted, ?_⟩
  rw [← accepts_ignores_case text other record twin sameText apart same, accepted]

end PagedTable
