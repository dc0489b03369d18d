import PagedTable.Filter.Match
import PagedTable.Proofs.Filter.Writing
import PagedTable.Proofs.Text.Containment

/-! # Finding what is there

A quoted text is looked for as it stands, but for letter case. So a filter finds the
records that hold a text, apart from those where a sigma has another lower case in
the record than it has in the filter. -/

namespace PagedTable.Filter

open Text Word

/-! ## Filters of one quoted text -/

section

variable {text : String} {record : Record} (unquoted : '"' ∉ text.toList)

include unquoted

theorem compile_inQuotes :
    (Query.compile (inQuotes text)).tree = some (anywhere (lower text)) := by
  have tokens := lexes_quoted unquoted [] endsBefore_nil
  rw [List.append_nil, Token.lex_nil, List.append_nil] at tokens
  rw [Query.compile, tokens, ← ofWord_quoted text]
  rfl

theorem compile_field {name : String} (relation : Relation)
    (isName : isFieldName name.toList = true) :
    (Query.compile (name ++ relation.symbol ++ inQuotes text)).tree =
      some (field name relation (lower text)) := by
  have tokens := lexes_field relation isName unquoted [] endsBefore_nil
  rw [List.append_nil, Token.lex_nil, List.append_nil] at tokens
  rw [Query.compile, tokens, ← ofWord_field relation isName text]
  rfl

theorem accepts_inQuotes_iff :
    (Query.compile (inQuotes text)).accepts record = true ↔
      (lower text).toList <:+: record.searchText.toList := by
  rw [Query.accepts, compile_inQuotes unquoted, Option.all_some, accepts, occursIn_iff]

theorem accepts_contains_iff {name whole : String} (isName : isFieldName name.toList = true)
    (value : record.value? name = some whole) :
    (Query.compile (name ++ ":" ++ inQuotes text)).accepts record = true ↔
      (lower text).toList <:+: (lower whole).toList := by
  have tree := compile_field unquoted .contains isName
  rw [Query.accepts, show ":" = Relation.contains.symbol from rfl, tree, Option.all_some, accepts,
    value]
  simp only [Relation.holds, occursIn_iff, lower, String.toList_ofList]

end

/-! ## What is there is found -/

/-- A quoted text is found, anywhere or in a field, where the lower case of what is
searched holds its lower case. That is so where the text itself stands, provided that
its capital sigmas have the same lower case there as by themselves. -/
theorem accepts_what_is_there {part whole : String} (unquoted : '"' ∉ part.toList) :
    (∀ record : Record, record.contents = .text whole →
      ((Query.compile (inQuotes part)).accepts record = true ↔
        (lower part).toList <:+: (lower whole).toList)) ∧
    (∀ (record : Record) (name : String), isFieldName name.toList = true →
      record.value? name = some whole →
        ((Query.compile (name ++ ":" ++ inQuotes part)).accepts record = true ↔
          (lower part).toList <:+: (lower whole).toList)) ∧
    ∀ before after : String, whole = before ++ part ++ after →
      ('Σ' ∈ part.toList → KeepsSigmas before.toList.reverse part.toList after.toList) →
        (lower part).toList <:+: (lower whole).toList := by
  refine ⟨?_, ?_, ?_⟩
  · intro record contents
    rw [accepts_inQuotes_iff unquoted, Record.searchText, contents]
  · intro record name isName value
    exact accepts_contains_iff unquoted isName value
  · rintro before after rfl keeps
    apply lower_infix
    by_cases member : 'Σ' ∈ part.toList
    · exact keeps member
    · exact .of_not_mem member _ _

/-- A word with a sigma at its end, in front of another word. -/
theorem accepts_what_is_there_before_blank :
    let record : Record := { id := .number 1, contents := .text "ΩΣ ΕΔΩ" }
    let named : Record := { id := .number 1, contents := .fields [("title", "ΩΣ ΕΔΩ")] [] }
    (Query.compile "\"ΩΣ\"").accepts record = true ∧
      (Query.compile "title:\"ΩΣ\"").accepts named = true := by
  intro record named
  have keeps : KeepsSigmas "".toList.reverse "ΩΣ".toList " ΕΔΩ".toList := by decide +kernel
  have unquoted : '"' ∉ "ΩΣ".toList := by decide
  rcases accepts_what_is_there unquoted with ⟨anywhere, field, stands⟩
  have found := stands "" " ΕΔΩ" rfl fun _ => keeps
  exact ⟨(anywhere record rfl).mpr found, (field named "title" (by decide) rfl).mpr found⟩

/-- A text is cut off right behind a sigma, which ends a word then. -/
theorem misses_text_before_letter :
    let record : Record := { id := .number 1, contents := .text "ΟΣΑ" }
    let named : Record := { id := .number 1, contents := .fields [("name", "ΟΣΑ")] [] }
    "ΟΣΑ" = "" ++ "ΟΣ" ++ "Α" ∧ "ΟΣ" ≠ "" ∧ '"' ∉ "ΟΣ".toList ∧
      (Query.compile (inQuotes "ΟΣ")).accepts record = false ∧
      named.value? "name" = some "ΟΣΑ" ∧
      (Query.compile ("name" ++ ":" ++ inQuotes "ΟΣ")).accepts named = false := by
  intro record named
  have unquoted : '"' ∉ "ΟΣ".toList := by decide
  have final : lower "ΟΣ" = "ος" := by decide +kernel
  have inner : lower "ΟΣΑ" = "οσα" := by decide +kernel
  have absent : ¬ (lower "ΟΣ").toList <:+: (lower "ΟΣΑ").toList := by
    rw [final, inner]
    decide
  refine ⟨rfl, by decide, unquoted, ?_, rfl, ?_⟩
  · rw [Bool.eq_false_iff, Ne, accepts_inQuotes_iff unquoted]
    exact absent
  · rw [Bool.eq_false_iff, Ne, accepts_contains_iff unquoted (by decide) rfl]
    exact absent

end PagedTable.Filter
