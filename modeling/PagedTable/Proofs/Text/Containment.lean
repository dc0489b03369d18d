import PagedTable.Text.LowerCase
import PagedTable.Text.Search

/-! # Texts within texts

The search finds a text wherever it stands. In lower case it may stand there no
more, because a sigma that ends the text takes another form if it does not end a
word of the whole. -/

namespace PagedTable.Text

/-! ## Search -/

theorem firstAt?_eq_zero_iff {part chars : List Char} :
    firstAt? part chars = some 0 ↔ part <+: chars := by
  cases chars with
  | nil => cases part <;> simp [firstAt?]
  | cons char rest =>
      rw [firstAt?, ← List.isPrefixOf_iff_prefix]
      split
      case isTrue here => simp [here]
      case isFalse elsewhere => simp [elsewhere]

theorem occursIn_iff (part whole : List Char) :
    occursIn part whole = true ↔ part <:+: whole := by
  unfold occursIn
  induction whole with
  | nil => cases part <;> simp [firstAt?]
  | cons char rest induction =>
      rw [firstAt?, List.infix_cons_iff, ← List.isPrefixOf_iff_prefix]
      split
      case isTrue here => simp [here]
      case isFalse elsewhere => simp [elsewhere, induction]

/-! ## Capital sigmas -/

/-- Whether each capital sigma of a part has the same lower case as when there is
nothing around the part. What comes before is given with its nearest character
first. -/
def KeepsSigmas (before part after : List Char) : Prop :=
  ∀ place < part.length, part[place]? = some 'Σ' →
    lowerSigma ((part.take place).reverse ++ before) (part.drop (place + 1) ++ after) =
      lowerSigma (part.take place).reverse (part.drop (place + 1))

instance (before part after : List Char) : Decidable (KeepsSigmas before part after) :=
  inferInstanceAs (Decidable (∀ place < part.length, _))

theorem KeepsSigmas.of_not_mem {part : List Char} (absent : 'Σ' ∉ part)
    (before after : List Char) : KeepsSigmas before part after := by
  intro place _ sigma
  exact absurd (List.mem_of_getElem? sigma) absent

theorem KeepsSigmas.lowerSigma_eq {before part after first last : List Char}
    (keeps : KeepsSigmas before part after) (split : part = first ++ 'Σ' :: last) :
    lowerSigma (first.reverse ++ before) (last ++ after) = lowerSigma first.reverse last := by
  have same := keeps first.length (by simp [split]) (by simp [split])
  rw [split] at same
  simpa using same

/-! ## Lower case -/

theorem lowerAfter_suffix (own before rest : List Char) :
    lowerAfter (before.reverse ++ own) rest <:+ lowerAfter own (before ++ rest) := by
  induction before generalizing own with
  | nil => exact List.suffix_rfl
  | cons char before induction =>
      have behind := induction (char :: own)
      rw [List.cons_append, lowerAfter, List.reverse_cons, List.append_assoc]
      exact behind.trans (List.suffix_append _ _)

/-- The lower case of a part, with others around it than are there. -/
theorem lowerAfter_append {before others part after : List Char}
    (sigmas : ∀ first last, part = first ++ 'Σ' :: last →
      lowerSigma (first.reverse ++ before) (last ++ after) =
        lowerSigma (first.reverse ++ others) last) :
    lowerAfter before (part ++ after) =
      lowerAfter others part ++ lowerAfter (part.reverse ++ before) after := by
  induction part generalizing before others with
  | nil => rfl
  | cons char rest induction =>
      have heads : char = 'Σ' → lowerSigma before (rest ++ after) = lowerSigma others rest := by
        rintro rfl
        exact sigmas [] rest rfl
      have rests : lowerAfter (char :: before) (rest ++ after) =
          lowerAfter (char :: others) rest ++
            lowerAfter (rest.reverse ++ char :: before) after := by
        apply induction
        intro first last split
        simpa using sigmas (char :: first) last (congrArg (char :: ·) split)
      rw [List.cons_append, lowerAfter, lowerAfter, rests]
      split
      case isTrue sigma => simp [heads sigma]
      case isFalse => simp

/-- A part of a text is still one in lower case. -/
theorem lowerChars_infix {before part after : List Char}
    (keeps : KeepsSigmas before.reverse part after) :
    lowerChars part <:+: lowerChars (before ++ part ++ after) := by
  have behind : lowerAfter before.reverse (part ++ after) <:+
      lowerChars (before ++ part ++ after) := by
    have suffix := lowerAfter_suffix [] before (part ++ after)
    rw [List.append_nil, ← List.append_assoc] at suffix
    exact suffix
  have split : lowerAfter before.reverse (part ++ after) =
      lowerChars part ++ lowerAfter (part.reverse ++ before.reverse) after := by
    apply lowerAfter_append
    intro first last split
    rw [List.append_nil]
    exact keeps.lowerSigma_eq split
  rw [split] at behind
  exact (List.prefix_append _ _).isInfix.trans behind.isInfix

theorem lower_infix {before part after : String}
    (keeps : KeepsSigmas before.toList.reverse part.toList after.toList) :
    (lower part).toList <:+: (lower (before ++ part ++ after)).toList := by
  rw [lower, lower, String.toList_ofList, String.toList_ofList, String.toList_append,
    String.toList_append]
  exact lowerChars_infix keeps

end PagedTable.Text
