import ArchiveSearch.Text.Lowercase

/-!
# Lowercasing a word where it stands

The lowercase form of a text is put together from those of its pieces, but a piece is lowercased
where it stands: a capital sigma looks at what is before and behind it, to tell whether it ends a
word. `Text.lowerPart` is what becomes of a word inside a text (`Text.lower_append`). It differs
from the lowercase form of the word alone in sigmas at most, and it is the same exactly if each
capital sigma decides as it would in the word alone (`Text.lowerPart_eq_lower_iff`). Both ways of
deciding otherwise exist: `ΑΣ` ends in a final sigma, and in `ΑΣΑ` it does not; `Σ` has none, and in
`ΑΣ` it is one.
-/

namespace ArchiveSearch.Text

/-- Between two texts a word ends: the first ends cased, and the second does not start cased. -/
def EndsWord (before after : Text) : Prop :=
  before.foldl endsCased false = true ∧ startsCased after = false

/-- Each capital sigma of a word that stands between two texts ends a word there exactly if it ends
one in the word alone. -/
def KeepsSigmas (before word after : Text) : Prop :=
  ∀ first second, word = first ++ 'Σ' :: second →
    (EndsWord (before ++ first) (second ++ after) ↔ EndsWord first second)

/-- The lowercase form of a word between a text that ends cased or not and the text `after`. -/
def lowerPart (cased : Bool) (after : Text) : Text → Text
  | [] => []
  | c :: rest =>
      lowerBetween cased c (startsCased (rest ++ after)) ++
        lowerPart (endsCased cased c) after rest

/-- The parts of a text are lowercased where they stand. -/
theorem lowerAfter_append (cased : Bool) (word after : Text) :
    lowerAfter cased (word ++ after) =
      lowerPart cased after word ++ lowerAfter (word.foldl endsCased cased) after := by
  induction word generalizing cased with
  | nil => rfl
  | cons c rest ih =>
      rw [List.cons_append, lowerAfter, ih, lowerPart, List.append_assoc]
      rfl

/-- With nothing behind it a word is lowercased as it is alone. -/
theorem lowerAfter_eq_lowerPart (cased : Bool) (word : Text) :
    lowerAfter cased word = lowerPart cased [] word := by
  have h := lowerAfter_append cased word []
  rwa [List.append_nil, lowerAfter, List.append_nil] at h

/-- The lowercase form of a text has a part for each of its pieces. -/
theorem lower_append (before word after : Text) :
    lower (before ++ (word ++ after)) =
      lowerPart false (word ++ after) before ++
        (lowerPart (before.foldl endsCased false) after word ++
          lowerAfter (word.foldl endsCased (before.foldl endsCased false)) after) := by
  rw [lower, lowerAfter_append, lowerAfter_append]

/-- How long the lowercase form of a character is does not depend on its place. -/
theorem length_lowerBetween (c : Char) (before after before' after' : Bool) :
    (lowerBetween before c after).length = (lowerBetween before' c after').length := by
  unfold lowerBetween
  split
  · rfl
  · split <;> rfl

/-- Only a capital sigma depends on its place, and only by whether it ends a word. -/
theorem lowerBetween_eq_iff (c : Char) (before after before' after' : Bool) :
    lowerBetween before c after = lowerBetween before' c after' ↔
      (c = 'Σ' → (before = true ∧ after = false ↔ before' = true ∧ after' = false)) := by
  by_cases hsigma : c = 'Σ'
  · rw [hsigma]
    revert before after before' after'
    decide
  · have hsame : lowerBetween before c after = lowerBetween before' c after' := by
      unfold lowerBetween
      rw [if_neg hsigma, if_neg hsigma]
    exact ⟨fun _ h => absurd h hsigma, fun _ => hsame⟩

/-- A word is lowercased in the same way at two places exactly if all its capital sigmas are. -/
theorem lowerPart_eq_iff (cased cased' : Bool) (word after after' : Text) :
    lowerPart cased after word = lowerPart cased' after' word ↔
      ∀ first second, word = first ++ 'Σ' :: second →
        (first.foldl endsCased cased = true ∧ startsCased (second ++ after) = false ↔
          first.foldl endsCased cased' = true ∧ startsCased (second ++ after') = false) := by
  induction word generalizing cased cased' with
  | nil =>
      refine ⟨fun _ first second hword => ?_, fun _ => rfl⟩
      cases first <;> cases hword
  | cons c rest ih =>
      rw [lowerPart, lowerPart]
      constructor
      · intro hsame first second hword
        obtain ⟨hfirst, hrest⟩ := List.append_inj hsame (length_lowerBetween ..)
        cases first with
        | nil =>
            cases hword
            exact (lowerBetween_eq_iff ..).mp hfirst rfl
        | cons d first =>
            cases hword
            exact (ih _ _).mp hrest first second rfl
      · intro hall
        have hfirst := (lowerBetween_eq_iff c cased (startsCased (rest ++ after)) cased'
          (startsCased (rest ++ after'))).mpr (by rintro rfl; exact hall [] rest rfl)
        have hrest := (ih (endsCased cased c) (endsCased cased' c)).mpr
          fun first second hrest => hall (c :: first) second (by rw [hrest]; rfl)
        rw [hfirst, hrest]

/-- **A word keeps its lowercase form inside a text exactly if it keeps its sigmas.** -/
theorem lowerPart_eq_lower_iff (before word after : Text) :
    lowerPart (before.foldl endsCased false) after word = lower word ↔
      KeepsSigmas before word after := by
  rw [lower, lowerAfter_eq_lowerPart, lowerPart_eq_iff]
  simp only [KeepsSigmas, EndsWord, List.foldl_append, List.append_nil]

instance (before word after : Text) : Decidable (KeepsSigmas before word after) :=
  decidable_of_iff _ (lowerPart_eq_lower_iff before word after)

/-- A word that keeps its sigmas is found in the lowercase form of the text. -/
theorem lower_infix {before word after : Text} (h : KeepsSigmas before word after) :
    lower word <:+: lower (before ++ (word ++ after)) := by
  rw [lower_append, (lowerPart_eq_lower_iff before word after).mpr h]
  exact ⟨_, _, List.append_assoc _ _ _⟩

/-- A word without a capital sigma has none to lose. -/
theorem keepsSigmas_of_not_mem {word : Text} (h : 'Σ' ∉ word) (before after : Text) :
    KeepsSigmas before word after := by
  intro first second hword
  exact absurd (by simp [hword]) h

example : KeepsSigmas "Σ".toList "ΟΣ".toList "!".toList ∧
    ¬ KeepsSigmas [] "ΑΣ".toList "Α".toList ∧ ¬ KeepsSigmas "Α".toList "Σ".toList [] := by
  decide +kernel

end ArchiveSearch.Text
