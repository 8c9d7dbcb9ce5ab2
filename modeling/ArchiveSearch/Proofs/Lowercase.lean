import ArchiveSearch.Text.Lowercase

/-!
# What lowercasing leaves alone

Every lowercase form that is not the character itself stands at `a` or above. So a character below,
such as a line feed, a tab, a quote or a digit, is in a lowered text only if it is in the text; and
one below `A` as often as it is there. No lowercase form has another lowercase form, at the end of a
word or elsewhere, because the table maps none of its images again. So a text of such forms is left
as it is, and lowercasing twice is lowercasing once (`Text.lower_lower`).
-/

namespace ArchiveSearch.Text

/-- The images of a run of the table are characters. None of them stands below `a`, and none is
`İ`. -/
theorem caseRuns_image : ∀ run ∈ caseRuns, 0x61 ≤ run.lower ∧
    (run.lower + (run.last - run.first) < 0xD800 ∨
      0xDFFF < run.lower ∧ run.lower + (run.last - run.first) < 0x110000) ∧
    (run.lower + (run.last - run.first) < 0x130 ∨ 0x130 < run.lower) := by
  decide +kernel

/-- A run covers the values from its first to its last, in steps of its stride. -/
theorem CaseRun.covers_iff {run : CaseRun} {n : Nat} :
    run.covers n = true ↔
      run.first ≤ n ∧ n ≤ run.last ∧ (n - run.first) % run.stride = 0 := by
  simp only [covers, Bool.and_eq_true, decide_eq_true_eq, beq_iff_eq, and_assoc]

/-- A value that is found was mapped by a run that covers it. -/
theorem lowerIn?_eq_some {n m : Nat} {runs : List CaseRun} (h : lowerIn? n runs = some m) :
    ∃ run ∈ runs, run.covers n = true ∧ m = run.lower + (n - run.first) := by
  induction runs with
  | nil => cases h
  | cons run runs ih =>
      unfold lowerIn? at h
      split at h
      · cases h
      · split at h
        · rename_i hcovers
          cases h
          exact ⟨run, List.mem_cons_self, hcovers, rfl⟩
        · obtain ⟨later, hlater, hm⟩ := ih h
          exact ⟨later, List.mem_cons_of_mem run hlater, hm⟩

/-- A character is its own lowercase form, or the form is its image under a run that covers it. -/
theorem lowerChar_eq_or_image (c : Char) :
    lowerChar c = c ∨ ∃ run ∈ caseRuns, run.covers c.toNat = true ∧
      (lowerChar c).toNat = run.lower + (c.toNat - run.first) := by
  unfold lowerChar
  cases h : lowerIn? c.toNat caseRuns with
  | none => exact .inl rfl
  | some n =>
      right
      obtain ⟨run, hrun, hcovers, hn⟩ := lowerIn?_eq_some h
      refine ⟨run, hrun, hcovers, ?_⟩
      have himage := caseRuns_image run hrun
      have hlast := (CaseRun.covers_iff.mp hcovers).2.1
      have hvalid : n.isValidChar := by
        unfold Nat.isValidChar
        omega
      rw [← hn]
      show (Char.ofNat n).toNat = n
      rw [Char.ofNat, dif_pos hvalid]
      rfl

/-- A character is its own lowercase form, or the form stands at `a` or above. -/
theorem lowerChar_eq_or_le (c : Char) : lowerChar c = c ∨ 0x61 ≤ (lowerChar c).toNat := by
  apply (lowerChar_eq_or_image c).imp_right
  intro himage
  obtain ⟨run, hrun, -, hn⟩ := himage
  have hlower := (caseRuns_image run hrun).1
  omega

/-- A character below `a` that lowercasing gives is the character that was lowercased. -/
theorem eq_of_mem_lowerBetween {c d : Char} {before after : Bool} (hc : c.toNat < 0x61)
    (h : c ∈ lowerBetween before d after) : c = d := by
  unfold lowerBetween at h
  split at h
  · simp only [List.mem_cons, List.not_mem_nil, or_false] at h
    rcases h with hi | hdot
    · rw [hi] at hc
      exact absurd hc (by decide)
    · rw [hdot] at hc
      exact absurd hc (by decide)
  · split at h
    · have hsigma := List.mem_singleton.mp h
      split at hsigma <;>
        · rw [hsigma] at hc
          exact absurd hc (by decide)
    · have hlower := List.mem_singleton.mp h
      rcases lowerChar_eq_or_le d with hself | hle
      · exact hlower.trans hself
      · rw [hlower] at hc
        omega

/-- A character below `a` that stands in a lowercased text stands in the text itself. -/
theorem mem_lowerAfter_of_lt {c : Char} {before : Bool} {text : Text} (hc : c.toNat < 0x61)
    (h : c ∈ lowerAfter before text) : c ∈ text := by
  induction text generalizing before with
  | nil => exact h
  | cons d rest ih =>
      rcases List.mem_append.mp h with hfirst | hrest
      · rw [eq_of_mem_lowerBetween hc hfirst]
        exact List.mem_cons_self
      · exact List.mem_cons_of_mem d (ih hrest)

/-- Lowercasing brings in nothing below `a`. -/
theorem mem_lower_of_lt {c : Char} {text : Text} (hc : c.toNat < 0x61) (h : c ∈ lower text) :
    c ∈ text :=
  mem_lowerAfter_of_lt hc h

/-! ## Lowered characters -/

/-- A character that lowercasing leaves alone wherever it stands. -/
structure IsLowered (c : Char) : Prop where
  lowerChar_eq : lowerChar c = c
  ne_dotted : c ≠ 'İ'
  ne_sigma : c ≠ 'Σ'

instance (c : Char) : Decidable (IsLowered c) :=
  decidable_of_iff (lowerChar c = c ∧ c ≠ 'İ' ∧ c ≠ 'Σ')
    ⟨fun h => ⟨h.1, h.2.1, h.2.2⟩, fun h => ⟨h.lowerChar_eq, h.ne_dotted, h.ne_sigma⟩⟩

/-- Whether some runs map no value from `low` up to `high`, or, if only values at even distances
from `low` count, none of these. The search ends where that of `lowerIn?` does. -/
def unmapped (low high : Nat) (even : Bool) : List CaseRun → Bool
  | [] => true
  | run :: runs =>
      bif Nat.ble run.first high then
        (bif Nat.ble low run.last then even && run.stride == 2 && (low + run.first) % 2 == 1
          else true) && unmapped low high even runs
      else true

/-- A value in a stretch that no run maps is not found. -/
theorem lowerIn?_of_unmapped {low high n : Nat} {even : Bool} {runs : List CaseRun}
    (h : unmapped low high even runs = true) (hlow : low ≤ n) (hhigh : n ≤ high)
    (heven : even = true → (n - low) % 2 = 0) : lowerIn? n runs = none := by
  induction runs with
  | nil => rfl
  | cons run runs ih =>
      rw [lowerIn?]
      by_cases hfirst : n < run.first
      · rw [if_pos hfirst]
      · rw [unmapped, Nat.ble_eq_true_of_le (by omega), cond_true, Bool.and_eq_true] at h
        have hcovers : ¬ run.covers n = true := by
          intro hcovers
          obtain ⟨-, hlast, hstride⟩ := CaseRun.covers_iff.mp hcovers
          have hbetween := h.1
          rw [Nat.ble_eq_true_of_le (by omega), cond_true] at hbetween
          simp only [Bool.and_eq_true, beq_iff_eq] at hbetween
          obtain ⟨⟨hcount, htwo⟩, hodd⟩ := hbetween
          have hdistance := heven hcount
          rw [htwo] at hstride
          omega
        rw [if_neg hfirst, if_neg hcovers]
        exact ih h.2

/-- No image of the table is mapped again. -/
theorem caseRuns_unmapped : (caseRuns.all fun run =>
    unmapped run.lower (run.lower + (run.last - run.first))
      (run.first == run.last || run.stride == 2) caseRuns) = true := by
  decide +kernel

/-- What the table gives is not found in the table again. -/
theorem lowerIn?_image {run : CaseRun} {n : Nat} (hrun : run ∈ caseRuns)
    (hcovers : run.covers n = true) : lowerIn? (run.lower + (n - run.first)) caseRuns = none := by
  obtain ⟨hfirst, hlast, hstride⟩ := CaseRun.covers_iff.mp hcovers
  have hunmapped := List.all_eq_true.mp caseRuns_unmapped run hrun
  -- runs of one value and runs that skip every other have images at even distances
  refine lowerIn?_of_unmapped hunmapped (by omega) (by omega) ?_
  intro heven
  rw [Bool.or_eq_true, beq_iff_eq, beq_iff_eq] at heven
  rcases heven with hsingle | htwo
  · omega
  · rw [htwo] at hstride
    omega

/-- The lowercase form of a character that stands alone is lowered. -/
theorem isLowered_lowerChar {c : Char} (hdotted : c ≠ 'İ') (hsigma : c ≠ 'Σ') :
    IsLowered (lowerChar c) := by
  rcases lowerChar_eq_or_image c with hself | ⟨run, hrun, hcovers, himage⟩
  · rw [hself]
    exact ⟨hself, hdotted, hsigma⟩
  · have hnone := lowerIn?_image hrun hcovers
    rw [← himage] at hnone
    refine ⟨?_, ?_, ?_⟩
    · rw [lowerChar, hnone]
    · intro heq
      obtain ⟨-, -, hrange⟩ := caseRuns_image run hrun
      have hlast := (CaseRun.covers_iff.mp hcovers).2.1
      have hvalue : (lowerChar c).toNat = 0x130 := by rw [heq]; rfl
      omega
    · intro heq
      rw [heq] at hnone
      exact absurd hnone (by decide +kernel)

/-- All that lowercasing makes of a character is lowered, both sigmas and the dot above included. -/
theorem isLowered_of_mem_lowerBetween {c d : Char} {before after : Bool}
    (h : c ∈ lowerBetween before d after) : IsLowered c := by
  unfold lowerBetween at h
  split at h
  · simp only [List.mem_cons, List.not_mem_nil, or_false] at h
    rcases h with rfl | rfl <;> decide +kernel
  · rename_i hdotted
    split at h
    · have hsigma := List.mem_singleton.mp h
      rw [hsigma]
      split <;> decide +kernel
    · rename_i hsigma
      rw [List.mem_singleton.mp h]
      exact isLowered_lowerChar hdotted hsigma

/-- A lowercased text has lowered characters only. -/
theorem isLowered_of_mem_lowerAfter {c : Char} {before : Bool} {text : Text}
    (h : c ∈ lowerAfter before text) : IsLowered c := by
  induction text generalizing before with
  | nil => cases h
  | cons d rest ih =>
      rcases List.mem_append.mp h with hfirst | hrest
      · exact isLowered_of_mem_lowerBetween hfirst
      · exact ih hrest

/-- A lowered character stays as it is, wherever in a word it stands. -/
theorem lowerBetween_of_isLowered {c : Char} (h : IsLowered c) (before after : Bool) :
    lowerBetween before c after = [c] := by
  rw [lowerBetween, if_neg h.ne_dotted, if_neg h.ne_sigma, h.lowerChar_eq]

/-- A text of lowered characters stays as it is. -/
theorem lowerAfter_of_isLowered {text : Text} (h : ∀ c ∈ text, IsLowered c) (before : Bool) :
    lowerAfter before text = text := by
  induction text generalizing before with
  | nil => rfl
  | cons c rest ih =>
      rw [lowerAfter, lowerBetween_of_isLowered (h c List.mem_cons_self),
        ih fun d hd => h d (List.mem_cons_of_mem c hd)]
      rfl

/-- **Lowercasing twice is lowercasing once.** -/
theorem lower_lower (text : Text) : lower (lower text) = lower text :=
  lowerAfter_of_isLowered (fun _ => isLowered_of_mem_lowerAfter) false

/-- What stands below `A` has no other lowercase form. -/
theorem isLowered_of_lt {c : Char} (h : c.toNat < 0x41) : IsLowered c := by
  refine ⟨?_, ?_, ?_⟩
  · unfold lowerChar caseRuns lowerIn?
    rw [if_pos h]
  · intro hdotted
    rw [hdotted] at h
    exact absurd h (by decide)
  · intro hsigma
    rw [hsigma] at h
    exact absurd h (by decide)

/-- A character below `A` is lowercased to itself, and nothing else is lowercased to it. -/
theorem count_lowerBetween_of_lt {c : Char} (hc : c.toNat < 0x41) (d : Char) (before after : Bool) :
    (lowerBetween before d after).count c = [d].count c := by
  by_cases heq : d = c
  · rw [heq, lowerBetween_of_isLowered (isLowered_of_lt hc)]
  · have hnot : c ∉ lowerBetween before d after := fun hmem =>
      heq (eq_of_mem_lowerBetween (by omega) hmem).symm
    rw [List.count_eq_zero.mpr hnot, List.count_eq_zero.mpr (by simpa using Ne.symm heq)]

/-- A character below `A` stands in a lowercased text as often as in the text. -/
theorem count_lowerAfter_of_lt {c : Char} (hc : c.toNat < 0x41) (before : Bool) (text : Text) :
    (lowerAfter before text).count c = text.count c := by
  induction text generalizing before with
  | nil => rfl
  | cons d rest ih =>
      have hcons : ([d] ++ rest).count c = [d].count c + rest.count c := List.count_append
      rw [lowerAfter, List.count_append, count_lowerBetween_of_lt hc, ih, ← hcons]
      rfl

/-- Lowercasing neither brings in nor takes away what stands below `A`. -/
theorem count_lower_of_lt {c : Char} (hc : c.toNat < 0x41) (text : Text) :
    (lower text).count c = text.count c :=
  count_lowerAfter_of_lt hc false text

end ArchiveSearch.Text
