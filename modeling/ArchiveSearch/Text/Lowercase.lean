import ArchiveSearch.Text.Basic
import ArchiveSearch.Text.CaseTable

/-!
# Lowercasing

The full lowercase mapping of Unicode, without a locale. Two characters leave the table of simple
mappings: `İ` becomes `i` with a combining dot above, and a capital sigma becomes a final sigma
where a word ends. A word ends at a sigma when a cased character stands before it and none after
it, characters that case ignores skipped on both sides; what stands before is carried along as one
truth value, so the mapping is a single pass.
-/

namespace ArchiveSearch.Text

/-- The property Cased. -/
def isCased (c : Char) : Bool :=
  inRanges c.toNat casedRanges

/-- The property Case_Ignorable. -/
def isCaseIgnorable (c : Char) : Bool :=
  inRanges c.toNat caseIgnorableRanges

/-- The lowercase form of a character that stands alone, U+0130 apart. -/
def lowerChar (c : Char) : Char :=
  match lowerIn? c.toNat caseRuns with
  | some n => .ofNat n
  | none => c

/-- Whether the first character that case does not ignore is cased. -/
def startsCased : Text → Bool
  | [] => false
  | c :: rest => if isCaseIgnorable c then startsCased rest else isCased c

/-- Whether the last character that case does not ignore is cased after `c`, when `cased` tells it
of the text before `c`. -/
def endsCased (cased : Bool) (c : Char) : Bool :=
  if isCaseIgnorable c then cased else isCased c

/-- The lowercase form of `c` between a text that ends cased or not and a text that starts cased or
not. -/
def lowerBetween (before : Bool) (c : Char) (after : Bool) : Text :=
  if c = 'İ' then ['i', '\u0307']
  else if c = 'Σ' then [if before && !after then 'ς' else 'σ']
  else [lowerChar c]

/-- The lowercase form of a text that stands after a text which ends cased or not. -/
def lowerAfter (before : Bool) : Text → Text
  | [] => []
  | c :: rest =>
      lowerBetween before c (startsCased rest) ++ lowerAfter (endsCased before c) rest

/-- The lowercase form of a text. -/
def lower (text : Text) : Text :=
  lowerAfter false text

end ArchiveSearch.Text
