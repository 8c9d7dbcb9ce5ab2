import ArchiveSearch.Query.Filter

/-!
# Judging candidates

A candidate has the two attributes that filters look at. Filters are consulted in order and the
first one that hides the candidate ends it, so later filters never look at it; `judge` gives the
verdict together with the candidate after it has been looked at, because a candidate may keep count
of who reads it. The verdict itself does not depend on where the judging stops
(`isVisible_eq_all`).

Attributes are compared as they are stored: filters hold lowercased text, and who stores attributes
is expected to lowercase them.
-/

namespace ArchiveSearch

/-- Something that a query can be matched against. -/
class Candidate (α : Type) where
  /-- The text of an attribute. -/
  textOf : α → Field → Text
  /-- The candidate after one of its attributes has been read. -/
  afterReading : α → Field → α := fun candidate _ => candidate
  /-- Reading changes no attribute. -/
  textOf_afterReading : ∀ (candidate : α) (read field : Field),
    textOf (afterReading candidate read) field = textOf candidate field := by
      intros; rfl

/-- A candidate that can be shown and hidden. -/
class Toggle (α : Type) extends Candidate α where
  setVisible : α → Bool → α

variable {α : Type} [Candidate α]

/-- Whether a filter lets a candidate pass: the attribute holds the value and the filter does not
exclude, or neither. -/
def Filter.passes (filter : Filter) (candidate : α) : Bool :=
  Text.occursIn filter.value (Candidate.textOf candidate filter.field) != filter.exclude

/-- A filter lets pass what holds its value or, if it excludes, what does not. -/
theorem Filter.passes_iff {filter : Filter} {candidate : α} :
    filter.passes candidate = true ↔
      (filter.value <:+: Candidate.textOf candidate filter.field ↔ filter.exclude = false) := by
  rw [Filter.passes, ← Text.occursIn_iff]
  cases filter.exclude <;> simp

/-- Consults filters in order up to the first that hides the candidate. Gives whether the candidate
is visible, and the candidate after the readings. -/
def judge : List Filter → α → Bool × α
  | [], candidate => (true, candidate)
  | filter :: filters, candidate =>
      let read := Candidate.afterReading candidate filter.field
      if filter.passes candidate then judge filters read else (false, read)

/-- Whether some filters leave a candidate visible. -/
def isVisible (filters : List Filter) (candidate : α) : Bool :=
  (judge filters candidate).1

/-- Reading a text changes no verdict. -/
theorem passes_afterReading (filter : Filter) (candidate : α) (field : Field) :
    filter.passes (Candidate.afterReading candidate field) = filter.passes candidate := by
  rw [Filter.passes, Filter.passes, Candidate.textOf_afterReading]

/-- A candidate is visible exactly when every filter lets it pass. -/
theorem isVisible_eq_all (filters : List Filter) (candidate : α) :
    isVisible filters candidate = filters.all (·.passes candidate) := by
  induction filters generalizing candidate with
  | nil => rfl
  | cons filter filters ih =>
      rw [isVisible] at *
      rw [judge, List.all_cons]
      cases h : filter.passes candidate with
      | false => simp
      | true =>
          simp only [if_true, Bool.true_and]
          exact (ih _).trans (by simp only [passes_afterReading])

end ArchiveSearch
