import ArchiveSearch.Matching.Candidate

/-!
# Probes

A probe is an element that keeps account of what is done to it: which attributes were read, in
order, and how often it was switched. Judging probes shows which filters were consulted.
-/

namespace ArchiveSearch

/-- An element that records what is done to it. -/
structure Probe where
  title : Text
  categories : Text
  visible : Bool := true
  /-- How often the element was shown or hidden. -/
  switches : Nat := 0
  /-- The attributes that were read, the first one first. -/
  reads : List Field := []
  deriving DecidableEq, Repr

instance : Toggle Probe where
  textOf probe
    | .title => probe.title
    | .category => probe.categories
  afterReading probe field := { probe with reads := probe.reads ++ [field] }
  textOf_afterReading _ _ field := by cases field <;> rfl
  setVisible probe visible := { probe with visible, switches := probe.switches + 1 }

end ArchiveSearch
