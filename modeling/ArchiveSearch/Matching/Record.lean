import ArchiveSearch.Text.Basic

/-!
# Records

What a visibility pass leaves in the log: an element that it had no decision for, and the sum of the
whole pass. `Record.text` is the line of the log, its level first.
-/

namespace ArchiveSearch

/-- Something that happened during a visibility pass. -/
inductive Record where
  /-- No visibility was given for the element at `position`. -/
  | unassigned (position : Nat)
  /-- A pass of `filters` filters left `shown` of `total` elements shown. -/
  | applied (filters shown total : Nat)
  deriving DecidableEq, Repr

namespace Record

/-- The level at which a record is logged. -/
def level : Record → Text
  | unassigned _ => "DEBUG".toList
  | applied .. => "INFO".toList

/-- What a record reports. -/
def message : Record → Text
  | unassigned position =>
      "No visibility computed for element ".toList ++ position.repr.toList ++
        ", leaving it as is".toList
  | applied filters shown total =>
      "Applied ".toList ++ filters.repr.toList ++ " filter(s): ".toList ++ shown.repr.toList ++
        " of ".toList ++ total.repr.toList ++ " element(s) shown".toList

/-- A record as a line of the log. -/
def text (record : Record) : Text :=
  record.level ++ ' ' :: record.message

end Record

end ArchiveSearch
