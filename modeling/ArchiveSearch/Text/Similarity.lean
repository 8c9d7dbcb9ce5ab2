import ArchiveSearch.Text.Basic

/-!
# Similarity of names

The measure of Jaro for how alike two names are. Going through the first name from the left, each
character is matched with the first free character of the second name that equals it and stands
less than half the longer length away. With `m` matches, of which the out-of-order ones make `t`
exchanges, the similarity is the mean of `m` over each length and of `(m - t) / m`. It is a number
in floating point, so rounding decides between names that are equally alike by the fractions.
-/

namespace ArchiveSearch

namespace Similarity

/-- How far apart matching characters may stand in names of these lengths. -/
def reach (a b : Nat) : Nat :=
  max a b / 2 - 1

/-- The first free place of `name` where `c` stands, at most `reach` away from `place`. -/
def place? (name : Text) (reach : Nat) (taken : List Nat) (place : Nat) (c : Char) : Option Nat :=
  (List.range name.length).find? fun other =>
    place ≤ other + reach && other ≤ place + reach && name[other]? == some c &&
      !taken.contains other

/-- The characters of a text from `place` on that find a match in `name`, each with the place of its
match. -/
def matchesFrom (name : Text) (reach : Nat) (taken : List Nat) (place : Nat) :
    Text → List (Char × Nat)
  | [] => []
  | c :: rest =>
      match place? name reach taken place c with
      | none => matchesFrom name reach taken (place + 1) rest
      | some other => (c, other) :: matchesFrom name reach (other :: taken) (place + 1) rest

/-- How alike two names are, from nothing at 0 to everything at 1. -/
def ofNames (first second : Text) : Float :=
  let found := matchesFrom second (reach first.length second.length) [] 0 first
  let there := (List.range second.length).filter fun place => (found.map (·.2)).contains place
  let moved := (found.map (·.1)).zip there |>.countP fun pair => second[pair.2]? != some pair.1
  let m := found.length
  let t := moved / 2
  if m = 0 then 0
  else
    (m.toFloat / first.length.toFloat + m.toFloat / second.length.toFloat +
      (m - t).toFloat / m.toFloat) / 3

end Similarity

/-- The last of the names that are most alike to `name`, if they are alike by more than seven
tenths. -/
def mostSimilar? (name : Text) (names : List Text) : Option Text :=
  let near := names.filter fun other => 0.7 < Similarity.ofNames name other
  near.foldl
    (fun best other =>
      match best with
      | none => some other
      | some b =>
          if Similarity.ofNames name b ≤ Similarity.ofNames name other then some other
          else some b)
    none

end ArchiveSearch
