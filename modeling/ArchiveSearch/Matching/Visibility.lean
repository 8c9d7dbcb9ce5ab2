/-!
# Visibility maps

A visibility map assigns shown or hidden to positions of a document, to each position at most once.
It is partial, it may name positions that the document does not have, and it keeps the order in
which positions were first assigned: assigning a position again replaces its value in place.
`get?_insert`, `get?_override` and `get?_ofFlags` say what a look-up finds.
-/

namespace ArchiveSearch

/-- Assigns `shown` to `position`, in place if the position is there and at the end if not. -/
def assign (position : Nat) (shown : Bool) : List (Nat × Bool) → List (Nat × Bool)
  | [] => [(position, shown)]
  | pair :: pairs =>
      if pair.1 = position then (position, shown) :: pairs
      else pair :: assign position shown pairs

/-- Assigning keeps the order of the positions, and a new one comes last. -/
theorem map_fst_assign (position : Nat) (shown : Bool) (pairs : List (Nat × Bool)) :
    (assign position shown pairs).map (·.1) =
      if position ∈ pairs.map (·.1) then pairs.map (·.1) else pairs.map (·.1) ++ [position] := by
  induction pairs with
  | nil => rfl
  | cons pair pairs ih =>
      by_cases h : pair.1 = position
      · simp [assign, h]
      · simp only [assign, if_neg h, List.map_cons, ih, List.mem_cons, Ne.symm h, false_or]
        split <;> rfl

/-- A partial map from positions to shown or hidden, in the order of first assignment. -/
structure Visibility where
  pairs : List (Nat × Bool)
  /-- No position is assigned twice. -/
  distinct : (pairs.map (·.1)).Nodup

namespace Visibility

/-- The map that assigns nothing. -/
def empty : Visibility :=
  ⟨[], List.nodup_nil⟩

/-- Assigns one more position, or another value to a position. -/
def insert (map : Visibility) (position : Nat) (shown : Bool) : Visibility where
  pairs := assign position shown map.pairs
  distinct := by
    have := map.distinct
    rw [map_fst_assign]
    split
    · exact this
    · grind [List.nodup_append]

/-- What a position is assigned. -/
def get? (map : Visibility) (position : Nat) : Option Bool :=
  map.pairs.lookup position

/-- The map that some assignments make, one after the other. -/
def ofList (pairs : List (Nat × Bool)) : Visibility :=
  pairs.foldl (fun map pair => map.insert pair.1 pair.2) empty

/-- The flags of a list, each with its position, counted from `start`. -/
def flagPairs (start : Nat) (flags : List Bool) : List (Nat × Bool) :=
  (flags.zipIdx start).map fun flag => (flag.2, flag.1)

theorem map_fst_flagPairs (start : Nat) (flags : List Bool) :
    (flagPairs start flags).map (·.1) = List.range' start flags.length := by
  induction flags generalizing start with
  | nil => rfl
  | cons flag flags ih =>
      have := ih (start + 1)
      simp_all [flagPairs, List.range'_succ]

/-- The map that assigns to each position of a list the flag there. -/
def ofFlags (flags : List Bool) : Visibility where
  pairs := flagPairs 0 flags
  distinct := by rw [map_fst_flagPairs]; exact List.nodup_range'

/-- The map `map` with all assignments of `other` made over it. -/
def override (map other : Visibility) : Visibility :=
  other.pairs.foldl (fun map pair => map.insert pair.1 pair.2) map

/-- How many positions are assigned. -/
def size (map : Visibility) : Nat :=
  map.pairs.length

/-- How many positions are shown. -/
def shownCount (map : Visibility) : Nat :=
  map.pairs.countP (·.2)

/-- A look-up finds what was assigned last. -/
theorem lookup_assign (position other : Nat) (shown : Bool) (pairs : List (Nat × Bool)) :
    (assign position shown pairs).lookup other =
      if other = position then some shown else pairs.lookup other := by
  induction pairs with
  | nil =>
      by_cases h : other = position
      · simp [assign, h]
      · simp only [assign, List.lookup_cons, beq_false_of_ne h, if_neg h, List.lookup_nil]
  | cons pair pairs ih =>
      by_cases h : pair.1 = position <;> by_cases h' : other = position <;>
        simp_all [assign, List.lookup_cons] <;> grind

/-- Assigning a position changes what is found there and nowhere else. -/
theorem get?_insert (map : Visibility) (position other : Nat) (shown : Bool) :
    (map.insert position shown).get? other =
      if other = position then some shown else map.get? other :=
  lookup_assign position other shown map.pairs

/-- Of assignments to different positions each is found, and elsewhere what was there before. -/
theorem get?_foldl_insert {pairs : List (Nat × Bool)} (hdistinct : (pairs.map (·.1)).Nodup)
    (map : Visibility) (position : Nat) :
    (pairs.foldl (fun map pair => map.insert pair.1 pair.2) map).get? position =
      (pairs.lookup position).or (map.get? position) := by
  induction pairs generalizing map with
  | nil => rfl
  | cons pair pairs ih =>
      obtain ⟨hnew, hrest⟩ := List.nodup_cons.mp hdistinct
      rw [List.foldl_cons, ih hrest, get?_insert, List.lookup_cons]
      by_cases h : position = pair.1
      · -- what is assigned here is assigned nowhere behind, where it would win
        subst h
        have hnone : pairs.lookup pair.1 = none := by
          rw [List.lookup_eq_none_iff]
          intro later hlater
          rw [bne_iff_ne]
          intro heq
          exact hnew (List.mem_map.mpr ⟨later, hlater, heq.symm⟩)
        rw [hnone, if_pos rfl, beq_self_eq_true]
        rfl
      · simp only [if_neg h, beq_false_of_ne h]

/-- An override finds what the second map assigns, and elsewhere what the first does. -/
theorem get?_override (map other : Visibility) (position : Nat) :
    (map.override other).get? position = (other.get? position).or (map.get? position) :=
  get?_foldl_insert other.distinct map position

/-- Each flag is found at its position, counted from the start. -/
theorem lookup_flagPairs (start position : Nat) (flags : List Bool) :
    (flagPairs start flags).lookup (start + position) = flags[position]? := by
  induction flags generalizing start position with
  | nil => rfl
  | cons flag flags ih =>
      cases position with
      | zero => simp [flagPairs]
      | succ position =>
          have := ih (start + 1) position
          rw [Nat.add_assoc, Nat.add_comm 1] at this
          have hne : (start + (position + 1) == start) = false := by simp
          simpa [flagPairs, List.lookup_cons, hne] using this

/-- At a position of the list the flag there is found, and at no other anything. -/
theorem get?_ofFlags (flags : List Bool) (position : Nat) :
    (ofFlags flags).get? position = flags[position]? := by
  simpa [get?, ofFlags] using lookup_flagPairs 0 position flags

theorem size_ofFlags (flags : List Bool) : (ofFlags flags).size = flags.length := by
  simp only [size, ofFlags, flagPairs, List.length_map, List.length_zipIdx]

/-- The map of a list shows as many positions as the list has flags that are set. -/
theorem shownCount_ofFlags (flags : List Bool) :
    (ofFlags flags).shownCount = flags.countP id := by
  have hflags : flags.countP id = (flags.zipIdx 0).countP (id ∘ Prod.fst) := by
    rw [← List.countP_map, List.zipIdx_map_fst]
  rw [hflags]
  exact List.countP_map

end Visibility

end ArchiveSearch
