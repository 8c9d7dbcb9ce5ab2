/-!
# Texts

A text is a list of characters, so that every operation on it is a recursion on its characters and
every statement about it an induction. This module holds the few operations that the rest of the
library needs and that lists do not have under a name of their own: whether one text occurs in
another (`Text.occursIn_iff`), the cut at the first separator (`cutAt?_eq_some_iff`,
`cutAt?_eq_none_iff`), and the lines of an input.
-/

namespace ArchiveSearch

/-- A text is the list of its characters. -/
abbrev Text := List Char

/-- What a process is handed from outside is bytes, which need not spell a text. -/
abbrev Bytes := List UInt8

variable {α : Type} [DecidableEq α]

/-- The parts of a list before and after its first `separator`. -/
def cutAt? (separator : α) : List α → Option (List α × List α)
  | [] => none
  | c :: rest =>
      if c = separator then some ([], rest)
      else (cutAt? separator rest).map fun parts => (c :: parts.1, parts.2)

theorem cutAt?_eq_none_iff {separator : α} {list : List α} :
    cutAt? separator list = none ↔ separator ∉ list := by
  induction list with
  | nil => simp [cutAt?]
  | cons c rest ih => by_cases h : c = separator <;> simp [cutAt?, h, ih, Ne.symm]

/-- A list is cut at its first separator. -/
theorem cutAt?_eq_some_iff {separator : α} {list before after : List α} :
    cutAt? separator list = some (before, after) ↔
      list = before ++ separator :: after ∧ separator ∉ before := by
  induction list generalizing before with
  | nil => simp [cutAt?]
  | cons c rest ih =>
      by_cases h : c = separator
      · cases before <;> simp_all [cutAt?, eq_comm]
      · cases before with
        | nil => simp [cutAt?, h]
        | cons b before =>
            rw [cutAt?, if_neg h, Option.map_eq_some_iff]
            constructor
            · rintro ⟨⟨first, second⟩, hcut, heq⟩
              cases heq
              have := ih.1 hcut
              grind
            · rintro ⟨heq, hmem⟩
              cases heq
              exact ⟨(before, after), ih.2 ⟨rfl, fun hin => hmem (List.mem_cons_of_mem c hin)⟩, rfl⟩

/-- The first separator of a list is found, so the parts before and after it are told apart. -/
theorem append_separator_inj {separator : α} {before before' after after' : List α}
    (hbefore : separator ∉ before) (hbefore' : separator ∉ before')
    (h : before ++ separator :: after = before' ++ separator :: after') :
    before = before' ∧ after = after' := by
  have hcut := cutAt?_eq_some_iff.mpr ⟨h, hbefore'⟩
  rw [cutAt?_eq_some_iff.mpr ⟨rfl, hbefore⟩] at hcut
  exact Prod.mk.inj (Option.some.inj hcut)

/-- No piece of a list between separators holds the separator. -/
theorem not_mem_of_mem_splitOn {separator : α} {list piece : List α}
    (h : piece ∈ list.splitOn separator) : separator ∉ piece := by
  induction list generalizing piece with
  | nil =>
      rw [List.splitOn_nil, List.mem_singleton] at h
      rw [h]
      exact List.not_mem_nil
  | cons c rest ih =>
      rw [List.splitOn_cons_eq_if_modifyHead] at h
      obtain ⟨first, others, hrest⟩ := List.exists_cons_of_ne_nil
        (List.splitOn_ne_nil separator rest)
      rw [hrest] at h ih
      split at h
      · rcases List.mem_cons.mp h with hfirst | hother
        · rw [hfirst]
          exact List.not_mem_nil
        · exact ih hother
      · rename_i hc
        rcases List.mem_cons.mp h with hfirst | hother
        · rw [hfirst]
          have hne : separator ≠ c := fun heq => hc (by simp [heq])
          exact List.not_mem_cons_of_ne_of_not_mem hne (ih List.mem_cons_self)
        · exact ih (List.mem_cons_of_mem first hother)

/-- Each text of a list stands in the list joined. -/
theorem infix_intercalate {separator text : Text} {texts : List Text} (h : text ∈ texts) :
    text <:+: separator.intercalate texts := by
  obtain ⟨i, hi⟩ := List.mem_iff_getElem?.mp h
  have hplace : (texts.intersperse separator)[2 * i]? = some text :=
    List.getElem?_intersperse_two_mul.trans hi
  exact List.infix_of_mem_flatten (List.mem_of_getElem? hplace)

namespace Text

/-- Whether `word` stands somewhere in a text as one contiguous piece; the empty word stands
everywhere. -/
def occursIn (word : Text) : Text → Bool
  | [] => word.isEmpty
  | c :: rest => word.isPrefixOf (c :: rest) || occursIn word rest

/-- The search finds exactly the infixes. -/
theorem occursIn_iff (word text : Text) : occursIn word text = true ↔ word <:+: text := by
  induction text with
  | nil => simp [occursIn]
  | cons c rest ih => simp [occursIn, ih, List.infix_cons_iff]

/-- A line without the carriage return at its end, if it has one. -/
def withoutReturn (line : Text) : Text :=
  if line.getLast? = some '\r' then line.dropLast else line

/-- The lines of an input. A line ends at a line feed, and one carriage return before the line feed
belongs to the ending; what follows the last line feed is a line as it stands, unless it is empty.
-/
def lines (input : Text) : List Text :=
  let pieces := input.splitOn '\n'
  pieces.dropLast.map withoutReturn ++ pieces.getLast?.toList.filter (!·.isEmpty)

theorem mem_of_mem_withoutReturn {c : Char} {line : Text} (h : c ∈ withoutReturn line) :
    c ∈ line := by
  unfold withoutReturn at h
  split at h
  · exact List.dropLast_subset _ h
  · exact h

/-- No line holds a line feed. -/
theorem not_mem_of_mem_lines {line input : Text} (h : line ∈ lines input) : '\n' ∉ line := by
  rcases List.mem_append.mp h with hended | hlast
  · obtain ⟨piece, hpiece, hline⟩ := List.mem_map.mp hended
    intro hmem
    rw [← hline] at hmem
    exact not_mem_of_mem_splitOn (List.dropLast_subset _ hpiece) (mem_of_mem_withoutReturn hmem)
  · have hpiece := (List.mem_filter.mp hlast).1
    exact not_mem_of_mem_splitOn (List.mem_of_getLast? (Option.mem_toList.mp hpiece))

end Text

end ArchiveSearch
