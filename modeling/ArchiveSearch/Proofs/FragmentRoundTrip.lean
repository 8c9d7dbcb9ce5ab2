import ArchiveSearch.Proofs.FragmentReading

/-!
# Round trip through the fragment

What `Fragment.encode` writes consists of unreserved characters and of escapes in upper-case digits
(`Fragment.Written`), so a written text is ASCII and never starts with a number sign. It is also
well formed, and the bytes that it spells are those of the query (`Fragment.spells_encode`). A query
can therefore be read back from its fragment (`Fragment.decode_encode`), and no two queries share
one.
-/

namespace ArchiveSearch.Fragment

theorem marks_ascii : ∀ c ∈ marks, c.toNat < 0x80 := by
  have hall : marks.all (fun c => c.toNat < 0x80) = true := by decide
  simpa only [List.all_eq_true, decide_eq_true_eq] using hall

/-- The marks of percent-encoding are among those of a fragment. -/
theorem mem_marks_of_mem_percentMarks : ∀ c ∈ Percent.marks, c ∈ marks := by
  have hall : Percent.marks.all (fun c => c ∈ marks) = true := by decide
  simpa only [List.all_eq_true, decide_eq_true_eq] using hall

/-- A character that stands for itself is ASCII, and neither a percent nor a number sign. -/
theorem isUnreserved_ascii {c : Char} (h : isUnreserved c = true) :
    c.toNat < 0x80 ∧ c ≠ '%' ∧ c ≠ '#' := by
  refine ⟨?_, ?_, ?_⟩
  · simp only [isUnreserved, Bool.or_eq_true, List.contains_iff_mem] at h
    rcases h with halnum | hmark
    · exact Percent.toNat_lt_of_isAlphanum halnum
    · exact marks_ascii c hmark
  · intro hpercent
    rw [hpercent] at h
    exact absurd h (by decide)
  · intro hnumber
    rw [hnumber] at h
    exact absurd h (by decide)

/-- The bytes that percent-encoding keeps are unreserved characters. -/
theorem isUnreserved_of_isKept {b : UInt8} (h : Percent.isKept b = true) :
    isUnreserved (.ofNat b.toNat) = true := by
  simp only [Percent.isKept, Bool.or_eq_true, List.contains_iff_mem] at h
  simp only [isUnreserved, Bool.or_eq_true, List.contains_iff_mem]
  exact h.imp_right (mem_marks_of_mem_percentMarks _)

/-- The texts of unreserved characters and of escapes in upper-case digits. -/
inductive Written : Text → Prop
  | nil : Written []
  | unreserved {c : Char} {rest : Text} (hc : isUnreserved c = true) (tail : Written rest) :
      Written (c :: rest)
  | escape {high low : Char} {rest : Text} (hhigh : high ∈ Percent.upperDigits)
      (hlow : low ∈ Percent.upperDigits) (tail : Written rest) :
      Written ('%' :: high :: low :: rest)

/-- Written texts can be put together. -/
theorem Written.append {text other : Text} (h : Written text) (hother : Written other) :
    Written (text ++ other) := by
  induction h with
  | nil => exact hother
  | unreserved hc tail ih => exact .unreserved hc ih
  | escape hhigh hlow tail ih => exact .escape hhigh hlow ih

/-- A text that is made of written pieces is written. -/
theorem Written.flatMap {α : Type} {write : α → Text} (h : ∀ a, Written (write a))
    (list : List α) : Written (list.flatMap write) := by
  induction list with
  | nil => exact .nil
  | cons a list ih =>
      rw [List.flatMap_cons]
      exact (h a).append ih

/-- A byte is kept, and then it is unreserved, or it is escaped in upper-case digits. -/
theorem written_encodeByte (b : UInt8) : Written (Percent.encodeByte b) := by
  rw [Percent.encodeByte]
  split
  next h => exact .unreserved (isUnreserved_of_isKept h) .nil
  next =>
    have hb : b.toNat < 256 := b.toNat_lt
    exact .escape (Percent.hexDigit_mem (by omega)) (Percent.hexDigit_mem (by omega)) .nil

/-- A character is kept as it is, or it is written byte by byte. -/
theorem written_encodeChar (c : Char) : Written (encodeChar c) := by
  rw [encodeChar]
  split
  next h => exact .unreserved h .nil
  next => exact .flatMap written_encodeByte _

/-- The fragment of a query is a written text, whatever the query is. -/
theorem written_encode (query : Text) : Written (encode query) :=
  .flatMap written_encodeChar query

/-- A written text is ASCII. -/
theorem Written.ascii {text : Text} (h : Written text) : ∀ c ∈ text, c.toNat < 0x80 := by
  induction h with
  | nil => simp
  | unreserved hc tail ih =>
      intro c hmem
      rcases List.mem_cons.mp hmem with rfl | hmem
      · exact (isUnreserved_ascii hc).1
      · exact ih c hmem
  | escape hhigh hlow tail ih =>
      intro c hmem
      simp only [List.mem_cons] at hmem
      rcases hmem with rfl | rfl | rfl | hmem
      · decide
      · exact Percent.upperDigits_ascii _ hhigh
      · exact Percent.upperDigits_ascii _ hlow
      · exact ih c hmem

theorem isUnreserved_of_mem_upperDigits : ∀ c ∈ Percent.upperDigits, isUnreserved c = true := by
  have hall : Percent.upperDigits.all isUnreserved = true := by decide
  exact List.all_eq_true.mp hall

/-- Apart from its percent signs a written text has unreserved characters only. -/
theorem Written.isUnreserved_of_ne {text : Text} (h : Written text) :
    ∀ c ∈ text, c ≠ '%' → isUnreserved c = true := by
  intro c hmem hne
  induction h with
  | nil => cases hmem
  | unreserved hc tail ih =>
      rcases List.mem_cons.mp hmem with rfl | hrest
      · exact hc
      · exact ih hrest
  | escape hhigh hlow tail ih =>
      simp only [List.mem_cons] at hmem
      rcases hmem with hpercent | rfl | rfl | hrest
      · exact absurd hpercent hne
      · exact isUnreserved_of_mem_upperDigits _ hhigh
      · exact isUnreserved_of_mem_upperDigits _ hlow
      · exact ih hrest

/-- A written text does not start with a number sign, which reading it would drop. -/
theorem Written.head?_ne {text : Text} (h : Written text) : text.head? ≠ some '#' := by
  cases h with
  | nil => simp
  | unreserved hc tail => simpa using (isUnreserved_ascii hc).2.2
  | escape hhigh hlow tail => simp

/-- A character other than the percent sign spells its own bytes. -/
theorem spells_singleton {c : Char} (hc : c ≠ '%') : Spells [c] (Utf8.encodeChar c) := by
  rw [← List.append_nil (Utf8.encodeChar c)]
  exact .plain hc .nil

/-- A written byte spells that byte, whether it is kept or escaped. -/
theorem spells_encodeByte (b : UInt8) : Spells (Percent.encodeByte b) [b] := by
  have hb : b.toNat < 256 := b.toNat_lt
  rw [Percent.encodeByte]
  split
  next h =>
    obtain ⟨hlt, hne⟩ := Percent.isKept_byte h
    have hbytes : Utf8.encodeChar (.ofNat b.toNat) = [b] := by
      rw [← Percent.toNat_charOfByte] at hlt
      rw [Utf8.encodeChar_of_lt hlt, Percent.toNat_charOfByte, UInt8.ofNat_toNat]
    rw [← hbytes]
    exact spells_singleton hne
  next =>
    exact .escape (Percent.isDigit_hexDigit (by omega)) (Percent.isDigit_hexDigit (by omega)) .nil

/-- Bytes that are written one after the other are spelled as they are. -/
theorem spells_encodeBytes (bytes : Bytes) : Spells (bytes.flatMap Percent.encodeByte) bytes := by
  induction bytes with
  | nil => exact .nil
  | cons b bytes ih =>
      rw [List.flatMap_cons]
      exact (spells_encodeByte b).append ih

/-- A written character spells the bytes of the character, kept or not. -/
theorem spells_encodeChar (c : Char) : Spells (encodeChar c) (Utf8.encodeChar c) := by
  rw [encodeChar]
  split
  next h => exact spells_singleton (isUnreserved_ascii h).2.1
  next =>
    rw [Percent.encode, Utf8.encode_cons, Utf8.encode_nil, List.append_nil]
    exact spells_encodeBytes (Utf8.encodeChar c)

/-- The fragment of a query spells the bytes of the query. -/
theorem spells_encode (query : Text) : Spells (encode query) (Utf8.encode query) := by
  induction query with
  | nil => exact .nil
  | cons c query ih =>
      have hcons : encode (c :: query) = encodeChar c ++ encode query := List.flatMap_cons
      rw [hcons, Utf8.encode_cons]
      exact (spells_encodeChar c).append ih

/-- The fragment of a query passes the check of escapes. -/
theorem checkEscapes_encode (query : Text) : checkEscapes (encode query) = .ok () :=
  (spells_encode query).checkFrom_eq 0

/-- Nothing is dropped from a text that starts with no number sign. -/
theorem withoutMark_of_head?_ne {text : Text} (h : text.head? ≠ some '#') :
    withoutMark text = text := by
  rw [withoutMark]
  intro rest hnumber
  rw [hnumber] at h
  exact h rfl

/-- Nothing is dropped from the fragment of a query. -/
theorem withoutMark_encode (query : Text) : withoutMark (encode query) = encode query :=
  withoutMark_of_head?_ne (written_encode query).head?_ne

/-- A query is read from its fragment, and from its fragment behind a number sign. -/
theorem decode_of_withoutMark_eq {query fragment : Text}
    (h : withoutMark fragment = encode query) : decode fragment = .ok query := by
  rw [decode_eq_ok_iff, h]
  exact spells_encode query

theorem decode_encode (query : Text) : decode (encode query) = .ok query :=
  decode_of_withoutMark_eq (withoutMark_encode query)

/-- No two queries share a fragment, since each is read back from its own. -/
theorem encode_injective : Function.Injective encode := by
  intro query other h
  have hdecode := decode_encode query
  rw [h, decode_encode] at hdecode
  exact (Except.ok.inj hdecode).symm

/-- **Fragment round trip.** Every query is read back from its fragment, with or without a number
sign in front. The fragment is ASCII, made of unreserved characters and upper-case escapes, so it
starts with no number sign and has no malformed escape; and no two queries have the same one. -/
theorem fragment_round_trip :
    (∀ query, decode (encode query) = .ok query ∧ decode ('#' :: encode query) = .ok query ∧
      Written (encode query) ∧ (∀ c ∈ encode query, c.toNat < 0x80) ∧
      (encode query).head? ≠ some '#' ∧ checkEscapes (encode query) = .ok ()) ∧
    Function.Injective encode := by
  refine ⟨fun query => ?_, encode_injective⟩
  have hwritten := written_encode query
  exact ⟨decode_encode query, decode_of_withoutMark_eq rfl, hwritten, hwritten.ascii,
    hwritten.head?_ne, checkEscapes_encode query⟩

example : encode "#1 c-é%".toList = "%231%20c-%C3%A9%25".toList := by
  decide +kernel

end ArchiveSearch.Fragment
