import ModemLink.Proofs.Text.Splitting

/-!
# The fields of a text

A reader takes one field after the other.  What it gets are the parts between the commas
(`takeField_cases`), and each rest is shorter than the text it was taken from.  Most readers drop
quotes and blanks first (`compact_eq_ok_iff`), so that they see the other characters only
(`compact_bind`).
-/

namespace ModemLink

/-- Two readers after each other succeed only if the first does, and the second with its result. -/
theorem exists_of_bind_eq_ok {ε α β : Type} {first : Except ε α} {next : α → Except ε β} {result : β}
    (h : (first >>= next) = .ok result) : ∃ value, first = .ok value ∧ next value = .ok result := by
  cases first with
  | error failure => cases h
  | ok value => exact ⟨value, rfl, h⟩

namespace Text

variable {s : Text}

/-- The comma is a delimiter of one byte, so what is taken is a cut of the text. -/
theorem takeField_of_cut {token rest : Text} (hbounded : s.Bounded) (h : Cut [','] s token rest) :
    s.takeField = .ok (token, rest) := by
  have hascii : ∀ d ∈ [','], d.toNat < 128 := List.forall_mem_singleton.mpr (by decide)
  rw [takeField_eq_takeFieldBefore, takeFieldBefore_of_cut (by decide) hascii hbounded h]
  rfl

theorem not_mem_comma {token : Text} (hcomma : ',' ∉ token) : ∀ c ∈ token, c ∉ [','] := by
  intro c hc hmem
  exact hcomma (List.mem_singleton.mp hmem ▸ hc)

/-- Without a comma the whole text is its last field. -/
theorem takeField_of_not_mem (h : s.Bounded) (hcomma : ',' ∉ s) :
    s.takeField = .ok (s, []) ∧ s.splitOn ',' = [s] :=
  ⟨takeField_of_cut h (.last (not_mem_comma hcomma)), List.splitOn_eq_singleton hcomma⟩

/-- The first comma ends the first field. -/
theorem takeField_of_mem (h : s.Bounded) (hcomma : ',' ∈ s) :
    ∃ token rest : Text, s = token ++ ',' :: rest ∧ s.takeField = .ok (token, rest) ∧
      s.splitOn ',' = token :: rest.splitOn ',' := by
  obtain ⟨token, rest, hcut⟩ := exists_cut [','] s
  have htake := takeField_of_cut h hcut
  cases hcut with
  | last hfree => exact absurd List.mem_cons_self (hfree ',' hcomma)
  | before hfree hdelimiter =>
      obtain rfl := List.mem_singleton.mp hdelimiter
      refine ⟨token, rest, rfl, htake, ?_⟩
      exact List.splitOnP_append_cons_of_forall_mem (fun c hc => by simpa using hfree c hc) ',' rfl
        rest

/-- A field is what stands before the next comma, or all that is left. -/
theorem takeField_cases (h : s.Bounded) :
    (s.takeField = .ok (s, []) ∧ s.splitOn ',' = [s]) ∨
      ∃ token rest : Text, s.takeField = .ok (token, rest) ∧
        s.splitOn ',' = token :: rest.splitOn ',' ∧ rest.size < s.size := by
  by_cases hcomma : ',' ∈ s
  · obtain ⟨token, rest, rfl, htake, hfields⟩ := takeField_of_mem h hcomma
    refine .inr ⟨token, rest, htake, hfields, ?_⟩
    rw [size_append, size_cons]
    have := Char.utf8Size_pos ','
    omega
  · exact .inl (takeField_of_not_mem h hcomma)

/-! ## Quotes and blanks -/

theorem size_filter_le (p : Char → Bool) (s : Text) : size (s.filter p) ≤ s.size := by
  induction s with
  | nil => exact Nat.le_refl _
  | cons c s ih =>
      by_cases hc : p c = true
      · rw [List.filter_cons_of_pos hc, size_cons, size_cons]
        omega
      · rw [List.filter_cons_of_neg hc, size_cons]
        omega

/-- Whether a character counts: it is no quote and no blank. -/
def counts (c : Char) : Bool := c ≠ '"' && !isAsciiBlank c

/-- What is left of a text without the quotes and the blanks. -/
def bare (s : Text) : Text := s.filter (· ∉ ['"', ' ', '\t', '\n', '\x0c', '\r'])

theorem filter_counts (s : Text) : s.filter counts = s.bare :=
  List.filter_congr fun c _ => by simp [counts, isAsciiBlank, Bool.and_assoc]

/-- Acceptable text that does not consist of quotes loses its quotes and its blanks. -/
theorem compact_eq_ok_iff {t : Text} :
    s.compact = .ok t ↔ s.Bounded ∧ (∃ c ∈ s, c ≠ '"') ∧ t = s.filter counts := by
  -- the buffer for the text without quotes is as long as a line, so there is room in it
  have hunquoted : s.withoutQuotes Limits.line =
      if s.Bounded then .ok (s.filter (· ≠ '"')) else .error .badParameter := by
    unfold withoutQuotes guarded fitting
    split
    next h => exact if_pos (Nat.le_trans (size_filter_le _ s) h.2)
    · rfl
  unfold compact
  rw [hunquoted]
  split
  next h =>
    have hne : (s.filter (· ≠ '"') : Text) ≠ [] ↔ ∃ c ∈ s, c ≠ '"' := by
      simp [List.filter_eq_nil_iff]
    have hsize := Nat.le_trans (size_filter_le (· ≠ '"') s) h.2
    have hcounts : (s.filter (· ≠ '"')).filter (fun c => !isAsciiBlank c) = s.filter counts := by
      rw [List.filter_filter]
      exact List.filter_congr fun c _ => Bool.and_comm _ _
    show withoutBlanks Limits.line (s.filter (· ≠ '"')) = .ok t ↔ _
    unfold withoutBlanks guarded fitting
    rw [hcounts, ← hne, and_iff_right h]
    split
    next hbounded =>
      rw [if_pos (Nat.le_trans (size_filter_le _ s) h.2), and_iff_right hbounded.1]
      exact ⟨fun heq => (Except.ok.inj heq).symm, fun heq => congrArg _ heq.symm⟩
    next hbounded => exact iff_of_false nofun fun hcase => hbounded ⟨hcase.1, hsize⟩
  next h => exact iff_of_false nofun fun hcase => h hcase.1

theorem size_compact_le {t : Text} (h : s.compact = .ok t) : t.size ≤ Limits.line := by
  obtain ⟨hbounded, -, rfl⟩ := compact_eq_ok_iff.mp h
  exact Nat.le_trans (size_filter_le _ s) hbounded.2

/-- Text that is refused because nothing or only quotes are in it has no character that counts. -/
theorem compact_eq_error {failure : TextError} (hsize : s.size ≤ Limits.line)
    (h : s.compact = .error failure) : failure = .badParameter ∧ s.filter counts = [] := by
  by_cases hquoted : ∃ c ∈ s, c ≠ '"'
  · -- with a character that is no quote it would be accepted
    obtain ⟨c, hc, hne⟩ := hquoted
    have hbounded : s.Bounded := ⟨List.ne_nil_of_mem hc, hsize⟩
    cases h.symm.trans (compact_eq_ok_iff.mpr ⟨hbounded, ⟨c, hc, hne⟩, rfl⟩)
  · have hall : ∀ c ∈ s, c = '"' := fun c hc => by_contra fun hne => hquoted ⟨c, hc, hne⟩
    have hunquoted : (s.filter (· ≠ '"') : Text) = [] := by
      rw [List.filter_eq_nil_iff]
      intro c hc
      simp [hall c hc]
    have hcompact : s.compact = .error .badParameter := by
      unfold compact withoutQuotes
      rw [hunquoted]
      unfold guarded
      split <;> rfl
    refine ⟨Except.error.inj (h.symm.trans hcompact), ?_⟩
    rw [List.filter_eq_nil_iff]
    intro c hc
    simp [hall c hc, counts]

/-- A reader that refuses empty text sees the characters that count, and nothing else. -/
theorem compact_bind {α : Type} {read : Text → Except TextError α}
    (hnil : read [] = .error .badParameter) (hsize : s.size ≤ Limits.line) :
    s.compact >>= read = read (s.filter counts) := by
  cases hcompact : s.compact with
  | ok t =>
      obtain ⟨-, -, rfl⟩ := compact_eq_ok_iff.mp hcompact
      rfl
  | error failure =>
      obtain ⟨rfl, hnone⟩ := compact_eq_error hsize hcompact
      rw [hnone, hnil]
      rfl

end Text

end ModemLink
