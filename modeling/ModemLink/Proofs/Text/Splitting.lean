import Mathlib.Data.List.TakeWhile
import ModemLink.Proofs.Text.Ascii
import ModemLink.Text.Field

/-!
# Splitting loses nothing

A reader of fields cuts a text at the first delimiter (`Text.Cut`).  Every text can be cut, and in one
way only, and the cut is what `Text.takeFieldBefore` finds if each delimiter is one byte long
(`takeFieldBefore_of_cut`).

Cut after cut gives the parts between the delimiters (`Text.fields`), where an empty part counts at
the start and in the middle, but not at the end: there the text is exhausted, which is what a missing
field looks like.  Every text is built from its last field by putting fields and delimiters in front
(`Cut.induction`), so what a cursor gives up in any number of calls (`Text.readFields`) follows from
what one call does.
-/

namespace ModemLink.Text

variable {delimiters : List Char} {s field rest : Text}

/-! ## One cut -/

/-- One cut of a text: the field before the first delimiter and what follows that delimiter, or the
whole text as its last field. -/
inductive Cut (delimiters : List Char) : (s field rest : Text) → Prop
  | last {field : Text} (hfree : ∀ c ∈ field, c ∉ delimiters) : Cut delimiters field field []
  | before {field : Text} {delimiter : Char} (hfree : ∀ c ∈ field, c ∉ delimiters)
      (hdelimiter : delimiter ∈ delimiters) (rest : Text) :
      Cut delimiters (field ++ delimiter :: rest) field rest

theorem exists_cut (delimiters : List Char) (s : Text) : ∃ field rest, Cut delimiters s field rest := by
  -- the field is what stands before the first delimiter
  have hfree : ∀ c ∈ s.beforeDelimiter delimiters, c ∉ delimiters := fun c hc => by
    simpa using List.mem_takeWhile_imp hc
  have hwhole := beforeDelimiter_append_fromDelimiter delimiters s
  cases hrest : s.fromDelimiter delimiters with
  | nil =>
      rw [hrest, List.append_nil] at hwhole
      rw [hwhole] at hfree
      exact ⟨s, [], .last hfree⟩
  | cons delimiter rest =>
      -- and the character at which it stops is one
      have hdelimiter : delimiter ∈ delimiters := by
        have hhead := List.head?_dropWhile_not (fun c => !delimiters.contains c) s
        unfold fromDelimiter at hrest
        rw [hrest] at hhead
        simpa using hhead
      have hcut := Cut.before hfree hdelimiter rest
      rw [← hrest, hwhole] at hcut
      exact ⟨_, _, hcut⟩

/-- The cut is found, if a text may be read at all and no delimiter is longer than one byte. -/
theorem takeFieldBefore_of_cut (hne : delimiters ≠ []) (hascii : ∀ d ∈ delimiters, d.toNat < 128)
    (hbounded : s.Bounded) (h : Cut delimiters s field rest) :
    s.takeFieldBefore delimiters = .ok (field, rest) := by
  -- the reader passes over a character exactly if it is no delimiter
  have hpass : ∀ field : Text, (∀ c ∈ field, c ∉ delimiters) →
      ∀ c ∈ field, (!delimiters.contains c) = true := fun field hfree c hc => by
    simpa using hfree c hc
  have hread : ¬ (delimiters = [] ∨ ¬ s.Bounded) := by
    rintro (hnil | hnot)
    · exact hne hnil
    · exact hnot hbounded
  rw [takeFieldBefore, if_neg hread]
  cases h with
  | last hfree =>
      have hrest : fromDelimiter delimiters s = [] :=
        List.dropWhile_eq_nil_iff.mpr (hpass s hfree)
      rw [hrest]
  | @before _ delimiter hfree hdelimiter =>
      have hrest : fromDelimiter delimiters (field ++ delimiter :: rest) = delimiter :: rest := by
        rw [fromDelimiter, List.dropWhile_append_of_pos (hpass field hfree),
          List.dropWhile_cons_of_neg (by simp [hdelimiter])]
      have hbefore : beforeDelimiter delimiters (field ++ delimiter :: rest) = field := by
        rw [beforeDelimiter, List.takeWhile_append_of_pos (hpass field hfree),
          List.takeWhile_cons_of_neg (by simp [hdelimiter]), List.append_nil]
      simp only [hrest, hbefore, utf8Size_of_lt (hascii delimiter hdelimiter), if_true]

/-- Texts are built from their last field, by a field and a delimiter in front of what there is. -/
theorem Cut.induction (delimiters : List Char) {motive : Text → Prop}
    (last : ∀ field : Text, (∀ c ∈ field, c ∉ delimiters) → motive field)
    (before : ∀ (field : Text) (delimiter : Char) (rest : Text), (∀ c ∈ field, c ∉ delimiters) →
      delimiter ∈ delimiters → motive rest → motive (field ++ delimiter :: rest))
    (s : Text) : motive s := by
  induction hlength : s.length using Nat.strong_induction_on generalizing s with
  | h length ih =>
      obtain ⟨field, rest, hcut⟩ := exists_cut delimiters s
      cases hcut with
      | last hfree => exact last _ hfree
      | before hfree hdelimiter =>
          have hshorter : rest.length < length := by
            rw [← hlength, List.length_append, List.length_cons]
            omega
          exact before _ _ _ hfree hdelimiter (ih rest.length hshorter rest rfl)

/-! ## All fields -/

/-- The parts between the delimiters, without an empty part at the end. -/
def fields (delimiters : List Char) (s : Text) : List Text :=
  let parts := s.splitOnP (· ∈ delimiters)
  if parts.getLast? = some [] then parts.dropLast else parts

@[simp] theorem fields_nil : fields delimiters [] = [] := by
  simp [fields, List.splitOnP_nil]

theorem fields_of_free (hne : s ≠ []) (hfree : ∀ c ∈ s, c ∉ delimiters) :
    fields delimiters s = [s] := by
  have hparts : s.splitOnP (· ∈ delimiters) = [s] :=
    List.splitOnP_eq_singleton fun c hc => by simpa using hfree c hc
  unfold fields
  simp only [hparts, List.getLast?_singleton, Option.some.injEq, if_neg hne]

/-- A field and a delimiter in front are one field more, whether the rest is empty or not. -/
theorem fields_append_cons {delimiter : Char} (hfree : ∀ c ∈ field, c ∉ delimiters)
    (hdelimiter : delimiter ∈ delimiters) :
    fields delimiters (field ++ delimiter :: rest) = field :: fields delimiters rest := by
  have hparts : (field ++ delimiter :: rest).splitOnP (· ∈ delimiters) =
      field :: rest.splitOnP (· ∈ delimiters) :=
    List.splitOnP_append_cons_of_forall_mem (fun c hc => by simpa using hfree c hc) delimiter
      (by simpa using hdelimiter) rest
  obtain ⟨first, others, hrest⟩ :=
    List.exists_cons_of_ne_nil (List.splitOnP_ne_nil (fun c => decide (c ∈ delimiters)) rest)
  unfold fields
  simp only [hparts, hrest, List.getLast?_cons_cons, List.dropLast_cons_cons]
  split
  · rfl
  · rfl

/-- Each field takes at least one byte of the text, its own or that of its delimiter. -/
theorem length_fields_le (delimiters : List Char) (s : Text) :
    (fields delimiters s).length ≤ s.size := by
  induction s using Cut.induction delimiters with
  | last field hfree =>
      by_cases hne : field = []
      · rw [hne, fields_nil]
        exact Nat.zero_le _
      · rw [fields_of_free hne hfree]
        have hpos : 0 < field.length := List.length_pos_iff.mpr hne
        exact Nat.le_trans hpos (length_le_size field)
  | before field delimiter rest hfree hdelimiter ih =>
      rw [fields_append_cons hfree hdelimiter, List.length_cons, size_append, size_cons]
      have := Char.utf8Size_pos delimiter
      omega

/-! ## A cursor that is read until it fails -/

/-- One call of a reader: what it gets, and the cursor after it.  A call that fails leaves the cursor
where it is. -/
def readField (delimiters : List Char) (cursor : Text) : Except FieldError Text × Text :=
  match cursor.takeFieldBefore delimiters with
  | .ok (field, rest) => (.ok field, rest)
  | .error failure => (.error failure, cursor)

/-- What a number of calls get one after the other, and the cursor after them. -/
def readFields (delimiters : List Char) : Nat → Text → List (Except FieldError Text) × Text
  | 0, cursor => ([], cursor)
  | count + 1, cursor =>
      let call := readField delimiters cursor
      let later := readFields delimiters count call.2
      (call.1 :: later.1, later.2)

theorem readField_of_cut (hne : delimiters ≠ []) (hascii : ∀ d ∈ delimiters, d.toNat < 128)
    (hbounded : s.Bounded) (h : Cut delimiters s field rest) :
    readField delimiters s = (.ok field, rest) := by
  rw [readField, takeFieldBefore_of_cut hne hascii hbounded h]

/-- Nothing is read without delimiters, and nothing from text that is empty or too long. -/
theorem readField_eq_badParameter_iff :
    (readField delimiters s).1 = .error .badParameter ↔
      delimiters = [] ∨ s = [] ∨ Limits.line < s.size := by
  have hrefuse : delimiters = [] ∨ s = [] ∨ Limits.line < s.size ↔
      delimiters = [] ∨ ¬ s.Bounded := by
    rw [Bounded, not_and_or, not_not, Nat.not_le]
  rw [hrefuse, readField, takeFieldBefore]
  by_cases hrefused : delimiters = [] ∨ ¬ s.Bounded
  · rw [if_pos hrefused]
    exact iff_of_true rfl hrefused
  · rw [if_neg hrefused]
    refine iff_of_false ?_ hrefused
    -- the only other failure is a delimiter that is too long
    cases s.fromDelimiter delimiters with
    | nil => nofun
    | cons delimiter rest =>
        by_cases hone : delimiter.utf8Size = 1
        · simp [hone]
        · simp [hone]

theorem readField_cursor_of_error {failure : FieldError}
    (h : (readField delimiters s).1 = .error failure) : (readField delimiters s).2 = s := by
  unfold readField at h ⊢
  split
  next hread =>
    rw [hread] at h
    cases h
  · rfl

/-- An exhausted cursor stays exhausted. -/
theorem readFields_nil (delimiters : List Char) (count : Nat) :
    readFields delimiters count [] = (List.replicate count (.error .badParameter), []) := by
  have hfails : (readField delimiters []).1 = .error .badParameter :=
    readField_eq_badParameter_iff.mpr (.inr (.inl rfl))
  have hcall : readField delimiters [] = (.error .badParameter, []) :=
    Prod.ext hfails (readField_cursor_of_error hfails)
  induction count with
  | zero => rfl
  | succ count ih =>
      simp only [readFields, hcall, ih, List.replicate_succ]

/-- The calls get the fields one after the other, and fail from then on. -/
theorem readFields_eq (hne : delimiters ≠ []) (hascii : ∀ d ∈ delimiters, d.toNat < 128)
    (hsize : s.size ≤ Limits.line) (extra : Nat) :
    readFields delimiters ((fields delimiters s).length + extra) s =
      ((fields delimiters s).map .ok ++ List.replicate extra (.error .badParameter), []) := by
  induction s using Cut.induction delimiters with
  | last field hfree =>
      -- an empty last field is none, and any other one takes one call
      by_cases hnil : field = []
      · subst hnil
        rw [fields_nil, List.length_nil, Nat.zero_add, readFields_nil]
        rfl
      · have hcall := readField_of_cut hne hascii ⟨hnil, hsize⟩ (.last hfree)
        simp only [fields_of_free hnil hfree, List.length_singleton, Nat.add_comm 1, readFields,
          hcall, readFields_nil, List.map_cons, List.map_nil, List.singleton_append]
  | before field delimiter rest hfree hdelimiter ih =>
      have hbounded : Bounded (field ++ delimiter :: rest) :=
        ⟨List.append_ne_nil_of_right_ne_nil _ (List.cons_ne_nil _ _), hsize⟩
      have hcall := readField_of_cut hne hascii hbounded (.before hfree hdelimiter rest)
      have hrest : rest.size ≤ Limits.line := by
        rw [size_append, size_cons] at hsize
        omega
      simp only [fields_append_cons hfree hdelimiter, List.length_cons, Nat.add_right_comm,
        readFields, hcall, ih hrest, List.map_cons, List.cons_append]

/-- A call refuses an empty list of delimiters, and text that is empty or too long, and leaves the
cursor alone.  With delimiters of ASCII, any other call cuts the text at the first of them, and so
many calls as there are fields get all of them, one by one; there are no more fields than bytes, and
every further call fails. -/
theorem cursor_yields_fields (delimiters : List Char) :
    (∀ s : Text,
      ((readField delimiters s).1 = .error .badParameter ↔
        delimiters = [] ∨ s = [] ∨ Limits.line < s.size) ∧
      ∀ failure, (readField delimiters s).1 = .error failure → (readField delimiters s).2 = s) ∧
    (delimiters ≠ [] → (∀ d ∈ delimiters, d.toNat < 128) →
      ∀ s : Text, s ≠ [] → s.size ≤ Limits.line →
        (∃ field rest, readField delimiters s = (.ok field, rest) ∧ Cut delimiters s field rest) ∧
        (fields delimiters s).length ≤ s.size ∧
        ∀ extra, readFields delimiters ((fields delimiters s).length + extra) s =
          ((fields delimiters s).map .ok ++ List.replicate extra (.error .badParameter), [])) := by
  refine ⟨fun s => ⟨readField_eq_badParameter_iff, fun _ => readField_cursor_of_error⟩, ?_⟩
  intro hne hascii s hnil hsize
  obtain ⟨field, rest, hcut⟩ := exists_cut delimiters s
  exact ⟨⟨field, rest, readField_of_cut hne hascii ⟨hnil, hsize⟩ hcut, hcut⟩,
    length_fields_le delimiters s, readFields_eq hne hascii hsize⟩

/-- An empty field at the start and in the middle is read, one at the end is not. -/
theorem cursor_yields_fields_emptyFields :
    let s : Text := ";é::10;"
    s ≠ [] ∧ s.size ≤ Limits.line ∧
      readFields [':', ';'] 5 s =
        ([.ok [], .ok ['é'], .ok [], .ok ['1', '0'], .error .badParameter], []) := by
  have hsplit := (cursor_yields_fields [':', ';']).2 (by decide) (by simp)
    ";é::10;".toList (by decide) (by decide)
  exact ⟨by decide, by decide, hsplit.2.2 1⟩

end ModemLink.Text
