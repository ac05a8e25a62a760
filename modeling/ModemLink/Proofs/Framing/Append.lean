import Mathlib.Data.List.TakeWhile
import ModemLink.Proofs.Framing.Reader

/-!
# More bytes in the buffer

What a frame is must not depend on the bytes behind it.  The header hook of a command decides this
for headers; `Hooks.Settled` says what it has to promise: once it knows what the buffer begins with,
further bytes change nothing.  For such hooks

* `unbounded_append_of_some`: a complete frame stays what it is when bytes are appended;
* `unbounded_append_of_none`: a buffer without a complete frame can be replaced by what waiting
  leaves of it, the empty lines at its start being gone;
* `bounded_eq_unbounded`: the two cuts differ only at a buffer that `Overflows`;
* `cuts_progress`: each frame takes at least one byte.
-/

namespace ModemLink

/-- A line without line ends, the one or two bytes that end a header, and what is behind them. -/
structure HeaderForm (bytes line mark rest : Bytes) : Prop where
  bytes_eq : bytes = line ++ mark ++ rest
  mark_eq : mark = [13] ∨ mark = [10] ∨ mark = [13, 10]
  line_ne : line ≠ []
  line_end : ∀ byte ∈ line, ReadBuffer.isLineEnd byte = false

/-- The hooks look for no prompt, and their header detector decides once and for all.  What it finds
is a line. -/
structure Hooks.Settled (hooks : Hooks) : Prop where
  prompt_eq : hooks.prompt = Option.none
  append_eq : ∀ bytes more, hooks.headerMatch bytes ≠ .incomplete →
    hooks.headerMatch (bytes ++ more) = hooks.headerMatch bytes
  form : ∀ {bytes start length}, hooks.headerMatch bytes = .found start length →
    ∃ line mark rest, HeaderForm bytes line mark rest ∧ start = line.length + mark.length
  large_head : ∀ {bytes}, hooks.headerMatch bytes = .tooLarge →
    ∃ first rest, bytes = first :: rest ∧ ReadBuffer.isLineEnd first = false

namespace Hooks.Settled

variable {hooks : Hooks}

@[simp] theorem promptLength_eq (settled : hooks.Settled) (bytes : Bytes) :
    hooks.promptLength bytes = Option.none := by
  simp [promptLength, settled.prompt_eq]

/-- Lines only. -/
theorem none : Hooks.none.Settled where
  prompt_eq := rfl
  append_eq _ _ _ := rfl
  form h := by cases h
  large_head h := by cases h

theorem start_le (settled : hooks.Settled) {bytes : Bytes} {start length : Nat}
    (h : hooks.headerMatch bytes = .found start length) : 0 < start ∧ start ≤ bytes.length := by
  obtain ⟨line, mark, rest, hform, rfl⟩ := settled.form h
  have hpos := List.length_pos_iff.mpr hform.line_ne
  have hlen := congrArg List.length hform.bytes_eq
  simp only [List.length_append] at hlen
  omega

/-- A header begins with a byte that ends no line. -/
theorem head_eq (settled : hooks.Settled) {bytes : Bytes}
    (h : hooks.headerMatch bytes = .tooLarge ∨
      ∃ start length, hooks.headerMatch bytes = .found start length) :
    ∃ first rest, bytes = first :: rest ∧ ReadBuffer.isLineEnd first = false := by
  rcases h with h | ⟨start, length, h⟩
  · exact settled.large_head h
  · obtain ⟨line, mark, rest, hform, -⟩ := settled.form h
    obtain ⟨first, more, rfl⟩ := List.exists_cons_of_ne_nil hform.line_ne
    exact ⟨first, _, hform.bytes_eq, hform.line_end first List.mem_cons_self⟩

theorem ne_cr (settled : hooks.Settled) {bytes : Bytes}
    (h : hooks.headerMatch bytes = .tooLarge ∨
      ∃ start length, hooks.headerMatch bytes = .found start length) : bytes ≠ [13] := by
  intro hcr
  obtain ⟨first, rest, hbytes, hfirst⟩ := settled.head_eq h
  rw [hcr] at hbytes
  cases hbytes
  cases hfirst

end Hooks.Settled

namespace ReadBuffer

/-! ## Skipping and splitting -/

theorem skipPairs_append (bytes more : Bytes) :
    skipPairs (skipPairs bytes ++ more) = skipPairs (bytes ++ more) := by
  fun_induction skipPairs bytes with
  | case1 first second rest hpair ih =>
      rw [ih]
      simp [skipPairs, hpair]
  | case2 => rfl
  | case3 => rfl

theorem dropWhile_append_dropWhile {α : Type} (p : α → Bool) (xs ys : List α) :
    (xs.dropWhile p ++ ys).dropWhile p = (xs ++ ys).dropWhile p := by
  induction xs with
  | nil => rfl
  | cons x xs ih =>
      by_cases hx : p x = true
      · simp [hx, ih]
      · simp [hx]

/-- The empty lines at the start may be skipped before the rest arrives. -/
theorem skipLineEnds_append (ending : LineEnding) (bytes more : Bytes) :
    skipLineEnds ending (skipLineEnds ending bytes ++ more) =
      skipLineEnds ending (bytes ++ more) := by
  cases ending with
  | anyOf => exact dropWhile_append_dropWhile _ _ _
  | pair => exact skipPairs_append _ _

@[simp] theorem skipLineEnds_skipLineEnds (ending : LineEnding) (bytes : Bytes) :
    skipLineEnds ending (skipLineEnds ending bytes) = skipLineEnds ending bytes := by
  simpa using skipLineEnds_append ending bytes []

theorem skipPairs_append_of_two (first second : UInt8) (rest more : Bytes)
    (h : skipPairs (first :: second :: rest) = first :: second :: rest) :
    skipPairs (first :: second :: rest ++ more) = first :: second :: rest ++ more := by
  by_cases hpair : first = 13 ∧ second = 10
  · -- a pair would have been skipped, and the bytes would be fewer
    have hle := (skipPairs_suffix rest).length_le
    rw [skipPairs, if_pos hpair] at h
    have hlen := congrArg List.length h
    simp only [List.length_cons] at hlen
    omega
  · simp [skipPairs, hpair]

/-- Bytes that begin with no empty line do so whatever follows, unless they are a lone CR. -/
theorem skipLineEnds_append_of_eq {ending : LineEnding} {bytes more : Bytes}
    (h : skipLineEnds ending bytes = bytes) (hne : bytes ≠ []) (hcr : bytes ≠ [13]) :
    skipLineEnds ending (bytes ++ more) = bytes ++ more := by
  cases ending with
  | anyOf =>
      simp only [skipLineEnds] at h ⊢
      obtain ⟨first, rest, rfl⟩ := List.exists_cons_of_ne_nil hne
      have hfirst : ¬ isLineEnd first = true := List.dropWhile_eq_self_iff.mp h (Nat.succ_pos _)
      simp [hfirst]
  | pair =>
      match bytes, hne with
      | [first], _ =>
          -- only a CR could still become an empty line
          have hfirst : first ≠ 13 := fun hf => hcr (by rw [hf])
          cases more with
          | nil => rfl
          | cons second more => simp [skipLineEnds, skipPairs, hfirst]
      | first :: second :: rest, _ => exact skipPairs_append_of_two first second rest more h

theorem splitPair?_append {bytes line rest : Bytes} (h : splitPair? bytes = some (line, rest))
    (more : Bytes) : splitPair? (bytes ++ more) = some (line, rest ++ more) := by
  fun_induction splitPair? bytes generalizing line with
  | case1 first second tail hp =>
      cases h
      simp [splitPair?, hp]
  | case2 first second tail hp ih =>
      simp only [Option.map_eq_some_iff, Prod.exists, Prod.mk.injEq] at h
      obtain ⟨line, tail', h, rfl, rfl⟩ := h
      simp only [List.cons_append] at ih ⊢
      rw [splitPair?, if_neg hp, ih h]
      rfl
  | case3 => simp at h

theorem splitAny?_append {bytes line rest : Bytes} (h : splitAny? bytes = some (line, rest))
    (more : Bytes) : splitAny? (bytes ++ more) = some (line, rest ++ more) := by
  unfold splitAny? at h ⊢
  split at h
  · contradiction
  · next byte tail hd =>
      cases h
      have hmem : (bytes.dropWhile fun byte => !isLineEnd byte) ≠ [] := by simp [hd]
      have hany : ¬ ∀ x ∈ bytes, (!isLineEnd x) = true := fun hall =>
        hmem (List.dropWhile_eq_nil_iff.mpr hall)
      rw [List.dropWhile_append, List.takeWhile_append]
      -- the line stops inside `bytes`, so it does not run on into `more`
      have hlen : (bytes.takeWhile fun byte => !isLineEnd byte).length ≠ bytes.length := by
        intro hlen
        have hwhole : (bytes.takeWhile fun byte => !isLineEnd byte) ++ byte :: rest = bytes := by
          rw [← hd, List.takeWhile_append_dropWhile]
        have := congrArg List.length hwhole
        rw [List.length_append, List.length_cons] at this
        omega
      simp [hd, hlen]

/-- A complete line stays what it is. -/
theorem splitLine?_append {ending : LineEnding} {bytes line rest : Bytes}
    (h : splitLine? ending bytes = some (line, rest)) (more : Bytes) :
    splitLine? ending (bytes ++ more) = some (line, rest ++ more) := by
  cases ending with
  | anyOf => exact splitAny?_append h more
  | pair => exact splitPair?_append h more

/-! ## Waiting -/

/-- What waiting leaves of a buffer: an owed payload stays, empty lines go. -/
def waiting (ending : LineEnding) (buffer : ReadBuffer) : ReadBuffer :=
  match buffer.owed with
  | some _ => buffer
  | none => { bytes := skipLineEnds ending buffer.bytes, owed := none }

@[simp] theorem owed_append (buffer : ReadBuffer) (chunk : Bytes) :
    (buffer.append chunk).owed = buffer.owed := rfl

@[simp] theorem bytes_append (buffer : ReadBuffer) (chunk : Bytes) :
    (buffer.append chunk).bytes = buffer.bytes ++ chunk := rfl

@[simp] theorem append_append (buffer : ReadBuffer) (first second : Bytes) :
    (buffer.append first).append second = buffer.append (first ++ second) := by
  simp [append]

@[simp] theorem append_nil (buffer : ReadBuffer) : buffer.append [] = buffer := by
  simp [append]

@[simp] theorem owed_waiting (ending : LineEnding) (buffer : ReadBuffer) :
    (buffer.waiting ending).owed = buffer.owed := by
  unfold waiting
  split <;> simp_all

theorem bytes_waiting_of_none {ending : LineEnding} {buffer : ReadBuffer}
    (h : buffer.owed = none) :
    (buffer.waiting ending).bytes = skipLineEnds ending buffer.bytes := by
  simp [waiting, h]

theorem length_waiting_le (ending : LineEnding) (buffer : ReadBuffer) :
    (buffer.waiting ending).bytes.length ≤ buffer.bytes.length := by
  unfold waiting
  split
  · exact Nat.le_refl _
  · exact (skipLineEnds_suffix ending buffer.bytes).length_le

theorem waiting_append (ending : LineEnding) (buffer : ReadBuffer) (chunk : Bytes) :
    ((buffer.waiting ending).append chunk).waiting ending =
      (buffer.append chunk).waiting ending := by
  unfold waiting
  cases howed : buffer.owed with
  | some length => simp [append, howed]
  | none => simp [append, howed, skipLineEnds_append]

@[simp] theorem waiting_empty (ending : LineEnding) : empty.waiting ending = empty := by
  cases ending <;> rfl

@[simp] theorem waiting_waiting (ending : LineEnding) (buffer : ReadBuffer) :
    (buffer.waiting ending).waiting ending = buffer.waiting ending := by
  simpa using waiting_append ending buffer []

/-- Where the next frame is looked for: nothing is owed, and the bytes begin with no empty line. -/
structure AtLine (ending : LineEnding) (buffer : ReadBuffer) : Prop where
  owed_eq : buffer.owed = none
  skip_eq : skipLineEnds ending buffer.bytes = buffer.bytes
  bytes_ne : buffer.bytes ≠ []

theorem atLine_waiting {ending : LineEnding} {buffer : ReadBuffer} (howed : buffer.owed = none)
    (hne : (buffer.waiting ending).bytes ≠ []) : AtLine ending (buffer.waiting ending) where
  owed_eq := (owed_waiting ending buffer).trans howed
  skip_eq := by rw [bytes_waiting_of_none howed, skipLineEnds_skipLineEnds]
  bytes_ne := hne

/-- Three places at which a buffer can be cut. -/
theorem waiting_cases (ending : LineEnding) (buffer : ReadBuffer) :
    (∃ length, buffer.owed = some length) ∨ buffer.waiting ending = empty ∨
      AtLine ending (buffer.waiting ending) := by
  cases howed : buffer.owed with
  | some length => exact .inl ⟨length, rfl⟩
  | none =>
      right
      by_cases hbytes : skipLineEnds ending buffer.bytes = []
      · -- nothing but empty lines
        left
        simp [waiting, howed, hbytes, empty]
      · right
        refine atLine_waiting howed ?_
        rwa [bytes_waiting_of_none howed]

/-- The header of a payload that can never be held stands at the start. -/
def TooLarge (ending : LineEnding) (hooks : Hooks) (buffer : ReadBuffer) : Prop :=
  buffer.owed = none ∧ hooks.headerMatch (buffer.waiting ending).bytes = .tooLarge

theorem TooLarge.atLine {ending : LineEnding} {hooks : Hooks} {buffer : ReadBuffer}
    (settled : hooks.Settled) (h : TooLarge ending hooks buffer) :
    AtLine ending (buffer.waiting ending) := by
  obtain ⟨first, rest, hbytes, -⟩ := settled.large_head h.2
  refine atLine_waiting h.1 ?_
  rw [hbytes]
  exact List.cons_ne_nil first rest

/-! ## One cut -/

theorem frame?_congr {first second : Nat} {ending : LineEnding} {hooks : Hooks} {bytes : Bytes}
    (hfirst : bytes.length < first) (hsecond : bytes.length < second) :
    frame? first ending hooks bytes = frame? second ending hooks bytes := by
  have hreset : ∀ capacity, bytes.length < capacity →
      resetIfFull capacity { bytes := bytes, owed := none } = { bytes := bytes, owed := none } :=
    fun capacity h => if_neg (Nat.not_le.mpr h)
  unfold frame?
  rw [hreset first hfirst, hreset second hsecond]

theorem next_waiting (capacity : Nat) (ending : LineEnding) (hooks : Hooks) (buffer : ReadBuffer) :
    (buffer.waiting ending).next capacity ending hooks = buffer.next capacity ending hooks := by
  unfold next waiting
  cases howed : buffer.owed with
  | some length => simp [howed]
  | none => simp

theorem next_of_atLine {capacity : Nat} {ending : LineEnding} {hooks : Hooks} {buffer : ReadBuffer}
    (h : AtLine ending buffer) :
    buffer.next capacity ending hooks = frame? capacity ending hooks buffer.bytes := by
  unfold next
  rw [h.owed_eq, h.skip_eq]
  obtain ⟨first, rest, hbytes⟩ := List.exists_cons_of_ne_nil h.bytes_ne
  rw [hbytes]

theorem next_empty (capacity : Nat) (ending : LineEnding) (hooks : Hooks) :
    empty.next capacity ending hooks = (none, empty) := by
  cases ending <;> rfl

/-- A capacity that is not reached does not matter. -/
theorem next_congr {first second : Nat} {ending : LineEnding} {hooks : Hooks} {buffer : ReadBuffer}
    (hfirst : (buffer.waiting ending).bytes.length < first)
    (hsecond : (buffer.waiting ending).bytes.length < second) :
    buffer.next first ending hooks = buffer.next second ending hooks := by
  rcases waiting_cases ending buffer with ⟨length, howed⟩ | hempty | hline
  · simp [next, howed]
  · rw [← next_waiting first, ← next_waiting second, hempty, next_empty, next_empty]
  · rw [← next_waiting first, ← next_waiting second, next_of_atLine hline, next_of_atLine hline,
      frame?_congr hfirst hsecond]

end ReadBuffer

namespace Framing

open ReadBuffer

variable {ending : LineEnding} {hooks : Hooks} {buffer rest : ReadBuffer} {frame : Frame}

theorem unbounded_eq_next {capacity : Nat}
    (h : (buffer.waiting ending).bytes.length < capacity) :
    unbounded ending hooks buffer = buffer.next capacity ending hooks :=
  next_congr (Nat.lt_succ_of_le (length_waiting_le ending buffer)) h

theorem unbounded_waiting :
    unbounded ending hooks (buffer.waiting ending) = unbounded ending hooks buffer := by
  have hroom : ((buffer.waiting ending).waiting ending).bytes.length < buffer.bytes.length + 1 := by
    rw [waiting_waiting]
    exact Nat.lt_succ_of_le (length_waiting_le ending buffer)
  rw [unbounded_eq_next hroom, next_waiting, unbounded]

/-- The empty lines at the start do not matter. -/
theorem unbounded_congr {first second : ReadBuffer}
    (h : first.waiting ending = second.waiting ending) :
    unbounded ending hooks first = unbounded ending hooks second := by
  rw [← unbounded_waiting, h, unbounded_waiting]

theorem tooLarge_congr {first second : ReadBuffer}
    (h : first.waiting ending = second.waiting ending) :
    TooLarge ending hooks first ↔ TooLarge ending hooks second := by
  have howed : first.owed = second.owed := by
    rw [← owed_waiting ending first, h, owed_waiting]
  rw [TooLarge, TooLarge, howed, h]

/-- How a frame comes off a buffer that is never full. -/
inductive Cuts (ending : LineEnding) (hooks : Hooks) : ReadBuffer → Frame → ReadBuffer → Prop
  | payload {bytes : Bytes} {length : Nat} (h : length ≤ bytes.length) :
      Cuts ending hooks ⟨bytes, some length⟩ (.payload (bytes.take length))
        ⟨bytes.drop length, none⟩
  | header {buffer : ReadBuffer} {start length : Nat} (line : AtLine ending (buffer.waiting ending))
      (h : hooks.headerMatch (buffer.waiting ending).bytes = .found start length) :
      Cuts ending hooks buffer (.line (trimLineEnd ((buffer.waiting ending).bytes.take start)))
        ⟨(buffer.waiting ending).bytes.drop start, if length = 0 then none else some length⟩
  | line {buffer : ReadBuffer} {line rest : Bytes} (start : AtLine ending (buffer.waiting ending))
      (habsent : hooks.headerMatch (buffer.waiting ending).bytes = .absent)
      (h : splitLine? ending (buffer.waiting ending).bytes = some (line, rest)) :
      Cuts ending hooks buffer (.line line) ⟨rest, none⟩

theorem unbounded_of_atLine (settled : hooks.Settled) (h : AtLine ending (buffer.waiting ending)) :
    unbounded ending hooks buffer =
      match hooks.headerMatch (buffer.waiting ending).bytes with
      | .found start length =>
          (some (.line (trimLineEnd ((buffer.waiting ending).bytes.take start))),
            ⟨(buffer.waiting ending).bytes.drop start, if length = 0 then none else some length⟩)
      | .incomplete => (none, buffer.waiting ending)
      | .tooLarge => (none, empty)
      | .absent =>
          match splitLine? ending (buffer.waiting ending).bytes with
          | some (line, rest) => (some (.line line), ⟨rest, none⟩)
          | none => (none, buffer.waiting ending) := by
  rw [← unbounded_waiting, unbounded, next_of_atLine h]
  generalize buffer.waiting ending = start at h ⊢
  obtain ⟨bytes, owed⟩ := start
  obtain rfl : owed = none := h.owed_eq
  unfold frame?
  rw [settled.promptLength_eq]
  cases hooks.headerMatch bytes with
  | absent =>
      -- with room for one byte more than there are, a line without end does not fill the buffer
      cases splitLine? ending bytes with
      | none => exact congrArg (Prod.mk none) (if_neg (Nat.not_succ_le_self _))
      | some pieces => rfl
  | _ => rfl

/-- The cases of a cut. -/
theorem unbounded_eq_some (settled : hooks.Settled) :
    unbounded ending hooks buffer = (some frame, rest) ↔ Cuts ending hooks buffer frame rest := by
  constructor
  · intro h
    -- every branch of a cut that yields a frame is one constructor
    rcases waiting_cases ending buffer with ⟨length, howed⟩ | hempty | hline
    · obtain ⟨bytes, owed⟩ := buffer
      cases howed
      simp only [unbounded, next] at h
      split at h
      · cases h
      · cases h
        exact .payload (by omega)
    · rw [← unbounded_waiting, hempty, unbounded, next_empty] at h
      cases h
    · rw [unbounded_of_atLine settled hline] at h
      split at h
      next hfound => cases h; exact .header hline hfound
      · cases h
      · cases h
      next habsent =>
        split at h
        next hsplit => cases h; exact .line hline habsent hsplit
        · cases h
  · intro h
    cases h with
    | payload h => simp [unbounded, next, Nat.not_lt.mpr h]
    | header hline hfound => rw [unbounded_of_atLine settled hline, hfound]
    | line hline habsent hsplit => rw [unbounded_of_atLine settled hline, habsent, hsplit]

/-- A buffer without a complete frame is left waiting. -/
theorem eq_waiting_of_unbounded (settled : hooks.Settled) (hlarge : ¬ TooLarge ending hooks buffer)
    (h : unbounded ending hooks buffer = (none, rest)) : rest = buffer.waiting ending := by
  rcases waiting_cases ending buffer with ⟨length, howed⟩ | hempty | hline
  · simp only [unbounded, next, howed] at h
    split at h
    · cases h
      simp [waiting, howed]
    · cases h
  · rw [← unbounded_waiting, hempty, unbounded, next_empty] at h
    cases h
    exact hempty.symm
  · rw [unbounded_of_atLine settled hline] at h
    split at h
    · cases h
    · cases h; rfl
    -- the one case in which the buffer is emptied is ruled out
    next htoo => exact absurd ⟨(owed_waiting ending buffer).symm.trans hline.owed_eq, htoo⟩ hlarge
    next =>
      split at h
      · cases h
      · cases h; rfl

/-! ## Appending -/

theorem waiting_append_of_atLine (h : AtLine ending (buffer.waiting ending))
    (hcr : (buffer.waiting ending).bytes ≠ [13]) (chunk : Bytes) :
    (buffer.append chunk).waiting ending = (buffer.waiting ending).append chunk := by
  have hskip : skipLineEnds ending ((buffer.waiting ending).bytes ++ chunk) =
      (buffer.waiting ending).bytes ++ chunk :=
    skipLineEnds_append_of_eq h.skip_eq h.bytes_ne hcr
  rw [← waiting_append]
  generalize buffer.waiting ending = start at h hskip ⊢
  simp [waiting, append, h.owed_eq, hskip]

theorem atLine_append (h : AtLine ending buffer) (hcr : buffer.bytes ≠ [13]) (chunk : Bytes) :
    AtLine ending (buffer.append chunk) where
  owed_eq := h.owed_eq
  skip_eq := skipLineEnds_append_of_eq h.skip_eq h.bytes_ne hcr
  bytes_ne := by simp [h.bytes_ne]

/-- A lone CR is no frame. -/
theorem splitLine?_cr (ending : LineEnding) (line rest : Bytes)
    (h : splitLine? ending [13] = some (line, rest)) : ¬ AtLine ending ⟨[13], none⟩ := by
  intro hline
  cases ending with
  | anyOf => exact hline.bytes_ne hline.skip_eq.symm
  | pair => cases h

/-- Behind a complete frame the empty lines at the start of the buffer are no longer in doubt. -/
theorem waiting_append_of_cuts (settled : hooks.Settled) (h : Cuts ending hooks buffer frame rest)
    (chunk : Bytes) :
    (buffer.append chunk).waiting ending = (buffer.waiting ending).append chunk := by
  cases h with
  | payload h => rfl
  | @header buffer start length hline hfound =>
      exact waiting_append_of_atLine hline (settled.ne_cr (.inr ⟨start, length, hfound⟩)) chunk
  | @line buffer line rest hline habsent hsplit =>
      -- a lone CR would be no complete line
      refine waiting_append_of_atLine hline (fun hcr => ?_) chunk
      rw [hcr] at hsplit
      refine splitLine?_cr ending line rest hsplit ?_
      rw [← hcr, ← hline.owed_eq]
      exact hline

/-- A complete frame stays what it is. -/
theorem cuts_append (settled : hooks.Settled) (h : Cuts ending hooks buffer frame rest)
    (chunk : Bytes) : Cuts ending hooks (buffer.append chunk) frame (rest.append chunk) := by
  have hwait := waiting_append_of_cuts settled h chunk
  cases h with
  | @payload bytes length h =>
      have hroom : length ≤ (bytes ++ chunk).length := by
        rw [List.length_append]
        exact Nat.le_add_right_of_le h
      have hcut : Cuts ending hooks ⟨bytes ++ chunk, some length⟩ _ _ := Cuts.payload hroom
      rwa [List.take_append_of_le_length h, List.drop_append_of_le_length h] at hcut
  | @header buffer start length hline hfound =>
      -- the header lies within the old bytes, so taking it from the new ones takes the same
      have hstart := (settled.start_le hfound).2
      have hcr := settled.ne_cr (.inr ⟨start, length, hfound⟩)
      have hmore : hooks.headerMatch ((buffer.append chunk).waiting ending).bytes =
          .found start length := by
        rw [hwait, bytes_append, settled.append_eq _ _ (by simp [hfound]), hfound]
      have hcut := Cuts.header (hwait ▸ atLine_append hline hcr chunk) hmore
      rw [hwait, bytes_append, List.take_append_of_le_length hstart,
        List.drop_append_of_le_length hstart] at hcut
      exact hcut
  | @line buffer line rest hline habsent hsplit =>
      refine Cuts.line ?_ ?_ ?_
      · refine atLine_waiting ((owed_waiting ending buffer).symm.trans hline.owed_eq) ?_
        rw [hwait, bytes_append]
        exact List.append_ne_nil_of_left_ne_nil hline.bytes_ne chunk
      · rw [hwait, bytes_append, settled.append_eq _ _ (by simp [habsent]), habsent]
      · rw [hwait, bytes_append, splitLine?_append hsplit]

theorem unbounded_append_of_some (settled : hooks.Settled)
    (h : unbounded ending hooks buffer = (some frame, rest)) (chunk : Bytes) :
    unbounded ending hooks (buffer.append chunk) = (some frame, rest.append chunk) :=
  (unbounded_eq_some settled).mpr (cuts_append settled ((unbounded_eq_some settled).mp h) chunk)

/-- While no frame is complete, what arrives may be added to what waiting has left. -/
theorem unbounded_append_of_none (settled : hooks.Settled)
    (hlarge : ¬ TooLarge ending hooks buffer) (h : unbounded ending hooks buffer = (none, rest))
    (chunk : Bytes) :
    unbounded ending hooks (buffer.append chunk) = unbounded ending hooks (rest.append chunk) := by
  rw [eq_waiting_of_unbounded settled hlarge h, ← unbounded_waiting, ← waiting_append,
    unbounded_waiting]

/-- A header that is too large remains so. -/
theorem tooLarge_append (settled : hooks.Settled) (h : TooLarge ending hooks buffer)
    (chunk : Bytes) : TooLarge ending hooks (buffer.append chunk) := by
  refine ⟨h.1, ?_⟩
  rw [waiting_append_of_atLine (h.atLine settled) (settled.ne_cr (.inl h.2)), bytes_append,
    settled.append_eq _ _ (by simp [h.2]), h.2]

theorem unbounded_of_tooLarge (settled : hooks.Settled) (h : TooLarge ending hooks buffer) :
    unbounded ending hooks buffer = (none, empty) := by
  rw [unbounded_of_atLine settled (h.atLine settled), h.2]

/-! ## The capacity -/

/-- The buffer is full, and shows neither a header nor a line end. -/
structure Overflows (ending : LineEnding) (hooks : Hooks) (buffer : ReadBuffer) : Prop where
  atLine : AtLine ending (buffer.waiting ending)
  absent : hooks.headerMatch (buffer.waiting ending).bytes = .absent
  split_eq : splitLine? ending (buffer.waiting ending).bytes = none
  full : Limits.readBuffer ≤ (buffer.waiting ending).bytes.length

/-- A buffer with a complete frame does not overflow. -/
theorem not_overflows_of_some (settled : hooks.Settled)
    (h : unbounded ending hooks buffer = (some frame, rest)) : ¬ Overflows ending hooks buffer := by
  intro hover
  have hnone := unbounded_of_atLine settled hover.atLine
  rw [hover.absent, hover.split_eq, h] at hnone
  cases hnone

theorem bounded_of_overflows (settled : hooks.Settled) (h : Overflows ending hooks buffer) :
    bounded ending hooks buffer = (none, empty) := by
  rw [bounded, ← next_waiting, next_of_atLine h.atLine, frame?, settled.promptLength_eq, h.absent,
    h.split_eq]
  exact congrArg (Prod.mk none) (if_pos h.full)

/-- Elsewhere the capacity does not matter. -/
theorem bounded_eq_unbounded (settled : hooks.Settled) (h : ¬ Overflows ending hooks buffer) :
    bounded ending hooks buffer = unbounded ending hooks buffer := by
  rcases Nat.lt_or_ge (buffer.waiting ending).bytes.length Limits.readBuffer with hroom | hfull
  · exact (unbounded_eq_next hroom).symm
  -- of a full buffer, only one that shows neither a header nor a line end is emptied
  rcases waiting_cases ending buffer with ⟨length, howed⟩ | hempty | hline
  · simp [bounded, unbounded, next, howed]
  · rw [hempty] at hfull
    exact absurd hfull (by decide)
  · rw [unbounded_of_atLine settled hline, bounded, ← next_waiting, next_of_atLine hline, frame?,
      settled.promptLength_eq]
    -- the capacity is asked for only where there is no line end
    cases hmatch : hooks.headerMatch (buffer.waiting ending).bytes with
    | found start length => rfl
    | incomplete =>
        simp only [Prod.mk.injEq, true_and]
        rw [← hline.owed_eq]
    | tooLarge => rfl
    | absent =>
        cases hsplit : splitLine? ending (buffer.waiting ending).bytes with
        | some pieces => rfl
        | none => exact absurd ⟨hline, hmatch, hsplit, hfull⟩ h

theorem bounded_eq_some (settled : hooks.Settled)
    (h : bounded ending hooks buffer = (some frame, rest)) :
    Cuts ending hooks buffer frame rest := by
  by_cases hover : Overflows ending hooks buffer
  · rw [bounded_of_overflows settled hover] at h
    cases h
  · rw [bounded_eq_unbounded settled hover] at h
    exact (unbounded_eq_some settled).mp h

/-! ## Progress -/

theorem cuts_progress (settled : hooks.Settled) (howed : buffer.owed ≠ some 0)
    (h : Cuts ending hooks buffer frame rest) :
    rest.owed ≠ some 0 ∧ rest.bytes.length < buffer.bytes.length := by
  cases h with
  | @payload bytes length h =>
      have hlength : length ≠ 0 := fun hzero => howed (by rw [hzero])
      simp only [List.length_drop]
      exact ⟨nofun, by omega⟩
  | @header buffer start length hline hfound =>
      -- a header has at least one byte, and a payload that is announced is not empty
      obtain ⟨hpos, hstart⟩ := settled.start_le hfound
      have hle := length_waiting_le ending buffer
      refine ⟨?_, ?_⟩
      · split
        · nofun
        next hne => simpa using hne
      · simp only [List.length_drop]
        omega
  | @line buffer line rest hline habsent hsplit =>
      have hle := length_waiting_le ending buffer
      have hlt := length_splitLine? hsplit
      exact ⟨nofun, by simp only; omega⟩

/-- A reader that keeps to hooks that are settled. -/
def Reader.KeepsSettled {σ : Type} (reader : Reader σ) : Prop :=
  ∀ state frame owed, (reader.hooks state).Settled →
    (reader.hooks (reader.handle state frame owed)).Settled

/-- Both cuts progress as long as a reader keeps to hooks that are settled. -/
theorem steady_unbounded {σ : Type} {reader : Reader σ} (ending : LineEnding)
    (keeps : reader.KeepsSettled) :
    Reader.Steady (unbounded ending) reader fun state => (reader.hooks state).Settled where
  progresses settled _ _ _ howed hcut :=
    cuts_progress settled howed ((unbounded_eq_some settled).mp hcut)
  keeps {state} frame owed settled := keeps state frame owed settled

theorem steady_bounded {σ : Type} {reader : Reader σ} (ending : LineEnding)
    (keeps : reader.KeepsSettled) :
    Reader.Steady (bounded ending) reader fun state => (reader.hooks state).Settled where
  progresses settled _ _ _ howed hcut := cuts_progress settled howed (bounded_eq_some settled hcut)
  keeps {state} frame owed settled := keeps state frame owed settled

end Framing

end ModemLink
