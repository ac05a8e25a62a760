import ModemLink.Proofs.Framing.Append

/-!
# The stream arrives in chunks

A reader that gets its bytes in chunks takes the same frames as one that gets them at once, as long
as no line is longer than the buffer.  `WithinLimits` is that condition, stated for a buffer that is
never full; it is all that the bounded buffer needs.

The induction is on the frames that the first chunk completes: `drains_prefix` moves all of them from
the front of the whole stream into the state, and leaves what waits in front of the rest.
`drains_feed` repeats this for each chunk.
-/

namespace ModemLink

namespace ReadBuffer

theorem length_le_of_splitPair? {bytes more line rest : Bytes} (hnone : splitPair? bytes = none)
    (h : splitPair? (bytes ++ more) = some (line, rest)) : bytes.length ≤ line.length + 1 := by
  -- along the scan of `bytes`, which finds no pair: the pair that ends the line starts at its last
  -- byte or later
  fun_induction splitPair? bytes generalizing line with
  | case1 => cases hnone
  | case2 first second tail hpair ih =>
      simp only [List.cons_append] at h ih
      rw [splitPair?, if_neg hpair, Option.map_eq_some_iff] at h
      obtain ⟨⟨line', rest'⟩, hsplit, heq⟩ := h
      cases heq
      have hle := ih (Option.map_eq_none_iff.mp hnone) hsplit
      simp only [List.length_cons] at hle ⊢
      omega
  | case3 bytes hshort =>
      rcases bytes with _ | ⟨first, _ | ⟨second, tail⟩⟩
      · exact Nat.zero_le _
      · exact Nat.le_add_left _ _
      · exact absurd rfl (hshort first second tail)

theorem length_le_of_splitAny? {bytes more line rest : Bytes} (hnone : splitAny? bytes = none)
    (h : splitAny? (bytes ++ more) = some (line, rest)) : bytes.length ≤ line.length := by
  have hall : ∀ byte ∈ bytes, (!isLineEnd byte) = true := by
    unfold splitAny? at hnone
    split at hnone
    next hnil => exact List.dropWhile_eq_nil_iff.mp hnil
    · cases hnone
  unfold splitAny? at h
  split at h
  · cases h
  · cases h
    rw [List.takeWhile_append_of_pos hall, List.length_append]
    exact Nat.le_add_right _ _

/-- Before a line is complete, the buffer holds no more than the line and the first byte of its
end. -/
theorem length_le_of_splitLine? {ending : LineEnding} {bytes more line rest : Bytes}
    (hnone : splitLine? ending bytes = none)
    (h : splitLine? ending (bytes ++ more) = some (line, rest)) :
    bytes.length ≤ line.length + 1 := by
  cases ending with
  | anyOf => exact Nat.le_succ_of_le (length_le_of_splitAny? hnone h)
  | pair => exact length_le_of_splitPair? hnone h

end ReadBuffer

namespace Framing

open ReadBuffer

variable {σ : Type} {ending : LineEnding} {hooks : Hooks} {reader : Reader σ}

/-- No line of the stream is longer than the buffer, its line end included, and no header announces
more than can be held.  The line that has not arrived completely may fill the buffer but for one
byte. -/
inductive WithinLimits (ending : LineEnding) (reader : Reader σ) : σ → ReadBuffer → Prop
  | waits {state : σ} {buffer rest : ReadBuffer}
      (h : unbounded ending (reader.hooks state) buffer = (none, rest))
      (hlarge : ¬ TooLarge ending (reader.hooks state) buffer)
      (hline : rest.owed = none → (reader.hooks state).headerMatch rest.bytes = .absent →
        rest.bytes.length < Limits.readBuffer) :
      WithinLimits ending reader state buffer
  | takes {state : σ} {buffer rest : ReadBuffer} {frame : Frame}
      (h : unbounded ending (reader.hooks state) buffer = (some frame, rest))
      (hline : ∀ line, frame = .line line → line.length + 2 ≤ Limits.readBuffer)
      (next : WithinLimits ending reader (reader.handle state frame rest.owed) rest) :
      WithinLimits ending reader state buffer

/-- The empty lines at the start do not count. -/
theorem WithinLimits.congr {state : σ} {first second : ReadBuffer}
    (heq : first.waiting ending = second.waiting ending)
    (h : WithinLimits ending reader state first) : WithinLimits ending reader state second := by
  cases h with
  | waits hcut hlarge hline =>
      refine .waits ?_ (fun htoo => hlarge ((tooLarge_congr heq).mpr htoo)) hline
      rw [← hcut, unbounded_congr heq]
  | takes hcut hline next =>
      refine .takes ?_ hline next
      rw [← hcut, unbounded_congr heq]

theorem WithinLimits.of_takes {state : σ} {buffer rest : ReadBuffer} {frame : Frame}
    (hcut : unbounded ending (reader.hooks state) buffer = (some frame, rest))
    (h : WithinLimits ending reader state buffer) :
    WithinLimits ending reader (reader.handle state frame rest.owed) rest := by
  cases h with
  | waits hwaits => rw [hcut] at hwaits; cases hwaits
  | takes htakes _ next =>
      rw [hcut] at htakes
      cases htakes
      exact next

/-- A header that is too large is beyond the limits, also before the rest arrives. -/
theorem WithinLimits.not_tooLarge {state : σ} {buffer : ReadBuffer} {chunk : Bytes}
    (settled : (reader.hooks state).Settled)
    (h : WithinLimits ending reader state (buffer.append chunk)) :
    ¬ TooLarge ending (reader.hooks state) buffer := by
  intro htoo
  have happend := tooLarge_append settled htoo chunk
  cases h with
  | waits _ hlarge _ => exact hlarge happend
  | takes hcut _ _ => rw [unbounded_of_tooLarge settled happend] at hcut; cases hcut

/-- The line that fills the buffer ends in what arrives next or not at all.  Either way it is too
long. -/
theorem unbounded_append_of_overflows {buffer : ReadBuffer} (settled : hooks.Settled)
    (h : Overflows ending hooks buffer) (chunk : Bytes) :
    (∃ line rest, unbounded ending hooks (buffer.append chunk) = (some (.line line), rest) ∧
      Limits.readBuffer ≤ line.length + 1) ∨
    ∃ rest, unbounded ending hooks (buffer.append chunk) = (none, rest) ∧ rest.owed = none ∧
      hooks.headerMatch rest.bytes = .absent ∧ Limits.readBuffer ≤ rest.bytes.length := by
  have hfull := h.full
  -- a full buffer is no lone CR, so what arrives is simply behind it
  have hcr : (buffer.waiting ending).bytes ≠ [13] := by
    intro hcr
    rw [hcr] at hfull
    exact absurd hfull (by decide)
  have hwait := waiting_append_of_atLine h.atLine hcr chunk
  have hline : AtLine ending ((buffer.append chunk).waiting ending) :=
    hwait ▸ atLine_append h.atLine hcr chunk
  have habsent : hooks.headerMatch ((buffer.waiting ending).bytes ++ chunk) = .absent := by
    rw [settled.append_eq _ _ (by simp [h.absent]), h.absent]
  have hcut := unbounded_of_atLine settled hline
  rw [hwait, bytes_append, habsent] at hcut
  cases hsplit : splitLine? ending ((buffer.waiting ending).bytes ++ chunk) with
  | some pieces =>
      obtain ⟨line, rest⟩ := pieces
      rw [hsplit] at hcut
      exact .inl ⟨line, _, hcut, Nat.le_trans hfull (length_le_of_splitLine? h.split_eq hsplit)⟩
  | none =>
      rw [hsplit] at hcut
      refine .inr ⟨_, hcut, h.atLine.owed_eq, habsent, ?_⟩
      rw [bytes_append, List.length_append]
      exact Nat.le_add_right_of_le hfull

/-- A line that fits does not overflow the buffer before its end arrives. -/
theorem WithinLimits.not_overflows {state : σ} {buffer : ReadBuffer} {chunk : Bytes}
    (settled : (reader.hooks state).Settled)
    (h : WithinLimits ending reader state (buffer.append chunk)) :
    ¬ Overflows ending (reader.hooks state) buffer := by
  intro hover
  rcases unbounded_append_of_overflows settled hover chunk with
    ⟨line, rest, hcut, hlong⟩ | ⟨rest, hcut, howed, habsent, hlong⟩
  · -- the line ends in the chunk, and is too long
    cases h with
    | waits hwaits _ _ => rw [hcut] at hwaits; cases hwaits
    | takes htakes hline _ =>
        rw [hcut] at htakes
        cases htakes
        have hroom := hline line rfl
        omega
  · -- the line goes on, and fills the buffer
    cases h with
    | waits hwaits _ hline =>
        rw [hcut] at hwaits
        cases hwaits
        exact absurd (hline howed habsent) (Nat.not_lt.mpr hlong)
    | takes htakes _ _ => rw [hcut] at htakes; cases htakes

/-- The frames that a first part completes come first, and what it leaves waits for the rest. -/
theorem drains_prefix {state final : σ} {buffer last : ReadBuffer} {chunk : Bytes}
    (keeps : reader.KeepsSettled)
    (settled : (reader.hooks state).Settled)
    (hwithin : WithinLimits ending reader state (buffer.append chunk))
    (h : Reader.Drains (unbounded ending) reader state buffer final last) :
    Reader.Drains (bounded ending) reader state buffer final last ∧
      WithinLimits ending reader final (last.append chunk) ∧
      ∀ {final' last'},
        Reader.Drains (unbounded ending) reader final (last.append chunk) final' last' →
        Reader.Drains (unbounded ending) reader state (buffer.append chunk) final' last' := by
  -- on the frames of the first part; `WithinLimits` of the whole rules out an overflow at each
  induction h with
  | waits hcut =>
      have hbounded := bounded_eq_unbounded settled (hwithin.not_overflows settled)
      have hlast := eq_waiting_of_unbounded settled (hwithin.not_tooLarge settled) hcut
      refine ⟨.waits (hbounded.trans hcut), ?_, ?_⟩
      · refine hwithin.congr ?_
        rw [hlast, waiting_append]
      · intro final' last' hd
        refine (Reader.drains_congr ?_).mp hd
        rw [unbounded_append_of_none settled (hwithin.not_tooLarge settled) hcut]
  | takes hcut _ ih =>
      have hbounded := bounded_eq_unbounded settled (hwithin.not_overflows settled)
      have happend := unbounded_append_of_some settled hcut chunk
      obtain ⟨hdrains, hnext, hwhole⟩ := ih (keeps _ _ _ settled) (hwithin.of_takes happend)
      exact ⟨.takes (hbounded.trans hcut) hdrains, hnext, fun hd => .takes happend (hwhole hd)⟩

/-- Where taking frames ends, no frame is complete, and no payload of no bytes is owed. -/
theorem drains_ends {state final : σ} {buffer last : ReadBuffer}
    (keeps : reader.KeepsSettled)
    (settled : (reader.hooks state).Settled) (howed : buffer.owed ≠ some 0)
    (h : Reader.Drains (unbounded ending) reader state buffer final last) :
    (reader.hooks final).Settled ∧ last.owed ≠ some 0 ∧
      unbounded ending (reader.hooks final) last = (none, last) := by
  induction h with
  | @waits state buffer rest hcut =>
      by_cases htoo : TooLarge ending (reader.hooks state) buffer
      · -- the buffer was emptied
        rw [unbounded_of_tooLarge settled htoo] at hcut
        cases hcut
        exact ⟨settled, nofun, next_empty _ _ _⟩
      · have hrest := eq_waiting_of_unbounded settled htoo hcut
        rw [hrest]
        refine ⟨settled, (owed_waiting ending buffer).symm ▸ howed, ?_⟩
        rw [unbounded_waiting, hcut, hrest]
  | takes hcut _ ih =>
      have hless := cuts_progress settled howed ((unbounded_eq_some settled).mp hcut)
      exact ih (keeps _ _ _ settled) hless.1

/-- A reader that gets the stream in chunks, from a buffer that is emptied when it is full, ends as
if it had read the whole stream from a buffer that is never full. -/
theorem drains_feed {chunks : List Bytes} {state : σ} {buffer : ReadBuffer}
    (keeps : reader.KeepsSettled)
    (settled : (reader.hooks state).Settled) (howed : buffer.owed ≠ some 0)
    (hwaits : unbounded ending (reader.hooks state) buffer = (none, buffer))
    (hwithin : WithinLimits ending reader state (buffer.append chunks.flatten)) :
    Reader.Drains (unbounded ending) reader state (buffer.append chunks.flatten)
      (reader.feed (bounded ending) state buffer chunks).1
      (reader.feed (bounded ending) state buffer chunks).2 := by
  induction chunks generalizing state buffer with
  | nil =>
      rw [List.flatten_nil, append_nil]
      exact .waits hwaits
  | cons chunk chunks ih =>
      have hchunk : (buffer.append chunk).owed ≠ some 0 := howed
      have hread := Reader.drains_read (steady_unbounded ending keeps) settled hchunk
      -- the chunk alone ends in some state, from which the rest of the stream goes on
      generalize reader.read (unbounded ending) state (buffer.append chunk) = result at hread
      obtain ⟨next, rest⟩ := result
      rw [List.flatten_cons, ← append_append] at hwithin ⊢
      obtain ⟨hbounded, hnext, hwhole⟩ := drains_prefix keeps settled hwithin hread
      obtain ⟨hsettled, hrest, hstuck⟩ := drains_ends keeps settled hchunk hread
      have hfed := Reader.read_eq_of_drains (steady_bounded ending keeps) settled hchunk hbounded
      simp only [Reader.feed, hfed]
      exact hwhole (ih hsettled hrest hstuck hnext)

end Framing

end ModemLink
