import ModemLink.Proofs.Framing.Stream

/-!
# A stream that is known in advance

`Delivers` describes a stream by what a reader does with it, frame after frame, up to the end of the
stream.  Each frame is decided by a piece of the stream that is no longer than the read buffer, so
that the buffer never fills up before the frame is complete, wherever the stream is cut
(`Delivers.read`).  Frames are taken in *active* states only, so that a reader in any other state is
known to have taken them all (`Delivers.final_of_not_active`).

The streams themselves are built from the front: blank lines, lines, the header of a payload, and
payloads.
-/

namespace ModemLink.Framing

open ReadBuffer

variable {σ : Type} {ending : LineEnding} {hooks : Hooks} {reader : Reader σ} {active : σ → Prop}

/-- From a state, a reader takes all frames of a buffer and ends in another state.  Nothing is left
but empty lines. -/
inductive Delivers (ending : LineEnding) (reader : Reader σ) (active : σ → Prop) :
    σ → ReadBuffer → σ → Prop
  | ends {state : σ} {buffer : ReadBuffer} (h : buffer.waiting ending = empty) :
      Delivers ending reader active state buffer state
  | takes {state final : σ} {buffer piece rest : ReadBuffer} {frame : Frame} {more : Bytes}
      (hactive : active state) (hpiece : (piece.append more).waiting ending = buffer.waiting ending)
      (hshort : piece.bytes.length ≤ Limits.readBuffer)
      (hcut : unbounded ending (reader.hooks state) piece = (some frame, rest))
      (next : Delivers ending reader active (reader.handle state frame rest.owed)
        (rest.append more) final) :
      Delivers ending reader active state buffer final

theorem Delivers.congr {state final : σ} {first second : ReadBuffer}
    (heq : first.waiting ending = second.waiting ending)
    (h : Delivers ending reader active state first final) :
    Delivers ending reader active state second final := by
  cases h with
  | ends h => exact .ends (heq ▸ h)
  | takes hactive hpiece hshort hcut next =>
      exact .takes hactive (hpiece.trans heq) hshort hcut next

/-- A reader that is no longer active has taken all frames. -/
theorem Delivers.final_of_not_active {state final : σ} {buffer : ReadBuffer}
    (h : Delivers ending reader active state buffer final) (hactive : ¬ active state) :
    final = state ∧ buffer.waiting ending = empty := by
  cases h with
  | ends h => exact ⟨rfl, h⟩
  | takes hstate _ _ _ _ => exact absurd hstate hactive

/-! ## Wherever it is cut -/

theorem unbounded_of_waiting_empty {buffer : ReadBuffer} (h : buffer.waiting ending = empty) :
    unbounded ending hooks buffer = (none, empty) := by
  rw [← unbounded_waiting, h, unbounded, next_empty]

/-- A buffer that waits in front of empty lines holds one byte at most. -/
theorem length_of_append_waiting_empty {buffer : ReadBuffer} {chunk : Bytes}
    (h : (buffer.append chunk).waiting ending = empty) :
    (buffer.waiting ending).bytes.length ≤ 1 := by
  by_cases hcr : (buffer.waiting ending).bytes = [13]
  · rw [hcr]
    exact Nat.le_refl _
  rcases waiting_cases ending buffer with ⟨length, howed⟩ | hempty | hline
  · have hnone := congrArg ReadBuffer.owed h
    rw [owed_waiting, owed_append, howed] at hnone
    cases hnone
  · rw [hempty]
    exact Nat.zero_le _
  · rw [waiting_append_of_atLine hline hcr] at h
    have hbytes := congrArg ReadBuffer.bytes h
    exact absurd (List.append_eq_nil_iff.mp hbytes).1 hline.bytes_ne

/-- As long as a frame is not complete, the buffer holds less than the piece that decides it, or next
to nothing. -/
theorem length_lt_of_piece {buffer piece rest : ReadBuffer} {frame : Frame} {chunk more : Bytes}
    (settled : hooks.Settled) (hpiece : (piece.append more).waiting ending =
      (buffer.append chunk).waiting ending) (hshort : piece.bytes.length ≤ Limits.readBuffer)
    (hcut : unbounded ending hooks piece = (some frame, rest))
    (hwaits : (unbounded ending hooks buffer).1 = none) :
    (buffer.waiting ending).bytes.length < Limits.readBuffer := by
  -- what arrives is behind what waiting leaves, unless a lone CR may still become an empty line
  have happend : (buffer.append chunk).waiting ending = (buffer.waiting ending).append chunk ∨
      (buffer.waiting ending).bytes.length ≤ 1 := by
    rcases waiting_cases ending buffer with ⟨length, howed⟩ | hempty | hline
    · left
      simp [waiting, howed, append]
    · right
      rw [hempty]
      exact Nat.zero_le _
    · by_cases hcr : (buffer.waiting ending).bytes = [13]
      · right
        rw [hcr]
        exact Nat.le_refl _
      · exact .inl (waiting_append_of_atLine hline hcr chunk)
  rcases happend with happend | hle
  · -- otherwise the piece would be in the buffer already, and with it the frame
    rw [waiting_append_of_cuts settled ((unbounded_eq_some settled).mp hcut), happend] at hpiece
    refine Nat.lt_of_not_le fun hfull => ?_
    have hbytes := congrArg ReadBuffer.bytes hpiece
    have howed := congrArg ReadBuffer.owed hpiece
    simp only [bytes_append, owed_append] at hbytes howed
    have hle := length_waiting_le ending piece
    have hprefix : (piece.waiting ending).bytes <+: (buffer.waiting ending).bytes := by
      refine List.prefix_of_prefix_length_le (List.prefix_append _ more) ?_ (by omega)
      rw [hbytes]
      exact List.prefix_append _ chunk
    obtain ⟨behind, hbehind⟩ := hprefix
    have hwhole : buffer.waiting ending = (piece.waiting ending).append behind := by
      rw [append, hbehind, howed]
    rw [← unbounded_waiting, hwhole, unbounded_append_of_some settled
      (unbounded_waiting.trans hcut)] at hwaits
    cases hwaits
  · exact Nat.lt_of_le_of_lt hle (by decide)

/-- A reader that has taken all it could, and waits for more. -/
structure Waits (ending : LineEnding) (reader : Reader σ) (state : σ) (buffer : ReadBuffer) :
    Prop where
  settled : (reader.hooks state).Settled
  owed_ne : buffer.owed ≠ some 0
  cut_eq : unbounded ending (reader.hooks state) buffer = (none, buffer)
  length_lt : buffer.bytes.length < Limits.readBuffer

theorem waits_waiting {state : σ} {buffer rest : ReadBuffer}
    (settled : (reader.hooks state).Settled)
    (howed : buffer.owed ≠ some 0) (hlarge : ¬ TooLarge ending (reader.hooks state) buffer)
    (hcut : unbounded ending (reader.hooks state) buffer = (none, rest))
    (hroom : (buffer.waiting ending).bytes.length < Limits.readBuffer) :
    Reader.Drains (bounded ending) reader state buffer state (buffer.waiting ending) ∧
      Waits ending reader state (buffer.waiting ending) := by
  have hrest := eq_waiting_of_unbounded settled hlarge hcut
  have hover : ¬ Overflows ending (reader.hooks state) buffer :=
    fun hover => Nat.not_le.mpr hroom hover.full
  refine ⟨.waits ?_, settled, ?_, ?_, hroom⟩
  · rw [bounded_eq_unbounded settled hover, hcut, hrest]
  · rwa [owed_waiting]
  · rw [unbounded_waiting, hcut, hrest]

/-- In front of empty lines nothing is complete, and nothing is taken. -/
theorem waits_of_waiting_empty {state : σ} {buffer : ReadBuffer} {chunk : Bytes}
    (settled : (reader.hooks state).Settled) (howed : buffer.owed ≠ some 0)
    (h : (buffer.append chunk).waiting ending = empty) :
    Reader.Drains (bounded ending) reader state buffer state (buffer.waiting ending) ∧
      Waits ending reader state (buffer.waiting ending) := by
  -- a header that is too large would be no empty line
  have hlarge : ¬ TooLarge ending (reader.hooks state) buffer := by
    intro hlarge
    have hne := ((tooLarge_append settled hlarge chunk).atLine settled).bytes_ne
    rw [h] at hne
    exact hne rfl
  have hroom : (buffer.waiting ending).bytes.length < Limits.readBuffer :=
    Nat.lt_of_le_of_lt (length_of_append_waiting_empty h) (by decide)
  cases hcut : unbounded ending (reader.hooks state) buffer with
  | mk result rest =>
      cases result with
      | none => exact waits_waiting settled howed hlarge hcut hroom
      | some frame =>
          -- a complete frame would still be there when the chunk has arrived
          have happend := unbounded_append_of_some settled hcut chunk
          rw [unbounded_of_waiting_empty h] at happend
          cases happend

/-- A frame that is not in the buffer completely is waited for, and the buffer does not fill up. -/
theorem waits_of_piece {state : σ} {buffer piece rest left : ReadBuffer} {frame : Frame}
    {chunk more : Bytes} (settled : (reader.hooks state).Settled) (howed : buffer.owed ≠ some 0)
    (hpiece : (piece.append more).waiting ending = (buffer.append chunk).waiting ending)
    (hshort : piece.bytes.length ≤ Limits.readBuffer)
    (hcut : unbounded ending (reader.hooks state) piece = (some frame, rest))
    (hnone : unbounded ending (reader.hooks state) buffer = (none, left)) :
    Reader.Drains (bounded ending) reader state buffer state (buffer.waiting ending) ∧
      Waits ending reader state (buffer.waiting ending) := by
  -- the piece is cut off whole, which a header that is too large does not allow
  have hlarge : ¬ TooLarge ending (reader.hooks state) buffer := by
    intro hlarge
    have hframe := unbounded_append_of_some settled hcut more
    rw [unbounded_congr hpiece,
      unbounded_of_tooLarge settled (tooLarge_append settled hlarge chunk)] at hframe
    cases hframe
  have hroom := length_lt_of_piece settled hpiece hshort hcut (congrArg Prod.fst hnone)
  exact waits_waiting settled howed hlarge hnone hroom

theorem Delivers.drains {state final : σ} {buffer : ReadBuffer} {chunk : Bytes}
    (keeps : reader.KeepsSettled) (settled : (reader.hooks state).Settled)
    (howed : buffer.owed ≠ some 0)
    (h : Delivers ending reader active state (buffer.append chunk) final) :
    ∃ next rest, Reader.Drains (bounded ending) reader state buffer next rest ∧
      Waits ending reader next rest ∧
      Delivers ending reader active next (rest.append chunk) final := by
  generalize hwhole : buffer.append chunk = whole at h
  -- on the frames of the stream: each is in the buffer already, or the reader waits for it
  induction h generalizing buffer with
  | @ends state whole h =>
      subst hwhole
      obtain ⟨hdrains, hwaits⟩ := waits_of_waiting_empty settled howed h
      exact ⟨state, _, hdrains, hwaits, .ends (by rw [waiting_append, h])⟩
  | @takes state final whole piece rest frame more hactive hpiece hshort hcut next ih =>
      subst hwhole
      cases hbuffer : unbounded ending (reader.hooks state) buffer with
      | mk result left =>
          cases result with
          | none =>
              obtain ⟨hdrains, hwaits⟩ :=
                waits_of_piece settled howed hpiece hshort hcut hbuffer
              refine ⟨state, _, hdrains, hwaits, ?_⟩
              exact (Delivers.takes hactive hpiece hshort hcut next).congr (waiting_append ..).symm
          | some found =>
              -- the frame there is the one of the piece: both are cut off the same stream
              have hframe := unbounded_append_of_some settled hcut more
              rw [unbounded_congr hpiece, unbounded_append_of_some settled hbuffer chunk,
                Prod.mk.injEq, Option.some.injEq] at hframe
              obtain ⟨rfl, hleft⟩ := hframe
              have howed' : left.owed = rest.owed := by
                rw [← owed_append left chunk, hleft, owed_append]
              have hless := cuts_progress settled howed ((unbounded_eq_some settled).mp hbuffer)
              have hover := not_overflows_of_some settled hbuffer
              obtain ⟨next', rest', hdrains, hwaits, hdelivers⟩ :=
                ih (keeps state _ rest.owed settled) hless.1 hleft
              refine ⟨next', rest', ?_, hwaits, hdelivers⟩
              exact .takes ((bounded_eq_unbounded settled hover).trans hbuffer) (howed' ▸ hdrains)

/-- What a reader does with the front of the stream, when that is all it has. -/
theorem Delivers.read {state final : σ} {buffer : ReadBuffer} {chunk : Bytes}
    (keeps : reader.KeepsSettled) (settled : (reader.hooks state).Settled)
    (howed : buffer.owed ≠ some 0)
    (h : Delivers ending reader active state (buffer.append chunk) final) :
    ∃ next rest, reader.read (bounded ending) state buffer = (next, rest) ∧
      Waits ending reader next rest ∧
      Delivers ending reader active next (rest.append chunk) final := by
  obtain ⟨next, rest, hdrains, hwaits, hrest⟩ := h.drains keeps settled howed
  exact ⟨next, rest, Reader.read_eq_of_drains (steady_bounded ending keeps) settled howed hdrains,
    hwaits, hrest⟩

/-- A reader that waits has taken all frames of a stream that is over. -/
theorem Waits.final_eq {state final : σ} {buffer : ReadBuffer}
    (hwaits : Waits ending reader state buffer)
    (h : Delivers ending reader active state buffer final) : final = state := by
  cases h with
  | ends h => rfl
  | @takes _ _ _ piece rest frame more hactive hpiece hshort hcut next =>
      have hframe := unbounded_append_of_some hwaits.settled hcut more
      rw [unbounded_congr hpiece, hwaits.cut_eq] at hframe
      cases hframe

/-! ## Built from the front -/

/-- CR and LF. -/
def crlf : Bytes := [13, 10]

theorem waiting_crlf (ending : LineEnding) (rest : Bytes) :
    (ReadBuffer.mk (crlf ++ rest) none).waiting ending =
      (ReadBuffer.mk rest none).waiting ending := by
  cases ending <;> rfl

/-- A blank line is passed. -/
theorem Delivers.blank {state final : σ} {rest : Bytes}
    (h : Delivers ending reader active state ⟨rest, none⟩ final) :
    Delivers ending reader active state ⟨crlf ++ rest, none⟩ final :=
  h.congr (waiting_crlf ending rest).symm

/-- A line that holds no line end is not passed, and ends where its line end stands. -/
structure ProperLine (ending : LineEnding) (line : Bytes) : Prop where
  line_ne : line ≠ []
  inner : ∀ inner, EndsLine ending inner → ¬ inner <:+: line

theorem ProperLine.of_any {line : Bytes} (line_ne : line ≠ [])
    (h : line.any isLineEnd = false) : ProperLine ending line where
  line_ne := line_ne
  inner inner hend hinner := by
    rw [List.any_eq_false] at h
    cases hend with
    | @any byte hbyte => exact h byte (hinner.subset List.mem_cons_self) hbyte
    | pair => exact h 13 (hinner.subset List.mem_cons_self) rfl

theorem splitPair?_crlf {line : Bytes} (h : ¬ [13, 10] <:+: line) :
    splitPair? (line ++ crlf) = some (line, []) := by
  induction line with
  | nil => rfl
  | cons first line ih =>
      have hline := ih fun hinner => h (List.infix_cons hinner)
      cases line with
      | nil => simp [crlf, splitPair?]
      | cons second line =>
          have hpair : ¬ (first = 13 ∧ second = 10) := by
            rintro ⟨rfl, rfl⟩
            exact h ⟨[], line, rfl⟩
          simp only [List.cons_append] at hline ⊢
          rw [splitPair?, if_neg hpair, hline]
          rfl

theorem ProperLine.split {line : Bytes} (h : ProperLine ending line) :
    ∃ behind, splitLine? ending (line ++ crlf) = some (line, behind) ∧
      ∀ rest, (ReadBuffer.mk (behind ++ rest) none).waiting ending =
        (ReadBuffer.mk rest none).waiting ending := by
  cases ending with
  | pair => exact ⟨[], splitPair?_crlf (h.inner _ .pair), fun _ => rfl⟩
  | anyOf =>
      have hall : ∀ byte ∈ line, (!isLineEnd byte) = true := by
        intro byte hmem
        cases hend : isLineEnd byte with
        | false => rfl
        | true =>
            obtain ⟨before, after, heq⟩ := List.append_of_mem hmem
            exact absurd ⟨before, after, by simp [heq]⟩ (h.inner [byte] (.any hend))
      -- the CR ends the line, and the LF is passed as an empty line
      refine ⟨[10], ?_, fun _ => rfl⟩
      simp only [splitLine?, splitAny?]
      rw [List.dropWhile_append_of_pos hall, List.takeWhile_append_of_pos hall]
      simp [crlf, isLineEnd]

theorem ProperLine.waiting_eq {line : Bytes} (h : ProperLine ending line) :
    (ReadBuffer.mk (line ++ crlf) none).waiting ending = ⟨line ++ crlf, none⟩ := by
  obtain ⟨first, more, rfl⟩ := List.exists_cons_of_ne_nil h.line_ne
  refine congrArg (ReadBuffer.mk · none) ?_
  cases ending with
  | anyOf =>
      have hfirst : isLineEnd first = false := by
        cases hend : isLineEnd first with
        | false => rfl
        | true => exact absurd ⟨[], more, rfl⟩ (h.inner [first] (.any hend))
      simp [skipLineEnds, hfirst]
  | pair =>
      cases more with
      | nil => simp [skipLineEnds, crlf, skipPairs]
      | cons second more =>
          have hpair : ¬ (first = 13 ∧ second = 10) := by
            rintro ⟨rfl, rfl⟩
            exact h.inner _ .pair ⟨[], more, rfl⟩
          simp [skipLineEnds, skipPairs, hpair]

theorem ProperLine.atLine {line : Bytes} (h : ProperLine ending line) :
    AtLine ending ((ReadBuffer.mk (line ++ crlf) none).waiting ending) := by
  refine atLine_waiting rfl ?_
  rw [h.waiting_eq]
  exact List.append_ne_nil_of_left_ne_nil h.line_ne crlf

/-- A line is taken. -/
theorem Delivers.line {state final : σ} {line rest : Bytes} (h : ProperLine ending line)
    (hactive : active state) (settled : (reader.hooks state).Settled)
    (habsent : (reader.hooks state).headerMatch (line ++ crlf) = .absent)
    (hshort : line.length + 2 ≤ Limits.readBuffer)
    (next : Delivers ending reader active (reader.handle state (.line line) none) ⟨rest, none⟩
      final) :
    Delivers ending reader active state ⟨line ++ crlf ++ rest, none⟩ final := by
  obtain ⟨behind, hsplit, hbehind⟩ := h.split
  have hcut : unbounded ending (reader.hooks state) ⟨line ++ crlf, none⟩ =
      (some (.line line), ⟨behind, none⟩) := by
    refine (unbounded_eq_some settled).mpr (.line h.atLine ?_ ?_)
    · rwa [h.waiting_eq]
    · rwa [h.waiting_eq]
  have hpiece : ((ReadBuffer.mk (line ++ crlf) none).append rest).waiting ending =
      (ReadBuffer.mk (line ++ crlf ++ rest) none).waiting ending := rfl
  refine .takes hactive hpiece ?_ hcut (next.congr (hbehind rest).symm)
  rw [List.length_append]
  exact hshort

/-- A header is taken, and leaves its payload owed. -/
theorem Delivers.header {state final : σ} {line rest : Bytes} {length : Nat}
    (h : ProperLine ending line) (hactive : active state)
    (settled : (reader.hooks state).Settled)
    (hform : HeaderForm (line ++ crlf) line crlf [])
    (hfound : (reader.hooks state).headerMatch (line ++ crlf) =
      .found (line.length + crlf.length) length)
    (hshort : line.length + 2 ≤ Limits.readBuffer)
    (next : Delivers ending reader active
      (reader.handle state (.line line) (if length = 0 then none else some length))
      ⟨rest, if length = 0 then none else some length⟩ final) :
    Delivers ending reader active state ⟨line ++ crlf ++ rest, none⟩ final := by
  -- the header, with its line end and nothing behind it, decides
  have hcut : unbounded ending (reader.hooks state) ⟨line ++ crlf, none⟩ =
      (some (.line line), ⟨[], if length = 0 then none else some length⟩) := by
    have hmatch : (reader.hooks state).headerMatch
        ((ReadBuffer.mk (line ++ crlf) none).waiting ending).bytes =
          .found (line.length + crlf.length) length := by
      rw [h.waiting_eq]
      exact hfound
    have hcuts := Cuts.header h.atLine hmatch
    rw [h.waiting_eq, trimLineEnd_take hform, ← List.length_append, List.drop_length] at hcuts
    exact (unbounded_eq_some settled).mpr hcuts
  have hpiece : ((ReadBuffer.mk (line ++ crlf) none).append rest).waiting ending =
      (ReadBuffer.mk (line ++ crlf ++ rest) none).waiting ending := rfl
  refine .takes hactive hpiece ?_ hcut next
  rw [List.length_append]
  exact hshort

/-- A payload is taken as it is. -/
theorem Delivers.payload {state final : σ} {payload rest : Bytes} (hactive : active state)
    (settled : (reader.hooks state).Settled) (hshort : payload.length ≤ Limits.readBuffer)
    (next : Delivers ending reader active (reader.handle state (.payload payload) none) ⟨rest, none⟩
      final) :
    Delivers ending reader active state ⟨payload ++ rest, some payload.length⟩ final := by
  -- the piece is the payload itself, with nothing behind it
  have hcut : unbounded ending (reader.hooks state) ⟨payload, some payload.length⟩ =
      (some (.payload payload), ⟨[], none⟩) := by
    have hcuts : Cuts ending (reader.hooks state) ⟨payload, some payload.length⟩
        (.payload (payload.take payload.length)) ⟨payload.drop payload.length, none⟩ :=
      .payload (Nat.le_refl payload.length)
    rw [List.take_length, List.drop_length] at hcuts
    exact (unbounded_eq_some settled).mpr hcuts
  have hpiece : ((ReadBuffer.mk payload (some payload.length)).append rest).waiting ending =
      (ReadBuffer.mk (payload ++ rest) (some payload.length)).waiting ending := rfl
  exact .takes hactive hpiece hshort hcut next

end ModemLink.Framing
