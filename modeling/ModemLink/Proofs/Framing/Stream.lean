import ModemLink.Proofs.Bg96.Header
import ModemLink.Proofs.Framing.Chunks

/-!
# The frames of a stream

`framesOf` takes the frames of a whole stream, `framesOfChunks` those of a stream that arrives piece
by piece in a buffer that is emptied when it is full.  What the frames are is said without the loop:

* `Composed` is the grammar of a stream.  Blank lines, lines, headers and payloads follow each other,
  every byte of the stream stands in exactly one of them or in what is left, and only lines and
  payloads are frames.
* `segments` are the lines of a stream without headers, if each of three bytes ends a line.

`framesOfChunks_spec` states that the two ways to take frames agree, and that both are the frames of
the grammar.
-/

namespace ModemLink.Framing

open ReadBuffer

/-- The reader that collects frames, under hooks that stay the same. -/
def collector (hooks : Hooks) : Reader (List Frame) :=
  { hooks := fun _ => hooks
    handle := fun frames frame _ => frames ++ [frame] }

/-- The frames of a stream that lies in a buffer that is never full, and what is left of it. -/
def framesOf (ending : LineEnding) (hooks : Hooks) (stream : Bytes) : List Frame × ReadBuffer :=
  (collector hooks).read (unbounded ending) [] (empty.append stream)

/-- The frames of a stream that arrives in chunks, and what is left of it. -/
def framesOfChunks (ending : LineEnding) (hooks : Hooks) (chunks : List Bytes) :
    List Frame × ReadBuffer :=
  (collector hooks).feed (bounded ending) [] empty chunks

/-! ## The grammar -/

/-- The bytes that end a line. -/
inductive EndsLine : LineEnding → Bytes → Prop
  | any {byte : UInt8} (h : isLineEnd byte = true) : EndsLine .anyOf [byte]
  | pair : EndsLine .pair [13, 10]

/-- A buffer that consists of the given frames, the ends of the lines, blank lines, and at its end a
buffer without a complete frame. -/
inductive Composed (ending : LineEnding) (hooks : Hooks) :
    ReadBuffer → List Frame → ReadBuffer → Prop
  | unfinished {buffer : ReadBuffer} (h : unbounded ending hooks buffer = (none, buffer)) :
      Composed ending hooks buffer [] buffer
  | blank {mark rest : Bytes} {frames : List Frame} {last : ReadBuffer}
      (hmark : EndsLine ending mark)
      (next : Composed ending hooks ⟨rest, none⟩ frames last) :
      Composed ending hooks ⟨mark ++ rest, none⟩ frames last
  | line {line mark rest : Bytes} {frames : List Frame} {last : ReadBuffer} (hne : line ≠ [])
      (habsent : hooks.headerMatch (line ++ mark ++ rest) = .absent)
      (hinner : ∀ inner, EndsLine ending inner → ¬ inner <:+: line) (hmark : EndsLine ending mark)
      (next : Composed ending hooks ⟨rest, none⟩ frames last) :
      Composed ending hooks ⟨line ++ mark ++ rest, none⟩ (.line line :: frames) last
  | header {line mark rest : Bytes} {length : Nat} {frames : List Frame} {last : ReadBuffer}
      (hform : HeaderForm (line ++ mark ++ rest) line mark rest)
      (hfound : hooks.headerMatch (line ++ mark ++ rest) = .found (line.length + mark.length) length)
      (next : Composed ending hooks ⟨rest, if length = 0 then none else some length⟩ frames last) :
      Composed ending hooks ⟨line ++ mark ++ rest, none⟩ (.line line :: frames) last
  | payload {payload rest : Bytes} {frames : List Frame} {last : ReadBuffer}
      (next : Composed ending hooks ⟨rest, none⟩ frames last) :
      Composed ending hooks ⟨payload ++ rest, some payload.length⟩ (.payload payload :: frames) last

variable {ending : LineEnding} {hooks : Hooks}

/-- No line is empty. -/
theorem Composed.line_ne {buffer last : ReadBuffer} {frames : List Frame}
    (h : Composed ending hooks buffer frames last) {line : Bytes} (hmem : Frame.line line ∈ frames) :
    line ≠ [] := by
  induction h with
  | unfinished => cases hmem
  | blank _ _ ih => exact ih hmem
  | line hne _ _ _ _ ih =>
      rcases List.mem_cons.mp hmem with heq | hmem
      · cases heq
        exact hne
      · exact ih hmem
  | header hform _ _ ih =>
      rcases List.mem_cons.mp hmem with heq | hmem
      · cases heq
        exact hform.line_ne
      · exact ih hmem
  | payload _ ih =>
      rcases List.mem_cons.mp hmem with heq | hmem
      · cases heq
      · exact ih hmem

/-! ## Taking frames follows the grammar -/

theorem composed_skipPairs {bytes : Bytes} {frames : List Frame} {last : ReadBuffer}
    (h : Composed .pair hooks ⟨skipPairs bytes, none⟩ frames last) :
    Composed .pair hooks ⟨bytes, none⟩ frames last := by
  fun_induction skipPairs bytes with
  | case1 first second rest hpair ih =>
      obtain ⟨rfl, rfl⟩ := hpair
      exact Composed.blank .pair (ih h)
  | case2 => exact h
  | case3 => exact h

theorem composed_dropWhile {bytes : Bytes} {frames : List Frame} {last : ReadBuffer}
    (h : Composed .anyOf hooks ⟨bytes.dropWhile isLineEnd, none⟩ frames last) :
    Composed .anyOf hooks ⟨bytes, none⟩ frames last := by
  induction bytes with
  | nil => exact h
  | cons first rest ih =>
      by_cases hfirst : isLineEnd first = true
      · rw [List.dropWhile_cons_of_pos hfirst] at h
        exact Composed.blank (.any hfirst) (ih h)
      · rwa [List.dropWhile_cons_of_neg hfirst] at h

/-- Waiting passes blank lines only. -/
theorem Composed.of_waiting {buffer last : ReadBuffer} {frames : List Frame}
    (h : Composed ending hooks (buffer.waiting ending) frames last) :
    Composed ending hooks buffer frames last := by
  obtain ⟨bytes, owed⟩ := buffer
  cases owed with
  | some length => exact h
  | none =>
      cases ending with
      | anyOf => exact composed_dropWhile h
      | pair => exact composed_skipPairs h

theorem not_infix_of_splitPair? {bytes line rest : Bytes}
    (h : splitPair? bytes = some (line, rest)) : ¬ [13, 10] <:+: line := by
  fun_induction splitPair? bytes generalizing line with
  | case1 => cases h; decide
  | case2 first second tail hpair ih =>
      simp only [Option.map_eq_some_iff, Prod.exists, Prod.mk.injEq] at h
      obtain ⟨line, rest, hsplit, rfl, rfl⟩ := h
      intro hinner
      rcases List.infix_cons_iff.mp hinner with hprefix | hinner
      · -- the pair would stand at the start, where the scan has found none
        obtain ⟨rfl, hline⟩ := List.cons_prefix_cons.mp hprefix
        obtain ⟨more, rfl⟩ := hline
        have hbytes := splitPair?_eq_some hsplit
        simp only [List.cons_append, List.cons.injEq] at hbytes
        exact hpair ⟨rfl, hbytes.1⟩
      · exact ih hsplit hinner
  | case3 => cases h

/-- A line that was split off ends where the first line end stands. -/
theorem splitLine?_spec {bytes line rest : Bytes} (h : splitLine? ending bytes = some (line, rest)) :
    ∃ mark, EndsLine ending mark ∧ bytes = line ++ mark ++ rest ∧
      ∀ inner, EndsLine ending inner → ¬ inner <:+: line := by
  cases ending with
  | pair =>
      refine ⟨[13, 10], .pair, splitPair?_eq_some h, ?_⟩
      rintro _ ⟨⟩
      exact not_infix_of_splitPair? h
  | anyOf =>
      obtain ⟨byte, hbyte, hbytes⟩ := splitAny?_eq_some h
      refine ⟨[byte], .any hbyte, by simpa using hbytes, ?_⟩
      rintro _ ⟨hinner⟩ hmem
      -- a scan for single bytes stops at the first of them
      have hline : line = bytes.takeWhile fun byte => !isLineEnd byte := by
        simp only [splitLine?, splitAny?] at h
        split at h
        · cases h
        · cases h
          rfl
      have hnot := List.mem_takeWhile_imp (hline ▸ hmem.subset (List.mem_singleton_self _))
      simp [hinner] at hnot

/-- Where the next frame is looked for, no blank line stands. -/
theorem line_ne_of_atLine {buffer : ReadBuffer} {line mark rest : Bytes} (h : AtLine ending buffer)
    (hmark : EndsLine ending mark) (hbytes : buffer.bytes = line ++ mark ++ rest) : line ≠ [] := by
  rintro rfl
  -- an empty line with its end would have been skipped, and the buffer would be shorter
  have hskip := congrArg List.length h.skip_eq
  rw [hbytes] at hskip
  cases hmark with
  | any hbyte =>
      have hle : (rest.dropWhile isLineEnd).length ≤ rest.length :=
        (List.dropWhile_suffix isLineEnd).length_le
      simp only [skipLineEnds, List.nil_append, List.cons_append,
        List.dropWhile_cons_of_pos hbyte, List.length_cons] at hskip
      omega
  | pair =>
      have hle := (skipPairs_suffix rest).length_le
      simp only [skipLineEnds, List.nil_append, List.cons_append, skipPairs, and_self, if_true,
        List.length_cons] at hskip
      omega

/-- The line end of a header is trimmed, and nothing else. -/
theorem trimLineEnd_take {bytes line mark rest : Bytes} (h : HeaderForm bytes line mark rest) :
    trimLineEnd (bytes.take (line.length + mark.length)) = line := by
  have hmark : ∀ byte ∈ mark.reverse, isLineEnd byte = true := by
    apply List.all_eq_true.mp
    rcases h.mark_eq with hmark | hmark | hmark <;> rw [hmark] <;> decide
  have hline : line.reverse.dropWhile isLineEnd = line.reverse := by
    refine List.dropWhile_eq_self_iff.mpr fun hpos => ?_
    have hmem : line.reverse[0] ∈ line.reverse := List.getElem_mem hpos
    rw [h.line_end _ (List.mem_reverse.mp hmem)]
    exact Bool.false_ne_true
  rw [h.bytes_eq, ← List.length_append, List.take_left, trimLineEnd, List.reverse_append,
    List.dropWhile_append_of_pos hmark, hline, List.reverse_reverse]

/-- Each frame that comes off a buffer is one of the grammar. -/
theorem composed_of_cuts {buffer rest last : ReadBuffer} {frame : Frame} {frames : List Frame}
    (settled : hooks.Settled) (h : Cuts ending hooks buffer frame rest)
    (next : Composed ending hooks rest frames last) :
    Composed ending hooks buffer (frame :: frames) last := by
  cases h with
  | @payload bytes length h =>
      have hcomposed : Composed ending hooks
          ⟨bytes.take length ++ bytes.drop length, some (bytes.take length).length⟩ _ last :=
        Composed.payload next
      rwa [List.take_append_drop, List.length_take, Nat.min_eq_left h] at hcomposed
  | @header buffer start length hline hfound =>
      obtain ⟨line, mark, rest, hform, rfl⟩ := settled.form hfound
      rw [trimLineEnd_take hform]
      refine Composed.of_waiting ?_
      have hrest : (buffer.waiting ending).bytes.drop (line.length + mark.length) = rest := by
        rw [hform.bytes_eq, ← List.length_append, List.drop_left]
      rw [hrest] at next
      have howed := hline.owed_eq
      have hbytes := hform.bytes_eq
      generalize buffer.waiting ending = start at *
      obtain ⟨bytes, owed⟩ := start
      cases howed
      cases hbytes
      exact Composed.header hform hfound next
  | @line buffer line rest hline habsent hsplit =>
      -- the line has an end, and none within
      obtain ⟨mark, hmark, hbytes, hinner⟩ := splitLine?_spec hsplit
      have hne := line_ne_of_atLine hline hmark hbytes
      refine Composed.of_waiting ?_
      have howed := hline.owed_eq
      generalize buffer.waiting ending = start at *
      obtain ⟨bytes, owed⟩ := start
      cases howed
      cases hbytes
      exact Composed.line hne habsent hinner hmark next

/-- What a reader collects is composed to the buffer it came from. -/
theorem exists_composed {frames : List Frame} {buffer : ReadBuffer} (settled : hooks.Settled)
    (h : WithinLimits ending (collector hooks) frames buffer) :
    ∃ more last, Composed ending hooks buffer more last ∧
      Reader.Drains (unbounded ending) (collector hooks) frames buffer (frames ++ more) last := by
  induction h with
  | @waits frames buffer rest hcut hlarge hline =>
      -- on the frames that are taken; where none is complete, waiting has passed blank lines only
      have hrest := eq_waiting_of_unbounded settled hlarge hcut
      refine ⟨[], rest, ?_, ?_⟩
      · refine Composed.of_waiting ?_
        rw [hrest]
        refine .unfinished ?_
        rw [unbounded_waiting, ← hrest]
        exact hcut
      · rw [List.append_nil]
        exact .waits hcut
  | @takes frames buffer rest frame hcut hline _ ih =>
      obtain ⟨more, last, hcomposed, hdrains⟩ := ih
      refine ⟨frame :: more, last, ?_, ?_⟩
      · exact composed_of_cuts settled ((unbounded_eq_some settled).mp hcut) hcomposed
      · refine .takes hcut ?_
        simpa only [collector, List.append_assoc, List.singleton_append] using hdrains

/-! ## Lines without headers -/

/-- The non-empty segments between bytes that end lines, the last one having no end. -/
def segments (stream : Bytes) : List Bytes :=
  (stream.splitOnP isLineEnd).dropLast.filter (· ≠ [])

theorem segments_of_forall {stream : Bytes} (h : ∀ byte ∈ stream, isLineEnd byte = false) :
    segments stream = [] := by
  rw [segments, List.splitOnP_eq_singleton h]
  rfl

theorem segments_append {line rest : Bytes} {byte : UInt8} (hbyte : isLineEnd byte = true)
    (h : ∀ byte ∈ line, isLineEnd byte = false) :
    segments (line ++ [byte] ++ rest) =
      if line = [] then segments rest else line :: segments rest := by
  have hne : rest.splitOnP isLineEnd ≠ [] := List.splitOnP_ne_nil _ _
  rw [segments, List.append_assoc, List.singleton_append,
    List.splitOnP_append_cons_of_forall_mem h _ hbyte, List.dropLast_cons_of_ne_nil hne]
  -- a segment without bytes is a blank line
  by_cases hline : line = []
  · rw [if_pos hline, List.filter_cons_of_neg (by simp [hline])]
    rfl
  · rw [if_neg hline, List.filter_cons_of_pos (by simp [hline])]
    rfl

/-- Where no frame is complete, no line end stands behind a line. -/
theorem forall_not_lineEnd_of_unbounded {bytes : Bytes}
    (h : unbounded .anyOf Hooks.none ⟨bytes, none⟩ = (none, ⟨bytes, none⟩)) :
    ∀ byte ∈ bytes, isLineEnd byte = false := by
  rcases waiting_cases .anyOf ⟨bytes, none⟩ with ⟨length, howed⟩ | hempty | hline
  · cases howed
  · rw [← unbounded_waiting, hempty, unbounded, next_empty] at h
    cases h
    exact fun byte hbyte => absurd hbyte List.not_mem_nil
  · rw [unbounded_of_atLine Hooks.Settled.none hline] at h
    simp only [Hooks.headerMatch, Hooks.none] at h
    split at h
    · cases h
    next hsplit =>
      -- a line end would have split the bytes
      have hwait : (ReadBuffer.waiting .anyOf ⟨bytes, none⟩).bytes = bytes := by
        rw [Prod.mk.injEq] at h
        rw [h.2]
      rw [hwait] at hsplit
      simp only [splitLine?, splitAny?] at hsplit
      split at hsplit
      next hnil => simpa using List.dropWhile_eq_nil_iff.mp hnil
      · cases hsplit

/-- Without a header, and with each of three bytes ending a line, the frames are the segments. -/
theorem Composed.eq_segments {buffer last : ReadBuffer} {frames : List Frame}
    (h : Composed .anyOf Hooks.none buffer frames last) (howed : buffer.owed = none) :
    frames = (segments buffer.bytes).map Frame.line := by
  induction h with
  | @unfinished buffer hcut =>
      obtain ⟨bytes, owed⟩ := buffer
      cases howed
      rw [segments_of_forall (forall_not_lineEnd_of_unbounded hcut)]
      rfl
  | @blank mark rest frames last hmark _ ih =>
      cases hmark with
      | any hbyte =>
          have hskip : segments ([] ++ [_] ++ rest) = segments rest := segments_append hbyte nofun
          rw [ih rfl]
          exact congrArg (List.map Frame.line) hskip.symm
  | @line line mark rest frames last hne habsent hinner hmark _ ih =>
      cases hmark with
      | any hbyte =>
          have hline : ∀ byte ∈ line, isLineEnd byte = false := by
            intro byte hmem
            refine Bool.eq_false_iff.mpr fun hend => hinner [byte] (.any hend) ?_
            exact (List.append_of_mem hmem).elim fun before ⟨after, heq⟩ =>
              ⟨before, after, by simp [heq]⟩
          rw [ih rfl, segments_append hbyte hline, if_neg hne]
          rfl
  | header _ hfound => cases hfound
  | payload => cases howed

/-! ## However the stream is cut -/

/-- Lines only, or with the header of the data of a socket. -/
theorem settled_of_lines_or_read (h : hooks = Hooks.none ∨ hooks = Bg96.readHooks) :
    hooks.Settled := by
  rcases h with rfl | rfl
  · exact Hooks.Settled.none
  · exact Bg96.readHooks_settled

/-- The frames of a stream, and what is left of it, do not depend on how the stream is cut into
chunks.  They are the frames of the grammar. -/
theorem framesOfChunks_spec (hhooks : hooks = Hooks.none ∨ hooks = Bg96.readHooks)
    (chunks : List Bytes)
    (hwithin : WithinLimits ending (collector hooks) [] (empty.append chunks.flatten)) :
    framesOfChunks ending hooks chunks = framesOf ending hooks chunks.flatten ∧
      Composed ending hooks (empty.append chunks.flatten) (framesOf ending hooks chunks.flatten).1
        (framesOf ending hooks chunks.flatten).2 ∧
      (∀ line, Frame.line line ∈ (framesOf ending hooks chunks.flatten).1 → line ≠ []) ∧
      (hooks = Hooks.none → ending = .anyOf →
        (framesOf ending hooks chunks.flatten).1 = (segments chunks.flatten).map Frame.line) := by
  -- the relation `Drains` has one result, so it is enough to show that all three ways satisfy it
  have settled := settled_of_lines_or_read hhooks
  have keeps : (collector hooks).KeepsSettled := fun _ _ _ _ => settled
  have howed : (empty.append chunks.flatten).owed ≠ some 0 := nofun
  have hchunks : framesOf ending hooks chunks.flatten = framesOfChunks ending hooks chunks :=
    Reader.read_eq_of_drains (steady_unbounded ending keeps) settled howed
      (drains_feed keeps settled (by decide) (next_empty _ _ _) hwithin)
  obtain ⟨frames, last, hcomposed, hdrains⟩ := exists_composed settled hwithin
  have hframes : framesOf ending hooks chunks.flatten = (frames, last) :=
    Reader.read_eq_of_drains (steady_unbounded ending keeps) settled howed hdrains
  rw [hframes] at hchunks ⊢
  refine ⟨hchunks.symm, hcomposed, fun line => hcomposed.line_ne, ?_⟩
  rintro rfl rfl
  exact hcomposed.eq_segments rfl

/-- A payload of two bytes and the result line, cut inside every line end, inside the header and
inside the payload. -/
def payloadInPieces : List Bytes :=
  [Text.toBytes "\r", Text.toBytes "\n+QIRD", Text.toBytes ": 2\r", Text.toBytes "\nO",
    Text.toBytes "K\r", Text.toBytes "\nOK\r", Text.toBytes "\n"]

theorem framesOfChunks_payloadInPieces :
    WithinLimits .pair (collector Bg96.readHooks) [] (empty.append payloadInPieces.flatten) ∧
      framesOfChunks .pair Bg96.readHooks payloadInPieces =
        framesOf .pair Bg96.readHooks payloadInPieces.flatten := by
  -- the three cuts of the stream, each from what the one before leaves
  have hheader : unbounded .pair Bg96.readHooks (empty.append payloadInPieces.flatten) =
      (some (.line (Text.toBytes "+QIRD: 2")), ⟨Text.toBytes "OK\r\nOK\r\n", some 2⟩) := by decide
  have hpayload : unbounded .pair Bg96.readHooks ⟨Text.toBytes "OK\r\nOK\r\n", some 2⟩ =
      (some (.payload (Text.toBytes "OK")), ⟨Text.toBytes "\r\nOK\r\n", none⟩) := by decide
  have hresult : unbounded .pair Bg96.readHooks ⟨Text.toBytes "\r\nOK\r\n", none⟩ =
      (some (.line (Text.toBytes "OK")), empty) := by decide
  have hwithin : WithinLimits .pair (collector Bg96.readHooks) []
      (empty.append payloadInPieces.flatten) := by
    refine .takes hheader ?_ (.takes hpayload nofun (.takes hresult ?_ ?_))
    · rintro _ ⟨⟩
      decide
    · rintro _ ⟨⟩
      decide
    · exact .waits (next_empty _ _ _) (fun h => absurd h.2 (by decide)) (fun _ _ => by decide)
  exact ⟨hwithin, (framesOfChunks_spec (.inr rfl) payloadInPieces hwithin).1⟩

end ModemLink.Framing
