import ModemLink.Bg96.PayloadHeader
import ModemLink.Proofs.Framing.Append
import ModemLink.Proofs.Text.Ascii

/-!
# The payload header decides once

`payloadHeader` looks at a buffer that may not hold the whole header.  It answers `incomplete` until
the byte behind a CR is there, and from then on its answer is final (`payloadHeader_append`).  What
it finds is a line, a line end of one or two bytes, and the payload (`payloadHeader_found`), so that
the hooks of a read are settled (`readHooks_settled`).
-/

namespace ModemLink.Bg96

/-- The hooks of a command that reads the data of a socket. -/
def readHooks : Hooks := { header := some payloadHeader, prompt := none }

/-- A command that reads the data of a socket. -/
def readCommand : InFlight :=
  { kind := .manyLinesWithData
    label := some "+QIRD".toList
    hooks := readHooks
    successTokens := [] }

@[simp] theorem headerMatch_readHooks (bytes : Bytes) :
    readHooks.headerMatch bytes = payloadHeader bytes := rfl

/-- The text of the header, up to its line end. -/
def headerText (bytes : Bytes) : Bytes := bytes.takeWhile fun byte => !endsHeader byte

/-- The bytes from the line end of the header on. -/
def afterHeader (bytes : Bytes) : Bytes := bytes.dropWhile fun byte => !endsHeader byte

theorem headerText_append_afterHeader (bytes : Bytes) :
    headerText bytes ++ afterHeader bytes = bytes := List.takeWhile_append_dropWhile

theorem drop_headerText (bytes : Bytes) :
    bytes.drop (headerText bytes).length = afterHeader bytes := by
  calc bytes.drop (headerText bytes).length
      = (headerText bytes ++ afterHeader bytes).drop (headerText bytes).length := by
        rw [headerText_append_afterHeader]
    _ = afterHeader bytes := List.drop_left

/-- What the answer is once the mark is there. -/
def markedHeader (bytes : Bytes) : HeaderMatch :=
  match lineEndLength? (afterHeader bytes) with
  | none => .incomplete
  | some ending =>
      match announcedLength? ((headerText bytes).drop payloadMark.length) with
      | none => .absent
      | some length =>
          if Limits.receivedPayload < length then .tooLarge
          else .found ((headerText bytes).length + ending) length

theorem payloadHeader_of_mark {bytes : Bytes} (h : payloadMark <+: bytes) :
    payloadHeader bytes = markedHeader bytes := by
  have hlen : ¬ bytes.length < payloadMark.length := Nat.not_lt.mpr h.length_le
  have hpre : payloadMark.isPrefixOf bytes = true := List.isPrefixOf_iff_prefix.mpr h
  unfold payloadHeader markedHeader
  have hdrop : bytes.drop (bytes.takeWhile fun byte => !endsHeader byte).length =
      afterHeader bytes := drop_headerText bytes
  rw [if_neg hlen, if_pos hpre]
  simp only [hdrop]
  rfl

theorem payloadHeader_of_not_mark {bytes : Bytes} (h : ¬ payloadMark <+: bytes) :
    payloadHeader bytes = if bytes <+: payloadMark then .incomplete else .absent := by
  have hpre : ¬ payloadMark.isPrefixOf bytes = true := fun hp =>
    h (List.isPrefixOf_iff_prefix.mp hp)
  unfold payloadHeader
  by_cases hlen : bytes.length < payloadMark.length
  · simp only [if_pos hlen, List.isPrefixOf_iff_prefix]
  · have hnot : ¬ bytes <+: payloadMark := by
      intro hp
      have heq : bytes = payloadMark := hp.eq_of_length_le (by omega)
      exact h (heq ▸ List.prefix_refl _)
    rw [if_neg hlen, if_neg hpre, if_neg hnot]

/-! ## More input -/

theorem lineEndLength?_append {rest : Bytes} {ending : Nat} (h : lineEndLength? rest = some ending)
    (more : Bytes) : lineEndLength? (rest ++ more) = some ending := by
  match rest with
  | [] => cases h
  | [first] =>
      by_cases hcr : first = 13
      · simp [lineEndLength?, hcr] at h
      · simpa [lineEndLength?, hcr] using h
  | first :: second :: rest => simpa [lineEndLength?] using h

theorem afterHeader_append {bytes : Bytes} (h : afterHeader bytes ≠ []) (more : Bytes) :
    afterHeader (bytes ++ more) = afterHeader bytes ++ more := by
  have hempty : (bytes.dropWhile fun byte => !endsHeader byte).isEmpty = false := by
    simpa [afterHeader] using h
  rw [afterHeader, List.dropWhile_append, hempty]
  rfl

theorem headerText_append {bytes : Bytes} (h : afterHeader bytes ≠ []) (more : Bytes) :
    headerText (bytes ++ more) = headerText bytes := by
  -- the text does not reach the end, or nothing would be left after it
  have hlen : (bytes.takeWhile fun byte => !endsHeader byte).length ≠ bytes.length := by
    intro hlen
    have := congrArg List.length (headerText_append_afterHeader bytes)
    rw [List.length_append, headerText, hlen] at this
    exact h (List.eq_nil_of_length_eq_zero (by omega))
  rw [headerText, List.takeWhile_append, if_neg hlen]
  rfl

theorem markedHeader_append {bytes : Bytes} (h : markedHeader bytes ≠ .incomplete) (more : Bytes) :
    markedHeader (bytes ++ more) = markedHeader bytes := by
  unfold markedHeader at h ⊢
  cases hending : lineEndLength? (afterHeader bytes) with
  | none => simp [hending] at h
  | some ending =>
      have hne : afterHeader bytes ≠ [] := by
        intro hnil
        rw [hnil] at hending
        cases hending
      rw [afterHeader_append hne, headerText_append hne, lineEndLength?_append hending]

/-- Only an incomplete header may still become something else. -/
theorem payloadHeader_append {bytes : Bytes} (h : payloadHeader bytes ≠ .incomplete)
    (more : Bytes) : payloadHeader (bytes ++ more) = payloadHeader bytes := by
  by_cases hmark : payloadMark <+: bytes
  · rw [payloadHeader_of_mark hmark] at h ⊢
    rw [payloadHeader_of_mark (hmark.trans (List.prefix_append _ _)), markedHeader_append h]
  · rw [payloadHeader_of_not_mark hmark] at h ⊢
    have hnot : ¬ bytes <+: payloadMark := fun hp => h (if_pos hp)
    have hmark' : ¬ payloadMark <+: bytes ++ more := by
      intro hp
      -- of two texts that begin the same bytes, one begins the other
      rcases List.prefix_or_prefix_of_prefix hp (List.prefix_append bytes more) with hp | hp
      · exact hmark hp
      · exact hnot hp
    have hnot' : ¬ bytes ++ more <+: payloadMark := fun hp =>
      hnot ((List.prefix_append _ _).trans hp)
    rw [payloadHeader_of_not_mark hmark', if_neg hnot, if_neg hnot']

/-! ## What is found -/

theorem mem_trim {s : Text} {c : Char} (hc : c ∈ s) (hblank : isBlank c = false) : c ∈ s.trim := by
  have hdrop : ∀ {t : Text}, c ∈ t → c ∈ t.dropWhile isBlank := by
    intro t ht
    have hwhole : t.takeWhile isBlank ++ t.dropWhile isBlank = t := List.takeWhile_append_dropWhile
    have hall : (t.takeWhile isBlank).all isBlank = true := List.all_takeWhile
    rw [← hwhole, List.mem_append] at ht
    rcases ht with ht | ht
    · rw [List.all_eq_true.mp hall c ht] at hblank
      cases hblank
    · exact ht
  unfold Text.trim Text.dropEnd Text.dropStart
  rw [List.mem_reverse]
  exact hdrop (List.mem_reverse.mpr (hdrop hc))

/-- A number holds digits, and a plus sign at most. -/
theorem mem_of_toSize? {s : Text} {size : Nat} (h : s.toSize? = some size) {c : Char} (hc : c ∈ s) :
    c.isDigit = true ∨ c = '+' := by
  unfold Text.toSize? at h
  extract_lets digits at h
  -- the check is about what stands after a plus sign, if there is one
  have hdigits : ∀ c ∈ digits, c.isDigit = true := by
    by_cases hall : digits.all Char.isDigit = true
    · exact List.all_eq_true.mp hall
    · rw [if_neg fun hcond => hall hcond.2] at h
      cases h
  clear h
  unfold digits at hdigits
  split at hdigits
  next rest =>
    rcases List.mem_cons.mp hc with hc | hc
    · exact .inr hc
    · exact .inl (hdigits c hc)
  next => exact .inl (hdigits c hc)

/-- The text of an announced length holds no NUL. -/
theorem ne_zero_of_announcedLength? {text : Bytes} {length : Nat}
    (h : announcedLength? text = some length) : (0 : UInt8) ∉ text := by
  intro hzero
  unfold announcedLength? at h
  rw [Option.bind_eq_some_iff] at h
  obtain ⟨s, hs, hsize⟩ := h
  rw [← Text.toBytes_of_ofBytes? hs] at hzero
  obtain ⟨c, hc, hnat⟩ := (Text.mem_toBytes_iff (by decide)).mp hzero
  obtain rfl : c = '\x00' := Char.toNat_inj.mp hnat
  rcases mem_of_toSize? hsize (mem_trim hc (by decide)) with h | h
  · cases h
  · cases h

theorem endsHeader_of_mem_headerText {bytes : Bytes} {byte : UInt8} (h : byte ∈ headerText bytes) :
    endsHeader byte = false := by
  have hall : (headerText bytes).all (fun byte => !endsHeader byte) = true := List.all_takeWhile
  simpa using List.all_eq_true.mp hall byte h

/-- The mark of the header is part of its text. -/
theorem mark_prefix_headerText {bytes : Bytes} (h : payloadMark <+: bytes) :
    payloadMark <+: headerText bytes := by
  obtain ⟨rest, rfl⟩ := h
  rw [headerText, List.takeWhile_append_of_pos]
  · exact List.prefix_append _ _
  · exact List.all_eq_true.mp (by decide)

theorem mark_append_drop {bytes : Bytes} (h : payloadMark <+: bytes) :
    payloadMark ++ (headerText bytes).drop payloadMark.length = headerText bytes := by
  obtain ⟨rest, hrest⟩ := mark_prefix_headerText h
  rw [← hrest, List.drop_left]

/-- A header that announces a length holds no line end. -/
theorem isLineEnd_of_mem_headerText {bytes : Bytes} {length : Nat} (hmark : payloadMark <+: bytes)
    (hlength : announcedLength? ((headerText bytes).drop payloadMark.length) = some length)
    {byte : UInt8} (h : byte ∈ headerText bytes) : ReadBuffer.isLineEnd byte = false := by
  have hnot := endsHeader_of_mem_headerText h
  -- the scan for the end of the header stops at CR and LF only, but NUL is no digit
  have hzero : byte ≠ 0 := by
    rintro rfl
    rw [← mark_append_drop hmark, List.mem_append] at h
    rcases h with h | h
    · exact absurd h (by decide)
    · exact ne_zero_of_announcedLength? hlength h
  simp only [endsHeader, Bool.or_eq_false_iff, decide_eq_false_iff_not] at hnot
  simp [ReadBuffer.isLineEnd, hnot.1, hnot.2, hzero]

theorem lineEndLength?_eq_some {rest : Bytes} {ending : Nat}
    (h : lineEndLength? rest = some ending)
    (hend : ∀ first more, rest = first :: more → endsHeader first = true) :
    ∃ mark more, rest = mark ++ more ∧ mark.length = ending ∧
      (mark = [13] ∨ mark = [10] ∨ mark = [13, 10]) := by
  match rest with
  | [] => cases h
  | first :: more =>
      have hfirst := hend first more rfl
      by_cases hcr : first = 13
      · subst hcr
        match more with
        | [] => cases h
        | second :: more =>
            -- a CR with something behind it decides whether the LF belongs to the line end
            by_cases hlf : second = 10
            · subst hlf
              cases h
              exact ⟨[13, 10], more, rfl, rfl, by simp⟩
            · simp only [lineEndLength?, if_true, if_neg hlf] at h
              cases h
              exact ⟨[13], second :: more, rfl, rfl, by simp⟩
      · obtain rfl : first = 10 := by simpa [endsHeader, hcr] using hfirst
        cases h
        exact ⟨[10], more, rfl, rfl, by simp⟩

theorem endsHeader_head_afterHeader {bytes : Bytes} {first : UInt8} {more : Bytes}
    (h : afterHeader bytes = first :: more) : endsHeader first = true := by
  have := List.head?_dropWhile_not (fun byte => !endsHeader byte) bytes
  rw [← afterHeader, h] at this
  simpa using this

/-- A header that was found is a line of the modem, and announces what can be held. -/
theorem payloadHeader_found {bytes : Bytes} {start length : Nat}
    (h : payloadHeader bytes = .found start length) :
    ∃ line mark rest, HeaderForm bytes line mark rest ∧ start = line.length + mark.length ∧
      payloadMark <+: line ∧ length ≤ Limits.receivedPayload := by
  have hmark : payloadMark <+: bytes := by
    by_cases hmark : payloadMark <+: bytes
    · exact hmark
    · rw [payloadHeader_of_not_mark hmark] at h
      split at h <;> cases h
  rw [payloadHeader_of_mark hmark, markedHeader] at h
  -- a length is announced only if the line end is there and the length can be held
  cases hending : lineEndLength? (afterHeader bytes) with
  | none => simp [hending] at h
  | some ending =>
      cases hlength : announcedLength? ((headerText bytes).drop payloadMark.length) with
      | none => simp [hending, hlength] at h
      | some announced =>
          simp only [hending, hlength] at h
          split at h
          · cases h
          next hle =>
            cases h
            obtain ⟨mark, rest, hrest, rfl, hmarks⟩ :=
              lineEndLength?_eq_some hending fun _ _ => endsHeader_head_afterHeader
            refine ⟨headerText bytes, mark, rest, ⟨?_, hmarks, ?_, ?_⟩, rfl,
              mark_prefix_headerText hmark, by omega⟩
            · rw [List.append_assoc, ← hrest, headerText_append_afterHeader]
            · rw [← mark_append_drop hmark]
              exact List.append_ne_nil_of_left_ne_nil (by decide) _
            · exact fun byte => isLineEnd_of_mem_headerText hmark hlength

/-- A header that is too large begins with the mark as well. -/
theorem mark_prefix_of_tooLarge {bytes : Bytes} (h : payloadHeader bytes = .tooLarge) :
    payloadMark <+: bytes := by
  by_cases hmark : payloadMark <+: bytes
  · exact hmark
  · rw [payloadHeader_of_not_mark hmark] at h
    split at h <;> cases h

/-- Reading the data of a socket keeps to headers that are final. -/
theorem readHooks_settled : readHooks.Settled where
  prompt_eq := rfl
  append_eq _ more h := payloadHeader_append h more
  form h := by
    obtain ⟨line, mark, rest, hform, hstart, -⟩ := payloadHeader_found h
    exact ⟨line, mark, rest, hform, hstart⟩
  large_head h := by
    obtain ⟨rest, rfl⟩ := mark_prefix_of_tooLarge h
    exact ⟨43, _, rfl, by decide⟩

end ModemLink.Bg96
