import ModemLink.Proofs.Bg96.Header
import ModemLink.Proofs.Framing.Delivery
import ModemLink.Proofs.Text.Number

/-!
# What a header announces

The header of `n` bytes of socket data is the line `headerLine n` and its line end.  It is found with
all of its bytes there and announces `n` (`payloadHeader_headerLine`), whatever stands behind it; with
any byte missing at its end nothing is decided yet (`payloadHeader_eq_incomplete`).  In any other
buffer too, what is found lies within the buffer, is one line, and announces what can be held
(`payloadHeader_decides`).
-/

namespace ModemLink.Bg96

open Framing

/-! ## The header of a length -/

/-- The line that announces `n` bytes. -/
def headerLine (n : Nat) : Text := "+QIRD: ".toList ++ Text.ofNat n

theorem toBytes_headerLine (n : Nat) :
    (headerLine n).toBytes = payloadMark ++ (Text.ofNat n).toBytes := by
  unfold headerLine payloadMark
  exact Text.toBytes_append _ _

theorem mem_headerLine {n : Nat} {c : Char} (h : c ∈ headerLine n) : 32 ≤ c.toNat := by
  have hmark : ∀ c ∈ "+QIRD: ".toList, 32 ≤ c.toNat := by simp
  rcases List.mem_append.mp h with h | h
  · exact hmark c h
  · exact Nat.le_trans (by decide) (Text.toNat_of_isDigit (Text.isDigit_of_mem_ofNat h)).1

/-- The header line holds no line end. -/
theorem isLineEnd_of_mem_headerLine {n : Nat} {byte : UInt8} (h : byte ∈ (headerLine n).toBytes) :
    ReadBuffer.isLineEnd byte = false := by
  have hlarge : 32 ≤ byte.toNat := by
    by_contra hsmall
    obtain ⟨c, hc, heq⟩ := (Text.mem_toBytes_iff (by omega)).mp h
    exact hsmall (heq ▸ mem_headerLine hc)
  have hne : ∀ small : UInt8, small.toNat < 32 → byte ≠ small := by
    rintro small hsmall rfl
    omega
  simp [ReadBuffer.isLineEnd, hne 13 (by decide), hne 10 (by decide), hne 0 (by decide)]

theorem endsHeader_of_mem_headerLine {n : Nat} {byte : UInt8} (h : byte ∈ (headerLine n).toBytes) :
    endsHeader byte = false := by
  have hend := isLineEnd_of_mem_headerLine h
  simp only [ReadBuffer.isLineEnd, Bool.or_eq_false_iff] at hend
  simp only [endsHeader, hend.1, Bool.or_self]

/-- The header is found, and announces what it says. -/
theorem payloadHeader_headerLine {n : Nat} (h : n ≤ Limits.receivedPayload) :
    payloadHeader ((headerLine n).toBytes ++ crlf) =
      .found ((headerLine n).toBytes.length + crlf.length) n := by
  have hmark : payloadMark <+: (headerLine n).toBytes ++ crlf := by
    rw [toBytes_headerLine, List.append_assoc]
    exact List.prefix_append _ _
  -- the header ends where the first CR is, so its text is the line, and CR LF is what follows
  have hpass : ∀ byte ∈ (headerLine n).toBytes, (!endsHeader byte) = true := by
    intro byte hbyte
    rw [endsHeader_of_mem_headerLine hbyte]
    rfl
  have htext : headerText ((headerLine n).toBytes ++ crlf) = (headerLine n).toBytes := by
    rw [headerText, List.takeWhile_append_of_pos hpass]
    exact List.append_nil _
  have hafter : afterHeader ((headerLine n).toBytes ++ crlf) = crlf := by
    rw [afterHeader, List.dropWhile_append_of_pos hpass]
    rfl
  have hdigits : (headerLine n).toBytes.drop payloadMark.length = (Text.ofNat n).toBytes := by
    rw [toBytes_headerLine]
    exact List.drop_left
  have hannounced : announcedLength? (Text.ofNat n).toBytes = some n := by
    have hword : n < UInt64.size := Nat.lt_of_le_of_lt h (by decide)
    rw [announcedLength?, Text.ofBytes?_toBytes]
    show (Text.ofNat n).trim.toSize? = some n
    rw [Text.trim_ofNat, Text.toSize?_ofNat hword]
  have hend : lineEndLength? crlf = some crlf.length := rfl
  rw [payloadHeader_of_mark hmark, markedHeader, hafter, htext, hdigits, hannounced, hend]
  exact if_neg (Nat.not_lt.mpr h)

/-! ## A header that has not arrived completely -/

/-- A line end of which nothing or only a CR is there leaves the header open. -/
theorem markedHeader_eq_incomplete {bytes : Bytes}
    (h : afterHeader bytes = [] ∨ afterHeader bytes = [13]) : markedHeader bytes = .incomplete := by
  have hopen : lineEndLength? (afterHeader bytes) = none := by
    rcases h with h | h <;> rw [h] <;> rfl
  rw [markedHeader, hopen]

/-- A line that begins with the mark is not decided on before its line end is complete. -/
theorem payloadHeader_eq_incomplete {line part : Bytes} (hmark : payloadMark <+: line)
    (hline : ∀ byte ∈ line, endsHeader byte = false) (hpart : part <+: line ++ crlf)
    (hne : part ≠ line ++ crlf) : payloadHeader part = .incomplete := by
  by_cases hmarked : payloadMark <+: part
  · rw [payloadHeader_of_mark hmarked]
    refine markedHeader_eq_incomplete ?_
    have hpass : ∀ byte ∈ line, (!endsHeader byte) = true := fun byte hbyte => by
      rw [hline byte hbyte]
      rfl
    -- without the LF, the part ends within the line or with the CR
    have hwhole : line ++ crlf = line ++ [13] ++ [10] := (List.append_assoc line [13] [10]).symm
    rw [hwhole] at hpart hne
    have hcr : part <+: line ++ [13] := (List.prefix_concat_iff.mp hpart).resolve_left hne
    rcases List.prefix_concat_iff.mp hcr with rfl | hinner
    · refine .inr ?_
      rw [afterHeader, List.dropWhile_append_of_pos hpass]
      rfl
    · exact .inl (List.dropWhile_eq_nil_iff.mpr fun byte hbyte => hpass byte (hinner.mem hbyte))
  · -- the part is too short for the mark, and agrees with it as far as it goes
    have hbegins : part <+: payloadMark := by
      have hmark' : payloadMark <+: line ++ crlf := hmark.trans (List.prefix_append _ _)
      exact (List.prefix_or_prefix_of_prefix hmark' hpart).resolve_left hmarked
    rw [payloadHeader_of_not_mark hmarked, if_pos hbegins]

/-! ## What is decided -/

/-- What is found lies within the buffer and is one line that begins with the mark. -/
theorem take_of_payloadHeader_found {bytes : Bytes} {start length : Nat}
    (h : payloadHeader bytes = .found start length) :
    8 ≤ start ∧ start ≤ bytes.length ∧ length ≤ Limits.receivedPayload ∧
      ∃ line mark, bytes.take start = line ++ mark ∧ payloadMark <+: line ∧
        (mark = [13] ∨ mark = [10] ∨ mark = [13, 10]) ∧ ∀ byte ∈ line, byte ≠ 13 ∧ byte ≠ 10 := by
  -- the mark of the line has seven bytes and its end at least one
  obtain ⟨line, mark, rest, hform, rfl, hmark, hlength⟩ := payloadHeader_found h
  have hline : 7 ≤ line.length := hmark.length_le
  have hend : 1 ≤ mark.length := by
    rcases hform.mark_eq with hcase | hcase | hcase <;> rw [hcase] <;> decide
  have hwithin : line.length + mark.length ≤ bytes.length := by
    rw [hform.bytes_eq, List.length_append, List.length_append]
    omega
  have htake : bytes.take (line.length + mark.length) = line ++ mark := by
    rw [hform.bytes_eq, ← List.length_append, List.take_left]
  refine ⟨by omega, hwithin, hlength, line, mark, htake, hmark, hform.mark_eq, ?_⟩
  intro byte hbyte
  have hinner := hform.line_end byte hbyte
  constructor
  · rintro rfl
    exact absurd hinner (by decide)
  · rintro rfl
    exact absurd hinner (by decide)

/-- Only an open header may still become something else.  What is found lies within the buffer, is
one line with its line end, and announces what can be held.  The header of each length that can be
held is found, whatever follows, and is open as long as a byte of it is missing. -/
theorem payloadHeader_decides (bytes : Bytes) :
    (payloadHeader bytes ≠ .incomplete →
      ∀ more, payloadHeader (bytes ++ more) = payloadHeader bytes) ∧
    (∀ start length, payloadHeader bytes = .found start length →
      8 ≤ start ∧ start ≤ bytes.length ∧ length ≤ Limits.receivedPayload ∧
        ∃ line mark, bytes.take start = line ++ mark ∧ payloadMark <+: line ∧
          (mark = [13] ∨ mark = [10] ∨ mark = [13, 10]) ∧
            ∀ byte ∈ line, byte ≠ 13 ∧ byte ≠ 10) ∧
    ∀ n ≤ Limits.receivedPayload,
      let header := (headerLine n).toBytes ++ crlf
      (∀ rest, payloadHeader (header ++ rest) = .found header.length n) ∧
        ∀ part, part <+: header → part ≠ header → payloadHeader part = .incomplete := by
  refine ⟨payloadHeader_append, fun _ _ => take_of_payloadHeader_found, fun n hn => ⟨?_, ?_⟩⟩
  · -- the header without anything after it is found already, and stays found
    intro rest
    have hfound := payloadHeader_headerLine hn
    have hfinal : payloadHeader ((headerLine n).toBytes ++ crlf) ≠ .incomplete := by
      rw [hfound]
      nofun
    rw [payloadHeader_append hfinal, hfound, List.length_append]
  · intro part hpart hne
    have hmark : payloadMark <+: (headerLine n).toBytes := by
      rw [toBytes_headerLine]
      exact List.prefix_append _ _
    exact payloadHeader_eq_incomplete hmark (fun _ => endsHeader_of_mem_headerLine) hpart hne

/-- A header and the first bytes of its payload, which look like line ends; and the same header with
its LF missing. -/
theorem payloadHeader_decides_short :
    let header := Text.toBytes "+QIRD: 1500\r\n"
    payloadHeader (header ++ [13, 10]) = .found 13 1500 ∧ 13 ≤ (header ++ [13, 10]).length ∧
      payloadHeader (header ++ [13, 10] ++ [10, 43]) = .found 13 1500 ∧
      payloadHeader (header.take 12) = .incomplete := by
  intro header
  have hannounced := (payloadHeader_decides (header ++ [13, 10])).2.2 1500 (by decide)
  have hfound : payloadHeader (header ++ [13, 10]) = .found 13 1500 := hannounced.1 [13, 10]
  have hdecides := payloadHeader_decides (header ++ [13, 10])
  have hopen : payloadHeader (header ++ [13, 10]) ≠ .incomplete := by
    rw [hfound]
    nofun
  refine ⟨hfound, (hdecides.2.1 13 1500 hfound).2.1, (hdecides.1 hopen [10, 43]).trans hfound, ?_⟩
  exact hannounced.2 (header.take 12) (by decide) (by decide)

end ModemLink.Bg96
