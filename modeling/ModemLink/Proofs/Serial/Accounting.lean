import ModemLink.Proofs.Serial.Sending

/-!
# A sending accounts for every byte

A sending offers what is left of its data to the writer, again and again, until everything was
taken, the deadline has passed, or a write failed or took nothing.  The turns of a writer say when
each write is ready and what it does then, so that they describe every writer of which a write that
is given up takes nothing.

* `Writes` is the list of the writes of one sending, with how each of them ended; `exists_writes`
  says that there always is one, and that `writeAll` follows it.
* `Writes.takes_prefix`, `Writes.inTime`, `Writes.length_le` and `Writes.short` are about the bytes
  that were taken, the time, the number of writes, and what is left.
* `send_accounts` puts them together with the flush that comes last.
-/

namespace ModemLink.SerialPort

/-! ## One write -/

/-- How many bytes a write took. -/
def WriteEnd.taken : WriteEnd → Nat
  | accepted count => count
  | failed | expired => 0

variable {port next last : SerialPort} {deadline : Nat} {data : Bytes} {ending : WriteEnd}
  {ends : List WriteEnd}

/-- The writer is not ready for another write before the deadline has passed. -/
def Blocked (port : SerialPort) (deadline : Nat) : Prop :=
  port.now = deadline ∧ ∃ turn writer, port.writer = turn :: writer ∧ deadline < turn.ready

/-- What a write does to the port that has until the deadline. -/
structure Wrote (deadline : Nat) (port : SerialPort) (data : Bytes) (ending : WriteEnd)
    (next : SerialPort) : Prop where
  /-- It takes the first bytes of what it is offered. -/
  accepted : next.accepted = port.accepted ++ data.take ending.taken
  taken_le : ending.taken ≤ data.length
  flush : next.flush = port.flush
  now_le : port.now ≤ next.now
  inTime : next.now ≤ deadline
  blocked : ending = .expired → next.Blocked deadline

theorem wrote_write (hnow : port.now ≤ deadline)
    (hwrite : port.write deadline data = (next, ending)) :
    Wrote deadline port data ending next := by
  unfold write at hwrite
  cases hwriter : port.writer with
  | nil =>
      -- a writer without further turns takes everything at once
      simp only [hwriter] at hwrite
      obtain ⟨rfl, rfl⟩ := hwrite
      exact
        { accepted := by simp [SerialPort.accepted, WriteEnd.taken]
          taken_le := Nat.le_refl _
          flush := rfl
          now_le := Nat.le_refl _
          inTime := hnow
          blocked := fun hexpired => by cases hexpired }
  | cons turn writer =>
      simp only [hwriter] at hwrite
      -- its next turn begins before the deadline, or the write is given up at the deadline
      by_cases hready : port.InTime deadline turn.ready
      · have hlater : max port.now turn.ready ≤ deadline := by
          unfold InTime at hready
          omega
        rw [if_pos hready] at hwrite
        cases hturn : turn.accepts with
        | none =>
            simp only [hturn] at hwrite
            obtain ⟨rfl, rfl⟩ := hwrite
            exact
              { accepted := by simp [SerialPort.accepted, WriteEnd.taken, waitUntil]
                taken_le := Nat.zero_le _
                flush := rfl
                now_le := Nat.le_max_left _ _
                inTime := hlater
                blocked := fun hexpired => by cases hexpired }
        | some limit =>
            -- the writer takes as much as it can, and that is never more than it is offered
            simp only [hturn] at hwrite
            obtain ⟨rfl, rfl⟩ := hwrite
            have hfits : (data.take limit).length ≤ data.length := by
              rw [List.length_take]
              exact Nat.min_le_right _ _
            exact
              { accepted := by simp [SerialPort.accepted, WriteEnd.taken, waitUntil]
                taken_le := hfits
                flush := rfl
                now_le := Nat.le_max_left _ _
                inTime := hlater
                blocked := fun hexpired => by cases hexpired }
      · -- the port waits until the deadline, and the turn is still ahead of it
        rw [if_neg hready] at hwrite
        obtain ⟨rfl, rfl⟩ := hwrite
        have hdeadline : (port.waitUntil deadline).now = deadline := Nat.max_eq_right hnow
        have hlate : deadline < turn.ready := by
          unfold InTime at hready
          omega
        exact
          { accepted := by simp [SerialPort.accepted, WriteEnd.taken, waitUntil]
            taken_le := Nat.zero_le _
            flush := rfl
            now_le := Nat.le_max_left _ _
            inTime := Nat.le_of_eq hdeadline
            blocked := fun _ => ⟨hdeadline, turn, writer, hwriter, hlate⟩ }

/-! ## The writes of one sending -/

/-- The writes of a sending, in order, with how each of them ended.  Each is offered what is left,
and another one is made only after a write that took something. -/
inductive Writes (deadline : Nat) : SerialPort → Bytes → List WriteEnd → SerialPort → Prop
  /-- Everything was taken. -/
  | whole (port : SerialPort) : Writes deadline port [] [] port
  | takes {port next last : SerialPort} {data : Bytes} {ending : WriteEnd} {ends : List WriteEnd}
      (hwrite : port.write deadline data = (next, ending)) (htaken : 0 < ending.taken)
      (hrest : Writes deadline next (data.drop ending.taken) ends last) :
      Writes deadline port data (ending :: ends) last
  | stops {port next : SerialPort} {data : Bytes} {ending : WriteEnd} (hdata : data ≠ [])
      (hwrite : port.write deadline data = (next, ending)) (htaken : ending.taken = 0) :
      Writes deadline port data [ending] next

/-- How many bytes some writes took together. -/
def totalTaken : List WriteEnd → Nat
  | [] => 0
  | ending :: ends => ending.taken + totalTaken ends

@[simp] theorem totalTaken_nil : totalTaken [] = 0 := rfl

@[simp] theorem totalTaken_cons (ending : WriteEnd) (ends : List WriteEnd) :
    totalTaken (ending :: ends) = ending.taken + totalTaken ends := rfl

/-- What the writes of a sending come to: the number of bytes, or why there is none. -/
def verdict (ends : List WriteEnd) : Except LinkError Nat :=
  match ends.getLast? with
  | some .failed => .error .driver
  | some (.accepted 0) => .error .failure
  | _ => .ok (totalTaken ends)

theorem verdict_cons (htaken : 0 < ending.taken) (ends : List WriteEnd) :
    verdict (ending :: ends) = (verdict ends).map (ending.taken + ·) := by
  cases ends with
  | nil =>
      -- a write that took something was accepted, and with more than nothing
      cases ending with
      | failed | expired => cases htaken
      | accepted count =>
          cases count with
          | zero => cases htaken
          | succ count => rfl
  | cons second ends =>
      unfold verdict
      rw [List.getLast?_cons_cons]
      split <;> rfl

namespace Writes

/-- After a write that took nothing there is no other. -/
theorem eq_nil_of_taken (h : Writes deadline port data ends last) {before later : List WriteEnd}
    (hsplit : ends = before ++ ending :: later) (htaken : ending.taken = 0) : later = [] := by
  induction h generalizing before with
  | whole port => simp at hsplit
  | takes hwrite hfirst hrest ih =>
      -- a write that others follow took something, so it is not the one in question
      cases before with
      | nil =>
          obtain ⟨rfl, -⟩ := List.cons.inj hsplit
          omega
      | cons first before =>
          obtain ⟨-, hmore⟩ := List.cons.inj hsplit
          exact ih hmore
  | stops hdata hwrite hfirst =>
      have hlength := congrArg List.length hsplit
      simp only [List.length_append, List.length_cons, List.length_nil] at hlength
      exact List.eq_nil_of_length_eq_zero (by omega)

/-- What the writes took are the first bytes of the data. -/
theorem takes_prefix (h : Writes deadline port data ends last) (hnow : port.now ≤ deadline) :
    last.accepted = port.accepted ++ data.take (totalTaken ends) ∧
      totalTaken ends ≤ data.length := by
  induction h with
  | whole port => simp
  | takes hwrite htaken hrest ih =>
      have hwrote := wrote_write hnow hwrite
      obtain ⟨haccepted, hle⟩ := ih hwrote.inTime
      have hfits := hwrote.taken_le
      rw [List.length_drop] at hle
      refine ⟨?_, by rw [totalTaken_cons]; omega⟩
      rw [haccepted, hwrote.accepted, List.append_assoc, ← List.take_add, totalTaken_cons]
  | stops hdata hwrite htaken =>
      have hwrote := wrote_write hnow hwrite
      refine ⟨?_, by simp [htaken]⟩
      rw [hwrote.accepted, totalTaken_cons, totalTaken_nil, Nat.add_zero]

/-- No write is waited for longer than until the deadline. -/
theorem inTime (h : Writes deadline port data ends last) (hnow : port.now ≤ deadline) :
    port.now ≤ last.now ∧ last.now ≤ deadline ∧ last.flush = port.flush := by
  induction h with
  | whole port => exact ⟨Nat.le_refl _, hnow, rfl⟩
  | takes hwrite htaken hrest ih =>
      have hwrote := wrote_write hnow hwrite
      obtain ⟨hlater, hdeadline, hflush⟩ := ih hwrote.inTime
      exact ⟨Nat.le_trans hwrote.now_le hlater, hdeadline, hflush.trans hwrote.flush⟩
  | stops hdata hwrite htaken =>
      have hwrote := wrote_write hnow hwrite
      exact ⟨hwrote.now_le, hwrote.inTime, hwrote.flush⟩

/-- Every write but the last takes a byte at least, and the last one is offered one. -/
theorem length_le (h : Writes deadline port data ends last) (hnow : port.now ≤ deadline) :
    ends.length ≤ data.length := by
  induction h with
  | whole port => exact Nat.le_refl _
  | takes hwrite htaken hrest ih =>
      have hwrote := wrote_write hnow hwrite
      have hmore := ih hwrote.inTime
      have hfits := hwrote.taken_le
      rw [List.length_drop] at hmore
      rw [List.length_cons]
      omega
  | stops hdata hwrite htaken =>
      have hsome := List.length_pos_iff.mpr hdata
      rw [List.length_singleton]
      omega

/-- If something is left, the last write took nothing.  Unless it was refused, the writer is not
ready for another one by the deadline. -/
theorem short (h : Writes deadline port data ends last) (hnow : port.now ≤ deadline)
    (hshort : totalTaken ends < data.length) :
    ends.getLast? = some .failed ∨ ends.getLast? = some (.accepted 0) ∨
      ends.getLast? = some .expired ∧ last.Blocked deadline := by
  induction h with
  | whole port => simp at hshort
  | @takes _ _ _ _ _ ends hwrite htaken hrest ih =>
      -- what is left after the first write is short by as much
      have hwrote := wrote_write hnow hwrite
      have hmore := ih hwrote.inTime (by
        rw [totalTaken_cons] at hshort
        rw [List.length_drop]
        omega)
      cases ends with
      | nil => simp at hmore
      | cons second ends => rwa [List.getLast?_cons_cons]
  | @stops _ _ _ ending hdata hwrite htaken =>
      -- the write that took nothing: each of its ends is one of the three
      have hwrote := wrote_write hnow hwrite
      rw [List.getLast?_singleton]
      cases ending with
      | failed => exact .inl rfl
      | expired => exact .inr (.inr ⟨rfl, hwrote.blocked rfl⟩)
      | accepted count =>
          obtain rfl : count = 0 := htaken
          exact .inr (.inl rfl)

/-- A write that took nothing is the last one. -/
theorem getLast?_of_mem (h : Writes deadline port data ends last) (hmem : ending ∈ ends)
    (htaken : ending.taken = 0) : ends.getLast? = some ending := by
  obtain ⟨before, later, hsplit⟩ := List.append_of_mem hmem
  obtain rfl : later = [] := h.eq_nil_of_taken hsplit htaken
  rw [hsplit, List.getLast?_concat]

theorem verdict_of_failed (h : Writes deadline port data ends last) (hmem : .failed ∈ ends) :
    verdict ends = .error .driver := by
  rw [verdict, h.getLast?_of_mem hmem rfl]

theorem verdict_of_refused (h : Writes deadline port data ends last) (hmem : .accepted 0 ∈ ends) :
    verdict ends = .error .failure := by
  rw [verdict, h.getLast?_of_mem hmem rfl]
  rfl

/-- If every write took something, all of the data was taken. -/
theorem totalTaken_eq (h : Writes deadline port data ends last) (hnow : port.now ≤ deadline)
    (hall : ∀ ending ∈ ends, 0 < ending.taken) : totalTaken ends = data.length := by
  have hle := (h.takes_prefix hnow).2
  rcases Nat.eq_or_lt_of_le hle with heq | hlt
  · exact heq
  -- otherwise the last write would be one that took nothing
  have hlast : ∃ ending, ends.getLast? = some ending ∧ ending.taken = 0 := by
    rcases h.short hnow hlt with hfailed | hrefused | ⟨hexpired, -⟩
    · exact ⟨_, hfailed, rfl⟩
    · exact ⟨_, hrefused, rfl⟩
    · exact ⟨_, hexpired, rfl⟩
  obtain ⟨ending, hending, htaken⟩ := hlast
  have hsome := hall ending (List.mem_of_getLast? hending)
  omega

end Writes

theorem eq_totalTaken_of_verdict {total : Nat} (h : verdict ends = .ok total) :
    total = totalTaken ends := by
  unfold verdict at h
  split at h
  · cases h
  · cases h
  · exact (Except.ok.inj h).symm

/-- The writes have no result only if the last of them failed or was refused. -/
theorem cause_of_verdict {cause : LinkError} (h : verdict ends = .error cause) :
    (∃ ending ∈ ends, ending.taken = 0) ∧ cause ≠ .timeout := by
  unfold verdict at h
  split at h
  next hlast =>
    cases h
    exact ⟨⟨_, List.mem_of_getLast? hlast, rfl⟩, nofun⟩
  next hlast =>
    cases h
    exact ⟨⟨_, List.mem_of_getLast? hlast, rfl⟩, nofun⟩
  · cases h

/-- Every sending makes its writes one after the other, and comes to their verdict. -/
theorem exists_writes {fuel : Nat} (hnow : port.now ≤ deadline) (hfuel : data.length ≤ fuel)
    (sent : Nat) :
    ∃ ends, Writes deadline port data ends (writeAll deadline fuel port data sent).1 ∧
      (writeAll deadline fuel port data sent).2 = (verdict ends).map (sent + ·) := by
  induction fuel generalizing port data sent with
  | zero =>
      -- the fuel is enough for one write a byte, so nothing is left here
      obtain rfl : data = [] := List.eq_nil_of_length_eq_zero (by omega)
      exact ⟨[], .whole port, rfl⟩
  | succ fuel ih =>
      by_cases hdata : data = []
      · subst hdata
        exact ⟨[], .whole port, rfl⟩
      · rw [writeAll, if_neg hdata]
        generalize hwrite : port.write deadline data = result
        obtain ⟨next, ending⟩ := result
        have hwrote := wrote_write hnow hwrite
        cases ending with
        | expired => exact ⟨[.expired], .stops hdata hwrite rfl, rfl⟩
        | failed => exact ⟨[.failed], .stops hdata hwrite rfl, rfl⟩
        | accepted count =>
            cases count with
            | zero => exact ⟨[.accepted 0], .stops hdata hwrite rfl, rfl⟩
            | succ count =>
                have htaken : 0 < (WriteEnd.accepted (count + 1)).taken := Nat.succ_pos count
                have hless : (data.drop (count + 1)).length ≤ fuel := by
                  rw [List.length_drop]
                  omega
                obtain ⟨ends, hrest, hresult⟩ := ih hwrote.inTime hless (sent + (count + 1))
                refine ⟨.accepted (count + 1) :: ends, .takes hwrite htaken hrest, ?_⟩
                -- the counter of the loop is what was sent before plus what the writes take
                calc (writeAll deadline fuel next (data.drop (count + 1)) (sent + (count + 1))).2
                    = (verdict ends).map (sent + (count + 1) + ·) := hresult
                  _ = ((verdict ends).map (count + 1 + ·)).map (sent + ·) := by
                      cases verdict ends with
                      | error cause => rfl
                      | ok total => exact congrArg Except.ok (Nat.add_assoc _ _ _)
                  _ = (verdict (.accepted (count + 1) :: ends)).map (sent + ·) := by
                      rw [verdict_cons htaken]
                      rfl

/-! ## The flush -/

/-- What flushing does to the port that has until the deadline. -/
structure Flushed (deadline : Nat) (port next : SerialPort) (result : Except LinkError Unit) :
    Prop where
  accepted : next.accepted = port.accepted
  writer : next.writer = port.writer
  now_le : port.now ≤ next.now
  inTime : next.now ≤ deadline
  result : result = .ok () ∨ result = .error .driver ∧ ∃ ready, port.flush = .fails ready

theorem flushed_flushUntil (hnow : port.now ≤ deadline) :
    Flushed deadline port (port.flushUntil deadline).1 (port.flushUntil deadline).2 := by
  have hwait : ∀ {time : Nat}, time ≤ deadline → (port.waitUntil time).now ≤ deadline := by
    intro time htime
    exact Nat.max_le.mpr ⟨hnow, htime⟩
  unfold flushUntil
  cases hflush : port.flush with
  | succeeds ready =>
      exact ⟨rfl, rfl, Nat.le_max_left _ _, hwait (Nat.min_le_right _ _), .inl rfl⟩
  | stalls => exact ⟨rfl, rfl, Nat.le_max_left _ _, hwait (Nat.le_refl _), .inl rfl⟩
  | fails ready =>
      simp only
      split
      next hready =>
        -- the failure comes in time: the only end that is an error
        have htime : ready ≤ deadline := by
          unfold InTime at hready
          omega
        exact ⟨rfl, rfl, Nat.le_max_left _ _, hwait htime, .inr ⟨rfl, ready, hflush⟩⟩
      · exact ⟨rfl, rfl, Nat.le_max_left _ _, hwait (Nat.le_refl _), .inl rfl⟩

/-- A writer that is not ready is not waited for any more. -/
theorem Flushed.blocked {result : Except LinkError Unit} (h : Flushed deadline port next result)
    (hblocked : port.Blocked deadline) : next.Blocked deadline := by
  obtain ⟨hnow, turn, writer, hwriter, hlate⟩ := hblocked
  have hlater := h.now_le
  have hdeadline := h.inTime
  exact ⟨by omega, turn, writer, h.writer.trans hwriter, hlate⟩

/-! ## The whole of it -/

/-- What a sending that makes the writes `ends` has come to. -/
structure Accounts (port : SerialPort) (data : Bytes) (deadline : Nat) (ends : List WriteEnd)
    (after : SerialPort) (result : Except LinkError Nat) : Prop where
  /-- The writer took the first bytes of the data, as many as its writes say. -/
  accepted : after.accepted = port.accepted ++ data.take (totalTaken ends)
  accepted_le : totalTaken ends ≤ data.length
  /-- All bytes that were taken are reported.  They are not all of the data only if the deadline has
  passed and the writer was not ready for more by then. -/
  sent : ∀ count, result = .ok count → 1 ≤ count ∧ count = totalTaken ends ∧
    (count < data.length → .expired ∈ ends ∧ after.Blocked deadline)
  timeout : result = .error .timeout → totalTaken ends = 0
  failed : .failed ∈ ends → result = .error .driver
  refused : .accepted 0 ∈ ends → result = .error .failure
  /-- A write that took nothing is the last one. -/
  final : ∀ before ending later, ends = before ++ ending :: later → ending.taken = 0 → later = []
  /-- If every write took something, all of the data is sent, unless they could not be flushed. -/
  whole : (∀ ending ∈ ends, 0 < ending.taken) → result = .ok data.length ∨
    result = .error .driver ∧ ∃ ready, port.flush = .fails ready
  now_le : port.now ≤ after.now
  inTime : after.now ≤ deadline
  bounded : ends.length ≤ data.length

namespace Writes

variable (h : Writes deadline port data ends last) (hnow : port.now ≤ deadline)
include h hnow

/-- A sending of which the last write failed or was refused. -/
theorem accounts_of_error {cause : LinkError} (hverdict : verdict ends = .error cause) :
    Accounts port data deadline ends last (.error cause) := by
  obtain ⟨haccepted, hle⟩ := h.takes_prefix hnow
  obtain ⟨hlater, hdeadline, -⟩ := h.inTime hnow
  obtain ⟨⟨ending, hmem, htaken⟩, hcause⟩ := cause_of_verdict hverdict
  refine ⟨haccepted, hle, nofun, ?_, ?_, ?_, fun _ _ _ => h.eq_nil_of_taken, ?_, hlater, hdeadline,
    h.length_le hnow⟩
  · intro htimeout
    exact absurd (Except.error.inj htimeout) hcause
  · intro hfailed
    rw [← hverdict, h.verdict_of_failed hfailed]
  · intro hrefused
    rw [← hverdict, h.verdict_of_refused hrefused]
  · intro hall
    have hsome := hall ending hmem
    omega

/-- A sending for which nothing was taken in time. -/
theorem accounts_of_none (hdata : data ≠ []) (hverdict : verdict ends = .ok 0) :
    Accounts port data deadline ends last (.error .timeout) := by
  obtain ⟨haccepted, hle⟩ := h.takes_prefix hnow
  obtain ⟨hlater, hdeadline, -⟩ := h.inTime hnow
  have hnone : totalTaken ends = 0 := (eq_totalTaken_of_verdict hverdict).symm
  have hsome : 0 < data.length := List.length_pos_iff.mpr hdata
  refine ⟨haccepted, hle, nofun, fun _ => hnone, ?_, ?_, fun _ _ _ => h.eq_nil_of_taken, ?_, hlater,
    hdeadline, h.length_le hnow⟩
  · intro hfailed
    rw [h.verdict_of_failed hfailed] at hverdict
    cases hverdict
  · intro hrefused
    rw [h.verdict_of_refused hrefused] at hverdict
    cases hverdict
  · -- if every write took something, all of the data was taken, and there is some
    intro hall
    have hwhole := h.totalTaken_eq hnow hall
    omega

/-- A sending for which something was taken, up to its flush. -/
theorem accounts_of_some {sent : Nat} (hverdict : verdict ends = .ok (sent + 1)) {after : SerialPort}
    {result : Except LinkError Unit} (hflushed : Flushed deadline last after result) :
    Accounts port data deadline ends after (result.map fun _ => sent + 1) := by
  obtain ⟨haccepted, hle⟩ := h.takes_prefix hnow
  obtain ⟨hlater, -, hflush⟩ := h.inTime hnow
  have htotal : sent + 1 = totalTaken ends := eq_totalTaken_of_verdict hverdict
  refine ⟨hflushed.accepted.trans haccepted, hle, ?_, ?_, ?_, ?_, fun _ _ _ => h.eq_nil_of_taken, ?_,
    Nat.le_trans hlater hflushed.now_le, hflushed.inTime, h.length_le hnow⟩
  · -- a count: it is short of the data only if the last write was given up
    intro count hcount
    rcases hflushed.result with rfl | ⟨rfl, -⟩
    · obtain rfl : sent + 1 = count := Except.ok.inj hcount
      refine ⟨by omega, htotal, fun hshort => ?_⟩
      rcases h.short hnow (by omega) with hlast | hlast | ⟨hlast, hblocked⟩
      · rw [h.verdict_of_failed (List.mem_of_getLast? hlast)] at hverdict
        cases hverdict
      · rw [h.verdict_of_refused (List.mem_of_getLast? hlast)] at hverdict
        cases hverdict
      · exact ⟨List.mem_of_getLast? hlast, hflushed.blocked hblocked⟩
    · cases hcount
  · intro htimeout
    rcases hflushed.result with rfl | ⟨rfl, -⟩ <;> cases htimeout
  · intro hfailed
    rw [h.verdict_of_failed hfailed] at hverdict
    cases hverdict
  · intro hrefused
    rw [h.verdict_of_refused hrefused] at hverdict
    cases hverdict
  · intro hall
    have hwhole := h.totalTaken_eq hnow hall
    rcases hflushed.result with rfl | ⟨rfl, ready, hready⟩
    · exact .inl (congrArg Except.ok (htotal.trans hwhole))
    · exact .inr ⟨rfl, ready, hflush.symm.trans hready⟩

end Writes

section

variable (hopen : port.isOpen = true) (hdata : data ≠ []) {timeout : Nat}
include hopen hdata

theorem send_of_error {cause : LinkError}
    (h : writeAll (port.now + timeout) data.length port data 0 = (last, .error cause)) :
    port.send data timeout = (last, .error cause) := by
  simp [send, hopen, hdata, h]

theorem send_of_none (h : writeAll (port.now + timeout) data.length port data 0 = (last, .ok 0)) :
    port.send data timeout = (last, .error .timeout) := by
  simp [send, hopen, hdata, h]

theorem send_of_some {sent : Nat}
    (h : writeAll (port.now + timeout) data.length port data 0 = (last, .ok (sent + 1))) :
    port.send data timeout = ((last.flushUntil (port.now + timeout)).1,
      (last.flushUntil (port.now + timeout)).2.map fun _ => sent + 1) := by
  generalize hflush : last.flushUntil (port.now + timeout) = flushed
  obtain ⟨after, cause | done⟩ := flushed <;> simp [send, hopen, hdata, h, hflush, Except.map]

end

/-- An open port sends data in writes of which each takes some more, up to one that fails, takes
nothing or is given up at the deadline.  It reports what they took, or why it cannot. -/
theorem send_accounts (hopen : port.isOpen = true) (hdata : data ≠ []) (timeout : Nat) :
    ∃ ends last, Writes (port.now + timeout) port data ends last ∧
      Accounts port data (port.now + timeout) ends (port.send data timeout).1
        (port.send data timeout).2 := by
  have hnow : port.now ≤ port.now + timeout := Nat.le_add_right _ _
  obtain ⟨ends, hwrites, hverdict⟩ := exists_writes hnow (Nat.le_refl data.length) 0
  generalize hresult : writeAll (port.now + timeout) data.length port data 0 = result at *
  obtain ⟨last, answer⟩ := result
  have hanswer : verdict ends = answer := by
    rw [show answer = (verdict ends).map (0 + ·) from hverdict]
    cases verdict ends with
    | error cause => rfl
    | ok total => exact congrArg Except.ok (Nat.zero_add total).symm
  obtain ⟨-, hdeadline, -⟩ := hwrites.inTime hnow
  refine ⟨ends, last, hwrites, ?_⟩
  -- the three ends of a sending, by what the writes came to
  match answer with
  | .error cause =>
      rw [send_of_error hopen hdata hresult]
      exact hwrites.accounts_of_error hnow hanswer
  | .ok 0 =>
      rw [send_of_none hopen hdata hresult]
      exact hwrites.accounts_of_none hnow hdata hanswer
  | .ok (sent + 1) =>
      rw [send_of_some hopen hdata hresult]
      exact hwrites.accounts_of_some hnow hanswer (flushed_flushUntil hdeadline)

/-- A writer that takes one byte and then two, and is not ready again in time. -/
theorem send_accounts_deadline :
    let port := (initial [] [⟨0, some 1⟩, ⟨5, some 2⟩, ⟨50, some 9⟩] .succeeds).openPort.1
    (∃ ends last, Writes 20 port [65, 66, 67, 68, 69] ends last ∧
      Accounts port [65, 66, 67, 68, 69] 20 ends (port.send [65, 66, 67, 68, 69] 20).1
        (port.send [65, 66, 67, 68, 69] 20).2) ∧
    (port.send [65, 66, 67, 68, 69] 20).2 = .ok 3 ∧
    (port.send [65, 66, 67, 68, 69] 20).1.now = 20 := by
  intro port
  have hopen : port.isOpen = true := rfl
  have hdata : ([65, 66, 67, 68, 69] : Bytes) ≠ [] := List.cons_ne_nil _ _
  exact ⟨send_accounts hopen hdata 20, rfl, rfl⟩

end ModemLink.SerialPort
