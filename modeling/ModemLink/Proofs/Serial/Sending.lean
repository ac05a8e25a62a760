import ModemLink.SerialPort

/-!
# What a port accepts

However a writer behaves, what a port accepts of the data that it is sent is a prefix of them, and it
reports the whole number of bytes if it reports success at all (`SerialPort.accepts_send`).
-/

namespace ModemLink.SerialPort

/-- Everything that the writer accepted. -/
def accepted (port : SerialPort) : Bytes := port.written.flatten

/-- A port accepts the first bytes of `data`, and where it reports a number of bytes, beyond `sent`
earlier ones, these are all that it accepted. -/
def Accepts (before : SerialPort) (data : Bytes) (sent : Nat)
    (after : SerialPort × Except LinkError Nat) : Prop :=
  ∃ count ≤ data.length, after.1.accepted = before.accepted ++ data.take count ∧
    ∀ total, after.2 = .ok total → total = sent + count

theorem Accepts.nothing {before after : SerialPort} (data : Bytes) (sent : Nat)
    (h : after.accepted = before.accepted) (answer : Except LinkError Nat)
    (hanswer : ∀ total, answer = .ok total → total = sent) :
    Accepts before data sent (after, answer) :=
  ⟨0, Nat.zero_le _, by simpa using h, hanswer⟩

/-- What a single write does. -/
theorem write_cases (port : SerialPort) (deadline : Nat) (data : Bytes) :
    (∃ count ≤ data.length, (port.write deadline data).2 = .accepted count ∧
        (port.write deadline data).1.accepted = port.accepted ++ data.take count) ∨
      ((port.write deadline data).2 = .failed ∨ (port.write deadline data).2 = .expired) ∧
        (port.write deadline data).1.accepted = port.accepted := by
  unfold write accepted
  cases port.writer with
  | nil => exact .inl ⟨data.length, Nat.le_refl _, rfl, by simp⟩
  | cons turn writer =>
      simp only
      split
      · cases turn.accepts with
        | none => exact .inr ⟨.inl rfl, rfl⟩
        | some limit =>
            -- a writer may take less than it could, when it is offered less
            have hcount : (data.take limit).length ≤ data.length := by
              rw [List.length_take]
              exact Nat.min_le_right _ _
            refine .inl ⟨(data.take limit).length, hcount, rfl, ?_⟩
            simp [List.flatten_append, waitUntil]
      · exact .inr ⟨.inr rfl, rfl⟩

theorem accepts_writeAll (deadline fuel : Nat) (port : SerialPort) (data : Bytes) (sent : Nat) :
    Accepts port data sent (writeAll deadline fuel port data sent) := by
  induction fuel generalizing port data sent with
  | zero => exact .nothing data sent rfl _ fun _ heq => (Except.ok.inj heq).symm
  | succ fuel ih =>
      unfold writeAll
      split
      · exact .nothing data sent rfl _ fun _ heq => (Except.ok.inj heq).symm
      · have hwrite := write_cases port deadline data
        generalize port.write deadline data = result at hwrite
        obtain ⟨next, ending⟩ := result
        -- only a write that takes some goes on; the others end with what was accepted before
        rcases hwrite with ⟨count, hcount, rfl, haccepted⟩ | ⟨rfl | rfl, haccepted⟩
        · cases count with
          | zero => exact .nothing data sent (by simpa using haccepted) _ nofun
          | succ count =>
              obtain ⟨more, hmore, hrest, htotal⟩ :=
                ih next (data.drop (count + 1)) (sent + (count + 1))
              rw [List.length_drop] at hmore
              refine ⟨count + 1 + more, by omega, hrest.trans ?_, fun total hok => ?_⟩
              · rw [show next.accepted = _ from haccepted, List.append_assoc,
                  ← List.take_add]
              · rw [htotal total hok, Nat.add_assoc]
        · exact .nothing data sent haccepted _ nofun
        · exact .nothing data sent haccepted _ fun _ heq => (Except.ok.inj heq).symm

theorem accepted_flushUntil (port : SerialPort) (deadline : Nat) :
    (port.flushUntil deadline).1.accepted = port.accepted := by
  unfold flushUntil
  split
  · rfl
  · split <;> rfl
  · rfl

/-- What a port accepts in one sending. -/
theorem accepts_send (port : SerialPort) (data : Bytes) (timeout : Nat) :
    Accepts port data 0 (port.send data timeout) := by
  unfold send
  split
  · exact .nothing data 0 rfl _ nofun
  · split
    · exact .nothing data 0 rfl _ nofun
    · have hwrite := accepts_writeAll (port.now + timeout) data.length port data 0
      simp only
      generalize writeAll (port.now + timeout) data.length port data 0 = result at hwrite
      obtain ⟨count, hcount, haccepted, htotal⟩ := hwrite
      obtain ⟨next, answer⟩ := result
      split
      next heq =>
        cases heq
        exact ⟨count, hcount, haccepted, nofun⟩
      next heq =>
        cases heq
        exact ⟨count, hcount, haccepted, nofun⟩
      next sent _ heq =>
        -- a flush accepts nothing, and may only turn the result into an error
        cases heq
        have hflushed := accepted_flushUntil next (port.now + timeout)
        generalize next.flushUntil (port.now + timeout) = flushed at hflushed
        obtain ⟨last, ending⟩ := flushed
        cases ending with
        | ok _ => exact ⟨count, hcount, hflushed.trans haccepted, htotal⟩
        | error cause => exact ⟨count, hcount, hflushed.trans haccepted, nofun⟩

end ModemLink.SerialPort
