import ModemLink.Bg96.Tokens
import ModemLink.Proofs.Registration.Reports

/-!
# Quotes and blanks mean nothing

Modems differ in where they put quotes and blanks.  Payloads that differ in nothing else are read
alike (`Text.Alike`): by the tracker of the registration, and by every handler of the BG96
(`Bg96.handles_alike`), down to the notices that are sent and the errors that are returned.

Each reader drops quotes and blanks with bounds and checks of its own.  What makes the readers agree
is that they refuse empty text in the end, in the same way as text in which nothing is left
(`Text.compact_bind`).
-/

namespace ModemLink

namespace Text

/-- Two texts that a line has room for, and that are the same but for their quotes and blanks. -/
structure Alike (s t : Text) : Prop where
  fits : s.size ≤ Limits.line
  fitsOther : t.size ≤ Limits.line
  bare : s.bare = t.bare

variable {s t : Text}

/-- A reader that refuses empty text reads both texts alike. -/
theorem Alike.read {α : Type} {read : Text → Except TextError α} (h : Alike s t)
    (hnil : read [] = .error .badParameter) : s.compact >>= read = t.compact >>= read := by
  rw [compact_bind hnil h.fits, compact_bind hnil h.fitsOther, filter_counts, filter_counts, h.bare]

theorem Alike.takeField (h : Alike s t) :
    s.compact.bind Text.takeField = t.compact.bind Text.takeField := h.read rfl

end Text

variable {p q : Text}

theorem Registration.Tracker.update_alike (h : Text.Alike p q) (tracker : Tracker)
    (report : Report) (unsolicited : Bool) :
    tracker.update report p unsolicited = tracker.update report q unsolicited := by
  have happly : tracker.apply report p unsolicited = tracker.apply report q unsolicited := by
    rw [apply_eq tracker report h.fits, apply_eq tracker report h.fitsOther, Text.filter_counts,
      Text.filter_counts, h.bare]
  unfold update
  rw [happly]

theorem Urc.registration_alike (h : Text.Alike p q) (report : Registration.Report)
    (device : Device) : registration report device p = registration report device q := by
  unfold registration Device.applyRegistration
  rw [Registration.Tracker.update_alike h]

namespace Bg96

theorem indication_alike (h : Text.Alike p q) (device : Device) :
    indication device p = indication device q := by
  unfold indication
  rw [h.takeField]

/-- The socket and the error number of an open report. -/
def readOpened (fields : Text) : Except TextError (Nat × Nat) := do
  let (handle, rest) ← fields.takeField
  let handle ← handle.toWord 8 10
  let (failure, _) ← rest.takeField
  return (handle, ← failure.toWord 16 10)

theorem openReport_eq (device : Device) (payload : Text) :
    openReport device payload =
      match payload.compact >>= readOpened with
      | .error failure => (device, .error failure)
      | .ok (handle, failure) =>
          socketReport device handle (if failure = 0 then .opened else .openFailed) := rfl

theorem openReport_alike (h : Text.Alike p q) (device : Device) :
    openReport device p = openReport device q := by
  rw [openReport_eq, openReport_eq, h.read rfl]

theorem connectionReport_alike (h : Text.Alike p q) (device : Device) :
    connectionReport device p = connectionReport device q := by
  unfold connectionReport
  rw [h.takeField]

/-- No handler of the table looks at quotes and blanks. -/
theorem handler_alike (h : Text.Alike p q) {entry : UrcEntry UrcHandler} {handler : UrcHandler}
    (hentry : entry ∈ tokenTable.urcs) (hhandler : entry.handler = some handler)
    (device : Device) : handler device p = handler device q := by
  simp only [tokenTable, List.mem_toArray, List.mem_cons, List.not_mem_nil, or_false] at hentry
  rcases hentry with rfl | rfl | rfl | rfl | rfl | rfl | rfl | rfl | rfl <;> cases hhandler
  · exact Urc.registration_alike h .cereg device
  · exact Urc.registration_alike h .cgreg device
  · exact Urc.registration_alike h .creg device
  · rfl
  · rfl
  · exact indication_alike h device
  · exact openReport_alike h device
  · exact connectionReport_alike h device
  · rfl

/-- Of payloads that are the same but for quotes and blanks the tracker makes the same, however the
report came, and so do the handlers for signal, open requests and connections, and with them all
handlers of the table: the same result, the same device, and the same notices. -/
theorem handles_alike (h : Text.Alike p q) :
    (∀ (tracker : Registration.Tracker) (report : Registration.Report) (unsolicited : Bool),
      tracker.update report p unsolicited = tracker.update report q unsolicited) ∧
    (∀ device : Device, indication device p = indication device q ∧
      openReport device p = openReport device q ∧
      connectionReport device p = connectionReport device q) ∧
    ∀ entry ∈ tokenTable.urcs, ∀ handler, entry.handler = some handler →
      ∀ device : Device, handler device p = handler device q :=
  ⟨Registration.Tracker.update_alike h,
    fun device =>
      ⟨indication_alike h device, openReport_alike h device, connectionReport_alike h device⟩,
    fun _ hentry _ hhandler => handler_alike h hentry hhandler⟩

/-- A context is lost, and someone listens for that.  The report has blanks and quotes in odd
places. -/
theorem handles_alike_deactivated :
    let device : Device := { Device.initial {} with pdn := (Pdn.Table.initial.setActive 3 none).1 }
    let odd : Text := " \"pdp\" deact\"\t, \"3 "
    let plain : Text := "pdpdeact,3"
    Text.Alike odd plain ∧ connectionReport device odd = connectionReport device plain ∧
      (connectionReport device plain).1.notices = [.context false 3 .inactive] := by
  intro device odd plain
  have halike : Text.Alike odd plain := ⟨by decide, by decide, by decide⟩
  exact ⟨halike, ((handles_alike halike).2.1 device).2.2, by decide +kernel⟩

end Bg96

end ModemLink
