import ModemLink.Proofs.Urc.Acceptance

/-!
# What unsolicited lines do to the device

Handlers have a few operations of the device at hand (`Device.Permits` names them, but for the end
of a context), and each handler of the BG96 uses at most one of them.  So whatever these operations
keep, every handler keeps (`Bg96.allDo`), and with the listener for lines so does the dispatcher
(`Device.dispatch_does`).  Most of the operations have to do with neither sockets nor contexts
(`Device.Allows`).

A context is ended by one kind of line only, and by that one it is named (`Bg96.endedContext?`).
So the dispatcher does to the other contexts what the other operations do (`Bg96.dispatch_does`).
-/

namespace ModemLink

/-- What the modem or the link does to a socket, and not a user. -/
def SocketEvent.isReport : SocketEvent → Bool
  | openRequested | closeRequested => false
  | opened | openFailed | dataReady | closed | remoteClosed | linkFailed => true

/-- The notice is about neither a socket nor a context. -/
def Notice.isGeneral : Notice → Bool
  | registration .. | signal _ | modem _ | line _ => true
  | context .. | socket .. => false

namespace Device

variable {R : Device → Device → Prop} {table : TokenTable UrcHandler} {line : Text}

/-- `R` allows what a handler may do, but for the end of a context. -/
structure Permits (R : Device → Device → Prop) : Prop where
  refl : ∀ device, R device device
  registration : ∀ (device : Device) report payload,
    R device (device.applyRegistration report payload true).1
  modem : ∀ (device : Device) event, R device (device.modemEvent event)
  signal : ∀ (device : Device) signal, R device (device.signalChanged signal)
  socket : ∀ (device : Device) handle event, event.isReport = true →
    R device (device.socketEvent handle event).1

theorem Permits.mono {S : Device → Device → Prop} (h : Permits R)
    (hle : ∀ {before after}, R before after → S before after) : Permits S where
  refl device := hle (h.refl device)
  registration device report payload := hle (h.registration device report payload)
  modem device event := hle (h.modem device event)
  signal device signal := hle (h.signal device signal)
  socket device handle event hreport := hle (h.socket device handle event hreport)

/-- `R` allows what has to do with neither sockets nor contexts. -/
structure Allows (R : Device → Device → Prop) : Prop where
  trans : ∀ {first second third}, R first second → R second third → R first third
  registration : ∀ (device : Device) tracker, R device { device with registration := tracker }
  signal : ∀ (device : Device) signal, R device { device with signal := signal }
  notify : ∀ (device : Device) {notice : Notice}, notice.isGeneral = true →
    R device (device.notify notice)

namespace Allows

variable (h : Allows R)
include h

theorem refl (device : Device) : R device device := h.registration device device.registration

theorem applyRegistration (device : Device) (report : Registration.Report) (payload : Text) :
    R device (device.applyRegistration report payload true).1 := by
  unfold Device.applyRegistration
  simp only
  split
  · exact h.registration device _
  · exact h.registration device _
  · exact h.trans (h.registration device _) (h.notify _ rfl)

theorem modemEvent (device : Device) (event : ModemEvent) : R device (device.modemEvent event) := by
  cases event with
  | started => exact h.trans (h.registration device .initial) (h.notify _ rfl)
  | poweredDown | enteredPowerSaving => exact h.notify device rfl

theorem signalChanged (device : Device) (signal : Signal) :
    R device (device.signalChanged signal) :=
  h.trans (h.signal device signal) (h.notify _ rfl)

theorem permits (hsocket : ∀ (device : Device) handle event, event.isReport = true →
    R device (device.socketEvent handle event).1) : Permits R where
  refl := h.refl
  registration := h.applyRegistration
  modem := h.modemEvent
  signal := h.signalChanged
  socket := hsocket

end Allows

/-- All handlers of a table change the device only as `R` allows. -/
def AllDo (R : Device → Device → Prop) (table : TokenTable UrcHandler) : Prop :=
  ∀ entry ∈ table.urcs, ∀ handler, entry.handler = some handler →
    ∀ device payload, R device (handler device payload).1

/-- What the handler of a line and the listener for lines do to the device, the dispatcher does. -/
theorem dispatch_line_does
    (htrans : ∀ {first second third}, R first second → R second third → R first third)
    (hline : ∀ device, R device (device.genericLine line))
    (h : ∀ entry handler, table.find? line.urcToken.1 = some entry → entry.handler = some handler →
      ∀ device, R device (handler device line.urcToken.2).1) (device : Device) :
    R device (device.dispatch table line) := by
  unfold dispatch
  simp only
  split
  · exact hline device
  next entry hfind =>
    cases hhandler : entry.handler with
    | none =>
        simp only [handleUrc, hhandler]
        exact hline device
    | some handler =>
        -- the line is taken, or it is refused and handed on after that
        have hhandled := h entry handler hfind hhandler device
        simp only [handleUrc, hhandler]
        split
        next later heq =>
          rw [heq] at hhandled
          exact hhandled
        next later failure heq =>
          rw [heq] at hhandled
          exact htrans hhandled (hline later)

/-- What all handlers and the listener for lines do to the device, the dispatcher does. -/
theorem dispatch_does
    (htrans : ∀ {first second third}, R first second → R second third → R first third)
    (hline : ∀ device, R device (device.genericLine line)) (h : AllDo R table) (device : Device) :
    R device (device.dispatch table line) := by
  refine dispatch_line_does (R := R) htrans hline ?_ device
  intro entry handler hfind hhandler device
  exact h entry (TokenTable.mem_of_find? hfind).1 handler hhandler device line.urcToken.2

end Device

namespace Bg96

open Device

variable {R : Device → Device → Prop} {device : Device} {payload line : Text}

/-- The context that the payload of `+QIURC` declares to be ended. -/
def deactivated? (payload : Text) : Option Nat :=
  match payload.compact.bind Text.takeField with
  | .error _ => none
  | .ok (name, fields) =>
      if ConnectionReport.ofName? name = some .deactivated then
        (fields.takeField.bind fun field => field.1.toWord 8 10).toOption
      else none

/-- The context whose end a line reports: `+QIURC: "pdpdeact",<context>`. -/
def endedContext? (line : Text) : Option Nat :=
  if line.urcToken.1 = "QIURC".toList then deactivated? line.urcToken.2 else none

theorem socketReport_does (h : Permits R) (handle : SocketHandle) {event : SocketEvent}
    (hreport : event.isReport = true) : R device (socketReport device handle event).1 := by
  have hevent := h.socket device handle event hreport
  unfold socketReport
  split <;> simpa [*] using hevent

theorem signalReport_does (h : Permits R) (fields : Text) :
    R device (signalReport device fields).1 := by
  unfold signalReport
  simp only
  split
  · exact h.refl device
  · exact h.signal device _

theorem indication_does (h : Permits R) : R device (indication device payload).1 := by
  unfold indication
  split
  · exact h.refl device
  · split
    · exact signalReport_does h _
    · exact h.refl device

theorem openReport_does (h : Permits R) : R device (openReport device payload).1 := by
  unfold openReport
  simp only
  split
  · exact h.refl device
  · refine socketReport_does h _ ?_
    split <;> rfl

theorem connectionReport_does (h : Permits R)
    (hended : ∀ id, deactivated? payload = some id → R device (device.contextDeactivated id).1) :
    R device (connectionReport device payload).1 := by
  unfold connectionReport
  split
  · exact h.refl device
  next name fields hpayload =>
    split
    · exact h.refl device
    next kind hkind =>
      split
      · exact h.refl device
      next id hid =>
        cases kind with
        | received | closed => exact socketReport_does h _ rfl
        | deactivated =>
            -- the payload was read as the end of this very context
            refine hended id ?_
            simp only [deactivated?, hpayload, hkind, hid, if_true]
            rfl

/-- A handler of the table does what handlers may do. -/
theorem handler_does (h : Permits R) {entry : UrcEntry UrcHandler} {handler : UrcHandler}
    (hentry : entry ∈ tokenTable.urcs) (hhandler : entry.handler = some handler)
    (hended : entry.token = "QIURC".toList → ∀ id, deactivated? payload = some id →
      R device (device.contextDeactivated id).1) : R device (handler device payload).1 := by
  simp only [tokenTable, List.mem_toArray, List.mem_cons, List.not_mem_nil, or_false] at hentry
  rcases hentry with rfl | rfl | rfl | rfl | rfl | rfl | rfl | rfl | rfl <;> cases hhandler
  · exact h.registration device .cereg payload
  · exact h.registration device .cgreg payload
  · exact h.registration device .creg payload
  · exact h.modem device .poweredDown
  · exact h.modem device .enteredPowerSaving
  · exact indication_does h
  · exact openReport_does h
  · exact connectionReport_does h (hended rfl)
  · exact h.modem device .started

theorem allDo (h : Permits R)
    (hended : ∀ (device : Device) id, R device (device.contextDeactivated id).1) :
    AllDo R tokenTable :=
  fun _ hentry _ hhandler device _ => handler_does h hentry hhandler fun _ id _ => hended device id

/-- Of the ends of contexts, a line causes only the one that it reports. -/
theorem dispatch_does (h : Permits R)
    (htrans : ∀ {first second third}, R first second → R second third → R first third)
    (hline : ∀ device, R device (device.genericLine line))
    (hended : ∀ id, endedContext? line = some id →
      ∀ device : Device, R device (device.contextDeactivated id).1) (device : Device) :
    R device (device.dispatch tokenTable line) := by
  refine dispatch_line_does (R := R) htrans hline ?_ device
  intro entry handler hfind hhandler device
  obtain ⟨hentry, htoken⟩ := TokenTable.mem_of_find? hfind
  refine handler_does h hentry hhandler fun hname id hid => hended id ?_ device
  rw [endedContext?, if_pos (htoken.symm.trans hname), hid]

end Bg96

end ModemLink
