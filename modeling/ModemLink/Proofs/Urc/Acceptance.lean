import ModemLink.Bg96.Tokens
import ModemLink.Proofs.Engine.Handling
import ModemLink.Proofs.Socket.Operations

/-!
# Unsolicited lines are taken or handed on

The handler of an unsolicited line takes it, or refuses it and has changed nothing by then.  So a
line that ends up with the generic listener has no other trace.

* `Device.Reacts` says this of the result of a handler, and `Bg96.reacts_of_mem` proves it for every
  handler of the BG96.
* `Bg96.dispatch_takes_or_hands_on` is what follows for the dispatcher, and for the receive loop that
  calls it.

The handlers are taken apart along the data that they work on: what a registration report, a socket
event or a lost context does to a device comes first, and the parsers of the BG96 rest on that.
-/

namespace ModemLink

/-- The line that a notice is about, if it is for the generic listener. -/
def Notice.line? : Notice → Option Text
  | line text => some text
  | _ => none

namespace Device

variable {device : Device}

/-- The lines that the generic listener was given. -/
def genericLines (device : Device) : List Text := device.notices.filterMap Notice.line?

/-- What a handler may do: take the line without the help of the generic listener, or refuse it and
leave everything as it was. -/
inductive Reacts (device : Device) : Device × Except TextError Unit → Prop
  | takes {later : Device} (hlines : later.genericLines = device.genericLines) :
      Reacts device (later, .ok ())
  | refuses (failure : TextError) : Reacts device (device, .error failure)

theorem genericLines_notify {notice : Notice} (h : notice.line? = none) (device : Device) :
    (device.notify notice).genericLines = device.genericLines := by
  unfold notify genericLines
  split
  · simp [List.filterMap_append, h]
  · rfl

/-! ## What handlers do to a device -/

/-- A malformed report leaves the registration as it was. -/
theorem reacts_applyRegistration (device : Device) (report : Registration.Report) (payload : Text)
    (unsolicited : Bool) :
    device.Reacts (device.applyRegistration report payload unsolicited) := by
  unfold applyRegistration Registration.Tracker.update
  cases device.registration.apply report payload unsolicited with
  | error failure => exact .refuses failure
  | ok next =>
      simp only
      split
      next heq => cases heq
      · exact .takes rfl
      · exact .takes (genericLines_notify rfl _)

theorem reacts_modemEvent (device : Device) (event : ModemEvent) :
    device.Reacts (device.modemEvent event, .ok ()) := by
  cases event <;> exact .takes (genericLines_notify rfl _)

theorem reacts_signalChanged (device : Device) (signal : Signal) :
    device.Reacts (device.signalChanged signal, .ok ()) :=
  .takes (genericLines_notify rfl _)

/-- A context that does not exist cannot be lost. -/
theorem reacts_contextDeactivated (device : Device) (id : Nat) :
    device.Reacts (device.contextDeactivated id) := by
  unfold contextDeactivated Pdn.Table.setInactive Pdn.Table.change
  cases device.pdn.get? id with
  | none => exact .refuses .badParameter
  | some context =>
      simp only
      split
      · unfold contextNotice
        split
        · exact .takes (genericLines_notify rfl _)
        · exact .takes rfl
      · exact .takes rfl

end Device

/-! ## The handlers of the BG96 -/

namespace Bg96

open Device

variable (device : Device) (payload : Text)

/-- An event that the socket does not accept leaves it as it was. -/
theorem reacts_socketReport (handle : SocketHandle) (event : SocketEvent) :
    device.Reacts (socketReport device handle event) := by
  unfold socketReport
  rcases socketEvent_cases device handle event with
    ⟨failure, hrefused⟩ | ⟨socket, state, notice, hsocket, hnext⟩
  · rw [hrefused]
    exact .refuses .malformed
  · rw [socketEvent_of_ok hsocket hnext]
    refine .takes ?_
    cases notice.filter socket.listeners.wants <;>
      simp [genericLines, List.filterMap_append, Notice.line?]

theorem reacts_signalReport (fields : Text) : device.Reacts (signalReport device fields) := by
  unfold signalReport
  simp only
  split
  next failure _ => exact .refuses failure
  next rssi ber _ => exact reacts_signalChanged device _

theorem reacts_indication : device.Reacts (indication device payload) := by
  unfold indication
  split
  next failure _ => exact .refuses failure
  next kind fields _ =>
    split
    · exact reacts_signalReport device fields
    · exact .takes rfl

theorem reacts_openReport : device.Reacts (openReport device payload) := by
  unfold openReport
  simp only
  split
  next failure _ => exact .refuses failure
  next handle failure _ => exact reacts_socketReport device handle _

theorem reacts_connectionReport : device.Reacts (connectionReport device payload) := by
  unfold connectionReport
  split
  next failure _ => exact .refuses failure
  next name fields _ =>
    split
    · exact .takes rfl
    next kind _ =>
      split
      next failure _ => exact .refuses failure
      next id _ =>
        cases kind with
        | received => exact reacts_socketReport device id .dataReady
        | closed => exact reacts_socketReport device id .remoteClosed
        | deactivated => exact reacts_contextDeactivated device id

/-- Every handler of the table takes a line or refuses it without a trace. -/
theorem reacts_of_mem {entry : UrcEntry UrcHandler} {handler : UrcHandler}
    (hentry : entry ∈ tokenTable.urcs) (hhandler : entry.handler = some handler) :
    device.Reacts (handler device payload) := by
  simp only [tokenTable, List.mem_toArray, List.mem_cons, List.not_mem_nil, or_false] at hentry
  rcases hentry with rfl | rfl | rfl | rfl | rfl | rfl | rfl | rfl | rfl <;> cases hhandler
  · exact reacts_applyRegistration device .cereg payload true
  · exact reacts_applyRegistration device .cgreg payload true
  · exact reacts_applyRegistration device .creg payload true
  · exact reacts_modemEvent device .poweredDown
  · exact reacts_modemEvent device .enteredPowerSaving
  · exact reacts_indication device payload
  · exact reacts_openReport device payload
  · exact reacts_connectionReport device payload
  · exact reacts_modemEvent device .started

end Bg96

/-! ## The dispatcher -/

/-- What is found in a token table belongs to it. -/
theorem TokenTable.mem_of_find? {Handler : Type} {table : TokenTable Handler} {token : Text}
    {entry : UrcEntry Handler} (h : table.find? token = some entry) :
    entry ∈ table.urcs ∧ entry.token = token := by
  unfold find? at h
  obtain ⟨hplace, htoken⟩ := Option.filter_eq_some_iff.mp h
  exact ⟨Array.mem_of_getElem? hplace, of_decide_eq_true htoken⟩

namespace Device

variable {table : TokenTable UrcHandler} {device later : Device} {line : Text}

/-- The handler that the table has for a line takes it. -/
def Takes (table : TokenTable UrcHandler) (device : Device) (line : Text) (later : Device) : Prop :=
  ∃ entry handler, table.find? line.urcToken.1 = some entry ∧ entry.handler = some handler ∧
    handler device line.urcToken.2 = (later, .ok ())

theorem dispatch_of_takes (h : device.Takes table line later) :
    device.dispatch table line = later := by
  obtain ⟨entry, handler, hfind, hhandler, hresult⟩ := h
  simp only [dispatch, hfind, handleUrc, hhandler, hresult]

/-- All handlers of a table take a line or refuse it without a trace. -/
def AllReact (table : TokenTable UrcHandler) : Prop :=
  ∀ entry ∈ table.urcs, ∀ handler, entry.handler = some handler →
    ∀ device payload, Reacts device (handler device payload)

theorem genericLines_of_takes (hreacts : AllReact table) (h : device.Takes table line later) :
    later.genericLines = device.genericLines := by
  obtain ⟨entry, handler, hfind, hhandler, hresult⟩ := h
  have hhandled := hreacts entry (TokenTable.mem_of_find? hfind).1 handler hhandler device
    line.urcToken.2
  rw [hresult] at hhandled
  cases hhandled with
  | takes hlines => exact hlines

/-- A line that no handler takes is handed on, and nothing else happens. -/
theorem dispatch_of_not_takes (hreacts : AllReact table)
    (h : ∀ later, ¬ device.Takes table line later) :
    device.dispatch table line = device.genericLine line := by
  unfold dispatch
  simp only
  split
  · rfl
  next entry hfind =>
    cases hhandler : entry.handler with
    | none => simp only [handleUrc, hhandler]
    | some handler =>
        -- the handler refuses the line, and so without a trace
        have hhandled := hreacts entry (TokenTable.mem_of_find? hfind).1 handler hhandler device
          line.urcToken.2
        simp only [handleUrc, hhandler]
        generalize hresult : handler device line.urcToken.2 = result at hhandled
        cases hhandled with
        | takes hlines => exact absurd ⟨entry, handler, hfind, hhandler, hresult⟩ (h _)
        | refuses failure => rfl

/-- The dispatcher has a handler take the line, or hands it on. -/
theorem dispatch_cases (hreacts : AllReact table) (device : Device) (line : Text) :
    device.Takes table line (device.dispatch table line) ∧
        (device.dispatch table line).genericLines = device.genericLines ∨
      (∀ later, ¬ device.Takes table line later) ∧
        device.dispatch table line = device.genericLine line := by
  by_cases htakes : ∃ later, device.Takes table line later
  · obtain ⟨later, hlater⟩ := htakes
    rw [dispatch_of_takes hlater]
    exact .inl ⟨hlater, genericLines_of_takes hreacts hlater⟩
  · have hnone := not_exists.mp htakes
    exact .inr ⟨hnone, dispatch_of_not_takes hreacts hnone⟩

theorem genericLine_eq (device : Device) (line : Text) :
    device.genericLine line = { device with
      notices := device.notices ++ if device.listeners.line then [.line line] else [] } := by
  show (if device.listeners.line then _ else device) = _
  split
  · rfl
  · rw [List.append_nil]

end Device

namespace Bg96

/-- A line that is dispatched is taken by its handler, and then the generic listener is told nothing;
or no handler takes it, and then all that happens is that the generic listener is given the line, if
there is one.  Either way nothing but the device changes, whatever request is in flight. -/
theorem dispatch_takes_or_hands_on (engine : Engine) (line : Text) :
    let device := engine.device
    let later := device.dispatch tokenTable line
    (device.Takes tokenTable line later ∧ later.genericLines = device.genericLines ∨
      (∀ other, ¬ device.Takes tokenTable line other) ∧
        later = { device with
          notices := device.notices ++ if device.listeners.line then [.line line] else [] }) ∧
    (LineRole.of tokenTable engine.exchange.inFlight line ≠ .solicited →
      engine.handleLine tokenTable line = { engine with device := later }) := by
  intro device later
  have hreacts : Device.AllReact tokenTable := fun _ hentry _ hhandler device payload =>
    reacts_of_mem device payload hentry hhandler
  refine ⟨?_, Engine.handleLine_of_ne_solicited⟩
  rcases Device.dispatch_cases hreacts device line with htaken | ⟨hnone, hlater⟩
  · exact .inl htaken
  · exact .inr ⟨hnone, hlater.trans (Device.genericLine_eq device line)⟩

/-- While a command is in flight, a close is reported for a socket that there is not. -/
theorem dispatch_takes_or_hands_on_unknownSocket :
    let inFlight : InFlight :=
      { kind := .noResult, label := none, hooks := .none, successTokens := [] }
    let engine : Engine := { Engine.initial {} with exchange := Exchange.idle.start inFlight }
    let line : Text := "+QIURC: \"closed\",7"
    LineRole.of tokenTable engine.exchange.inFlight line ≠ .solicited ∧
      engine.handleLine tokenTable line =
        { engine with device := { engine.device with notices := [.line line] } } := by
  intro inFlight engine line
  have hrole : LineRole.of tokenTable engine.exchange.inFlight line ≠ .solicited := by decide
  refine ⟨hrole, ((dispatch_takes_or_hands_on engine line).2 hrole).trans ?_⟩
  have hdevice : engine.device.dispatch tokenTable line =
      { engine.device with notices := [.line line] } := by decide +kernel
  rw [hdevice]

end Bg96

end ModemLink
