import ModemLink.Proofs.Framing.Append

/-!
# Handling a frame

A line goes to the request in flight or to the dispatcher (`handleLine_cases`), and payload goes to
the request.  Either may end the command in flight, but no frame begins one (`inFlight_handleFrame`).
So the hooks of the receive loop stay settled (`engineReader_keepsSettled`).
-/

namespace ModemLink

/-- Without a request nothing is solicited. -/
theorem LineRole.of_none_ne_solicited {Handler : Type} (table : TokenTable Handler) (line : Text) :
    LineRole.of table none line ≠ .solicited := by
  unfold LineRole.of
  split
  · nofun
  · simp only
    split <;> nofun

namespace Exchange

/-- The command in flight is the same as before, or has ended. -/
theorem inFlight_feed (exchange : Exchange) (table : TokenTable UrcHandler) (inFlight : InFlight)
    (line : Text) :
    (exchange.feed table inFlight line).inFlight = none ∨
      (exchange.feed table inFlight line).inFlight = exchange.inFlight := by
  unfold feed
  simp only
  split
  · exact .inr rfl
  · exact .inl (inFlight_complete _ _)

theorem inFlight_receivePayload (exchange : Exchange) (data : Bytes) :
    (exchange.receivePayload data).inFlight = none ∨
      (exchange.receivePayload data).inFlight = exchange.inFlight := by
  unfold receivePayload
  split
  · exact .inr rfl
  · split
    · exact .inr rfl
    · exact .inl (inFlight_complete _ _)

end Exchange

namespace Engine

variable {table : TokenTable UrcHandler} {engine : Engine} {inFlight : InFlight} {line : Text}

/-- A line that is no part of the answer goes to the dispatcher, and to nothing else. -/
theorem handleLine_of_ne_solicited
    (h : LineRole.of table engine.exchange.inFlight line ≠ .solicited) :
    engine.handleLine table line = { engine with device := engine.device.dispatch table line } := by
  unfold handleLine
  split
  next hrole _ => exact absurd hrole h
  · rfl

/-- A part of the answer goes to the request, and to nothing else. -/
theorem handleLine_of_solicited (hflight : engine.exchange.inFlight = some inFlight)
    (h : LineRole.of table (some inFlight) line = .solicited) :
    engine.handleLine table line =
      { engine with exchange := engine.exchange.feed table inFlight line } := by
  unfold handleLine
  rw [hflight, h]

/-- Whether a line goes to the request or to the dispatcher. -/
theorem handleLine_cases (table : TokenTable UrcHandler) (engine : Engine) (line : Text) :
    LineRole.of table engine.exchange.inFlight line ≠ .solicited ∨
      ∃ inFlight, engine.exchange.inFlight = some inFlight ∧
        LineRole.of table (some inFlight) line = .solicited := by
  by_cases hrole : LineRole.of table engine.exchange.inFlight line = .solicited
  · right
    cases hflight : engine.exchange.inFlight with
    | none => exact absurd (hflight ▸ hrole) (LineRole.of_none_ne_solicited table line)
    | some inFlight => exact ⟨inFlight, rfl, hflight ▸ hrole⟩
  · exact .inl hrole

/-- A line may end a request, but it never begins one. -/
theorem inFlight_handleLine (table : TokenTable UrcHandler) (engine : Engine) (line : Text) :
    (engine.handleLine table line).exchange.inFlight = none ∨
      (engine.handleLine table line).exchange.inFlight = engine.exchange.inFlight := by
  rcases handleLine_cases table engine line with hrole | ⟨inFlight, hflight, hrole⟩
  · right
    rw [handleLine_of_ne_solicited hrole]
  · rw [handleLine_of_solicited hflight hrole]
    exact Exchange.inFlight_feed _ _ _ _

/-- A line that is text is handled as a line. -/
theorem handleFrame_line_toBytes (table : TokenTable UrcHandler) (engine : Engine) (line : Text) :
    engine.handleFrame table (.line line.toBytes) = engine.handleLine table line := by
  simp only [handleFrame, Text.ofBytes?_toBytes]

theorem inFlight_handleFrame (table : TokenTable UrcHandler) (engine : Engine) (frame : Frame) :
    (engine.handleFrame table frame).exchange.inFlight = none ∨
      (engine.handleFrame table frame).exchange.inFlight = engine.exchange.inFlight := by
  cases frame with
  | payload data => exact Exchange.inFlight_receivePayload engine.exchange data
  | line bytes =>
      unfold handleFrame
      simp only
      split
      next line _ => exact inFlight_handleLine table engine line
      · exact .inr rfl

/-! ## The device

The receive loop touches the device only through the dispatcher. -/

section

variable {R : Device → Device → Prop}

theorem device_handleFrame (hrefl : ∀ device, R device device)
    (hdispatch : ∀ device line, R device (device.dispatch table line)) (engine : Engine)
    (frame : Frame) : R engine.device (engine.handleFrame table frame).device := by
  cases frame with
  | payload data => exact hrefl engine.device
  | line bytes =>
      -- bytes that are no text are dropped, and a part of the answer goes to the request
      unfold handleFrame handleLine
      simp only
      split
      next line _ =>
        split
        · exact hrefl engine.device
        · exact hdispatch engine.device line
      · exact hrefl engine.device

theorem device_drain {profile : Profile} (hrefl : ∀ device, R device device)
    (htrans : ∀ {first second third}, R first second → R second third → R first third)
    (hdispatch : ∀ device line, R device (device.dispatch profile.table line)) (fuel : Nat)
    (engine : Engine) (buffer : ReadBuffer) :
    R engine.device (drain profile fuel engine buffer).1.device := by
  induction fuel generalizing engine buffer with
  | zero => exact hrefl engine.device
  | succ fuel ih =>
      unfold drain
      split
      · exact hrefl engine.device
      next frame rest _ => exact htrans (device_handleFrame hrefl hdispatch engine frame) (ih _ rest)

/-- What dispatching a line may do to the device, a chunk may. -/
theorem device_receive {profile : Profile} (hrefl : ∀ device, R device device)
    (htrans : ∀ {first second third}, R first second → R second third → R first third)
    (hdispatch : ∀ device line, R device (device.dispatch profile.table line)) (engine : Engine)
    (buffer : ReadBuffer) (chunk : Bytes) :
    R engine.device (engine.receive profile buffer chunk).1.device :=
  device_drain hrefl htrans hdispatch ((buffer.append chunk).bytes.length + 1) engine
    (buffer.append chunk)

end

end Engine

namespace Framing

/-- The hooks of a command in flight stay settled until it ends, and then there are none. -/
theorem engineReader_keepsSettled (table : TokenTable UrcHandler) :
    (engineReader table).KeepsSettled := by
  intro engine frame owed settled
  show (engine.handleFrame table frame).exchange.hooks.Settled
  rcases engine.inFlight_handleFrame table frame with hnone | hsame
  · rw [Exchange.hooks, hnone]
    exact Hooks.Settled.none
  · rw [Exchange.hooks, hsame]
    exact settled

theorem Reader.KeepsSettled.logged {σ : Type} {reader : Reader σ} (keeps : reader.KeepsSettled) :
    reader.logged.KeepsSettled :=
  fun state frame owed settled => keeps state.1 frame owed settled

end Framing

end ModemLink
