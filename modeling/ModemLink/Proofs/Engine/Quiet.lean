import Mathlib.Logic.Relation
import ModemLink.Proofs.Engine.Interference

/-!
# Time in which nothing is said about something

The receive loop changes the device by the lines that it hands to the dispatcher.
`Engine.dispatched` lists these lines for a chunk, and `Engine.device_receive_eq` says that they
are all that counts.

A call that waits may depend on a part of the device that nobody works on meanwhile, and that no
dispatched line is about.  `Engine.Quietly` says so: all dispatched lines are `quiet`, and whatever
else happens does to the device what `R` allows.  If quiet lines do so too, then so does all of it
together (`Engine.Quietly.device`).
-/

namespace ModemLink

/-- The line of a frame, if that is text. -/
def Frame.lines : Frame → List Text
  | line bytes => (Text.ofBytes? bytes).toList
  | payload _ => []

namespace Engine

variable {profile : Profile} {engine later : Engine} {quiet : Text → Prop}
  {R : Device → Device → Prop}

/-! ## Dispatched lines -/

theorem device_handleFrame_eq (table : TokenTable UrcHandler) (engine : Engine) (frame : Frame) :
    (engine.handleFrame table frame).device =
      (engine.handed table frame.lines).foldl (Device.dispatch table) engine.device := by
  cases frame with
  | payload data => rfl
  | line bytes =>
      cases htext : Text.ofBytes? bytes with
      | none => simp only [handleFrame, Frame.lines, htext, Option.toList, handed, List.foldl_nil]
      | some line =>
          simp only [handleFrame, Frame.lines, htext, Option.toList]
          exact device_handleLines table engine [line]

/-- The lines that go to the dispatcher while `drain` takes frames, in order. -/
def drained (profile : Profile) : (fuel : Nat) → Engine → ReadBuffer → List Text
  | 0, _, _ => []
  | fuel + 1, engine, buffer =>
      match buffer.next Limits.readBuffer profile.config.lineEnding engine.exchange.hooks with
      | (none, _) => []
      | (some frame, buffer) =>
          engine.handed profile.table frame.lines ++
            drained profile fuel (engine.handleFrame profile.table frame) buffer

theorem device_drain_eq (fuel : Nat) (engine : Engine) (buffer : ReadBuffer) :
    (drain profile fuel engine buffer).1.device =
      (drained profile fuel engine buffer).foldl (Device.dispatch profile.table) engine.device := by
  induction fuel generalizing engine buffer with
  | zero => rfl
  | succ fuel ih =>
      unfold drain drained
      rcases buffer.next Limits.readBuffer profile.config.lineEnding engine.exchange.hooks with
        ⟨_ | frame, rest⟩
      · rfl
      · show (drain profile fuel (engine.handleFrame profile.table frame) rest).1.device = _
        rw [List.foldl_append, ← device_handleFrame_eq]
        exact ih (engine.handleFrame profile.table frame) rest

/-- The lines of a chunk that go to the dispatcher, in order. -/
def dispatched (profile : Profile) (engine : Engine) (buffer : ReadBuffer) (chunk : Bytes) :
    List Text :=
  drained profile ((buffer.append chunk).bytes.length + 1) engine (buffer.append chunk)

/-- What the device becomes is a matter of the dispatched lines alone. -/
theorem device_receive_eq (profile : Profile) (engine : Engine) (buffer : ReadBuffer)
    (chunk : Bytes) :
    (engine.receive profile buffer chunk).1.device =
      (engine.dispatched profile buffer chunk).foldl (Device.dispatch profile.table)
        engine.device :=
  device_drain_eq ((buffer.append chunk).bytes.length + 1) engine (buffer.append chunk)

/-! ## Quiet time -/

/-- What may happen while a call waits, if all dispatched lines are quiet. -/
inductive Passes (profile : Profile) (quiet : Text → Prop) (R : Device → Device → Prop) :
    Engine → Engine → Prop
  /-- The receive loop handles a chunk, whatever its buffer holds. -/
  | received (engine : Engine) (buffer : ReadBuffer) (chunk : Bytes)
      (hquiet : ∀ line ∈ engine.dispatched profile buffer chunk, quiet line) :
      Passes profile quiet R engine (engine.receive profile buffer chunk).1
  /-- Anything else: the link is opened, or closed on request, and other callers do their turns. -/
  | aside {engine later : Engine} (h : R engine.device later.device) :
      Passes profile quiet R engine later

/-- Any number of things happen. -/
def Quietly (profile : Profile) (quiet : Text → Prop) (R : Device → Device → Prop) :
    Engine → Engine → Prop :=
  Relation.ReflTransGen (Passes profile quiet R)

section

variable (hrefl : ∀ device, R device device)
  (htrans : ∀ {first second third}, R first second → R second third → R first third)
  (hquiet : ∀ line, quiet line → ∀ device, R device (device.dispatch profile.table line))
include hrefl htrans hquiet

theorem device_dispatchAll {lines : List Text} (hlines : ∀ line ∈ lines, quiet line)
    (device : Device) : R device (lines.foldl (Device.dispatch profile.table) device) := by
  induction lines generalizing device with
  | nil => exact hrefl device
  | cons line lines ih =>
      have hfirst := hquiet line (hlines line List.mem_cons_self) device
      exact htrans hfirst (ih (fun line hmem => hlines line (List.mem_cons_of_mem _ hmem)) _)

theorem Passes.device (h : Passes profile quiet R engine later) :
    R engine.device later.device := by
  cases h with
  | received buffer chunk hlines =>
      rw [device_receive_eq]
      exact device_dispatchAll hrefl htrans hquiet hlines engine.device
  | aside hallowed => exact hallowed

theorem Quietly.device (h : Quietly profile quiet R engine later) :
    R engine.device later.device := by
  unfold Quietly at h
  induction h with
  | refl => exact hrefl engine.device
  | tail _ hstep ih => exact htrans ih (hstep.device hrefl htrans hquiet)

end

end Engine

end ModemLink
