import ModemLink.Bench.Activity
import ModemLink.Engine.Control

/-!
# Sessions

A session runs phases one after the other on the same engine and modem.  In each phase a receive loop
runs beside a list of steps.  Turns alternate: the receive loop first, then the steps, each until it
waits.  When nothing was done in a turn, the time moves to the next timer.  A phase ends with an
orderly close and is over when the receive loop has ended too.
-/

namespace ModemLink.Bench

variable {ρ : Type}

/-- The record of one step. -/
structure StepRecord (ρ : Type) where
  report : Report ρ
  /-- When the step ended. -/
  time : Nat
  /-- The notices sent since the step before ended. -/
  notices : List Notice
  /-- The bytes that the modem accepted since the step before ended. -/
  received : Bytes

/-- What has been recorded up to some moment. -/
structure Mark where
  notices : Nat
  received : Nat

/-- Everything up to now. -/
def Mark.of (world : World) : Mark :=
  { notices := world.engine.device.notices.length, received := world.modem.received.length }

def Mark.record (mark : Mark) (world : World) (report : Report ρ) (time : Nat) : StepRecord ρ :=
  { report := report, time := time
    notices := world.engine.device.notices.drop mark.notices
    received := world.modem.received.drop mark.received }

/-- The steps of a phase while it runs. -/
structure StepRun (ρ : Type) where
  /-- The step that has begun, if any is left. -/
  current : Option (Activity ρ)
  waiting : List (Step ρ)
  mark : Mark
  /-- The records of the steps that have ended, in order. -/
  records : List (StepRecord ρ)

namespace StepRun

/-- Record the end of a step. -/
def note (run : StepRun ρ) (world : World) (report : Report ρ) (time : Nat) : StepRun ρ :=
  { run with
    current := none
    mark := Mark.of world
    records := run.records ++ [run.mark.record world report time] }

/-- Begin the given steps one after the other until one has to wait. -/
def beginNext (profile : Profile) (world : World) (run : StepRun ρ) :
    List (Step ρ) → World × StepRun ρ
  | [] => (world, { run with waiting := [] })
  | step :: steps =>
      match step.begin profile world with
      | (world, .finished report time) =>
          beginNext profile world (run.note world report time) steps
      | (world, activity) => (world, { run with current := some activity, waiting := steps })

/-- Resume the current step, and begin the next ones when it ends. -/
def resume (profile : Profile) (world : World) (run : StepRun ρ) : World × StepRun ρ :=
  match run.current with
  | none => beginNext profile world run run.waiting
  | some activity =>
      match activity.resume profile world with
      | (world, .finished report time) =>
          beginNext profile world (run.note world report time) run.waiting
      | (world, activity) => (world, { run with current := some activity })

/-- Whether all steps have ended. -/
def isOver (run : StepRun ρ) : Bool := run.current.isNone && run.waiting.isEmpty

end StepRun

structure Phase (ρ : Type) where
  world : World
  receiver : Receiver
  steps : StepRun ρ

namespace Phase

def turn (profile : Profile) (phase : Phase ρ) : Phase ρ :=
  let (world, receiver) := phase.receiver.run profile { phase.world with busy := false }
  let (world, steps) := phase.steps.resume profile world
  { world := world, receiver := receiver, steps := steps }

/-- Whether steps and receive loop have ended. -/
def isOver (phase : Phase ρ) : Bool := phase.steps.isOver && phase.receiver.result?.isSome

/-- The next time at which something may go on by itself. -/
def nextTimer? (phase : Phase ρ) : Option Nat :=
  let activities := match phase.steps.current with
    | some activity => activity.timers phase.world
    | none => []
  (activities ++ (phase.receiver.timer? phase.world).toList).min?

/-- Take turns until the phase is over or nothing can happen any more. -/
def run (profile : Profile) : (fuel : Nat) → Phase ρ → Phase ρ
  | 0, phase => phase
  | fuel + 1, phase =>
      if phase.isOver then phase
      else
        let phase := phase.turn profile
        if phase.world.busy then run profile fuel phase
        else
          match phase.nextTimer? with
          | some time =>
              let world := { phase.world with now := max phase.world.now time }
              run profile fuel { phase with world := world }
          | none => phase

end Phase

/-! ## How long a session may run -/

/-- A bound on the turns that handling some deliveries takes. -/
def deliveriesSize (deliveries : List Delivery) : Nat :=
  deliveries.foldl (fun total delivery =>
    match delivery.chunk with
    | .data bytes => total + bytes.length + 4
    | .failure _ => total + 4) 0

/-- A bound on the turns that using up a script takes. -/
def scriptSize (script : List Entry) : Nat :=
  script.foldl (fun total entry => total + deliveriesSize entry.reply + 4) 0

/-- A bound on the turns that one call takes. -/
def callSize : Nat := 1024

/-- A bound on the turns that a step takes. -/
def Step.size : Step ρ → Nat
  | .inject deliveries _ => deliveriesSize deliveries + 4
  | .extendScript entries => scriptSize entries + 4
  | .both first second => first.size + second.size + 4
  | .limited _ step => step.size + 4
  | .call _ | .receiver => callSize
  | .sleep _ | .setMode _ => 4

/-- A bound on the turns that a phase takes. -/
def phaseSize (modem : Modem) (steps : List (Step ρ)) : Nat :=
  2 * steps.foldl (fun total step => total + step.size)
    (modem.backlog + scriptSize modem.script + callSize)

/-! ## Sessions -/

structure PhaseRecord (ρ : Type) where
  steps : List (StepRecord ρ)
  /-- The result of the receive loop; none if it never ended. -/
  result : Option (Except Error Unit)
  /-- Notices sent after the last step. -/
  notices : List Notice
  link : LinkStatus
  /-- Script entries not used so far. -/
  scriptLeft : Nat

/-- Run one phase.  `final` is the report of the orderly close at its end. -/
def runPhase (profile : Profile) (final : Except Error Unit → ρ) (world : World)
    (steps : List (Step ρ)) : World × PhaseRecord ρ :=
  let close : Call ρ := do return final (← (do Engine.waitSettled; Engine.close : Caller Unit).run)
  let steps := steps ++ [.call close]
  let start : Phase ρ :=
    { world := world, receiver := Receiver.initial
      steps := { current := none, waiting := steps, mark := Mark.of world, records := [] } }
  let phase := start.run profile (phaseSize world.modem steps)
  (phase.world,
    { steps := phase.steps.records
      result := phase.receiver.result?
      notices := phase.world.engine.device.notices.drop phase.steps.mark.notices
      link := phase.world.engine.link
      scriptLeft := phase.world.modem.script.length })

/-- Run phases one after the other. -/
def runPhases (profile : Profile) (final : Except Error Unit → ρ) (world : World) :
    List (List (Step ρ)) → List (PhaseRecord ρ)
  | [] => []
  | steps :: phases =>
      let (world, record) := runPhase profile final world steps
      record :: runPhases profile final world phases

/-- Run a session on a new engine, unless the engine is refused. -/
def runSession (profile : Profile) (listeners : Listeners) (modem : Modem)
    (final : Except Error Unit → ρ) (phases : List (List (Step ρ))) :
    Except Error (List (PhaseRecord ρ)) := do
  let engine ← Engine.new profile listeners
  return runPhases profile final { now := 0, engine := engine, modem := modem, busy := false } phases

end ModemLink.Bench
