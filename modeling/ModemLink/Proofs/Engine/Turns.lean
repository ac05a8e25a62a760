import ModemLink.Bench.Activity
import ModemLink.Proofs.Engine.Traffic

/-!
# Turns

A caller or a receive loop whose turn it is goes on until it has to wait, and meanwhile nothing else
happens.  A turn is a sequence of moves: `Traffic.leads_runCall` shows it for a call on a bench, and
`Traffic.leads_run` for the receive loop.  What holds after all sequences of moves thus holds
whenever something waits on a bench.
-/

namespace ModemLink

/-- What is left of a call. -/
def Bench.Activity.rest? {α : Type} : Bench.Activity α → Option (Call α)
  | .calling call _ _ => some call
  | .finished (.value value) _ => some (.done value)
  | _ => none

namespace Traffic

variable {ρ : Type} {profile : Profile} {traffic later : Traffic ρ} {last : List Entry → Traffic ρ}

/-- Some moves lead to what is asked for, whatever the log says by then. -/
def Leads (profile : Profile) (traffic : Traffic ρ) (last : List Entry → Traffic ρ) : Prop :=
  ∃ (moves : List (Move ρ)) (log : List Entry), traffic.plays profile moves = last log

theorem Leads.refl (log : List Entry) : (last log).Leads profile last := ⟨[], log, rfl⟩

theorem Leads.step (move : Move ρ) (hplay : traffic.play profile move = later)
    (h : later.Leads profile last) : traffic.Leads profile last := by
  obtain ⟨moves, log, hplays⟩ := h
  exact ⟨move :: moves, log, by rw [plays_cons, hplay, hplays]⟩

theorem Leads.trans {mid : List Entry → Traffic ρ} (h : traffic.Leads profile mid)
    (hmid : ∀ log, (mid log).Leads profile last) : traffic.Leads profile last := by
  obtain ⟨moves, log, hplays⟩ := h
  obtain ⟨rest, after, hrest⟩ := hmid log
  exact ⟨moves ++ rest, after, by rw [plays_append, hplays, hrest]⟩

/-! ## The receive loop -/

/-- The receive loop has come to an engine and a buffer. -/
def heard (traffic : Traffic ρ) (engine : Engine) (buffer : ReadBuffer) (log : List Entry) :
    Traffic ρ :=
  { traffic with engine := engine, buffer := buffer, log := log }

variable {engine : Engine} {buffer rest : ReadBuffer} {log : List Entry} {frame : Frame}

theorem play_handles
    (h : buffer.next Limits.readBuffer profile.config.lineEnding engine.exchange.hooks =
      (some frame, rest)) :
    (traffic.heard engine buffer log).play profile .handles =
      traffic.heard (engine.handleFrame profile.table frame) rest
        (log ++ [.handled engine.exchange.inFlight buffer frame
          (engine.exchange.signalled (engine.handleFrame profile.table frame).exchange)]) := by
  simp [heard, play, handle, record, h]

theorem play_handles_of_none
    (h : buffer.next Limits.readBuffer profile.config.lineEnding engine.exchange.hooks =
      (none, rest)) :
    (traffic.heard engine buffer log).play profile .handles = traffic.heard engine rest log := by
  simp [heard, play, handle, h]

theorem play_aside (other : Engine) (hexchange : other.exchange = engine.exchange)
    (hlocked : other.locked = engine.locked) :
    (traffic.heard engine buffer log).play profile (.aside other) =
      traffic.heard other buffer log := by
  simp [heard, play, ← hexchange, ← hlocked]

/-- All complete frames of the buffer are handled. -/
theorem leads_drain (fuel : Nat) (engine : Engine) (buffer : ReadBuffer) (log : List Entry) :
    (traffic.heard engine buffer log).Leads profile
      (traffic.heard (Engine.drain profile fuel engine buffer).1
        (Engine.drain profile fuel engine buffer).2) := by
  induction fuel generalizing engine buffer log with
  | zero => exact .refl log
  | succ fuel ih =>
      cases hnext : buffer.next Limits.readBuffer profile.config.lineEnding
        engine.exchange.hooks with
      | mk frame rest =>
          simp only [Engine.drain, hnext]
          cases frame with
          | none => exact .step .handles (play_handles_of_none hnext) (.refl log)
          | some frame => exact .step .handles (play_handles hnext) (ih _ _ _)

/-- A chunk arrives. -/
theorem leads_receive (engine : Engine) (buffer : ReadBuffer) (chunk : Bytes) (log : List Entry) :
    (traffic.heard engine buffer log).Leads profile
      (traffic.heard (engine.receive profile buffer chunk).1
        (engine.receive profile buffer chunk).2) := by
  refine .step (.arrives chunk) rfl ?_
  unfold Engine.receive ReadBuffer.resetIfFull
  simp only
  refine (leads_drain ((buffer.append chunk).bytes.length + 1) engine _ log).trans fun log => ?_
  split
  · -- what is left fills the whole buffer
    exact .step .empties rfl (.refl log)
  · exact .refl log

theorem leads_finish (world : Bench.World) (receiver : Bench.Receiver) (result : Except Error Unit)
    (log : List Entry) :
    (traffic.heard world.engine receiver.buffer log).Leads profile
      (traffic.heard (receiver.finish world result).1.engine
        (receiver.finish world result).2.buffer) :=
  .step (.aside world.engine.becomeClosed) (play_aside _ rfl rfl) (.refl log)

/-- The receive loop reads what is available. -/
theorem leads_read (fuel : Nat) (world : Bench.World) (receiver : Bench.Receiver)
    (log : List Entry) :
    (traffic.heard world.engine receiver.buffer log).Leads profile
      (traffic.heard (Bench.Receiver.read profile fuel world receiver).1.engine
        (Bench.Receiver.read profile fuel world receiver).2.buffer) := by
  induction fuel generalizing world receiver log with
  | zero => exact .refl log
  | succ fuel ih =>
      unfold Bench.Receiver.read
      split
      · -- somebody asked the loop to end
        exact .step .ends rfl (leads_finish (world.act Engine.endInOrder) receiver _ _)
      · split
        next => exact .refl log
        -- a timeout of the link: the loop reads on
        next modem _ => exact ih { world with modem := modem, busy := true } receiver log
        next cause modem _ _ =>
          exact .step (.loses cause) rfl
            (leads_finish ({ world with modem := modem }.act (·.loseLink cause)) receiver _ _)
        next chunk modem _ =>
          let after := world.engine.receive profile receiver.buffer chunk
          exact (leads_receive world.engine receiver.buffer chunk log).trans fun log =>
            ih { world with engine := after.1, modem := modem, busy := true }
              { receiver with buffer := after.2 } log

/-- The link is up, or could not be opened. -/
theorem leads_opened (world : Bench.World) (receiver : Bench.Receiver) (log : List Entry) :
    (traffic.heard world.engine receiver.buffer log).Leads profile
      (traffic.heard (receiver.opened profile world).1.engine
        (receiver.opened profile world).2.buffer) := by
  unfold Bench.Receiver.opened
  split
  · exact .step (.aside world.engine.becomeClosed) (play_aside _ rfl rfl) (.refl log)
  · let opened := { world.act Engine.becomeOpen with modem := { world.modem with isOpen := true } }
    exact .step (.aside world.engine.becomeOpen) (play_aside _ rfl rfl)
      (.step .empties rfl (leads_read _ opened { stage := .reading, buffer := .empty } log))

/-- A receive loop whose turn it is. -/
theorem leads_run (world : Bench.World) (receiver : Bench.Receiver) (log : List Entry) :
    (traffic.heard world.engine receiver.buffer log).Leads profile
      (traffic.heard (receiver.run profile world).1.engine
        (receiver.run profile world).2.buffer) := by
  unfold Bench.Receiver.run
  cases receiver.stage with
  | waiting =>
      unfold Engine.beginOpening
      simp only
      split
      next hopening =>
        split at hopening <;> cases hopening
        exact .refl log
      next engine hopening =>
        split at hopening <;> cases hopening
        exact .step (.aside { world.engine with link := .opening }) (play_aside _ rfl rfl)
          (.refl log)
  | opening due =>
      simp only
      split
      · exact leads_opened world receiver log
      · exact .refl log
  | reading => exact leads_read _ world receiver log
  | ended result => exact .refl log

/-! ## Callers -/

/-- A caller has come to what is left of its call, and the engine to a value. -/
def reached (traffic : Traffic ρ) (caller : Nat) (job : Job ρ) (call : Call (Except Error ρ))
    (engine : Engine) (log : List Entry) : Traffic ρ :=
  { traffic with
    engine := engine, log := log
    callers := Function.update traffic.callers caller (some (job, call)) }

variable {caller : Nat} {job : Job ρ} {call : Call (Except Error ρ)} {timeout : Nat}

theorem play_act {change : Engine → Engine} {next : Engine → Call (Except Error ρ)} :
    (traffic.reached caller job (.act change next) engine log).play profile (.goes caller) =
      traffic.reached caller job (next engine) (change engine) (log ++ [.acted caller change]) := by
  simp [reached, play, go, resume]

theorem play_acquire (h : engine.locked = false) :
    (traffic.reached caller job (.acquire call) engine log).play profile (.goes caller) =
      traffic.reached caller job call { engine with locked := true } log := by
  simp [reached, play, go, resume, h]

theorem play_release :
    (traffic.reached caller job (.release call) engine log).play profile (.goes caller) =
      traffic.reached caller job call { engine with locked := false } log := by
  simp [reached, play, go, resume]

theorem play_awaitOutcome {next : Option Outcome → Call (Except Error ρ)} {outcome : Outcome}
    (h : engine.exchange.outcome = some outcome) :
    (traffic.reached caller job (.awaitOutcome timeout next) engine log).play profile
        (.goes caller) =
      traffic.reached caller job (next (some outcome))
        { engine with exchange := engine.exchange.takeOutcome } log := by
  simp [reached, play, go, resume, h]

theorem play_awaitLink {condition : LinkStatus → Bool} (h : condition engine.link = true) :
    (traffic.reached caller job (.awaitLink condition call) engine log).play profile
        (.goes caller) =
      traffic.reached caller job call engine log := by
  simp [reached, play, go, resume, h]

theorem play_answered {bytes : Bytes} {next : Except LinkError Nat → Call (Except Error ρ)}
    (answer : Except LinkError Nat) :
    (traffic.reached caller job (.transmit bytes timeout next) engine log).play profile
        (.answered caller answer) =
      traffic.reached caller job (next answer) engine log := by
  simp [reached, play, resume]

theorem play_expires_transmit {bytes : Bytes}
    {next : Except LinkError Nat → Call (Except Error ρ)} :
    (traffic.reached caller job (.transmit bytes timeout next) engine log).play profile
        (.expires caller) =
      traffic.reached caller job (next (.error .timeout)) engine log := by
  simp [reached, play, resume]

theorem play_expires_awaitOutcome {next : Option Outcome → Call (Except Error ρ)} :
    (traffic.reached caller job (.awaitOutcome timeout next) engine log).play profile
        (.expires caller) =
      traffic.reached caller job (next none) engine log := by
  simp [reached, play, resume]

/-- A chunk that begins with a complete frame arrives at an empty buffer while a caller waits. -/
theorem plays_arrives {chunk : Bytes} (hempty : traffic.buffer = .empty)
    (h : ({ bytes := chunk, owed := none } : ReadBuffer).next Limits.readBuffer
      profile.config.lineEnding engine.exchange.hooks = (some frame, rest)) :
    (traffic.reached caller job call engine log).plays profile [.arrives chunk, .handles] =
      ({ traffic with buffer := rest } : Traffic ρ).reached caller job call
        (engine.handleFrame profile.table frame)
        (log ++ [.handled engine.exchange.inFlight { bytes := chunk, owed := none } frame
          (engine.exchange.signalled (engine.handleFrame profile.table frame).exchange)]) := by
  have harrived : (traffic.reached caller job call engine log).play profile (.arrives chunk) =
      (traffic.reached caller job call engine log).heard engine { bytes := chunk, owed := none }
        log := by
    simp [reached, heard, play, hempty, ReadBuffer.append, ReadBuffer.empty]
  rw [plays_cons, harrived, plays_cons, play_handles h]
  rfl

/-- A caller whose turn it is goes on until it waits or is done. -/
theorem leads_runCall (world : Bench.World) (timer : Option Nat) (holding : Bool)
    (call : Call (Except Error ρ)) (log : List Entry) :
    ∃ left, (Bench.runCall world timer holding call).2.rest? = some left ∧
      (traffic.reached caller job call world.engine log).Leads profile
        (traffic.reached caller job left (Bench.runCall world timer holding call).1.engine) := by
  induction call generalizing world timer holding log with
  | done value => exact ⟨_, rfl, .refl log⟩
  | act change next ih =>
      obtain ⟨left, hleft, hleads⟩ := ih world.engine (world.act change) none holding _
      exact ⟨left, hleft, .step (.goes caller) play_act hleads⟩
  | acquire next ih =>
      unfold Bench.runCall
      split
      · exact ⟨_, rfl, .refl log⟩
      next hlocked =>
        obtain ⟨left, hleft, hleads⟩ :=
          ih (world.act fun engine => { engine with locked := true }) none true log
        exact ⟨left, hleft, .step (.goes caller) (play_acquire (by simpa using hlocked)) hleads⟩
  | release next ih =>
      obtain ⟨left, hleft, hleads⟩ :=
        ih (world.act fun engine => { engine with locked := false }) none false log
      exact ⟨left, hleft, .step (.goes caller) play_release hleads⟩
  | transmit bytes timeout next ih =>
      -- the link answers when its answer is due, the time runs out first, or the caller waits
      unfold Bench.runCall
      split
      · obtain ⟨left, hleft, hleads⟩ := ih (world.modem.accept world.now bytes).2
          { world with modem := (world.modem.accept world.now bytes).1, busy := true } none holding
          log
        exact ⟨left, hleft, .step (.answered caller _) (play_answered _) hleads⟩
      · split
        · obtain ⟨left, hleft, hleads⟩ :=
            ih (.error .timeout) { world with busy := true } none holding log
          exact ⟨left, hleft, .step (.expires caller) play_expires_transmit hleads⟩
        · exact ⟨_, rfl, .refl log⟩
  | awaitOutcome timeout next ih =>
      unfold Bench.runCall
      split
      next outcome houtcome =>
        obtain ⟨left, hleft, hleads⟩ := ih (some outcome)
          (world.act fun engine => { engine with exchange := engine.exchange.takeOutcome }) none
          holding log
        exact ⟨left, hleft, .step (.goes caller) (play_awaitOutcome houtcome) hleads⟩
      next =>
        split
        · obtain ⟨left, hleft, hleads⟩ := ih none { world with busy := true } none holding log
          exact ⟨left, hleft, .step (.expires caller) play_expires_awaitOutcome hleads⟩
        · exact ⟨_, rfl, .refl log⟩
  | awaitLink condition next ih =>
      unfold Bench.runCall
      split
      next hlink =>
        obtain ⟨left, hleft, hleads⟩ := ih { world with busy := true } none holding log
        exact ⟨left, hleft, .step (.goes caller) (play_awaitLink hlink) hleads⟩
      · exact ⟨_, rfl, .refl log⟩

end Traffic

end ModemLink
