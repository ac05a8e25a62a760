import ModemLink.Proofs.Engine.Handling
import ModemLink.Proofs.Engine.Station
import ModemLink.Proofs.Response.Classification

/-!
# Commands that the modem rejects

The modem rejects a command with an error code.  If the command takes that line at all, the receive
loop signals how the command ended, and the caller ends with the same failure.

* `Job.program_endsOn`: however a command fails, the caller gives the lock back and ends with that
  failure, as soon as it gets the outcome.
* `Engine.handleLine_of_errorCode`: an error code in no prefix form ends the command exactly if the
  command has no label, or is of a kind whose answer may have lines without it.  Any other command is
  left as it is, and the error code goes to the dispatcher.
-/

namespace ModemLink

namespace Call

variable {α β : Type} {outcome : Outcome} {finish last : Engine → Engine} {result : α} {final : β}

/-- What may be left of a call, whatever the engine was like and whatever the call was told. -/
inductive Leaves : Call α → Call α → Prop
  | self (call : Call α) : Leaves call call
  | act {change : Engine → Engine} {next : Engine → Call α} {rest : Call α} (engine : Engine)
      (h : Leaves (next engine) rest) : Leaves (act change next) rest
  | acquire {next rest : Call α} (h : Leaves next rest) : Leaves (acquire next) rest
  | release {next rest : Call α} (h : Leaves next rest) : Leaves (release next) rest
  | transmit {bytes : Bytes} {timeout : Nat} {next : Except LinkError Nat → Call α} {rest : Call α}
      (answer : Except LinkError Nat) (h : Leaves (next answer) rest) :
      Leaves (transmit bytes timeout next) rest
  | awaitOutcome {timeout : Nat} {next : Option Outcome → Call α} {rest : Call α}
      (answer : Option Outcome) (h : Leaves (next answer) rest) :
      Leaves (awaitOutcome timeout next) rest
  | awaitLink {condition : LinkStatus → Bool} {next rest : Call α} (h : Leaves next rest) :
      Leaves (awaitLink condition next) rest

/-- Whenever the call gets this outcome, it ends without waiting again. -/
def EndsOn (outcome : Outcome) (finish : Engine → Engine) (result : α) : Call α → Prop
  | done _ => True
  | act _ next => ∀ engine, (next engine).EndsOn outcome finish result
  | acquire next | release next | awaitLink _ next => next.EndsOn outcome finish result
  | transmit _ _ next => ∀ answer, (next answer).EndsOn outcome finish result
  | awaitOutcome _ next =>
      (∀ engine, (next (some outcome)).advance engine = (finish engine, .done result)) ∧
        ∀ answer, (next answer).EndsOn outcome finish result

/-- The call waits for no outcome. -/
def Silent : Call α → Prop
  | done _ => True
  | act _ next => ∀ engine, (next engine).Silent
  | acquire next | release next | awaitLink _ next => next.Silent
  | transmit _ _ next => ∀ answer, (next answer).Silent
  | awaitOutcome .. => False

theorem EndsOn.of_leaves {call rest : Call α} (h : call.EndsOn outcome finish result)
    (hleaves : call.Leaves rest) : rest.EndsOn outcome finish result := by
  induction hleaves with
  | self call => exact h
  | act engine _ ih => exact ih (h engine)
  | acquire _ ih | release _ ih | awaitLink _ ih => exact ih h
  | transmit answer _ ih => exact ih (h answer)
  | awaitOutcome answer _ ih => exact ih (h.2 answer)

/-- What a call ends with is taken up by what follows it. -/
theorem EndsOn.bind {call : Call α} {f : α → Call β} (h : call.EndsOn outcome finish result)
    (hresult : ∀ engine, (f result).advance (finish engine) = (last engine, .done final))
    (hf : ∀ value, (f value).EndsOn outcome last final) :
    (call.bind f).EndsOn outcome last final := by
  induction call with
  | done value => exact hf value
  | act change next ih => exact fun engine => ih engine (h engine)
  | acquire next ih | release next ih | awaitLink condition next ih => exact ih h
  | transmit bytes timeout next ih => exact fun answer => ih answer (h answer)
  | awaitOutcome timeout next ih =>
      -- the outcome may come at this suspension, or at a later one
      refine ⟨fun engine => ?_, fun answer => ih answer (h.2 answer)⟩
      rw [advance_bind, h.1 engine]
      exact hresult engine

theorem Silent.bind_endsOn {call : Call α} {f : α → Call β} (h : call.Silent)
    (hf : ∀ value, (f value).EndsOn outcome last final) :
    (call.bind f).EndsOn outcome last final := by
  induction call with
  | done value => exact hf value
  | act change next ih => exact fun engine => ih engine (h engine)
  | acquire next ih | release next ih | awaitLink condition next ih => exact ih h
  | transmit bytes timeout next ih => exact fun answer => ih answer (h answer)
  | awaitOutcome timeout next ih => exact h.elim

theorem Silent.bind {call : Call α} {f : α → Call β} (h : call.Silent)
    (hf : ∀ value, (f value).Silent) : (call.bind f).Silent := by
  induction call with
  | done value => exact hf value
  | act change next ih => exact fun engine => ih engine (h engine)
  | acquire next ih | release next ih | awaitLink condition next ih => exact ih h
  | transmit bytes timeout next ih => exact fun answer => ih answer (h answer)
  | awaitOutcome timeout next ih => exact h.elim

end Call

/-! ## The parts of a request -/

namespace Caller

variable {α β : Type} {outcome : Outcome} {finish : Engine → Engine} {final : Except Error β}

theorem silent_bind {caller : Caller α} {f : α → Caller β} (h : caller.run.Silent)
    (hf : ∀ value, (f value).run.Silent) : (caller >>= f).run.Silent := by
  refine Call.Silent.bind h fun result => ?_
  cases result with
  | ok value => exact hf value
  | error failure => trivial

/-- What comes before the command makes no difference. -/
theorem endsOn_of_silent {caller : Caller α} {f : α → Caller β} (h : caller.run.Silent)
    (hf : ∀ value, (f value).run.EndsOn outcome finish final) :
    (caller >>= f).run.EndsOn outcome finish final := by
  refine Call.Silent.bind_endsOn h fun result => ?_
  cases result with
  | ok value => exact hf value
  | error failure => trivial

/-- A command that fails is the end of a call that checks its status. -/
theorem endsOn_check {caller : Caller ResponseStatus} {f : Unit → Caller β} {failure : Error}
    (hfailure : outcome.bind ResponseStatus.check = .error failure)
    (h : caller.run.EndsOn outcome id outcome)
    (hf : ∀ value, (f value).run.EndsOn outcome id (.error failure)) :
    (caller >>= fun status => ofExcept status.check >>= f).run.EndsOn outcome id
      (.error failure) := by
  refine Call.EndsOn.bind h (fun engine => ?_) fun result => ?_
  · -- the call ends with the cause of the failure or with what the status stands for
    cases outcome with
    | error cause =>
        cases hfailure
        rfl
    | ok status =>
        have hcheck : status.check = .error failure := hfailure
        show (ofExcept status.check >>= f).run.advance engine = _
        rw [hcheck]
        rfl
  · cases result with
    | error cause => trivial
    | ok status => exact endsOn_of_silent (by trivial) hf

/-- A call that holds the lock gives it back in the end. -/
theorem endsOn_locked {body : Caller β} (h : body.run.EndsOn outcome id final) :
    (locked body).run.EndsOn outcome (fun engine => { engine with locked := false }) final :=
  Call.EndsOn.bind (f := fun result => .release (.done result)) h (fun _ => rfl) fun _ => trivial

end Caller

namespace Request

variable {profile : Profile} {outcome : Outcome}

theorem silent_transmitAll (profile : Profile) (bytes : Bytes) :
    (transmitAll profile bytes).run.Silent := fun answer => by cases answer <;> trivial

theorem silent_withdrawOnFailure {α : Type} {body : Caller α} (h : body.run.Silent) :
    (withdrawOnFailure body).run.Silent := by
  have hattempt : body.attempt.run.Silent := Call.Silent.bind h fun _ => trivial
  refine Caller.silent_bind hattempt fun result => ?_
  cases result with
  | ok value => trivial
  | error failure => exact fun _ => trivial

theorem silent_transmitPayload (profile : Profile) (payload : Payload) :
    (transmitPayload profile payload).run.Silent := by
  refine Caller.silent_bind (silent_transmitAll profile _) fun _ => ?_
  cases payload.ending with
  | none => trivial
  | some ending => exact Caller.silent_bind (silent_transmitAll profile ending) fun _ => trivial

theorem awaitStatus_endsOn (outcome : Outcome) (timeout : Nat) :
    (awaitStatus timeout).run.EndsOn outcome id outcome := by
  refine ⟨fun engine => rfl, fun answer => ?_⟩
  cases answer with
  | none => exact fun _ => trivial
  | some outcome => trivial

theorem exchange_endsOn (request : Request) (timeout : Nat) (hooks : Hooks)
    (successTokens : List Text) :
    (exchange profile request timeout hooks successTokens).run.EndsOn outcome id outcome := by
  unfold exchange
  refine Caller.endsOn_of_silent trivial fun bytes => ?_
  refine Caller.endsOn_of_silent (fun _ => trivial) fun _ => ?_
  refine Caller.endsOn_of_silent (silent_withdrawOnFailure (silent_transmitAll profile bytes))
    fun _ => ?_
  exact awaitStatus_endsOn outcome timeout

end Request

/-- However a command fails, its caller ends with that failure as soon as it gets the outcome, and
gives the lock back. -/
theorem Job.program_endsOn {ρ : Type} {profile : Profile} (job : Job ρ) {outcome : Outcome}
    {failure : Error} (h : outcome.bind ResponseStatus.check = .error failure) :
    (job.program profile).EndsOn outcome (fun engine => { engine with locked := false })
      (.error failure) := by
  cases job with
  | run request timeout hooks read =>
      refine Caller.endsOn_of_silent (fun _ => trivial) fun _ => ?_
      refine Caller.endsOn_of_silent trivial fun _ => ?_
      refine Caller.endsOn_locked ?_
      exact Caller.endsOn_check h (Request.exchange_endsOn request timeout hooks [])
        fun _ _ => trivial
  | sendPayload request payload prompt successTokens result =>
      -- two phases, and each of them checks the status of its command
      have hbody : (request.sendPayload profile payload prompt successTokens).run.EndsOn outcome
          (fun engine => { engine with locked := false }) (.error failure) := by
        refine Caller.endsOn_of_silent (fun _ => trivial) fun _ => ?_
        refine Caller.endsOn_of_silent trivial fun _ => ?_
        refine Caller.endsOn_of_silent trivial fun _ => ?_
        refine Caller.endsOn_of_silent trivial fun _ => ?_
        refine Caller.endsOn_of_silent trivial fun _ => ?_
        refine Caller.endsOn_locked ?_
        refine Caller.endsOn_check h (Request.exchange_endsOn request _ _ _) fun _ => ?_
        refine Caller.endsOn_of_silent (fun _ => trivial) fun _ => ?_
        refine Caller.endsOn_of_silent (Request.silent_withdrawOnFailure
          (Request.silent_transmitPayload profile payload)) fun sent => ?_
        exact Caller.endsOn_check h (Request.awaitStatus_endsOn outcome _) fun _ => trivial
      exact Call.EndsOn.bind hbody (fun _ => rfl) fun value => by cases value <;> trivial

/-! ## Error codes -/

namespace LineRole

variable {Handler : Type} {table : TokenTable Handler} {inFlight : InFlight} {line : Text}

/-- Which commands take a line in no prefix form. -/
theorem of_eq_solicited_iff (hbare : table.isBareUrc line = false)
    (hform : line.hasPrefixForm = false) (hkind : inFlight.kind ≠ .noCommand) :
    LineRole.of table (some inFlight) line = .solicited ↔
      inFlight.label = none ∨ inFlight.kind.allowsUnlabelledLines = true := by
  simp only [LineRole.of, hbare, hform, if_false, Bool.false_eq_true]
  split
  next htakes => exact iff_of_true rfl htakes.2
  next htakes => exact iff_of_false nofun fun hcase => htakes ⟨hkind, hcase⟩

end LineRole

namespace Engine

variable {table : TokenTable UrcHandler} {engine : Engine} {inFlight : InFlight} {line : Text}

/-- The engine after its command was rejected. -/
def rejected (engine : Engine) : Engine :=
  { engine with exchange :=
      { inFlight := none
        response := { engine.exchange.response with status := .modemError }
        outcome := some (.ok .modemError) } }

/-- An error code ends the command that takes it, whatever came before. -/
theorem handleLine_of_errorCode (hvalid : table.validate = .ok ())
    (htokens : table.checkSuccesses inFlight.successTokens = .ok ())
    (hflight : engine.exchange.inFlight = some inFlight)
    (hcode : TokenTable.Opens table.errors line)
    (hrole : LineRole.of table (some inFlight) line = .solicited) :
    engine.handleLine table line = engine.rejected := by
  have hfeed : engine.exchange.response.feed table inFlight line =
      ({ engine.exchange.response with status := .modemError }, some .modemError) :=
    Response.feed_of_ends hvalid htokens (.modemError hcode)
  rw [handleLine_of_solicited hflight hrole, Exchange.feed, hfeed]
  simp [rejected, Exchange.complete, hflight]

end Engine

/-! ## Requests that are rejected -/

/-- A request that cannot be sent or answered fails the check. -/
theorem Request.kind_ne_of_check {request : Request} (h : request.check = .ok ()) :
    request.kind ≠ .noCommand := by
  intro hkind
  unfold check at h
  split at h <;> cases h

namespace Job

variable {ρ : Type} {profile : Profile} {job : Job ρ}

/-- The request passes all checks that are made before its command is sent. -/
def Accepted (profile : Profile) : Job ρ → Prop
  | .run request .. => request.check = .ok ()
  | .sendPayload request payload _ successTokens _ =>
      request.check = .ok () ∧ profile.table.checkSuccesses Request.promptTokens = .ok () ∧
        profile.table.checkSuccesses successTokens = .ok () ∧ payload.check = .ok ()

theorem Accepted.inFlight (h : job.Accepted profile) (phase : Phase) :
    (job.inFlight phase).kind ≠ .noCommand ∧
      profile.table.checkSuccesses (job.inFlight phase).successTokens = .ok () := by
  cases job with
  | run request timeout hooks read => exact ⟨Request.kind_ne_of_check h, rfl⟩
  | sendPayload request payload prompt successTokens result =>
      obtain ⟨hrequest, hprompt, htokens, -⟩ := h
      cases phase with
      | command => exact ⟨Request.kind_ne_of_check hrequest, hprompt⟩
      | payload => exact ⟨nofun, htokens⟩

/-- An error code in no prefix form ends the command that is in flight, and its caller gets the error
of the modem at once, if the command has no label or is of a kind whose answer may have lines without
it.  The other commands leave the line to the dispatcher and wait on. -/
theorem errorCode_ends_command (hvalid : profile.table.validate = .ok ())
    (hjob : job.Accepted profile) {phase : Phase} {engine : Engine}
    (hflight : engine.exchange.inFlight = some (job.inFlight phase)) {timeout : Nat}
    {next : Option Outcome → Call (Except Error ρ)}
    (hwaits : (job.program profile).Leaves (.awaitOutcome timeout next)) {line : Text}
    (hcode : TokenTable.Opens profile.table.errors line)
    (hbare : profile.table.isBareUrc line = false) (hform : line.hasPrefixForm = false) :
    let inFlight := job.inFlight phase
    let later := engine.handleLine profile.table line
    (inFlight.label = none ∨ inFlight.kind.allowsUnlabelledLines = true →
      later = engine.rejected ∧ ∃ start rest,
        (Call.awaitOutcome timeout next).woken later .ready = some (start, rest) ∧
          rest.advance start = ({ start with locked := false }, .done (.error .modemError))) ∧
    (¬ (inFlight.label = none ∨ inFlight.kind.allowsUnlabelledLines = true) →
      later = { engine with device := engine.device.dispatch profile.table line }) := by
  intro inFlight later
  obtain ⟨hkind, htokens⟩ := hjob.inFlight phase
  have hrole := LineRole.of_eq_solicited_iff hbare hform hkind
  constructor
  · -- the command takes the line, and its caller is ready
    intro htakes
    have hlater : later = engine.rejected :=
      Engine.handleLine_of_errorCode hvalid htokens hflight hcode (hrole.mpr htakes)
    have hfails : Except.bind (.ok .modemError) ResponseStatus.check = .error Error.modemError := rfl
    obtain ⟨hends, -⟩ := (job.program_endsOn hfails).of_leaves hwaits
    let start : Engine :=
      { engine.rejected with exchange := engine.rejected.exchange.takeOutcome }
    refine ⟨hlater, start, next (some (.ok .modemError)), ?_, hends start⟩
    rw [hlater]
    rfl
  · -- otherwise the line has no role in the answer
    intro htakes
    refine Engine.handleLine_of_ne_solicited ?_
    rw [hflight]
    exact fun hsolicited => htakes (hrole.mp hsolicited)

/-- The modem rejects a query for the signal quality. -/
theorem errorCode_ends_command_signalQuality :
    let profile : Profile := { config := {}, table := Bg96.tokenTable }
    let request : Request :=
      { command := "AT+CSQ", kind := .oneLabelled, label := some "+CSQ" }
    let job : Job Unit := .run request 5000 .none fun _ => .ok ()
    let opened : Engine := { Engine.initial {} with link := .opened }
    let engine := { opened with locked := true }.starting (request.inFlight .none)
    ∃ timeout next, (job.program profile).Leaves (.awaitOutcome timeout next) ∧
      engine.handleLine profile.table "ERROR" = engine.rejected ∧ ∃ start rest,
        (Call.awaitOutcome timeout next).woken engine.rejected .ready = some (start, rest) ∧
          rest.advance start = ({ start with locked := false }, .done (.error .modemError)) := by
  intro profile request job opened engine
  have hwaits : ∃ timeout next,
      (job.program profile).Leaves (.awaitOutcome timeout next) :=
    ⟨_, _, .act opened (.acquire (.act opened (.transmit (.ok 7) (.self _))))⟩
  obtain ⟨timeout, next, hwaits⟩ := hwaits
  have hjob : job.Accepted profile := rfl
  have hflight : engine.exchange.inFlight = some (job.inFlight .command) := rfl
  obtain ⟨hends, -⟩ := errorCode_ends_command (by decide +kernel) hjob hflight hwaits
    (show TokenTable.Opens Bg96.tokenTable.errors "ERROR" by decide) (by decide) (by decide)
  obtain ⟨hlater, hcaller⟩ := hends (.inr rfl)
  exact ⟨timeout, next, hwaits, hlater, hlater ▸ hcaller⟩

/-- The rejection of a command that is answered by one line with its label and nothing else is taken
for an unsolicited line, and the command stays in flight. -/
theorem labelledOnly_misses_errorCode :
    let table := Bg96.tokenTable
    let request : Request :=
      { command := "AT+X", kind := .oneLabelledOnly, label := some "+X" }
    let engine := (Engine.initial { line := true }).starting (request.inFlight .none)
    table.validate = .ok () ∧ request.check = .ok () ∧ TokenTable.Opens table.errors "ERROR" ∧
      table.isBareUrc "ERROR" = false ∧ Text.hasPrefixForm "ERROR" = false ∧
      engine.handleLine table "ERROR" =
        { engine with device := { engine.device with notices := [.line "ERROR"] } } ∧
      (engine.handleLine table "ERROR").exchange.inFlight.isSome :=
  ⟨by decide +kernel, by decide, by decide, by decide, by decide, rfl, rfl⟩

end Job

end ModemLink
