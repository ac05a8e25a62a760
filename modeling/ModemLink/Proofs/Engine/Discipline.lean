import ModemLink.Proofs.Engine.Stages

/-!
# The discipline of a request

A request touches the exchange only while it holds the lock, and there it keeps an order: it begins
its command, waits for the outcome, and withdraws the command unless it got one.  A payload request
does so twice, and begins its second command only after the first one ended with success.

`Call.Follows` says of a call that it keeps this order, whatever the engine does meanwhile.  It
follows the call suspension by suspension, and says of each what `Stage` the call is in by then.
`Job.program_follows` shows that all requests keep the order; everything that is proved about
requests beside each other rests on that alone.
-/

namespace ModemLink

/-- Begin a command. -/
def Engine.starting (inFlight : InFlight) (engine : Engine) : Engine :=
  { engine with exchange := engine.exchange.start inFlight }

/-- Give the command up. -/
def Engine.withdrawing (engine : Engine) : Engine :=
  { engine with exchange := engine.exchange.withdraw }

/-- A request that sends payload has two commands, one after the other. -/
inductive Phase where
  | command
  | payload
  deriving DecidableEq

/-- What a caller does on an engine. -/
inductive Job (ρ : Type) where
  | run (request : Request) (timeout : Nat) (hooks : Hooks) (read : Response → Except Error ρ)
  | sendPayload (request : Request) (payload : Payload) (prompt : Bytes → Option Nat)
      (successTokens : List Text) (result : Nat → ρ)

namespace Job

variable {ρ : Type}

def program (profile : Profile) : Job ρ → Call (Except Error ρ)
  | .run request timeout hooks read => (request.run profile timeout hooks read).run
  | .sendPayload request payload prompt successTokens result =>
      (result <$> request.sendPayload profile payload prompt successTokens).run

/-- The command of a phase. -/
def inFlight : Job ρ → Phase → InFlight
  | .run request _ hooks _, _ => request.inFlight hooks
  | .sendPayload request _ prompt _ _, .command =>
      { kind := request.kind, label := request.label
        hooks := { header := none, prompt := some prompt }, successTokens := Request.promptTokens }
  | .sendPayload _ _ _ successTokens _, .payload =>
      { kind := .noResult, label := none, hooks := .none, successTokens := successTokens }

/-- What the caller may hand to the link in a phase. -/
def Hands (profile : Profile) : Job ρ → Phase → Bytes → Prop
  | .run request _ _ _, _, bytes => request.encode profile.config.terminator = .ok bytes
  | .sendPayload request _ _ _ _, .command, bytes =>
      request.encode profile.config.terminator = .ok bytes
  | .sendPayload _ payload _ _ _, .payload, bytes =>
      bytes = payload.data ∨ payload.ending = some bytes

end Job

/-- How far a caller has come that holds the lock. -/
inductive Stage where
  /-- It has no command. -/
  | idle
  /-- Its command may be in flight. -/
  | begun (phase : Phase)
  /-- It has the outcome of its command. -/
  | answered (phase : Phase) (outcome : Outcome)

/-- The lock may be given back. -/
def Stage.Over : Stage → Prop
  | idle | answered _ _ => True
  | begun _ => False

/-- The caller holds the lock and may give it back. -/
def Rests (stage : Option Stage) : Prop := ∃ last, stage = some last ∧ last.Over

theorem Rests.idle : Rests (some .idle) := ⟨.idle, rfl, trivial⟩

theorem Rests.answered (phase : Phase) (outcome : Outcome) :
    Rests (some (.answered phase outcome)) := ⟨_, rfl, trivial⟩

/-- What a caller may do to the engine, and how far it has come then. -/
inductive Stage.Acts {ρ : Type} (job : Job ρ) :
    (Engine → Engine) → Option Stage → Option Stage → Prop
  | looks : Acts job id none none
  | reads (phase : Phase) :
      Acts job id (some (.answered phase (.ok .success))) (some (.answered phase (.ok .success)))
  | begins :
      Acts job (Engine.starting (job.inFlight .command)) (some .idle) (some (.begun .command))
  | prompted :
      Acts job (Engine.starting (job.inFlight .payload)) (some (.answered .command (.ok .success)))
        (some (.begun .payload))
  | withdraws (phase : Phase) : Acts job Engine.withdrawing (some (.begun phase)) (some .idle)

variable {ρ α β : Type} {profile : Profile} {job : Job ρ} {stage : Option Stage}

namespace Call

/-- A call goes on from a stage in the order of a request, whatever happens to the engine between
two suspensions, and ends as `post` says. -/
def Follows (profile : Profile) (job : Job ρ) (post : α → Option Stage → Prop) :
    Call α → Option Stage → Prop
  | done value, stage => post value stage
  | act change next, stage =>
      ∃ later, Stage.Acts job change stage later ∧
        ∀ engine, (next engine).Follows profile job post later
  | acquire next, stage => stage = none ∧ next.Follows profile job post (some .idle)
  | release next, stage => Rests stage ∧ next.Follows profile job post none
  | transmit bytes _ next, stage =>
      ∃ phase, stage = some (.begun phase) ∧ job.Hands profile phase bytes ∧
        ∀ answer, (next answer).Follows profile job post (some (.begun phase))
  | awaitOutcome _ next, stage =>
      ∃ phase, stage = some (.begun phase) ∧
        (next none).Follows profile job post (some (.begun phase)) ∧
        ∀ outcome, (next (some outcome)).Follows profile job post (some (.answered phase outcome))
  | awaitLink _ next, stage => stage = none ∧ next.Follows profile job post none

variable {post : α → Option Stage → Prop} {goal : β → Option Stage → Prop}

theorem Follows.bind {call : Call α} {f : α → Call β} (h : call.Follows profile job post stage)
    (hnext : ∀ value later, post value later → (f value).Follows profile job goal later) :
    (call.bind f).Follows profile job goal stage := by
  induction call generalizing stage with
  | done value => exact hnext value stage h
  | act change next ih =>
      obtain ⟨later, hacts, hrest⟩ := h
      exact ⟨later, hacts, fun engine => ih engine (hrest engine)⟩
  | acquire next ih => exact ⟨h.1, ih h.2⟩
  | release next ih => exact ⟨h.1, ih h.2⟩
  | transmit bytes timeout next ih =>
      -- the stage in between is the same for every answer of the link, and `ih` is used at each
      obtain ⟨phase, hstage, hhands, hrest⟩ := h
      exact ⟨phase, hstage, hhands, fun answer => ih answer (hrest answer)⟩
  | awaitOutcome timeout next ih =>
      obtain ⟨phase, hstage, hexpired, hrest⟩ := h
      exact ⟨phase, hstage, ih none hexpired, fun outcome => ih (some outcome) (hrest outcome)⟩
  | awaitLink condition next ih => exact ⟨h.1, ih h.2⟩

theorem Follows.imp {call : Call α} {weaker : α → Option Stage → Prop}
    (h : call.Follows profile job post stage)
    (himp : ∀ value later, post value later → weaker value later) :
    call.Follows profile job weaker stage := by
  rw [← bind_done call]
  exact h.bind himp

end Call

/-! ## The parts of a request -/

/-- The caller does not hold the lock, whatever came of its call. -/
def Outside (_ : α) (stage : Option Stage) : Prop := stage = none

namespace Caller

/-- A call that may fail goes on in the order of a request.  With a value it has come to the stage
that goes with the value, with a failure to one that is `bad`. -/
def Follows (profile : Profile) (job : Job ρ) (bad : Option Stage → Prop) (caller : Caller α)
    (stage : Option Stage) (last : α → Option Stage) : Prop :=
  caller.run.Follows profile job
    (fun result later => match result with
      | .ok value => later = last value
      | .error _ => bad later) stage

variable {bad : Option Stage → Prop} {last : α → Option Stage} {final : β → Option Stage}

theorem Follows.bind {caller : Caller α} {f : α → Caller β}
    (h : caller.Follows profile job bad stage last)
    (hnext : ∀ value, (f value).Follows profile job bad (last value) final) :
    (caller >>= f).Follows profile job bad stage final := by
  refine Call.Follows.bind h fun result later hresult => ?_
  cases result with
  | ok value => exact (show later = last value from hresult) ▸ hnext value
  | error failure => exact hresult

theorem follows_ofExcept (result : Except Error α) (hbad : bad stage) :
    (ofExcept result).Follows profile job bad stage fun _ => stage := by
  cases result with
  | ok value => exact rfl
  | error failure => exact hbad

/-- Something is checked before the lock is taken. -/
theorem follows_precheck (result : Except Error α) :
    (ofExcept result).Follows profile job (· = none) none fun _ => none :=
  follows_ofExcept result rfl

theorem follows_checkOpen : checkOpen.Follows profile job (· = none) none fun _ => none :=
  ⟨none, .looks, fun engine => follows_precheck engine.checkOpen⟩

theorem follows_locked {body : Caller α} (h : body.Follows profile job Rests (some .idle) last)
    (hlast : ∀ value, Rests (last value)) :
    (locked body).Follows profile job (· = none) none fun _ => none := by
  refine ⟨rfl, ?_⟩
  show (body.run.bind fun result => .release (.done result)).Follows profile job _ _
  -- the lock is given back after a value and after a failure, and either time from a stage of rest
  refine Call.Follows.bind h fun result later hresult => ?_
  cases result with
  | ok value => exact ⟨(show later = last value from hresult) ▸ hlast value, rfl⟩
  | error failure => exact ⟨hresult, rfl⟩

theorem follows_starting (phase : Phase) {later : Option Stage}
    (h : Stage.Acts job (Engine.starting (job.inFlight phase)) stage later) :
    (exchange fun exchange => exchange.start (job.inFlight phase)).Follows profile job bad stage
      fun _ => later :=
  ⟨later, h, fun _ => rfl⟩

/-- A command is given up, and the request fails. -/
theorem follows_withdraw {phase : Phase} {failure : Error} :
    (do exchange Exchange.withdraw; throw failure : Caller α).Follows profile job Rests
      (some (.begun phase)) last :=
  ⟨some .idle, .withdraws phase, fun _ => Rests.idle⟩

/-- The status is checked while the lock is held. -/
theorem follows_check (status : ResponseStatus) (phase : Phase) :
    (ofExcept status.check).Follows profile job Rests (some (.answered phase (.ok status)))
      fun _ => some (.answered phase (.ok .success)) := by
  cases status with
  | success => exact rfl
  | modemError | error | unknown => exact Rests.answered _ _

end Caller

namespace Request

variable {phase : Phase} {request : Request} {payload : Payload} {bytes : Bytes}

theorem follows_transmitAll (h : job.Hands profile phase bytes) :
    (transmitAll profile bytes).Follows profile job (· = some (.begun phase))
      (some (.begun phase)) fun _ => some (.begun phase) := by
  refine ⟨phase, rfl, h, fun answer => ?_⟩
  cases answer with
  | error cause => exact rfl
  | ok sent =>
      show Call.Follows profile job _ (.done (if sent = bytes.length then _ else _)) _
      split <;> rfl

/-- The payload and its terminator. -/
theorem follows_transmitPayload (hdata : job.Hands profile phase payload.data)
    (hending : ∀ ending, payload.ending = some ending → job.Hands profile phase ending) :
    (transmitPayload profile payload).Follows profile job (· = some (.begun phase))
      (some (.begun phase)) fun _ => some (.begun phase) := by
  refine (follows_transmitAll hdata).bind fun _ => ?_
  cases hcase : payload.ending with
  | none => exact rfl
  | some ending => exact (follows_transmitAll (hending ending hcase)).bind fun _ => rfl

theorem follows_withdrawOnFailure {body : Caller α}
    (h : body.Follows profile job (· = some (.begun phase)) stage
      fun _ => some (.begun phase)) :
    (withdrawOnFailure body).Follows profile job Rests stage fun _ => some (.begun phase) := by
  have hattempt : body.attempt.Follows profile job Rests stage fun _ => some (.begun phase) :=
    Call.Follows.bind h fun result later hresult => by cases result <;> exact hresult
  refine hattempt.bind fun result => ?_
  cases result with
  | ok value => exact rfl
  | error failure => exact Caller.follows_withdraw

theorem follows_awaitStatus (timeout : Nat) :
    (awaitStatus timeout).Follows profile job Rests (some (.begun phase))
      fun status => some (.answered phase (.ok status)) := by
  refine ⟨phase, rfl, Caller.follows_withdraw, fun outcome => ?_⟩
  cases outcome with
  | ok status => exact rfl
  | error failure => exact Rests.answered _ _

/-- The first command of a request, up to its outcome. -/
theorem follows_exchange (timeout : Nat) (hooks : Hooks) (successTokens : List Text)
    (hinFlight : job.inFlight .command =
      { kind := request.kind, label := request.label, hooks := hooks
        successTokens := successTokens })
    (hhands : ∀ bytes, request.encode profile.config.terminator = .ok bytes →
      job.Hands profile .command bytes) :
    (exchange profile request timeout hooks successTokens).Follows profile job Rests (some .idle)
      fun status => some (.answered .command (.ok status)) := by
  unfold exchange
  cases hencode : request.encode profile.config.terminator with
  -- a command that cannot be encoded is not begun, so there is nothing to withdraw
  | error failure => exact Rests.idle
  | ok bytes =>
      rw [← hinFlight]
      show Caller.Follows profile job Rests (do
        Caller.exchange fun exchange => exchange.start (job.inFlight .command)
        withdrawOnFailure (transmitAll profile bytes)
        awaitStatus timeout) _ _
      refine (Caller.follows_starting .command .begins).bind fun _ => ?_
      refine (follows_withdrawOnFailure (follows_transmitAll ?_)).bind fun _ => ?_
      · exact hhands bytes hencode
      · exact follows_awaitStatus timeout

end Request

/-! ## Whole requests -/

namespace Job

theorem run_follows (request : Request) (timeout : Nat) (hooks : Hooks)
    (read : Response → Except Error ρ) :
    (request.run profile timeout hooks read).Follows profile (.run request timeout hooks read)
      (· = none) none fun _ => none := by
  refine Caller.follows_checkOpen.bind fun _ => ?_
  refine (Caller.follows_precheck request.check).bind fun _ => ?_
  refine Caller.follows_locked ?_ fun _ => Rests.answered .command (.ok .success)
  refine (Request.follows_exchange timeout hooks [] rfl ?hhands).bind fun status => ?_
  case hhands => exact fun _ hencode => hencode
  refine (Caller.follows_check status .command).bind fun _ => ?_
  -- the response is read while the lock is still held
  exact ⟨_, .reads .command, fun engine =>
    Caller.follows_ofExcept (read engine.exchange.response) (Rests.answered _ _)⟩

theorem sendPayload_follows (request : Request) (payload : Payload)
    (prompt : Bytes → Option Nat) (successTokens : List Text) (result : Nat → ρ) :
    (request.sendPayload profile payload prompt successTokens).Follows profile
      (.sendPayload request payload prompt successTokens result) (· = none) none
      fun _ => none := by
  refine Caller.follows_checkOpen.bind fun _ => ?_
  refine (Caller.follows_precheck request.check).bind fun _ => ?_
  refine (Caller.follows_precheck _).bind fun _ => ?_
  refine (Caller.follows_precheck _).bind fun _ => ?_
  refine (Caller.follows_precheck payload.check).bind fun _ => ?_
  refine Caller.follows_locked ?_ fun _ => Rests.answered .payload (.ok .success)
  refine (Request.follows_exchange _ _ _ rfl ?hhands).bind fun status => ?_
  case hhands => exact fun _ hencode => hencode
  refine (Caller.follows_check status .command).bind fun _ => ?_
  -- the second command begins right after the success of the first
  refine (Caller.follows_starting .payload .prompted).bind fun _ => ?_
  refine (Request.follows_withdrawOnFailure
    (Request.follows_transmitPayload ?hdata ?hending)).bind fun sent => ?_
  case hdata => exact .inl rfl
  case hending => exact fun _ hending => .inr hending
  refine (Request.follows_awaitStatus _).bind fun status => ?_
  exact (Caller.follows_check status .payload).bind fun _ => rfl

/-- Every request keeps the order, and gives the lock back. -/
theorem program_follows (job : Job ρ) :
    (job.program profile).Follows profile job Outside none := by
  cases job with
  | run request timeout hooks read =>
      refine (run_follows request timeout hooks read).imp fun value _ hlater => ?_
      cases value <;> exact hlater
  | sendPayload request payload prompt successTokens result =>
      refine Call.Follows.bind (sendPayload_follows request payload prompt successTokens result)
        fun sent _ hlater => ?_
      cases sent <;> exact hlater

end Job

end ModemLink
