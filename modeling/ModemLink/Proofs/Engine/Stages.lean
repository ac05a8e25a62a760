import ModemLink.Engine.Request

/-!
# The stages of a request

A request waits three times: for the lock, for the link to accept the command, and for the outcome.
`Call.Asks`, `Call.Sends` and `Call.Awaits` say of a waiting call which stage it has reached, what
it does to the engine when it goes on, and what it ends with if all goes well.  `Request.run_asks`
is the specification of a request that can be sent on an open link.
-/

namespace ModemLink

namespace Caller

variable {α β : Type} {engine engine' : Engine}

/-- A call that does not wait is followed by the next one at once. -/
theorem advance_bind_of_ok {first : Caller α} {next : α → Caller β} {value : α}
    (h : first.run.advance engine = (engine', .done (.ok value))) :
    (first >>= next).run.advance engine = (next value).run.advance engine' := by
  show (first.run.bind _).advance engine = _
  rw [Call.advance_bind, h]
  rfl

/-- What fails is the end of the whole. -/
theorem advance_bind_of_error {first : Caller α} {next : α → Caller β} {failure : Error}
    (h : first.run.advance engine = (engine', .done (.error failure))) :
    (first >>= next).run.advance engine = (engine', .done (.error failure)) := by
  show (first.run.bind _).advance engine = _
  rw [Call.advance_bind, h]
  rfl

theorem advance_ofExcept (engine : Engine) (result : Except Error α) :
    (ofExcept result).run.advance engine = (engine, .done result) := rfl

theorem advance_engine (engine : Engine) :
    Caller.engine.run.advance engine = (engine, .done (.ok engine)) := rfl

theorem advance_checkOpen (h : engine.link = .opened) :
    checkOpen.run.advance engine = (engine, .done (.ok ())) := by
  unfold checkOpen
  rw [advance_bind_of_ok (advance_engine engine), advance_ofExcept, Engine.checkOpen, if_pos h]

theorem advance_checkOpen_of_ne (h : engine.link ≠ .opened) :
    checkOpen.run.advance engine = (engine, .done (.error .notOpen)) := by
  unfold checkOpen
  rw [advance_bind_of_ok (advance_engine engine), advance_ofExcept, Engine.checkOpen, if_neg h]

/-- A question about the device is answered at once. -/
theorem run_ask (f : Device → Except Error α) :
    (ask f).run = .act id fun engine => .done (f engine.device) := by
  refine congrArg (Call.act id) (funext fun engine => ?_)
  simp only [Call.bind, Function.comp, ExceptT.bindCont]
  cases f engine.device <;> rfl

theorem advance_ask {f : Device → Except Error α} {result : Except Error α}
    (h : f engine.device = result) : (ask f).run.advance engine = (engine, .done result) := by
  rw [run_ask, ← h]
  rfl

end Caller

namespace Call

variable {α : Type}

/-- The call waits for the outcome of its command.  If that is success, it gives the lock back and
ends with `result` of the response. -/
def Awaits (result : Response → α) (call : Call α) : Prop :=
  ∃ timeout next, call = .awaitOutcome timeout next ∧ ∀ engine,
    (next (some (.ok .success))).advance engine =
      ({ engine with locked := false }, .done (result engine.exchange.response))

/-- The call waits for the link to accept its command.  Then it waits for the outcome. -/
def Sends (bytes : Bytes) (result : Response → α) (call : Call α) : Prop :=
  ∃ timeout next, call = .transmit bytes timeout next ∧ ∀ engine, ∃ later,
    (next (.ok bytes.length)).advance engine = (engine, later) ∧ later.Awaits result

/-- The call waits for the lock.  Then it installs its command and sends it. -/
def Asks (inFlight : InFlight) (bytes : Bytes) (result : Response → α) (call : Call α) : Prop :=
  ∃ next, call = .acquire next ∧ ∀ engine, ∃ later,
    next.advance engine = ({ engine with exchange := engine.exchange.start inFlight }, later) ∧
      later.Sends bytes result

variable {bytes : Bytes} {result : Response → α} {call : Call α}

theorem Awaits.not_sends (h : call.Awaits result) : ¬ call.Sends bytes result := by
  obtain ⟨_, _, houtcome, -⟩ := h
  rintro ⟨_, _, htransmit, -⟩
  rw [houtcome] at htransmit
  cases htransmit

theorem Sends.ne_done (h : call.Sends bytes result) (value : α) : call ≠ .done value := by
  obtain ⟨_, _, htransmit, -⟩ := h
  rw [htransmit]
  nofun

theorem Awaits.ne_done (h : call.Awaits result) (value : α) : call ≠ .done value := by
  obtain ⟨_, _, houtcome, -⟩ := h
  rw [houtcome]
  nofun

end Call

namespace Request

variable {α : Type} {profile : Profile} {request : Request} {timeout : Nat} {hooks : Hooks}
  {read : Response → Except Error α} {bytes : Bytes}

/-- What a request does while it holds the lock. -/
def body (profile : Profile) (request : Request) (timeout : Nat) (hooks : Hooks)
    (read : Response → Except Error α) : Caller α := do
  let status ← exchange profile request timeout hooks []
  Caller.ofExcept status.check
  Caller.ofExcept (read (← Caller.engine).exchange.response)

/-- The command in flight of a request. -/
def inFlight (request : Request) (hooks : Hooks) : InFlight :=
  { kind := request.kind, label := request.label, hooks := hooks, successTokens := [] }

theorem body_sends (hencode : request.encode profile.config.terminator = .ok bytes)
    (engine : Engine) :
    ∃ later, ((body profile request timeout hooks read).run.bind
        fun result => .release (.done result)).advance engine =
          ({ engine with exchange := engine.exchange.start (request.inFlight hooks) }, later) ∧
      later.Sends bytes read := by
  simp only [body, exchange, hencode]
  refine ⟨_, rfl, _, _, rfl, fun engine => ?_⟩
  -- the link has accepted as many bytes as there are
  simp only [if_true]
  refine ⟨_, rfl, _, _, rfl, fun engine => ?_⟩
  rfl

theorem advance_run {engine : Engine} (hopen : engine.link = .opened)
    (hcheck : request.check = .ok ()) :
    (request.run profile timeout hooks read).run.advance engine =
      (engine, .acquire ((body profile request timeout hooks read).run.bind
        fun result => .release (.done result))) := by
  unfold run
  rw [Caller.advance_bind_of_ok (Caller.advance_checkOpen hopen), hcheck,
    Caller.advance_bind_of_ok (Caller.advance_ofExcept engine _)]
  rfl

/-- A request that can be sent begins by waiting for the lock. -/
theorem run_asks {engine : Engine} (hopen : engine.link = .opened) (hcheck : request.check = .ok ())
    (hencode : request.encode profile.config.terminator = .ok bytes) :
    ∃ call, (request.run profile timeout hooks read).run.advance engine = (engine, call) ∧
      call.Asks (request.inFlight hooks) bytes read :=
  ⟨_, advance_run hopen hcheck, _, rfl, body_sends hencode⟩

end Request

end ModemLink
