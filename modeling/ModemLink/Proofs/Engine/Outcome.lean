import ModemLink.Proofs.Engine.Tracking

/-!
# Each request gets its own outcome

Callers take turns with the exchange, and late lines, failures and timeouts fall between any two of
their steps.  `Traffic.Orderly` says what they can rely on nevertheless: what a caller collects was
signalled for its own command, once, and the response that a request reads is made of the lines and
the data that answered this command and nothing else.  `Traffic.orderly_plays` proves it for all
sequences of moves.
-/

namespace ModemLink

variable {ρ : Type} {profile : Profile}

/-- What is left of a request that is about to read the response. -/
def Call.Reads (read : Response → Except Error ρ) (call : Call (Except Error ρ)) : Prop :=
  ∃ next, call = .act id next ∧
    ∀ engine, next engine = .release (.done (read engine.exchange.response))

/-! ## Reading the response -/

/-- A call ends with an error unless it reads the response. -/
def Call.EndsReading (read : Response → Except Error ρ) : Call (Except Error ρ) → Prop
  | done result => ∃ failure, result = .error failure
  | act change next =>
      (act change next).Reads read ∨ ∀ engine, (next engine).EndsReading read
  | acquire next | release next | awaitLink _ next => next.EndsReading read
  | transmit _ _ next => ∀ answer, (next answer).EndsReading read
  | awaitOutcome _ next => ∀ outcome, (next outcome).EndsReading read

theorem Call.EndsReading.bind {α : Type} {read : Response → Except Error ρ} (call : Call α)
    {f : α → Call (Except Error ρ)} (h : ∀ value, (f value).EndsReading read) :
    (call.bind f).EndsReading read := by
  induction call with
  | done value => exact h value
  | act change next ih => exact .inr ih
  | acquire next ih | release next ih | awaitLink condition next ih => exact ih
  | transmit bytes timeout next ih => exact ih
  | awaitOutcome timeout next ih => exact ih

/-- A request ends with an error unless it reads the response. -/
theorem Request.run_endsReading (request : Request) (timeout : Nat) (hooks : Hooks)
    (read : Response → Except Error ρ) :
    (request.run profile timeout hooks read).run.EndsReading read := by
  refine Call.EndsReading.bind _ fun opened => ?_
  cases opened with
  | error failure => exact ⟨failure, rfl⟩
  | ok _ =>
      refine Call.EndsReading.bind _ fun checked => ?_
      cases checked with
      | error failure => exact ⟨failure, rfl⟩
      | ok _ =>
          show ((Request.body profile request timeout hooks read).run.bind
            fun result => .release (.done result)).EndsReading read
          -- inside the lock the status decides: only a success comes to the reading
          refine (Call.bind_assoc _ _ _).symm ▸ Call.EndsReading.bind _ fun status => ?_
          cases status with
          | error failure => exact ⟨failure, rfl⟩
          | ok status =>
              cases status with
              | success => exact .inl ⟨_, rfl, fun _ => rfl⟩
              | modemError | error | unknown => exact ⟨_, rfl⟩

/-- A request reads the response only after its command was successful. -/
theorem Call.Follows.of_reads {job : Job ρ} {post : Except Error ρ → Option Stage → Prop}
    {stage : Option Stage} {read : Response → Except Error ρ} {call : Call (Except Error ρ)}
    (h : call.Follows profile job post stage) (hreads : call.Reads read) :
    ∃ phase, stage = some (.answered phase (.ok .success)) := by
  obtain ⟨next, rfl, hnext⟩ := hreads
  obtain ⟨later, hacts, hrest⟩ := h
  have hrelease := hrest (.initial {})
  rw [hnext] at hrelease
  obtain ⟨⟨last, rfl, hover⟩, -⟩ := hrelease
  generalize hchange : (id : Engine → Engine) = change at hacts
  cases hacts with
  | reads phase => exact ⟨phase, rfl⟩
  | begins => cases hover
  | prompted => cases hover
  | withdraws phase => exact absurd hchange.symm Engine.withdrawing_ne_id

namespace Traffic

/-- What callers can rely on. -/
structure Orderly (profile : Profile) (traffic : Traffic ρ) : Prop where
  /-- While a command is in flight there is no outcome. -/
  unsignalled : traffic.engine.exchange.inFlight ≠ none → traffic.engine.exchange.outcome = none
  /-- An outcome that a caller finds was signalled for its own command, since that was begun and
  before any other was, and nothing else was signalled for it. -/
  collected : ∀ caller job timeout next outcome,
    traffic.callers caller = some (job, .awaitOutcome timeout next) →
      traffic.engine.exchange.outcome = some outcome →
        ∃ phase earlier between,
          Began traffic.log earlier between caller (job.inFlight phase) ∧
            signals between = [outcome]
  once : Once traffic.log
  /-- Without a command in flight no frame changes the exchange. -/
  idle : traffic.engine.exchange.inFlight = none → ∀ frame,
    (traffic.engine.handleFrame profile.table frame).exchange = traffic.engine.exchange
  /-- The response that a request reads holds what answered its command up to the line that ended
  that with success, and nothing has concerned the command since. -/
  read : ∀ caller request timeout hooks read call,
    traffic.callers caller = some (.run request timeout hooks read, call) → call.Reads read →
      ∃ earlier between,
        Began traffic.log earlier between caller (request.inFlight hooks) ∧
          Ended profile (request.inFlight hooks) between (.ok .success)
            traffic.engine.exchange.response

theorem Kept.orderly {traffic : Traffic ρ} {holder : Option (Nat × Stage)}
    (h : Kept profile traffic holder) : Orderly profile traffic where
  unsignalled hflight := by
    obtain ⟨inFlight, hflight⟩ := Option.ne_none_iff_exists'.mp hflight
    cases hholder : holder with
    | none =>
        rw [h.idle hholder] at hflight
        cases hflight
    | some owner =>
        obtain ⟨job, call, -, htells⟩ := h.tells owner.1 owner.2 hholder
        obtain ⟨_, _, _, -, -, -, -, hpending, -⟩ := htells.pending hflight
        rw [hpending]
        rfl
  collected caller job timeout next outcome hcall houtcome := by
    -- a caller that waits for an outcome is in a phase of its own, and the signal is that phase's
    obtain ⟨phase, hstage, -⟩ := h.follows caller job _ hcall
    obtain ⟨earlier, between, hbegan, -, ⟨hpending, -⟩ | ⟨-, signalled, hsome, hended⟩⟩ :=
      h.tells_of_stageOf hcall hstage
    · rw [hpending] at houtcome
      cases houtcome
    · obtain rfl : outcome = signalled := Option.some.inj (houtcome.symm.trans hsome)
      exact ⟨phase, earlier, between, hbegan, hended.signals⟩
  once := h.once
  idle hidle frame := Engine.exchange_handleFrame_of_idle hidle profile.table frame
  read caller request timeout hooks read call hcall hreads := by
    obtain ⟨phase, hstage⟩ := (h.follows caller _ call hcall).of_reads hreads
    exact (h.tells_of_stageOf hcall hstage).2

/-- Each request gets one outcome at most, and only its own, whatever happens. -/
theorem orderly_plays (profile : Profile) (listeners : Listeners) (moves : List (Move ρ)) :
    Orderly profile ((Traffic.initial listeners).plays profile moves) := by
  obtain ⟨holder, hkept⟩ := kept_plays profile listeners moves
  exact hkept.orderly

/-- A query of the signal quality. -/
def signalQuery : Job Response :=
  .run { command := "AT+CSQ", kind := .oneLabelled, label := some "+CSQ" } 5000 .none .ok

/-- The query waits for the lock while the time of another request runs out.  The late answer to
that comes first, then the answer to the query and one line more. -/
def lateAnswer : List (Move Response) :=
  let operator : Job Response :=
    .run { command := "AT+COPS?", kind := .oneLabelled, label := some "+COPS" } 5000 .none .ok
  [.aside { Engine.initial {} with link := .opened }, .calls 0 operator, .goes 0, .goes 0,
    .calls 1 signalQuery, .goes 1, .goes 1, .goes 0, .answered 0 (.ok 9), .expires 0, .goes 0,
    .goes 0, .goes 1, .arrives (Text.toBytes "\r\n+COPS: 0\r\n\r\nOK\r\n"), .handles, .handles,
    .goes 1, .answered 1 (.ok 7),
    .arrives (Text.toBytes "\r\n+CSQ: 23,99\r\n\r\nOK\r\n\r\n+CSQ: 9,9\r\n"), .handles, .handles,
    .handles, .goes 1]

/-- The query reads its own line only. -/
theorem orderly_plays_lateAnswer :
    let traffic := (Traffic.initial {}).plays { config := {}, table := Bg96.tokenTable } lateAnswer
    (∃ call, traffic.callers 1 = some (signalQuery, call) ∧ call.Reads .ok) ∧
      traffic.engine.exchange.response =
        { status := .success, lines := ["+CSQ: 23,99"], data := [] } ∧
      Orderly { config := {}, table := Bg96.tokenTable } traffic := by
  refine ⟨⟨_, rfl, _, rfl, fun _ => rfl⟩, ?_, orderly_plays _ _ _⟩
  decide +kernel

end Traffic

end ModemLink
