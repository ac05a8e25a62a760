import ModemLink.Bg96.Tokens
import ModemLink.Proofs.Engine.Station
import ModemLink.Proofs.Engine.Tracking

/-!
# What a request leaves behind

A request checks what it was given, waits for the lock, and does all the rest while it holds the lock
(`Job.program_eq`).  So it returns in one of two ways (`Traffic.Ends`): it was refused by a check and
has changed nothing, or it gives the lock back.  By then its command has ended or was withdrawn, and
`Traffic.returns_without_trace` follows: if anything is in flight when a request returns, it belongs
to another caller, and the request was refused.

Nothing in flight means that nothing is taken for an answer (`Engine.Idle`), and that stays so until
some caller begins a command (`Traffic.idle_plays`).
-/

namespace ModemLink

variable {α β ρ : Type} {profile : Profile}

/-- Two checks are one. -/
theorem Caller.ofExcept_seq {first second : Except Error Unit} {next : Caller α} :
    (do
      Caller.ofExcept first
      Caller.ofExcept second
      next) =
      (do
        Caller.ofExcept (first >>= fun _ => second)
        next) := by
  cases first <;> rfl

/-! ## Calls inside the lock -/

namespace Call

/-- The call neither takes the lock nor gives it back, and does not wait for the link to come up. -/
def Inner : Call α → Prop
  | done _ => True
  | act _ next => ∀ engine, (next engine).Inner
  | acquire _ | release _ | awaitLink .. => False
  | transmit _ _ next => ∀ answer, (next answer).Inner
  | awaitOutcome _ next => ∀ outcome, (next outcome).Inner

/-- The last thing that the call does is to give the lock back. -/
def Holding : Call α → Prop
  | done _ | acquire _ | awaitLink .. => False
  | act _ next => ∀ engine, (next engine).Holding
  | release next => ∃ value, next = done value
  | transmit _ _ next => ∀ answer, (next answer).Holding
  | awaitOutcome _ next => ∀ outcome, (next outcome).Holding

theorem Inner.bind {call : Call α} {f : α → Call β} (h : call.Inner)
    (hf : ∀ value, (f value).Inner) : (call.bind f).Inner := by
  induction call with
  | done value => exact hf value
  | act change next ih => exact fun engine => ih engine (h engine)
  | acquire | release | awaitLink => exact h.elim
  | transmit bytes timeout next ih => exact fun answer => ih answer (h answer)
  | awaitOutcome timeout next ih => exact fun outcome => ih outcome (h outcome)

theorem Inner.holding {call : Call α} {f : α → Call β} (h : call.Inner)
    (hf : ∀ value, (f value).Holding) : (call.bind f).Holding := by
  induction call with
  | done value => exact hf value
  | act change next ih => exact fun engine => ih engine (h engine)
  | acquire | release | awaitLink => exact h.elim
  | transmit bytes timeout next ih => exact fun answer => ih answer (h answer)
  | awaitOutcome timeout next ih => exact fun outcome => ih outcome (h outcome)

theorem Holding.ne_done {call : Call α} (h : call.Holding) (value : α) : call ≠ .done value := by
  rintro rfl
  exact h

end Call

namespace Caller

theorem inner_ofExcept (result : Except Error α) : (ofExcept result).run.Inner := trivial

theorem inner_exchange (change : Exchange → Exchange) : (exchange change).run.Inner :=
  fun _ => trivial

theorem inner_bind {caller : Caller α} {f : α → Caller β} (h : caller.run.Inner)
    (hf : ∀ value, (f value).run.Inner) : (caller >>= f).run.Inner := by
  refine Call.Inner.bind h fun result => ?_
  cases result with
  | ok value => exact hf value
  | error failure => trivial

end Caller

namespace Request

variable {request : Request} {payload : Payload}

theorem inner_transmitAll (bytes : Bytes) : (transmitAll profile bytes).run.Inner := by
  intro answer
  cases answer <;> trivial

theorem inner_withdrawOnFailure {body : Caller α} (h : body.run.Inner) :
    (withdrawOnFailure body).run.Inner := by
  refine Caller.inner_bind (Call.Inner.bind h fun _ => trivial) fun result => ?_
  cases result with
  | ok value => trivial
  | error failure => exact Caller.inner_bind (Caller.inner_exchange _) fun _ => trivial

theorem inner_awaitStatus (timeout : Nat) : (awaitStatus timeout).run.Inner := by
  intro outcome
  cases outcome with
  | none => exact Caller.inner_bind (Caller.inner_exchange _) fun _ => trivial
  | some outcome => exact Caller.inner_ofExcept outcome

theorem inner_transmitPayload : (transmitPayload profile payload).run.Inner := by
  refine Caller.inner_bind (inner_transmitAll payload.data) fun _ => ?_
  cases payload.ending with
  | none => trivial
  | some ending => exact Caller.inner_bind (inner_transmitAll ending) fun _ => trivial

theorem inner_exchange (timeout : Nat) (hooks : Hooks) (successTokens : List Text) :
    (exchange profile request timeout hooks successTokens).run.Inner := by
  refine Caller.inner_bind (Caller.inner_ofExcept _) fun bytes => ?_
  refine Caller.inner_bind (Caller.inner_exchange _) fun _ => ?_
  refine Caller.inner_bind (inner_withdrawOnFailure (inner_transmitAll bytes)) fun _ => ?_
  exact inner_awaitStatus timeout

theorem inner_body (timeout : Nat) (hooks : Hooks) (read : Response → Except Error α) :
    (body profile request timeout hooks read).run.Inner := by
  refine Caller.inner_bind (inner_exchange timeout hooks []) fun status => ?_
  refine Caller.inner_bind (Caller.inner_ofExcept status.check) fun _ => ?_
  exact Caller.inner_bind (fun _ => trivial) fun engine => Caller.inner_ofExcept _

/-- What a request for payload does while it holds the lock. -/
def payloadBody (profile : Profile) (request : Request) (payload : Payload)
    (prompt : Bytes → Option Nat) (successTokens : List Text) : Caller Nat := do
  let timeout := profile.config.commandTimeout
  let prompted ← exchange profile request timeout { header := none, prompt := some prompt }
    promptTokens
  Caller.ofExcept prompted.check
  Caller.exchange fun exchange => exchange.start
    { kind := .noResult, label := none, hooks := .none, successTokens := successTokens }
  let sent ← withdrawOnFailure (transmitPayload profile payload)
  let status ← awaitStatus timeout
  Caller.ofExcept status.check
  return sent

theorem inner_payloadBody (prompt : Bytes → Option Nat) (successTokens : List Text) :
    (payloadBody profile request payload prompt successTokens).run.Inner := by
  -- two commands one after the other, and the lock stays taken in between
  refine Caller.inner_bind (inner_exchange _ _ _) fun prompted => ?_
  refine Caller.inner_bind (Caller.inner_ofExcept prompted.check) fun _ => ?_
  refine Caller.inner_bind (Caller.inner_exchange _) fun _ => ?_
  refine Caller.inner_bind (inner_withdrawOnFailure inner_transmitPayload) fun sent => ?_
  refine Caller.inner_bind (inner_awaitStatus _) fun status => ?_
  exact Caller.inner_bind (Caller.inner_ofExcept status.check) fun _ => trivial

end Request

/-! ## The two parts of a request -/

namespace Job

/-- What a request checks before it waits for the lock. -/
def checks (profile : Profile) (engine : Engine) : Job ρ → Except Error Unit
  | .run request .. => do
      engine.checkOpen
      request.check
  | .sendPayload request payload _ successTokens _ => do
      engine.checkOpen
      request.check
      profile.table.checkSuccesses Request.promptTokens
      profile.table.checkSuccesses successTokens
      payload.check

/-- What a request does once it has the lock, up to giving it back. -/
def held (profile : Profile) : Job ρ → Call (Except Error ρ)
  | .run request timeout hooks read =>
      (request.body profile timeout hooks read).run.bind fun result => .release (.done result)
  | .sendPayload request payload prompt successTokens result =>
      (request.payloadBody profile payload prompt successTokens).run.bind fun sent =>
        .release (.done (sent.map result))

theorem holding_held (job : Job ρ) : (job.held profile).Holding := by
  cases job with
  | run request timeout hooks read =>
      exact (Request.inner_body timeout hooks read).holding fun result => ⟨result, rfl⟩
  | sendPayload request payload prompt successTokens result =>
      exact (Request.inner_payloadBody prompt successTokens).holding fun sent =>
        ⟨sent.map result, rfl⟩

/-- A request looks at the engine once.  Then it is refused, or waits for the lock. -/
theorem program_eq (job : Job ρ) :
    job.program profile = .act id fun engine =>
      match job.checks profile engine with
      | .error failure => .done (.error failure)
      | .ok _ => .acquire (job.held profile) := by
  cases job with
  | run request timeout hooks read =>
      -- checks in a row, run together into one result, and then the part that takes the lock
      show Call.act id (fun engine => (do
        Caller.ofExcept engine.checkOpen
        Caller.ofExcept request.check
        Caller.locked (request.body profile timeout hooks read) : Caller ρ).run) = _
      refine congrArg (Call.act id) (funext fun engine => ?_)
      rw [Caller.ofExcept_seq, checks]
      cases engine.checkOpen >>= fun _ => request.check <;> rfl
  | sendPayload request payload prompt successTokens result =>
      show Call.act id (fun engine => (result <$> do
        Caller.ofExcept engine.checkOpen
        Caller.ofExcept request.check
        Caller.ofExcept (profile.table.checkSuccesses Request.promptTokens)
        Caller.ofExcept (profile.table.checkSuccesses successTokens)
        Caller.ofExcept payload.check
        Caller.locked (request.payloadBody profile payload prompt successTokens)).run) = _
      refine congrArg (Call.act id) (funext fun engine => ?_)
      simp only [Caller.ofExcept_seq]
      show (result <$> do
        Caller.ofExcept ((sendPayload request payload prompt successTokens result).checks profile
          engine)
        Caller.locked (request.payloadBody profile payload prompt successTokens)).run = _
      cases (sendPayload request payload prompt successTokens result).checks profile engine with
      | error failure => rfl
      | ok _ =>
          -- the result is turned into an answer inside the lock rather than after it
          show Call.acquire (((request.payloadBody profile payload prompt successTokens).run.bind
            fun sent => .release (.done sent)).bind _) = _
          rw [Call.bind_assoc, held]
          refine congrArg (fun next => Call.acquire (Call.bind _ next)) (funext fun sent => ?_)
          cases sent <;> rfl

/-- What may be left of a request: all of it, what comes once it has the lock, or nothing. -/
inductive Left (profile : Profile) (job : Job ρ) : Call (Except Error ρ) → Prop
  | whole : Left profile job (job.program profile)
  | waits : Left profile job (.acquire (job.held profile))
  | holds {call : Call (Except Error ρ)} (h : call.Holding) : Left profile job call
  | ended (result : Except Error ρ) : Left profile job (.done result)

/-- In the course of a command a request has the lock. -/
theorem Left.holding {job : Job ρ} {call : Call (Except Error ρ)} (h : job.Left profile call)
    (hlock : call.holdsLock = true) : call.Holding := by
  cases h with
  | whole =>
      rw [program_eq] at hlock
      cases hlock
  | waits | ended => cases hlock
  | holds h => exact h

theorem program_ne_done (job : Job ρ) (result : Except Error ρ) :
    job.program profile ≠ .done result := by
  rw [program_eq]
  nofun

end Job

/-! ## The last step of a request -/

namespace Traffic

variable {before after : Traffic ρ} {caller : Nat} {job : Job ρ} {call : Call (Except Error ρ)}
  {result : Except Error ρ} {holder : Option (Nat × Stage)}

/-- How a request ends: it is refused, or it gives the lock back. -/
inductive Ends (profile : Profile) (before : Traffic ρ) (caller : Nat) (job : Job ρ) :
    Except Error ρ → Traffic ρ → Prop
  | refused {failure : Error} {after : Traffic ρ}
      (hrefused : job.checks profile before.engine = .error failure)
      (hengine : after.engine = before.engine) :
      Ends profile before caller job (.error failure) after
  | gaveBack {result : Except Error ρ} {after : Traffic ρ}
      (hcall : before.callers caller = some (job, .release (.done result)))
      (hengine : after.engine = { before.engine with locked := false }) :
      Ends profile before caller job result after

/-- What a step of a caller leads to: what is left is still to be done, or the request has ended. -/
def Goes (profile : Profile) (before : Traffic ρ) (caller : Nat) (job : Job ρ)
    (next : Call (Except Error ρ)) (after : Traffic ρ) : Prop :=
  (job.Left profile next ∧ ∀ result, next ≠ .done result) ∨
    ∃ result, next = .done result ∧ Ends profile before caller job result after

theorem goes_of_holding {next : Call (Except Error ρ)} (h : next.Holding) :
    Goes profile before caller job next after :=
  .inl ⟨.holds h, h.ne_done⟩

/-- A caller does its next step, or waits. -/
theorem goes_go (hcall : before.callers caller = some (job, call)) (hleft : job.Left profile call) :
    (before.go caller job call).callers = before.callers ∨
      ∃ next, (before.go caller job call).callers =
          Function.update before.callers caller (some (job, next)) ∧
        Goes profile before caller job next (before.go caller job call) := by
  cases hleft with
  | ended result => exact .inl rfl
  | whole =>
      -- the first step looks at the engine, and the checks decide
      rw [Job.program_eq]
      refine .inr ⟨_, rfl, ?_⟩
      simp only
      cases hchecks : job.checks profile before.engine with
      | error failure => exact .inr ⟨_, rfl, .refused hchecks rfl⟩
      | ok _ => exact .inl ⟨.waits, by nofun⟩
  | waits =>
      -- the lock may be taken by someone else
      simp only [go]
      split
      · exact .inl rfl
      · exact .inr ⟨_, rfl, goes_of_holding job.holding_held⟩
  | holds h =>
      -- inside the lock the last step is to give it back, and only that one ends the request
      cases call with
      | done | acquire | awaitLink => exact h.elim
      | act change next => exact .inr ⟨_, rfl, goes_of_holding (h _)⟩
      | transmit bytes timeout next => exact .inl rfl
      | release next =>
          obtain ⟨result, rfl⟩ := h
          exact .inr ⟨_, rfl, .inr ⟨result, rfl, .gaveBack hcall rfl⟩⟩
      | awaitOutcome timeout next =>
          simp only [go]
          split
          · exact .inl rfl
          · exact .inr ⟨_, rfl, goes_of_holding (h _)⟩

/-- What is left of every call is left of its request. -/
def AllLeft (profile : Profile) (traffic : Traffic ρ) : Prop :=
  ∀ caller job call, traffic.callers caller = some (job, call) → job.Left profile call

/-- A move leaves all callers where they are, or one of them goes on. -/
theorem goes_play (h : AllLeft profile before) (move : Move ρ) :
    (before.play profile move).callers = before.callers ∨
      ∃ caller job next, (before.play profile move).callers =
          Function.update before.callers caller (some (job, next)) ∧
        Goes profile before caller job next (before.play profile move) := by
  -- only moves that name a caller make it go on
  cases move with
  | arrives | empties | aside | ends | loses => exact .inl rfl
  | handles =>
      simp only [play, handle]
      split <;> exact .inl rfl
  | calls caller job =>
      simp only [play]
      split
      · exact .inr ⟨caller, job, _, rfl, .inl ⟨.whole, job.program_ne_done⟩⟩
      · exact .inr ⟨caller, job, _, rfl, .inl ⟨.whole, job.program_ne_done⟩⟩
      · exact .inl rfl
  | goes caller =>
      simp only [play]
      split
      next job call hcall =>
        exact (goes_go hcall (h caller job call hcall)).imp id fun hgoes => ⟨caller, job, hgoes⟩
      · exact .inl rfl
  | answered caller answer =>
      simp only [play]
      split
      next job bytes timeout next hcall =>
        exact .inr ⟨caller, job, _, rfl, goes_of_holding ((h caller job _ hcall).holding rfl _)⟩
      · exact .inl rfl
  | expires caller =>
      simp only [play]
      split
      next job bytes timeout next hcall =>
        exact .inr ⟨caller, job, _, rfl, goes_of_holding ((h caller job _ hcall).holding rfl _)⟩
      next job timeout next hcall =>
        exact .inr ⟨caller, job, _, rfl, goes_of_holding ((h caller job _ hcall).holding rfl _)⟩
      · exact .inl rfl

theorem AllLeft.play (h : AllLeft profile before) (move : Move ρ) :
    AllLeft profile (before.play profile move) := by
  intro other otherJob otherCall hother
  rcases goes_play h move with hsame | ⟨caller, job, next, hcallers, hgoes⟩
  · exact h other otherJob otherCall (hsame ▸ hother)
  rw [hcallers] at hother
  -- one caller has gone on, and what is left of its request is still left of it
  by_cases heq : other = caller
  · rw [heq, Function.update_self] at hother
    cases hother
    rcases hgoes with ⟨hleft, -⟩ | ⟨result, rfl, -⟩
    · exact hleft
    · exact .ended result
  · rw [Function.update_of_ne heq] at hother
    exact h other otherJob otherCall hother

theorem allLeft_plays (profile : Profile) (listeners : Listeners) (moves : List (Move ρ)) :
    AllLeft profile ((initial listeners).plays profile moves) :=
  List.foldlRecOn (motive := AllLeft profile) moves _ nofun fun _ h move _ => h.play move

/-- The request of a caller returns in a move. -/
structure Returns (profile : Profile) (before : Traffic ρ) (move : Move ρ) (caller : Nat)
    (job : Job ρ) (result : Except Error ρ) : Prop where
  runs : ∀ last value, before.callers caller ≠ some (last, .done value)
  returns : (before.play profile move).callers caller = some (job, .done result)

/-- A request returns by being refused, or by giving the lock back. -/
theorem Returns.ends {move : Move ρ} (hleft : AllLeft profile before)
    (h : Returns profile before move caller job result) :
    Ends profile before caller job result (before.play profile move) := by
  have hreturns := h.returns
  rcases goes_play hleft move with hsame | ⟨other, otherJob, next, hcallers, hgoes⟩
  · rw [hsame] at hreturns
    exact absurd hreturns (h.runs job result)
  rw [hcallers] at hreturns
  -- the caller that has returned is the one that went on
  by_cases heq : caller = other
  · rw [heq, Function.update_self] at hreturns
    cases hreturns
    rcases hgoes with ⟨-, hrest⟩ | ⟨value, hdone, hends⟩
    · exact absurd rfl (hrest result)
    · cases hdone
      exact heq ▸ hends
  · rw [Function.update_of_ne heq] at hreturns
    exact absurd hreturns (h.runs job result)

/-! ## What is in flight then -/

/-- Another caller has its command in flight, and goes on with its request. -/
def BusyWithOther (traffic : Traffic ρ) (caller : Nat) : Prop :=
  ∃ other job call phase, other ≠ caller ∧ traffic.callers other = some (job, call) ∧
    (∀ value, call ≠ .done value) ∧
      traffic.engine.exchange.inFlight = some (job.inFlight phase)

/-- What is in flight belongs to a caller that has not returned. -/
theorem Kept.busyWithOther {traffic : Traffic ρ} (h : Kept profile traffic holder)
    (hdone : traffic.callers caller = some (job, .done result))
    (hbusy : traffic.engine.exchange.inFlight ≠ none) : traffic.BusyWithOther caller := by
  obtain ⟨inFlight, hflight⟩ := Option.ne_none_iff_exists'.mp hbusy
  cases hholder : holder with
  | none => exact absurd (h.idle hholder) hbusy
  | some owner =>
      obtain ⟨other, stage⟩ := owner
      obtain ⟨otherJob, call, hcall, htells⟩ := h.tells other stage hholder
      obtain ⟨phase, earlier, between, -, rfl, -⟩ := htells.pending hflight
      -- a request that is done has given the lock back
      have hrest : ∀ value, call ≠ .done value := by
        rintro value rfl
        have hstage : stageOf holder other = none := h.follows other otherJob _ hcall
        rw [hholder, stageOf_self] at hstage
        cases hstage
      refine ⟨other, otherJob, call, phase, ?_, hcall, hrest, hflight⟩
      rintro rfl
      rw [hdone] at hcall
      cases hcall
      exact hrest result rfl

/-- Without the lock being taken nothing is in flight. -/
theorem Kept.idle_of_unlocked {traffic : Traffic ρ} (h : Kept profile traffic holder)
    (hlocked : traffic.engine.locked = false) : traffic.engine.exchange.inFlight = none := by
  refine h.idle (Option.not_isSome_iff_eq_none.mp ?_)
  rw [← h.locked, hlocked]
  exact Bool.false_ne_true

/-- A request that returns leaves nothing in flight, unless it was refused while another caller had
its command in flight. -/
theorem Returns.inFlight {move : Move ρ} (hleft : AllLeft profile before)
    (hkept : Kept profile (before.play profile move) holder)
    (h : Returns profile before move caller job result) :
    (before.play profile move).engine.exchange.inFlight = none ∨
      (∃ failure, job.checks profile before.engine = .error failure ∧ result = .error failure) ∧
        (before.play profile move).engine = before.engine ∧
          (before.play profile move).BusyWithOther caller := by
  by_cases hbusy : (before.play profile move).engine.exchange.inFlight = none
  · exact .inl hbusy
  have hother := hkept.busyWithOther h.returns hbusy
  have hends := h.ends hleft
  generalize before.play profile move = after at hends hkept hbusy hother ⊢
  cases hends with
  | refused hrefused hengine => exact .inr ⟨⟨_, hrefused, rfl⟩, hengine, hother⟩
  | gaveBack hcall hengine =>
      exact absurd (hkept.idle_of_unlocked (by rw [hengine])) hbusy

/-! ## Until another command begins -/

/-- A caller begins a command in a move. -/
def BeginsIn (profile : Profile) (traffic : Traffic ρ) (move : Move ρ) : Prop :=
  ∃ caller inFlight,
    (traffic.play profile move).log = traffic.log ++ [.acted caller (Engine.starting inFlight)]

/-- No caller begins a command in any of the moves. -/
def NoneBegins (profile : Profile) (traffic : Traffic ρ) : List (Move ρ) → Prop
  | [] => True
  | move :: moves =>
      ¬ traffic.BeginsIn profile move ∧ (traffic.play profile move).NoneBegins profile moves

/-- The receive loop begins no command. -/
theorem not_beginsIn_arrives {chunk : Bytes} : ¬ before.BeginsIn profile (.arrives chunk) := by
  rintro ⟨caller, inFlight, hlog⟩
  simp [play] at hlog

theorem not_beginsIn_handles : ¬ before.BeginsIn profile .handles := by
  rintro ⟨caller, inFlight, hlog⟩
  simp only [play, handle] at hlog
  split at hlog <;> simp [record] at hlog

/-- Without a command in flight only the beginning of a command changes that. -/
theorem Kept.idle_play (h : Kept profile before holder)
    (hidle : before.engine.exchange.inFlight = none) {move : Move ρ}
    (hmove : ¬ before.BeginsIn profile move) :
    (before.play profile move).engine.exchange.inFlight = none := by
  unfold BeginsIn at hmove
  cases move with
  | arrives | empties | aside => exact hidle
  | ends | loses => exact Exchange.inFlight_complete _ _
  | handles =>
      simp only [Traffic.play, Traffic.handle]
      split
      · exact hidle
      · exact (congrArg _ (Engine.exchange_handleFrame_of_idle hidle _ _)).trans hidle
  | calls caller job =>
      simp only [Traffic.play]
      split <;> exact hidle
  | answered caller answer =>
      simp only [Traffic.play]
      split <;> exact hidle
  | expires caller =>
      simp only [Traffic.play]
      split <;> exact hidle
  | goes caller =>
      -- a step of a caller: of the actions that are allowed only the two that begin a command put
      -- something in flight
      simp only [Traffic.play] at hmove ⊢
      split at hmove
      next job call hcall =>
        have hfollows := h.follows caller job call hcall
        cases call with
        | done | transmit | release => exact hidle
        | acquire | awaitLink | awaitOutcome =>
            simp only [Traffic.go]
            split <;> exact hidle
        | act change next =>
            obtain ⟨later, hacts, -⟩ := hfollows
            generalize stageOf holder caller = stage at hacts
            cases hacts with
            | looks | reads => exact hidle
            | begins | prompted => exact absurd ⟨caller, _, rfl⟩ hmove
            | withdraws => rfl
      · exact hidle

end Traffic

/-- Nothing is in flight: frames are looked for without hooks, no line is taken for an answer, and no
frame is stored. -/
structure Engine.Idle (table : TokenTable UrcHandler) (engine : Engine) : Prop where
  inFlight : engine.exchange.inFlight = none
  hooks : engine.exchange.hooks = .none
  role : ∀ line, LineRole.of table engine.exchange.inFlight line ≠ .solicited
  exchange : ∀ frame, (engine.handleFrame table frame).exchange = engine.exchange

theorem Engine.idle_of_inFlight {engine : Engine} (h : engine.exchange.inFlight = none)
    (table : TokenTable UrcHandler) : engine.Idle table where
  inFlight := h
  hooks := by rw [Exchange.hooks, h]
  role line := h ▸ LineRole.of_none_ne_solicited table line
  exchange := exchange_handleFrame_of_idle h table

namespace Traffic

variable {traffic : Traffic ρ} {holder : Option (Nat × Stage)}

/-- Nothing is in flight until some caller begins a command. -/
theorem Kept.idle_plays (h : Kept profile traffic holder)
    (hidle : traffic.engine.exchange.inFlight = none) {moves : List (Move ρ)}
    (hmoves : traffic.NoneBegins profile moves) :
    (traffic.plays profile moves).engine.Idle profile.table := by
  induction moves generalizing traffic holder with
  | nil => exact Engine.idle_of_inFlight hidle profile.table
  | cons move moves ih =>
      obtain ⟨later, hlater⟩ := h.play move
      exact ih hlater (h.idle_play hidle hmoves.1) hmoves.2

/-- However a request returns, it leaves nothing in flight, and nothing is until some caller begins a
command.  The exception is a request that was refused before it waited for the lock: that changes
nothing, and another caller may have its command in flight. -/
theorem returns_without_trace (listeners : Listeners) (moves : List (Move ρ)) {move : Move ρ}
    {caller : Nat} {job : Job ρ} {result : Except Error ρ}
    (h : Returns profile ((initial listeners).plays profile moves) move caller job result) :
    let before := (initial listeners).plays profile moves
    let after := before.play profile move
    (after.engine.exchange.inFlight = none ∨
      (∃ failure, job.checks profile before.engine = .error failure ∧ result = .error failure) ∧
        after.engine = before.engine ∧ after.BusyWithOther caller) ∧
    (after.engine.exchange.inFlight = none → ∀ later, after.NoneBegins profile later →
      (after.plays profile later).engine.Idle profile.table) := by
  intro before after
  obtain ⟨holder, hkept⟩ := kept_plays profile listeners moves
  obtain ⟨last, hafter⟩ := hkept.play move
  exact ⟨h.inFlight (allLeft_plays profile listeners moves) hafter,
    fun hidle later hlater => hafter.idle_plays hidle hlater⟩

/-- Five bytes for socket 0.  The modem asks for them, and after that it says nothing more. -/
def unansweredPayload : Job Nat :=
  .sendPayload { command := "AT+QISEND=0,5", kind := .noResult } { data := Text.toBytes "hello" }
    Hooks.dataPrompt ["SEND OK"] id

/-- Time runs out in the second phase, and the request is about to give the lock back. -/
def payloadTimeout : List (Move Nat) :=
  [.aside { Engine.initial {} with link := .opened }, .calls 0 unansweredPayload, .goes 0, .goes 0,
    .goes 0, .answered 0 (.ok 14), .arrives (Text.toBytes "\r\n> "), .handles, .goes 0, .goes 0,
    .answered 0 (.ok 5), .expires 0, .goes 0]

/-- The request fails with a timeout and leaves nothing in flight.  The `SEND OK` that comes too late
is nobody's. -/
theorem returns_without_trace_payloadTimeout :
    let profile : Profile := { config := {}, table := Bg96.tokenTable }
    let before := (initial {}).plays profile payloadTimeout
    let after := before.play profile (.goes 0)
    Returns profile before (.goes 0) 0 unansweredPayload (.error .timeout) ∧
      before.engine.locked = true ∧ after.engine.exchange.inFlight = none ∧
        (after.plays profile [.arrives (Text.toBytes "SEND OK\r\n"), .handles]).engine.Idle
          profile.table := by
  have hcall : ((initial {}).plays { config := {}, table := Bg96.tokenTable }
      payloadTimeout).callers 0 =
        some (unansweredPayload, .release (.done (.error .timeout))) := rfl
  have hreturns : Returns { config := {}, table := Bg96.tokenTable }
      ((initial {}).plays { config := {}, table := Bg96.tokenTable } payloadTimeout) (.goes 0) 0
      unansweredPayload (.error .timeout) := by
    refine { runs := fun last value hdone => ?_, returns := rfl }
    rw [hcall] at hdone
    cases hdone
  -- the lock is given back with nothing in flight, and the link begins nothing
  have hidle : (((initial {}).plays { config := {}, table := Bg96.tokenTable }
      payloadTimeout).play { config := {}, table := Bg96.tokenTable }
        (.goes 0)).engine.exchange.inFlight = none := rfl
  have hnone := (returns_without_trace {} payloadTimeout hreturns).2 hidle
    [.arrives (Text.toBytes "SEND OK\r\n"), .handles]
    ⟨not_beginsIn_arrives, not_beginsIn_handles, trivial⟩
  exact ⟨hreturns, rfl, hidle, hnone⟩

/-- A query beside which another request is refused. -/
def plainQuery : Job Unit :=
  .run { command := "AT", kind := .noResult } 200 .none fun _ => .ok ()

/-- A request without command. -/
def emptyRequest : Job Unit :=
  .run { command := [], kind := .noResult } 200 .none fun _ => .ok ()

/-- A request is about to be refused while another caller has its command in flight. -/
def besideAnother : List (Move Unit) :=
  [.aside { Engine.initial {} with link := .opened }, .calls 0 plainQuery, .goes 0, .goes 0, .goes 0,
    .calls 1 emptyRequest]

/-- After a request was refused, something is in flight nevertheless: the other command, and its
result code is an answer. -/
theorem refused_beside_another :
    let profile : Profile := { config := {}, table := Bg96.tokenTable }
    let before := (initial {}).plays profile besideAnother
    let after := before.play profile (.goes 1)
    Returns profile before (.goes 1) 1 emptyRequest (.error .badParameter) ∧
      after.engine.exchange.inFlight = some (plainQuery.inFlight .command) ∧
        LineRole.of profile.table after.engine.exchange.inFlight "OK" = .solicited := by
  intro profile before after
  have hcall : before.callers 1 = some (emptyRequest, emptyRequest.program profile) := rfl
  have hflight : after.engine.exchange.inFlight = some (plainQuery.inFlight .command) := rfl
  refine ⟨{ runs := fun last value hdone => ?_, returns := rfl }, hflight, ?_⟩
  · rw [hcall] at hdone
    exact emptyRequest.program_ne_done value (congrArg Prod.snd (Option.some.inj hdone))
  · rw [hflight]
    decide

end Traffic

end ModemLink
