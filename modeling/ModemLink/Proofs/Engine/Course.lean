import ModemLink.Proofs.Engine.Lifeless
import ModemLink.Proofs.Engine.Station

/-!
# Calls that act on the outcome of a command

The receive loop only signals the outcome of a command.  What follows from it is done by the caller
when that goes on, and anything may have happened to the device by then.  A call on its `Course`
sends one command; with success it settles the device by the response, and otherwise it does nothing
to the device that is not subdued.

* `Call.Course.woken` says all that a turn of such a call can come to, and `Call.Step.turned` that
  the turn keeps to the lock discipline.
* `Request.run_starts`: a request that is followed up is on its course from its first suspension on.
-/

namespace ModemLink

open Device (Subdued)

/-! ## The course of a command that is acted on -/

namespace Call

/-- The call ends without waiting, and does nothing to the engine but to the device. -/
def Ends (call : Call Unit) : Prop := ∀ engine, ∃ device,
  call.advance engine = ({ engine with device := device }, .done ()) ∧ Subdued engine.device device

/-- The call gives the lock back and ends without waiting. -/
def Closes (call : Call Unit) : Prop := ∀ engine,
  (call.advance engine).2 = .done () ∧ (call.advance engine).1.locked = false ∧
    Subdued engine.device (call.advance engine).1.device

theorem ends_done : (done () : Call Unit).Ends := fun engine => ⟨engine.device, rfl, .refl _⟩

theorem ends_act (f : Device → Device) {next : Engine → Call Unit}
    (hf : ∀ device, Subdued device (f device)) (h : ∀ engine, (next engine).Ends) :
    (act (fun engine => { engine with device := f engine.device }) next).Ends := by
  intro engine
  obtain ⟨device, heq, hdevice⟩ := h engine { engine with device := f engine.device }
  exact ⟨device, heq, (hf engine.device).trans hdevice⟩

theorem closes_release {call : Call Unit} (h : call.Ends) : (release call).Closes := by
  intro engine
  obtain ⟨device, heq, hdevice⟩ := h { engine with locked := false }
  show (call.advance _).2 = _ ∧ (call.advance _).1.locked = _ ∧ Subdued _ (call.advance _).1.device
  rw [heq]
  exact ⟨rfl, rfl, hdevice⟩

theorem closes_withdraw {call : Call Unit} (h : call.Ends) :
    (act Engine.withdrawing fun _ => release call).Closes :=
  fun engine => closes_release h engine.withdrawing

variable {settle : Response → Device → Device} {call : Call Unit}

/-- The call waits for the outcome of its command.  With success it gives the lock back and settles
the device by the response; otherwise it just ends. -/
def Waiting (settle : Response → Device → Device) (call : Call Unit) : Prop :=
  ∃ timeout next, call = .awaitOutcome timeout next ∧
    (∀ engine, (next (some (.ok .success))).advance engine =
      ({ engine with
          locked := false, device := settle engine.exchange.response engine.device }, .done ())) ∧
    ∀ outcome, outcome ≠ some (.ok .success) → (next outcome).Closes

/-- The call waits for the link to accept its command. -/
def Sending (settle : Response → Device → Device) (call : Call Unit) : Prop :=
  ∃ bytes timeout next, call = .transmit bytes timeout next ∧
    (next (.ok bytes.length)).Waiting settle ∧
    ∀ answer, (next answer).Waiting settle ∨ (next answer).Closes

/-- The call waits for the lock, and sends its command then. -/
def Asking (settle : Response → Device → Device) (call : Call Unit) : Prop :=
  ∃ next, call = .acquire next ∧ (next.Closes ∨ ∃ inFlight later, later.Sending settle ∧
    ∀ engine, next.advance engine = (engine.starting inFlight, later))

/-- How far a call has come that sends one command and settles the device if that succeeds. -/
inductive Course (settle : Response → Device → Device) : Call Unit → Prop
  | asking {call : Call Unit} (h : call.Asking settle) : Course settle call
  | sending {call : Call Unit} (h : call.Sending settle) : Course settle call
  | waiting {call : Call Unit} (h : call.Waiting settle) : Course settle call
  | ended : Course settle (.done ())

/-- A call that holds the lock in its course has sent its command or is about to. -/
theorem Course.of_holdsLock (h : call.Course settle) (hholds : call.holdsLock = true) :
    call.Sending settle ∨ call.Waiting settle := by
  cases h with
  | asking h =>
      obtain ⟨next, rfl, -⟩ := h
      cases hholds
  | sending h => exact .inl h
  | waiting h => exact .inr h
  | ended => cases hholds

theorem Waiting.advance (h : call.Waiting settle) (engine : Engine) :
    call.advance engine = (engine, call) ∧ call.holdsLock = true := by
  obtain ⟨timeout, next, rfl, -⟩ := h
  exact ⟨rfl, rfl⟩

theorem Sending.holdsLock (h : call.Sending settle) : call.holdsLock = true := by
  obtain ⟨bytes, timeout, next, rfl, -⟩ := h
  rfl

/-- What a turn comes to, for a call that held the lock before or did not. -/
inductive Step (settle : Response → Device → Device) (engine : Engine) :
    (held : Bool) → Engine × Call Unit → Prop
  /-- The command begins, and what earlier commands left behind is dropped. -/
  | began {later : Call Unit} (inFlight : InFlight) (hfree : engine.locked = false)
      (h : later.Sending settle) :
      Step settle engine false ({ engine with locked := true }.starting inFlight, later)
  | accepted {later : Call Unit} (h : later.Waiting settle) : Step settle engine true (engine, later)
  | settled (houtcome : engine.exchange.outcome = some (.ok .success)) :
      Step settle engine true
        ({ engine with
            exchange := engine.exchange.takeOutcome, locked := false
            device := settle engine.exchange.response engine.device }, .done ())
  | closed {held : Bool} {after : Engine × Call Unit} (hcase : held = true ∨ engine.locked = false)
      (hdone : after.2 = .done ()) (hlocked : after.1.locked = false)
      (hdevice : Subdued engine.device after.1.device) : Step settle engine held after

theorem step_of_closes {engine start : Engine} {held : Bool} {next : Call Unit} (h : next.Closes)
    (hcase : held = true ∨ engine.locked = false) (hstart : start.device = engine.device) :
    Step settle engine held (next.advance start) := by
  obtain ⟨hdone, hlocked, hdevice⟩ := h start
  exact .closed hcase hdone hlocked (hstart ▸ hdevice)

theorem Course.woken {engine start : Engine} {wake : Wake} {next : Call Unit}
    (h : call.Course settle) (hwoken : call.woken engine wake = some (start, next)) :
    Step settle engine call.holdsLock (next.advance start) := by
  cases h with
  | ended => cases resumes_of_woken hwoken
  | asking h =>
      obtain ⟨rest, rfl, hrest⟩ := h
      cases resumes_of_woken hwoken with
      | acquired hfree =>
          -- with the lock, the request is encoded and begins, or closes without being sent
          rcases hrest with hcloses | ⟨inFlight, later, hlater, hadvance⟩
          · exact step_of_closes hcloses (.inr hfree) rfl
          · rw [hadvance]
            exact .began inFlight hfree hlater
  | sending h =>
      obtain ⟨bytes, timeout, rest, rfl, -, hrest⟩ := h
      cases resumes_of_woken hwoken with
      | answered answer =>
          -- the link has taken the command, or has not and the call closes
          rcases hrest answer with hlater | hcloses
          · rw [(hlater.advance engine).1]
            exact .accepted hlater
          · exact step_of_closes hcloses (.inl rfl) rfl
  | waiting h =>
      obtain ⟨timeout, rest, rfl, hsuccess, hrest⟩ := h
      cases resumes_of_woken hwoken with
      | @decided _ _ outcome houtcome =>
          -- only a success settles the device
          by_cases hcase : some outcome = some (.ok .success)
          · rw [hcase, hsuccess]
            exact .settled (houtcome.trans hcase)
          · exact step_of_closes (hrest _ hcase) (.inl rfl) rfl
      | expired => exact step_of_closes (hrest none (Option.some_ne_none _).symm) (.inl rfl) rfl

namespace Step

variable {engine : Engine} {held : Bool} {after : Engine × Call Unit}

theorem course (h : Step settle engine held after) : after.2.Course settle := by
  cases h with
  | began inFlight hfree h => exact .sending h
  | accepted h => exact .waiting h
  | settled houtcome => exact .ended
  | closed hcase hdone hlocked hdevice => exact hdone ▸ .ended

/-- A turn in the course of a command keeps to the lock discipline. -/
theorem turned (h : Step settle engine call.holdsLock after)
    (hheld : call.holdsLock = true → engine.locked = true) : Turned engine call after := by
  generalize hbefore : call.holdsLock = held at h hheld
  cases h with
  | began inFlight hfree h =>
      exact ⟨fun _ => h.holdsLock.symm, fun _ hlocked => by rw [hfree] at hlocked; cases hlocked⟩
  | accepted h =>
      exact ⟨fun _ => (hheld rfl).trans (h.advance engine).2.symm, by rw [hbefore]; nofun⟩
  | settled houtcome => exact ⟨fun _ => rfl, by rw [hbefore]; nofun⟩
  | closed hcase hdone hlocked hdevice =>
      -- the call let go of the lock, which it held before or has found free
      refine ⟨fun _ => by rw [hdone, hlocked]; rfl, fun hfree hbusy => ?_⟩
      rcases hcase with rfl | hunlocked
      · rw [hbefore] at hfree
        cases hfree
      · rw [hunlocked] at hbusy
        cases hbusy

/-- Only a success that the call had still to take settles the device. -/
theorem subdued (h : Step settle engine held after)
    (hsettle : held = true → engine.exchange.outcome = some (.ok .success) →
      Subdued engine.device (settle engine.exchange.response engine.device)) :
    Subdued engine.device after.1.device := by
  cases h with
  | began inFlight hfree h => exact .refl _
  | accepted h => exact .refl _
  | settled houtcome => exact hsettle rfl houtcome
  | closed hcase hdone hlocked hdevice => exact hdevice

/-- The call goes on with the outcome that was there before, or with none. -/
theorem exchange (h : Step settle engine held after) (hholds : after.2.holdsLock = true) :
    after.1.exchange.outcome = none ∨ held = true ∧ after.1.exchange = engine.exchange := by
  cases h with
  | began inFlight hfree h => exact .inl rfl
  | accepted h => exact .inr ⟨rfl, rfl⟩
  | settled houtcome => cases hholds
  | closed hcase hdone hlocked hdevice =>
      rw [hdone] at hholds
      cases hholds

end Step

/-! ### First turns -/

/-- A call that waits for the first time, or is done, is in a state that satisfies `P`, and has left
the lock and the exchange alone. -/
def Starts (P : Call Unit → Prop) (call : Call Unit) : Prop := ∀ engine,
  P (call.advance engine).2 ∧ (call.advance engine).2.holdsLock = false ∧
    (call.advance engine).1.locked = engine.locked ∧
    (call.advance engine).1.exchange = engine.exchange

variable {P : Call Unit → Prop}

theorem starts_act {change : Engine → Engine} {next : Engine → Call Unit}
    (hchange : ∀ engine, (change engine).locked = engine.locked ∧
      (change engine).exchange = engine.exchange)
    (h : ∀ engine, (next engine).Starts P) : (act change next).Starts P := by
  intro engine
  obtain ⟨hlater, hfree, hlocked, hexchange⟩ := h engine (change engine)
  exact ⟨hlater, hfree, hlocked.trans (hchange engine).1, hexchange.trans (hchange engine).2⟩

theorem starts_of_ends (h : call.Ends) (hdone : P (.done ())) : call.Starts P := by
  intro engine
  obtain ⟨device, heq, -⟩ := h engine
  rw [heq]
  exact ⟨hdone, rfl, rfl, rfl⟩

theorem Guarded.starts {R : Device → Device → Prop} (hrefl : ∀ device, R device device)
    (htrans : ∀ {first second third}, R first second → R second third → R first third)
    (h : call.Guarded R false false) :
    call.Starts fun later => later.Guarded R false later.holdsLock := by
  intro engine
  obtain ⟨-, hguarded, -, hout⟩ := h.advance hrefl htrans engine nofun
  obtain ⟨hlocked, hfree, hexchange⟩ := hout rfl
  exact ⟨hguarded, hfree, hlocked, hexchange⟩

end Call

namespace Caller

variable {α β : Type} {P : Call Unit → Prop} {k : Except Error β → Call Unit}

/-- What follows an attempt gets its result. -/
theorem run_attempt_bind (caller : Caller α) (g : Except Error α → Caller β) :
    (caller.attempt >>= g).run = caller.run.bind fun result => (g result).run := by
  show (caller.run.bind _).bind _ = _
  rw [Call.bind_assoc]
  rfl

theorem attempt_bind (caller : Caller α) (g : Except Error α → Caller β) :
    (caller.attempt >>= g).run.bind k = caller.run.bind fun result => (g result).run.bind k := by
  rw [run_attempt_bind, Call.bind_assoc]

/-- A check ends a call. -/
theorem ends_check {result : Except Error α} {g : α → Caller β}
    (hok : ∀ value, ((g value).run.bind k).Ends) (hfailure : ∀ failure, (k (.error failure)).Ends) :
    ((ofExcept result >>= g).run.bind k).Ends := by
  cases result with
  | ok value => exact hok value
  | error failure => exact hfailure failure

/-- An operation of the device ends a call. -/
theorem ends_device {f : Device → Device × Except Error α} {g : α → Caller β}
    (hf : ∀ device, Subdued device (f device).1) (hok : ∀ value, ((g value).run.bind k).Ends)
    (hfailure : ∀ failure, (k (.error failure)).Ends) :
    ((Caller.device f >>= g).run.bind k).Ends :=
  Call.ends_act (fun device => (f device).1) hf fun _ => ends_check hok hfailure

/-- A check begins a call. -/
theorem starts_check {result : Except Error α} {g : α → Caller β}
    (hok : ∀ value, ((g value).run.bind k).Starts P)
    (hfailure : ∀ failure, (k (.error failure)).Starts P) :
    ((ofExcept result >>= g).run.bind k).Starts P := by
  cases result with
  | ok value => exact hok value
  | error failure => exact hfailure failure

/-- An operation of the device begins a call. -/
theorem starts_device {f : Device → Device × Except Error α} {g : α → Caller β}
    (hok : ∀ value, ((g value).run.bind k).Starts P)
    (hfailure : ∀ failure, (k (.error failure)).Starts P) :
    ((Caller.device f >>= g).run.bind k).Starts P :=
  Call.starts_act (fun _ => ⟨rfl, rfl⟩) fun _ => starts_check hok hfailure

/-- A question about the device begins a call. -/
theorem starts_ask {f : Device → Except Error α} {g : α → Caller β}
    (hok : ∀ value, ((g value).run.bind k).Starts P)
    (hfailure : ∀ failure, (k (.error failure)).Starts P) :
    ((ask f >>= g).run.bind k).Starts P := by
  show (((ask f).run.bind _).bind k).Starts P
  rw [run_ask]
  exact Call.starts_act (fun _ => ⟨rfl, rfl⟩) fun _ => starts_check hok hfailure

theorem starts_checkOpen {g : Unit → Caller β} (hok : ((g ()).run.bind k).Starts P)
    (hfailure : ∀ failure, (k (.error failure)).Starts P) :
    ((checkOpen >>= g).run.bind k).Starts P :=
  Call.starts_act (fun _ => ⟨rfl, rfl⟩) fun _ => starts_check (fun _ => hok) hfailure

end Caller

/-! ## Requests that are followed up -/

namespace Request

variable {α : Type} {profile : Profile} {request : Request} {read : Response → Except Error α}
  {k : Except Error α → Call Unit} {settle : Response → Device → Device}

/-- What a request does once its command was sent, and what follows it. -/
theorem waiting_awaitStatus (timeout : Nat)
    (hread : ∀ response engine, (k (read response)).advance engine =
      ({ engine with device := settle response engine.device }, .done ()))
    (hfailure : ∀ failure, (k (.error failure)).Ends) :
    (((do
        let status ← awaitStatus timeout
        Caller.ofExcept status.check
        Caller.ofExcept (read (← Caller.engine).exchange.response) : Caller α).run.bind
      fun result => .release (.done result)).bind k).Waiting settle := by
  refine ⟨timeout, _, rfl, fun engine => ?_, fun outcome houtcome => ?_⟩
  · show Call.advance { engine with locked := false } (k (read engine.exchange.response)) = _
    rw [hread]
  · -- out of time, a call withdraws its request; with a failure, it lets go of the lock
    cases outcome with
    | none => exact Call.closes_withdraw (hfailure .timeout)
    | some outcome =>
        cases outcome with
        | error failure => exact Call.closes_release (hfailure failure)
        | ok status =>
            cases status with
            | success => exact absurd rfl houtcome
            | modemError | error | unknown => exact Call.closes_release (hfailure _)

/-- A request that is about to wait for the lock, and what follows it. -/
theorem asking_body (timeout : Nat) (hooks : Hooks)
    (hread : ∀ response engine, (k (read response)).advance engine =
      ({ engine with device := settle response engine.device }, .done ()))
    (hfailure : ∀ failure, (k (.error failure)).Ends) :
    (Call.acquire (((request.body profile timeout hooks read).run.bind
      fun result => .release (.done result)).bind k)).Asking settle := by
  have hwaiting := waiting_awaitStatus timeout hread hfailure
  refine ⟨_, rfl, ?_⟩
  unfold body exchange
  cases hencode : request.encode profile.config.terminator with
  | error failure => exact .inl (Call.closes_release (hfailure failure))
  | ok bytes =>
      refine .inr ⟨request.inFlight hooks, _, ⟨bytes, _, _, rfl, ?_, fun answer => ?_⟩,
        fun engine => rfl⟩
      · simp only [if_true]
        exact hwaiting
      · -- a link that takes less than the whole command has failed as well
        cases answer with
        | error cause => exact .inr (Call.closes_withdraw (hfailure _))
        | ok sent =>
            by_cases hsent : sent = bytes.length
            · simp only [hsent, if_true]
              exact .inl hwaiting
            · simp only [hsent, if_false]
              exact .inr (Call.closes_withdraw (hfailure _))

/-- A request whose success settles the device, and whose failure leaves it subdued. -/
theorem run_starts (timeout : Nat) (hooks : Hooks)
    (hread : ∀ response engine, (k (read response)).advance engine =
      ({ engine with device := settle response engine.device }, .done ()))
    (hfailure : ∀ failure, (k (.error failure)).Ends) :
    ((request.run profile timeout hooks read).run.bind k).Starts (Call.Course settle) := by
  have hends : ∀ failure, (k (.error failure)).Starts (Call.Course settle) :=
    fun failure => Call.starts_of_ends (hfailure failure) .ended
  -- two checks come first, and neither waits
  refine Caller.starts_checkOpen (Caller.starts_check (fun _ engine => ?_) hends) hends
  exact ⟨.asking (asking_body timeout hooks hread hfailure), rfl, rfl, rfl⟩

end Request

end ModemLink
