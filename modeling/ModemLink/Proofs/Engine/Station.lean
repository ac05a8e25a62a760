import Mathlib.Logic.Function.Basic
import ModemLink.Proofs.Engine.Discipline
import ModemLink.Proofs.Engine.Traffic

/-!
# Stations

A `Station` is an engine with its receive loop and any number of callers, each of which goes on in
turns: once it is woken it does everything up to its next suspension, and nothing else happens
meanwhile.  In between chunks arrive, the link comes up and is lost, callers are given up, and so on,
in any order.

* `Call.Guarded` is the lock discipline of a call: it hands over bytes and awaits outcomes only while
  it holds the lock, and outside it leaves the exchange alone.  `Call.Guarded.woken` says what it
  does in a turn.
* `Station.kept_after`: where all callers keep to that discipline, the lock is taken exactly while
  some caller is in the course of a command, and only one is.
-/

namespace ModemLink

/-! ## The lock discipline -/

namespace Call

variable {α β : Type} {R : Device → Device → Prop} {inside mid last : Bool}

/-- The call waits in the course of a command.  It holds the lock then. -/
def holdsLock : Call α → Bool
  | transmit .. | awaitOutcome .. => true
  | _ => false

/-- Whether the engine lets a caller go on that changes it so. -/
structure Allows (R : Device → Device → Prop) (inside : Bool) (before after : Engine) : Prop where
  device : R before.device after.device
  locked : after.locked = before.locked
  exchange : inside = false → after.exchange = before.exchange

/-- Whatever happens to the engine between two suspensions, the call takes the lock before it hands
over bytes or waits for an outcome, gives it back before it waits for anything else, and changes the
engine only as `R` allows; and it ends outside or inside, as `last` says. -/
def Guarded (R : Device → Device → Prop) (last : Bool) : Call α → (inside : Bool) → Prop
  | done _, inside => inside = last
  | act change next, inside =>
      ∀ engine, Allows R inside engine (change engine) ∧ (next engine).Guarded R last inside
  | acquire next, inside => inside = false ∧ next.Guarded R last true
  | release next, inside => inside = true ∧ next.Guarded R last false
  | transmit _ _ next, inside => inside = true ∧ ∀ answer, (next answer).Guarded R last true
  | awaitOutcome _ next, inside => inside = true ∧ ∀ outcome, (next outcome).Guarded R last true
  | awaitLink _ next, inside => inside = false ∧ next.Guarded R last false

theorem Guarded.bind {call : Call α} {f : α → Call β} (h : call.Guarded R mid inside)
    (hnext : ∀ value, (f value).Guarded R last mid) : (call.bind f).Guarded R last inside := by
  induction call generalizing inside with
  | done value => exact (show inside = mid from h) ▸ hnext value
  | act change next ih => exact fun engine => ⟨(h engine).1, ih engine (h engine).2⟩
  | acquire next ih => exact ⟨h.1, ih h.2⟩
  | release next ih => exact ⟨h.1, ih h.2⟩
  | transmit bytes timeout next ih => exact ⟨h.1, fun answer => ih answer (h.2 answer)⟩
  | awaitOutcome timeout next ih => exact ⟨h.1, fun outcome => ih outcome (h.2 outcome)⟩
  | awaitLink condition next ih => exact ⟨h.1, ih h.2⟩

/-- What the order of a request allows is allowed here, whatever may be done to the device. -/
theorem allows_of_acts {ρ : Type} {job : Job ρ} {change : Engine → Engine}
    {stage later : Option Stage} (hrefl : ∀ device, R device device)
    (h : Stage.Acts job change stage later) (engine : Engine) :
    Allows R stage.isSome engine (change engine) ∧ later.isSome = stage.isSome := by
  cases h with
  | looks | reads => exact ⟨⟨hrefl _, rfl, fun _ => rfl⟩, rfl⟩
  | begins | prompted | withdraws => exact ⟨⟨hrefl _, rfl, nofun⟩, rfl⟩

/-- A call that keeps the order of a request keeps to the lock discipline, and leaves the device
alone. -/
theorem Follows.guarded {ρ : Type} {profile : Profile} {job : Job ρ} {call : Call α}
    {post : α → Option Stage → Prop} {stage : Option Stage} (hrefl : ∀ device, R device device)
    (h : call.Follows profile job post stage)
    (hlast : ∀ value later, post value later → later.isSome = last) :
    call.Guarded R last stage.isSome := by
  induction call generalizing stage with
  | done value => exact hlast value stage h
  | act change next ih =>
      obtain ⟨later, hacts, hrest⟩ := h
      intro engine
      obtain ⟨hallows, hsame⟩ := allows_of_acts hrefl hacts engine
      exact ⟨hallows, hsame ▸ ih engine (hrest engine)⟩
  | acquire next ih =>
      obtain ⟨rfl, hrest⟩ := h
      exact ⟨rfl, ih hrest⟩
  | release next ih =>
      -- whoever gives the lock back or is in a phase has a stage, and so is inside
      obtain ⟨⟨_, rfl, -⟩, hrest⟩ := h
      exact ⟨rfl, ih hrest⟩
  | transmit bytes timeout next ih =>
      obtain ⟨phase, rfl, -, hrest⟩ := h
      exact ⟨rfl, fun answer => ih answer (hrest answer)⟩
  | awaitOutcome timeout next ih =>
      obtain ⟨phase, rfl, hexpired, hrest⟩ := h
      refine ⟨rfl, fun outcome => ?_⟩
      cases outcome with
      | none => exact ih none hexpired
      | some outcome => exact ih (some outcome) (hrest outcome)
  | awaitLink condition next ih =>
      obtain ⟨rfl, hrest⟩ := h
      exact ⟨rfl, ih hrest⟩

/-! ### Turns -/

/-- What lets a waiting call go on. -/
inductive Wake where
  /-- What it waits for is there: the lock, an outcome, or a status of the link. -/
  | ready
  /-- The link answers. -/
  | answered (answer : Except LinkError Nat)
  /-- Time runs out. -/
  | expired

/-- Where a call goes on when it is woken, if that can be. -/
def woken (engine : Engine) : Wake → Call α → Option (Engine × Call α)
  | .ready, acquire next =>
      if engine.locked then none else some ({ engine with locked := true }, next)
  | .ready, awaitOutcome _ next => engine.exchange.outcome.map fun outcome =>
      ({ engine with exchange := engine.exchange.takeOutcome }, next (some outcome))
  | .ready, awaitLink condition next =>
      if condition engine.link then some (engine, next) else none
  | .answered answer, transmit _ _ next => some (engine, next answer)
  | .expired, awaitOutcome _ next => some (engine, next none)
  | _, _ => none

/-- What each kind of waiting call needs to go on, and where it then stands. -/
inductive Resumes (engine : Engine) : Wake → Call α → Engine → Call α → Prop
  | acquired {next : Call α} (hfree : engine.locked = false) :
      Resumes engine .ready (.acquire next) { engine with locked := true } next
  | answered {bytes : Bytes} {timeout : Nat} {next : Except LinkError Nat → Call α}
      (answer : Except LinkError Nat) :
      Resumes engine (.answered answer) (.transmit bytes timeout next) engine (next answer)
  | decided {timeout : Nat} {next : Option Outcome → Call α} {outcome : Outcome}
      (houtcome : engine.exchange.outcome = some outcome) :
      Resumes engine .ready (.awaitOutcome timeout next)
        { engine with exchange := engine.exchange.takeOutcome } (next (some outcome))
  | expired {timeout : Nat} {next : Option Outcome → Call α} :
      Resumes engine .expired (.awaitOutcome timeout next) engine (next none)
  | linked {condition : LinkStatus → Bool} {next : Call α} (hlink : condition engine.link = true) :
      Resumes engine .ready (.awaitLink condition next) engine next

theorem resumes_of_woken {call next : Call α} {engine start : Engine} {wake : Wake}
    (h : call.woken engine wake = some (start, next)) : Resumes engine wake call start next := by
  -- a call goes on only if the wake is the one that it waits for
  cases call with
  | done | act | release => cases wake <;> cases h
  | transmit bytes timeout rest =>
      cases wake <;> cases h
      exact .answered _
  | acquire rest =>
      cases wake with
      | ready =>
          by_cases hlocked : engine.locked = true
          · simp only [woken, hlocked, if_true] at h
            cases h
          · simp only [woken, hlocked, if_false, Bool.false_eq_true] at h
            cases h
            exact .acquired ((Bool.not_eq_true _).mp hlocked)
      | answered | expired => cases h
  | awaitOutcome timeout rest =>
      cases wake with
      | ready =>
          obtain ⟨outcome, houtcome, heq⟩ := Option.map_eq_some_iff.mp h
          cases heq
          exact .decided houtcome
      | answered => cases h
      | expired =>
          cases h
          exact .expired
  | awaitLink condition rest =>
      cases wake with
      | ready =>
          simp only [woken] at h
          split at h <;> cases h
          next hlink => exact .linked hlink
      | answered | expired => cases h

/-- What a turn of a call does to the lock, and to the exchange if another caller has the lock. -/
structure Turned (before : Engine) (call : Call α) (after : Engine × Call α) : Prop where
  own : call.holdsLock = true ∨ before.locked = false → after.1.locked = after.2.holdsLock
  other : call.holdsLock = false → before.locked = true →
    after.1.locked = true ∧ after.2.holdsLock = false ∧ after.1.exchange = before.exchange

/-- Up to its next suspension a call keeps to the discipline. -/
theorem Guarded.advance {call : Call α} (hrefl : ∀ device, R device device)
    (htrans : ∀ {first second third}, R first second → R second third → R first third)
    (h : call.Guarded R false inside) (engine : Engine)
    (hheld : inside = true → engine.locked = true) :
    let after := call.advance engine
    R engine.device after.1.device ∧ after.2.Guarded R false after.2.holdsLock ∧
      (inside = true → after.1.locked = after.2.holdsLock) ∧
      (inside = false → after.1.locked = engine.locked ∧ after.2.holdsLock = false ∧
        after.1.exchange = engine.exchange) := by
  induction call generalizing engine inside with
  | done value =>
      obtain rfl : inside = false := h
      exact ⟨hrefl _, rfl, nofun, fun _ => ⟨rfl, rfl, rfl⟩⟩
  | act change next ih =>
      obtain ⟨⟨hdevice, hlocked, hexchange⟩, hrest⟩ := h engine
      obtain ⟨hlater, hguarded, hin, hout⟩ :=
        ih engine hrest (change engine) fun hinside => hlocked.trans (hheld hinside)
      refine ⟨htrans hdevice hlater, hguarded, hin, fun hinside => ?_⟩
      obtain ⟨hsame, hfree, hkept⟩ := hout hinside
      exact ⟨hsame.trans hlocked, hfree, hkept.trans (hexchange hinside)⟩
  | release next ih =>
      -- the lock is given back here, so from here on the rest is outside
      obtain ⟨rfl, hrest⟩ := h
      obtain ⟨hlater, hguarded, -, hout⟩ := ih hrest { engine with locked := false } nofun
      obtain ⟨hsame, hfree, -⟩ := hout rfl
      exact ⟨hlater, hguarded, fun _ => hsame.trans hfree.symm, nofun⟩
  | acquire next =>
      -- the others wait, and the engine is as it was
      obtain ⟨rfl, hrest⟩ := h
      exact ⟨hrefl _, ⟨rfl, hrest⟩, nofun, fun _ => ⟨rfl, rfl, rfl⟩⟩
  | awaitLink condition next =>
      obtain ⟨rfl, hrest⟩ := h
      exact ⟨hrefl _, ⟨rfl, hrest⟩, nofun, fun _ => ⟨rfl, rfl, rfl⟩⟩
  | transmit bytes timeout next =>
      obtain ⟨rfl, hrest⟩ := h
      exact ⟨hrefl _, ⟨rfl, hrest⟩, fun _ => hheld rfl, nofun⟩
  | awaitOutcome timeout next =>
      obtain ⟨rfl, hrest⟩ := h
      exact ⟨hrefl _, ⟨rfl, hrest⟩, fun _ => hheld rfl, nofun⟩

/-- A woken call does its turn in the discipline. -/
theorem Guarded.woken {call next : Call α} {engine start : Engine} {wake : Wake}
    (hrefl : ∀ device, R device device)
    (htrans : ∀ {first second third}, R first second → R second third → R first third)
    (h : call.Guarded R false call.holdsLock)
    (hheld : call.holdsLock = true → engine.locked = true)
    (hwoken : call.woken engine wake = some (start, next)) :
    R engine.device (next.advance start).1.device ∧
      (next.advance start).2.Guarded R false (next.advance start).2.holdsLock ∧
      Turned engine call (next.advance start) := by
  -- woken inside, a call goes on inside, and another caller cannot have had the lock
  have hinside : ∀ {start : Engine} {next : Call α}, call.holdsLock = true →
      start.device = engine.device → start.locked = true → next.Guarded R false true →
      R engine.device (next.advance start).1.device ∧
        (next.advance start).2.Guarded R false (next.advance start).2.holdsLock ∧
        Turned engine call (next.advance start) := by
    intro start next hcall hdevice hlocked hrest
    obtain ⟨hlater, hguarded, hin, -⟩ := hrest.advance hrefl htrans start fun _ => hlocked
    exact ⟨hdevice ▸ hlater, hguarded, fun _ => hin rfl, by rw [hcall]; nofun⟩
  cases resumes_of_woken hwoken with
  | acquired hfree =>
      obtain ⟨hlater, hguarded, hin, -⟩ :=
        h.2.advance hrefl htrans { engine with locked := true } fun _ => rfl
      exact ⟨hlater, hguarded, fun _ => hin rfl,
        fun _ hlocked => absurd (hfree.symm.trans hlocked) Bool.false_ne_true⟩
  | answered answer => exact hinside rfl rfl (hheld rfl) (h.2 answer)
  | decided houtcome => exact hinside rfl rfl (hheld rfl) (h.2 _)
  | expired => exact hinside rfl rfl (hheld rfl) (h.2 none)
  | linked hlink =>
      -- woken outside without taking the lock: both lock and exchange stay as they are
      obtain ⟨hlater, hguarded, -, hout⟩ := h.2.advance hrefl htrans engine nofun
      obtain ⟨hsame, hfree, hkept⟩ := hout rfl
      refine ⟨hlater, hguarded, fun hcase => ?_, fun _ hlocked => ?_⟩
      · have hunlocked : engine.locked = false := hcase.resolve_left nofun
        rw [hsame, hfree, hunlocked]
      · exact ⟨hsame.trans hlocked, hfree, hkept⟩

end Call

/-! ### Calls that begin and end outside -/

namespace Caller

variable {α β : Type} {R : Device → Device → Prop}

/-- A call that may fail keeps to the lock discipline, from outside to outside. -/
def Guarded (R : Device → Device → Prop) (caller : Caller α) : Prop :=
  caller.run.Guarded R false false

theorem guarded_ofExcept (result : Except Error α) : (ofExcept result).Guarded R := rfl

theorem Guarded.bind {caller : Caller α} {f : α → Caller β} (h : caller.Guarded R)
    (hnext : ∀ value, (f value).Guarded R) : (caller >>= f).Guarded R := by
  refine Call.Guarded.bind h fun result => ?_
  cases result with
  | ok value => exact hnext value
  | error failure => exact rfl

theorem Guarded.attempt {caller : Caller α} (h : caller.Guarded R) : caller.attempt.Guarded R :=
  Call.Guarded.bind h fun _ => rfl

theorem guarded_ask (hrefl : ∀ device, R device device) (f : Device → Except Error α) :
    (ask f).Guarded R := by
  rw [Guarded, run_ask]
  exact fun _ => ⟨⟨hrefl _, rfl, fun _ => rfl⟩, rfl⟩

theorem guarded_device {f : Device → Device × Except Error α}
    (h : ∀ device, R device (f device).1) : (Caller.device f).Guarded R :=
  fun engine => ⟨⟨h engine.device, rfl, fun _ => rfl⟩, rfl⟩

end Caller

/-! Requests leave the device alone. -/

section

variable {α ρ : Type} {R : Device → Device → Prop} {profile : Profile}

theorem Job.program_guarded (hrefl : ∀ device, R device device) (job : Job ρ) :
    (job.program profile).Guarded R false false :=
  job.program_follows.guarded hrefl fun _ later hlater => by
    rw [show later = none from hlater]
    rfl

theorem Request.run_guarded (hrefl : ∀ device, R device device) (request : Request) (timeout : Nat)
    (hooks : Hooks) (read : Response → Except Error α) :
    (request.run profile timeout hooks read).Guarded R :=
  Job.program_guarded hrefl (.run request timeout hooks read)

theorem Request.sendPayload_guarded (hrefl : ∀ device, R device device) (request : Request)
    (payload : Payload) (prompt : Bytes → Option Nat) (successTokens : List Text) :
    (request.sendPayload profile payload prompt successTokens).Guarded R :=
  (Job.sendPayload_follows request payload prompt successTokens id).guarded hrefl
    fun result later hlater => by
      cases result <;> rw [show later = none from hlater] <;> rfl

end

/-! ## The system -/

/-- The receive loop leaves the lock to the callers. -/
theorem Engine.locked_drain (profile : Profile) (fuel : Nat) (engine : Engine)
    (buffer : ReadBuffer) : (drain profile fuel engine buffer).1.locked = engine.locked := by
  induction fuel generalizing engine buffer with
  | zero => rfl
  | succ fuel ih =>
      unfold drain
      split
      · rfl
      · exact (ih _ _).trans (locked_handleFrame _ _ _)

theorem Engine.locked_receive (profile : Profile) (engine : Engine) (buffer : ReadBuffer)
    (chunk : Bytes) : (engine.receive profile buffer chunk).1.locked = engine.locked :=
  locked_drain profile ((buffer.append chunk).bytes.length + 1) engine (buffer.append chunk)

/-- An engine, its receive loop and its callers.  `ι` names what callers do. -/
structure Station (ι ρ : Type) where
  engine : Engine
  /-- The read buffer of the receive loop. -/
  buffer : ReadBuffer
  /-- Whether the receive loop reads. -/
  reading : Bool
  /-- What each caller does, and what is left of that. -/
  callers : Nat → Option (ι × Call ρ)

namespace Station

/-- What can happen next. -/
inductive Event (ι : Type) where
  /-- A receive loop begins to open the link. -/
  | opening
  /-- The link could not be opened. -/
  | refused
  /-- The link is up, and the receive loop begins to read. -/
  | opened
  | received (chunk : Bytes)
  /-- The receive loop ends because somebody asked for it. -/
  | ended
  /-- The receive loop ends because the link failed. -/
  | lost (cause : LinkError)
  /-- A call that never waits changes the device, or asks the receive loop to end. -/
  | changed (device : Device) (shutdown : Bool)
  /-- A caller that has nothing to do makes a call. -/
  | called (caller : Nat) (job : ι)
  /-- A waiting caller does its turn. -/
  | woken (caller : Nat) (wake : Call.Wake)
  /-- A caller gives its call up. -/
  | dropped (caller : Nat)

variable {ι ρ : Type} {profile : Profile} {program : ι → Call ρ}

def initial (listeners : Listeners) : Station ι ρ :=
  { engine := .initial listeners, buffer := .empty, reading := false, callers := fun _ => none }

/-- The caller is in the course of a command. -/
def holds (station : Station ι ρ) (caller : Nat) : Bool :=
  (station.callers caller).any fun (_, call) => call.holdsLock

/-- The caller has made no call, or its last one is done. -/
def isFree (station : Station ι ρ) (caller : Nat) : Bool :=
  (station.callers caller).all fun (_, call) => call.value?.isSome

/-- A caller has come to its next suspension. -/
def turn (station : Station ι ρ) (caller : Nat) (job : ι) (after : Engine × Call ρ) :
    Station ι ρ :=
  { station with
    engine := after.1, callers := Function.update station.callers caller (some (job, after.2)) }

/-- The receive loop ends and closes the link. -/
def finish (station : Station ι ρ) (engine : Engine) : Station ι ρ :=
  { station with engine := engine.becomeClosed, reading := false }

/-- A caller is given up, with the lock that it may hold. -/
def drop (station : Station ι ρ) (caller : Nat) : Station ι ρ :=
  { station with
    engine :=
      { station.engine with locked := station.engine.locked && !station.holds caller }
    callers := Function.update station.callers caller none }

def play (profile : Profile) (program : ι → Call ρ) (station : Station ι ρ) :
    Event ι → Station ι ρ
  | .opening =>
      match station.engine.beginOpening with
      | .ok engine => { station with engine := engine }
      | .error _ => station
  | .refused =>
      if station.engine.link = .opening then
        { station with engine := station.engine.becomeClosed }
      else station
  | .opened =>
      if station.engine.link = .opening then
        { station with engine := station.engine.becomeOpen, buffer := .empty, reading := true }
      else station
  | .received chunk =>
      if station.reading then
        let (engine, buffer) := station.engine.receive profile station.buffer chunk
        { station with engine := engine, buffer := buffer }
      else station
  | .ended =>
      if station.reading ∧ station.engine.shutdown then station.finish station.engine.endInOrder
      else station
  | .lost cause =>
      if station.reading then station.finish (station.engine.loseLink cause) else station
  | .changed device shutdown =>
      { station with engine := { station.engine with device := device, shutdown := shutdown } }
  | .called caller job =>
      if station.isFree caller then
        station.turn caller job ((program job).advance station.engine)
      else station
  | .woken caller wake =>
      match station.callers caller with
      | none => station
      | some (job, call) =>
          match call.woken station.engine wake with
          | none => station
          | some (engine, next) => station.turn caller job (next.advance engine)
  | .dropped caller => station.drop caller

def plays (profile : Profile) (program : ι → Call ρ) (station : Station ι ρ)
    (events : List (Event ι)) : Station ι ρ :=
  events.foldl (play profile program) station

/-- What a new station becomes. -/
def after (profile : Profile) (program : ι → Call ρ) (listeners : Listeners)
    (events : List (Event ι)) : Station ι ρ :=
  (initial listeners).plays profile program events

/-! ## What an event does to the callers -/

variable {station : Station ι ρ}

/-- A caller begins a call, goes on with it, or gives it up, or all callers stay where they are. -/
inductive Moves (program : ι → Call ρ) (station : Station ι ρ) : Event ι → Station ι ρ → Prop
  | none {event : Event ι} {later : Station ι ρ} (hcallers : later.callers = station.callers)
      (hlocked : later.engine.locked = station.engine.locked) : Moves program station event later
  | called {caller : Nat} (job : ι) (hfree : station.isFree caller = true) :
      Moves program station (.called caller job)
        (station.turn caller job ((program job).advance station.engine))
  | woken {caller : Nat} {wake : Call.Wake} {job : ι} {call next : Call ρ} {start : Engine}
      (hcall : station.callers caller = some (job, call))
      (hwoken : call.woken station.engine wake = some (start, next)) :
      Moves program station (.woken caller wake) (station.turn caller job (next.advance start))
  | dropped (caller : Nat) : Moves program station (.dropped caller) (station.drop caller)

theorem moves_play (profile : Profile) (program : ι → Call ρ) (station : Station ι ρ)
    (event : Event ι) : Moves program station event (station.play profile program event) := by
  unfold Station.play
  -- the link and the receive loop change neither the callers nor the lock
  cases event with
  | opening =>
      simp only [Engine.beginOpening]
      split
      next engine hopening =>
        split at hopening <;> cases hopening
        exact .none rfl rfl
      · exact .none rfl rfl
  | refused => simp only; split <;> exact .none rfl rfl
  | opened => simp only; split <;> exact .none rfl rfl
  | received chunk =>
      simp only
      split
      · exact .none rfl (Engine.locked_receive profile _ _ chunk)
      · exact .none rfl rfl
  | ended => simp only; split <;> exact .none rfl rfl
  | lost cause => simp only; split <;> exact .none rfl rfl
  | changed device shutdown => exact .none rfl rfl
  | called caller job =>
      simp only
      split
      next hfree => exact .called job hfree
      · exact .none rfl rfl
  | woken caller wake =>
      simp only
      split
      · exact .none rfl rfl
      next job call hcall =>
        split
        · exact .none rfl rfl
        next start next hwoken => exact .woken hcall hwoken
  | dropped caller => exact .dropped caller

/-- A free caller makes a call. -/
theorem play_called (profile : Profile) (program : ι → Call ρ) {caller : Nat}
    (hfree : station.isFree caller = true) (job : ι) :
    station.play profile program (.called caller job) =
      station.turn caller job ((program job).advance station.engine) := if_pos hfree

/-- A caller gets what it waits for, and goes on. -/
theorem play_woken (profile : Profile) (program : ι → Call ρ) {caller : Nat} {wake : Call.Wake}
    {job : ι} {call next : Call ρ} {start : Engine}
    (hcall : station.callers caller = some (job, call))
    (hwoken : call.woken station.engine wake = some (start, next)) :
    station.play profile program (.woken caller wake) =
      station.turn caller job (next.advance start) := by
  simp only [play, hcall, hwoken]

/-! ## Who holds the lock -/

/-- The lock is taken while a caller is in the course of a command, and only one caller is. -/
def Owned (station : Station ι ρ) : Prop :=
  ∃ holder : Option Nat, station.engine.locked = holder.isSome ∧
    ∀ caller, station.holds caller = true ↔ holder = some caller

/-- What is known of calls in the course of time: `Fits` of each that waits, and what its turns do
to the lock. -/
structure Discipline (program : ι → Call ρ) (Fits : ι → Call ρ → Prop) : Prop where
  called : ∀ job engine, Fits job ((program job).advance engine).2 ∧
    ((program job).advance engine).2.holdsLock = false ∧
    ((program job).advance engine).1.locked = engine.locked ∧
    ((program job).advance engine).1.exchange = engine.exchange
  woken : ∀ {job call next engine start wake}, Fits job call →
    (call.holdsLock = true → engine.locked = true) →
      Call.woken engine wake call = some (start, next) →
        Fits job (next.advance start).2 ∧ Call.Turned engine call (next.advance start)

/-- Calls that keep to the lock discipline, each changing the device only as its job allows. -/
theorem discipline_of_guarded {R : ι → Device → Device → Prop}
    (hrefl : ∀ job device, R job device device)
    (htrans : ∀ {job first second third},
      R job first second → R job second third → R job first third)
    (h : ∀ job, (program job).Guarded (R job) false false) :
    Discipline program fun job call => call.Guarded (R job) false call.holdsLock where
  called job engine := by
    obtain ⟨-, hguarded, -, hout⟩ := (h job).advance (hrefl job) htrans engine nofun
    obtain ⟨hlocked, hholds, hexchange⟩ := hout rfl
    exact ⟨hguarded, hholds, hlocked, hexchange⟩
  woken {job} {call} {next} {engine} {start} {wake} hfits hheld hwoken :=
    (hfits.woken (hrefl job) htrans hheld hwoken).2

/-- Every caller fits, and the lock has one owner at most. -/
structure Kept (Fits : ι → Call ρ → Prop) (station : Station ι ρ) : Prop where
  fits : ∀ caller job call, station.callers caller = some (job, call) → Fits job call
  owned : station.Owned

variable {Fits : ι → Call ρ → Prop} {caller other : Nat} {job : ι}
  {call : Call ρ} {after : Engine × Call ρ}

theorem holds_of_callers (h : station.callers caller = some (job, call)) :
    station.holds caller = call.holdsLock := by
  simp [holds, h]

@[simp] theorem callers_turn_self (station : Station ι ρ) (caller : Nat) (job : ι)
    (after : Engine × Call ρ) :
    (station.turn caller job after).callers caller = some (job, after.2) :=
  Function.update_self ..

@[simp] theorem callers_turn_of_ne (h : other ≠ caller) :
    (station.turn caller job after).callers other = station.callers other :=
  Function.update_of_ne h ..

theorem callers_drop_of_ne (h : other ≠ caller) :
    (station.drop caller).callers other = station.callers other :=
  Function.update_of_ne h ..

theorem holds_of_isFree (h : station.isFree caller = true) : station.holds caller = false := by
  unfold isFree at h
  unfold holds
  cases hcall : station.callers caller with
  | none => rfl
  | some last =>
      obtain ⟨job, call⟩ := last
      rw [hcall] at h
      cases call <;> first | rfl | cases h

theorem Owned.congr {later : Station ι ρ} (h : station.Owned)
    (hcallers : later.callers = station.callers)
    (hlocked : later.engine.locked = station.engine.locked) : later.Owned := by
  obtain ⟨holder, hholder, howner⟩ := h
  refine ⟨holder, hlocked.trans hholder, fun caller => ?_⟩
  rw [holds, hcallers]
  exact howner caller

/-- A caller in the course of a command has the lock. -/
theorem Owned.locked (h : station.Owned) (hholds : station.holds caller = true) :
    station.engine.locked = true := by
  obtain ⟨holder, hlocked, howner⟩ := h
  rw [hlocked, (howner caller).mp hholds]
  rfl

theorem Owned.locked_of_callers (h : station.Owned)
    (hcall : station.callers caller = some (job, call)) (hholds : call.holdsLock = true) :
    station.engine.locked = true := h.locked ((holds_of_callers hcall).trans hholds)

theorem Owned.unique (h : station.Owned) (hfirst : station.holds caller = true)
    (hsecond : station.holds other = true) : other = caller := by
  obtain ⟨holder, -, howner⟩ := h
  exact Option.some.inj (((howner other).mp hsecond).symm.trans ((howner caller).mp hfirst))

theorem Owned.not_holds (h : station.Owned) (hholds : station.holds caller = true)
    (hne : other ≠ caller) : station.holds other = false := by
  by_contra hother
  exact hne (h.unique hholds (Bool.not_eq_false _ ▸ hother))

/-- A caller that does not have the lock, or leaves it, does its turn. -/
theorem Owned.turn (h : station.Owned)
    (hown : station.holds caller = true ∨ station.engine.locked = false →
      after.1.locked = after.2.holdsLock)
    (hother : station.holds caller = false → station.engine.locked = true →
      after.1.locked = true ∧ after.2.holdsLock = false) :
    (station.turn caller job after).Owned := by
  -- either the lock is this caller's to take or keep, or another caller has it and it stays there
  obtain ⟨holder, hlocked, howner⟩ := h
  have hself : (station.turn caller job after).holds caller = after.2.holdsLock :=
    holds_of_callers (callers_turn_self ..)
  have hothers : ∀ other ≠ caller,
      (station.turn caller job after).holds other = station.holds other := by
    intro other hne
    rw [holds, callers_turn_of_ne hne, holds]
  by_cases hcase : holder = none ∨ holder = some caller
  · -- the lock is free for this caller, and nobody else has it
    have hnobody : ∀ other ≠ caller, station.holds other = false := by
      intro other hne
      by_contra hholds
      rw [Bool.not_eq_false, howner other] at hholds
      rcases hcase with rfl | rfl
      · cases hholds
      · exact hne (Option.some.inj hholds).symm
    have hafter : after.1.locked = after.2.holdsLock := by
      refine hown ?_
      rcases hcase with rfl | rfl
      · exact .inr hlocked
      · exact .inl ((howner caller).mpr rfl)
    refine ⟨if after.2.holdsLock then some caller else none, ?_, fun other => ?_⟩
    · show after.1.locked = _
      rw [hafter]
      cases after.2.holdsLock <;> rfl
    · by_cases heq : other = caller
      · subst heq
        rw [hself]
        cases after.2.holdsLock <;> simp
      · rw [hothers other heq, hnobody other heq]
        cases after.2.holdsLock <;> simp [Ne.symm heq]
  · -- another caller has it
    rw [not_or] at hcase
    obtain ⟨owner, rfl⟩ := Option.ne_none_iff_exists'.mp hcase.1
    have hne : owner ≠ caller := fun heq => hcase.2 (congrArg some heq)
    have hcaller : station.holds caller = false := by
      rw [← Bool.not_eq_true, howner caller]
      exact fun heq => hne (Option.some.inj heq)
    obtain ⟨hlater, hfree⟩ := hother hcaller hlocked
    refine ⟨some owner, hlater, fun other => ?_⟩
    by_cases heq : other = caller
    · subst heq
      rw [hself, hfree]
      simp [hne]
    · rw [hothers other heq]
      exact howner other

theorem Owned.drop (h : station.Owned) (caller : Nat) : (station.drop caller).Owned := by
  obtain ⟨holder, hlocked, howner⟩ := h
  have hself : (station.drop caller).holds caller = false := by
    simp [holds, Station.drop]
  -- the owner is the same as before, unless it is this caller
  refine ⟨holder.filter (· ≠ caller), ?_, fun other => ?_⟩
  · show (station.engine.locked && !station.holds caller) = _
    rw [hlocked]
    cases holder with
    | none => rfl
    | some owner =>
        by_cases heq : owner = caller
        · subst heq
          simp [(howner owner).mpr rfl]
        · have hfree : station.holds caller = false := by
            rw [← Bool.not_eq_true, howner caller]
            exact fun hsame => heq (Option.some.inj hsame)
          simp [hfree, heq]
  · by_cases heq : other = caller
    · subst heq
      rw [hself]
      simp
    · rw [holds, callers_drop_of_ne heq, ← holds, howner other]
      cases holder with
      | none => simp
      | some owner => simp; grind

theorem kept_initial (Fits : ι → Call ρ → Prop) (listeners : Listeners) :
    Kept Fits (initial listeners : Station ι ρ) where
  fits := nofun
  owned := ⟨none, rfl, fun caller => by simp [holds, initial]⟩

namespace Kept

theorem congr {later : Station ι ρ} (h : Kept Fits station)
    (hcallers : later.callers = station.callers)
    (hlocked : later.engine.locked = station.engine.locked) : Kept Fits later where
  fits := hcallers ▸ h.fits
  owned := h.owned.congr hcallers hlocked

theorem turn (h : Kept Fits station) (hfits : Fits job after.2)
    (howned : (station.turn caller job after).Owned) :
    Kept Fits (station.turn caller job after) where
  fits other otherJob otherCall hother := by
    by_cases heq : other = caller
    · subst heq
      rw [callers_turn_self] at hother
      cases hother
      exact hfits
    · rw [callers_turn_of_ne heq] at hother
      exact h.fits other otherJob otherCall hother
  owned := howned

/-- A call is made. -/
theorem called (discipline : Discipline program Fits) (h : Kept Fits station)
    (hfree : station.holds caller = false) :
    Kept Fits (station.turn caller job ((program job).advance station.engine)) := by
  -- a first turn leaves the lock to whoever has it
  obtain ⟨hfits, hholds, hlocked, -⟩ := discipline.called job station.engine
  refine h.turn hfits (h.owned.turn (fun hcase => ?_) fun _ hbusy => ⟨hlocked.trans hbusy, hholds⟩)
  rw [hfree] at hcase
  rw [hlocked, hholds, hcase.resolve_left nofun]

theorem woken (discipline : Discipline program Fits) (h : Kept Fits station)
    (hcall : station.callers caller = some (job, call)) {wake : Call.Wake} {start : Engine}
    {next : Call ρ} (hwoken : call.woken station.engine wake = some (start, next)) :
    Kept Fits (station.turn caller job (next.advance start)) := by
  have hholds := holds_of_callers hcall
  obtain ⟨hfits, hown, hother⟩ := discipline.woken (h.fits caller job call hcall)
    (h.owned.locked_of_callers hcall) hwoken
  -- a caller that does not hold the lock cannot take it from the one that does
  refine h.turn hfits (h.owned.turn (hholds ▸ hown) fun hcaller hlocked => ?_)
  obtain ⟨hlater, hfree, -⟩ := hother (hholds ▸ hcaller) hlocked
  exact ⟨hlater, hfree⟩

theorem drop (h : Kept Fits station) (caller : Nat) : Kept Fits (station.drop caller) where
  fits other job call hother := by
    by_cases heq : other = caller
    · subst heq
      simp [Station.drop] at hother
    · rw [callers_drop_of_ne heq] at hother
      exact h.fits other job call hother
  owned := h.owned.drop caller

theorem play (discipline : Discipline program Fits) (h : Kept Fits station) (event : Event ι) :
    Kept Fits (station.play profile program event) := by
  have hmoves := moves_play profile program station event
  generalize station.play profile program event = later at hmoves
  cases hmoves with
  | none hcallers hlocked => exact h.congr hcallers hlocked
  | called job hfree => exact h.called discipline (holds_of_isFree hfree)
  | woken hcall hwoken => exact h.woken discipline hcall hwoken
  | dropped caller => exact h.drop caller

end Kept

/-- Whatever happens to a new station, every caller fits, and the lock is taken exactly while one of
them is in the course of a command. -/
theorem kept_after (discipline : Discipline program Fits) (profile : Profile)
    (listeners : Listeners) (events : List (Event ι)) :
    Kept Fits (Station.after profile program listeners events) := by
  refine List.foldlRecOn (motive := Kept Fits) events _ (kept_initial Fits listeners) ?_
  intro station h event _
  exact h.play discipline event

end Station

end ModemLink
