import ModemLink.Proofs.Engine.Outcome
import ModemLink.Proofs.Engine.Return

/-!
# Runs of a call

A caller does its call in turns, and between two of them anything may happen to the engine that
`between` allows.  `Call.Runs` relates the engine that a call begins on to the engine that it ends
on and to the value it ends with.

* `Call.Runs.of_bind` and `Call.Runs.bind`: to run two calls in sequence is to run the first and
  then, from where it ended, the second.  `Call.Runs.bind_iff` is for a second one that does not
  wait.
* `Call.Runs.device`: what both the turns and the time between them do to the device, the whole run
  does to it.
* `Call.EndsReading.read_of_runs`: a request that succeeds ends with what it read in the response.
* `Job.exists_run`: a request that finds the lock free can always end, if only because time runs
  out.
-/

namespace ModemLink

namespace Call

variable {α β : Type} {engine : Engine} {call : Call α}

/-! ## Where a turn ends -/

/-- The call has come to a suspension. -/
def Waits : Call α → Prop
  | acquire _ | transmit .. | awaitOutcome .. | awaitLink .. => True
  | done _ | act .. | release _ => False

/-- A turn ends with the call, or at a suspension. -/
theorem done_or_waits (call : Call α) (engine : Engine) :
    (∃ value, (call.advance engine).2 = .done value) ∨ (call.advance engine).2.Waits := by
  induction call generalizing engine with
  | done value => exact .inl ⟨value, rfl⟩
  | act change next ih => exact ih engine (change engine)
  | release next ih => exact ih { engine with locked := false }
  | acquire | transmit | awaitOutcome | awaitLink => exact .inr trivial

theorem Waits.advance_bind (h : call.Waits) (f : α → Call β) (engine : Engine) :
    (call.bind f).advance engine = (engine, call.bind f) := by
  cases call with
  | done | act | release => cases h
  | acquire | transmit | awaitOutcome | awaitLink => rfl

theorem Waits.bind_ne_done (h : call.Waits) (f : α → Call β) (value : β) :
    call.bind f ≠ .done value := by
  cases call with
  | done | act | release => cases h
  | acquire | transmit | awaitOutcome | awaitLink => nofun

/-- A call that is done is not woken. -/
theorem Waits.of_woken {start : Engine} {next : Call α} {wake : Wake}
    (h : call.woken engine wake = some (start, next)) : call.Waits := by
  cases resumes_of_woken h <;> trivial

/-- What wakes the first of two calls in sequence wakes the whole. -/
theorem Waits.woken_bind (h : call.Waits) (f : α → Call β) (engine : Engine) (wake : Wake) :
    (call.bind f).woken engine wake =
      (call.woken engine wake).map fun turn => (turn.1, turn.2.bind f) := by
  cases call with
  | done | act | release => cases h
  | acquire next =>
      cases wake with
      | ready => simp only [bind, woken]; split <;> rfl
      | answered | expired => rfl
  | transmit bytes timeout next => cases wake <;> rfl
  | awaitOutcome timeout next =>
      cases wake with
      | ready => simp only [bind, woken, Option.map_map]; rfl
      | answered | expired => rfl
  | awaitLink condition next =>
      cases wake with
      | ready => simp only [bind, woken]; split <;> rfl
      | answered | expired => rfl

/-! ## Runs -/

/-- A call that begins on one engine ends on another with a value, if between its turns the engine
changes as `between` allows. -/
inductive Runs (between : Engine → Engine → Prop) : Engine → Call α → Engine → α → Prop
  | ended {engine last : Engine} {call : Call α} {value : α}
      (h : call.advance engine = (last, .done value)) : Runs between engine call last value
  | waits {engine paused later start last : Engine} {call waiting next : Call α} {wake : Wake}
      {value : α} (h : call.advance engine = (paused, waiting)) (hbetween : between paused later)
      (hwoken : waiting.woken later wake = some (start, next))
      (hrest : Runs between start next last value) : Runs between engine call last value

namespace Runs

variable {between : Engine → Engine → Prop} {start middle last : Engine} {first second : Call α}
  {value result : α}

/-! What a call waits for, and goes on with. -/

theorem acquires {paused later : Engine} {next : Call α}
    (h : call.advance engine = (paused, .acquire next)) (hbetween : between paused later)
    (hfree : later.locked = false)
    (hrest : Runs between { later with locked := true } next last value) :
    Runs between engine call last value := by
  have hwoken : (acquire next).woken later .ready = some ({ later with locked := true }, next) := by
    simp only [Call.woken, hfree, Bool.false_eq_true, if_false]
  exact .waits h hbetween hwoken hrest

theorem answered {paused later : Engine} {bytes : Bytes} {timeout : Nat}
    {next : Except LinkError Nat → Call α} (answer : Except LinkError Nat)
    (h : call.advance engine = (paused, .transmit bytes timeout next))
    (hbetween : between paused later) (hrest : Runs between later (next answer) last value) :
    Runs between engine call last value := by
  have hwoken : (transmit bytes timeout next).woken later (.answered answer) =
      some (later, next answer) := rfl
  exact .waits h hbetween hwoken hrest

theorem expired {paused later : Engine} {timeout : Nat} {next : Option Outcome → Call α}
    (h : call.advance engine = (paused, .awaitOutcome timeout next))
    (hbetween : between paused later) (hrest : Runs between later (next none) last value) :
    Runs between engine call last value := by
  have hwoken : (awaitOutcome timeout next).woken later .expired = some (later, next none) := rfl
  exact .waits h hbetween hwoken hrest

theorem decided {paused later : Engine} {timeout : Nat} {next : Option Outcome → Call α}
    {outcome : Outcome} (h : call.advance engine = (paused, .awaitOutcome timeout next))
    (hbetween : between paused later) (houtcome : later.exchange.outcome = some outcome)
    (hrest : Runs between { later with exchange := later.exchange.takeOutcome } (next (some outcome))
      last value) : Runs between engine call last value := by
  have hwoken : (awaitOutcome timeout next).woken later .ready =
      some ({ later with exchange := later.exchange.takeOutcome }, next (some outcome)) := by
    simp only [Call.woken, houtcome, Option.map_some]
  exact .waits h hbetween hwoken hrest

/-- Only what the first turn comes to counts. -/
theorem of_advance (h : first.advance engine = second.advance start)
    (hrun : Runs between start second last value) : Runs between engine first last value := by
  cases hrun with
  | ended hended => exact .ended (h.trans hended)
  | waits hwaits hbetween hwoken hrest => exact .waits (h.trans hwaits) hbetween hwoken hrest

theorem advance_iff (h : first.advance engine = second.advance start) :
    Runs between engine first last value ↔ Runs between start second last value :=
  ⟨of_advance h.symm, of_advance h⟩

/-- A call that does not wait has one run. -/
theorem eq_of_advance (h : call.advance engine = (middle, .done result))
    (hrun : Runs between engine call last value) : last = middle ∧ value = result := by
  cases hrun with
  | ended hended =>
      obtain ⟨rfl, heq⟩ := Prod.mk.inj (hended.symm.trans h)
      cases heq
      exact ⟨rfl, rfl⟩
  | waits hwaits hbetween hwoken hrest =>
      obtain ⟨rfl, rfl⟩ := Prod.mk.inj (hwaits.symm.trans h)
      exact (Waits.of_woken hwoken).elim

/-- A run of two calls in sequence is a run of the first and then one of the second. -/
theorem of_bind {f : α → Call β} {value : β} (h : Runs between engine (call.bind f) last value) :
    ∃ middle result, Runs between engine call middle result ∧
      Runs between middle (f result) last value := by
  generalize hwhole : call.bind f = whole at h
  induction h generalizing call with
  | @ended engine last whole value h =>
      subst hwhole
      rw [advance_bind] at h
      rcases done_or_waits call engine with ⟨result, hdone⟩ | hwaits
      · -- the first call does not wait, and neither does the second
        refine ⟨(call.advance engine).1, result, .ended (Prod.ext rfl hdone), .ended ?_⟩
        rw [hdone] at h
        exact h
      · rw [hwaits.advance_bind] at h
        exact absurd (congrArg Prod.snd h) (hwaits.bind_ne_done f value)
  | @waits engine paused later start last whole waiting next wake value h hbetween hwoken hrest ih =>
      subst hwhole
      rw [advance_bind] at h
      rcases done_or_waits call engine with ⟨result, hdone⟩ | hwaits
      · -- the first call has ended, and it is the second that waits
        refine ⟨(call.advance engine).1, result, .ended (Prod.ext rfl hdone), ?_⟩
        rw [hdone] at h
        exact .waits h hbetween hwoken hrest
      · -- the first call waits, is woken, and the rest of the run splits as well
        rw [hwaits.advance_bind] at h
        obtain ⟨rfl, rfl⟩ := Prod.mk.inj h
        rw [hwaits.woken_bind, Option.map_eq_some_iff] at hwoken
        obtain ⟨⟨_, rest⟩, hturn, heq⟩ := hwoken
        obtain ⟨rfl, rfl⟩ := Prod.mk.inj heq
        obtain ⟨middle, result, hfirst, hsecond⟩ := ih rfl
        exact ⟨middle, result, .waits rfl hbetween hturn hfirst, hsecond⟩

/-- A run of one call goes on as a run of the next. -/
theorem bind {f : α → Call β} {value : β} (hfirst : Runs between engine call middle result)
    (hsecond : Runs between middle (f result) last value) :
    Runs between engine (call.bind f) last value := by
  induction hfirst with
  | @ended engine middle call result h =>
      refine of_advance ?_ hsecond
      rw [advance_bind, h]
      rfl
  | @waits engine paused later start middle call waiting next wake result h hbetween hwoken hrest
      ih =>
      have hwaits := Waits.of_woken hwoken
      have hturn : (waiting.bind f).woken later wake = some (start, next.bind f) := by
        rw [hwaits.woken_bind, hwoken]
        rfl
      refine .waits ?_ hbetween hturn (ih hsecond)
      rw [advance_bind, h, hwaits.advance_bind]

/-- Two calls in sequence of which the second does not wait. -/
theorem bind_iff {f : α → Call β} {value : β} (g : Engine → α → Engine × β)
    (hrest : ∀ engine result,
      (f result).advance engine = ((g engine result).1, .done (g engine result).2)) :
    Runs between engine (call.bind f) last value ↔
      ∃ middle result, Runs between engine call middle result ∧ g middle result = (last, value) := by
  constructor
  · intro hrun
    obtain ⟨middle, result, hfirst, hsecond⟩ := hrun.of_bind
    obtain ⟨rfl, rfl⟩ := hsecond.eq_of_advance (hrest middle result)
    exact ⟨middle, result, hfirst, rfl⟩
  · rintro ⟨middle, result, hfirst, hg⟩
    have hsecond := hrest middle result
    rw [hg] at hsecond
    exact hfirst.bind (.ended hsecond)

end Runs

/-! ## What a run does to the device -/

section

variable {R : Device → Device → Prop} {inside outside : Bool}

/-- What a turn does to the device is allowed, and so is what comes after it. -/
theorem Guarded.device_advance (hrefl : ∀ device, R device device)
    (htrans : ∀ {first second third}, R first second → R second third → R first third)
    (h : call.Guarded R outside inside) (engine : Engine) :
    R engine.device (call.advance engine).1.device ∧
      ∃ held, (call.advance engine).2.Guarded R outside held := by
  induction call generalizing engine inside with
  | act change next ih =>
      obtain ⟨hallows, hrest⟩ := h engine
      obtain ⟨hlater, hguarded⟩ := ih engine hrest (change engine)
      exact ⟨htrans hallows.device hlater, hguarded⟩
  | release next ih => exact ih h.2 { engine with locked := false }
  | done | acquire | transmit | awaitOutcome | awaitLink => exact ⟨hrefl _, inside, h⟩

/-- Waking a call does nothing to the device. -/
theorem Guarded.device_woken {start : Engine} {next : Call α} {wake : Wake}
    (h : call.Guarded R outside inside) (hwoken : call.woken engine wake = some (start, next)) :
    start.device = engine.device ∧ ∃ held, next.Guarded R outside held := by
  cases resumes_of_woken hwoken with
  | acquired hfree => exact ⟨rfl, true, h.2⟩
  | answered answer => exact ⟨rfl, true, h.2 answer⟩
  | decided houtcome => exact ⟨rfl, true, h.2 _⟩
  | expired => exact ⟨rfl, true, h.2 none⟩
  | linked hlink => exact ⟨rfl, false, h.2⟩

/-- What the call does to the device, and what happens to it between the turns, comes to what `R`
allows. -/
theorem Runs.device {between : Engine → Engine → Prop} {last : Engine} {value : α}
    (hrefl : ∀ device, R device device)
    (htrans : ∀ {first second third}, R first second → R second third → R first third)
    (hbetween : ∀ {before after}, between before after → R before.device after.device)
    (hrun : Runs between engine call last value) (h : call.Guarded R outside inside) :
    R engine.device last.device := by
  induction hrun generalizing inside with
  | @ended engine last call value hended =>
      have hturn := (h.device_advance hrefl htrans engine).1
      rwa [hended] at hturn
  | @waits engine paused later start last call waiting next wake value hwaits hpause hwoken hrest
      ih =>
      -- a turn, a pause and the turns after it, each within what `R` allows
      obtain ⟨hturn, held, hguarded⟩ := h.device_advance hrefl htrans engine
      rw [hwaits] at hturn hguarded
      obtain ⟨hsame, _, hnext⟩ := hguarded.device_woken hwoken
      have hrestart : R later.device last.device := hsame ▸ ih hnext
      exact htrans hturn (htrans (hbetween hpause) hrestart)

end

/-! ## What a run has read -/

section

variable {ρ : Type} {read : Response → Except Error ρ} {call next : Call (Except Error ρ)}

/-- A turn that succeeds ends by reading the response. -/
theorem EndsReading.advance (h : call.EndsReading read) (engine : Engine) :
    (∀ value, (call.advance engine).2 = .done (.ok value) →
      read (call.advance engine).1.exchange.response = .ok value) ∧
    ((call.advance engine).2.Waits → (call.advance engine).2.EndsReading read) := by
  induction call generalizing engine with
  | done result =>
      obtain ⟨failure, rfl⟩ := h
      refine ⟨fun value hdone => ?_, False.elim⟩
      cases hdone
  | act change next ih =>
      -- this is the action that reads, and the call ends with it, or reading is yet to come
      rcases h with ⟨rest, heq, hrest⟩ | hrest
      · cases heq
        rw [Call.advance, id_eq, hrest engine]
        exact ⟨fun value hdone => Call.done.inj hdone, False.elim⟩
      · exact ih engine (hrest engine) (change engine)
  | release next ih => exact ih h { engine with locked := false }
  | acquire | transmit | awaitOutcome | awaitLink =>
      refine ⟨fun value hdone => ?_, fun _ => h⟩
      cases hdone

theorem EndsReading.woken {start : Engine} {wake : Wake} (h : call.EndsReading read)
    (hwoken : call.woken engine wake = some (start, next)) : next.EndsReading read := by
  cases resumes_of_woken hwoken with
  | acquired hfree => exact h
  | answered answer => exact h answer
  | decided houtcome => exact h _
  | expired => exact h none
  | linked hlink => exact h

/-- A call that succeeds ends with what it read in the response. -/
theorem EndsReading.read_of_runs {between : Engine → Engine → Prop} {last : Engine} {value : ρ}
    (h : call.EndsReading read) (hrun : Runs between engine call last (.ok value)) :
    read last.exchange.response = .ok value := by
  generalize hresult : Except.ok value = result at hrun
  induction hrun with
  | @ended engine last call result hended =>
      subst hresult
      have hread := (h.advance engine).1 value
      rw [hended] at hread
      exact hread rfl
  | @waits engine paused later start last call waiting next wake result hwaits hpause hwoken hrest
      ih =>
      have hpending := (h.advance engine).2
      rw [hwaits] at hpending
      exact ih ((hpending (Waits.of_woken hwoken)).woken hwoken) hresult

end

/-! ## Requests come to an end -/

/-- Time runs out for whatever a call inside the lock waits for. -/
theorem Holding.exists_run {between : Engine → Engine → Prop}
    (hrefl : ∀ engine, between engine engine) (h : call.Holding) (engine : Engine) :
    ∃ last value, Runs between engine call last value := by
  induction call generalizing engine with
  | done | acquire | awaitLink => exact h.elim
  | act change next ih =>
      obtain ⟨last, value, hrun⟩ := ih engine (h engine) (change engine)
      have hstep : (act change next).advance engine = (next engine).advance (change engine) := rfl
      exact ⟨last, value, hrun.of_advance hstep⟩
  | release next =>
      obtain ⟨value, rfl⟩ := h
      exact ⟨_, value, .ended rfl⟩
  | transmit bytes timeout next ih =>
      -- the link gives no answer in time, and no outcome comes either
      obtain ⟨last, value, hrun⟩ := ih (.error .timeout) (h (.error .timeout)) engine
      exact ⟨last, value, .answered (.error .timeout) rfl (hrefl engine) hrun⟩
  | awaitOutcome timeout next ih =>
      obtain ⟨last, value, hrun⟩ := ih none (h none) engine
      exact ⟨last, value, .expired rfl (hrefl engine) hrun⟩

end Call

theorem Job.exists_run {ρ : Type} {profile : Profile} {engine : Engine}
    {between : Engine → Engine → Prop} (hrefl : ∀ engine, between engine engine)
    (hfree : engine.locked = false) (job : Job ρ) :
    ∃ last result, Call.Runs between engine (job.program profile) last result := by
  rw [job.program_eq]
  cases hchecks : job.checks profile engine with
  | error failure =>
      refine ⟨engine, .error failure, .ended ?_⟩
      simp only [Call.advance, hchecks, id_eq]
  | ok _ =>
      -- the lock is free, and from there time runs out until it is given back
      have hholding : (job.held profile).Holding := job.holding_held
      obtain ⟨last, result, hrun⟩ := hholding.exists_run hrefl { engine with locked := true }
      refine ⟨last, result, .acquires ?_ (hrefl engine) hfree hrun⟩
      simp only [Call.advance, hchecks, id_eq]

namespace Request

variable {α : Type} {profile : Profile} {request : Request} {timeout : Nat} {hooks : Hooks}
  {read : Response → Except Error α} {bytes : Bytes} {engine later : Engine}
  {between : Engine → Engine → Prop}

/-- The engine once a request holds the lock and has installed its command. -/
def sent (request : Request) (hooks : Hooks) (engine : Engine) : Engine :=
  { engine with locked := true, exchange := engine.exchange.start (request.inFlight hooks) }

variable (hrefl : ∀ engine, between engine engine) (hopen : engine.link = .opened)
  (hfree : engine.locked = false) (hcheck : request.check = .ok ())
  (hencode : request.encode profile.config.terminator = .ok bytes)
  (hbetween : between (request.sent hooks engine) later)
include hrefl hopen hfree hcheck hencode hbetween

/-- A request whose command is accepted at once, and then waits in vain. -/
theorem runs_expired : Call.Runs between engine (request.run profile timeout hooks read).run
    { later with locked := false, exchange := later.exchange.withdraw } (.error .timeout) := by
  -- lock, command and outcome, one suspension after the other
  refine .acquires (advance_run hopen hcheck) (hrefl engine) hfree ?_
  simp only [body, exchange, hencode]
  refine .answered (.ok bytes.length) rfl (hrefl _) ?_
  simp only [if_true]
  exact .expired rfl hbetween (.ended rfl)

/-- A request whose command is accepted at once, and then succeeds. -/
theorem runs_succeeded (houtcome : later.exchange.outcome = some (.ok .success)) :
    Call.Runs between engine (request.run profile timeout hooks read).run
      { later with locked := false, exchange := later.exchange.takeOutcome }
      (read later.exchange.response) := by
  refine .acquires (advance_run hopen hcheck) (hrefl engine) hfree ?_
  simp only [body, exchange, hencode]
  refine .answered (.ok bytes.length) rfl (hrefl _) ?_
  simp only [if_true]
  exact .decided rfl hbetween houtcome (.ended rfl)

end Request

end ModemLink
