import ModemLink.Proofs.Engine.Traffic

/-!
# Whose command is in flight

`Traffic.Kept` ties the exchange, the lock and the log of a traffic to the stage of the one caller
that may hold the lock: a command in flight is the last one that was begun, and that caller's; its
response is what the log says was answered since then; and its outcome is signalled once.  Every
move keeps this (`Kept.play`), and so does every sequence of moves (`kept_plays`).
-/

namespace ModemLink

variable {ρ : Type} {profile : Profile} {table : TokenTable UrcHandler} {entry : Entry}
  {log earlier between : List Entry} {caller : Nat} {inFlight : InFlight} {exchange : Exchange}
  {outcome : Outcome} {response : Response}

/-! ## What the log says -/

namespace Engine

theorem inFlight_starting (inFlight : InFlight) (engine : Engine) :
    (Engine.starting inFlight engine).exchange.inFlight = some inFlight := rfl

/-- Beginning a command is no other change of the engine. -/
theorem starting_ne_id : Engine.starting inFlight ≠ id := fun heq => by
  have hflight := inFlight_starting inFlight (initial {})
  rw [heq] at hflight
  exact Option.some_ne_none _ hflight.symm

theorem withdrawing_ne_id : Engine.withdrawing ≠ id := fun heq => by
  let inFlight : InFlight :=
    { kind := .noResult, label := none, hooks := .none, successTokens := [] }
  have hidle : (Engine.withdrawing (Engine.starting inFlight (initial {}))).exchange.inFlight =
      none := rfl
  rw [heq, id_eq, inFlight_starting] at hidle
  exact Option.some_ne_none _ hidle

end Engine

namespace Entry

theorem Quiet.signal? (h : entry.Quiet) : entry.signal? = none := by
  cases entry with
  | acted caller change => rfl
  | handled inFlight buffer frame signal => exact h.2
  | ended signal => exact h

theorem Quiet.answer? (h : entry.Quiet) (table : TokenTable UrcHandler) :
    entry.answer? table = none := by
  cases entry with
  | handled inFlight buffer frame signal =>
      obtain ⟨rfl, -⟩ := h
      rfl
  | _ => rfl

theorem Quiet.data (h : entry.Quiet) : entry.data = [] := by
  cases entry with
  | handled inFlight buffer frame signal =>
      obtain ⟨rfl, -⟩ := h
      rfl
  | _ => rfl

theorem Quiet.not_begins (h : entry.Quiet) : ¬ entry.Begins := by
  rintro ⟨caller, inFlight, rfl⟩
  exact h inFlight rfl

/-- A frame that ended a command with success. -/
inductive Succeeds (profile : Profile) (inFlight : InFlight) : Entry → Prop
  | intro {buffer rest : ReadBuffer} {frame : Frame}
      (hcut : buffer.next Limits.readBuffer profile.config.lineEnding inFlight.hooks =
        (some frame, rest))
      (hframe : frame.Succeeds profile.table inFlight) :
      Succeeds profile inFlight (.handled (some inFlight) buffer frame (some (.ok .success)))

end Entry

/-- The last command that was begun, by whom, and what happened before and since. -/
structure Began (log earlier between : List Entry) (caller : Nat) (inFlight : InFlight) : Prop where
  log : log = earlier ++ .acted caller (Engine.starting inFlight) :: between
  since : ∀ entry ∈ between, ¬ entry.Begins

/-- What happened since a command was begun, and ended it: one outcome was signalled, and nothing
concerned the command any more.  After success the response is what was answered up to then. -/
inductive Ended (profile : Profile) (inFlight : InFlight) :
    List Entry → Outcome → Response → Prop
  | intro {before after : List Entry} {entry : Entry} {outcome : Outcome} {response : Response}
      (hbefore : signals before = []) (hsignal : entry.signal? = some outcome)
      (hafter : ∀ later ∈ after, later.Quiet)
      (hsuccess : outcome = .ok .success → entry.Succeeds profile inFlight ∧
        response =
          { status := .success
            lines := answers profile.table (before ++ [entry])
            data := answerData (before ++ [entry]) }) :
      Ended profile inFlight (before ++ entry :: after) outcome response

/-- The exchange while a command is in flight. -/
def Pending (table : TokenTable UrcHandler) (inFlight : InFlight) (between : List Entry) :
    Exchange :=
  { inFlight := some inFlight
    response := { status := .error, lines := answers table between, data := answerData between }
    outcome := none }

/-- Each command is given one outcome at most. -/
def Once (log : List Entry) : Prop :=
  ∀ earlier caller inFlight between later,
    log = earlier ++ .acted caller (Engine.starting inFlight) :: between ++ later →
      (∀ entry ∈ between, ¬ entry.Begins) → (signals between).length ≤ 1

@[simp] theorem signals_nil : signals [] = [] := rfl

@[simp] theorem signals_append (first second : List Entry) :
    signals (first ++ second) = signals first ++ signals second := List.filterMap_append

@[simp] theorem signals_cons (entry : Entry) (log : List Entry) :
    signals (entry :: log) = entry.signal?.toList ++ signals log := by
  unfold signals
  cases hsignal : entry.signal? <;> simp [hsignal]

@[simp] theorem answers_append (table : TokenTable UrcHandler) (first second : List Entry) :
    answers table (first ++ second) = answers table first ++ answers table second :=
  List.filterMap_append

@[simp] theorem answers_singleton (table : TokenTable UrcHandler) (entry : Entry) :
    answers table [entry] = (entry.answer? table).toList := by
  unfold answers
  cases hanswer : entry.answer? table <;> simp [hanswer]

@[simp] theorem answerData_append (first second : List Entry) :
    answerData (first ++ second) = answerData first ++ answerData second := List.flatMap_append

@[simp] theorem answerData_singleton (entry : Entry) : answerData [entry] = entry.data := by
  simp [answerData]

theorem signals_of_quiet (h : ∀ entry ∈ between, entry.Quiet) : signals between = [] :=
  List.filterMap_eq_nil_iff.mpr fun entry hmem => (h entry hmem).signal?

/-! ### The last command -/

theorem Began.concat (h : Began log earlier between caller inFlight) (hentry : ¬ entry.Begins) :
    Began (log ++ [entry]) earlier (between ++ [entry]) caller inFlight where
  log := by simp [h.log]
  since := by
    simp only [List.forall_mem_append, List.forall_mem_singleton]
    exact ⟨h.since, hentry⟩

theorem Began.start (log : List Entry) (caller : Nat) (inFlight : InFlight) :
    Began (log ++ [.acted caller (Engine.starting inFlight)]) log [] caller inFlight :=
  ⟨rfl, fun _ hmem => (List.not_mem_nil hmem).elim⟩

/-- There is one last command. -/
theorem Began.unique {earlier' between' : List Entry} {caller' : Nat} {inFlight' : InFlight}
    (h : Began log earlier between caller inFlight)
    (h' : Began log earlier' between' caller' inFlight') : between' = between := by
  -- if one of them came after the other, the other would not be the last
  have key : ∀ {first second : Entry} {gap before after : List Entry},
      first :: before = gap ++ second :: after → second.Begins →
      (∀ entry ∈ before, ¬ entry.Begins) → after = before := by
    intro first second gap before after heq hbegins hsince
    cases gap with
    | nil => exact (List.cons.inj heq).2.symm
    | cons head gap =>
        obtain ⟨-, rfl⟩ := List.cons.inj heq
        exact absurd hbegins (hsince second (by simp))
  rcases List.append_eq_append_iff.mp (h.log.symm.trans h'.log) with ⟨gap, -, heq⟩ | ⟨gap, -, heq⟩
  · exact key heq ⟨_, _, rfl⟩ h.since
  · exact (key heq ⟨_, _, rfl⟩ h'.since).symm

/-! ### The end of a command -/

theorem Ended.concat (h : Ended profile inFlight between outcome response) (hentry : entry.Quiet) :
    Ended profile inFlight (between ++ [entry]) outcome response := by
  cases h with
  | intro hbefore hsignal hafter hsuccess =>
      rw [List.append_assoc, List.cons_append]
      refine .intro hbefore hsignal ?_ hsuccess
      simp only [List.forall_mem_append, List.forall_mem_singleton]
      exact ⟨hafter, hentry⟩

theorem Ended.signals (h : Ended profile inFlight between outcome response) :
    signals between = [outcome] := by
  cases h with
  | intro hbefore hsignal hafter hsuccess => simp [hbefore, hsignal, signals_of_quiet hafter]

theorem pending_concat (h : entry.Quiet) :
    Pending table inFlight (between ++ [entry]) = Pending table inFlight between := by
  simp [Pending, h.answer?, h.data]

/-! ### One outcome for each command -/

theorem once_nil : Once [] := by
  intro earlier caller inFlight between later h
  simp at h

theorem Once.concat (h : Once log)
    (hentry : entry.signal? ≠ none → ∀ earlier between caller inFlight,
      Began log earlier between caller inFlight → signals between = []) :
    Once (log ++ [entry]) := by
  intro earlier caller inFlight between later heq hsince
  -- the new entry is either beyond the stretch that is looked at, or the last one of it
  rcases later.eq_nil_or_concat with rfl | ⟨later, last, rfl⟩
  · rcases between.eq_nil_or_concat with rfl | ⟨between, last, rfl⟩
    · exact Nat.zero_le _
    · simp only [List.concat_eq_append, List.append_nil, ← List.cons_append,
        ← List.append_assoc] at heq hsince
      obtain ⟨hlog, hlast⟩ := List.append_inj' heq rfl
      obtain rfl := List.singleton_inj.mp hlast
      simp only [List.forall_mem_append] at hsince
      rw [List.concat_eq_append, signals_append, List.length_append]
      cases hsignal : entry.signal? with
      | none =>
          -- an entry without signal adds nothing, and one with a signal is the first
          simpa [hsignal] using h earlier caller inFlight between [] (by simp [hlog]) hsince.1
      | some outcome =>
          rw [hentry (by simp [hsignal]) earlier between caller inFlight ⟨hlog, hsince.1⟩]
          simp [hsignal]
  · rw [List.concat_eq_append, ← List.append_assoc] at heq
    exact h earlier caller inFlight between later (List.append_inj' heq rfl).1 hsince

/-! ## The stage of the caller that holds the lock -/

/-- The command of a payload request ended with success, before anything else was begun. -/
def Prompted (profile : Profile) (job : Job ρ) (caller : Nat) (log : List Entry) : Prop :=
  ∃ earlier between response, Began log earlier between caller (job.inFlight .command) ∧
    Ended profile (job.inFlight .command) between (.ok .success) response

/-- How the exchange and the log go with the stage of the caller. -/
def Stage.Tells (profile : Profile) (job : Job ρ) (caller : Nat) (log : List Entry)
    (exchange : Exchange) : Stage → Prop
  | .idle => exchange.inFlight = none
  | .begun phase =>
      ∃ earlier between, Began log earlier between caller (job.inFlight phase) ∧
        (phase = .payload → Prompted profile job caller earlier) ∧
        (exchange = Pending profile.table (job.inFlight phase) between ∧ signals between = [] ∨
          exchange.inFlight = none ∧ ∃ outcome, exchange.outcome = some outcome ∧
            Ended profile (job.inFlight phase) between outcome exchange.response)
  | .answered phase outcome =>
      exchange.inFlight = none ∧
        ∃ earlier between, Began log earlier between caller (job.inFlight phase) ∧
          Ended profile (job.inFlight phase) between outcome exchange.response

namespace Stage.Tells

variable {job : Job ρ} {stage : Stage}

/-- Nothing changes if nothing happens that concerns a command in flight. -/
theorem concat (h : stage.Tells profile job caller log exchange) (hentry : entry.Quiet) :
    stage.Tells profile job caller (log ++ [entry]) exchange := by
  cases stage with
  | idle => exact h
  | begun phase =>
      obtain ⟨earlier, between, hbegan, hprompted,
        hpending | ⟨hidle, outcome, houtcome, hended⟩⟩ := h
      · -- the command is still pending, and the entry adds nothing to its answer
        refine ⟨earlier, _, hbegan.concat hentry.not_begins, hprompted, .inl ?_⟩
        rw [pending_concat hentry, signals_append, hpending.2]
        exact ⟨hpending.1, by simp [hentry.signal?]⟩
      · exact ⟨earlier, _, hbegan.concat hentry.not_begins, hprompted,
          .inr ⟨hidle, outcome, houtcome, hended.concat hentry⟩⟩
  | answered phase outcome =>
      obtain ⟨hidle, earlier, between, hbegan, hended⟩ := h
      exact ⟨hidle, earlier, _, hbegan.concat hentry.not_begins, hended.concat hentry⟩

/-- A command in flight is the caller's, and pending. -/
theorem pending (h : stage.Tells profile job caller log exchange)
    (hflight : exchange.inFlight = some inFlight) :
    ∃ phase earlier between, stage = .begun phase ∧ inFlight = job.inFlight phase ∧
      Began log earlier between caller inFlight ∧
      (phase = .payload → Prompted profile job caller earlier) ∧
      exchange = Pending profile.table inFlight between ∧ signals between = [] := by
  cases stage with
  | idle =>
      rw [show exchange.inFlight = none from h] at hflight
      cases hflight
  | begun phase =>
      obtain ⟨earlier, between, hbegan, hprompted, ⟨hpending, hsignals⟩ | ⟨hidle, -⟩⟩ := h
      · obtain rfl : job.inFlight phase = inFlight := by
          rw [hpending] at hflight
          exact Option.some.inj hflight
        exact ⟨phase, earlier, between, rfl, rfl, hbegan, hprompted, hpending, hsignals⟩
      · rw [hidle] at hflight
        cases hflight
  | answered phase outcome =>
      -- only in the stage `begun` can a command be in flight
      rw [h.1] at hflight
      cases hflight

/-- The command in flight ends. -/
theorem ends {phase : Phase} {after : Exchange}
    (hbegan : Began log earlier between caller (job.inFlight phase))
    (hprompted : phase = .payload → Prompted profile job caller earlier)
    (hsignals : signals between = []) (hentry : ¬ entry.Begins)
    (hsignal : entry.signal? = some outcome) (hidle : after.inFlight = none)
    (houtcome : after.outcome = some outcome)
    (hsuccess : outcome = .ok .success → entry.Succeeds profile (job.inFlight phase) ∧
      after.response =
        { status := .success
          lines := answers profile.table (between ++ [entry])
          data := answerData (between ++ [entry]) }) :
    (Stage.begun phase).Tells profile job caller (log ++ [entry]) after :=
  ⟨earlier, _, hbegan.concat hentry, hprompted, .inr ⟨hidle, outcome, houtcome,
    .intro hsignals hsignal (fun _ hmem => (List.not_mem_nil hmem).elim) hsuccess⟩⟩

/-- A frame is handled. -/
theorem handle {engine : Engine} {buffer rest : ReadBuffer} {frame : Frame}
    (h : stage.Tells profile job caller log engine.exchange)
    (hcut : buffer.next Limits.readBuffer profile.config.lineEnding engine.exchange.hooks =
      (some frame, rest)) :
    stage.Tells profile job caller
      (log ++ [.handled engine.exchange.inFlight buffer frame
        (engine.exchange.signalled (engine.handleFrame profile.table frame).exchange)])
      (engine.handleFrame profile.table frame).exchange := by
  cases hflight : engine.exchange.inFlight with
  | none =>
      rw [Engine.exchange_handleFrame_of_idle hflight, Exchange.signalled_self]
      exact h.concat ⟨rfl, rfl⟩
  | some inFlight =>
      obtain ⟨phase, earlier, between, rfl, rfl, hbegan, hprompted, hpending, hsignals⟩ :=
        h.pending hflight
      have hbegins : ∀ signal, ¬ (Entry.handled (some (job.inFlight phase)) buffer frame
          signal).Begins := by
        rintro signal ⟨_, _, heq⟩
        cases heq
      rw [Exchange.hooks, hflight] at hcut
      -- the frame can only continue or end the response of this caller
      have hhandles := Engine.handles_handleFrame profile.table frame hpending
      generalize (engine.handleFrame profile.table frame).exchange = after at hhandles
      rw [hpending]
      cases hhandles with
      | grows =>
          refine ⟨earlier, _, hbegan.concat (hbegins _), hprompted, .inl ⟨?_, ?_⟩⟩
          · simp [Pending, Entry.answer?, Entry.data]
          · simp [hsignals, Entry.signal?, Exchange.signalled]
      | succeeds hframe =>
          -- the command ends with what has been collected for it, this frame included
          exact ends hbegan hprompted hsignals (hbegins _) rfl rfl rfl fun _ =>
            ⟨.intro hcut hframe, by simp [Entry.answer?, Entry.data]⟩
      | fails last outcome hfailed =>
          exact ends hbegan hprompted hsignals (hbegins _) rfl rfl rfl fun hsuccess =>
            absurd hsuccess hfailed

/-- The receive loop ends. -/
theorem complete (h : stage.Tells profile job caller log exchange) (failure : Error) :
    stage.Tells profile job caller
      (log ++ [.ended (exchange.signalled (exchange.complete (.error failure)))])
      (exchange.complete (.error failure)) := by
  cases hflight : exchange.inFlight with
  | none =>
      rw [Exchange.complete_of_idle hflight, Exchange.signalled_self]
      exact h.concat rfl
  | some inFlight =>
      -- the command in flight is the caller's, and ends with the failure
      obtain ⟨phase, earlier, between, rfl, rfl, hbegan, hprompted, hpending, hsignals⟩ :=
        h.pending hflight
      rw [Exchange.signalled_complete hflight, hpending]
      exact ends hbegan hprompted hsignals (fun ⟨_, _, heq⟩ => nomatch heq) rfl rfl rfl nofun

end Stage.Tells

/-! ## Every move -/

/-- The stage of a caller, if it holds the lock. -/
def stageOf (holder : Option (Nat × Stage)) (caller : Nat) : Option Stage :=
  holder.bind fun (owner, stage) => if owner = caller then some stage else none

@[simp] theorem stageOf_self (caller : Nat) (stage : Stage) :
    stageOf (some (caller, stage)) caller = some stage := if_pos rfl

theorem stageOf_of_ne {owner : Nat} (h : owner ≠ caller) (stage : Stage) :
    stageOf (some (owner, stage)) caller = none := if_neg h

theorem holder_of_stageOf {holder : Option (Nat × Stage)} {stage : Stage}
    (h : stageOf holder caller = some stage) : holder = some (caller, stage) := by
  obtain ⟨⟨owner, last⟩, rfl, heq⟩ := Option.bind_eq_some_iff.mp h
  simp only [Option.ite_none_right_eq_some, Option.some.injEq] at heq
  obtain ⟨rfl, rfl⟩ := heq
  rfl

namespace Traffic

/-- Every caller keeps the order of its request, and the one that holds the lock, if there is any,
is in a stage that the exchange and the log go with. -/
structure Kept (profile : Profile) (traffic : Traffic ρ) (holder : Option (Nat × Stage)) :
    Prop where
  follows : ∀ caller job call, traffic.callers caller = some (job, call) →
    call.Follows profile job Outside (stageOf holder caller)
  locked : traffic.engine.locked = holder.isSome
  idle : holder = none → traffic.engine.exchange.inFlight = none
  tells : ∀ caller stage, holder = some (caller, stage) → ∃ job call,
    traffic.callers caller = some (job, call) ∧
      stage.Tells profile job caller traffic.log traffic.engine.exchange
  once : Once traffic.log

namespace Kept

variable {traffic later : Traffic ρ} {holder : Option (Nat × Stage)} {job : Job ρ}
  {call : Call (Except Error ρ)} {stage last : Stage}

theorem initial (listeners : Listeners) :
    Kept profile (Traffic.initial listeners : Traffic ρ) none where
  follows := nofun
  locked := rfl
  idle _ := rfl
  tells := nofun
  once := once_nil

/-- What is neither the exchange nor the lock may become anything. -/
theorem congr (h : Kept profile traffic holder) (hcallers : later.callers = traffic.callers)
    (hlocked : later.engine.locked = traffic.engine.locked)
    (hexchange : later.engine.exchange = traffic.engine.exchange)
    (hlog : later.log = traffic.log) : Kept profile later holder where
  follows := hcallers ▸ h.follows
  locked := hlocked.trans h.locked
  idle hnone := hexchange ▸ h.idle hnone
  tells := by
    rw [hcallers, hexchange, hlog]
    exact h.tells
  once := hlog ▸ h.once

/-- While a command is in flight, no outcome has been signalled for the last one. -/
theorem signals_of_pending (h : Kept profile traffic holder) {inFlight last : InFlight}
    (hflight : traffic.engine.exchange.inFlight = some inFlight)
    (hbegan : Began traffic.log earlier between caller last) : signals between = [] := by
  cases hholder : holder with
  | none =>
      rw [h.idle hholder] at hflight
      cases hflight
  | some owner =>
      obtain ⟨job, call, -, htells⟩ := h.tells owner.1 owner.2 hholder
      obtain ⟨_, _, since, -, -, hlast, -, -, hsignals⟩ := htells.pending hflight
      rw [hlast.unique hbegan]
      exact hsignals

/-- A step of the receive loop, which the stage of the caller goes along with. -/
theorem record (h : Kept profile traffic holder) {engine : Engine}
    {entry : Option Outcome → Entry} (hsignal : ∀ signal, (entry signal).signal? = signal)
    (hlocked : engine.locked = traffic.engine.locked)
    (hidle : traffic.engine.exchange.inFlight = none → engine.exchange.inFlight = none)
    (htells : ∀ (job : Job ρ) (caller : Nat) (stage : Stage),
      stage.Tells profile job caller traffic.log traffic.engine.exchange →
        stage.Tells profile job caller (traffic.record engine entry).log engine.exchange) :
    Kept profile (traffic.record engine entry) holder where
  follows := h.follows
  locked := hlocked.trans h.locked
  idle hnone := hidle (h.idle hnone)
  tells caller stage hholder := by
    obtain ⟨job, call, hcall, htold⟩ := h.tells caller stage hholder
    exact ⟨job, call, hcall, htells job caller stage htold⟩
  once := by
    refine h.once.concat fun hsome earlier between caller last hbegan => ?_
    rw [hsignal] at hsome
    -- a signal comes from a command in flight, and that one has had none
    cases hflight : traffic.engine.exchange.inFlight with
    | none => exact absurd (Exchange.signalled_of_idle hflight) hsome
    | some inFlight => exact h.signals_of_pending hflight hbegan

/-- A caller of which nothing is known but its stage. -/
theorem tells_of_stageOf (h : Kept profile traffic holder)
    (hcall : traffic.callers caller = some (job, call))
    (hstage : stageOf holder caller = some stage) :
    stage.Tells profile job caller traffic.log traffic.engine.exchange := by
  obtain ⟨ownJob, ownCall, hown, htells⟩ := h.tells caller stage (holder_of_stageOf hstage)
  rw [hcall] at hown
  cases hown
  exact htells

/-- Something that does not concern a command in flight is logged. -/
theorem concat (h : Kept profile traffic holder) (hentry : entry.Quiet) :
    Kept profile { traffic with log := traffic.log ++ [entry] } holder where
  follows := h.follows
  locked := h.locked
  idle := h.idle
  tells caller stage hholder := by
    obtain ⟨job, call, hcall, htells⟩ := h.tells caller stage hholder
    exact ⟨job, call, hcall, htells.concat hentry⟩
  once := h.once.concat fun hsome => absurd hentry.signal? hsome

/-- A caller goes on, and the others stay where they are. -/
theorem follows_resume (h : Kept profile traffic holder)
    (hcallers : later.callers = traffic.callers) {next : Option (Nat × Stage)}
    (hothers : ∀ other, other ≠ caller → stageOf next other = stageOf holder other)
    (hfollows : call.Follows profile job Outside (stageOf next caller))
    (other : Nat) (otherJob : Job ρ) (otherCall : Call (Except Error ρ))
    (hother : (later.resume caller job call).callers other = some (otherJob, otherCall)) :
    otherCall.Follows profile otherJob Outside (stageOf next other) := by
  -- the one caller does what was shown, and the others have the stages that they had
  by_cases heq : other = caller
  · subst heq
    rw [callers_resume_self] at hother
    cases hother
    exact hfollows
  · rw [callers_resume_of_ne heq, hcallers] at hother
    rw [hothers other heq]
    exact h.follows other otherJob otherCall hother

/-- A caller that does not hold the lock goes on. -/
theorem resume_outside (h : Kept profile traffic holder) (hcaller : stageOf holder caller = none)
    (hfollows : call.Follows profile job Outside none) :
    Kept profile (traffic.resume caller job call) holder where
  follows := h.follows_resume rfl (fun _ _ => rfl) (hcaller ▸ hfollows)
  locked := h.locked
  idle := h.idle
  tells owner stage hholder := by
    obtain ⟨ownJob, ownCall, hcall, htells⟩ := h.tells owner stage hholder
    have hne : owner ≠ caller := by
      rintro rfl
      rw [hholder, stageOf_self] at hcaller
      cases hcaller
    exact ⟨ownJob, ownCall, (callers_resume_of_ne hne ..).trans hcall, htells⟩
  once := h.once

/-- The caller that holds the lock, or takes it now, comes to a stage. -/
theorem resume_inside (h : Kept profile traffic holder) (hcallers : later.callers = traffic.callers)
    (hothers : ∀ other, other ≠ caller → stageOf holder other = none)
    (hlocked : later.engine.locked = true) (honce : Once later.log)
    (hfollows : call.Follows profile job Outside (some stage))
    (htells : stage.Tells profile job caller later.log later.engine.exchange) :
    Kept profile (later.resume caller job call) (some (caller, stage)) where
  follows := by
    refine h.follows_resume hcallers (fun other hne => ?_) ((stageOf_self ..).symm ▸ hfollows)
    rw [stageOf_of_ne (Ne.symm hne), hothers other hne]
  locked := hlocked
  idle := nofun
  tells owner stage hholder := by
    cases hholder
    exact ⟨job, call, callers_resume_self .., htells⟩
  once := honce

/-- The caller that holds the lock gives it back. -/
theorem resume_release (h : Kept profile traffic (some (caller, last)))
    (hcallers : later.callers = traffic.callers) (hlocked : later.engine.locked = false)
    (hidle : later.engine.exchange.inFlight = none) (honce : Once later.log)
    (hfollows : call.Follows profile job Outside none) :
    Kept profile (later.resume caller job call) none where
  follows := h.follows_resume hcallers (fun _ hne => (stageOf_of_ne (Ne.symm hne) _).symm)
    hfollows
  locked := hlocked
  idle _ := hidle
  tells := nofun
  once := honce

theorem stageOf_others (h : stageOf holder caller = some stage) (other : Nat)
    (hne : other ≠ caller) : stageOf holder other = none := by
  rw [holder_of_stageOf h, stageOf_of_ne (Ne.symm hne)]

/-- A caller that holds the lock has it locked. -/
theorem locked_of_stageOf (h : Kept profile traffic holder)
    (hstage : stageOf holder caller = some stage) : traffic.engine.locked = true := by
  rw [h.locked, holder_of_stageOf hstage]
  rfl

/-- The caller that holds the lock goes from one stage to another. -/
theorem resume_within (h : Kept profile traffic holder) (hstage : stageOf holder caller = some last)
    (hcallers : later.callers = traffic.callers)
    (hlocked : later.engine.locked = traffic.engine.locked) (honce : Once later.log)
    (hfollows : call.Follows profile job Outside (some stage))
    (htells : stage.Tells profile job caller later.log later.engine.exchange) :
    Kept profile (later.resume caller job call) (some (caller, stage)) :=
  h.resume_inside hcallers (stageOf_others hstage) (hlocked.trans (h.locked_of_stageOf hstage))
    honce hfollows htells

/-- A caller changes the engine. -/
theorem act (h : Kept profile traffic holder) (hcall : traffic.callers caller = some (job, call))
    {change : Engine → Engine} {next : Option Stage} {rest : Call (Except Error ρ)}
    (hacts : Stage.Acts job change (stageOf holder caller) next)
    (hfollows : rest.Follows profile job Outside next) :
    ∃ holder, Kept profile
      ({ traffic with
        engine := change traffic.engine
        log := traffic.log ++ [Entry.acted caller change] }.resume caller job rest) holder := by
  have honce : Once (traffic.log ++ [Entry.acted caller change]) :=
    h.once.concat fun hsome => absurd rfl hsome
  have hlooks :
      Kept profile { traffic with log := traffic.log ++ [Entry.acted caller id] } holder :=
    h.concat fun _ heq => Engine.starting_ne_id heq.symm
  generalize hstage : stageOf holder caller = stage at hacts
  cases hacts with
  | looks => exact ⟨_, hlooks.resume_outside hstage hfollows⟩
  | reads phase =>
      exact ⟨_, hlooks.resume_within hstage rfl rfl honce hfollows
        (hlooks.tells_of_stageOf hcall hstage)⟩
  | begins =>
      exact ⟨_, h.resume_within hstage rfl rfl honce hfollows
        ⟨_, _, .start _ _ _, nofun, .inl ⟨rfl, rfl⟩⟩⟩
  | prompted =>
      -- the outcome of the first command is what the second one goes by
      obtain ⟨-, earlier, between, hbegan, hended⟩ := h.tells_of_stageOf hcall hstage
      exact ⟨_, h.resume_within hstage rfl rfl honce hfollows
        ⟨_, _, .start _ _ _, fun _ => ⟨earlier, between, _, hbegan, hended⟩, .inl ⟨rfl, rfl⟩⟩⟩
  | withdraws phase =>
      exact ⟨_, h.resume_within hstage rfl rfl honce hfollows rfl⟩

/-- A caller does its next step. -/
theorem go (h : Kept profile traffic holder) (hcall : traffic.callers caller = some (job, call)) :
    ∃ holder, Kept profile (traffic.go caller job call) holder := by
  have hfollows := h.follows caller job call hcall
  cases call with
  | done value => exact ⟨holder, h⟩
  | transmit bytes timeout next => exact ⟨holder, h⟩
  | act change next =>
      obtain ⟨later, hacts, hrest⟩ := hfollows
      exact h.act hcall hacts (hrest _)
  | acquire next =>
      obtain ⟨hstage, hrest⟩ := hfollows
      simp only [Traffic.go]
      split
      · exact ⟨holder, h⟩
      next hlocked =>
        -- nobody holds the lock, so nothing is in flight
        have hnone : holder = none := by
          rw [h.locked] at hlocked
          exact Option.not_isSome_iff_eq_none.mp hlocked
        subst hnone
        exact ⟨_, h.resume_inside rfl (fun _ _ => rfl) rfl h.once hrest (h.idle rfl)⟩
  | release next =>
      obtain ⟨⟨last, hstage, hover⟩, hrest⟩ := hfollows
      have htells := h.tells_of_stageOf hcall hstage
      obtain rfl := holder_of_stageOf hstage
      have hidle : traffic.engine.exchange.inFlight = none := by
        -- a caller whose command may be in flight does not give the lock back
        cases last with
        | idle => exact htells
        | begun phase => cases hover
        | answered phase outcome => exact htells.1
      exact ⟨_, h.resume_release rfl rfl hidle h.once hrest⟩
  | awaitOutcome timeout next =>
      -- the outcome there is that of the caller's own command, and so is the response
      obtain ⟨phase, hstage, -, hrest⟩ := hfollows
      simp only [Traffic.go]
      split
      · exact ⟨holder, h⟩
      next outcome houtcome =>
        obtain ⟨earlier, between, hbegan, -, ⟨hpending, -⟩ | ⟨hidle, signalled, hsome, hended⟩⟩ :=
          h.tells_of_stageOf hcall hstage
        · rw [hpending] at houtcome
          cases houtcome
        · obtain rfl : outcome = signalled := Option.some.inj (houtcome.symm.trans hsome)
          exact ⟨_, h.resume_within hstage rfl rfl h.once (hrest outcome)
            ⟨hidle, earlier, between, hbegan, hended⟩⟩
  | awaitLink condition next =>
      obtain ⟨hstage, hrest⟩ := hfollows
      simp only [Traffic.go]
      split
      · exact ⟨holder, h.resume_outside hstage hrest⟩
      · exact ⟨holder, h⟩

/-- A caller that waits for its turn with a command goes on without a change of the engine. -/
theorem resume_begun (h : Kept profile traffic holder)
    (hcall : traffic.callers caller = some (job, call)) {phase : Phase}
    {next : Call (Except Error ρ)} (hstage : stageOf holder caller = some (.begun phase))
    (hfollows : next.Follows profile job Outside (some (.begun phase))) :
    ∃ holder, Kept profile (traffic.resume caller job next) holder :=
  ⟨_, h.resume_within hstage rfl rfl h.once hfollows (h.tells_of_stageOf hcall hstage)⟩

theorem play (h : Kept profile traffic holder) (move : Move ρ) :
    ∃ holder, Kept profile (traffic.play profile move) holder := by
  -- the receive loop and the callers move one at a time: what arrives concerns neither a command
  -- nor a caller before it is handled
  cases move with
  | arrives chunk => exact ⟨holder, h.congr rfl rfl rfl rfl⟩
  | empties => exact ⟨holder, h.congr rfl rfl rfl rfl⟩
  | aside other => exact ⟨holder, h.congr rfl rfl rfl rfl⟩
  | handles =>
      simp only [Traffic.play, Traffic.handle]
      split
      · exact ⟨holder, h.congr rfl rfl rfl rfl⟩
      next frame rest hcut =>
        have hrecord : Kept profile (traffic.record (traffic.engine.handleFrame profile.table frame)
            (.handled traffic.engine.exchange.inFlight traffic.buffer frame)) holder := by
          refine h.record (fun _ => rfl) (Engine.locked_handleFrame _ _ _) (fun hidle => ?_)
            fun job caller stage htells => htells.handle hcut
          rw [Engine.exchange_handleFrame_of_idle hidle]
          exact hidle
        exact ⟨holder, hrecord.congr rfl rfl rfl rfl⟩
  | ends =>
      -- the end of the receive loop is an outcome for the command in flight, if there is one
      exact ⟨holder, h.record (fun _ => rfl) rfl (fun _ => Exchange.inFlight_complete _ _)
        fun job caller stage htells => htells.complete _⟩
  | loses cause =>
      exact ⟨holder, h.record (fun _ => rfl) rfl (fun _ => Exchange.inFlight_complete _ _)
        fun job caller stage htells => htells.complete _⟩
  | calls caller job =>
      -- a caller that makes a call has none that is not done, so it does not hold the lock
      have hstart : stageOf holder caller = none →
          ∃ holder, Kept profile (traffic.resume caller job (job.program profile)) holder :=
        fun hstage => ⟨holder, h.resume_outside hstage (Job.program_follows job)⟩
      simp only [Traffic.play]
      split
      next hnone =>
        refine hstart (Option.eq_none_iff_forall_ne_some.mpr fun stage hstage => ?_)
        obtain ⟨_, _, hsome, -⟩ := h.tells caller stage (holder_of_stageOf hstage)
        rw [hnone] at hsome
        cases hsome
      next other value hdone => exact hstart (h.follows caller other (.done value) hdone)
      · exact ⟨holder, h⟩
  | goes caller =>
      simp only [Traffic.play]
      split
      next job call hcall => exact h.go hcall
      · exact ⟨holder, h⟩
  | answered caller answer =>
      -- the link answers, or its time runs out, while the command is in flight
      simp only [Traffic.play]
      split
      next job bytes timeout next hcall =>
        obtain ⟨phase, hstage, -, hrest⟩ := h.follows caller job _ hcall
        exact h.resume_begun hcall hstage (hrest answer)
      · exact ⟨holder, h⟩
  | expires caller =>
      simp only [Traffic.play]
      split
      next job bytes timeout next hcall =>
        obtain ⟨phase, hstage, -, hrest⟩ := h.follows caller job _ hcall
        exact h.resume_begun hcall hstage (hrest _)
      next job timeout next hcall =>
        obtain ⟨phase, hstage, hrest, -⟩ := h.follows caller job _ hcall
        exact h.resume_begun hcall hstage hrest
      · exact ⟨holder, h⟩

end Kept

/-- Whatever happens to a new engine, it is kept. -/
theorem kept_plays (profile : Profile) (listeners : Listeners) (moves : List (Move ρ)) :
    ∃ holder, Kept profile ((Traffic.initial listeners).plays profile moves) holder := by
  refine List.foldlRecOn (motive := fun traffic => ∃ holder, Kept profile traffic holder) moves _
    ⟨none, .initial listeners⟩ ?_
  rintro traffic ⟨holder, h⟩ move -
  exact h.play move

end Traffic

end ModemLink
