import ModemLink.Proofs.Engine.Contexts
import ModemLink.Proofs.Engine.Quiet
import ModemLink.Proofs.Engine.Runs

/-!
# Activating and deactivating a context

A change of a context marks it in the table, sends the command, and then settles the change or
takes the mark back.  Only the command waits, and meanwhile the modem may report the end of the
context, or the link may be lost.

* `Device.SameContext`: what is said about other contexts, and all that is said about anything
  else, leaves a context and its listener alone.
* `Bg96.ContextChange.call_settles`: however the command ends and whatever happens meanwhile, no
  mark is left.  If nothing is said about the context meanwhile, the listener is told of a success
  once, and a failure leaves the context as it was.
-/

namespace ModemLink

/-! ## What is said about a context -/

/-- What a notice says about a context: whether it became active, and what the table shows. -/
def Notice.aboutContext? (id : Nat) : Notice → Option (Bool × Pdn.Activation)
  | context active owner seen => if owner = id then some (active, seen) else none
  | registration .. | signal _ | modem _ | line _ | socket .. => none

namespace Device

variable {device before middle after : Device} {id other : Nat} {context : Pdn.Context}

/-- What the listener for contexts has been told about one of them. -/
def contextTold (device : Device) (id : Nat) : List (Bool × Pdn.Activation) :=
  device.notices.filterMap (Notice.aboutContext? id)

/-- A context, and what its listener has been told about it, are as before. -/
structure SameContext (id : Nat) (before after : Device) : Prop where
  entry : after.pdn.get? id = before.pdn.get? id
  told : after.contextTold id = before.contextTold id

theorem SameContext.refl (device : Device) : SameContext id device device := ⟨rfl, rfl⟩

theorem SameContext.trans (h : SameContext id before middle)
    (hnext : SameContext id middle after) : SameContext id before after :=
  ⟨hnext.entry.trans h.entry, hnext.told.trans h.told⟩

theorem contextTold_notify (device : Device) (notice : Notice) (id : Nat) :
    (device.notify notice).contextTold id =
      device.contextTold id ++
        if device.listeners.wants notice then (notice.aboutContext? id).toList else [] := by
  unfold notify
  split
  · simp only [contextTold, List.filterMap_append]
    cases habout : notice.aboutContext? id <;> simp [habout]
  · rw [List.append_nil]

theorem sameContext_notify {notice : Notice} (h : notice.aboutContext? id = none)
    (device : Device) : SameContext id device (device.notify notice) := by
  refine ⟨by rw [pdn_notify], ?_⟩
  rw [contextTold_notify, h]
  simp

theorem sameContext_socketEvent (device : Device) (handle : SocketHandle) (event : SocketEvent) :
    SameContext id device (device.socketEvent handle event).1 := by
  refine ⟨by rw [pdn_socketEvent], ?_⟩
  rcases socketEvent_cases device handle event with
    ⟨failure, heq⟩ | ⟨socket, state, notice, hsocket, hnext⟩
  · rw [heq]
  · rw [socketEvent_of_ok hsocket hnext, contextTold, List.filterMap_append]
    cases notice.filter socket.listeners.wants <;>
      simp [contextTold, Notice.aboutContext?]

theorem allows_sameContext : Allows (SameContext id) where
  trans := .trans
  registration _ _ := ⟨rfl, rfl⟩
  signal _ _ := ⟨rfl, rfl⟩
  notify device notice hgeneral :=
    sameContext_notify (by cases notice <;> first | rfl | cases hgeneral) device

/-- The listener for contexts is told about a context with what the table shows. -/
theorem contextTold_contextNotice (h : device.pdn.get? id = some context) (active : Bool) :
    (device.contextNotice active id).contextTold id =
      device.contextTold id ++
        if device.listeners.context then [(active, context.activation)] else [] := by
  have hactivation : device.pdn.activation id = .ok context.activation := by
    rw [Pdn.Table.activation, Pdn.Table.ask, h]
  rw [contextNotice, hactivation]
  simp only [contextTold_notify, Notice.aboutContext?, if_true, Option.toList_some]
  rfl

theorem listeners_contextNotice (device : Device) (active : Bool) (id : Nat) :
    (device.contextNotice active id).listeners = device.listeners := by
  unfold contextNotice
  split
  · unfold notify
    split <;> rfl
  · rfl

theorem sameContext_contextNotice (h : other ≠ id) (active : Bool) (device : Device) :
    SameContext id device (device.contextNotice active other) := by
  unfold contextNotice
  split
  next seen _ =>
    have hother : (Notice.context active other seen).aboutContext? id = none := if_neg h
    exact sameContext_notify hother device
  · exact .refl device

/-- The end of another context. -/
theorem sameContext_contextDeactivated (h : other ≠ id) (device : Device) :
    SameContext id device (device.contextDeactivated other).1 := by
  -- the table changes in the entry of `other` alone, and the notice names `other`
  have htable : SameContext id device { device with pdn := (device.pdn.setInactive other).1 } :=
    ⟨Pdn.Table.get?_change_of_ne h.symm, rfl⟩
  unfold contextDeactivated
  simp only
  split
  · exact htable
  · split
    · exact htable.trans (sameContext_contextNotice h false _)
    · exact htable

/-- A line of the BG96 says nothing about a context unless it reports the end of that context. -/
theorem sameContext_dispatch {line : Text} (h : Bg96.endedContext? line ≠ some id)
    (device : Device) : SameContext id device (device.dispatch Bg96.tokenTable line) := by
  have hpermits : Permits (SameContext id) := allows_sameContext.permits
    fun device handle event _ => sameContext_socketEvent device handle event
  refine Bg96.dispatch_does hpermits .trans (fun device => sameContext_notify rfl device) ?_ device
  rintro other hother device
  refine sameContext_contextDeactivated (fun heq => h ?_) device
  rw [hother, heq]

end Device

/-! ## The two changes -/

namespace Bg96

open Caller Device Pdn

/-- What can be asked of a context. -/
inductive ContextChange where
  | activate
  | deactivate

namespace ContextChange

variable {profile : Profile} {change : ContextChange} {id : Nat} {engine during later : Engine}
  {device : Device} {context : Context} {result : Except Error Unit}
  {between : Engine → Engine → Prop}

/-- The state that the context has to be in. -/
def start : ContextChange → Activation
  | activate => .inactive
  | deactivate => .active

/-- The state that the context is to come to. -/
def goal : ContextChange → Activation
  | activate => .active
  | deactivate => .inactive

/-- Whether the context is active after the change. -/
def up : ContextChange → Bool
  | activate => true
  | deactivate => false

/-- A context for which the change is marked. -/
def marked : ContextChange → Context → Context
  | activate, context => { context with activation := .activating, family := .ipv4 }
  | deactivate, context => { context with activation := .deactivating }

def call (profile : Profile) (id : Nat) : ContextChange → Caller Unit
  | activate => Bg96.activate profile id
  | deactivate => Bg96.deactivate profile id

/-! ### The parts of a change -/

def mark (id : Nat) : ContextChange → Table → Table × Except Error Unit
  | activate, table => table.beginActivate id .ipv4
  | deactivate, table => table.beginDeactivate id

def settle (id : Nat) : ContextChange → Device → Device × Except TextError Unit
  | activate, device => device.contextActivated id none
  | deactivate, device => device.contextDeactivated id

/-- The command of a change. -/
def request (profile : Profile) (id : Nat) : ContextChange → Caller Unit
  | activate => sendSlow profile ("AT+QIACT=".toList ++ Text.ofNat id) activationTimeout
  | deactivate => sendSlow profile ("AT+QIDEACT=".toList ++ Text.ofNat id) deactivationTimeout

/-- What is left to do once the command has ended. -/
def conclude (id : Nat) (change : ContextChange) : Except Error Unit → Caller Unit
  | .ok () => Caller.report (change.settle id)
  | .error failure => do
      Caller.pdn fun pdn => pdn.abort id
      throw failure

/-- The engine once the change is marked. -/
def begun (id : Nat) (change : ContextChange) (engine : Engine) : Engine :=
  { engine with device := { engine.device with pdn := (change.mark id engine.device.pdn).1 } }

/-- The device once the command has ended. -/
def concluded (id : Nat) (change : ContextChange) (device : Device) : Except Error Unit → Device
  | .ok () => (change.settle id device).1
  | .error _ => { device with pdn := (device.pdn.abort id).1 }

theorem run_call (profile : Profile) (id : Nat) (change : ContextChange) :
    (change.call profile id).run = (Caller.pdn (change.mark id) >>= fun _ =>
      (change.request profile id).attempt >>= change.conclude id : Caller Unit).run := by
  cases change <;> rfl

/-- A context is marked only if it is in the right state. -/
theorem mark_eq (change : ContextChange) (id : Nat) (table : Table) :
    change.mark id table = table.change id fun context =>
      if context.activation = change.start then (change.marked context, .ok ())
      else (context, .error .notAllowed) := by
  cases change with
  | activate =>
      -- activating also sets the family, which the other change does not touch
      refine congrArg (table.change id) (funext fun context => ?_)
      cases context.activation <;> simp [start, marked]
  | deactivate =>
      refine congrArg (table.change id) (funext fun context => ?_)
      cases context.activation <;> simp [start, marked]

theorem get?_begun (h : engine.device.pdn.get? id = some context)
    (hstart : context.activation = change.start) :
    (change.begun id engine).device.pdn.get? id = some (change.marked context) := by
  show (change.mark id engine.device.pdn).1.get? id = _
  rw [mark_eq, Table.get?_change_self, h, Option.map_some, if_pos hstart]

theorem advance_call_of_not_valid (h : ¬ ValidId id) :
    (change.call profile id).run.advance engine = (engine, .done (.error .badParameter)) := by
  have hmark : change.mark id engine.device.pdn = (engine.device.pdn, .error .badParameter) := by
    rw [mark_eq, Table.change, Table.get?_eq_none_iff.mpr h]
  rw [run_call, advance_bind_of_error (advance_pdn (congrArg Prod.snd hmark)), hmark]

theorem advance_call_of_ne (h : engine.device.pdn.get? id = some context)
    (hstart : context.activation ≠ change.start) :
    (change.call profile id).run.advance engine = (engine, .done (.error .notAllowed)) := by
  have hmark : change.mark id engine.device.pdn = (engine.device.pdn, .error .notAllowed) := by
    rw [mark_eq, Table.change, h]
    simp only [if_neg hstart, Table.put_of_get? h]
  rw [run_call, advance_bind_of_error (advance_pdn (congrArg Prod.snd hmark)), hmark]

/-- Up to its command, a change does not wait. -/
theorem advance_call (h : engine.device.pdn.get? id = some context)
    (hstart : context.activation = change.start) :
    (change.call profile id).run.advance engine =
      ((change.request profile id).run.bind fun result => (change.conclude id result).run).advance
        (change.begun id engine) := by
  have hmark : (change.mark id engine.device.pdn).2 = .ok () := by
    rw [mark_eq, Table.change, h]
    simp only [if_pos hstart]
  rw [run_call, advance_bind_of_ok (advance_pdn hmark), run_attempt_bind]
  rfl

/-- What settles a change does not fail. -/
theorem settle_ok (h : device.pdn.get? id = some context) (change : ContextChange) :
    (change.settle id device).2 = .ok () := by
  cases change with
  | activate => simp only [settle, contextActivated, Table.setActive, Table.change, h]
  | deactivate => simp only [settle, contextDeactivated, Table.setInactive, Table.change, h]

/-- After its command it does not wait either. -/
theorem advance_conclude (h : ValidId id) (change : ContextChange) (engine : Engine)
    (result : Except Error Unit) :
    (change.conclude id result).run.advance engine =
      ({ engine with device := change.concluded id engine.device result }, .done result) := by
  obtain ⟨context, hcontext⟩ := engine.device.pdn.exists_get? h
  cases result with
  | ok value => exact advance_report (settle_ok hcontext change)
  | error failure =>
      have habort : (engine.device.pdn.abort id).2 = .ok () := by
        rw [Table.abort, Table.change, hcontext]
      exact advance_bind_of_ok (advance_pdn habort)

/-- A change that is allowed runs its command, and then concludes. -/
theorem runs_call_iff (h : engine.device.pdn.get? id = some context)
    (hstart : context.activation = change.start) :
    Call.Runs between engine (change.call profile id).run later result ↔
      ∃ during, Call.Runs between (change.begun id engine) (change.request profile id).run
          during result ∧
        later = { during with device := change.concluded id during.device result } := by
  have hvalid : ValidId id := Table.valid_of_get? h
  rw [Call.Runs.advance_iff (advance_call h hstart),
    Call.Runs.bind_iff (fun engine result =>
      ({ engine with device := change.concluded id engine.device result }, result))
      (advance_conclude hvalid change)]
  constructor
  · rintro ⟨during, result, hrequest, heq⟩
    cases heq
    exact ⟨during, hrequest, rfl⟩
  · rintro ⟨during, hrequest, rfl⟩
    exact ⟨during, result, hrequest, rfl⟩

theorem exists_run_request (change : ContextChange) (hrefl : ∀ engine, between engine engine)
    (hfree : engine.locked = false) :
    ∃ during result, Call.Runs between engine (change.request profile id).run during result := by
  cases change with
  | activate =>
      exact Job.exists_run hrefl hfree (.run (plain _) activationTimeout .none fun _ => .ok ())
  | deactivate =>
      exact Job.exists_run hrefl hfree (.run (plain _) deactivationTimeout .none fun _ => .ok ())

/-! ### What is left in the table -/

/-- A change that is settled has brought the context to where it was to go. -/
theorem activation_settle (h : device.pdn.get? id = some context) (change : ContextChange) :
    ∃ last, (change.settle id device).1.pdn.get? id = some last ∧
      last.activation = change.goal := by
  cases change with
  | activate =>
      rw [settle, pdn_contextActivated, Table.setActive, Table.get?_change_self, h]
      exact ⟨_, rfl, rfl⟩
  | deactivate =>
      rw [settle, pdn_contextDeactivated, Table.setInactive, Table.get?_change_self, h]
      exact ⟨_, rfl, rfl⟩

theorem get?_abort (h : device.pdn.get? id = some context) :
    (device.pdn.abort id).1.get? id =
      some { context with activation := Table.Activation.undone context.activation } := by
  rw [Table.abort, Table.get?_change_self, h]
  rfl

/-- Whatever the context was before, no mark is left. -/
theorem activation_concluded (h : device.pdn.get? id = some context) (change : ContextChange)
    (result : Except Error Unit) :
    ∃ last, (change.concluded id device result).pdn.get? id = some last ∧
      (last.activation = .inactive ∨ last.activation = .active) ∧
        (result = .ok () → last.activation = change.goal) := by
  cases result with
  | ok value =>
      obtain ⟨last, hlast, hgoal⟩ := activation_settle h change
      refine ⟨last, hlast, ?_, fun _ => hgoal⟩
      rw [hgoal]
      cases change with
      | activate => exact .inr rfl
      | deactivate => exact .inl rfl
  | error failure =>
      refine ⟨_, get?_abort h, ?_, nofun⟩
      -- taking the mark back leads from either marked state to an unmarked one
      cases context.activation with
      | inactive | activating => exact .inl rfl
      | active | deactivating => exact .inr rfl

/-! ### What the listener is told -/

/-- Settling a change that is marked changes the context, and then tells the listener. -/
theorem settle_marked (h : device.pdn.get? id = some (change.marked context)) :
    ∃ table last, (change.settle id device).1 =
        ({ device with pdn := table } : Device).contextNotice change.up id ∧
      table.get? id = some last ∧ last.activation = change.goal := by
  obtain ⟨last, hlast, hgoal⟩ := activation_settle h change
  refine ⟨(change.settle id device).1.pdn, last, ?_, hlast, hgoal⟩
  cases change with
  | activate =>
      rw [settle, pdn_contextActivated]
      simp only [contextActivated, Table.setActive, Table.change, h]
      rfl
  | deactivate =>
      rw [settle, pdn_contextDeactivated]
      simp only [contextDeactivated, Table.setInactive, Table.change, h]
      rfl

/-- So it tells the listener once. -/
theorem contextTold_settle (h : device.pdn.get? id = some (change.marked context)) :
    (change.settle id device).1.contextTold id =
      device.contextTold id ++ if (change.settle id device).1.listeners.context then
        [(change.up, change.goal)] else [] := by
  obtain ⟨table, last, hsettle, hlast, hgoal⟩ := settle_marked h
  rw [hsettle, contextTold_contextNotice hlast, hgoal, listeners_contextNotice]
  rfl

/-- Taking the mark back leaves the context as it was before it was marked. -/
theorem undone_marked (hstart : context.activation = change.start) :
    Table.Activation.undone (change.marked context).activation = context.activation ∧
      (change.marked context).address = context.address := by
  rw [hstart]
  cases change <;> exact ⟨rfl, rfl⟩

/-! ### The whole of it -/

/-- What a change that is allowed has come to when it ends. -/
structure Ended (profile : Profile) (id : Nat) (change : ContextChange)
    (between : Engine → Engine → Prop) (engine later : Engine) (result : Except Error Unit) :
    Prop where
  /-- The command is sent once the change is marked, and its result is the result. -/
  requested : ∃ during,
    Call.Runs between (change.begun id engine) (change.request profile id).run during result ∧
      later = { during with device := change.concluded id during.device result }
  /-- No mark is left, and after a success the context is where it was to go. -/
  settled : ∃ last, later.device.pdn.get? id = some last ∧
    (last.activation = .inactive ∨ last.activation = .active) ∧
      (result = .ok () → last.activation = change.goal)

/-- What a change comes to if nothing is said about the context meanwhile. -/
structure Undisturbed (id : Nat) (change : ContextChange) (context : Context)
    (engine later : Engine) (result : Except Error Unit) : Prop where
  /-- The listener is told of a success once. -/
  succeeded : result = .ok () → later.device.contextTold id =
    engine.device.contextTold id ++
      if later.device.listeners.context then [(change.up, change.goal)] else []
  /-- It is not told of a failure, which leaves the context as it was. -/
  failed : ∀ failure, result = .error failure →
    later.device.contextTold id = engine.device.contextTold id ∧
      ∃ last, later.device.pdn.get? id = some last ∧ last.activation = context.activation ∧
        last.address = context.address

theorem ended_of_runs (h : engine.device.pdn.get? id = some context)
    (hstart : context.activation = change.start)
    (hrun : Call.Runs between engine (change.call profile id).run later result) :
    Ended profile id change between engine later result := by
  obtain ⟨during, hrequest, hlater⟩ := (runs_call_iff h hstart).mp hrun
  obtain ⟨context, hduring⟩ := during.device.pdn.exists_get? (Table.valid_of_get? h)
  refine ⟨⟨during, hrequest, hlater⟩, ?_⟩
  rw [hlater]
  exact activation_concluded hduring change result

/-- Lines that do not report the end of the context, and anything else that leaves it alone. -/
def Spared (profile : Profile) (id : Nat) : Engine → Engine → Prop :=
  Engine.Quietly profile (fun line => endedContext? line ≠ some id) (SameContext id)

theorem undisturbed_of_runs (htable : profile.table = tokenTable)
    (h : engine.device.pdn.get? id = some context) (hstart : context.activation = change.start)
    (hrun : Call.Runs (Spared profile id) engine (change.call profile id).run later result) :
    Undisturbed id change context engine later result := by
  obtain ⟨during, hrequest, rfl⟩ := (runs_call_iff h hstart).mp hrun
  -- neither the lines handled meanwhile nor the command itself touch the context, so the mark
  -- that was set before the command is still there after it
  have hquiet : ∀ line, endedContext? line ≠ some id → ∀ device : Device,
      SameContext id device (device.dispatch profile.table line) := by
    intro line hline device
    rw [htable]
    exact sameContext_dispatch hline device
  have hguarded : (change.request profile id).Guarded (SameContext id) := by
    cases change <;> exact sendSlow_guarded .refl _ _
  have hsame : SameContext id (change.begun id engine).device during.device :=
    hrequest.device .refl .trans (Engine.Quietly.device .refl .trans hquiet) hguarded
  have hmarked : during.device.pdn.get? id = some (change.marked context) :=
    hsame.entry.trans (get?_begun h hstart)
  have htold : during.device.contextTold id = engine.device.contextTold id := hsame.told
  constructor
  · -- success: the notice of settling is the only one
    rintro rfl
    rw [← htold]
    exact contextTold_settle hmarked
  · -- failure: nothing was told, and the mark is taken back
    rintro failure rfl
    obtain ⟨hactivation, haddress⟩ := undone_marked hstart
    exact ⟨htold, _, get?_abort hmarked, hactivation, haddress⟩

/-- A change of a context that does not exist, or is not in the right state, is refused at once and
changes nothing.  Any other change leaves no mark, however its command ends and whatever happens
meanwhile; and if nothing is said about the context meanwhile, the listener is told of a success
once, and a failure leaves the context as it was.  The change ends when its command ends, and it
can end if it finds the lock free. -/
theorem call_settles (htable : profile.table = tokenTable) (change : ContextChange) (id : Nat)
    (engine : Engine) :
    (¬ ValidId id → (change.call profile id).run.advance engine =
      (engine, .done (.error .badParameter))) ∧
    ∀ context, engine.device.pdn.get? id = some context →
      (context.activation ≠ change.start → (change.call profile id).run.advance engine =
        (engine, .done (.error .notAllowed))) ∧
      (context.activation = change.start →
        (∀ between later result, Call.Runs between engine (change.call profile id).run later result →
          Ended profile id change between engine later result) ∧
        (∀ later result,
          Call.Runs (Spared profile id) engine (change.call profile id).run later result →
            Undisturbed id change context engine later result) ∧
        (∀ between during result,
          Call.Runs between (change.begun id engine) (change.request profile id).run during result →
            ∃ later, Call.Runs between engine (change.call profile id).run later result) ∧
        (engine.locked = false → ∃ later result,
          Call.Runs (Spared profile id) engine (change.call profile id).run later result)) := by
  refine ⟨advance_call_of_not_valid, fun context h => ⟨advance_call_of_ne h, fun hstart => ?_⟩⟩
  -- after its command a change does not wait, so it ends with the command
  have hends : ∀ between during result,
      Call.Runs between (change.begun id engine) (change.request profile id).run during result →
        ∃ later, Call.Runs between engine (change.call profile id).run later result :=
    fun between during result hrequest =>
      ⟨_, (runs_call_iff h hstart).mpr ⟨during, hrequest, rfl⟩⟩
  refine ⟨fun between later result => ended_of_runs h hstart,
    fun later result => undisturbed_of_runs htable h hstart, hends, fun hfree => ?_⟩
  -- a free lock lets the command run, at worst into its time limit
  have hrefl : ∀ engine, Spared profile id engine engine := fun _ => .refl
  have hbegun : (change.begun id engine).locked = false := hfree
  obtain ⟨during, result, hrequest⟩ := exists_run_request change hrefl hbegun
  obtain ⟨later, hrun⟩ := hends _ during result hrequest
  exact ⟨later, result, hrun⟩

/-- A BG96 with the usual times. -/
def usualProfile : Profile := { config := {}, table := tokenTable }

/-- An engine with an open link that nothing is known of. -/
def openEngine : Engine := Engine.becomeOpen (.initial {})

/-- The engine once the activation of context 1 is sent. -/
def sentEngine : Engine := (plain "AT+QIACT=1".toList).sent .none (activate.begun 1 openEngine)

/-- The modem reports the end of context 2, and confirms the command. -/
def confirmation : Bytes := Text.toBytes "+QIURC: \"pdpdeact\",2\r\nOK\r\n"

/-- While context 1 is activated, the modem reports the end of context 2. -/
theorem call_settles_activated :
    usualProfile.table = tokenTable ∧ openEngine.device.pdn.get? 1 = some .fresh ∧
      ∃ later, Call.Runs (Spared usualProfile 1) openEngine (activate.call usualProfile 1).run
          later (.ok ()) ∧
        later.device.contextTold 1 =
          (if later.device.listeners.context then [(true, .active)] else []) ∧
        ∃ last, later.device.pdn.get? 1 = some last ∧ last.activation = .active := by
  have hcontext : openEngine.device.pdn.get? 1 = some .fresh := rfl
  -- the report is about context 2, so this is an interference that spares context 1
  have hlines : sentEngine.dispatched usualProfile .empty confirmation =
      ["+QIURC: \"pdpdeact\",2".toList] := by decide
  have hspared : Spared usualProfile 1 sentEngine
      (sentEngine.receive usualProfile .empty confirmation).1 := by
    refine .single (.received sentEngine .empty confirmation fun line hmem => ?_)
    rw [hlines, List.mem_singleton] at hmem
    subst hmem
    decide
  have hrequest : ∃ during, Call.Runs (Spared usualProfile 1) (activate.begun 1 openEngine)
      (activate.request usualProfile 1).run during (.ok ()) := by
    have hcommand : activate.request usualProfile 1 =
        (plain "AT+QIACT=1".toList).run usualProfile activationTimeout .none fun _ => .ok () := rfl
    have houtcome : (sentEngine.receive usualProfile .empty confirmation).1.exchange.outcome =
        some (.ok .success) := by rfl
    rw [hcommand]
    exact ⟨_, Request.runs_succeeded (fun _ => .refl) rfl rfl rfl rfl hspared houtcome⟩
  obtain ⟨during, hduring⟩ := hrequest
  obtain ⟨hended, hundisturbed, hends, -⟩ :=
    ((@call_settles usualProfile rfl activate 1 openEngine).2 .fresh hcontext).2 rfl
  obtain ⟨later, hlater⟩ := hends _ during _ hduring
  obtain ⟨last, hlast, -, hgoal⟩ := (hended _ later _ hlater).settled
  have htold := (hundisturbed later _ hlater).succeeded rfl
  exact ⟨rfl, hcontext, later, hlater, htold, last, hlast, hgoal rfl⟩

end ContextChange

end Bg96

end ModemLink
