import Mathlib.Data.List.Induction
import ModemLink.Engine.Query
import ModemLink.Proofs.Engine.LinkLoss

/-!
# What a lost link leaves behind

A device is `Down` when none of its contexts is in use and none of its sockets is on its way to a
peer or connected.  Losing the link brings it there (`Device.down_lost`), and most of what handlers
and callers do to a device leaves it there without telling anybody of an activation: this is
`Device.Subdued`, and there is one lemma for each operation.

Two operations are not subdued.  `Device.active_contextActivated` and `Pdn.Table.activation_adopt`
say what a confirmed activation and a list of reported contexts make of a device that is down.
-/

namespace ModemLink

/-! ## Contexts -/

namespace Pdn.Table

variable {α : Type} {table : Table} {id other : Nat} {f : Context → Context × Except Error α}

/-- No context is in use. -/
def Idle (table : Table) : Prop := ∀ id, ¬ table.InUse id

theorem Idle.activation {context : Context} (h : table.Idle) (hcontext : table.get? id = some context) :
    context.activation = .inactive := by
  by_contra huse
  exact h id ⟨context, hcontext, huse⟩

theorem valid_of_get? {context : Context} (h : table.get? id = some context) : ValidId id := by
  by_contra hinvalid
  rw [get?_eq_none_iff.mpr hinvalid] at h
  cases h

/-- Replacing a context by itself changes nothing. -/
theorem put_of_get? {context : Context} (h : table.get? id = some context) :
    table.put id context = table := by
  have hvalid := valid_of_get? h
  rw [get?, if_pos hvalid] at h
  obtain ⟨contexts⟩ := table
  rw [put, if_pos hvalid, mk.injEq]
  ext i hi
  rw [Vector.getElem_setIfInBounds]
  split
  next heq =>
    subst heq
    rw [Vector.getElem?_eq_getElem hi] at h
    exact (Option.some.inj h).symm
  · rfl

theorem get?_change_self :
    (table.change id f).1.get? id = (table.get? id).map fun context => (f context).1 := by
  unfold change
  cases hcontext : table.get? id with
  | none => exact hcontext
  | some context => exact get?_put_self (valid_of_get? hcontext)

theorem exists_get? (table : Table) (h : ValidId id) : ∃ context, table.get? id = some context := by
  cases hcontext : table.get? id with
  | none => exact absurd h (get?_eq_none_iff.mp hcontext)
  | some context => exact ⟨context, rfl⟩

/-- What keeps a context inactive keeps the table idle. -/
theorem Idle.change (h : table.Idle)
    (hf : ∀ context, context.activation = .inactive → (f context).1.activation = .inactive) :
    (table.change id f).1.Idle := by
  rintro other ⟨context, hcontext, huse⟩
  -- only the entry of `id` is another, and that one stays inactive
  by_cases heq : other = id
  · subst heq
    rw [get?_change_self] at hcontext
    obtain ⟨earlier, hearlier, rfl⟩ := Option.map_eq_some_iff.mp hcontext
    exact huse (hf earlier (h.activation hearlier))
  · rw [get?_change_of_ne heq] at hcontext
    exact h other ⟨context, hcontext, huse⟩

theorem Idle.beginDeactivate (h : table.Idle) (id : Nat) : (table.beginDeactivate id).1.Idle := by
  refine h.change fun context hinactive => ?_
  rw [hinactive]
  exact hinactive

theorem Idle.abort (h : table.Idle) (id : Nat) : (table.abort id).1.Idle := by
  refine h.change fun context hinactive => ?_
  rw [hinactive]
  rfl

theorem Idle.setInactive (h : table.Idle) (id : Nat) : (table.setInactive id).1.Idle :=
  h.change fun _ _ => rfl

theorem Idle.setAddress (h : table.Idle) (id : Nat) (address : Address) :
    (table.setAddress id address).1.Idle :=
  h.change fun _ hinactive => hinactive

theorem idle_deactivateAll (table : Table) : table.deactivateAll.1.Idle := by
  rintro id ⟨context, hcontext, huse⟩
  rw [get?_deactivateAll] at hcontext
  obtain ⟨earlier, -, rfl⟩ := Option.map_eq_some_iff.mp hcontext
  exact huse earlier.activation_lost

/-! ### Reported contexts -/

/-- Bring a context in line with a report. -/
def report (table : Table) (report : Nat × Bool) : Table :=
  if report.2 then (table.setActive report.1 none).1 else (table.setInactive report.1).1

/-- Bring the contexts in line with what was reported, one after the other. -/
def adopt (table : Table) (reports : List (Nat × Bool)) : Table := reports.foldl Table.report table

/-- What was reported last about a context. -/
def lastReport (reports : List (Nat × Bool)) (id : Nat) : Option Bool := reports.reverse.lookup id

theorem lastReport_concat (reports : List (Nat × Bool)) (report : Nat × Bool) (id : Nat) :
    lastReport (reports ++ [report]) id =
      if report.1 = id then some report.2 else lastReport reports id := by
  obtain ⟨about, active⟩ := report
  rw [lastReport, List.reverse_concat, List.lookup_cons, lastReport]
  by_cases heq : about = id
  · simp [heq]
  · simp [heq, beq_false_of_ne (Ne.symm heq)]

theorem mem_of_lastReport {reports : List (Nat × Bool)} {active : Bool}
    (h : lastReport reports id = some active) : (id, active) ∈ reports := by
  obtain ⟨later, earlier, hsplit, -⟩ := List.lookup_eq_some_iff.mp h
  rw [← List.mem_reverse, hsplit]
  exact List.mem_append_right later List.mem_cons_self

theorem get?_report_of_ne {report : Nat × Bool} (h : id ≠ report.1) :
    (table.report report).get? id = table.get? id := by
  unfold Table.report
  split <;> exact get?_change_of_ne h

theorem activation_report_self {id : Nat} {active : Bool} {context : Context}
    (h : (table.report (id, active)).get? id = some context) :
    context.activation = if active then .active else .inactive := by
  cases active <;>
    · rw [Table.report] at h
      simp only [if_true, if_false, Bool.false_eq_true, setActive, setInactive, get?_change_self,
        Option.map_eq_some_iff] at h
      obtain ⟨earlier, -, rfl⟩ := h
      rfl

/-- A context that is reported inactive has no address. -/
theorem address_report_self {id : Nat} {context : Context}
    (h : (table.report (id, false)).get? id = some context) : context.address = none := by
  rw [Table.report, if_neg Bool.false_ne_true, setInactive, get?_change_self,
    Option.map_eq_some_iff] at h
  obtain ⟨earlier, -, rfl⟩ := h
  rfl

/-- The last report about a context counts, and without any the context stays as it is. -/
theorem adopt_cases (table : Table) (reports : List (Nat × Bool)) (id : Nat) :
    (lastReport reports id = none ∧ (table.adopt reports).get? id = table.get? id) ∨
      ∃ active earlier, lastReport reports id = some active ∧
        (table.adopt reports).get? id = (Table.report earlier (id, active)).get? id := by
  -- from the end: the last report counts, and the others are those before it
  induction reports using List.reverseRecOn with
  | nil => exact .inl ⟨rfl, rfl⟩
  | append_singleton reports report ih =>
      rw [adopt, List.foldl_concat, ← adopt, lastReport_concat]
      by_cases heq : report.1 = id
      · subst heq
        exact .inr ⟨report.2, table.adopt reports, if_pos rfl, rfl⟩
      · rw [if_neg heq, get?_report_of_ne (Ne.symm heq)]
        exact ih

theorem activation_adopt (h : table.Idle) {reports : List (Nat × Bool)} {context : Context}
    (hcontext : (table.adopt reports).get? id = some context) :
    context.activation = if lastReport reports id = some true then .active else .inactive := by
  rcases adopt_cases table reports id with ⟨hlast, hsame⟩ | ⟨active, earlier, hlast, hreported⟩
  · -- nobody reported the context, so it is inactive as it was
    rw [hlast, if_neg nofun]
    exact h.activation (hsame.symm.trans hcontext)
  · rw [hlast, activation_report_self (hreported.symm.trans hcontext)]
    cases active <;> rfl

theorem Idle.adopt (h : table.Idle) {reports : List (Nat × Bool)}
    (hreports : ∀ id, lastReport reports id ≠ some true) : (table.adopt reports).Idle := by
  rintro id ⟨context, hcontext, huse⟩
  refine huse ((activation_adopt h hcontext).trans ?_)
  rw [if_neg (hreports id)]

end Pdn.Table

/-! ## Sockets -/

namespace SocketState

/-- The owner of a settled socket can only ask for a connection. -/
theorem settled_next {state later : SocketState} {event : SocketEvent}
    {notice : Option SocketNotice} (h : state.Settled) (hevent : event ≠ .openRequested)
    (hnext : Socket.next state event = .ok (later, notice)) : later.Settled := by
  obtain ⟨hopening, hconnected, hclosing⟩ := h
  cases state <;> cases event <;> first | contradiction | (cases hnext; exact ⟨nofun, nofun, nofun⟩)

end SocketState

namespace SocketTable

variable {α : Type} {table : SocketTable} {handle other : SocketHandle}
  {f : Socket → Socket × Except Error α}

/-- No socket is on its way to a peer or connected. -/
def Settled (table : SocketTable) : Prop :=
  ∀ handle socket, table.get? handle = some socket → socket.state.Settled

/-- To replace one socket by a settled one, or by none, keeps the others settled. -/
theorem Settled.put (h : table.Settled) {socket : Option Socket}
    (hsocket : ∀ value, socket = some value → value.state.Settled) :
    (table.put handle socket).Settled := by
  intro other value hvalue
  by_cases heq : other = handle
  · subst heq
    by_cases hlt : other < Limits.sockets
    · rw [get?_put_self hlt] at hvalue
      exact hsocket value hvalue
    · rw [get?_of_not_lt hlt] at hvalue
      cases hvalue
  · rw [get?_put_of_ne heq] at hvalue
    exact h other value hvalue

theorem Settled.remove (h : table.Settled) (handle : SocketHandle) :
    (table.remove handle).1.Settled := by
  unfold SocketTable.remove
  split
  · exact h
  · split
    · refine h.put fun socket hnone => ?_
      cases hnone
    · exact h

end SocketTable

/-! ## The device -/

/-- A listener is told that a context became active. -/
def Notice.isActivation : Notice → Bool
  | context active _ _ => active
  | _ => false

namespace Device

variable {device first second third : Device}

/-- The activations that listeners have been told about. -/
def activations (device : Device) : List Notice := device.notices.filter Notice.isActivation

/-- No context is in use, and no socket is on its way to a peer or connected. -/
structure Down (device : Device) : Prop where
  contexts : device.pdn.Idle
  sockets : device.sockets.Settled

/-- What is done to a device that is down leaves it down, and tells nobody of an activation. -/
def Subdued (before after : Device) : Prop :=
  before.Down → after.Down ∧ after.activations = before.activations

theorem Subdued.refl (device : Device) : Subdued device device := fun hdown => ⟨hdown, rfl⟩

theorem Subdued.trans (h : Subdued first second) (hnext : Subdued second third) :
    Subdued first third := by
  intro hdown
  obtain ⟨hlater, hsame⟩ := h hdown
  exact ⟨(hnext hlater).1, (hnext hlater).2.trans hsame⟩

/-- A change of the contexts alone. -/
theorem subdued_pdn {table : Pdn.Table} (h : device.pdn.Idle → table.Idle) :
    Subdued device { device with pdn := table } :=
  fun hdown => ⟨⟨h hdown.contexts, hdown.sockets⟩, rfl⟩

/-- A change of the sockets alone. -/
theorem subdued_sockets {table : SocketTable} (h : device.sockets.Settled → table.Settled) :
    Subdued device { device with sockets := table } :=
  fun hdown => ⟨⟨hdown.contexts, h hdown.sockets⟩, rfl⟩

theorem subdued_notify {notice : Notice} (h : notice.isActivation = false) :
    Subdued device (device.notify notice) := by
  intro hdown
  unfold notify
  split
  · refine ⟨⟨hdown.contexts, hdown.sockets⟩, ?_⟩
    simp [activations, List.filter_append, h]
  · exact ⟨hdown, rfl⟩

theorem subdued_contextNotice (device : Device) (id : Nat) :
    Subdued device (device.contextNotice false id) := by
  unfold contextNotice
  split
  · exact subdued_notify rfl
  · exact .refl device

theorem subdued_contextDeactivated (device : Device) (id : Nat) :
    Subdued device (device.contextDeactivated id).1 := by
  have htable : Subdued device { device with pdn := (device.pdn.setInactive id).1 } :=
    subdued_pdn fun hidle => hidle.setInactive id
  unfold contextDeactivated
  simp only
  split
  · exact htable
  · split
    · exact htable.trans (subdued_contextNotice _ id)
    · exact htable

/-- No event but the request for a connection brings a socket to life. -/
theorem subdued_socketEvent (device : Device) (handle : SocketHandle) {event : SocketEvent}
    (hevent : event ≠ .openRequested) : Subdued device (device.socketEvent handle event).1 := by
  rcases socketEvent_cases device handle event with
    ⟨failure, heq⟩ | ⟨socket, state, notice, hsocket, hnext⟩
  · rw [heq]
    exact .refl device
  · rw [socketEvent_of_ok hsocket hnext]
    intro hdown
    refine ⟨⟨hdown.contexts, hdown.sockets.put ?_⟩, ?_⟩
    · rintro value ⟨⟩
      exact SocketState.settled_next (hdown.sockets handle socket hsocket) hevent hnext
    · -- what a socket tells is no activation of a context
      cases notice.filter socket.listeners.wants <;>
        simp [activations, List.filter_append, Notice.isActivation]

/-! ### Losing the link -/

theorem down_lost (device : Device) : device.loseSockets.loseContexts.Down where
  contexts := by
    rw [loseContexts_loseSockets]
    exact Pdn.Table.idle_deactivateAll _
  sockets handle socket hsocket := by
    rw [sockets_loseContexts, get?_loseSockets] at hsocket
    obtain ⟨earlier, -, rfl⟩ := Option.map_eq_some_iff.mp hsocket
    exact earlier.state.settled_cutOff

theorem activations_lost (device : Device) :
    device.loseSockets.loseContexts.activations = device.activations := by
  -- a lost link tells of sockets and contexts that are gone, never of an activation
  have hsockets : (SocketTable.allHandles.filterMap device.lossNotice).filter
      Notice.isActivation = [] := by
    refine List.filter_eq_nil_iff.mpr fun notice hnotice => ?_
    obtain ⟨handle, -, hloss⟩ := List.mem_filterMap.mp hnotice
    simp only [lossNotice, Option.bind_eq_bind, Option.bind_eq_some_iff, Option.pure_def] at hloss
    obtain ⟨socket, -, told, -, hnotice⟩ := hloss
    cases hnotice
    exact Bool.false_ne_true
  have hcontexts : (device.contextLosses device.pdn.idsInUse).filter Notice.isActivation = [] := by
    refine List.filter_eq_nil_iff.mpr fun notice hnotice => ?_
    unfold contextLosses at hnotice
    split at hnotice
    · obtain ⟨id, -, rfl⟩ := List.mem_map.mp hnotice
      exact Bool.false_ne_true
    · cases hnotice
  rw [loseContexts_loseSockets, activations, List.filter_append, List.filter_append, hsockets,
    hcontexts, List.append_nil, List.append_nil, activations]

/-! ### Coming back to life -/

@[simp] theorem pdn_notify (device : Device) (notice : Notice) :
    (device.notify notice).pdn = device.pdn := by
  unfold notify
  split <;> rfl

@[simp] theorem pdn_contextNotice (device : Device) (active : Bool) (id : Nat) :
    (device.contextNotice active id).pdn = device.pdn := by
  unfold contextNotice
  split
  · exact pdn_notify _ _
  · rfl

theorem pdn_contextActivated (device : Device) (id : Nat) (address : Option Address) :
    (device.contextActivated id address).1.pdn = (device.pdn.setActive id address).1 := by
  unfold contextActivated
  simp only
  split
  · rfl
  · split
    · exact pdn_contextNotice _ _ _
    · rfl

theorem pdn_contextDeactivated (device : Device) (id : Nat) :
    (device.contextDeactivated id).1.pdn = (device.pdn.setInactive id).1 := by
  unfold contextDeactivated
  simp only
  split
  · rfl
  · split
    · exact pdn_contextNotice _ _ _
    · rfl

/-- An activation that is confirmed makes the context active, whatever it was before. -/
theorem active_contextActivated (device : Device) {id : Nat} (h : Pdn.ValidId id) :
    ∃ context, (device.contextActivated id none).1.pdn.get? id = some context ∧
      context.activation = .active := by
  obtain ⟨context, hcontext⟩ := device.pdn.exists_get? h
  rw [pdn_contextActivated, Pdn.Table.setActive, Pdn.Table.get?_change_self, hcontext]
  exact ⟨_, rfl, rfl⟩

theorem contextActivated_of_not_valid (device : Device) {id : Nat} (h : ¬ Pdn.ValidId id) :
    (device.contextActivated id none).1 = device := by
  unfold contextActivated Pdn.Table.setActive Pdn.Table.change
  rw [Pdn.Table.get?_eq_none_iff.mpr h]

/-- No context is active, no socket is opening or connected, and since a former moment nobody has
been told of an activation. -/
structure Lifeless (since device : Device) : Prop where
  contexts : ∀ id context, device.pdn.get? id = some context → context.activation ≠ .active
  sockets : ∀ handle socket, device.sockets.get? handle = some socket →
    socket.state ≠ .opening ∧ socket.state ≠ .connected
  notices : device.activations = since.activations

theorem Lifeless.activation_ne {since : Device} (h : Lifeless since device) (id : Nat) :
    device.pdn.activation id ≠ .ok .active := by
  unfold Pdn.Table.activation Pdn.Table.ask
  cases hcontext : device.pdn.get? id with
  | none => nofun
  | some context => exact fun hactive => h.contexts id context hcontext (Except.ok.inj hactive)

theorem Down.lifeless (h : device.Down) {since : Device}
    (hnotices : device.activations = since.activations) : Lifeless since device where
  contexts id context hcontext := by
    rw [h.contexts.activation hcontext]
    nofun
  sockets handle socket hsocket :=
    ⟨(h.sockets handle socket hsocket).1, (h.sockets handle socket hsocket).2.1⟩
  notices := hnotices

end Device

end ModemLink
