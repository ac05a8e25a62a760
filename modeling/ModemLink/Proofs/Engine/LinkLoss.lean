import ModemLink.Bench.World
import ModemLink.Bg96.Tokens
import ModemLink.Proofs.Socket.LinkLoss

/-!
# Losing the link

What is left of an engine whose link broke.  The command in flight ends with the cause of the loss,
every socket that was open or about to be has failed or is closed, no context is in use, and each
owner has been told once about each of these.

* `Device.loseContexts_eq` says what the loss does to the contexts, and whom it tells; the sockets are
  those of `ModemLink.Proofs.Socket.LinkLoss`.
* `Engine.loseLink_loseLink`: a second loss finds nothing left to bring down.
* `Bench.Receiver.run_brings_down_once`: the receive loop fails in this way and in no other.
-/

namespace ModemLink

/-! ## Contexts -/

namespace Pdn

/-- A context after the link was lost. -/
def Context.lost (context : Context) : Context :=
  if context.activation = .inactive then context else .fresh

theorem Context.activation_lost (context : Context) : context.lost.activation = .inactive := by
  unfold lost
  split
  · assumption
  · rfl

namespace Table

variable {table : Table} {id : Nat}

/-- A context that is not inactive. -/
def InUse (table : Table) (id : Nat) : Prop :=
  ∃ context, table.get? id = some context ∧ context.activation ≠ .inactive

theorem mem_ids : id ∈ ids ↔ ValidId id := by
  simp only [ids, List.mem_map, List.mem_range, ValidId]
  constructor
  · rintro ⟨place, hplace, rfl⟩
    omega
  · intro h
    exact ⟨id - 1, by omega, by omega⟩

theorem mem_idsInUse : id ∈ table.idsInUse ↔ table.InUse id := by
  unfold idsInUse InUse
  rw [List.mem_filter, mem_ids]
  cases hcontext : table.get? id with
  | none => simp
  | some context =>
      have hvalid : ValidId id := by
        by_contra h
        rw [get?_eq_none_iff.mpr h] at hcontext
        cases hcontext
      simp [hvalid]

/-- They are named in ascending order. -/
theorem idsInUse_ascending (table : Table) : table.idsInUse.Pairwise (· < ·) := by
  refine List.Pairwise.filter _ ((List.pairwise_map).mpr ?_)
  exact List.pairwise_lt_range.imp fun hlt => Nat.succ_lt_succ hlt

theorem get?_deactivateAll (table : Table) (id : Nat) :
    table.deactivateAll.1.get? id = (table.get? id).map Context.lost := by
  unfold get? deactivateAll
  split
  · simp only [Vector.getElem?_map]
    rfl
  · rfl

theorem activation_deactivateAll (h : table.InUse id) :
    table.deactivateAll.1.activation id = .ok .inactive := by
  obtain ⟨context, hcontext, -⟩ := h
  rw [activation, ask, get?_deactivateAll, hcontext, Option.map_some]
  exact congrArg Except.ok context.activation_lost

/-- Once is enough. -/
theorem deactivateAll_deactivateAll (table : Table) :
    table.deactivateAll.1.deactivateAll = (table.deactivateAll.1, []) := by
  -- nothing is in use any more, so the second time nobody is named
  have hnone : table.deactivateAll.1.idsInUse = [] := by
    refine List.eq_nil_iff_forall_not_mem.mpr fun id hmem => ?_
    obtain ⟨context, hcontext, hactivation⟩ := mem_idsInUse.mp hmem
    rw [get?_deactivateAll] at hcontext
    obtain ⟨earlier, -, rfl⟩ := Option.map_eq_some_iff.mp hcontext
    exact hactivation earlier.activation_lost
  refine Prod.ext ?_ hnone
  simp only [deactivateAll, Vector.map_map, mk.injEq]
  refine Vector.map_congr_left fun context _ => ?_
  by_cases h : context.activation = .inactive <;> simp [h, Context.fresh]

end Table

end Pdn

namespace Device

/-- What the listener for contexts is told about those with the given numbers. -/
def contextLosses (device : Device) (ids : List Nat) : List Notice :=
  if device.listeners.context then ids.map (Notice.context false · .inactive) else []

theorem contextNotice_of_inactive {device : Device} {id : Nat}
    (h : device.pdn.activation id = .ok .inactive) :
    device.contextNotice false id =
      { device with notices := device.notices ++ device.contextLosses [id] } := by
  simp only [contextNotice, h, notify, contextLosses]
  show (if device.listeners.context then _ else _) = _
  split <;> simp

theorem foldl_contextNotice {ids : List Nat} (device : Device)
    (h : ∀ id ∈ ids, device.pdn.activation id = .ok .inactive) :
    ids.foldl (fun device id => device.contextNotice false id) device =
      { device with notices := device.notices ++ device.contextLosses ids } := by
  induction ids generalizing device with
  | nil => simp [contextLosses]
  | cons first ids ih =>
      rw [List.foldl_cons, contextNotice_of_inactive (h first List.mem_cons_self), ih]
      · simp only [contextLosses]
        split <;> simp
      · exact fun id hmem => h id (List.mem_cons_of_mem _ hmem)

/-- All contexts are reset, and the listener is told about those that were in use. -/
theorem loseContexts_eq (device : Device) :
    device.loseContexts =
      { device with
        pdn := device.pdn.deactivateAll.1
        notices := device.notices ++ device.contextLosses device.pdn.idsInUse } := by
  refine foldl_contextNotice { device with pdn := device.pdn.deactivateAll.1 } fun id hmem => ?_
  exact Pdn.Table.activation_deactivateAll (Pdn.Table.mem_idsInUse.mp hmem)

@[simp] theorem sockets_loseContexts (device : Device) :
    device.loseContexts.sockets = device.sockets := by
  rw [loseContexts_eq]

theorem loseContexts_loseContexts (device : Device) :
    device.loseContexts.loseContexts = device.loseContexts := by
  have htwice := Pdn.Table.deactivateAll_deactivateAll device.pdn
  have htable := congrArg Prod.fst htwice
  have hids : device.pdn.deactivateAll.1.idsInUse = [] := congrArg Prod.snd htwice
  rw [loseContexts_eq device.loseContexts, loseContexts_eq device]
  simp [htable, hids, contextLosses]

/-- Both losses together. -/
theorem loseContexts_loseSockets (device : Device) :
    device.loseSockets.loseContexts =
      { device with
        sockets := device.loseSockets.sockets
        pdn := device.pdn.deactivateAll.1
        notices := device.notices ++ (SocketTable.allHandles.filterMap device.lossNotice ++
          device.contextLosses device.pdn.idsInUse) } := by
  have hsockets := socketsLost_loseSockets device
  generalize device.loseSockets = later at hsockets
  rw [loseContexts_eq, contextLosses, hsockets.pdn, hsockets.listeners, hsockets.notices,
    List.append_assoc, hsockets.rest, contextLosses]

/-- A device that lost the link has nothing more to lose. -/
theorem loseContexts_loseSockets_twice (device : Device) :
    device.loseSockets.loseContexts.loseSockets.loseContexts =
      device.loseSockets.loseContexts := by
  rw [loseSockets_of_settled, loseContexts_loseContexts]
  -- what is left to show is that the first loss has settled every socket
  intro handle socket hsocket
  rw [sockets_loseContexts, get?_loseSockets] at hsocket
  obtain ⟨earlier, -, rfl⟩ := Option.map_eq_some_iff.mp hsocket
  exact earlier.state.settled_cutOff

end Device

/-! ## The engine -/

namespace Engine

variable {engine : Engine} {cause : LinkError}

/-- What is left of an engine whose receive loop ended because the link failed. -/
structure BroughtDown (cause : LinkError) (before after : Engine) : Prop where
  /-- The command in flight ends with the cause. -/
  pending : before.exchange.inFlight.isSome →
    after.exchange =
      { before.exchange with inFlight := none, outcome := some (.error (.link cause)) }
  idle : before.exchange.inFlight = none → after.exchange = before.exchange
  sockets : ∀ handle, after.device.sockets.get? handle =
    (before.device.sockets.get? handle).map Socket.cutOff
  contexts : ∀ id, after.device.pdn.get? id = (before.device.pdn.get? id).map Pdn.Context.lost
  /-- The owners of sockets are told first and the listener for contexts then, all in ascending
  order and each of them once. -/
  notices : ∃ ids : List Nat, ids.Pairwise (· < ·) ∧
    (∀ id, id ∈ ids ↔ before.device.pdn.InUse id) ∧
    after.device.notices = before.device.notices ++
      (SocketTable.allHandles.filterMap before.device.lossNotice ++ before.device.contextLosses ids)
  rest : after =
    { before with
      link := .closed
      exchange := after.exchange
      device := { before.device with
        sockets := after.device.sockets
        pdn := after.device.pdn
        notices := after.device.notices } }
  /-- To lose the link again changes nothing. -/
  once : ∀ again, after.loseLink again = after

theorem loseLink_becomeClosed (engine : Engine) (cause : LinkError) :
    engine.becomeClosed.loseLink cause = (engine.loseLink cause).becomeClosed := by
  simp only [loseLink, becomeClosed]

theorem loseLink_loseLink (engine : Engine) (cause again : LinkError) :
    (engine.loseLink cause).loseLink again = engine.loseLink cause := by
  simp only [loseLink, Device.loseContexts_loseSockets_twice,
    Exchange.complete_of_idle (Exchange.inFlight_complete _ _)]

theorem broughtDown_loseLink (engine : Engine) (cause : LinkError) :
    BroughtDown cause engine (engine.loseLink cause).becomeClosed where
  pending h := if_pos h
  idle h := Exchange.complete_of_idle h _
  sockets handle := by
    simp only [loseLink, becomeClosed, Device.loseContexts_loseSockets, Device.get?_loseSockets]
  contexts id := by
    simp only [loseLink, becomeClosed, Device.loseContexts_loseSockets,
      Pdn.Table.get?_deactivateAll]
  notices := by
    refine ⟨engine.device.pdn.idsInUse, Pdn.Table.idsInUse_ascending _,
      fun id => Pdn.Table.mem_idsInUse, ?_⟩
    simp only [loseLink, becomeClosed, Device.loseContexts_loseSockets]
  rest := by
    simp only [loseLink, becomeClosed, Device.loseContexts_loseSockets]
  once again := by
    rw [loseLink_becomeClosed, loseLink_loseLink]

/-- The chunks that a receive loop handles one after the other. -/
def receiveAll (profile : Profile) : Engine → ReadBuffer → List Bytes → Engine × ReadBuffer
  | engine, buffer, [] => (engine, buffer)
  | engine, buffer, chunk :: chunks =>
      receiveAll profile (engine.receive profile buffer chunk).1
        (engine.receive profile buffer chunk).2 chunks

end Engine

/-! ## The receive loop -/

namespace Bench.Receiver

/-- A receive loop that ends with an error has lost the link, whatever it received before. -/
theorem read_of_error (profile : Profile) (fuel : Nat) {world : World} {receiver : Receiver}
    {failure : Error} (hrunning : receiver.result? = none)
    (hend : (read profile fuel world receiver).2.result? = some (.error failure)) :
    ∃ chunks cause, cause ≠ .timeout ∧ failure = .link cause ∧
      (read profile fuel world receiver).1.engine =
        ((world.engine.receiveAll profile receiver.buffer chunks).1.loseLink cause).becomeClosed := by
  induction fuel generalizing world receiver with
  | zero =>
      rw [read, hrunning] at hend
      cases hend
  | succ fuel ih =>
      unfold read at hend ⊢
      split at hend
      · cases hend
      next hrun =>
        simp only [hrun, if_false, Bool.false_eq_true]
        split at hend
        next htake =>
          -- nothing to take: the loop waits, and has no result yet
          rw [hrunning] at hend
          cases hend
        next modem htake => exact ih hrunning hend
        next cause modem hcause htake =>
          -- the failure that ends the loop, with no chunk before it
          cases hend
          exact ⟨[], cause, hcause, rfl, rfl⟩
        next chunk modem htake =>
          -- one more chunk, and then the loop as before
          let next := world.engine.receive profile receiver.buffer chunk
          have hnext : ({ receiver with buffer := next.2 } : Receiver).result? = none := hrunning
          obtain ⟨chunks, cause, hcause, hfailure, hengine⟩ :=
            @ih { world with engine := next.1, modem := modem, busy := true } _ hnext hend
          exact ⟨chunk :: chunks, cause, hcause, hfailure, hengine⟩

/-- A failure of the link ends the receive loop, unless it is a timeout. -/
theorem readAll_of_failure (profile : Profile) {world : World} (receiver : Receiver)
    {cause : LinkError} {modem : Modem} (hcause : cause ≠ .timeout)
    (hrun : world.engine.shutdown = false)
    (htake : world.modem.take? world.now (Limits.readBuffer - receiver.buffer.bytes.length) =
      some (.failure cause, modem)) :
    (readAll profile world receiver).2.result? = some (.error (.link cause)) ∧
      (readAll profile world receiver).1.engine = (world.engine.loseLink cause).becomeClosed := by
  unfold readAll read
  simp only [hrun, htake, if_false, Bool.false_eq_true]
  cases cause with
  | timeout => exact absurd rfl hcause
  | _ => exact ⟨rfl, rfl⟩

/-- A receive loop that reads ends with an error only if the link failed, and then it has brought down
what the engine had by then: the command in flight, the sockets and the contexts, all of them once.
A failure other than a timeout does end it. -/
theorem run_brings_down_once (profile : Profile) (world : World) (buffer : ReadBuffer) :
    let receiver : Receiver := { stage := .reading, buffer := buffer }
    let later := receiver.run profile world
    (∀ failure, later.2.result? = some (.error failure) →
      ∃ chunks cause, cause ≠ .timeout ∧ failure = .link cause ∧
        Engine.BroughtDown cause (world.engine.receiveAll profile buffer chunks).1
          later.1.engine) ∧
    ∀ cause modem, cause ≠ .timeout → world.engine.shutdown = false →
      world.modem.take? world.now (Limits.readBuffer - buffer.bytes.length) =
          some (.failure cause, modem) →
        later.2.result? = some (.error (.link cause)) ∧
          Engine.BroughtDown cause world.engine later.1.engine := by
  intro receiver later
  constructor
  · -- an error is a failure of the link after some chunks
    intro failure hend
    obtain ⟨chunks, cause, hcause, hfailure, hengine⟩ := read_of_error profile _ rfl hend
    refine ⟨chunks, cause, hcause, hfailure, ?_⟩
    rw [show later.1.engine = _ from hengine]
    exact Engine.broughtDown_loseLink _ cause
  · intro cause modem hcause hrun htake
    obtain ⟨hresult, hengine⟩ := readAll_of_failure profile receiver hcause hrun htake
    refine ⟨hresult, ?_⟩
    rw [show later.1.engine = _ from hengine]
    exact Engine.broughtDown_loseLink world.engine cause

/-- An engine with a command in flight, two contexts in use, and a socket in every state that a lost
link does something to, and in one that it does not. -/
def busyEngine : Engine :=
  let socket (state : SocketState) : Option Socket :=
    some { Socket.fresh 1 .inet .stream .tcp with state := state, listeners := .all }
  let context (activation : Pdn.Activation) : Pdn.Context :=
    { Pdn.Context.fresh with activation := activation }
  let device := Device.initial {}
  { Engine.initial {} with
    link := .opened
    exchange := Exchange.idle.start
      { kind := .noResult, label := none, hooks := .none, successTokens := [] }
    device := { device with
      sockets := (((device.sockets.put 0 (socket .opening)).put 1 (socket .created)).put 2
        (socket .connected)).put 11 (socket .closing)
      pdn := (device.pdn.put 1 (context .active)).put 16 (context .activating) } }

theorem run_brings_down_once_busy :
    let profile : Profile := { config := {}, table := Bg96.tokenTable }
    let modem := { Modem.initial {} [] with queue := [(0, .failure .driver)] }
    let world : World := { now := 0, engine := busyEngine, modem := modem, busy := false }
    let later := Receiver.run profile world { stage := .reading, buffer := .empty }
    later.2.result? = some (.error (.link .driver)) ∧
      Engine.BroughtDown .driver busyEngine later.1.engine ∧
      (busyEngine.loseLink .driver).device.notices =
        [.socket 0 (.opened false) .openFailed, .socket 2 .closed .closed,
          .socket 11 .closed .closed, .context false 1 .inactive, .context false 16 .inactive] := by
  intro profile modem world later
  obtain ⟨hresult, hdown⟩ :=
    (run_brings_down_once profile world .empty).2 .driver _ (by decide) rfl rfl
  exact ⟨hresult, hdown, by decide +kernel⟩

end Bench.Receiver

end ModemLink
