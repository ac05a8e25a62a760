import Mathlib.Logic.Function.Basic
import Mathlib.Order.Lattice.Nat
import ModemLink.Proofs.Socket.LinkLoss

/-!
# The sockets are a finite map

Whoever uses the sockets need not know about slots: they behave as a finite map from handles to
sockets, in which a new socket gets the lowest free handle below `Limits.sockets`.

## Strategy

`SocketMap.Performs` says what one operation makes of a map and what it answers, with one
constructor for each way in which an operation can end.  It mentions neither slots nor the order in
which they are searched.

* `performs_iff`: the table performs an operation in the one way that the map allows.  Every
  property of a single operation is read off this relation.
* `runs_iff`: so a sequence of operations has exactly one run from the empty map, with the answers
  and the sockets of the table.
* `get?_applyAll_iff`: the history of a socket.  It was allocated under its handle, and nothing but
  the operations since then has made it what it is; so it owes nothing to earlier owners of the
  slot.
-/

namespace ModemLink

/-! ## What an operation makes of the socket that it names -/

namespace Socket

/-- Parameters that a socket may be allocated for. -/
def Fits (contextId : Nat) (service : SocketService) (protocol : SocketProtocol) : Prop :=
  (1 ≤ contextId ∧ contextId ≤ 16) ∧
    (service = .stream ∧ protocol = .tcp ∨ service = .datagram ∧ protocol = .udp)

theorem fits_iff {contextId : Nat} {service : SocketService} {protocol : SocketProtocol} :
    Fits contextId service protocol ↔
      Pdn.ValidId contextId ∧ SocketTable.Matches service protocol := by
  refine and_congr Iff.rfl ?_
  cases service <;> cases protocol <;> decide

/-- A socket that has the parameters of its allocation, and nothing that an owner could have given
it. -/
structure IsFresh (socket : Socket) (contextId : Nat) (family : SocketFamily)
    (service : SocketService) (protocol : SocketProtocol) : Prop where
  state : socket.state = .created
  contextId : socket.contextId = contextId
  family : socket.family = family
  service : socket.service = service
  protocol : socket.protocol = protocol
  localPort : socket.localPort = 0
  remote : socket.remote = none
  unheard : ∀ notice, socket.listeners.wants notice = false

theorem isFresh_fresh (contextId : Nat) (family : SocketFamily) (service : SocketService)
    (protocol : SocketProtocol) :
    (fresh contextId family service protocol).IsFresh contextId family service protocol where
  state := rfl
  contextId := rfl
  family := rfl
  service := rfl
  protocol := rfl
  localPort := rfl
  remote := rfl
  unheard notice := by cases notice <;> rfl

theorem setOption_of_error {socket : Socket} {option : SocketOption} {failure : Error}
    (h : (socket.setOption option).2 = .error failure) : (socket.setOption option).1 = socket := by
  cases option with
  | sendTimeout time | receiveTimeout time => cases h
  | context id | localPort port =>
      simp only [setOption] at h ⊢
      split_ifs at h ⊢ <;> rfl

end Socket

namespace SocketOperation

/-- The handle that an operation names. -/
def names : SocketOperation → Option SocketHandle
  | remove handle | setRemote handle _ | setOption handle _ | setListeners handle _
  | drive handle _ => some handle
  | allocate .. | failAll => none

/-- What an operation makes of the socket that it names, where `none` says that the socket is gone,
or why it fails. -/
def revise (socket : Socket) : SocketOperation → Except Error (Option Socket)
  | remove _ => if Socket.isRemovable socket.state then .ok none else .error .notAllowed
  | setRemote _ remote => .ok (some { socket with remote := some remote })
  | setOption _ option => (socket.setOption option).2.map fun _ => some (socket.setOption option).1
  | setListeners _ f => .ok (some { socket with listeners := f socket.listeners })
  | drive _ event =>
      (Socket.next socket.state event).map fun moved => some { socket with state := moved.1 }
  | allocate .. | failAll => .ok (some socket)

/-- What is left of the socket that an operation names; one that fails leaves it as it was. -/
def leave (socket : Socket) (operation : SocketOperation) : Option Socket :=
  match operation.revise socket with
  | .ok next => next
  | .error _ => some socket

/-- What becomes of the socket of a handle, whatever handle an operation names. -/
def follow (handle : SocketHandle) (socket : Socket) : SocketOperation → Option Socket
  | failAll => some socket.cutOff
  | operation => if operation.names = some handle then operation.leave socket else some socket

section

variable {handle : SocketHandle} {socket : Socket} {operation : SocketOperation}

theorem follow_of_names (h : operation.names = some handle) :
    operation.follow handle socket = operation.leave socket := by
  cases operation with
  | failAll => cases h
  | allocate | remove | setRemote | setOption | setListeners | drive =>
      simp only [follow, h, if_true]

theorem follow_of_ne (hlink : operation ≠ failAll) (h : operation.names ≠ some handle) :
    operation.follow handle socket = some socket := by
  cases operation with
  | failAll => exact absurd rfl hlink
  | allocate | remove | setRemote | setOption | setListeners | drive =>
      simp only [follow, h, if_false]

end

/-- What an operation answers: the handle of a new socket, nothing, or why the operation fails. -/
def answer (device : Device) : SocketOperation → Except Error (Option SocketHandle)
  | allocate contextId family service protocol =>
      (device.sockets.allocate contextId family service protocol).2.map some
  | remove handle => (device.sockets.remove handle).2.map fun _ => none
  | setRemote handle remote => (device.sockets.setRemote handle remote).2.map fun _ => none
  | setOption handle option => (device.sockets.setOption handle option).2.map fun _ => none
  | setListeners handle f => (device.sockets.setListeners handle f).2.map fun _ => none
  | drive handle event => (device.socketEvent handle event).2.map fun _ => none
  | failAll => .ok none

/-- The answers of operations done one after the other. -/
def answers (device : Device) : List SocketOperation → List (Except Error (Option SocketHandle))
  | [] => []
  | operation :: operations =>
      operation.answer device :: answers (operation.apply device) operations

end SocketOperation

/-! ## Finite maps -/

/-- The sockets in use, by their handles. -/
abbrev SocketMap := SocketHandle → Option Socket

namespace SocketMap

/-- No socket is in use. -/
def empty : SocketMap := fun _ => none

/-- The handles that a new socket may get. -/
def free (map : SocketMap) : Set SocketHandle :=
  {handle | handle < Limits.sockets ∧ map handle = none}

/-- What an operation may answer, and what map it leaves behind. -/
inductive Performs (map : SocketMap) :
    SocketOperation → Except Error (Option SocketHandle) → SocketMap → Prop
  /-- A fresh socket gets the lowest free handle. -/
  | allocated {contextId : Nat} {family : SocketFamily} {service : SocketService}
      {protocol : SocketProtocol} {handle : SocketHandle}
      (hfits : Socket.Fits contextId service protocol) (hleast : IsLeast map.free handle) :
      Performs map (.allocate contextId family service protocol) (.ok (some handle))
        (Function.update map handle (some (.fresh contextId family service protocol)))
  | full {contextId : Nat} {family : SocketFamily} {service : SocketService}
      {protocol : SocketProtocol} (hfits : Socket.Fits contextId service protocol)
      (hfull : map.free = ∅) :
      Performs map (.allocate contextId family service protocol) (.error .noMemory) map
  | unfit {contextId : Nat} {family : SocketFamily} {service : SocketService}
      {protocol : SocketProtocol} (hunfit : ¬ Socket.Fits contextId service protocol) :
      Performs map (.allocate contextId family service protocol) (.error .badParameter) map
  /-- The operation names a handle that is not in use. -/
  | unknown {operation : SocketOperation} {handle : SocketHandle}
      (hnames : operation.names = some handle) (hfree : map handle = none) :
      Performs map operation (.error .invalidHandle) map
  | revised {operation : SocketOperation} {handle : SocketHandle} {socket : Socket}
      {next : Option Socket} (hnames : operation.names = some handle)
      (hused : map handle = some socket) (hrevise : operation.revise socket = .ok next) :
      Performs map operation (.ok none) (Function.update map handle next)
  | refused {operation : SocketOperation} {handle : SocketHandle} {socket : Socket}
      {failure : Error} (hnames : operation.names = some handle)
      (hused : map handle = some socket) (hrevise : operation.revise socket = .error failure) :
      Performs map operation (.error failure) map
  | linkLost : Performs map .failAll (.ok none) fun handle => (map handle).map Socket.cutOff

variable {map next : SocketMap} {operation : SocketOperation}
  {answer : Except Error (Option SocketHandle)}

/-- A map allows every operation to end in some way. -/
theorem performs_total (map : SocketMap) (operation : SocketOperation) :
    ∃ answer next, Performs map operation answer next := by
  -- an operation that names a handle does something to its socket, if there is one
  cases hnames : operation.names with
  | some handle =>
      cases hused : map handle with
      | none => exact ⟨_, _, .unknown hnames hused⟩
      | some socket =>
          cases hrevise : operation.revise socket with
          | ok next => exact ⟨_, _, .revised hnames hused hrevise⟩
          | error failure => exact ⟨_, _, .refused hnames hused hrevise⟩
  | none =>
      cases operation with
      | allocate contextId family service protocol =>
          by_cases hfits : Socket.Fits contextId service protocol
          · rcases Set.eq_empty_or_nonempty map.free with hfull | hfree
            · exact ⟨_, _, .full hfits hfull⟩
            · have hleast : IsLeast map.free (sInf map.free) :=
                ⟨Nat.sInf_mem hfree, fun _ hmem => Nat.sInf_le hmem⟩
              exact ⟨_, _, .allocated hfits hleast⟩
          · exact ⟨_, _, .unfit hfits⟩
      | failAll => exact ⟨_, _, .linkLost⟩
      | remove | setRemote | setOption | setListeners | drive => cases hnames

/-- An operation that fails leaves the map alone. -/
theorem Performs.eq_of_error {failure : Error} (h : Performs map operation (.error failure) next) :
    next = map := by
  cases h <;> rfl

/-- An operation concerns the handle that it names or answers, unless the link is lost. -/
theorem Performs.eq_of_ne (h : Performs map operation answer next) (hlink : operation ≠ .failAll)
    {handle : SocketHandle} (hnames : operation.names ≠ some handle)
    (hanswer : answer ≠ .ok (some handle)) : next handle = map handle := by
  cases h with
  | allocated hfits hleast =>
      exact Function.update_of_ne (fun heq => hanswer (by rw [heq])) _ _
  | revised howner =>
      exact Function.update_of_ne (fun heq => hnames (by rw [howner, heq])) _ _
  | full | unfit | unknown | refused => rfl
  | linkLost => exact absurd rfl hlink

section

variable {contextId : Nat} {family : SocketFamily} {service : SocketService}
  {protocol : SocketProtocol} {handle : SocketHandle}

/-- A new socket is fresh, and its handle was the lowest free one. -/
theorem Performs.of_allocated
    (h : Performs map (.allocate contextId family service protocol) (.ok (some handle)) next) :
    (Socket.Fits contextId service protocol ∧ IsLeast map.free handle) ∧
      next handle = some (.fresh contextId family service protocol) := by
  cases h with
  | allocated hfits hleast => exact ⟨⟨hfits, hleast⟩, Function.update_self _ _ _⟩

theorem Performs.of_full
    (h : Performs map (.allocate contextId family service protocol) (.error .noMemory) next) :
    Socket.Fits contextId service protocol ∧ map.free = ∅ := by
  cases h with
  | full hfits hfull => exact ⟨hfits, hfull⟩
  | refused hnames => cases hnames

theorem Performs.of_unfit
    (h : Performs map (.allocate contextId family service protocol) (.error .badParameter) next) :
    ¬ Socket.Fits contextId service protocol := by
  cases h with
  | unfit hunfit => exact hunfit
  | refused hnames => cases hnames

end

/-- An operation that names a socket in use leaves what it makes of that. -/
theorem Performs.get?_of_names (h : Performs map operation answer next) {handle : SocketHandle}
    {socket : Socket} (hnames : operation.names = some handle) (hused : map handle = some socket) :
    next handle = operation.leave socket := by
  rw [SocketOperation.leave]
  cases h with
  | allocated | full | unfit | linkLost => cases hnames
  | unknown howner hfree =>
      obtain rfl := Option.some.inj (howner.symm.trans hnames)
      rw [hfree] at hused
      cases hused
  | revised howner hold hrevise =>
      obtain rfl := Option.some.inj (howner.symm.trans hnames)
      obtain rfl := Option.some.inj (hold.symm.trans hused)
      rw [hrevise, Function.update_self]
  | refused howner hold hrevise =>
      obtain rfl := Option.some.inj (howner.symm.trans hnames)
      obtain rfl := Option.some.inj (hold.symm.trans hused)
      rw [hrevise, hused]

/-- What becomes of a socket in use does not depend on the others. -/
theorem Performs.follow (h : Performs map operation answer next) {handle : SocketHandle}
    {socket : Socket} (hused : map handle = some socket) :
    next handle = operation.follow handle socket := by
  by_cases hnames : operation.names = some handle
  · rw [SocketOperation.follow_of_names hnames, h.get?_of_names hnames hused]
  · -- an operation that names another handle, or none
    by_cases hlink : operation = .failAll
    · subst hlink
      cases h with
      | linkLost =>
          simp only [hused, Option.map_some]
          rfl
      | unknown howner | revised howner | refused howner => cases howner
    · rw [SocketOperation.follow_of_ne hlink hnames, ← hused]
      refine h.eq_of_ne hlink hnames ?_
      -- the handle was in use, so it is not the one that was allocated
      rintro rfl
      cases h with
      | allocated _ hleast =>
          rw [hleast.1.2] at hused
          cases hused

/-- A slot that was free and is in use now was just allocated. -/
theorem Performs.allocates (h : Performs map operation answer next) {handle : SocketHandle}
    {socket : Socket} (hfree : map handle = none) (hused : next handle = some socket) :
    ∃ contextId family service protocol, operation = .allocate contextId family service protocol ∧
      answer = .ok (some handle) ∧ socket = .fresh contextId family service protocol := by
  cases h with
  | @allocated contextId family service protocol owner _ _ =>
      by_cases heq : handle = owner
      · rw [heq, Function.update_self] at hused
        exact ⟨contextId, family, service, protocol, rfl, by rw [heq], (Option.some.inj hused).symm⟩
      · rw [Function.update_of_ne heq, hfree] at hused
        cases hused
  | @revised _ owner _ _ _ hold _ =>
      have hne : handle ≠ owner := by
        rintro rfl
        rw [hfree] at hold
        cases hold
      rw [Function.update_of_ne hne, hfree] at hused
      cases hused
  | full | unfit | unknown | refused =>
      rw [hfree] at hused
      cases hused
  | linkLost =>
      simp only [hfree, Option.map_none] at hused
      cases hused

/-- What operations may answer one after the other, and what map they leave behind. -/
inductive Runs :
    SocketMap → List SocketOperation → List (Except Error (Option SocketHandle)) → SocketMap → Prop
  | nil {map : SocketMap} : Runs map [] [] map
  | cons {map next last : SocketMap} {operation : SocketOperation}
      {operations : List SocketOperation} {answer : Except Error (Option SocketHandle)}
      {answers : List (Except Error (Option SocketHandle))}
      (hfirst : Performs map operation answer next) (hrest : Runs next operations answers last) :
      Runs map (operation :: operations) (answer :: answers) last

end SocketMap

/-! ## The table seen as a map -/

namespace SocketTable

variable {table : SocketTable} {handle : SocketHandle}

theorem get?_put (h : handle < Limits.sockets) (socket : Option Socket) :
    (table.put handle socket).get? = Function.update table.get? handle socket := by
  funext other
  by_cases heq : other = handle
  · rw [heq, get?_put_self h, Function.update_self]
  · rw [get?_put_of_ne heq, Function.update_of_ne heq]

/-- A table is no more than the map that it stands for. -/
theorem get?_injective : Function.Injective get? := by
  intro first second h
  have hslots : first.slots = second.slots := by
    ext i hi : 1
    have hslot : first.get? i = second.get? i := congrFun h i
    simpa only [get?, Vector.getElem?_eq_getElem hi, Option.join_some] using hslot
  exact congrArg mk hslots

theorem lowestFree?_eq_some_iff :
    table.lowestFree? = some handle ↔ IsLeast (SocketMap.free table.get?) handle := by
  rw [lowestFree?, allHandles, List.find?_range_eq_some]
  constructor
  · -- the search goes up from handle zero, so all handles below the one found are in use
    rintro ⟨hfree, hlt, hbelow⟩
    refine ⟨⟨List.mem_range.mp hlt, Option.isNone_iff_eq_none.mp hfree⟩, fun other hother => ?_⟩
    by_contra hle
    have hused := hbelow other (Nat.lt_of_not_le hle)
    rw [hother.2] at hused
    cases hused
  · rintro ⟨⟨hlt, hfree⟩, hleast⟩
    refine ⟨Option.isNone_iff_eq_none.mpr hfree, List.mem_range.mpr hlt, fun other hother => ?_⟩
    rw [Bool.not_eq_true', Option.isNone_eq_false_iff, Option.isSome_iff_ne_none]
    intro hnone
    exact Nat.not_le_of_lt hother (hleast ⟨Nat.lt_trans hother hlt, hnone⟩)

theorem lowestFree?_eq_none_iff :
    table.lowestFree? = none ↔ SocketMap.free table.get? = ∅ := by
  rw [lowestFree?, allHandles, List.find?_range_eq_none, Set.eq_empty_iff_forall_notMem]
  refine forall_congr' fun other => ?_
  simp [SocketMap.free, Option.isSome_iff_ne_none]

/-- The handles in use, each of them once and in ascending order. -/
theorem pairwise_handles (table : SocketTable) : table.handles.Pairwise (· < ·) :=
  List.pairwise_lt_range.filter _

end SocketTable

/-! ## The table performs what the map allows -/

namespace SocketOperation

open SocketMap

variable {device : Device} {operation : SocketOperation} {handle : SocketHandle} {socket : Socket}

theorem eq_of_unknown (hnames : operation.names = some handle)
    (hfree : device.sockets.get? handle = none) :
    operation.answer device = .error .invalidHandle ∧ operation.apply device = device := by
  cases operation with
  | allocate | failAll => cases hnames
  | remove | setRemote | setOption | setListeners =>
      cases hnames
      simp [answer, apply, SocketTable.remove_of_free hfree, SocketTable.setRemote,
        SocketTable.setOption, SocketTable.setListeners, SocketTable.change_of_free hfree,
        Except.map]
  | drive =>
      cases hnames
      simp [answer, apply, Device.socketEvent_of_free hfree, Except.map]

theorem eq_of_used (hnames : operation.names = some handle)
    (hused : device.sockets.get? handle = some socket) :
    operation.answer device = (operation.revise socket).map (fun _ => none) ∧
      (operation.apply device).sockets = device.sockets.put handle (operation.leave socket) := by
  -- an operation that is refused puts back the socket that it found
  have hkept := SocketTable.put_of_get? hused
  cases operation with
  | allocate | failAll => cases hnames
  | remove =>
      cases hnames
      cases hremovable : Socket.isRemovable socket.state <;>
        simp [answer, apply, leave, revise, SocketTable.remove, hused, hremovable, hkept,
          Except.map]
  | setRemote | setListeners =>
      cases hnames
      simp [answer, apply, leave, revise, SocketTable.setRemote, SocketTable.setListeners,
        SocketTable.change_of_get? hused, Except.map]
  | setOption owner option =>
      -- an option that is refused leaves the socket as it was
      cases hnames
      cases hdone : (socket.setOption option).2 with
      | ok done =>
          simp [answer, apply, leave, revise, SocketTable.setOption,
            SocketTable.change_of_get? hused, hdone, Except.map]
      | error failure =>
          simp [answer, apply, leave, revise, SocketTable.setOption,
            SocketTable.change_of_get? hused, hdone, Socket.setOption_of_error hdone, Except.map]
  | drive owner event =>
      cases hnames
      cases hnext : Socket.next socket.state event with
      | ok moved =>
          simp [answer, apply, leave, revise, Device.socketEvent_of_ok hused hnext, hnext,
            Except.map]
      | error failure =>
          simp [answer, apply, leave, revise, Device.socketEvent_of_refused hused hnext, hnext,
            hkept, Except.map]

/-- Whatever a map allows an operation to do, the table does. -/
theorem eq_of_performs {answer : Except Error (Option SocketHandle)} {next : SocketMap}
    (h : Performs device.sockets.get? operation answer next) :
    answer = operation.answer device ∧ next = (operation.apply device).sockets.get? := by
  cases h with
  | allocated hfits hleast =>
      have hlowest := SocketTable.lowestFree?_eq_some_iff.mpr hleast
      simp only [SocketOperation.answer, apply, SocketTable.allocate,
        if_pos (Socket.fits_iff.mp hfits), hlowest, SocketTable.get?_put hleast.1.1, Except.map,
        and_self]
  | full hfits hfull =>
      have hlowest := SocketTable.lowestFree?_eq_none_iff.mpr hfull
      simp only [SocketOperation.answer, apply, SocketTable.allocate,
        if_pos (Socket.fits_iff.mp hfits), hlowest, Except.map, and_self]
  | unfit hunfit =>
      rw [Socket.fits_iff] at hunfit
      simp only [SocketOperation.answer, apply, SocketTable.allocate, if_neg hunfit, Except.map,
        and_self]
  | unknown hnames hfree =>
      obtain ⟨hanswer, happly⟩ := eq_of_unknown hnames hfree
      exact ⟨hanswer.symm, by rw [happly]⟩
  | revised hnames hused hrevise =>
      obtain ⟨hanswer, hsockets⟩ := eq_of_used hnames hused
      rw [hanswer, hsockets, leave, hrevise, SocketTable.get?_put (SocketTable.lt_of_get? hused)]
      exact ⟨rfl, rfl⟩
  | refused hnames hused hrevise =>
      obtain ⟨hanswer, hsockets⟩ := eq_of_used hnames hused
      rw [hanswer, hsockets, leave, hrevise, SocketTable.put_of_get? hused]
      exact ⟨rfl, rfl⟩
  | linkLost => exact ⟨rfl, (funext (Device.get?_loseSockets device)).symm⟩

theorem performs_iff {answer : Except Error (Option SocketHandle)} {next : SocketMap} :
    Performs device.sockets.get? operation answer next ↔
      answer = operation.answer device ∧ next = (operation.apply device).sockets.get? := by
  constructor
  · exact eq_of_performs
  · rintro ⟨rfl, rfl⟩
    -- the map allows some end, and any end that it allows is the one of the table
    obtain ⟨answer, next, h⟩ := performs_total device.sockets.get? operation
    obtain ⟨rfl, rfl⟩ := eq_of_performs h
    exact h

/-- What a table does is what its map allows. -/
theorem performs_apply (device : Device) (operation : SocketOperation) :
    Performs device.sockets.get? operation (operation.answer device)
      (operation.apply device).sockets.get? :=
  performs_iff.mpr ⟨rfl, rfl⟩

/-- An operation that fails changes nothing and tells nobody. -/
theorem apply_of_error {failure : Error} (h : operation.answer device = .error failure) :
    operation.apply device = device := by
  have hperforms := performs_apply device operation
  rw [h] at hperforms
  have hsockets := SocketTable.get?_injective hperforms.eq_of_error
  -- the sockets are the same, and only events could tell somebody
  cases operation with
  | allocate | remove | setRemote | setOption | setListeners =>
      simp only [apply] at hsockets ⊢
      rw [hsockets]
  | drive owner event =>
      simp only [answer] at h
      cases hevent : (device.socketEvent owner event).2 with
      | ok done =>
          rw [hevent] at h
          cases h
      | error cause => exact Device.socketEvent_of_error hevent
  | failAll => cases h

variable {operations : List SocketOperation}

/-- From the map of a table there is one run, with the answers and the sockets of the table. -/
theorem runs_iff {answers : List (Except Error (Option SocketHandle))} {last : SocketMap} :
    Runs device.sockets.get? operations answers last ↔
      answers = SocketOperation.answers device operations ∧
        last = (applyAll device operations).sockets.get? := by
  induction operations generalizing device answers with
  | nil =>
      constructor
      · rintro ⟨⟩
        exact ⟨rfl, rfl⟩
      · rintro ⟨rfl, rfl⟩
        exact .nil
  | cons operation operations ih =>
      constructor
      · intro h
        cases h with
        | cons hfirst hrest =>
            obtain ⟨rfl, rfl⟩ := eq_of_performs hfirst
            obtain ⟨rfl, hlast⟩ := ih.mp hrest
            exact ⟨rfl, hlast⟩
      · rintro ⟨rfl, rfl⟩
        exact .cons (performs_apply device operation) (ih.mpr ⟨rfl, rfl⟩)

/-! ## The history of a socket -/

theorem get?_applyAll_of_get? (hused : device.sockets.get? handle = some socket)
    {later : Socket} (h : operations.foldlM (follow handle) socket = some later) :
    (applyAll device operations).sockets.get? handle = some later := by
  induction operations generalizing device socket with
  | nil =>
      cases h
      exact hused
  | cons operation operations ih =>
      rw [List.foldlM_cons, Option.bind_eq_bind, Option.bind_eq_some_iff] at h
      obtain ⟨next, hnext, hlater⟩ := h
      exact ih (((performs_apply device operation).follow hused).trans hnext) hlater

/-- How a socket came about: it was allocated under its handle, and the operations since then made
it what it is. -/
def Origin (start : Device) (operations : List SocketOperation) (handle : SocketHandle)
    (socket : Socket) : Prop :=
  ∃ before contextId family service protocol after,
    operations = before ++ allocate contextId family service protocol :: after ∧
      (allocate contextId family service protocol).answer (applyAll start before) =
        .ok (some handle) ∧
      after.foldlM (follow handle) (.fresh contextId family service protocol) = some socket

/-- A handle is in use exactly when it was allocated and not removed since. -/
theorem get?_applyAll_iff {start : Device} (hstart : ∀ handle, start.sockets.get? handle = none) :
    (applyAll start operations).sockets.get? handle = some socket ↔
      Origin start operations handle socket := by
  constructor
  · intro h
    -- from the last operation back: it allocated the socket, or found it in use already
    induction operations using List.reverseRecOn generalizing socket with
    | nil =>
        rw [applyAll_nil, hstart] at h
        cases h
    | append_singleton operations operation ih =>
        rw [applyAll_append] at h
        cases hearlier : (applyAll start operations).sockets.get? handle with
        | none =>
            obtain ⟨contextId, family, service, protocol, rfl, hanswer, rfl⟩ :=
              (performs_apply _ operation).allocates hearlier h
            exact ⟨operations, contextId, family, service, protocol, [], rfl, hanswer, rfl⟩
        | some earlier =>
            obtain ⟨before, contextId, family, service, protocol, after, rfl, hanswer, hafter⟩ :=
              ih hearlier
            refine ⟨before, contextId, family, service, protocol, after ++ [operation], by simp,
              hanswer, ?_⟩
            have hlast : operation.follow handle earlier = some socket :=
              ((performs_apply _ operation).follow hearlier).symm.trans h
            simp [hafter, hlast]
  · rintro ⟨before, contextId, family, service, protocol, after, rfl, hanswer, hafter⟩
    rw [applyAll_append, applyAll_cons]
    refine get?_applyAll_of_get? ?_ hafter
    have hperforms := performs_apply (applyAll start before)
      (allocate contextId family service protocol)
    rw [hanswer] at hperforms
    exact hperforms.of_allocated.2

/-! ## What users of the sockets may rely on -/

section

variable {contextId : Nat} {family : SocketFamily} {service : SocketService}
  {protocol : SocketProtocol}

theorem answer_allocate_eq_ok_iff :
    (allocate contextId family service protocol).answer device = .ok (some handle) ↔
      Socket.Fits contextId service protocol ∧
        IsLeast (SocketMap.free device.sockets.get?) handle := by
  constructor
  · intro h
    exact (h ▸ performs_apply device (allocate contextId family service protocol)).of_allocated.1
  · rintro ⟨hfits, hleast⟩
    exact (eq_of_performs (.allocated hfits hleast)).1.symm

theorem answer_allocate_eq_noMemory_iff :
    (allocate contextId family service protocol).answer device = .error .noMemory ↔
      Socket.Fits contextId service protocol ∧ SocketMap.free device.sockets.get? = ∅ := by
  constructor
  · intro h
    exact (h ▸ performs_apply device (allocate contextId family service protocol)).of_full
  · rintro ⟨hfits, hfull⟩
    exact (eq_of_performs (.full hfits hfull)).1.symm

theorem answer_allocate_eq_badParameter_iff :
    (allocate contextId family service protocol).answer device = .error .badParameter ↔
      ¬ Socket.Fits contextId service protocol := by
  constructor
  · intro h
    exact (h ▸ performs_apply device (allocate contextId family service protocol)).of_unfit
  · intro hunfit
    exact (eq_of_performs (.unfit hunfit)).1.symm

end

theorem answer_remove_eq_ok_iff (hused : device.sockets.get? handle = some socket) :
    (remove handle).answer device = .ok none ↔
      socket.state = .created ∨ socket.state = .openFailed ∨ socket.state = .closed := by
  rw [(eq_of_used rfl hused).1, revise]
  cases socket.state <;> decide

/-- A handle whose socket was removed is free. -/
theorem get?_of_removed (h : (remove handle).answer device = .ok none) :
    ((remove handle).apply device).sockets.get? handle = none := by
  have hnames : (remove handle).names = some handle := rfl
  cases hused : device.sockets.get? handle with
  | none =>
      rw [(eq_of_unknown hnames hused).1] at h
      cases h
  | some socket =>
      obtain ⟨hanswer, hsockets⟩ := eq_of_used hnames hused
      rw [hanswer] at h
      rw [hsockets, SocketTable.get?_put_self (SocketTable.lt_of_get? hused)]
      cases hremovable : Socket.isRemovable socket.state with
      | true => simp [leave, revise, hremovable]
      | false => simp [revise, hremovable, Except.map] at h

/-- Twelve sockets can be in use. -/
theorem free_get?_eq (table : SocketTable) :
    SocketMap.free table.get? = {handle | handle < 12 ∧ handle ∉ table.handles} := by
  ext handle
  rw [Set.mem_ofPred_eq, SocketTable.mem_handles, Option.not_isSome_iff_eq_none]
  exact Iff.rfl

/-- What users of a device may rely on, whatever became of its sockets so far. -/
structure MapLaws (device : Device) : Prop where
  /-- The handles in use are listed once each and in ascending order. -/
  ascending : device.sockets.handles.Pairwise (· < ·)
  mem_handles : ∀ handle,
    handle ∈ device.sockets.handles ↔ ∃ socket, device.sockets.get? handle = some socket
  lt_of_mem : ∀ handle ∈ device.sockets.handles, handle < 12
  asked : ∀ handle socket, device.sockets.get? handle = some socket →
    device.sockets.info handle = .ok socket ∧ device.sockets.state handle = .ok socket.state
  /-- A socket is allocated for fitting parameters, under the lowest handle not in use. -/
  allocates : ∀ contextId family service protocol handle,
    (allocate contextId family service protocol).answer device = .ok (some handle) ↔
      Socket.Fits contextId service protocol ∧
        IsLeast {handle | handle < 12 ∧ handle ∉ device.sockets.handles} handle
  fresh : ∀ contextId family service protocol handle,
    (allocate contextId family service protocol).answer device = .ok (some handle) →
      ∃ socket : Socket, socket.IsFresh contextId family service protocol ∧
        ((allocate contextId family service protocol).apply device).sockets.get? handle =
          some socket
  full : ∀ contextId family service protocol,
    (allocate contextId family service protocol).answer device = .error .noMemory ↔
      Socket.Fits contextId service protocol ∧
        ∀ handle < 12, handle ∈ device.sockets.handles
  unfit : ∀ contextId family service protocol,
    (allocate contextId family service protocol).answer device = .error .badParameter ↔
      ¬ Socket.Fits contextId service protocol
  /-- Nothing can be done with a handle that is not in use. -/
  unknown : ∀ handle ∉ device.sockets.handles,
    device.sockets.info handle = .error .invalidHandle ∧
      device.sockets.state handle = .error .invalidHandle ∧
      ∀ operation : SocketOperation, operation.names = some handle →
        operation.answer device = .error .invalidHandle
  /-- A socket may be removed if it never opened, failed to open or is closed. -/
  removes : ∀ handle socket, device.sockets.get? handle = some socket →
    ((remove handle).answer device = .ok none ↔
      socket.state = .created ∨ socket.state = .openFailed ∨ socket.state = .closed)
  freed : ∀ handle, (remove handle).answer device = .ok none →
    handle ∉ ((remove handle).apply device).sockets.handles
  /-- Only a lost link concerns more than one socket. -/
  frame : ∀ (operation : SocketOperation) (handle : SocketHandle), operation ≠ failAll →
    operation.names ≠ some handle → operation.answer device ≠ .ok (some handle) →
      (operation.apply device).sockets.get? handle = device.sockets.get? handle
  /-- An operation that fails changes nothing. -/
  failed : ∀ (operation : SocketOperation) (failure : Error),
    operation.answer device = .error failure → operation.apply device = device

theorem mapLaws (device : Device) : MapLaws device where
  ascending := device.sockets.pairwise_handles
  mem_handles handle := SocketTable.mem_handles.trans Option.isSome_iff_exists
  lt_of_mem handle hmem := List.mem_range.mp (List.mem_filter.mp hmem).1
  asked handle socket hused := ⟨SocketTable.info_of_get? hused, SocketTable.state_of_get? hused⟩
  allocates contextId family service protocol handle := by
    rw [answer_allocate_eq_ok_iff, free_get?_eq]
  fresh contextId family service protocol handle h :=
    ⟨_, Socket.isFresh_fresh contextId family service protocol,
      (h ▸ performs_apply device (allocate contextId family service protocol)).of_allocated.2⟩
  full contextId family service protocol := by
    have hfull : SocketMap.free device.sockets.get? = ∅ ↔
        ∀ handle < 12, handle ∈ device.sockets.handles := by
      simp [free_get?_eq, Set.eq_empty_iff_forall_notMem]
    rw [answer_allocate_eq_noMemory_iff, hfull]
  unfit contextId family service protocol := answer_allocate_eq_badParameter_iff
  unknown handle hmem := by
    have hfree : device.sockets.get? handle = none := by
      rwa [SocketTable.mem_handles, Option.not_isSome_iff_eq_none] at hmem
    refine ⟨?_, ?_, fun operation hnames => (eq_of_unknown hnames hfree).1⟩
    · rw [SocketTable.info, SocketTable.ask, hfree]
    · rw [SocketTable.state, SocketTable.ask, hfree]
  removes handle socket hused := answer_remove_eq_ok_iff hused
  freed handle hremoved := by
    rw [SocketTable.mem_handles, get?_of_removed hremoved]
    exact Bool.false_ne_true
  frame operation handle hlink hnames hanswer :=
    (performs_apply device operation).eq_of_ne hlink hnames hanswer
  failed operation failure h := apply_of_error h

/-- Whatever is done with sockets, from none in use, they behave as a finite map: there is one way
in which a map allows the operations to run, and they run that way; a socket is what its allocation
and the operations since then made it; and the laws of `MapLaws` hold for whatever is done next. -/
theorem sockets_are_finite_map (listeners : Listeners) (operations : List SocketOperation) :
    (∀ answers map, SocketMap.Runs .empty operations answers map ↔
        answers = SocketOperation.answers (.initial listeners) operations ∧
          map = (applyAll (.initial listeners) operations).sockets.get?) ∧
      (∀ handle socket,
        (applyAll (.initial listeners) operations).sockets.get? handle = some socket ↔
          Origin (.initial listeners) operations handle socket) ∧
      MapLaws (applyAll (.initial listeners) operations) := by
  have hempty : (Device.initial listeners).sockets.get? = SocketMap.empty := by
    funext handle
    exact SocketTable.get?_initial
  refine ⟨fun answers map => ?_, fun handle socket => ?_, mapLaws _⟩
  · rw [← hempty]
    exact runs_iff
  · exact get?_applyAll_iff fun _ => SocketTable.get?_initial

/-- A handle is used anew, and what its first owner wanted to hear is forgotten. -/
example :
    let operations : List SocketOperation :=
      [.allocate 1 .inet .stream .tcp, .allocate 2 .inet6 .datagram .udp,
        .setListeners 0 fun _ => .all, .remove 0, .allocate 16 .inet .stream .tcp, .remove 12]
    answers (.initial {}) operations =
        [.ok (some 0), .ok (some 1), .ok none, .ok none, .ok (some 0), .error .invalidHandle] ∧
      (applyAll (.initial {}) operations).sockets.get? 0 = some (.fresh 16 .inet .stream .tcp) := by
  decide +kernel

end SocketOperation

end ModemLink
