import ModemLink.Address.Basic
import ModemLink.Error
import ModemLink.Limits

/-!
# Packet data contexts

A modem has sixteen packet data contexts.  An activation in progress is marked in the table
(`activating`, `deactivating`) until the modem answers; only an inactive context may be activated
and only an active one deactivated.  Operations that report a change say whether the context was in
another state before.
-/

namespace ModemLink.Pdn

/-- How far the activation of a context has come. -/
inductive Activation where
  | inactive
  /-- Asked for, and not yet confirmed by the modem. -/
  | activating
  | active
  /-- Given up, and not yet confirmed by the modem. -/
  | deactivating
  deriving DecidableEq, Repr

/-- The address families of a context. -/
inductive Family where
  | ipv4
  | ipv6
  | both
  deriving DecidableEq, Repr

/-- One context. -/
structure Context where
  activation : Activation
  family : Family
  address : Option Address
  deriving DecidableEq, Repr

def Context.fresh : Context := { activation := .inactive, family := .ipv4, address := none }

/-- A context as callers see it. -/
structure Status where
  id : Nat
  active : Bool
  family : Family
  address : Option Address
  deriving DecidableEq, Repr

/-- The numbers of the contexts. -/
def ValidId (id : Nat) : Prop := 1 ≤ id ∧ id ≤ Limits.contexts

instance (id : Nat) : Decidable (ValidId id) := inferInstanceAs (Decidable (_ ∧ _))

/-- Refuse a number that no context has. -/
def checkId (id : Nat) : Except Error Unit :=
  if ValidId id then .ok () else .error .badParameter

/-- All contexts.  The context with number `id` is at place `id - 1`. -/
structure Table where
  contexts : Vector Context Limits.contexts
  deriving DecidableEq, Repr

namespace Table

/-- No context is in use. -/
def initial : Table := { contexts := Vector.replicate _ Context.fresh }

def get? (table : Table) (id : Nat) : Option Context :=
  if ValidId id then table.contexts[id - 1]? else none

/-- Replace the context with a given number. -/
def put (table : Table) (id : Nat) (context : Context) : Table :=
  if ValidId id then { contexts := table.contexts.setIfInBounds (id - 1) context } else table

section

variable {table : Table} {id other : Nat} {context : Context}

theorem get?_eq_none_iff : table.get? id = none ↔ ¬ ValidId id := by
  unfold get?
  split
  · next h =>
    have : id - 1 < Limits.contexts := by unfold ValidId at h; omega
    simp [h, this]
  · next h => simp [h]

@[simp] theorem get?_initial (h : ValidId id) : initial.get? id = some Context.fresh := by
  have : id - 1 < Limits.contexts := by unfold ValidId at h; omega
  simp [get?, initial, h, this]

@[simp] theorem get?_put_self (h : ValidId id) : (table.put id context).get? id = some context := by
  have : id - 1 < Limits.contexts := by unfold ValidId at h; omega
  simp [get?, put, h, this]

@[simp] theorem get?_put_of_ne (h : other ≠ id) :
    (table.put id context).get? other = table.get? other := by
  unfold get? put
  by_cases ho : ValidId other
  · by_cases hi : ValidId id
    · have : id - 1 ≠ other - 1 := by unfold ValidId at ho hi; omega
      simp [ho, hi, this]
    · simp [hi]
  · simp [ho]

end

/-- Replace a context and answer. -/
def change {α : Type} (table : Table) (id : Nat) (f : Context → Context × Except Error α) :
    Table × Except Error α :=
  match table.get? id with
  | none => (table, .error .badParameter)
  | some context =>
      let (next, answer) := f context
      (table.put id next, answer)

/-- Changing one context leaves the others alone. -/
theorem get?_change_of_ne {α : Type} {table : Table} {id other : Nat}
    {f : Context → Context × Except Error α} (h : other ≠ id) :
    (table.change id f).1.get? other = table.get? other := by
  unfold change
  split
  · rfl
  · exact get?_put_of_ne h

/-- Answer a question about a context. -/
def ask {α : Type} (table : Table) (id : Nat) (f : Context → α) : Except Error α :=
  match table.get? id with
  | none => .error .badParameter
  | some context => .ok (f context)

def activation (table : Table) (id : Nat) : Except Error Activation :=
  table.ask id Context.activation

def status (table : Table) (id : Nat) : Except Error Status :=
  table.ask id fun context =>
    { id := id
      active := context.activation = .active
      family := context.family
      address := context.address }

def beginActivate (table : Table) (id : Nat) (family : Family) : Table × Except Error Unit :=
  table.change id fun context =>
    match context.activation with
    | .inactive => ({ context with activation := .activating, family := family }, .ok ())
    | _ => (context, .error .notAllowed)

def beginDeactivate (table : Table) (id : Nat) : Table × Except Error Unit :=
  table.change id fun context =>
    match context.activation with
    | .active => ({ context with activation := .deactivating }, .ok ())
    | _ => (context, .error .notAllowed)

/-- The state to go back to when the modem did not do what it was asked for. -/
def Activation.undone : Activation → Activation
  | .activating => .inactive
  | .deactivating => .active
  | settled => settled

/-- Take back the mark of an activation or deactivation that did not go through. -/
def abort (table : Table) (id : Nat) : Table × Except Error Unit :=
  table.change id fun context =>
    ({ context with activation := Activation.undone context.activation }, .ok ())

/-- The context is active, with an address if one is given.  Without one it keeps its address. -/
def setActive (table : Table) (id : Nat) (address : Option Address) : Table × Except Error Bool :=
  table.change id fun context =>
    ({ context with activation := .active, address := address.or context.address },
      .ok (context.activation ≠ .active))

def setInactive (table : Table) (id : Nat) : Table × Except Error Bool :=
  table.change id fun context =>
    ({ context with activation := .inactive, address := none },
      .ok (context.activation ≠ .inactive))

def setAddress (table : Table) (id : Nat) (address : Address) : Table × Except Error Unit :=
  table.change id fun context => ({ context with address := some address }, .ok ())

/-- The numbers of all contexts. -/
def ids : List Nat := (List.range Limits.contexts).map (· + 1)

/-- The numbers of the contexts that are not inactive, in ascending order. -/
def idsInUse (table : Table) : List Nat :=
  ids.filter fun id => (table.get? id).any fun context => context.activation ≠ .inactive

/-- Deactivate everything.  Returns the numbers of the contexts that were not inactive; only those
are reset. -/
def deactivateAll (table : Table) : Table × List Nat :=
  ({ contexts := table.contexts.map fun context =>
      if context.activation = .inactive then context else Context.fresh },
    table.idsInUse)

end Table

end ModemLink.Pdn
