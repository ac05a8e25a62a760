import ModemLink.Proofs.Engine.Lifeless

/-!
# The addresses of contexts

A context is *up* from the moment the modem has confirmed its activation until the modem has confirmed
its end.  A table is `Tidy` while no other context has an address.

* `Tidy.perform`: an operation keeps the table tidy, unless it records an address for a context that
  is not up.  That one does come too late (`Operation.Timely`).
* `forgetful_iff`: without such an operation inactive contexts have no address, whatever else is done;
  and after the first of them it takes one more operation at most for an inactive context to have one.
-/

namespace ModemLink.Pdn

/-- The modem has confirmed the activation of the context, and not yet its end. -/
def Activation.isUp : Activation → Bool
  | active | deactivating => true
  | inactive | activating => false

/-- What can be done to the contexts. -/
inductive Operation where
  | beginActivate (id : Nat) (family : Family)
  | beginDeactivate (id : Nat)
  | abort (id : Nat)
  | setActive (id : Nat) (address : Option Address)
  | setInactive (id : Nat)
  | setAddress (id : Nat) (address : Address)
  | deactivateAll
  deriving DecidableEq, Repr

/-- Whether an operation does nothing but record an address. -/
def Operation.records : Operation → Bool
  | setAddress .. => true
  | _ => false

/-- Only a context that is up may have an address. -/
def Context.Tidy (context : Context) : Prop :=
  context.activation.isUp = false → context.address = none

theorem Context.Tidy.lost {context : Context} (h : context.Tidy) : context.lost.Tidy := by
  unfold Context.lost
  split
  · exact h
  · exact fun _ => rfl

namespace Table

variable {table : Table} {id : Nat} {operation : Operation} {operations : List Operation}

/-- Do something to the contexts, whether that is accepted or not. -/
def perform (table : Table) : Operation → Table
  | .beginActivate id family => (table.beginActivate id family).1
  | .beginDeactivate id => (table.beginDeactivate id).1
  | .abort id => (table.abort id).1
  | .setActive id address => (table.setActive id address).1
  | .setInactive id => (table.setInactive id).1
  | .setAddress id address => (table.setAddress id address).1
  | .deactivateAll => table.deactivateAll.1

def performAll (table : Table) (operations : List Operation) : Table :=
  operations.foldl perform table

/-- An address is recorded while its context is up. -/
def Timely (table : Table) : Operation → Prop
  | .setAddress id _ => ∀ context ∈ table.get? id, context.activation.isUp = true
  | _ => True

instance (table : Table) : (operation : Operation) → Decidable (table.Timely operation)
  | .setAddress id _ =>
      inferInstanceAs (Decidable (∀ context ∈ table.get? id, context.activation.isUp = true))
  | .beginActivate .. | .beginDeactivate _ | .abort _ | .setActive .. | .setInactive _
  | .deactivateAll => inferInstanceAs (Decidable True)

/-- Each of the operations comes in time, one after the other. -/
def AllTimely : Table → List Operation → Prop
  | _, [] => True
  | table, operation :: operations =>
      table.Timely operation ∧ (table.perform operation).AllTimely operations

instance decidableAllTimely :
    (table : Table) → (operations : List Operation) → Decidable (table.AllTimely operations)
  | _, [] => inferInstanceAs (Decidable True)
  | table, operation :: operations =>
      have := decidableAllTimely (table.perform operation) operations
      inferInstanceAs (Decidable (_ ∧ _))

/-- Only contexts that are up have addresses. -/
def Tidy (table : Table) : Prop := ∀ id context, table.get? id = some context → context.Tidy

/-- Nothing is left of the addresses that contexts had. -/
structure Forgetful (table : Table) : Prop where
  inactive : ∀ id context, table.get? id = some context → context.activation = .inactive →
    context.address = none
  /-- A context that is not up yet comes up without an address if it is given none. -/
  activated : ∀ id context, table.get? id = some context → context.activation.isUp = false →
    ∀ status, (table.setActive id none).1.status id = .ok status → status.address = none

theorem tidy_initial : initial.Tidy := by
  intro id context hcontext
  by_cases hvalid : ValidId id
  · rw [get?_initial hvalid] at hcontext
    cases hcontext
    exact fun _ => rfl
  · rw [get?_eq_none_iff.mpr hvalid] at hcontext
    cases hcontext

/-! ## What each operation does -/

/-- What keeps a context tidy keeps the table tidy. -/
theorem Tidy.change {α : Type} {f : Context → Context × Except Error α} (h : table.Tidy)
    (hf : ∀ context, table.get? id = some context → context.Tidy → (f context).1.Tidy) :
    (table.change id f).1.Tidy := by
  intro other context hcontext
  by_cases heq : other = id
  · subst heq
    rw [get?_change_self] at hcontext
    obtain ⟨earlier, hearlier, rfl⟩ := Option.map_eq_some_iff.mp hcontext
    exact hf earlier hearlier (h other earlier hearlier)
  · rw [get?_change_of_ne heq] at hcontext
    exact h other context hcontext

theorem Tidy.perform (h : table.Tidy) (htimely : table.Timely operation) :
    (table.perform operation).Tidy := by
  cases operation with
  | beginActivate id family =>
      -- only an inactive context starts, and that one has no address
      refine h.change fun context _ hcontext => ?_
      cases hactivation : context.activation with
      | inactive => exact fun _ => hcontext (by rw [hactivation]; rfl)
      | activating | active | deactivating => exact hcontext
  | beginDeactivate id =>
      refine h.change fun context _ hcontext => ?_
      cases hactivation : context.activation with
      | active => exact nofun
      | inactive | activating | deactivating => exact hcontext
  | abort id =>
      -- a context is not up afterwards only if it was not up before
      refine h.change fun context _ hcontext => ?_
      intro hup
      cases hactivation : context.activation with
      | inactive | activating => exact hcontext (by rw [hactivation]; rfl)
      | active | deactivating =>
          simp only [hactivation] at hup
          cases hup
  | setActive id address => exact h.change fun _ _ _ => nofun
  | setInactive id => exact h.change fun _ _ _ _ => rfl
  | setAddress id address =>
      -- only this could leave an address behind, and the side condition rules it out
      refine h.change fun context hmem _ hup => ?_
      rw [htimely context hmem] at hup
      cases hup
  | deactivateAll =>
      intro id context hcontext
      rw [Table.perform, get?_deactivateAll] at hcontext
      obtain ⟨earlier, hearlier, rfl⟩ := Option.map_eq_some_iff.mp hcontext
      exact (h id earlier hearlier).lost

theorem Tidy.forgetful (h : table.Tidy) : table.Forgetful where
  inactive id context hcontext hinactive := h id context hcontext (by rw [hinactive]; rfl)
  activated id context hcontext hup status hstatus := by
    rw [Table.status, ask, setActive, get?_change_self, hcontext] at hstatus
    cases hstatus
    exact h id context hcontext hup

/-- Nothing but the address of one context is different. -/
structure OnlyAddress (id : Nat) (before after : Table) : Prop where
  others : ∀ other ≠ id, after.get? other = before.get? other
  activation : (after.get? id).map Context.activation = (before.get? id).map Context.activation

theorem OnlyAddress.refl (id : Nat) (table : Table) : OnlyAddress id table table :=
  ⟨fun _ _ => rfl, rfl⟩

theorem OnlyAddress.trans {before middle after : Table} (h : OnlyAddress id before middle)
    (hnext : OnlyAddress id middle after) : OnlyAddress id before after where
  others other hother := (hnext.others other hother).trans (h.others other hother)
  activation := hnext.activation.trans h.activation

theorem onlyAddress_setAddress (table : Table) (id : Nat) (address : Address) :
    OnlyAddress id table (table.setAddress id address).1 where
  others other hother := get?_change_of_ne hother
  activation := by
    rw [setAddress, get?_change_self, Option.map_map]
    rfl

/-- A tidy table stays tidy if the address changes of a context that is up. -/
theorem OnlyAddress.tidy {before after : Table} (h : OnlyAddress id before after)
    (htidy : before.Tidy) (hup : after.get? id ≠ before.get? id →
      ∀ context ∈ before.get? id, context.activation.isUp = true) : after.Tidy := by
  intro other context hcontext
  by_cases heq : other = id
  · subst heq
    by_cases hsame : after.get? other = before.get? other
    · exact htidy other context (hsame ▸ hcontext)
    · -- the context is still up, as it was when its address changed
      have hactivation := h.activation
      rw [hcontext, Option.map_some] at hactivation
      obtain ⟨earlier, hearlier, hearlierUp⟩ := Option.map_eq_some_iff.mp hactivation.symm
      intro hdown
      rw [← hearlierUp, hup hsame earlier hearlier] at hdown
      cases hdown
  · exact htidy other context (h.others other heq ▸ hcontext)

/-! ## Operations one after another -/

theorem Tidy.performAll (h : table.Tidy) (htimely : table.AllTimely operations) :
    (table.performAll operations).Tidy := by
  induction operations generalizing table with
  | nil => exact h
  | cons operation operations ih => exact ih (h.perform htimely.1) htimely.2

theorem allTimely_append {earlier later : List Operation} :
    table.AllTimely (earlier ++ later) ↔
      table.AllTimely earlier ∧ (table.performAll earlier).AllTimely later := by
  induction earlier generalizing table with
  | nil => exact ⟨fun h => ⟨trivial, h⟩, And.right⟩
  | cons operation earlier ih => exact (and_congr_right' ih).trans and_assoc.symm

theorem allTimely_of_not_records
    (h : ∀ operation ∈ operations, operation.records = false) : table.AllTimely operations := by
  induction operations generalizing table with
  | nil => trivial
  | cons operation operations ih =>
      obtain ⟨hfirst, hrest⟩ := List.forall_mem_cons.mp h
      refine ⟨?_, ih hrest⟩
      cases operation with
      | setAddress id address => cases hfirst
      | _ => trivial

/-- An address that is recorded for a context which is not up stays there when its activation is given
up. -/
theorem get?_abort_setAddress {context : Context} (hcontext : table.get? id = some context)
    (hup : context.activation.isUp = false) (address : Address) :
    (table.performAll [.setAddress id address, .abort id]).get? id =
      some { context with activation := .inactive, address := some address } := by
  have hundone : Activation.undone context.activation = .inactive := by
    cases hactivation : context.activation with
    | inactive | activating => rfl
    | active | deactivating => rw [hactivation] at hup; cases hup
  show (((table.setAddress id address).1.abort id).1).get? id = _
  rw [abort, get?_change_self, setAddress, get?_change_self, hcontext]
  simp only [Option.map_some, hundone]

/-- Inactive contexts have no addresses, whatever else is done in between or later, exactly as long as
every address is recorded while its context is up. -/
theorem forgetful_iff (h : table.Tidy) :
    (∀ earlier more, earlier <+: operations →
      (∀ operation ∈ more, operation.records = false) →
        (table.performAll (earlier ++ more)).Forgetful) ↔ table.AllTimely operations := by
  constructor
  · -- by induction on the operations: one that is too late would show after an abort
    intro hforgets
    induction operations generalizing table with
    | nil => trivial
    | cons operation operations ih =>
        have htimely : table.Timely operation := by
          cases operation with
          | setAddress id address =>
              intro context hcontext
              by_contra hup
              -- the address is recorded while the context is down, and an abort leaves it there
              have hleft := get?_abort_setAddress hcontext (Bool.not_eq_true _ ▸ hup) address
              have hforgetful := hforgets [.setAddress id address] [.abort id]
                ⟨operations, rfl⟩ (by simp [Operation.records])
              cases hforgetful.inactive id _ hleft rfl
          | _ => trivial
        refine ⟨htimely, ih (h.perform htimely) fun earlier more hearlier hmore => ?_⟩
        exact hforgets (operation :: earlier) more
          ((List.prefix_cons_inj operation).mpr hearlier) hmore
  · -- only the operations that record an address have a side condition
    rintro htimely earlier more ⟨later, rfl⟩ hmore
    have hearlier := (allTimely_append.mp htimely).1
    exact (h.performAll (allTimely_append.mpr
      ⟨hearlier, allTimely_of_not_records hmore⟩)).forgetful

end Table

end ModemLink.Pdn
