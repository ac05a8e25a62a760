import Mathlib.Data.List.Forall2
import ModemLink.Engine.Query
import ModemLink.Proofs.Text.Fields

/-!
# Lists of contexts

A modem lists its contexts in lines `+CGACT: <context>,<state>`.  What such a line tells is
`Query.Tells`.  `Query.readContexts_eq_ok_iff` says when such a list can be read: every line about
contexts is well-formed, also those about contexts that do not exist, and there are not more
reports about the others than contexts.  The list is read as a whole, so a line that cannot be read
leaves nothing of the lines before it.
-/

namespace ModemLink

/-- What a status shows of its context, as a report would. -/
def Pdn.Status.shown (status : Pdn.Status) : Nat × Bool := (status.id, status.active)

namespace Query

variable {line : Text} {lines : List Text} {id state room : Nat} {active : Bool}
  {entries : List (Nat × Nat)} {reports : List (Nat × Bool)} {response : Response}

/-- What a line about contexts tells: the two numbers after its colon.  Anything that follows them
does not count. -/
inductive Tells : Text → Nat → Nat → Prop
  | intro {line payload first fields second rest : Text} {id state : Nat}
      (hpayload : line.afterColon = .ok payload) (hfirst : payload.takeField = .ok (first, fields))
      (hid : first.toWord 8 10 = .ok id) (hsecond : fields.takeField = .ok (second, rest))
      (hstate : second.toWord 8 10 = .ok state) : Tells line id state

/-! ## Reading one line -/

theorem readContext_of_tells (h : Tells line id state) :
    readContext line = .ok (id, decide (state = 1)) := by
  obtain ⟨hpayload, hfirst, hid, hsecond, hstate⟩ := h
  simp only [readContext, hpayload, hfirst, hid, hsecond, hstate, bind, Except.bind, pure,
    Except.pure]

theorem tells_of_readContext (h : readContext line = .ok (id, active)) :
    ∃ state, Tells line id state ∧ active = decide (state = 1) := by
  unfold readContext at h
  obtain ⟨payload, hpayload, h⟩ := exists_of_bind_eq_ok h
  obtain ⟨⟨first, fields⟩, hfirst, h⟩ := exists_of_bind_eq_ok h
  obtain ⟨number, hid, h⟩ := exists_of_bind_eq_ok h
  obtain ⟨⟨second, rest⟩, hsecond, h⟩ := exists_of_bind_eq_ok h
  obtain ⟨state, hstate, h⟩ := exists_of_bind_eq_ok h
  cases h
  exact ⟨state, .intro hpayload hfirst hid hsecond hstate, rfl⟩

theorem readContext_of_ofText {entry : Nat × Bool} (h : ofText (readContext line) = .ok entry) :
    readContext line = .ok entry := by
  cases hread : readContext line with
  | error failure =>
      rw [hread] at h
      cases h
  | ok value =>
      rw [hread] at h
      cases h
      rfl

/-! ## What is reported -/

/-- What is reported of the contexts that exist: a context is active if its state is 1. -/
def reported (entries : List (Nat × Nat)) : List (Nat × Bool) :=
  (entries.filter fun entry => Pdn.ValidId entry.1).map fun entry => (entry.1, entry.2 = 1)

theorem valid_of_mem_reported {report : Nat × Bool} (h : report ∈ reported entries) :
    Pdn.ValidId report.1 := by
  obtain ⟨entry, hentry, rfl⟩ := List.mem_map.mp h
  exact of_decide_eq_true (List.mem_filter.mp hentry).2

theorem reported_cons_of_valid (h : Pdn.ValidId id) :
    reported ((id, state) :: entries) = (id, decide (state = 1)) :: reported entries := by
  simp only [reported, List.filter_cons, h, decide_true, if_true, List.map_cons]

theorem reported_cons_of_not_valid (h : ¬ Pdn.ValidId id) :
    reported ((id, state) :: entries) = reported entries := by
  simp only [reported, List.filter_cons, h, decide_false, Bool.false_eq_true, if_false]

/-! ## Reading the lines -/

/-- Every line can be read, and there is room for what is reported. -/
structure Lists (room : Nat) (lines : List Text) (entries : List (Nat × Nat)) : Prop where
  tells : List.Forall₂ (fun line entry => Tells line entry.1 entry.2) lines entries
  fits : (reported entries).length ≤ room

theorem Lists.cons_of_valid (h : Lists room lines entries) (htells : Tells line id state)
    (hvalid : Pdn.ValidId id) : Lists (room + 1) (line :: lines) ((id, state) :: entries) := by
  refine ⟨.cons htells h.tells, ?_⟩
  rw [reported_cons_of_valid hvalid]
  exact Nat.succ_le_succ h.fits

theorem Lists.cons_of_not_valid (h : Lists room lines entries) (htells : Tells line id state)
    (hvalid : ¬ Pdn.ValidId id) : Lists room (line :: lines) ((id, state) :: entries) := by
  refine ⟨.cons htells h.tells, ?_⟩
  rw [reported_cons_of_not_valid hvalid]
  exact h.fits

theorem readContextLines_of_lists (h : Lists room lines entries) :
    readContextLines room lines = .ok (reported entries) := by
  obtain ⟨htells, hfits⟩ := h
  induction htells generalizing room with
  | nil => rfl
  | @cons line entry lines entries hline hrest ih =>
      obtain ⟨id, state⟩ := entry
      rw [readContextLines, readContext_of_tells hline]
      show (if Pdn.ValidId id then _ else _) = _
      -- only contexts that exist take room
      by_cases hvalid : Pdn.ValidId id
      · rw [reported_cons_of_valid hvalid] at hfits ⊢
        obtain ⟨room, rfl⟩ := Nat.exists_eq_succ_of_ne_zero (Nat.ne_zero_of_lt hfits)
        simp only [if_pos hvalid, ih (Nat.le_of_succ_le_succ hfits)]
        rfl
      · rw [reported_cons_of_not_valid hvalid] at hfits ⊢
        rw [if_neg hvalid]
        exact ih hfits

theorem lists_of_readContextLines (h : readContextLines room lines = .ok reports) :
    ∃ entries, Lists room lines entries ∧ reports = reported entries := by
  induction lines generalizing room reports with
  | nil =>
      cases h
      exact ⟨[], ⟨.nil, Nat.zero_le room⟩, rfl⟩
  | cons line lines ih =>
      obtain ⟨⟨id, active⟩, hline, hrest⟩ := exists_of_bind_eq_ok h
      obtain ⟨state, htells, rfl⟩ := tells_of_readContext (readContext_of_ofText hline)
      change (if Pdn.ValidId id then _ else _) = _ at hrest
      split at hrest
      next hvalid =>
        cases room with
        -- a context without room for it would have been an error
        | zero => cases hrest
        | succ room =>
            obtain ⟨rest, hlater, heq⟩ := exists_of_bind_eq_ok hrest
            cases heq
            obtain ⟨entries, hlists, rfl⟩ := ih hlater
            have hlonger := hlists.cons_of_valid htells hvalid
            exact ⟨_, hlonger, (reported_cons_of_valid hvalid).symm⟩
      next hvalid =>
        obtain ⟨entries, hlists, rfl⟩ := ih hrest
        have hlonger := hlists.cons_of_not_valid htells hvalid
        exact ⟨_, hlonger, (reported_cons_of_not_valid hvalid).symm⟩

/-! ## Reading a response -/

/-- The lines of a response that are about contexts. -/
def contextLines (response : Response) : List Text :=
  response.lines.filter fun line => line.beginsWith contextsLabel

/-- A response can be read if and only if it lists contexts. -/
theorem readContexts_eq_ok_iff : readContexts response = .ok reports ↔
    ∃ entries, Lists Limits.contexts (contextLines response) entries ∧
      reports = reported entries := by
  constructor
  · exact lists_of_readContextLines
  · rintro ⟨entries, hlists, rfl⟩
    exact readContextLines_of_lists hlists

/-- Only contexts that exist are listed. -/
theorem valid_of_readContexts (h : readContexts response = .ok reports) :
    ∀ report ∈ reports, Pdn.ValidId report.1 := by
  obtain ⟨entries, -, rfl⟩ := readContexts_eq_ok_iff.mp h
  exact fun _ => valid_of_mem_reported

end Query

end ModemLink
