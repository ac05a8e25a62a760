import ModemLink.Proofs.Registration.Reports

/-!
# Where a modem is that has lost its network

A report that denies registration and names no place makes the tracker forget the location area, the
cell and the radio technology.  It does not forget the tracking area, and callers are shown that in
place of a location area.

* `whereabouts_take`: what is forgotten.
* `tracking_takeAll`: the tracking area is the last one that an acceptable `+CEREG` named.
* `summary_of_deregisters` puts them together: callers see no area after a lost registration exactly
  if they saw no tracking area before.
-/

namespace ModemLink.Registration

/-- Whether a field says where the modem is. -/
def Field.locates : Field → Bool
  | area | cell | radio | routing => true
  | _ => false

namespace Message

variable (message : Message)

def entries : List (Field × Text) := message.report.entries message.unsolicited message.payload

/-- The report can be read.  What is known already makes no difference (`isOk_apply`). -/
def isAccepted : Bool :=
  (Tracker.initial.apply message.report message.payload message.unsolicited).isOk

/-- The report says that the modem is not registered, and nothing about where it is. -/
structure Deregisters : Prop where
  accepted : message.isAccepted = true
  status : ∃ text number, (Field.status, text) ∈ message.entries ∧ text.toWord 8 10 = .ok number ∧
    (Status.ofNumber number).isRegistered = false
  placeless : ∀ entry ∈ message.entries, entry.1.locates → entry.2 = []

/-- The tracking area that a report names. -/
def trackingArea? : Option Nat :=
  if message.report = .cereg ∧ message.isAccepted then
    (message.entries.lookup .area).bind fun text => (text.toWord 16 16).toOption
  else
    none

end Message

namespace Tracker

variable {report : Report} {before after : Tracker} {field : Field} {token : Text}
  {entries : List (Field × Text)}

/-! ## Which reports can be read -/

/-- A field that can be read can be read at any time. -/
theorem exists_applyField (h : before.applyField report field token = .ok after)
    (other : Tracker) : ∃ result, other.applyField report field token = .ok result := by
  cases field with
  | mode => exact ⟨other, rfl⟩
  | cell =>
      unfold applyField at h ⊢
      cases hread : Hex.toNat token with
      | error failure => simp only [hread] at h; cases h
      | ok cell => exact ⟨_, rfl⟩
  | status =>
      -- the number alone decides whether a status can be read, and not the tracker
      obtain ⟨number, hread, h⟩ := exists_of_bind_eq_ok h
      split at h
      · cases h
      next hnumber =>
        refine ⟨other.setStatus report.domain (Status.ofNumber number), ?_⟩
        simp only [applyField, hread]
        exact if_neg hnumber
  | radio =>
      obtain ⟨number, hread, h⟩ := exists_of_bind_eq_ok h
      simp only at h
      split at h
      · cases h
      next hradio =>
        refine ⟨{ other with radio := reportedRadio (Radio.ofNumber number) }, ?_⟩
        simp only [applyField, hread]
        exact if_neg hradio
  | area | routing | rejectType | rejectCause =>
      obtain ⟨value, hread, -⟩ := exists_of_bind_eq_ok h
      simp only [applyField, hread]
      exact ⟨_, rfl⟩

theorem exists_foldlM (h : entries.foldlM (note report) before = .ok after) (other : Tracker) :
    ∃ result, entries.foldlM (note report) other = .ok result := by
  induction entries generalizing before other with
  | nil => exact ⟨other, rfl⟩
  | cons entry entries ih =>
      rw [List.foldlM_cons] at h
      obtain ⟨next, hfirst, hrest⟩ := exists_of_bind_eq_ok h
      -- the other tracker takes the same field, and goes on from what that makes of it
      have hnote : ∃ result, other.note report entry = .ok result := by
        unfold note at hfirst ⊢
        split at hfirst
        next hempty => exact ⟨other, if_pos hempty⟩
        next hempty =>
          obtain ⟨result, hresult⟩ := exists_applyField hfirst other
          exact ⟨result, (if_neg hempty).trans hresult⟩
      obtain ⟨result, hresult⟩ := hnote
      rw [List.foldlM_cons, hresult]
      exact ih hrest result

/-- Whether a report can be read depends on nothing but the report. -/
theorem isOk_apply (tracker : Tracker) (message : Message) :
    (tracker.apply message.report message.payload message.unsolicited).isOk =
      message.isAccepted := by
  -- one direction for any two trackers; the other one swaps them
  have himp (first second : Tracker)
      (h : (first.apply message.report message.payload message.unsolicited).isOk = true) :
      (second.apply message.report message.payload message.unsolicited).isOk = true := by
    cases happly : first.apply message.report message.payload message.unsolicited with
    | error failure => rw [happly] at h; cases h
    | ok after =>
        obtain ⟨hbounded, hne, hfields⟩ := (apply_eq_ok_iff ..).mp happly
        obtain ⟨result, hresult⟩ := exists_foldlM hfields second
        rw [(apply_eq_ok_iff ..).mpr ⟨hbounded, hne, hresult⟩]
        rfl
  exact Bool.eq_iff_iff.mpr ⟨himp tracker .initial, himp .initial tracker⟩

/-! ## Location area, cell and radio -/

/-- What the tracker knows of the place besides the tracking area. -/
def whereabouts (tracker : Tracker) : Nat × Nat × Radio :=
  (tracker.location, tracker.cell, tracker.radio)

/-- No place. -/
def nowhere : Nat × Nat × Radio := (noArea, noCell, .invalid)

theorem whereabouts_setStatus (tracker : Tracker) (domain : Domain) (status : Status) :
    (tracker.setStatus domain status).whereabouts =
      if status.isRegistered then tracker.whereabouts else nowhere := by
  cases domain <;> unfold setStatus <;> simp only <;> split <;> rfl

theorem whereabouts_noteReject (tracker : Tracker) (domain : Domain) (isType : Bool)
    (value : Nat) : (tracker.noteReject domain isType value).whereabouts = tracker.whereabouts := by
  unfold noteReject
  split
  · cases domain <;> cases isType <;> rfl
  · rfl

/-- A tracker without a place gets one only from a field that names a place. -/
theorem Noted.nowhere (h : Noted report before field token after)
    (hplaceless : field.locates → token = []) (hbefore : before.whereabouts = nowhere) :
    after.whereabouts = nowhere := by
  cases h with
  | empty | mode => exact hbefore
  | status hread => rw [whereabouts_setStatus, hbefore, ite_self]
  | rejectType hread | rejectCause hread => rw [whereabouts_noteReject, hbefore]
  | area hread | cell hread | radio hread | routing hread =>
      -- a field that names a place is empty, and no number is read from an empty text
      obtain rfl := hplaceless rfl
      cases hread

/-- The fields around the status name no place, and the status makes the tracker forget its own. -/
theorem whereabouts_foldlM {text : Text} {number : Nat}
    (h : entries.foldlM (note report) before = .ok after) (hstatus : (.status, text) ∈ entries)
    (hread : text.toWord 8 10 = .ok number)
    (hderegistered : (Status.ofNumber number).isRegistered = false)
    (hplaceless : ∀ entry ∈ entries, entry.1.locates → entry.2 = []) :
    after.whereabouts = nowhere := by
  -- whatever the fields before the status did, the status makes up for it
  obtain ⟨earlier, later, rfl⟩ := List.append_of_mem hstatus
  rw [List.foldlM_append] at h
  obtain ⟨middle, -, h⟩ := exists_of_bind_eq_ok h
  obtain ⟨next, hnoted, hlater⟩ := exists_of_foldlM_cons h
  have hnext : next.whereabouts = nowhere := by
    cases hnoted with
    | empty => cases hread
    | status hsame =>
        obtain rfl := Except.ok.inj (hread.symm.trans hsame)
        rw [whereabouts_setStatus, hderegistered]
        rfl
  -- none of the fields after it names a place
  exact foldlM_keeps (P := fun tracker => tracker.whereabouts = nowhere)
    (fun entry hentry _ _ hnoted => hnoted.nowhere
      (hplaceless entry (List.mem_append_right _ (List.mem_cons_of_mem _ hentry)))) hlater hnext

/-- A lost registration takes the place with it, wherever the modem was. -/
theorem whereabouts_take {message : Message} (h : message.Deregisters) (tracker : Tracker) :
    (tracker.take message).whereabouts = nowhere := by
  have haccepted := (isOk_apply tracker message).trans h.accepted
  unfold take update
  cases happly : tracker.apply message.report message.payload message.unsolicited with
  | error failure => rw [happly] at haccepted; cases haccepted
  | ok after =>
      obtain ⟨-, -, hfields⟩ := (apply_eq_ok_iff ..).mp happly
      obtain ⟨text, number, hstatus, hread, hderegistered⟩ := h.status
      exact whereabouts_foldlM hfields hstatus hread hderegistered h.placeless

/-! ## The tracking area -/

/-- Only the area of a `+CEREG` is a tracking area. -/
theorem Noted.tracking_eq (h : Noted report before field token after)
    (harea : report = .cereg → field ≠ .area) : after.tracking = before.tracking := by
  cases h with
  | empty | mode | cell | radio | routing => rfl
  | status hread =>
      unfold setStatus
      cases report.domain <;> simp only <;> split <;> rfl
  | area hread =>
      cases report with
      | creg | cgreg => rfl
      | cereg => exact absurd rfl (harea rfl)
  | rejectType hread | rejectCause hread =>
      unfold noteReject
      split
      · cases report.domain <;> rfl
      · rfl

theorem tracking_foldlM_of_not_area (h : entries.foldlM (note report) before = .ok after)
    (harea : report = .cereg → ∀ entry ∈ entries, entry.1 ≠ .area) :
    after.tracking = before.tracking :=
  foldlM_keeps (P := fun tracker => tracker.tracking = before.tracking)
    (fun entry hentry _ _ hnoted hearlier =>
      (hnoted.tracking_eq fun hreport => harea hreport entry hentry).trans hearlier) h rfl

/-- The fields of a `+CEREG` change the tracking area exactly if they name one. -/
theorem tracking_foldlM (h : entries.foldlM (note .cereg) before = .ok after)
    (honce : entries.Pairwise fun first later => first.1 = .area → later.1 ≠ .area) :
    after.tracking = ((entries.lookup .area).bind fun text =>
      (text.toWord 16 16).toOption).getD before.tracking := by
  induction entries generalizing before with
  | nil =>
      cases h
      rfl
  | cons entry entries ih =>
      obtain ⟨hfirstOnce, hrestOnce⟩ := List.pairwise_cons.mp honce
      obtain ⟨next, hfirst, hrest⟩ := exists_of_foldlM_cons h
      obtain ⟨field, text⟩ := entry
      by_cases hfield : field = .area
      · -- the area itself: no later field names one again
        subst hfield
        have hkept : after.tracking = next.tracking :=
          tracking_foldlM_of_not_area hrest fun _ later hlater => hfirstOnce later hlater rfl
        rw [hkept, List.lookup_cons_self]
        cases hfirst with
        | empty => rfl
        | area hread =>
            simp only [Option.bind_some, hread]
            rfl
      · rw [ih hrest hrestOnce, hfirst.tracking_eq fun _ => hfield, List.lookup_cons]
        have hne : (Field.area == field) = false := beq_eq_false_iff_ne.mpr (Ne.symm hfield)
        rw [hne]

/-- An area code comes once at most in a report. -/
theorem pairwise_area (message : Message) :
    message.entries.Pairwise fun first later => first.1 = .area → later.1 ≠ .area := by
  have hlayout : (message.report.layout message.unsolicited).Pairwise
      fun first later => first = .area → later ≠ .area := by
    cases message.report <;> cases message.unsolicited <;> decide
  exact pairwise_zip hlayout _

theorem tracking_take (tracker : Tracker) (message : Message) :
    (tracker.take message).tracking = message.trackingArea?.getD tracker.tracking := by
  have haccepted := isOk_apply tracker message
  unfold Message.trackingArea? take update
  cases happly : tracker.apply message.report message.payload message.unsolicited with
  | error failure =>
      rw [happly] at haccepted
      -- a report that cannot be read names no area and changes nothing
      rw [if_neg fun h => by simp [← haccepted, Except.isOk, Except.toBool] at h]
      rfl
  | ok after =>
      rw [happly] at haccepted
      obtain ⟨-, -, hfields⟩ := (apply_eq_ok_iff ..).mp happly
      by_cases hreport : message.report = .cereg
      · rw [if_pos ⟨hreport, haccepted.symm⟩]
        have honce := pairwise_area message
        rw [hreport] at hfields
        exact tracking_foldlM (by simpa [Message.entries, hreport] using hfields) honce
      · rw [if_neg fun h => hreport h.1]
        exact tracking_foldlM_of_not_area hfields fun heq => absurd heq hreport

/-- The tracking area is the last one that was named, whatever came in between. -/
theorem tracking_takeAll (messages : List Message) (tracker : Tracker) :
    (tracker.takeAll messages).tracking =
      (messages.filterMap Message.trackingArea?).getLastD tracker.tracking := by
  induction messages generalizing tracker with
  | nil => rfl
  | cons message messages ih =>
      have hrest := ih (tracker.take message)
      rw [tracking_take] at hrest
      cases harea : message.trackingArea? with
      | none =>
          rw [List.filterMap_cons_none harea]
          rw [harea] at hrest
          exact hrest
      | some code =>
          rw [List.filterMap_cons_some harea, List.getLastD_cons]
          rw [harea] at hrest
          exact hrest

/-- A report that names no place names no tracking area. -/
theorem trackingArea?_of_deregisters {message : Message} (h : message.Deregisters) :
    message.trackingArea? = none := by
  unfold Message.trackingArea?
  rw [ite_eq_right_iff]
  rintro -
  cases harea : message.entries.lookup .area with
  | none => rfl
  | some text =>
      obtain ⟨before, after, hentries, -⟩ := List.lookup_eq_some_iff.mp harea
      have hmem : (Field.area, text) ∈ message.entries := hentries ▸ List.mem_append_cons_self
      -- an area that is there is empty, and an empty text is no code
      obtain rfl : text = [] := h.placeless _ hmem rfl
      rfl

/-! ## What callers see -/

/-- Callers of a modem that lost its registration see no cell and no radio technology, and as its area
the tracking area that was named last.  So they see no area exactly if that is no area either. -/
theorem summary_of_deregisters {message : Message} (h : message.Deregisters)
    (messages : List Message) :
    ((initial.takeAll messages).take message).summary.cell = noCell ∧
      ((initial.takeAll messages).take message).summary.radio = .invalid ∧
      ((initial.takeAll messages).take message).summary.area =
        (messages.filterMap Message.trackingArea?).getLastD noArea := by
  have hplace := whereabouts_take h (initial.takeAll messages)
  have hlocation : ((initial.takeAll messages).take message).location = noArea :=
    congrArg Prod.fst hplace
  refine ⟨congrArg (·.2.1) hplace, congrArg (·.2.2) hplace, ?_⟩
  calc ((initial.takeAll messages).take message).summary.area
      = ((initial.takeAll messages).take message).tracking := if_neg (not_not_intro hlocation)
    _ = (initial.takeAll messages).tracking := by
        rw [tracking_take, trackingArea?_of_deregisters h, Option.getD_none]
    _ = (messages.filterMap Message.trackingArea?).getLastD noArea := tracking_takeAll messages initial

/-- A modem on a GSM cell loses its network, and nothing of its place is left. -/
theorem summary_of_deregisters_gsm :
    let lost : Message := ⟨.creg, "0", true⟩
    let earlier : List Message := [⟨.creg, "1,\"0001\",\"0002\",0", true⟩]
    lost.Deregisters ∧ ((initial.takeAll earlier).take lost).summary.area = noArea := by
  have hderegisters : Message.Deregisters ⟨.creg, "0", true⟩ :=
    ⟨by decide +kernel, ⟨"0", 0, by decide +kernel⟩, by decide +kernel⟩
  exact ⟨hderegisters, (summary_of_deregisters hderegisters _).2.2.trans (by decide +kernel)⟩

/-- A modem on an LTE cell loses its network, and callers are still shown the area of that cell. -/
theorem lostLte_keeps_area :
    let lost : Message := ⟨.cereg, "0", true⟩
    let earlier : List Message := [⟨.cereg, "1,\"1A2B\",\"01A2B3C4\",7", true⟩]
    lost.Deregisters ∧ ((initial.takeAll earlier).take lost).summary.area = 0x1A2B :=
  ⟨⟨by decide +kernel, ⟨"0", 0, by decide +kernel⟩, by decide +kernel⟩, by decide +kernel⟩

end Tracker

end ModemLink.Registration
