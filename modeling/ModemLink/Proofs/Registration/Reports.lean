import ModemLink.Device
import ModemLink.Proofs.Text.Fields

/-!
# What a report makes of a tracker

A report is applied field by field to a copy of the tracker (`apply_eq_ok_iff`).  `Noted` says what
one field does, and what holds of whole reports follows by induction on their fields.

* `confined_foldlM`: a report is about one domain and leaves the other alone.
* `denied_foldlM`: why registration was denied is recorded only together with the denial, since no
  report gives its status after its reasons.
* `update_names_every_change`: a report is applied wholly or not at all, and the domain is named exactly
  if its status changed; so whoever follows the named domains knows every status.
-/

namespace ModemLink.Registration

/-- The fields of a report and their texts in a payload.  A field that is not there has none, and so
have texts beyond the last field. -/
def Report.entries (report : Report) (unsolicited : Bool) (payload : Text) : List (Field × Text) :=
  (report.layout unsolicited).zip ((payload.filter Text.counts).splitOn ',')

/-- One report as it arrives. -/
structure Message where
  report : Report
  payload : Text
  unsolicited : Bool

/-- Whether a field says why registration was denied. -/
def Field.isReason : Field → Bool
  | rejectType | rejectCause => true
  | _ => false

namespace Tracker

variable {report : Report} {before after : Tracker} {field : Field} {token : Text}
  {domain other : Domain}

/-- Why registration in a domain was denied: the type and the cause. -/
def reject (tracker : Tracker) : Domain → Nat × Nat
  | .circuit => (tracker.circuitRejectType, tracker.circuitRejectCause)
  | .packet => (tracker.packetRejectType, tracker.packetRejectCause)

/-- Nothing about the other domain is different. -/
def Confined (domain : Domain) (before after : Tracker) : Prop :=
  ∀ other ≠ domain, after.status other = before.status other ∧
    after.reject other = before.reject other

theorem Confined.refl (tracker : Tracker) : Confined domain tracker tracker :=
  fun _ _ => ⟨rfl, rfl⟩

theorem Confined.trans {middle : Tracker} (h : Confined domain before middle)
    (hnext : Confined domain middle after) : Confined domain before after := fun other hother =>
  ⟨(hnext other hother).1.trans (h other hother).1, (hnext other hother).2.trans (h other hother).2⟩

/-! ## One field -/

/-- Apply one field.  An empty one changes nothing. -/
def note (report : Report) (tracker : Tracker) (entry : Field × Text) : Except TextError Tracker :=
  if entry.2 = [] then .ok tracker else tracker.applyField report entry.1 entry.2

/-- What a field makes of a tracker, if its text can be read. -/
inductive Noted (report : Report) (before : Tracker) : Field → Text → Tracker → Prop
  | empty (field : Field) : Noted report before field [] before
  | mode (token : Text) : Noted report before .mode token before
  | status {token : Text} {number : Nat} (hread : token.toWord 8 10 = .ok number) :
      Noted report before .status token (before.setStatus report.domain (Status.ofNumber number))
  | area {token : Text} {code : Nat} (hread : token.toWord 16 16 = .ok code) :
      Noted report before .area token (before.setArea report code)
  | cell {token : Text} {cell : Nat} (hread : Hex.toNat token = .ok cell) :
      Noted report before .cell token { before with cell := cell }
  | radio {token : Text} {number : Nat} (hread : token.toWord 8 10 = .ok number) :
      Noted report before .radio token
        { before with radio := reportedRadio (Radio.ofNumber number) }
  | routing {token : Text} {code : Nat} (hread : token.toWord 8 16 = .ok code) :
      Noted report before .routing token { before with routing := code }
  | rejectType {token : Text} {value : Nat} (hread : token.toWord 8 10 = .ok value) :
      Noted report before .rejectType token (before.noteReject report.domain true value)
  | rejectCause {token : Text} {value : Nat} (hread : token.toWord 8 10 = .ok value) :
      Noted report before .rejectCause token (before.noteReject report.domain false value)

theorem noted_applyField (h : before.applyField report field token = .ok after) :
    Noted report before field token after := by
  cases field with
  | mode =>
      cases h
      exact .mode token
  | cell =>
      unfold applyField at h
      cases hread : Hex.toNat token with
      | error failure => simp only [hread] at h; cases h
      | ok cell =>
          simp only [hread] at h
          cases h
          exact .cell hread
  | status =>
      obtain ⟨number, hread, h⟩ := exists_of_bind_eq_ok h
      split at h <;> cases h
      exact .status hread
  | radio =>
      obtain ⟨number, hread, h⟩ := exists_of_bind_eq_ok h
      simp only at h
      split at h <;> cases h
      exact .radio hread
  | area =>
      obtain ⟨code, hread, h⟩ := exists_of_bind_eq_ok h
      cases h
      exact .area hread
  | routing =>
      obtain ⟨code, hread, h⟩ := exists_of_bind_eq_ok h
      cases h
      exact .routing hread
  | rejectType =>
      obtain ⟨value, hread, h⟩ := exists_of_bind_eq_ok h
      cases h
      exact .rejectType hread
  | rejectCause =>
      obtain ⟨value, hread, h⟩ := exists_of_bind_eq_ok h
      cases h
      exact .rejectCause hread

theorem noted_note {entry : Field × Text} (h : before.note report entry = .ok after) :
    Noted report before entry.1 entry.2 after := by
  obtain ⟨field, token⟩ := entry
  unfold note at h
  split at h
  next hempty =>
    cases h
    obtain rfl : token = [] := hempty
    exact .empty field
  · exact noted_applyField h

/-! ### What a field leaves alone -/

theorem status_setStatus_of_ne (h : other ≠ domain) (tracker : Tracker) (status : Status) :
    (tracker.setStatus domain status).status other = tracker.status other := by
  cases domain <;> cases other <;> first
    | contradiction
    | unfold setStatus; simp only; split <;> rfl

theorem reject_setStatus (tracker : Tracker) (domain other : Domain) (status : Status) :
    (tracker.setStatus domain status).reject other = tracker.reject other := by
  cases domain <;> cases other <;> unfold setStatus <;> simp only <;> split <;> rfl

theorem status_setArea (tracker : Tracker) (report : Report) (code : Nat) (domain : Domain) :
    (tracker.setArea report code).status domain = tracker.status domain := by
  cases report <;> cases domain <;> rfl

theorem reject_setArea (tracker : Tracker) (report : Report) (code : Nat) (domain : Domain) :
    (tracker.setArea report code).reject domain = tracker.reject domain := by
  cases report <;> cases domain <;> rfl

theorem status_noteReject (tracker : Tracker) (domain other : Domain) (isType : Bool)
    (value : Nat) :
    (tracker.noteReject domain isType value).status other = tracker.status other := by
  unfold noteReject
  split
  · cases domain <;> cases isType <;> cases other <;> rfl
  · rfl

/-- A reason is recorded only for its own domain, and only if that denied registration. -/
theorem reject_noteReject_cases (tracker : Tracker) (domain other : Domain) (isType : Bool)
    (value : Nat) :
    (tracker.noteReject domain isType value).reject other = tracker.reject other ∨
      other = domain ∧ tracker.status domain = .denied := by
  unfold noteReject
  split
  next hdenied =>
    by_cases heq : other = domain
    · exact .inr ⟨heq, hdenied⟩
    · left
      cases domain <;> cases isType <;> cases other <;> first | contradiction | rfl
  · exact .inl rfl

namespace Noted

/-- Only a status changes a status. -/
theorem status_eq (h : Noted report before field token after) (hfield : field ≠ .status)
    (domain : Domain) : after.status domain = before.status domain := by
  cases h with
  | status hread => contradiction
  | area hread => exact status_setArea before report _ domain
  | rejectType hread | rejectCause hread => exact status_noteReject before report.domain domain _ _
  | empty | mode | cell | radio | routing => cases domain <;> rfl

/-- The reasons change only with a reason, and only if its domain denied registration. -/
theorem denied (h : Noted report before field token after)
    (hchanged : after.reject domain ≠ before.reject domain) :
    field.isReason = true ∧ domain = report.domain ∧ after.status domain = .denied := by
  -- both reasons are recorded by the same function
  have hreason {isType : Bool} {value : Nat}
      (hreject : (before.noteReject report.domain isType value).reject domain ≠
        before.reject domain) :
      domain = report.domain ∧
        (before.noteReject report.domain isType value).status domain = .denied := by
    obtain ⟨rfl, hdenied⟩ :=
      (reject_noteReject_cases before report.domain domain isType value).resolve_left hreject
    exact ⟨rfl, (status_noteReject ..).trans hdenied⟩
  cases h with
  | rejectType hread | rejectCause hread => exact ⟨rfl, hreason hchanged⟩
  | status hread => exact absurd (reject_setStatus before report.domain domain _) hchanged
  | area hread => exact absurd (reject_setArea before report _ domain) hchanged
  | empty | mode | cell | radio | routing => cases domain <;> exact absurd rfl hchanged

theorem confined (h : Noted report before field token after) :
    Confined report.domain before after := by
  intro other hother
  constructor
  · -- only a status changes a status, and it changes that of its own domain
    by_cases hfield : field = .status
    · subst hfield
      cases h with
      | empty => rfl
      | status hread => exact status_setStatus_of_ne hother before _
    · exact h.status_eq hfield other
  · -- and a reason is recorded for the domain of the report
    by_contra hchanged
    exact hother (h.denied hchanged).2.1

end Noted

/-! ## All fields -/

section

variable {entry : Field × Text} {entries : List (Field × Text)}

/-- The first field, and then the others. -/
theorem exists_of_foldlM_cons (h : (entry :: entries).foldlM (note report) before = .ok after) :
    ∃ next, Noted report before entry.1 entry.2 next ∧
      entries.foldlM (note report) next = .ok after := by
  rw [List.foldlM_cons] at h
  obtain ⟨next, hfirst, hrest⟩ := exists_of_bind_eq_ok h
  exact ⟨next, noted_note hfirst, hrest⟩

/-- What each of the fields keeps, all of them keep. -/
theorem foldlM_keeps {P : Tracker → Prop}
    (hkeep : ∀ entry ∈ entries, ∀ {earlier later},
      Noted report earlier entry.1 entry.2 later → P earlier → P later)
    (h : entries.foldlM (note report) before = .ok after) (hbefore : P before) : P after := by
  induction entries generalizing before with
  | nil =>
      cases h
      exact hbefore
  | cons entry entries ih =>
      obtain ⟨hentry, hothers⟩ := List.forall_mem_cons.mp hkeep
      obtain ⟨next, hfirst, hrest⟩ := exists_of_foldlM_cons h
      exact ih hothers hrest (hentry hfirst hbefore)

/-- A report is about one domain. -/
theorem confined_foldlM (h : entries.foldlM (note report) before = .ok after) :
    Confined report.domain before after :=
  foldlM_keeps (P := Confined report.domain before)
    (fun _ _ _ _ hnoted hearlier => hearlier.trans hnoted.confined) h (.refl before)

theorem status_foldlM (h : entries.foldlM (note report) before = .ok after)
    (hentries : ∀ entry ∈ entries, entry.1 ≠ .status) (domain : Domain) :
    after.status domain = before.status domain :=
  foldlM_keeps (P := fun tracker => tracker.status domain = before.status domain)
    (fun entry hentry _ _ hnoted hearlier =>
      (hnoted.status_eq (hentries entry hentry) domain).trans hearlier) h rfl

/-- The reasons for a denial change only together with the denial. -/
theorem denied_foldlM (h : entries.foldlM (note report) before = .ok after)
    (horder : entries.Pairwise fun first later => first.1.isReason → later.1 ≠ .status)
    (hchanged : after.reject domain ≠ before.reject domain) : after.status domain = .denied := by
  induction entries generalizing before with
  | nil =>
      cases h
      exact absurd rfl hchanged
  | cons entry entries ih =>
      obtain ⟨hfirstOrder, hrestOrder⟩ := List.pairwise_cons.mp horder
      obtain ⟨next, hfirst, hrest⟩ := exists_of_foldlM_cons h
      by_cases hsame : next.reject domain = before.reject domain
      · exact ih hrest hrestOrder (hsame ▸ hchanged)
      · -- no status comes after a reason, so the domain keeps its own
        obtain ⟨hreason, -, hdenied⟩ := hfirst.denied hsame
        rw [status_foldlM hrest fun later hlater => hfirstOrder later hlater hreason]
        exact hdenied

end

/-! ## Whole reports -/

/-- What the fields of a layout are to each other, the entries of a report are, too. -/
theorem pairwise_zip {R : Field → Field → Prop} {fields : List Field} (h : fields.Pairwise R)
    (texts : List Text) : (fields.zip texts).Pairwise fun first later => R first.1 later.1 := by
  induction h generalizing texts with
  | nil => exact .nil
  | cons hfirst _ ih =>
      cases texts with
      | nil => exact .nil
      | cons text texts =>
          exact .cons (fun later hlater => hfirst later.1 (List.of_mem_zip hlater).1) (ih texts)

/-- The fields of a report are those between the commas of its payload. -/
theorem applyFields_eq_foldlM (report : Report) (fields : List Field) {payload : Text}
    (h : payload.size ≤ Limits.line) (tracker : Tracker) :
    applyFields report fields payload tracker =
      (fields.zip (payload.splitOn ',')).foldlM (note report) tracker := by
  induction fields generalizing payload tracker with
  | nil => cases payload <;> rfl
  | cons field fields ih =>
      cases payload with
      | nil => cases fields <;> rfl
      | cons c payload =>
          -- one round of the loop applies one field and leaves the rest of the payload
          have hstep (token rest : Text)
              (htake : Text.takeField (c :: payload) = .ok (token, rest)) :
              applyFields report (field :: fields) (c :: payload) tracker =
                tracker.note report (field, token) >>= applyFields report fields rest := by
            rw [applyFields, htake]
            · show (if token = [] then _ else _) = _
              unfold note
              split <;> rfl
            · nofun
          -- either the payload is the last field, or a comma ends the first one
          rcases Text.takeField_cases ⟨List.cons_ne_nil c payload, h⟩ with
            ⟨htake, hsplit⟩ | ⟨token, rest, htake, hsplit, hsize⟩
          · rw [hstep _ _ htake, hsplit, List.zip_cons_cons, List.foldlM_cons]
            refine bind_congr fun next => ?_
            cases fields <;> rfl
          · rw [hstep _ _ htake, hsplit, List.zip_cons_cons, List.foldlM_cons]
            exact bind_congr fun next => ih (Nat.le_trans (Nat.le_of_lt hsize) h) next

/-- A report is read from the characters of its payload that count. -/
theorem apply_eq (tracker : Tracker) (report : Report) {payload : Text}
    (hsize : payload.size ≤ Limits.line) (unsolicited : Bool) :
    tracker.apply report payload unsolicited =
      if payload.filter Text.counts = [] then .error .badParameter
      else applyFields report (report.layout unsolicited) (payload.filter Text.counts) tracker := by
  let read (fields : Text) : Except TextError Tracker :=
    if fields = [] then .error .badParameter
    else applyFields report (report.layout unsolicited) fields tracker
  have hnil : read [] = .error .badParameter := rfl
  exact Text.compact_bind hnil hsize

/-- A report whose payload can be read is the list of its fields. -/
theorem apply_eq_ok_iff (tracker : Tracker) (report : Report) (payload : Text)
    (unsolicited : Bool) :
    tracker.apply report payload unsolicited = .ok after ↔
      payload.Bounded ∧ (payload.filter Text.counts ≠ []) ∧
        (report.entries unsolicited payload).foldlM (note report) tracker = .ok after := by
  have hentries (hsize : Text.size (payload.filter Text.counts) ≤ Limits.line) :=
    applyFields_eq_foldlM report (report.layout unsolicited) hsize tracker
  unfold apply
  constructor
  · intro h
    obtain ⟨fields, hcompact, h⟩ := exists_of_bind_eq_ok h
    have hsize := Text.size_compact_le hcompact
    obtain ⟨hbounded, -, rfl⟩ := Text.compact_eq_ok_iff.mp hcompact
    split at h
    · cases h
    next hne => exact ⟨hbounded, hne, (hentries hsize).symm.trans h⟩
  · rintro ⟨hbounded, hne, h⟩
    have hsize := Nat.le_trans (Text.size_filter_le Text.counts payload) hbounded.2
    exact (apply_eq tracker report hbounded.2 unsolicited).trans
      ((if_neg hne).trans ((hentries hsize).trans h))

/-- No report gives its status after its reasons. -/
theorem pairwise_entries (report : Report) (unsolicited : Bool) (payload : Text) :
    (report.entries unsolicited payload).Pairwise
      fun first later => first.1.isReason → later.1 ≠ .status := by
  have hlayout : (report.layout unsolicited).Pairwise
      fun first later => first.isReason → later ≠ .status := by
    cases report <;> cases unsolicited <;> decide
  exact pairwise_zip hlayout _

/-- What an update may do: refuse a report and leave everything as it was, or apply it. -/
inductive Updates (report : Report) (before : Tracker) :
    Tracker × Except TextError (Option Domain) → Prop
  | refuses (failure : TextError) : Updates report before (before, .error failure)
  | applies {after : Tracker} (hconfined : Confined report.domain before after)
      (hdenied : ∀ domain, after.reject domain ≠ before.reject domain →
        after.status domain = .denied) :
      Updates report before (after,
        .ok (if after.status report.domain ≠ before.status report.domain then some report.domain
          else none))

theorem updates_update (tracker : Tracker) (report : Report) (payload : Text)
    (unsolicited : Bool) :
    Updates report tracker (tracker.update report payload unsolicited) := by
  unfold update
  cases happly : tracker.apply report payload unsolicited with
  | error failure => exact .refuses failure
  | ok after =>
      obtain ⟨-, -, hfields⟩ := (apply_eq_ok_iff tracker report payload unsolicited).mp happly
      exact .applies (confined_foldlM hfields)
        fun domain => denied_foldlM hfields (pairwise_entries report unsolicited payload)

/-! ## Reports one after another -/

/-- The tracker after a message, whether that could be applied or not. -/
def take (tracker : Tracker) (message : Message) : Tracker :=
  (tracker.update message.report message.payload message.unsolicited).1

/-- The domain that a message makes the tracker name. -/
def named? (tracker : Tracker) (message : Message) : Option Domain :=
  match (tracker.update message.report message.payload message.unsolicited).2 with
  | .ok named => named
  | .error _ => none

def takeAll (tracker : Tracker) (messages : List Message) : Tracker := messages.foldl take tracker

/-- The trackers that someone sees who looks right after each message that named the domain. -/
def told (domain : Domain) : Tracker → List Message → List Tracker
  | _, [] => []
  | tracker, message :: messages =>
      let next := tracker.take message
      if tracker.named? message = some domain then next :: told domain next messages
      else told domain next messages

/-- A domain that is not named keeps its status. -/
theorem status_take_of_not_named {message : Message} (h : before.named? message ≠ some domain) :
    (before.take message).status domain = before.status domain := by
  have hupdates := updates_update before message.report message.payload message.unsolicited
  unfold named? at h
  unfold take
  generalize before.update message.report message.payload message.unsolicited = result at *
  cases hupdates with
  | refuses failure => rfl
  | applies hconfined hdenied =>
      by_cases hdomain : domain = message.report.domain
      · -- a status that changed would have been named
        subst hdomain
        by_contra hchanged
        exact h (if_pos hchanged)
      · exact (hconfined domain hdomain).1

/-- Whoever looks at the tracker when a domain is named knows the status of that domain. -/
theorem status_takeAll (domain : Domain) (messages : List Message) (tracker : Tracker) :
    (tracker.takeAll messages).status domain =
      ((tracker.told domain messages).getLastD tracker).status domain := by
  induction messages generalizing tracker with
  | nil => rfl
  | cons message messages ih =>
      have hrest := ih (tracker.take message)
      unfold told
      simp only
      split
      · rw [List.getLastD_cons]
        exact hrest
      next hnamed =>
        -- the first message names nothing, so the status is still the one before it
        cases htold : told domain (tracker.take message) messages with
        | nil =>
            rw [htold] at hrest
            exact hrest.trans (status_take_of_not_named hnamed)
        | cons first others =>
            rw [htold, List.getLastD_cons] at hrest
            rw [List.getLastD_cons]
            exact hrest

/-- A report is applied wholly or not at all.  It is about one domain, which is named exactly if its
status changed, and why registration was denied is recorded only together with the denial.  So a
status is the one it had when its domain was last named, however many messages were malformed. -/
theorem update_names_every_change (tracker : Tracker) :
    (∀ report payload unsolicited,
      Updates report tracker (tracker.update report payload unsolicited)) ∧
      ∀ domain messages, (tracker.takeAll messages).status domain =
        ((tracker.told domain messages).getLastD tracker).status domain :=
  ⟨updates_update tracker, fun domain messages => status_takeAll domain messages tracker⟩

end Tracker

end ModemLink.Registration
