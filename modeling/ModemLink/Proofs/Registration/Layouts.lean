import ModemLink.Proofs.Engine.Errands
import ModemLink.Proofs.Engine.Runs
import ModemLink.Proofs.Registration.Reports

/-!
# Asked for or not, a report means the same

A modem that is asked for its registration puts a mode in front of what it reports on its own.  The
readers of both forms take the same fields from different places on, and the mode changes nothing:
`update_afterMode` for the tracker, `Query.applies_of_runs` for a whole query.  `asked_eq_unasked`
puts them together.
-/

namespace ModemLink

namespace Registration.Tracker

variable {report : Report} {mode fields : Text}

/-- The mode comes first, and the fields after it are those of a report that comes unasked. -/
theorem layout_false (report : Report) :
    report.layout false = .mode :: report.layout true := by
  cases report <;> rfl

theorem size_fields_le (hsize : Text.size (mode ++ ',' :: fields) ≤ Limits.line) :
    fields.size ≤ Limits.line := by
  rw [Text.size_append, Text.size_cons] at hsize
  omega

/-- Whatever the mode says, the reader goes on with the fields after it. -/
theorem applyFields_mode (hmode : ',' ∉ mode)
    (hsize : Text.size (mode ++ ',' :: fields) ≤ Limits.line) (layout : List Field)
    (tracker : Tracker) :
    applyFields report (.mode :: layout) (mode ++ ',' :: fields) tracker =
      applyFields report layout fields tracker := by
  have hsplit : (mode ++ ',' :: fields).splitOn ',' = mode :: fields.splitOn ',' :=
    List.splitOn_append_cons_self_of_not_mem hmode fields
  have hnote : tracker.note report (.mode, mode) = .ok tracker := ite_self _
  calc applyFields report (.mode :: layout) (mode ++ ',' :: fields) tracker
      = ((.mode, mode) :: layout.zip (fields.splitOn ',')).foldlM (note report) tracker := by
        rw [applyFields_eq_foldlM report _ hsize, hsplit, List.zip_cons_cons]
    _ = (layout.zip (fields.splitOn ',')).foldlM (note report) tracker := by
        rw [List.foldlM_cons, hnote]
        rfl
    _ = applyFields report layout fields tracker :=
        (applyFields_eq_foldlM report layout (size_fields_le hsize) tracker).symm

theorem filter_afterMode (mode fields : Text) :
    (mode ++ ',' :: fields).filter Text.counts =
      mode.filter Text.counts ++ ',' :: fields.filter Text.counts := by
  rw [List.filter_append, List.filter_cons_of_pos (by decide)]

theorem apply_afterMode (hmode : ',' ∉ mode) (hfields : fields.filter Text.counts ≠ [])
    (hsize : Text.size (mode ++ ',' :: fields) ≤ Limits.line) (report : Report)
    (tracker : Tracker) :
    tracker.apply report (mode ++ ',' :: fields) false = tracker.apply report fields true := by
  have hcomma : ',' ∉ mode.filter Text.counts := fun hmem => hmode (List.mem_of_mem_filter hmem)
  have hcountingSize :
      Text.size (mode.filter Text.counts ++ ',' :: fields.filter Text.counts) ≤ Limits.line := by
    rw [← filter_afterMode]
    exact Nat.le_trans (Text.size_filter_le _ _) hsize
  have hne : mode.filter Text.counts ++ ',' :: fields.filter Text.counts ≠ [] :=
    List.append_ne_nil_of_right_ne_nil _ nofun
  -- the text is compacted first, so the mode is split off from the characters that count
  calc tracker.apply report (mode ++ ',' :: fields) false
      = applyFields report (.mode :: report.layout true)
          (mode.filter Text.counts ++ ',' :: fields.filter Text.counts) tracker := by
        rw [apply_eq tracker report hsize, filter_afterMode, if_neg hne, layout_false]
    _ = applyFields report (report.layout true) (fields.filter Text.counts) tracker :=
        applyFields_mode hcomma hcountingSize _ _
    _ = tracker.apply report fields true := by
        rw [apply_eq tracker report (size_fields_le hsize), if_neg hfields]

theorem update_afterMode (hmode : ',' ∉ mode) (hfields : fields.filter Text.counts ≠ [])
    (hsize : Text.size (mode ++ ',' :: fields) ≤ Limits.line) (report : Report)
    (tracker : Tracker) :
    tracker.update report (mode ++ ',' :: fields) false = tracker.update report fields true := by
  unfold update
  rw [apply_afterMode hmode hfields hsize]

end Registration.Tracker

/-! ## Queries -/

namespace Query

variable {profile : Profile} {report : Registration.Report} {engine later : Engine}
  {between : Engine → Engine → Prop} {result : Except Error Unit}

/-- The part of a query for a report that waits: it asks, and reads what comes after the label. -/
def askedPayload (profile : Profile) (report : Registration.Report) : Caller Text :=
  (labelled (registrationCommand report) report.label).send profile fun response =>
    ofText do Text.copy Limits.line (← response.payload report.label)

/-- What a query makes of the text that it has read. -/
inductive Applied (report : Registration.Report) (during : Engine) :
    Except Error Text → Engine → Except Error Unit → Prop
  | failed (failure : Error) : Applied report during (.error failure) during (.error failure)
  | applied (payload : Text) :
      Applied report during (.ok payload)
        { during with device := (during.device.applyRegistration report payload false).1 }
        ((during.device.applyRegistration report payload false).2.mapError Error.ofText)

/-- A query asks, and applies at once what it has read. -/
theorem applies_of_runs
    (hrun : Call.Runs between engine (registrationReport profile report).run later result) :
    ∃ during read, Call.Runs between engine (askedPayload profile report).run during read ∧
      Applied report during read later result := by
  have hparts : Call.Runs between engine ((askedPayload profile report).run.bind
      (ExceptT.bindCont fun payload => Caller.report fun device =>
        device.applyRegistration report payload false)) later result := hrun
  obtain ⟨during, read, hasked, hrest⟩ := hparts.of_bind
  refine ⟨during, read, hasked, ?_⟩
  cases read with
  | error failure =>
      obtain ⟨rfl, rfl⟩ : later = during ∧ result = .error failure := hrest.eq_of_advance rfl
      exact .failed failure
  | ok payload =>
      obtain ⟨rfl, rfl⟩ := hrest.eq_of_advance (Caller.advance_device rfl)
      exact .applied payload

end Query

namespace Registration

variable {mode fields : Text}

/-- A report that was asked for has a mode and a comma before the fields.  The tracker makes of it
what it makes of the fields alone when they come unasked, and so does the device.  So a query that
reads such an answer ends as the handler of the unsolicited report does. -/
theorem asked_eq_unasked (hmode : ',' ∉ mode) (hfields : fields.bare ≠ [])
    (hsize : Text.size (mode ++ ',' :: fields) ≤ Limits.line) (report : Report) :
    (∀ tracker : Tracker,
      tracker.update report (mode ++ ',' :: fields) false = tracker.update report fields true) ∧
    (∀ device : Device, device.applyRegistration report (mode ++ ',' :: fields) false =
      Urc.registration report device fields) ∧
    ∀ profile between engine later result,
      Call.Runs between engine (Query.registrationReport profile report).run later result →
      ∃ during read,
        Call.Runs between engine (Query.askedPayload profile report).run during read ∧
        (read = .ok (mode ++ ',' :: fields) →
          later = { during with device := (Urc.registration report during.device fields).1 } ∧
          result = (Urc.registration report during.device fields).2.mapError Error.ofText) := by
  rw [← Text.filter_counts] at hfields
  have hdevice (device : Device) : device.applyRegistration report (mode ++ ',' :: fields) false =
      Urc.registration report device fields := by
    unfold Urc.registration Device.applyRegistration
    rw [Tracker.update_afterMode hmode hfields hsize]
  refine ⟨Tracker.update_afterMode hmode hfields hsize report, hdevice, ?_⟩
  -- a query applies what it has read in one step, so the equality for devices carries over
  intro profile between engine later result hrun
  obtain ⟨during, read, hasked, happlied⟩ := Query.applies_of_runs hrun
  refine ⟨during, read, hasked, ?_⟩
  rintro rfl
  cases happlied with
  | applied =>
      rw [hdevice]
      exact ⟨rfl, rfl⟩

/-- The answer to a query for the GPRS registration, with blanks and quotes. -/
theorem asked_eq_unasked_gprs :
    let mode : Text := "2 "
    let fields : Text := " 1,\"00C3\",\"A13F\",3,\"7\""
    Tracker.initial.update .cgreg (mode ++ ',' :: fields) false =
        Tracker.initial.update .cgreg fields true ∧
      (Tracker.initial.update .cgreg fields true).1.routing = 7 := by
  intro mode fields
  have hmode : ',' ∉ mode := by decide
  have hfields : fields.bare ≠ [] := by decide
  have hsize : Text.size (mode ++ ',' :: fields) ≤ Limits.line := by decide
  exact ⟨(asked_eq_unasked hmode hfields hsize .cgreg).1 .initial, by decide +kernel⟩

end Registration

end ModemLink
