import ModemLink.Proofs.Engine.Contexts
import ModemLink.Proofs.Engine.Quiet
import ModemLink.Proofs.Engine.Runs

/-!
# Listing the contexts

A query for the contexts first reads the whole response, and only then brings the contexts in line
with it, without a pause.  Once it has begun to do so nothing can fail any more, since only
contexts that exist are reported.  So the query is done as a whole or not at all
(`Query.contexts_adopts`), as long as nobody else works on the contexts while it waits
(`Query.Untouched`).
-/

namespace ModemLink

open Pdn (Table)
open Pdn.Table (lastReport)

/-- A line that does not report the end of a context leaves the contexts alone. -/
theorem Bg96.pdn_dispatch {line : Text} (h : endedContext? line = none) (device : Device) :
    (device.dispatch tokenTable line).pdn = device.pdn := by
  refine dispatch_does Device.permits_pdn (fun hfirst hnext => hnext.trans hfirst)
    (fun device => Device.pdn_notify device _) (fun id hid => ?_) device
  rw [h] at hid
  cases hid

/-- The reported contexts are as they were reported last, and the others are as before. -/
structure Pdn.Table.Adopts (reports : List (Nat × Bool)) (before after : Table) : Prop where
  reported : ∀ id active, lastReport reports id = some active →
    ∃ context, after.get? id = some context ∧
      context.activation = (if active then .active else .inactive) ∧
        (active = false → context.address = none)
  unreported : ∀ id, lastReport reports id = none → after.get? id = before.get? id

theorem Pdn.Table.adopts_adopt {reports : List (Nat × Bool)}
    (h : ∀ report ∈ reports, ValidId report.1) (table : Table) :
    Adopts reports table (table.adopt reports) where
  reported id active hlast := by
    rcases adopt_cases table reports id with ⟨hnone, -⟩ | ⟨last, earlier, hsome, hsame⟩
    · cases hnone.symm.trans hlast
    · obtain rfl : last = active := Option.some.inj (hsome.symm.trans hlast)
      have hvalid : ValidId id := h (id, last) (mem_of_lastReport hlast)
      obtain ⟨context, hcontext⟩ := (table.adopt reports).exists_get? hvalid
      have hreport := hsame.symm.trans hcontext
      refine ⟨context, hcontext, activation_report_self hreport, ?_⟩
      rintro rfl
      exact address_report_self hreport
  unreported id hlast := by
    rcases adopt_cases table reports id with ⟨-, hsame⟩ | ⟨last, earlier, hsome, -⟩
    · exact hsame
    · cases hsome.symm.trans hlast

namespace Query

variable {profile : Profile} {engine during later : Engine} {between : Engine → Engine → Prop}
  {read : Except Error (List (Nat × Bool))} {result : Except Error (List Pdn.Status)}

/-- The command that asks for the contexts. -/
def contextsRequest : Request :=
  { command := "AT+CGACT?", kind := .manyLabelled, label := some contextsLabel }

/-- The part of a query for the contexts that waits: it asks, and reads the whole response. -/
def listing (profile : Profile) : Caller (List (Nat × Bool)) :=
  contextsRequest.send profile readContexts

/-- What a query makes of what it has read. -/
inductive Concluded (during : Engine) :
    Except Error (List (Nat × Bool)) → Engine → Except Error (List Pdn.Status) → Prop
  | failed (failure : Error) : Concluded during (.error failure) during (.error failure)
  | adopted {reports : List (Nat × Bool)} {statuses : List Pdn.Status}
      (hshown : statuses.map Pdn.Status.shown = reports) :
      Concluded during (.ok reports)
        { during with device := { during.device with pdn := during.device.pdn.adopt reports } }
        (.ok statuses)

theorem listing_read {reports : List (Nat × Bool)}
    (hrun : Call.Runs between engine (listing profile).run during (.ok reports)) :
    readContexts during.exchange.response = .ok reports :=
  (Request.run_endsReading _ _ _ _).read_of_runs hrun

/-- What comes after the reading does not wait, and it cannot fail. -/
theorem advance_adoption
    (hlisting : Call.Runs between engine (listing profile).run during read) : ∃ later result,
      Call.advance during (ExceptT.bindCont adoptContexts read) = (later, .done result) ∧
        Concluded during read later result := by
  cases read with
  | error failure => exact ⟨during, .error failure, rfl, .failed failure⟩
  | ok reports =>
      have hvalid := valid_of_readContexts (listing_read hlisting)
      obtain ⟨statuses, hadvance, hshown⟩ := advance_adoptContexts hvalid during
      exact ⟨_, .ok statuses, hadvance, .adopted hshown⟩

theorem concluded_of_runs (hrun : Call.Runs between engine (contexts profile).run later result) :
    ∃ during read, Call.Runs between engine (listing profile).run during read ∧
      Concluded during read later result := by
  have hparts : Call.Runs between engine
      ((listing profile).run.bind (ExceptT.bindCont adoptContexts)) later result := hrun
  obtain ⟨during, read, hlisting, hrest⟩ := hparts.of_bind
  obtain ⟨_, _, hadvance, hconcluded⟩ := advance_adoption hlisting
  obtain ⟨rfl, rfl⟩ := hrest.eq_of_advance hadvance
  exact ⟨during, read, hlisting, hconcluded⟩

theorem runs_of_listing (hlisting : Call.Runs between engine (listing profile).run during read) :
    ∃ later result, Call.Runs between engine (contexts profile).run later result ∧
      Concluded during read later result := by
  obtain ⟨later, result, hadvance, hconcluded⟩ := advance_adoption hlisting
  exact ⟨later, result, hlisting.bind (.ended hadvance), hconcluded⟩

/-- Nothing that the receive loop hands on is about contexts, and whatever else happens leaves them
alone. -/
def Untouched (profile : Profile) : Engine → Engine → Prop :=
  Engine.Quietly profile
    (fun line => ∀ device : Device, (device.dispatch profile.table line).pdn = device.pdn)
    (fun before after => after.pdn = before.pdn)

theorem pdn_listing
    (hrun : Call.Runs (Untouched profile) engine (listing profile).run during read) :
    during.device.pdn = engine.device.pdn := by
  have hrefl (device : Device) : device.pdn = device.pdn := rfl
  have htrans {first second third : Device} (hfirst : second.pdn = first.pdn)
      (hnext : third.pdn = second.pdn) : third.pdn = first.pdn := hnext.trans hfirst
  refine hrun.device (R := fun before after => after.pdn = before.pdn) hrefl htrans ?_
    (Request.run_guarded hrefl _ _ _ _)
  exact Engine.Quietly.device hrefl htrans fun line hquiet => hquiet

/-- What has come of a query for the contexts. -/
inductive Ended (engine later : Engine) : Except Error (List Pdn.Status) → Prop
  /-- It failed, and the contexts are as before. -/
  | kept (failure : Error) (h : later.device.pdn = engine.device.pdn) :
      Ended engine later (.error failure)
  /-- The response lists contexts, and what it reports is shown and has become so. -/
  | adopted {statuses : List Pdn.Status} {entries : List (Nat × Nat)}
      (hlists : Lists Limits.contexts (contextLines later.exchange.response) entries)
      (hshown : statuses.map Pdn.Status.shown = reported entries)
      (hadopts : Table.Adopts (reported entries) engine.device.pdn later.device.pdn) :
      Ended engine later (.ok statuses)

theorem ended_of_concluded
    (hlisting : Call.Runs (Untouched profile) engine (listing profile).run during read)
    (h : Concluded during read later result) : Ended engine later result := by
  have hsame := pdn_listing hlisting
  cases h with
  | failed failure => exact .kept failure hsame
  | @adopted reports statuses hshown =>
      -- nobody touched the contexts while the query waited, so they are adopted from where it began
      have hread := listing_read hlisting
      obtain ⟨entries, hlists, rfl⟩ := readContexts_eq_ok_iff.mp hread
      refine .adopted hlists hshown ?_
      rw [← hsame]
      exact Table.adopts_adopt (valid_of_readContexts hread) during.device.pdn

/-- If nobody else works on the contexts meanwhile, a query that fails leaves them as they were, and
one that succeeds has read all lines about contexts and brought the contexts in line with them.  The
query ends when its command ends, and fails only if the command fails or its response does not list
contexts.  It can end if it finds the lock free. -/
theorem contexts_adopts (profile : Profile) (engine : Engine) :
    (∀ later result,
      Call.Runs (Untouched profile) engine (contexts profile).run later result →
        Ended engine later result) ∧
    (∀ between during read, Call.Runs between engine (listing profile).run during read →
      ∃ later result, Call.Runs between engine (contexts profile).run later result ∧
        Concluded during read later result) ∧
    (∀ response reports, readContexts response = .ok reports ↔
      ∃ entries, Lists Limits.contexts (contextLines response) entries ∧
        reports = reported entries) ∧
    (engine.locked = false → ∃ later result,
      Call.Runs (Untouched profile) engine (contexts profile).run later result) := by
  refine ⟨fun later result hrun => ?_, fun between during read => runs_of_listing,
    fun response reports => readContexts_eq_ok_iff, fun hfree => ?_⟩
  · obtain ⟨during, read, hlisting, hconcluded⟩ := concluded_of_runs hrun
    exact ended_of_concluded hlisting hconcluded
  · -- a free lock lets the command run, and what follows it does not fail
    have hrefl : ∀ engine, Untouched profile engine engine := fun _ => .refl
    obtain ⟨during, read, hlisting⟩ : ∃ during read,
        Call.Runs (Untouched profile) engine (listing profile).run during read :=
      Job.exists_run hrefl hfree (.run _ _ _ readContexts)
    obtain ⟨later, result, hrun, -⟩ := runs_of_listing hlisting
    exact ⟨later, result, hrun⟩

/-- A BG96 with the usual times. -/
def listedProfile : Profile := { config := {}, table := Bg96.tokenTable }

/-- An engine with an open link that knows of two active contexts, one of them with an address. -/
def listedEngine : Engine :=
  let opened := Engine.becomeOpen (.initial {})
  let first := (opened.device.pdn.setActive 2 (some (.v4 10 0 0 1))).1
  { opened with device := { opened.device with pdn := (first.setActive 3 none).1 } }

/-- The engine once the query is sent. -/
def listedRequest : Engine := contextsRequest.sent .none listedEngine

/-- The modem lists two contexts and one that does not exist, and reports data on a socket. -/
def listedAnswer : Bytes :=
  Text.toBytes ("\r\n+CGACT: 1,1\r\n+QIURC: \"recv\",4\r\n".toList ++
    "+CGACT: 2,0\r\n+CGACT: 17,1\r\n\r\nOK\r\n".toList)

/-- Of two listed contexts one comes up and the other goes down.  A third is not listed. -/
theorem contexts_adopts_answered : ∃ later statuses,
    Call.Runs (Untouched listedProfile) listedEngine (contexts listedProfile).run later
        (.ok statuses) ∧
      statuses.map Pdn.Status.shown = [(1, true), (2, false)] ∧
      (∃ context, later.device.pdn.get? 1 = some context ∧ context.activation = .active) ∧
      (∃ context, later.device.pdn.get? 2 = some context ∧ context.activation = .inactive ∧
        context.address = none) ∧
      later.device.pdn.get? 3 = listedEngine.device.pdn.get? 3 := by
  have hlines : listedRequest.dispatched listedProfile .empty listedAnswer =
      ["+QIURC: \"recv\",4".toList] := by decide +kernel
  -- the unsolicited line in the answer is about a socket
  have huntouched : Untouched listedProfile listedRequest
      (listedRequest.receive listedProfile .empty listedAnswer).1 := by
    refine .single (.received listedRequest .empty listedAnswer fun line hmem => ?_)
    rw [hlines, List.mem_singleton] at hmem
    subst hmem
    exact Bg96.pdn_dispatch (by decide +kernel)
  have houtcome : (listedRequest.receive listedProfile .empty listedAnswer).1.exchange.outcome =
      some (.ok .success) := by decide +kernel
  have hread : readContexts
      (listedRequest.receive listedProfile .empty listedAnswer).1.exchange.response =
        .ok [(1, true), (2, false)] := by decide +kernel
  have hlisting : ∃ during, Call.Runs (Untouched listedProfile) listedEngine
      (listing listedProfile).run during (.ok [(1, true), (2, false)]) := by
    rw [← hread]
    exact ⟨_, Request.runs_succeeded (fun _ => .refl) rfl rfl rfl rfl huntouched houtcome⟩
  obtain ⟨during, hduring⟩ := hlisting
  obtain ⟨hended, hruns, -⟩ := contexts_adopts listedProfile listedEngine
  obtain ⟨later, result, hrun, hconcluded⟩ := hruns _ during _ hduring
  cases hconcluded with
  | @adopted _ statuses hshown =>
      cases hended _ _ hrun with
      | @adopted _ entries hlists hreported hadopts =>
          rw [← hreported, hshown] at hadopts
          obtain ⟨first, hfirst, hactive, -⟩ := hadopts.reported 1 true rfl
          obtain ⟨second, hsecond, hinactive, haddress⟩ := hadopts.reported 2 false rfl
          exact ⟨_, statuses, hrun, hshown, ⟨first, hfirst, hactive⟩,
            ⟨second, hsecond, hinactive, haddress rfl⟩, hadopts.unreported 3 rfl⟩

end Query

end ModemLink
