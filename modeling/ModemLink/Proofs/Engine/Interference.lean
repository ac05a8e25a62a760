import ModemLink.Bg96.Tokens
import ModemLink.Proofs.Engine.Handling
import ModemLink.Proofs.Engine.History

/-!
# Unsolicited lines beside a request

While a request waits for its answer, the modem may send lines that nobody asked for.  `handleLine`
tells the two apart by looking at the request in flight, so the same line may be part of an answer
now and unsolicited a moment later, when the answer is complete.

* `LineRole.of_ne_solicited_iff`: which of the lines in the form of unsolicited ones are told apart.
* `exchange_handleLines` and `handed_interleaved`: lines that are told apart leave the request as it
  is, and the request leaves them to the dispatcher.
* `device_handleLines`: what the device becomes is a matter of the dispatched lines alone.
* `inFlight_handleLines_of_long`: a line that is not told apart ends the request.

`undisturbed_iff` puts them together: unsolicited lines and the request leave each other alone for
every answer and every order if and only if no line in prefix form is longer than a line may be, or
the request takes only lines that show its label.
-/

namespace ModemLink

/-- The third list consists of the first two, each in its order. -/
inductive Interleaved {α : Type} : List α → List α → List α → Prop
  | nil : Interleaved [] [] []
  | left {x : α} {xs ys zs : List α} (rest : Interleaved xs ys zs) :
      Interleaved (x :: xs) ys (x :: zs)
  | right {y : α} {xs ys zs : List α} (rest : Interleaved xs ys zs) :
      Interleaved xs (y :: ys) (y :: zs)

theorem Interleaved.nil_right {α : Type} (xs : List α) : Interleaved xs [] xs := by
  induction xs with
  | nil => exact .nil
  | cons x xs ih => exact .left ih

/-! ## The role of a line -/

/-- The lines that the modem sends unasked, seen from a request: those that the table lists, and
lines in prefix form that do not begin with the label of the request. -/
def InFlight.IsUrc {Handler : Type} (inFlight : InFlight) (table : TokenTable Handler)
    (line : Text) : Prop :=
  table.isBareUrc line = true ∨
    line.isPrefixed = true ∧ ∀ label, inFlight.label = some label → line.beginsWith label = false

/-- Whether lines in no prefix form belong to the answer. -/
def InFlight.takesUnlabelled (inFlight : InFlight) : Bool :=
  inFlight.kind ≠ .noCommand && (inFlight.label.isNone || inFlight.kind.allowsUnlabelledLines)

namespace LineRole

variable {Handler : Type} {table : TokenTable Handler} {inFlight : InFlight} {line : Text}

theorem labels_eq_false (h : ∀ label, inFlight.label = some label → line.beginsWith label = false) :
    inFlight.labels line = false := by
  unfold InFlight.labels
  cases hlabel : inFlight.label with
  | none => rfl
  | some label =>
      simp only [Text.startsWith, Text.guarded, h label hlabel]
      -- a label that cannot be checked against the line counts as not found
      split
      next hok =>
        split at hok
        · split at hok <;> cases hok
          rfl
        · cases hok
      · rfl

theorem hasPrefixForm_iff (h : line.isPrefixed = true) :
    line.hasPrefixForm = true ↔ line.size ≤ Limits.line := by
  have hne : line ≠ [] := by
    rintro rfl
    cases h
  simp [Text.hasPrefixForm, Text.Bounded, h, hne]

/-- A line that the modem sends unasked is told apart from an answer unless it is too long to be
recognised and the request takes lines without label. -/
theorem of_ne_solicited_iff (h : inFlight.IsUrc table line) :
    LineRole.of table (some inFlight) line ≠ .solicited ↔
      table.isBareUrc line = true ∨ line.size ≤ Limits.line ∨ inFlight.takesUnlabelled = false := by
  by_cases hbare : table.isBareUrc line = true
  · simp [LineRole.of, hbare]
  obtain ⟨hform, hlabel⟩ := h.resolve_left hbare
  have hlabels := labels_eq_false hlabel
  -- the prefix of a long line is not seen, so that such a line is treated like one without prefix
  by_cases hsize : line.size ≤ Limits.line
  · have hprefix := (hasPrefixForm_iff hform).mpr hsize
    simp [LineRole.of, hbare, hprefix, hlabels, hsize]
  · have hprefix : line.hasPrefixForm = false :=
      Bool.eq_false_iff.mpr fun hp => hsize ((hasPrefixForm_iff hform).mp hp)
    have htakes : inFlight.takesUnlabelled = true ↔
        inFlight.kind ≠ .noCommand ∧
          (inFlight.label = none ∨ inFlight.kind.allowsUnlabelledLines = true) := by
      simp [InFlight.takesUnlabelled]
    simp only [LineRole.of, hbare, hprefix, hsize, ← htakes]
    cases inFlight.takesUnlabelled <;> simp

end LineRole

/-! ## One line -/

namespace Engine

variable {table : TokenTable UrcHandler} {engine : Engine} {inFlight : InFlight} {line : Text}

/-- What a request becomes depends on nothing but the request. -/
theorem exchange_handleLine_congr {first second : Engine} (h : first.exchange = second.exchange)
    (table : TokenTable UrcHandler) (line : Text) :
    (first.handleLine table line).exchange = (second.handleLine table line).exchange := by
  rcases handleLine_cases table first line with hrole | ⟨inFlight, hflight, hrole⟩
  · rw [handleLine_of_ne_solicited hrole, handleLine_of_ne_solicited (h ▸ hrole)]
    exact h
  · rw [handleLine_of_solicited hflight hrole, handleLine_of_solicited (h ▸ hflight) hrole, h]

theorem feed_of_long (exchange : Exchange) (hlong : Limits.line < line.size) :
    (exchange.feed table inFlight line) =
      ({ exchange with response := { exchange.response with status := .error } } :
        Exchange).complete (.ok .error) := by
  have hbounded : ¬ line.Bounded := fun hb => Nat.not_le.mpr hlong hb.2
  -- a line beyond the limit is not even compared with a result code, and it finds no room
  have hmatches : ∀ tokens, TokenTable.matchesAny line tokens = false := fun tokens => by
    simp [TokenTable.matchesAny, Text.startsWithAny, Text.guarded, hbounded]
  have hsuccess : table.isSuccess inFlight.successTokens line = false := by
    simp [TokenTable.isSuccess, hmatches]
  have herror : table.isError line = false := hmatches _
  have hpush : exchange.response.pushLine? line = none :=
    if_neg fun hfits => Nat.not_le.mpr hlong hfits.1
  have hfeed : exchange.response.feed table inFlight line = exchange.response.finish .error := by
    rw [Response.feed, hsuccess, herror, if_neg Bool.false_ne_true, if_neg Bool.false_ne_true,
      Response.feedIntermediate, hpush]
    split <;> rfl
  unfold Exchange.feed
  rw [hfeed]
  rfl

/-! ## Many lines -/

/-- Handle lines one after the other. -/
def handleLines (table : TokenTable UrcHandler) (engine : Engine) (lines : List Text) : Engine :=
  lines.foldl (fun engine line => engine.handleLine table line) engine

/-- The lines that go to the dispatcher, in order. -/
def handed (table : TokenTable UrcHandler) : Engine → List Text → List Text
  | _, [] => []
  | engine, line :: lines =>
      if LineRole.of table engine.exchange.inFlight line = .solicited then
        handed table (engine.handleLine table line) lines
      else line :: handed table (engine.handleLine table line) lines

@[simp] theorem handleLines_nil (table : TokenTable UrcHandler) (engine : Engine) :
    engine.handleLines table [] = engine := rfl

@[simp] theorem handleLines_cons (table : TokenTable UrcHandler) (engine : Engine) (line : Text)
    (lines : List Text) :
    engine.handleLines table (line :: lines) =
      (engine.handleLine table line).handleLines table lines := rfl

theorem handed_cons_of_ne_solicited (lines : List Text)
    (h : LineRole.of table engine.exchange.inFlight line ≠ .solicited) :
    engine.handed table (line :: lines) =
      line :: (engine.handleLine table line).handed table lines := if_neg h

theorem handed_cons_of_solicited (lines : List Text)
    (h : LineRole.of table engine.exchange.inFlight line = .solicited) :
    engine.handed table (line :: lines) = (engine.handleLine table line).handed table lines :=
  if_pos h

/-- No line is handed over that did not come, and the order is kept. -/
theorem handed_sublist (table : TokenTable UrcHandler) (engine : Engine) (lines : List Text) :
    (engine.handed table lines).Sublist lines := by
  induction lines generalizing engine with
  | nil => exact List.Sublist.slnil
  | cons line lines ih =>
      unfold handed
      split
      · exact (ih _).cons _
      · exact (ih _).cons_cons _

/-- What the device becomes is a matter of the dispatched lines alone. -/
theorem device_handleLines (table : TokenTable UrcHandler) (engine : Engine) (lines : List Text) :
    (engine.handleLines table lines).device =
      (engine.handed table lines).foldl (Device.dispatch table) engine.device := by
  induction lines generalizing engine with
  | nil => rfl
  | cons line lines ih =>
      rw [handleLines_cons, ih]
      rcases handleLine_cases table engine line with hrole | ⟨inFlight, hflight, hrole⟩
      · rw [handed_cons_of_ne_solicited lines hrole, List.foldl_cons,
          handleLine_of_ne_solicited hrole]
      · rw [handed_cons_of_solicited lines (hflight ▸ hrole),
          handleLine_of_solicited hflight hrole]

/-- Without a request every line is dispatched. -/
theorem handed_of_idle (lines : List Text) (h : engine.exchange.inFlight = none) :
    engine.handed table lines = lines := by
  induction lines generalizing engine with
  | nil => rfl
  | cons line lines ih =>
      have hrole : LineRole.of table engine.exchange.inFlight line ≠ .solicited :=
        h ▸ LineRole.of_none_ne_solicited table line
      rw [handed_cons_of_ne_solicited lines hrole, handleLine_of_ne_solicited hrole, ih]
      exact h

theorem inFlight_handleLines_of_idle (lines : List Text) (h : engine.exchange.inFlight = none) :
    (engine.handleLines table lines).exchange.inFlight = none := by
  induction lines generalizing engine with
  | nil => exact h
  | cons line lines ih =>
      refine ih ?_
      rcases inFlight_handleLine table engine line with hnone | hsame
      · exact hnone
      · exact hsame.trans h

/-! ## Two runs -/

/-- The lines are told apart from the answer to whatever request is in flight. -/
def ToldApart (table : TokenTable UrcHandler) (engine : Engine) (urcs : List Text) : Prop :=
  ∀ line ∈ urcs, LineRole.of table engine.exchange.inFlight line ≠ .solicited

/-- Lines are told apart until the request ends, and from then on as well. -/
theorem ToldApart.handleLine {urcs : List Text} (h : ToldApart table engine urcs) (line : Text) :
    ToldApart table (engine.handleLine table line) urcs := by
  intro urc hurc
  rcases inFlight_handleLine table engine line with hflight | hflight
  · rw [hflight]
    exact LineRole.of_none_ne_solicited table urc
  · rw [hflight]
    exact h urc hurc

theorem ToldApart.tail {urc : Text} {urcs : List Text} (h : ToldApart table engine (urc :: urcs)) :
    ToldApart table engine urcs := fun line hline => h line (List.mem_cons_of_mem _ hline)

/-- Two engines with the same request, one of which also gets lines that are told apart.  Their
requests stay the same. -/
theorem exchange_handleLines {first second : Engine} {urcs lines merged : List Text}
    (h : Interleaved urcs lines merged) (hsame : first.exchange = second.exchange)
    (hapart : ToldApart table first urcs) :
    (first.handleLines table merged).exchange = (second.handleLines table lines).exchange := by
  -- on the merge; that the rest is told apart survives each line, also one that ends the request
  induction h generalizing first second with
  | nil => exact hsame
  | left _ ih =>
      refine ih ?_ (hapart.handleLine _).tail
      have hline := handleLine_of_ne_solicited (hapart _ List.mem_cons_self)
      exact (congrArg Engine.exchange hline).trans hsame
  | right _ ih => exact ih (exchange_handleLine_congr hsame table _) (hapart.handleLine _)

/-- The engine that also gets the lines that are told apart dispatches these in addition. -/
theorem handed_interleaved {first second : Engine} {urcs lines merged : List Text}
    (h : Interleaved urcs lines merged) (hsame : first.exchange = second.exchange)
    (hapart : ToldApart table first urcs) :
    Interleaved urcs (second.handed table lines) (first.handed table merged) := by
  induction h generalizing first second with
  | nil => exact .nil
  | left _ ih =>
      -- an unsolicited line goes to the dispatcher of the first engine only
      have hrole := hapart _ List.mem_cons_self
      rw [handed_cons_of_ne_solicited _ hrole]
      refine .left (ih ?_ (hapart.handleLine _).tail)
      rw [handleLine_of_ne_solicited hrole]
      exact hsame
  | @right line urcs lines merged _ ih =>
      -- a line of the request meets the same role in both engines
      have hnext := ih (exchange_handleLine_congr hsame table line) (hapart.handleLine line)
      by_cases hrole : LineRole.of table first.exchange.inFlight line = .solicited
      · rw [handed_cons_of_solicited _ hrole, handed_cons_of_solicited _ (hsame ▸ hrole)]
        exact hnext
      · rw [handed_cons_of_ne_solicited _ hrole, handed_cons_of_ne_solicited _ (hsame ▸ hrole)]
        exact .right hnext

/-- A line that is too long to be told apart ends the request that takes it. -/
theorem inFlight_handleLines_of_long {urcs : List Text}
    (hflight : engine.exchange.inFlight = some inFlight)
    (hlong : ∃ line ∈ urcs, LineRole.of table (some inFlight) line = .solicited ∧
      Limits.line < line.size) :
    (engine.handleLines table urcs).exchange.inFlight = none := by
  induction urcs generalizing engine with
  | nil =>
      obtain ⟨line, hmem, -⟩ := hlong
      cases hmem
  | cons urc urcs ih =>
      rw [handleLines_cons]
      rcases inFlight_handleLine table engine urc with hnone | hsame
      · exact inFlight_handleLines_of_idle urcs hnone
      obtain ⟨line, hmem, hrole, hsize⟩ := hlong
      rcases List.mem_cons.mp hmem with rfl | hmem
      · -- the long line itself: it is refused, which ends the request
        refine inFlight_handleLines_of_idle urcs ?_
        rw [handleLine_of_solicited hflight hrole, feed_of_long _ hsize]
        exact Exchange.inFlight_complete _ _
      · exact ih (hsame.trans hflight) ⟨line, hmem, hrole, hsize⟩

/-! ## Neither disturbs the other -/

/-- A request that gets its lines with unsolicited lines in between stands as if it had got its own
lines only.  The dispatcher gets the unsolicited lines and what the request alone hands over, and
the device is what it makes of them without a request. -/
structure Undisturbed (table : TokenTable UrcHandler) (engine : Engine)
    (urcs lines merged : List Text) : Prop where
  exchange_eq : (engine.handleLines table merged).exchange =
    (engine.handleLines table lines).exchange
  handed_eq : Interleaved urcs (engine.handed table lines) (engine.handed table merged)
  order : (engine.handed table merged).Sublist merged
  device_eq : (engine.handleLines table merged).device =
    ({ engine with exchange := .idle }.handleLines table (engine.handed table merged)).device

theorem undisturbed_of_toldApart {urcs lines merged : List Text}
    (h : Interleaved urcs lines merged) (hapart : ToldApart table engine urcs) :
    Undisturbed table engine urcs lines merged where
  exchange_eq := exchange_handleLines h rfl hapart
  handed_eq := handed_interleaved h rfl hapart
  order := handed_sublist table engine merged
  device_eq := by
    have hidle : ({ engine with exchange := .idle } : Engine).exchange.inFlight = none := rfl
    rw [device_handleLines, device_handleLines, handed_of_idle _ hidle]

/-- Unsolicited lines and a request leave each other alone, whatever the lines of the request are and
in whatever order they all come, if and only if the table lists each of the unsolicited lines, or it
is no longer than a line may be, or the request takes no lines without label. -/
theorem undisturbed_iff {urcs : List Text} (hflight : engine.exchange.inFlight = some inFlight)
    (hurcs : ∀ line ∈ urcs, inFlight.IsUrc table line) :
    (∀ lines merged, Interleaved urcs lines merged →
        Undisturbed table engine urcs lines merged) ↔
      ∀ line ∈ urcs, table.isBareUrc line = true ∨ line.size ≤ Limits.line ∨
        inFlight.takesUnlabelled = false := by
  constructor
  · intro hall line hline
    by_cases hrole : LineRole.of table (some inFlight) line = .solicited
    · rcases Nat.lt_or_ge Limits.line line.size with hlong | hshort
      · -- with no other lines, the request would have to go on
        have hended := inFlight_handleLines_of_long hflight ⟨line, hline, hrole, hlong⟩
        rw [(hall [] urcs (Interleaved.nil_right urcs)).exchange_eq, handleLines_nil, hflight]
          at hended
        cases hended
      · exact .inr (.inl hshort)
    · exact (LineRole.of_ne_solicited_iff (hurcs line hline)).mp hrole
  · intro hshort lines merged h
    refine undisturbed_of_toldApart h fun line hline => ?_
    rw [hflight]
    exact (LineRole.of_ne_solicited_iff (hurcs line hline)).mpr (hshort line hline)

/-- An engine that waits for the answer to `plainCommand`. -/
def plainEngine : Engine :=
  { initial {} with exchange := Exchange.idle.start plainCommand }

theorem undisturbed_iff_data : (∀ line ∈ ["RDY".toList, "+QIURC: \"recv\",0".toList],
      plainCommand.IsUrc Bg96.tokenTable line) ∧
    ∀ lines merged, Interleaved ["RDY".toList, "+QIURC: \"recv\",0".toList] lines merged →
      Undisturbed Bg96.tokenTable plainEngine ["RDY".toList, "+QIURC: \"recv\",0".toList] lines
        merged := by
  have hurcs : ∀ line ∈ ["RDY".toList, "+QIURC: \"recv\",0".toList],
      plainCommand.IsUrc Bg96.tokenTable line := by
    intro line hline
    rcases List.mem_cons.mp hline with rfl | hline
    · exact .inl (by decide)
    · rw [List.mem_singleton.mp hline]
      exact .inr ⟨by decide, nofun⟩
  refine ⟨hurcs, (undisturbed_iff rfl hurcs).mpr fun line hline => ?_⟩
  rcases List.mem_cons.mp hline with rfl | hline
  · exact .inl (by decide)
  · rw [List.mem_singleton.mp hline]
    exact .inr (.inl (by decide))

/-- A line in prefix form of 257 bytes. -/
def longUrc : Text := "+NEWS: ".toList ++ List.replicate 250 'x'

/-- The line of 257 bytes is taken for the answer.  The command fails, although its result code is
`OK`, and the line is never dispatched. -/
theorem longUrc_disturbs :
    plainCommand.IsUrc Bg96.tokenTable longUrc ∧
      Interleaved [longUrc] ["OK".toList] [longUrc, "OK".toList] ∧
      (plainEngine.handleLines Bg96.tokenTable ["OK".toList]).exchange.outcome =
        some (.ok .success) ∧
      (plainEngine.handleLines Bg96.tokenTable [longUrc, "OK".toList]).exchange.outcome =
        some (.ok .error) ∧
      plainEngine.handed Bg96.tokenTable [longUrc, "OK".toList] = ["OK".toList] := by
  -- the line has the form of a report, but is too long for the form to be seen
  have hrole : LineRole.of Bg96.tokenTable (some plainCommand) longUrc = .solicited := by
    decide +kernel
  refine ⟨.inr ⟨by decide +kernel, nofun⟩, .left (.right .nil), rfl, ?_, ?_⟩
  · rw [handleLines_cons, handleLine_of_solicited rfl hrole, feed_of_long _ (by decide +kernel)]
    rfl
  · have hhanded : plainEngine.handed Bg96.tokenTable [longUrc, "OK".toList] =
        (plainEngine.handleLine Bg96.tokenTable longUrc).handed Bg96.tokenTable ["OK".toList] :=
      handed_cons_of_solicited _ hrole
    rw [hhanded, handleLine_of_solicited rfl hrole, feed_of_long _ (by decide +kernel)]
    rfl

end Engine

end ModemLink
