import Mathlib.Data.List.Induction
import ModemLink.Bg96.Tokens
import ModemLink.Proofs.Response.ResultCode

/-!
# What the lines of an answer amount to

`Response.feed` takes one line at a time.  `fed_feed` is its specification: a line is a final result
code, or it is stored, or it ends the answer because it is the whole of it or because the answer has
no place for it.

`Response.Ends` says which line is the last one of an answer, given the lines stored so far, and how
the answer ends with it.  By `feedAll_iff` processing the lines of an answer one after the other
comes to exactly that: the response is complete at the first line that is the last one, and until
then it stores every line.
-/

namespace ModemLink

namespace CommandKind

theorem isSingleLine_iff {kind : CommandKind} :
    kind.isSingleLine = true ↔ kind ∈ [oneLine, oneLabelled, oneLineOnly, oneLabelledOnly] := by
  cases kind <;> decide

theorem completesWithoutResultCode_iff {kind : CommandKind} :
    kind.completesWithoutResultCode = true ↔ kind ∈ [oneLineOnly, oneLabelledOnly] := by
  cases kind <;> decide

/-- An answer without final result code is a single line. -/
theorem isSingleLine_of_completesWithoutResultCode {kind : CommandKind}
    (h : kind.completesWithoutResultCode = true) : kind.isSingleLine = true := by
  cases kind <;> first | rfl | cases h

end CommandKind

namespace Response

variable {Handler : Type} {table : TokenTable Handler} {inFlight : InFlight} {response : Response}
  {line : Text} {status : ResponseStatus} {stored kept : List Text}

/-! ## One line -/

/-- A line is a final result code of a request with success tokens of its own. -/
def IsResultCode (table : TokenTable Handler) (inFlight : InFlight) (line : Text) : Prop :=
  table.isSuccess inFlight.successTokens line = true ∨ table.isError line = true

instance (table : TokenTable Handler) (inFlight : InFlight) (line : Text) :
    Decidable (IsResultCode table inFlight line) := inferInstanceAs (Decidable (_ ∨ _))

/-- An answer has a place for one line more. -/
def Takes (inFlight : InFlight) (stored : List Text) (line : Text) : Prop :=
  (inFlight.kind.isSingleLine = true → stored = []) ∧
    line.size ≤ Limits.line ∧ stored.length < Limits.responseLines

theorem not_takes_iff :
    ¬ Takes inFlight stored line ↔
      Limits.line < line.size ∨ Limits.responseLines ≤ stored.length ∨
        inFlight.kind.isSingleLine = true ∧ stored ≠ [] := by
  rw [Takes, Classical.not_and_iff_not_or_not, Classical.not_and_iff_not_or_not, Classical.not_imp,
    Nat.not_le, Nat.not_lt, or_comm, or_assoc]

theorem feed_of_isSuccess (h : table.isSuccess inFlight.successTokens line = true) :
    response.feed table inFlight line = response.finish (response.completion inFlight) := if_pos h

theorem feed_of_isError (hother : table.isSuccess inFlight.successTokens line = false)
    (h : table.isError line = true) :
    response.feed table inFlight line = response.finish .modemError := by
  rw [feed, hother, if_neg Bool.false_ne_true, if_pos h]

theorem feed_of_not_isResultCode (h : ¬ IsResultCode table inFlight line) :
    response.feed table inFlight line = feedIntermediate inFlight response line := by
  obtain ⟨hsuccess, herror⟩ := not_or.mp h
  rw [feed, if_neg hsuccess, if_neg herror]

theorem feed_of_not_takes (h : ¬ IsResultCode table inFlight line)
    (hroom : ¬ Takes inFlight response.lines line) :
    response.feed table inFlight line = response.finish .error := by
  rw [feed_of_not_isResultCode h]
  unfold feedIntermediate
  split
  · rfl
  next hfirst =>
    have hfull : ¬ (line.size ≤ Limits.line ∧ response.lines.length < Limits.responseLines) :=
      fun hfits => hroom ⟨fun hsingle => Classical.not_not.mp fun hne => hfirst ⟨hsingle, hne⟩,
        hfits⟩
    rw [pushLine?, if_neg hfull]

theorem feed_of_takes (h : ¬ IsResultCode table inFlight line)
    (hroom : Takes inFlight response.lines line) :
    response.feed table inFlight line =
      let longer := { response with lines := response.lines ++ [line] }
      if inFlight.kind.completesWithoutResultCode then
        longer.finish (longer.completion inFlight)
      else (longer, none) := by
  have hfirst : ¬ (inFlight.kind.isSingleLine ∧ response.lines ≠ []) := fun ⟨hsingle, hne⟩ =>
    hne (hroom.1 hsingle)
  rw [feed_of_not_isResultCode h, feedIntermediate, if_neg hfirst, pushLine?, if_pos hroom.2]

/-- What one line more makes of a response. -/
inductive Fed (table : TokenTable Handler) (inFlight : InFlight) (response : Response)
    (line : Text) : Response × Option ResponseStatus → Prop
  | success (hcode : table.isSuccess inFlight.successTokens line = true) :
      Fed table inFlight response line (response.finish (response.completion inFlight))
  | modemError (hcode : table.isError line = true) :
      Fed table inFlight response line (response.finish .modemError)
  | refused (hline : ¬ IsResultCode table inFlight line)
      (hroom : ¬ Takes inFlight response.lines line) :
      Fed table inFlight response line (response.finish .error)
  /-- The line is the whole answer. -/
  | whole (hline : ¬ IsResultCode table inFlight line) (hroom : Takes inFlight response.lines line)
      (hkind : inFlight.kind.completesWithoutResultCode = true) :
      Fed table inFlight response line
        (let longer := { response with lines := response.lines ++ [line] }
        longer.finish (longer.completion inFlight))
  | stored (hline : ¬ IsResultCode table inFlight line) (hroom : Takes inFlight response.lines line)
      (hkind : inFlight.kind.completesWithoutResultCode = false) :
      Fed table inFlight response line ({ response with lines := response.lines ++ [line] }, none)

theorem fed_feed (table : TokenTable Handler) (inFlight : InFlight) (response : Response)
    (line : Text) : Fed table inFlight response line (response.feed table inFlight line) := by
  by_cases hsuccess : table.isSuccess inFlight.successTokens line = true
  · rw [feed_of_isSuccess hsuccess]
    exact .success hsuccess
  by_cases herror : table.isError line = true
  · rw [feed_of_isError (Bool.eq_false_iff.mpr hsuccess) herror]
    exact .modemError herror
  have hline : ¬ IsResultCode table inFlight line := not_or.mpr ⟨hsuccess, herror⟩
  by_cases hroom : Takes inFlight response.lines line
  · rw [feed_of_takes hline hroom]
    cases hkind : inFlight.kind.completesWithoutResultCode with
    | true => exact .whole hline hroom hkind
    | false => exact .stored hline hroom hkind
  · rw [feed_of_not_takes hline hroom]
    exact .refused hline hroom

/-! ## Labels -/

/-- An answer shows the label, if the kind of the command asks for one. -/
def Shows (inFlight : InFlight) (lines : List Text) : Prop :=
  inFlight.kind.requiresLabel = true →
    ∃ label, inFlight.label = some label ∧ ∃ line ∈ lines, label <+: line

theorem hasLabel_iff {label : Option Text} :
    response.hasLabel label = true ↔
      ∃ text, label = some text ∧ ∃ line ∈ response.lines, text <+: line := by
  simp only [hasLabel, Option.any_eq_true, List.any_eq_true, Text.beginsWith_iff]

theorem completion_eq_success_iff :
    response.completion inFlight = .success ↔ Shows inFlight response.lines := by
  rw [Shows, ← hasLabel_iff]
  cases hkind : inFlight.kind.requiresLabel <;>
    cases hlabel : response.hasLabel inFlight.label <;> simp [completion, hkind, hlabel]

/-- How an answer counts that arrived completely. -/
inductive Completes (inFlight : InFlight) (lines : List Text) : ResponseStatus → Prop
  | success (h : Shows inFlight lines) : Completes inFlight lines .success
  | unknown (h : ¬ Shows inFlight lines) : Completes inFlight lines .unknown

theorem completes_completion (inFlight : InFlight) (response : Response) :
    Completes inFlight response.lines (response.completion inFlight) := by
  by_cases h : Shows inFlight response.lines
  · rw [completion_eq_success_iff.mpr h]
    exact .success h
  · have hunknown : response.completion inFlight = .unknown := by
      rw [← completion_eq_success_iff] at h
      unfold completion at *
      split
      · rfl
      next hlabel => exact absurd (if_neg hlabel) h
    rw [hunknown]
    exact .unknown h

theorem Completes.eq_completion (h : Completes inFlight response.lines status) :
    response.completion inFlight = status := by
  have hcompletion := completes_completion inFlight response
  generalize response.completion inFlight = other at hcompletion
  cases h <;> cases hcompletion <;> first | rfl | contradiction

/-! ## The last line -/

/-- A line that is no final result code. -/
def Intermediate (table : TokenTable Handler) (inFlight : InFlight) (line : Text) : Prop :=
  ¬ TokenTable.Opens (table.extraSuccesses ++ inFlight.successTokens ++ table.successes) line ∧
    ¬ TokenTable.Opens table.errors line

/-- After the stored lines, the line is the last one of the answer, which then has a status and the
kept lines. -/
inductive Ends (table : TokenTable Handler) (inFlight : InFlight) (stored : List Text)
    (line : Text) : ResponseStatus → List Text → Prop
  | modemError (hcode : TokenTable.Opens table.errors line) :
      Ends table inFlight stored line .modemError stored
  | success {status : ResponseStatus}
      (hcode : TokenTable.Opens
        (table.extraSuccesses ++ inFlight.successTokens ++ table.successes) line)
      (hstatus : Completes inFlight stored status) :
      Ends table inFlight stored line status stored
  | tooLong (hline : Intermediate table inFlight line) (hlong : Limits.line < line.size) :
      Ends table inFlight stored line .error stored
  | tooMany (hline : Intermediate table inFlight line)
      (hfull : Limits.responseLines ≤ stored.length) : Ends table inFlight stored line .error stored
  | second (hline : Intermediate table inFlight line)
      (hkind : inFlight.kind ∈
        [CommandKind.oneLine, .oneLabelled, .oneLineOnly, .oneLabelledOnly])
      (hlater : stored ≠ []) : Ends table inFlight stored line .error stored
  /-- The line is the whole answer. -/
  | whole {status : ResponseStatus} (hline : Intermediate table inFlight line)
      (hkind : inFlight.kind ∈ [CommandKind.oneLineOnly, .oneLabelledOnly])
      (hfirst : stored = []) (hsize : line.size ≤ Limits.line)
      (hstatus : Completes inFlight [line] status) : Ends table inFlight stored line status [line]

/-! ## Whole answers -/

/-- No line of an answer is the last one. -/
def Unfinished (table : TokenTable Handler) (inFlight : InFlight) (lines : List Text) : Prop :=
  ∀ before line after, lines = before ++ line :: after →
    ∀ status kept, ¬ Ends table inFlight before line status kept

/-- Process the lines of an answer one after the other, until it is complete. -/
def feedAll (table : TokenTable Handler) (inFlight : InFlight) :
    Response → List Text → Response × Option ResponseStatus
  | response, [] => (response, none)
  | response, line :: lines =>
      match response.feed table inFlight line with
      | (response, some status) => (response, some status)
      | (response, none) => feedAll table inFlight response lines

theorem unfinished_nil : Unfinished table inFlight [] := by
  intro before line after h
  simp at h

theorem unfinished_concat {lines : List Text} :
    Unfinished table inFlight (lines ++ [line]) ↔
      Unfinished table inFlight lines ∧
        ∀ status kept, ¬ Ends table inFlight lines line status kept := by
  constructor
  · refine fun h => ⟨?_, h lines line [] rfl⟩
    rintro before other after rfl
    exact h before other (after ++ [line]) (by simp)
  · rintro ⟨hbefore, hlast⟩ before other after h
    rcases after.eq_nil_or_concat with rfl | ⟨after, last, rfl⟩
    · obtain ⟨rfl, hcons⟩ := List.append_inj' h rfl
      cases hcons
      exact hlast
    · rw [List.concat_eq_append, ← List.cons_append, ← List.append_assoc] at h
      exact hbefore before other after (List.append_inj' h rfl).1

/-- There is a first line that is the last one, if there is any. -/
theorem unfinished_or_ends (lines : List Text) :
    Unfinished table inFlight lines ∨
      ∃ before line after status kept, lines = before ++ line :: after ∧
        Unfinished table inFlight before ∧ Ends table inFlight before line status kept := by
  induction lines using List.reverseRecOn with
  | nil => exact .inl unfinished_nil
  | append_singleton lines line ih =>
      rcases ih with hlines | ⟨before, other, after, status, kept, rfl, hbefore, hends⟩
      · by_cases hends : ∃ status kept, Ends table inFlight lines line status kept
        · obtain ⟨status, kept, hends⟩ := hends
          exact .inr ⟨lines, line, [], status, kept, rfl, hlines, hends⟩
        · simp only [not_exists] at hends
          exact .inl (unfinished_concat.mpr ⟨hlines, hends⟩)
      · exact .inr ⟨before, other, after ++ [line], status, kept, by simp, hbefore, hends⟩

theorem feedAll_append {before after : List Text} {later : Response}
    (h : feedAll table inFlight response before = (later, none)) :
    feedAll table inFlight response (before ++ after) = feedAll table inFlight later after := by
  induction before generalizing response with
  | nil =>
      cases h
      rfl
  | cons line before ih =>
      rw [List.cons_append, feedAll]
      rw [feedAll] at h
      cases hfeed : response.feed table inFlight line with
      | mk next status =>
          rw [hfeed] at h
          cases status with
          | some status => cases h
          | none => exact ih h

section

variable (hvalid : table.validate = .ok ())
  (htokens : table.checkSuccesses inFlight.successTokens = .ok ())

include hvalid htokens

theorem intermediate_iff :
    Intermediate table inFlight line ↔ ¬ IsResultCode table inFlight line := by
  rw [Intermediate, IsResultCode, not_or, TokenTable.isSuccess_iff hvalid htokens,
    TokenTable.isError_iff hvalid]

/-- The last line completes the response. -/
theorem feed_of_ends (h : Ends table inFlight response.lines line status kept) :
    response.feed table inFlight line =
      ({ response with status := status, lines := kept }, some status) := by
  have refused : Intermediate table inFlight line → ¬ Takes inFlight response.lines line →
      response.feed table inFlight line = response.finish .error := fun hline hroom =>
    feed_of_not_takes ((intermediate_iff hvalid htokens).mp hline) hroom
  cases h with
  | modemError hcode =>
      -- success tokens are looked up first, but no line opens with both in a valid table
      have herror := (TokenTable.isError_iff hvalid).mpr hcode
      refine feed_of_isError (Bool.eq_false_iff.mpr fun hsuccess => ?_) herror
      rw [TokenTable.isError_eq_false_of_isSuccess hvalid htokens hsuccess] at herror
      cases herror
  | success hcode hstatus =>
      rw [feed_of_isSuccess ((TokenTable.isSuccess_iff hvalid htokens).mpr hcode),
        hstatus.eq_completion]
      rfl
  | tooLong hline hlong => exact refused hline (not_takes_iff.mpr (.inl hlong))
  | tooMany hline hfull => exact refused hline (not_takes_iff.mpr (.inr (.inl hfull)))
  | second hline hkind hlater =>
      exact refused hline
        (not_takes_iff.mpr (.inr (.inr ⟨CommandKind.isSingleLine_iff.mpr hkind, hlater⟩)))
  | whole hline hkind hfirst hsize hstatus =>
      have hroom : Takes inFlight response.lines line := by
        rw [hfirst]
        exact ⟨fun _ => rfl, hsize, by decide⟩
      have hcompletion : ({ response with lines := [] ++ [line] } : Response).completion inFlight =
          status := hstatus.eq_completion
      rw [feed_of_takes ((intermediate_iff hvalid htokens).mp hline) hroom,
        if_pos (CommandKind.completesWithoutResultCode_iff.mpr hkind), hfirst, hcompletion]
      rfl

/-- A line is the last one, or it is stored. -/
theorem ends_or_stored (response : Response) (line : Text) :
    (∃ status kept, Ends table inFlight response.lines line status kept) ∨
      response.feed table inFlight line =
        ({ response with lines := response.lines ++ [line] }, none) := by
  have hfed := fed_feed table inFlight response line
  generalize response.feed table inFlight line = fed at hfed ⊢
  cases hfed with
  | success hcode =>
      exact .inl ⟨_, _, .success ((TokenTable.isSuccess_iff hvalid htokens).mp hcode)
        (completes_completion _ _)⟩
  | modemError hcode =>
      exact .inl ⟨_, _, .modemError ((TokenTable.isError_iff hvalid).mp hcode)⟩
  | refused hline hroom =>
      -- one case for each reason not to store a line
      have hline := (intermediate_iff hvalid htokens).mpr hline
      rcases not_takes_iff.mp hroom with hlong | hfull | ⟨hkind, hlater⟩
      · exact .inl ⟨_, _, .tooLong hline hlong⟩
      · exact .inl ⟨_, _, .tooMany hline hfull⟩
      · exact .inl ⟨_, _, .second hline (CommandKind.isSingleLine_iff.mp hkind) hlater⟩
  | whole hline hroom hkind =>
      exact .inl ⟨_, _, .whole ((intermediate_iff hvalid htokens).mpr hline)
        (CommandKind.completesWithoutResultCode_iff.mp hkind)
        (hroom.1 (CommandKind.isSingleLine_of_completesWithoutResultCode hkind)) hroom.2.1
        (completes_completion inFlight { response with lines := [line] })⟩
  | stored => exact .inr rfl

/-- Until the last line, a response stores every line. -/
theorem feedAll_of_unfinished {lines : List Text} (h : Unfinished table inFlight lines) :
    feedAll table inFlight .empty lines = ({ empty with lines := lines }, none) := by
  induction lines using List.reverseRecOn with
  | nil => rfl
  | append_singleton lines line ih =>
      obtain ⟨hlines, hlast⟩ := unfinished_concat.mp h
      rw [feedAll_append (ih hlines), feedAll]
      -- the lines before are stored, and the new one is no last line by assumption
      rcases ends_or_stored hvalid htokens { empty with lines := lines } line with
        ⟨status, kept, hends⟩ | hstored
      · exact absurd hends (hlast status kept)
      · rw [hstored]
        rfl

/-- With the last line, it is complete. -/
theorem feedAll_of_ends {before : List Text} (hbefore : Unfinished table inFlight before)
    (h : Ends table inFlight before line status kept) (after : List Text) :
    feedAll table inFlight .empty (before ++ line :: after) =
      ({ status := status, lines := kept, data := [] }, some status) := by
  have hfeed : ({ empty with lines := before } : Response).feed table inFlight line =
      ({ status := status, lines := kept, data := [] }, some status) :=
    feed_of_ends hvalid htokens h
  rw [feedAll_append (feedAll_of_unfinished hvalid htokens hbefore), feedAll, hfeed]

/-- Processing the lines of an answer completes the response exactly if some line is the last one,
and then with the status and the lines that `Ends` says; otherwise it stores them all. -/
theorem feedAll_iff (lines : List Text) :
    (∀ response status, feedAll table inFlight .empty lines = (response, some status) ↔
      ∃ before line after kept, lines = before ++ line :: after ∧
        Unfinished table inFlight before ∧ Ends table inFlight before line status kept ∧
        response = { status := status, lines := kept, data := [] }) ∧
    ∀ response, feedAll table inFlight .empty lines = (response, none) ↔
      Unfinished table inFlight lines ∧ response = { empty with lines := lines } := by
  -- the lines have a last one or not, and in both cases the result is known
  rcases unfinished_or_ends lines with
    hlines | ⟨before, line, after, status, kept, rfl, hbefore, hends⟩
  · have hall := feedAll_of_unfinished hvalid htokens hlines
    rw [hall]
    refine ⟨fun response status => iff_of_false nofun ?_, fun response => ?_⟩
    · rintro ⟨before, line, after, kept, rfl, -, hends, -⟩
      exact hlines before line after rfl status kept hends
    · rw [Prod.mk.injEq, eq_comm, and_iff_left rfl, and_iff_right hlines]
  · have hall := feedAll_of_ends hvalid htokens hbefore hends
    rw [hall]
    refine ⟨fun response status => ⟨?_, ?_⟩, fun response => iff_of_false nofun ?_⟩
    · intro h
      cases h
      exact ⟨before, line, after, kept, rfl, hbefore, hends, rfl⟩
    · -- any other way of cutting off a last line comes to the same result, since it is one
      rintro ⟨first, other, rest, others, heq, hfirst, hother, rfl⟩
      rw [← hall, heq]
      exact feedAll_of_ends hvalid htokens hfirst hother rest
    · rintro ⟨hnone, -⟩
      exact hnone before line after rfl status kept hends

end

/-- Signal quality as a BG96 reports it: one line that shows the label, and the result code. -/
theorem feedAll_iff_signalQuality :
    let inFlight : InFlight :=
      { kind := .oneLabelled, label := some "+CSQ", hooks := .none, successTokens := [] }
    let lines : List Text := ["+CSQ: 23,99", "OK", "+CSQ: 9,99"]
    let response : Response := { status := .success, lines := ["+CSQ: 23,99"], data := [] }
    feedAll Bg96.tokenTable inFlight .empty lines = (response, some .success) ∧
      ∃ before line after kept, lines = before ++ line :: after ∧
        Unfinished Bg96.tokenTable inFlight before ∧
        Ends Bg96.tokenTable inFlight before line .success kept ∧
        response = { status := .success, lines := kept, data := [] } :=
  ⟨by decide +kernel, ((feedAll_iff rfl rfl _).1 _ _).mp (by decide +kernel)⟩

end Response

end ModemLink
