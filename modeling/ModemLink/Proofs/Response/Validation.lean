import ModemLink.Bg96.Tokens
import ModemLink.Proofs.Response.ResultCode
import ModemLink.Proofs.Text.Order

/-!
# What validation decides

`TokenTable.Valid` says what a token table has to be, as one statement on all of its tokens, and
`TokenTable.validate` accepts exactly these tables (`validate_eq_ok_iff`), though it compares each
handler token with its neighbour only.  It compares tokens with tokens, while a response compares
them with lines: that two tokens are told apart means that no line begins with both
(`apart_iff_forall_line`).  So the token lists of an accepted table may be tried in any order
(`feedTrying_of_perm`).
-/

namespace ModemLink

variable {Handler : Type} {table : TokenTable Handler}

namespace TokenTable

/-! ## Texts that are told apart -/

/-- Neither of two texts begins with the other. -/
def Apart (s t : Text) : Prop := ¬ s <+: t ∧ ¬ t <+: s

theorem overlap_eq_false_iff {s t : Text} : overlap s t = false ↔ Apart s t := by
  rw [Bool.eq_false_iff, overlap, Ne, Bool.or_eq_true, not_or, Text.beginsWith_iff,
    Text.beginsWith_iff, Apart, and_comm]

/-- Texts are told apart if no line begins with both. -/
theorem apart_iff_forall_line {s t : Text} :
    Apart s t ↔ ∀ line : Text, ¬ (s <+: line ∧ t <+: line) := by
  constructor
  · rintro ⟨hst, hts⟩ line ⟨hs, ht⟩
    -- of two texts that begin a line, one begins the other
    have hone := List.prefix_or_prefix_of_prefix hs ht
    exact hone.elim hst hts
  · intro h
    exact ⟨fun hst => h t ⟨hst, List.prefix_rfl⟩, fun hts => h s ⟨List.prefix_rfl, hts⟩⟩

/-! ## Handlers in order -/

/-- Neighbours in order make every two texts ordered. -/
theorem isAscending_iff_pairwise {texts : List Text} :
    isAscending texts = true ↔ texts.Pairwise (· < ·) := by
  rw [← List.isChain_iff_pairwise]
  induction texts using isAscending.induct with
  | case1 first second rest ih =>
      rw [isAscending, Bool.and_eq_true, List.isChain_cons_cons, ih, Text.precedes,
        decide_eq_true_eq]
  | case2 texts hshort =>
      match texts, hshort with
      | [], _ => simp [isAscending]
      | [text], _ => simp [isAscending]
      | first :: second :: rest, hshort => exact absurd rfl (hshort first second rest)

/-- The handlers are in order if each two of them are, by the bytes of their tokens. -/
theorem isAscending_urcs_iff :
    isAscending (table.urcs.toList.map UrcEntry.token) = true ↔
      ∀ (i j : Nat) (_ : i < j) (_ : j < table.urcs.size),
        table.urcs[i].token.toBytes < table.urcs[j].token.toBytes := by
  simp only [isAscending_iff_pairwise, Text.toBytes_lt_toBytes_iff, List.pairwise_iff_getElem,
    List.getElem_map, List.length_map, Array.length_toList, Array.getElem_toList]
  exact ⟨fun h i j hij hj => h i j (Nat.lt_trans hij hj) hj hij, fun h i j _ hj hij => h i j hij hj⟩

/-! ## Accepted tables -/

/-- What an engine relies on. -/
structure Valid (table : TokenTable Handler) : Prop where
  successes_ne_nil : table.successes ≠ []
  errors_ne_nil : table.errors ≠ []
  token_ne_nil : ∀ tokens ∈ [table.errors, table.successes, table.extraSuccesses, table.bareUrcs,
    table.urcs.toList.map UrcEntry.token], ∀ token ∈ tokens, token ≠ []
  ascending : ∀ (i j : Nat) (_ : i < j) (_ : j < table.urcs.size),
    table.urcs[i].token.toBytes < table.urcs[j].token.toBytes
  apart : ∀ success ∈ table.successes ++ table.extraSuccesses, ∀ error ∈ table.errors,
    Apart success error

theorem any_tokens_eq_nil_iff :
    table.tokens.any (· = []) = true ↔
      ¬ ∀ tokens ∈ [table.errors, table.successes, table.extraSuccesses, table.bareUrcs,
        table.urcs.toList.map UrcEntry.token], ∀ token ∈ tokens, token ≠ [] := by
  have htokens : table.tokens = [table.errors, table.successes, table.extraSuccesses,
      table.bareUrcs, table.urcs.toList.map UrcEntry.token].flatten := by
    simp only [tokens, List.flatten_cons, List.flatten_nil, List.append_assoc, List.append_nil]
  simp only [htokens, List.any_eq_true, List.mem_flatten, decide_eq_true_eq, not_forall, not_not,
    exists_prop]
  constructor
  · rintro ⟨token, ⟨tokens, htokens, hmem⟩, hnil⟩
    exact ⟨tokens, htokens, token, hmem, hnil⟩
  · rintro ⟨tokens, htokens, token, hmem, hnil⟩
    exact ⟨token, ⟨tokens, htokens, hmem⟩, hnil⟩

/-- Success tokens are accepted or refused, and refused as bad parameters. -/
theorem checkSuccesses_eq_error {successes : List Text}
    (h : table.checkSuccesses successes ≠ .ok ()) :
    table.checkSuccesses successes = .error .badParameter := by
  unfold checkSuccesses at h ⊢
  split at h
  · exact absurd rfl h
  · rw [if_neg ‹_›]

/-- Success tokens are accepted if none is empty and each is told apart from all error tokens. -/
theorem checkSuccesses_eq_ok_iff {successes : List Text} :
    table.checkSuccesses successes = .ok () ↔
      (∀ success ∈ successes, success ≠ []) ∧
        ∀ success ∈ successes, ∀ error ∈ table.errors, Apart success error := by
  rw [checkSuccesses_eq_ok, ← forall₂_and]
  simp only [overlap_eq_false_iff]

/-- The last two checks of a table, as one. -/
theorem checkSuccesses_append {first second : List Text} :
    (do table.checkSuccesses first; table.checkSuccesses second : Except Error Unit) =
      table.checkSuccesses (first ++ second) := by
  unfold checkSuccesses
  rw [List.all_append]
  -- if the first list is refused, the second one is not looked at
  cases hfirst : first.all fun success =>
    decide (success ≠ []) && !table.errors.any (overlap success) <;> rfl

theorem validate_eq :
    table.validate =
      if table.successes = [] ∨ table.errors = [] ∨ table.tokens.any (· = []) = true
          ∨ isAscending (table.urcs.toList.map UrcEntry.token) = false then
        .error .badParameter
      else table.checkSuccesses (table.successes ++ table.extraSuccesses) := by
  rw [← checkSuccesses_append, validate]
  -- the checks in the order in which they are made; the first that fails decides
  by_cases hempty : table.successes = [] ∨ table.errors = []
  · rw [if_pos hempty, if_pos (by tauto)]
  rw [if_neg hempty]
  by_cases hnil : table.tokens.any (· = []) = true
  · rw [if_pos hnil, if_pos (by tauto)]
  rw [if_neg hnil]
  by_cases hascending : isAscending (table.urcs.toList.map UrcEntry.token) = true
  · rw [hascending, if_neg (by decide), if_neg]
    rintro (h | h | h | h)
    · exact hempty (.inl h)
    · exact hempty (.inr h)
    · exact hnil h
    · cases h
  · rw [Bool.not_eq_true] at hascending
    rw [hascending, if_pos (by decide), if_pos (by tauto)]

/-- A table is accepted or refused, and refused as a bad parameter. -/
theorem validate_eq_error (h : table.validate ≠ .ok ()) :
    table.validate = .error .badParameter := by
  rw [validate_eq] at h ⊢
  split at h
  · rw [if_pos ‹_›]
  · rw [if_neg ‹_›]
    exact checkSuccesses_eq_error h

/-- Validation accepts exactly the valid tables. -/
theorem validate_eq_ok_iff : table.validate = .ok () ↔ table.Valid := by
  rw [validate_eq]
  split
  next hbad =>
    -- whichever check failed contradicts the field of `Valid` of the same name
    refine iff_of_false nofun fun hvalid => ?_
    rcases hbad with h | h | h | h
    · exact hvalid.successes_ne_nil h
    · exact hvalid.errors_ne_nil h
    · exact any_tokens_eq_nil_iff.mp h hvalid.token_ne_nil
    · rw [isAscending_urcs_iff.mpr hvalid.ascending] at h
      cases h
  next hgood =>
    -- every check is one of the fields, except that empty success tokens are looked for twice
    simp only [not_or, Bool.not_eq_false] at hgood
    obtain ⟨hsuccesses, herrors, htokens, hascending⟩ := hgood
    rw [any_tokens_eq_nil_iff, not_not] at htokens
    rw [checkSuccesses_eq_ok_iff]
    refine ⟨fun h => ⟨hsuccesses, herrors, htokens, isAscending_urcs_iff.mp hascending, h.2⟩,
      fun hvalid => ⟨?_, hvalid.apart⟩⟩
    exact List.forall_mem_append.mpr ⟨htokens table.successes (by simp),
      htokens table.extraSuccesses (by simp)⟩

/-! ## Lines that begin with a success and an error token -/

section Rejected

variable {success error line : Text} (herror : error ∈ table.errors) (hbegins : success <+: line)
  (hother : error <+: line)

include hbegins hother

theorem not_apart_of_begins : ¬ Apart success error := fun h =>
  apart_iff_forall_line.mp h line ⟨hbegins, hother⟩

include herror

/-- Such tokens of a table make it be refused. -/
theorem validate_eq_error_of_begins (h : success ∈ table.successes ++ table.extraSuccesses) :
    table.validate = .error .badParameter := by
  refine validate_eq_error fun hok => not_apart_of_begins hbegins hother ?_
  exact (validate_eq_ok_iff.mp hok).apart success h error herror

/-- Such a token of a request makes its list be refused. -/
theorem checkSuccesses_eq_error_of_begins {successes : List Text} (h : success ∈ successes) :
    table.checkSuccesses successes = .error .badParameter := by
  refine checkSuccesses_eq_error fun hok => not_apart_of_begins hbegins hother ?_
  exact (checkSuccesses_eq_ok_iff.mp hok).2 success h error herror

end Rejected

end TokenTable

/-! ## The order of the tests -/

namespace Response

variable {inFlight : InFlight} {response : Response} {line : Text}

/-- The token lists that end a response, in the order in which they are tried, and the status that
each of them ends it with. -/
def endings (table : TokenTable Handler) (inFlight : InFlight) (response : Response) :
    List (List Text × ResponseStatus) :=
  [(table.extraSuccesses, response.completion inFlight),
    (inFlight.successTokens, response.completion inFlight),
    (table.successes, response.completion inFlight),
    (table.errors, .modemError)]

/-- Process one line of the answer, with the lists of tokens tried in the order given. -/
def feedTrying (endings : List (List Text × ResponseStatus)) (inFlight : InFlight)
    (response : Response) (line : Text) : Response × Option ResponseStatus :=
  match endings.find? fun ending => TokenTable.matchesAny line ending.1 with
  | some ending => response.finish ending.2
  | none => feedIntermediate inFlight response line

theorem feed_eq_feedTrying :
    feed table inFlight response line =
      feedTrying (endings table inFlight response) inFlight response line := by
  unfold feed feedTrying endings TokenTable.isSuccess TokenTable.isError
  -- along the order of the tests: the first list that matches is the one that is found
  by_cases hextra : TokenTable.matchesAny line table.extraSuccesses = true
  · simp [hextra]
  by_cases hrequest : TokenTable.matchesAny line inFlight.successTokens = true
  · simp [hextra, hrequest]
  by_cases hplain : TokenTable.matchesAny line table.successes = true
  · simp [hextra, hrequest, hplain]
  by_cases herror : TokenTable.matchesAny line table.errors = true
  · simp [hextra, hrequest, hplain, herror]
  · simp [hextra, hrequest, hplain, herror]

/-- A list that a line matches is one of successes, and tells the completion, or that of errors. -/
theorem mem_endings {ending : List Text × ResponseStatus}
    (hmem : ending ∈ endings table inFlight response)
    (hmatch : TokenTable.matchesAny line ending.1 = true) :
    (ending.2 = response.completion inFlight ∧ table.isSuccess inFlight.successTokens line = true) ∨
      (ending.2 = .modemError ∧ table.isError line = true) := by
  simp only [endings, List.mem_cons, List.not_mem_nil, or_false] at hmem
  rcases hmem with rfl | rfl | rfl | rfl
  · exact .inl ⟨rfl, by simp [TokenTable.isSuccess, hmatch]⟩
  · exact .inl ⟨rfl, by simp [TokenTable.isSuccess, hmatch]⟩
  · exact .inl ⟨rfl, by simp [TokenTable.isSuccess, hmatch]⟩
  · exact .inr ⟨rfl, hmatch⟩

/-- All lists that a line matches tell the same status. -/
theorem status_unique (hvalid : table.validate = .ok ())
    (htokens : table.checkSuccesses inFlight.successTokens = .ok ())
    {first second : List Text × ResponseStatus}
    (hfirst : first ∈ endings table inFlight response)
    (hsecond : second ∈ endings table inFlight response)
    (hmatch : TokenTable.matchesAny line first.1 = true)
    (hmatch' : TokenTable.matchesAny line second.1 = true) : first.2 = second.2 := by
  -- in an accepted table no line is a success and an error
  have hnot : table.isSuccess inFlight.successTokens line = true → table.isError line ≠ true :=
    fun h => by
      rw [TokenTable.isError_eq_false_of_isSuccess hvalid htokens h]
      exact Bool.false_ne_true
  rcases mem_endings hfirst hmatch with ⟨h, hsuccess⟩ | ⟨h, herror⟩ <;>
  rcases mem_endings hsecond hmatch' with ⟨h', hsuccess'⟩ | ⟨h', herror'⟩
  · rw [h, h']
  · exact absurd herror' (hnot hsuccess)
  · exact absurd herror (hnot hsuccess')
  · rw [h, h']

/-- With an accepted table and accepted tokens of the request, the order does not matter. -/
theorem feedTrying_of_perm (hvalid : table.validate = .ok ())
    (htokens : table.checkSuccesses inFlight.successTokens = .ok ())
    {order : List (List Text × ResponseStatus)}
    (hperm : order.Perm (endings table inFlight response)) :
    feedTrying order inFlight response line = feed table inFlight response line := by
  rw [feed_eq_feedTrying, feedTrying, feedTrying]
  generalize htried : endings table inFlight response = tried at hperm
  cases hfirst : order.find? fun ending => TokenTable.matchesAny line ending.1 with
  | none =>
      have hnone : (tried.find? fun ending => TokenTable.matchesAny line ending.1) = none := by
        rw [List.find?_eq_none] at hfirst ⊢
        exact fun ending hmem => hfirst ending (hperm.mem_iff.mpr hmem)
      rw [hnone]
  | some first =>
      -- the lists found first may be different ones, but they tell the same status
      have hmatch : TokenTable.matchesAny line first.1 = true := by
        simpa using List.find?_some hfirst
      have hmem : first ∈ tried := hperm.mem_iff.mp (List.mem_of_find?_eq_some hfirst)
      cases hsecond : tried.find? fun ending => TokenTable.matchesAny line ending.1 with
      | none => exact absurd hmatch (List.find?_eq_none.mp hsecond first hmem)
      | some second =>
          have hmatch' : TokenTable.matchesAny line second.1 = true := by
            simpa using List.find?_some hsecond
          have hmem' : second ∈ tried := List.mem_of_find?_eq_some hsecond
          subst htried
          simp only [status_unique hvalid htokens hmem hmem' hmatch hmatch']

end Response

/-! ## The two sides of validation -/

namespace TokenTable

/-- With an accepted table and accepted tokens of the request, no line is a result code for success
and for failure, whichever list is tried first.  Tokens that some line begins with, of success and
of failure, are refused.  And validation accepts the valid tables and no others. -/
theorem validate_exact (table : TokenTable Handler) :
    (∀ requestTokens, table.validate = .ok () → table.checkSuccesses requestTokens = .ok () →
      (∀ line, ¬ (table.isSuccess requestTokens line = true ∧ table.isError line = true)) ∧
      ∀ inFlight, inFlight.successTokens = requestTokens → ∀ response line order,
        order.Perm (Response.endings table inFlight response) →
        Response.feedTrying order inFlight response line =
          Response.feed table inFlight response line) ∧
    (∀ line success error, error ∈ table.errors → success <+: line → error <+: line →
      (success ∈ table.successes ++ table.extraSuccesses →
        table.validate = .error .badParameter) ∧
      ∀ requestTokens, success ∈ requestTokens →
        table.checkSuccesses requestTokens = .error .badParameter) ∧
    (table.validate = .ok () ↔ table.Valid) := by
  refine ⟨fun requestTokens hvalid htokens => ⟨?_, ?_⟩, ?_, validate_eq_ok_iff⟩
  · rintro line ⟨hsuccess, herror⟩
    rw [isError_eq_false_of_isSuccess hvalid htokens hsuccess] at herror
    cases herror
  · rintro inFlight rfl response line order hperm
    exact Response.feedTrying_of_perm hvalid htokens hperm
  · intro line success error hmem hbegins hother
    exact ⟨validate_eq_error_of_begins hmem hbegins hother, fun requestTokens h =>
      checkSuccesses_eq_error_of_begins hmem hbegins hother h⟩

/-- The table of the BG96 is valid, and the tokens of a request for payload go with it.  A success
token that begins one of its error codes does not. -/
theorem validate_exact_bg96 :
    Bg96.tokenTable.Valid ∧
      (∀ line, ¬ (Bg96.tokenTable.isSuccess [">", "SEND OK"] line = true ∧
        Bg96.tokenTable.isError line = true)) ∧
      { Bg96.tokenTable with extraSuccesses := ["+CME"] }.validate = .error .badParameter := by
  have hvalid : Bg96.tokenTable.validate = .ok () := by decide
  have hexact := validate_exact Bg96.tokenTable
  have hrefused := validate_exact { Bg96.tokenTable with extraSuccesses := ["+CME"] }
  refine ⟨hexact.2.2.mp hvalid, (hexact.1 [">", "SEND OK"] hvalid (by decide)).1, ?_⟩
  exact (hrefused.2.1 "+CME ERROR: 3" "+CME" "+CME ERROR" (by decide) (by decide) (by decide)).1
    (by decide)

end TokenTable

end ModemLink
