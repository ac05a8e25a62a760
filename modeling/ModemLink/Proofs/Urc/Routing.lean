import ModemLink.Proofs.Response.Validation
import ModemLink.Proofs.Urc.Acceptance

/-!
# Every unsolicited line reaches its own handler

The way of an unsolicited line has two parts.

* *The token.*  A line in prefix form is cut at its first colon and loses its plus signs
  (`Text.urcToken_prefixed`); a line without a colon is its own token, without blanks around it
  (`Text.urcToken_of_not_mem`).
* *The entry.*  The handlers are searched by halving.  Each step keeps the place of the token between
  its bounds, also if one token begins another (`TokenTable.narrow_eq`), so that in a valid table
  every entry is found by its own token, and no entry by any other (`TokenTable.find?_eq_some_iff`).

`Device.dispatch_reaches_own_handler` puts the two together: the entry is given the payload of the line
(`Device.Given`), which its handler takes or refuses.
-/

namespace ModemLink

/-! ## The entry of a token -/

namespace TokenTable

variable {Handler : Type} {table : TokenTable Handler} {token : Text} {entry : UrcEntry Handler}

/-- Of two entries, the one with the lesser token stands first. -/
theorem Valid.token_lt_iff (h : table.Valid) {i j : Nat} (hi : i < table.urcs.size)
    (hj : j < table.urcs.size) : table.urcs[i].token < table.urcs[j].token ↔ i < j := by
  have hascending : ∀ (i j : Nat) (_ : i < j) (_ : j < table.urcs.size),
      table.urcs[i].token < table.urcs[j].token := fun i j hij hj =>
    Text.toBytes_lt_toBytes_iff.mp (h.ascending i j hij hj)
  refine ⟨fun hlt => ?_, fun hij => hascending i j hij hj⟩
  by_contra hnot
  rcases Nat.lt_or_eq_of_le (Nat.le_of_not_lt hnot) with hji | rfl
  · exact List.lt_asymm hlt (hascending j i hji hi)
  · exact List.lt_irrefl _ hlt

/-- Halving ends at the entry of the token, as long as that lies between the bounds. -/
theorem narrow_eq (h : table.Valid) {place : Nat} (hplace : place < table.urcs.size)
    {fuel low count : Nat} (hfuel : count ≤ fuel + 1) (hsize : low + count ≤ table.urcs.size)
    (hlow : low ≤ place) (hhigh : place < low + count) :
    narrow table.urcs table.urcs[place].token fuel low count = place := by
  induction fuel generalizing low count with
  | zero =>
      rw [narrow]
      omega
  | succ fuel ih =>
      rw [narrow]
      by_cases hone : count ≤ 1
      · rw [if_pos hone]
        omega
      · have hmiddle : low + count / 2 < table.urcs.size := by omega
        -- comparing with the entry in the middle tells on which side of it the place is
        have hprecedes :
            (table.urcs[place].token.precedes table.urcs[low + count / 2].token = true) ↔
              place < low + count / 2 := by
          rw [Text.precedes, decide_eq_true_eq, h.token_lt_iff hplace hmiddle]
        rw [if_neg hone]
        simp only [Array.getElem?_eq_getElem hmiddle]
        -- the invariant: the place stays between the bounds while they are halved
        by_cases hbefore : place < low + count / 2
        · rw [if_pos (hprecedes.mpr hbefore)]
          exact ih (by omega) (by omega) hlow (by omega)
        · rw [if_neg fun hcase => hbefore (hprecedes.mp hcase)]
          exact ih (by omega) (by omega) (by omega) (by omega)

/-- Every entry is found by its token. -/
theorem find?_of_mem (h : table.Valid) (hentry : entry ∈ table.urcs) :
    table.find? entry.token = some entry := by
  obtain ⟨place, hplace, rfl⟩ := Array.getElem_of_mem hentry
  have hnarrow : narrow table.urcs table.urcs[place].token table.urcs.size 0 table.urcs.size =
      place := narrow_eq h hplace (by omega) (by omega) (Nat.zero_le _) (by omega)
  unfold find?
  simp only [hnarrow, Array.getElem?_eq_getElem hplace]
  exact Option.filter_some_pos (decide_eq_true rfl)

/-- What is found is the entry with the token, if the table has one. -/
theorem find?_eq_some_iff (h : table.Valid) :
    table.find? token = some entry ↔ entry ∈ table.urcs ∧ entry.token = token := by
  refine ⟨mem_of_find?, ?_⟩
  rintro ⟨hentry, rfl⟩
  exact find?_of_mem h hentry

theorem find?_eq_none (h : ∀ entry ∈ table.urcs, entry.token ≠ token) :
    table.find? token = none := by
  cases hfind : table.find? token with
  | none => rfl
  | some entry =>
      obtain ⟨hentry, htoken⟩ := mem_of_find? hfind
      exact absurd htoken (h entry hentry)

/-- Looking at one entry after the other finds the same. -/
theorem find?_eq_linear (h : table.Valid) (token : Text) :
    table.find? token = table.urcs.toList.find? fun entry => entry.token = token := by
  cases hlinear : table.urcs.toList.find? fun entry => decide (entry.token = token) with
  | none =>
      refine find?_eq_none fun entry hentry htoken => ?_
      have hnot := List.find?_eq_none.mp hlinear entry (Array.mem_toList_iff.mpr hentry)
      exact hnot (decide_eq_true htoken)
  | some entry =>
      have htoken := List.find?_some hlinear
      have hentry := Array.mem_toList_iff.mp (List.mem_of_find?_eq_some hlinear)
      exact (find?_eq_some_iff h).mpr ⟨hentry, of_decide_eq_true htoken⟩

end TokenTable

/-! ## The token of a line -/

namespace Text

variable {token line : Text}

/-- A token that a line in prefix form may carry: a letter, and then letters, digits, underscores and
plus signs. -/
def IsName (token : Text) : Prop :=
  ∃ head tail, token = head :: tail ∧ head.isAlpha = true ∧
    ∀ c ∈ tail, c.isAlphanum = true ∨ c = '_' ∨ c = '+'

/-- A line in prefix form: plus signs, the token, a colon and the payload. -/
def prefixed (pluses : Nat) (token payload : Text) : Text :=
  List.replicate pluses '+' ++ token ++ ':' :: payload

theorem isPrefixTail_of_isName (h : token.IsName) {c : Char} (hc : c ∈ token) :
    isPrefixTail c = true := by
  obtain ⟨head, tail, rfl, hhead, htail⟩ := h
  rcases List.mem_cons.mp hc with rfl | hc
  · simp [isPrefixTail, Char.isAlphanum, hhead]
  · rcases htail c hc with h | rfl | rfl
    · simp [isPrefixTail, h]
    · rfl
    · rfl

/-- In front of the colon stands what a prefix may consist of, and no other colon. -/
theorem isPrefixTail_of_mem_front (h : token.IsName) (pluses : Nat) :
    ∀ c ∈ List.replicate pluses '+' ++ token, isPrefixTail c = true := by
  intro c hc
  rcases List.mem_append.mp hc with hplus | htoken
  · rw [List.eq_of_mem_replicate hplus]
    rfl
  · exact isPrefixTail_of_isName h htoken

theorem ne_colon_of_isPrefixTail {c : Char} (h : isPrefixTail c = true) :
    (decide (c ≠ ':')) = true := by
  refine decide_eq_true ?_
  rintro rfl
  cases h

theorem beforeColon_prefixed (h : token.IsName) (pluses : Nat) (payload : Text) :
    (prefixed pluses token payload).beforeColon = List.replicate pluses '+' ++ token := by
  unfold beforeColon prefixed
  rw [List.takeWhile_append_of_pos fun c hc =>
      ne_colon_of_isPrefixTail (isPrefixTail_of_mem_front h pluses c hc)]
  exact List.append_nil _

theorem fromColon_prefixed (h : token.IsName) (pluses : Nat) (payload : Text) :
    (prefixed pluses token payload).fromColon = ':' :: payload := by
  unfold fromColon prefixed
  rw [List.dropWhile_append_of_pos fun c hc =>
      ne_colon_of_isPrefixTail (isPrefixTail_of_mem_front h pluses c hc)]
  rfl

theorem isPrefixed_prefixed (h : token.IsName) (pluses : Nat) (payload : Text) :
    (prefixed pluses token payload).isPrefixed = true := by
  have htail := isPrefixTail_of_mem_front h pluses
  unfold isPrefixed
  rw [fromColon_prefixed h, beforeColon_prefixed h]
  obtain ⟨head, tail, rfl, hhead, -⟩ := h
  cases pluses with
  | zero =>
      refine Bool.and_eq_true_iff.mpr ⟨?_, List.all_eq_true.mpr fun c hc => ?_⟩
      · simp [isPrefixHead, hhead]
      · exact htail c (List.mem_cons_of_mem _ hc)
  | succ pluses =>
      refine Bool.and_eq_true_iff.mpr ⟨rfl, List.all_eq_true.mpr fun c hc => ?_⟩
      exact htail c (List.mem_cons_of_mem _ hc)

/-- A line in prefix form is taken apart into its token and its payload. -/
theorem urcToken_prefixed (h : token.IsName) {pluses : Nat} {payload : Text}
    (hsize : (prefixed pluses token payload).size ≤ Limits.line) :
    (prefixed pluses token payload).urcToken = (token, payload) := by
  have hne : prefixed pluses token payload ≠ [] :=
    List.append_ne_nil_of_right_ne_nil _ (List.cons_ne_nil _ _)
  have hform : (prefixed pluses token payload).hasPrefixForm = true :=
    Bool.and_eq_true_iff.mpr ⟨decide_eq_true ⟨hne, hsize⟩, isPrefixed_prefixed h pluses payload⟩
  -- a name begins with a letter, so no plus sign of it is taken off
  have hpluses : dropStart (· = '+') (List.replicate pluses '+' ++ token) = token := by
    obtain ⟨head, tail, rfl, hhead, -⟩ := h
    have hplus : ∀ c ∈ List.replicate pluses '+', (decide (c = '+')) = true := fun c hc =>
      decide_eq_true (List.eq_of_mem_replicate hc)
    have hstop : ¬ (decide (head = '+')) = true := by
      intro hcase
      rw [of_decide_eq_true hcase] at hhead
      cases hhead
    rw [dropStart, List.dropWhile_append_of_pos hplus]
    exact List.dropWhile_cons_of_neg hstop
  rw [urcToken, if_pos hform, beforeColon_prefixed h, fromColon_prefixed h, hpluses]
  rfl

/-- A line without a colon has no prefix. -/
theorem urcToken_of_not_mem (h : ':' ∉ line) : line.urcToken = (line.trim, line.trim) := by
  have hnone : line.fromColon = [] := by
    refine List.dropWhile_eq_nil_iff.mpr fun c hc => decide_eq_true ?_
    rintro rfl
    exact h hc
  have hform : ¬ line.hasPrefixForm = true := by
    simp [hasPrefixForm, isPrefixed, hnone]
  rw [urcToken, if_neg hform]

end Text

/-! ## Dispatching -/

namespace Device

variable {table : TokenTable UrcHandler} {entry : UrcEntry UrcHandler} {line : Text}
  {device later : Device}

/-- What becomes of a device when an entry is given the payload of a line.  Its handler takes the
payload, or refuses it, and then the line is handed on after what the handler did; a line for an
entry without a handler is just handed on. -/
inductive Given (device : Device) (entry : UrcEntry UrcHandler) (payload line : Text) :
    Device → Prop
  | taken {handler : UrcHandler} {later : Device} (hhandler : entry.handler = some handler)
      (hresult : handler device payload = (later, .ok ())) :
      device.Given entry payload line later
  | refused {handler : UrcHandler} {later : Device} {failure : TextError}
      (hhandler : entry.handler = some handler)
      (hresult : handler device payload = (later, .error failure)) :
      device.Given entry payload line (later.genericLine line)
  | unhandled (hhandler : entry.handler = none) :
      device.Given entry payload line (device.genericLine line)

/-- A handler that takes the payload settles what becomes of the device. -/
theorem Given.eq_of_taken {payload : Text} {handler : UrcHandler} {taken : Device}
    (h : device.Given entry payload line later) (hhandler : entry.handler = some handler)
    (hresult : handler device payload = (taken, .ok ())) : later = taken := by
  cases h with
  | taken hown hgiven =>
      cases hhandler.symm.trans hown
      cases hresult.symm.trans hgiven
      rfl
  | refused hown hgiven =>
      cases hhandler.symm.trans hown
      cases hresult.symm.trans hgiven
  | unhandled hnone => cases hhandler.symm.trans hnone

/-- The entry that is found for the token of a line is given the payload of the line. -/
theorem given_of_find? {token payload : Text} (htoken : line.urcToken = (token, payload))
    (hfind : table.find? token = some entry) (device : Device) :
    device.Given entry payload line (device.dispatch table line) := by
  unfold dispatch
  simp only [htoken, hfind]
  cases hhandler : entry.handler with
  | none =>
      simp only [handleUrc, hhandler]
      exact .unhandled hhandler
  | some handler =>
      simp only [handleUrc, hhandler]
      rcases hresult : handler device payload with ⟨later, failure | ⟨⟩⟩
      · exact .refused hhandler hresult
      · exact .taken hhandler hresult

/-- A line whose token is not in the table reaches no handler. -/
theorem dispatch_of_not_mem (h : ∀ entry ∈ table.urcs, entry.token ≠ line.urcToken.1)
    (device : Device) : device.dispatch table line = device.genericLine line := by
  simp only [dispatch, TokenTable.find?_eq_none h]

/-- In a table that validation accepts, halving finds the entry of a token and no other, as a search
from the first to the last would.  So an entry is given the payload of each line in prefix form that
carries its token, behind any number of plus signs, and each line that is its token but for blanks
around it.  A line with any other token reaches no handler. -/
theorem dispatch_reaches_own_handler (hvalid : table.validate = .ok ()) :
    (∀ token entry, table.find? token = some entry ↔ entry ∈ table.urcs ∧ entry.token = token) ∧
    (∀ token, table.find? token = table.urcs.toList.find? fun entry => entry.token = token) ∧
    (∀ entry ∈ table.urcs, entry.token.IsName → ∀ pluses payload,
      let line := Text.prefixed pluses entry.token payload
      line.size ≤ Limits.line → ∀ device : Device,
        device.Given entry payload line (device.dispatch table line)) ∧
    (∀ entry ∈ table.urcs, ∀ line : Text, ':' ∉ line → line.trim = entry.token →
      ∀ device : Device, device.Given entry line.trim line (device.dispatch table line)) ∧
    ∀ line : Text, (∀ entry ∈ table.urcs, entry.token ≠ line.urcToken.1) →
      ∀ device : Device, device.dispatch table line = device.genericLine line := by
  have htable := TokenTable.validate_eq_ok_iff.mp hvalid
  refine ⟨fun token entry => TokenTable.find?_eq_some_iff htable, TokenTable.find?_eq_linear htable,
    ?_, ?_, fun line => dispatch_of_not_mem⟩
  · -- a line in prefix form
    intro entry hentry hname pluses payload line hsize device
    exact given_of_find? (Text.urcToken_prefixed hname hsize)
      (TokenTable.find?_of_mem htable hentry) device
  · -- a line that is its own token
    intro entry hentry line hcolon htrim device
    refine given_of_find? (Text.urcToken_of_not_mem hcolon) ?_ device
    rw [htrim]
    exact TokenTable.find?_of_mem htable hentry

/-- Three lines of a modem: a registration report, whose token is much like others; the announcement
of a start, with blanks around it; and a line whose token only begins with that of an entry. -/
theorem dispatch_reaches_own_handler_bg96 :
    let device := Device.initial {}
    Bg96.tokenTable.validate = .ok () ∧
      (device.dispatch Bg96.tokenTable "++CREG: 1").registration.circuit = .home ∧
      (device.dispatch Bg96.tokenTable "++CREG: 1").notices =
        [.registration .circuit { device.registration.summary with circuit := .home }] ∧
      (device.dispatch Bg96.tokenTable " RDY\t").notices = [.modem .started] ∧
      (device.dispatch Bg96.tokenTable "+QINDS: 1").notices = [.line "+QINDS: 1"] := by
  intro device
  have hvalid : Bg96.tokenTable.validate = .ok () := by decide
  have hcreg : ⟨"CREG".toList, some (Urc.registration .creg)⟩ ∈ Bg96.tokenTable.urcs := by
    simp [Bg96.tokenTable]
  have hready : ⟨"RDY".toList, some Urc.ready⟩ ∈ Bg96.tokenTable.urcs := by simp [Bg96.tokenTable]
  have hname : Text.IsName "CREG".toList := ⟨'C', ['R', 'E', 'G'], rfl, rfl, by simp⟩
  obtain ⟨-, -, hprefixed, hbare, hother⟩ := dispatch_reaches_own_handler hvalid
  -- what the two handlers make of the payloads that they are given
  have hreport : Urc.registration .creg device " 1" =
      ((Urc.registration .creg device " 1").1, .ok ()) := Prod.ext rfl (by decide)
  have hregistered : device.dispatch Bg96.tokenTable "++CREG: 1" =
      (Urc.registration .creg device " 1").1 :=
    (hprefixed _ hcreg hname 2 " 1" (by decide) device).eq_of_taken rfl hreport
  have hstarted : device.dispatch Bg96.tokenTable " RDY\t" = device.modemEvent .started :=
    (hbare _ hready " RDY\t" (by decide) (by decide) device).eq_of_taken rfl rfl
  have hgeneric : device.dispatch Bg96.tokenTable "+QINDS: 1" = device.genericLine "+QINDS: 1" :=
    hother "+QINDS: 1" (by decide) device
  rw [hregistered, hstarted, hgeneric]
  exact ⟨hvalid, by decide, by decide, by decide, by decide⟩

end Device

end ModemLink
