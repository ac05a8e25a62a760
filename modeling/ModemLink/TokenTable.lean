import ModemLink.Error
import ModemLink.Text.Basic

/-!
# Token tables

A modem is described by the texts that end a response, by the lines that are unsolicited as a whole,
and by the handlers of its unsolicited result codes.  The table is fixed once an engine is built
with it, after `TokenTable.validate` has accepted it: a line is then never both a success and an
error, and `TokenTable.find?` may search the handlers by halving.
-/

namespace ModemLink

/-- Texts are ordered by their UTF-8 bytes, which is the order of their code points. -/
def Text.precedes (s t : Text) : Bool := decide (s < t)

/-- A handler and the token it is for.  An entry without handler accepts no line. -/
structure UrcEntry (Handler : Type) where
  /-- The text between the plus sign and the colon, or the whole line. -/
  token : Text
  handler : Option Handler

/-- The tokens of one modem. -/
structure TokenTable (Handler : Type) where
  errors : List Text
  successes : List Text
  /-- Success tokens that are tried before `successes`. -/
  extraSuccesses : List Text
  /-- Lines that are unsolicited as a whole, such as `RDY`. -/
  bareUrcs : List Text
  /-- In strictly ascending order of their tokens. -/
  urcs : Array (UrcEntry Handler)

namespace TokenTable

variable {Handler : Type}

/-! ## Validation -/

/-- Every text of the table. -/
def tokens (table : TokenTable Handler) : List Text :=
  table.errors ++ table.successes ++ table.extraSuccesses ++ table.bareUrcs
    ++ table.urcs.toList.map UrcEntry.token

/-- Whether one of two texts begins with the other. -/
def overlap (s t : Text) : Bool := s.beginsWith t || t.beginsWith s

/-- Success tokens must not be empty and must be told apart from every error token. -/
def checkSuccesses (table : TokenTable Handler) (successes : List Text) : Except Error Unit :=
  if successes.all fun success => success ≠ [] && !table.errors.any (overlap success) then .ok ()
  else .error .badParameter

/-- Whether each text precedes its neighbour. -/
def isAscending : List Text → Bool
  | first :: second :: rest => first.precedes second && isAscending (second :: rest)
  | _ => true

/-- Check what an engine relies on. -/
def validate (table : TokenTable Handler) : Except Error Unit := do
  if table.successes = [] ∨ table.errors = [] then .error .badParameter
  else if table.tokens.any (· = []) then .error .badParameter
  else if !isAscending (table.urcs.toList.map UrcEntry.token) then .error .badParameter
  else
    table.checkSuccesses table.successes
    table.checkSuccesses table.extraSuccesses

/-! ## Look-up -/

/-- Narrow the `count` entries from place `low` on down to one, by halving: the last whose token does
not come after `token`, if there is such an entry.  Each step leaves out at least one entry, so
`count` of them are enough. -/
def narrow (entries : Array (UrcEntry Handler)) (token : Text) : (fuel low count : Nat) → Nat
  | 0, low, _ => low
  | fuel + 1, low, count =>
      if count ≤ 1 then low
      else
        let middle := low + count / 2
        let next := match entries[middle]? with
          | some entry => if token.precedes entry.token then low else middle
          | none => low
        narrow entries token fuel next (count - count / 2)

def find? (table : TokenTable Handler) (token : Text) : Option (UrcEntry Handler) :=
  let place := narrow table.urcs token table.urcs.size 0 table.urcs.size
  table.urcs[place]?.filter fun entry => entry.token = token

/-- Whether a line is unsolicited as a whole. -/
def isBareUrc (table : TokenTable Handler) (line : Text) : Bool := table.bareUrcs.contains line

/-! ## Result codes -/

/-- Whether a line begins with a token of the list. -/
def matchesAny (line : Text) (tokens : List Text) : Bool :=
  match line.startsWithAny tokens with
  | .ok found => found
  | .error _ => false

/-- Whether a line is a final result code for success, for a request with success tokens of its
own. -/
def isSuccess (table : TokenTable Handler) (requestTokens : List Text) (line : Text) : Bool :=
  matchesAny line table.extraSuccesses || matchesAny line requestTokens
    || matchesAny line table.successes

/-- Whether a line is a final result code for failure. -/
def isError (table : TokenTable Handler) (line : Text) : Bool := matchesAny line table.errors

end TokenTable

end ModemLink
