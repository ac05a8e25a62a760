/-!
# Configuration of an engine

Times are in milliseconds.
-/

namespace ModemLink

/-- Raw bytes, as they travel over the link. -/
abbrev Bytes := List UInt8

/-- How the read buffer decides where a line ends.  Empty lines are skipped in either mode. -/
inductive LineEnding where
  | anyOf
  /-- Only CR followed by LF ends a line; either of them alone is line content. -/
  | pair
  deriving DecidableEq, Repr

/-- The timing and the line discipline of one engine. -/
structure Config where
  /-- Time to wait for the final result code of a command. -/
  commandTimeout : Nat := 5000
  /-- Time the link may take to accept what is sent. -/
  sendTimeout : Nat := 1000
  /-- Appended to every command. -/
  terminator : Bytes := [13]
  lineEnding : LineEnding := .anyOf
  deriving DecidableEq, Repr

end ModemLink
