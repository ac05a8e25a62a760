import ModemLink.ReadBuffer
import ModemLink.Text.Integer
import ModemLink.Text.Utf8

/-!
# The header of socket data

The modem answers a read with `+QIRD: <length>`, a line end, and that many raw bytes.
-/

namespace ModemLink.Bg96

/-- What the header begins with. -/
def payloadMark : Bytes := Text.toBytes "+QIRD: "

/-- A byte that ends the header: CR or LF. -/
def endsHeader (byte : UInt8) : Bool := byte = 13 || byte = 10

/-- The length of the line end at the start of `rest`, once it is known: LF, CR, or CR and LF.  After
a CR the next byte decides. -/
def lineEndLength? : Bytes → Option Nat
  | [] => none
  | first :: rest =>
      if first = 13 then
        match rest with
        | [] => none
        | second :: _ => some (if second = 10 then 2 else 1)
      else
        some 1

/-- The payload length that the header text announces; blanks around the number do not count. -/
def announcedLength? (text : Bytes) : Option Nat :=
  (Text.ofBytes? text).bind fun text => text.trim.toSize?

/-- Recognise the header at the start of the buffer.  A line that only begins like one is a line. -/
def payloadHeader (bytes : Bytes) : HeaderMatch :=
  if bytes.length < payloadMark.length then
    if bytes.isPrefixOf payloadMark then .incomplete else .absent
  else if payloadMark.isPrefixOf bytes then
    let header := bytes.takeWhile fun byte => !endsHeader byte
    match lineEndLength? (bytes.drop header.length) with
    | none => .incomplete
    | some ending =>
        match announcedLength? (header.drop payloadMark.length) with
        | none => .absent
        | some length =>
            if Limits.receivedPayload < length then .tooLarge
            else .found (header.length + ending) length
  else
    .absent

end ModemLink.Bg96
