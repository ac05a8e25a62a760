/-!
# Capacities

Every buffer of the library is bounded.  This file names the bounds, so that the rules which
depend on them can be stated once.
-/

namespace ModemLink.Limits

/-- Bytes of a response line, and of any text copied out of one. -/
def line : Nat := 256

/-- Bytes of a command, its terminator not counted. -/
def command : Nat := 200

/-- Bytes that are put on the wire for one command, its terminator included. -/
def commandWithTerminator : Nat := command + 8

/-- Bytes of the prefix that the answering lines of a command carry. -/
def responsePrefix : Nat := 32

/-- Bytes held by the read buffer. -/
def readBuffer : Nat := 1600

/-- Intermediate lines kept for one response. -/
def responseLines : Nat := 32

/-- Raw payload bytes kept for one response, and the largest payload that may be announced. -/
def receivedPayload : Nat := 1500

/-- Raw payload bytes sent with one command. -/
def sentPayload : Nat := 1460

/-- Sockets that exist at the same time. -/
def sockets : Nat := 12

/-- Packet data contexts.  They are numbered from one. -/
def contexts : Nat := 16

/-- Bytes of the text of a network address. -/
def addressText : Nat := 40

end ModemLink.Limits
