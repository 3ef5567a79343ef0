import PenPlotter.SystemFault
import PenPlotter.Text.Bytes

/-!
# The wire to the plotter

A wire takes bytes for the plotter and may bring lines back.  Old plotters lose characters that come
too fast, so that a program is sent byte by byte, and each byte is flushed before the next one
(`Wire.send`).  Lines that begin with a number sign are comments and stay here, and so do empty
lines; every other line is sent without the carriage returns that end it and with a carriage return
and a line feed of its own.

A wire may be cut: then it holds no more than a number of bytes, and a write that would go beyond
them is refused as a whole.
-/

namespace PenPlotter

/-! ## 1. What is sent of a program -/

/-- The carriage return and line feed that end a line on the wire. -/
def lineEnd : Text :=
  ['\r', '\n']

/-- Whether a line is sent. -/
def isSent (line : Text) : Bool :=
  !line.isEmpty && line.head? != some '#'

/-- The lines of a program that are sent, without the carriage returns that end them. -/
def sentLines (program : Text) : List Text :=
  (program.lines.map (Text.dropEndWhile (· = '\r'))).filter isSent

/-- The bytes that a line is sent as. -/
def lineBytes (line : Text) : List UInt8 :=
  Text.toBytes (line ++ lineEnd)

/-- All bytes that are sent of a program. -/
def programBytes (program : Text) : List UInt8 :=
  (sentLines program).flatMap lineBytes

/-! ## 2. The wire -/

/-- A wire: the bytes written so far, and how often it has been flushed. -/
structure Wire where
  written : Array UInt8
  flushes : Nat
  /-- How many bytes it takes before it is cut, if it ever is. -/
  limit : Option Nat
  /-- The bytes that have come back and have not been read; nothing if the wire brings none back. -/
  incoming : Option (List UInt8)
deriving DecidableEq, Repr

namespace Wire

/-- A wire that nothing has been written to. -/
def fresh (limit : Option Nat) (incoming : Option (List UInt8)) : Wire :=
  ⟨#[], 0, limit, incoming⟩

/-- Whether the wire takes a number of bytes more. -/
def takes (w : Wire) (count : Nat) : Bool :=
  w.limit.all fun limit => w.written.size + count ≤ limit

/-- The wire with bytes put after those written so far. -/
def put (w : Wire) (bytes : List UInt8) : Wire :=
  { w with written := w.written ++ bytes }

/-- The wire after bytes have been written at once, unless it does not take them. -/
def write? (w : Wire) (bytes : List UInt8) : Option Wire :=
  if w.takes bytes.length then some (w.put bytes) else none

/-- The wire after a line has been written at once. -/
def writeLine? (w : Wire) (line : Text) : Option Wire :=
  w.write? (lineBytes line)

/-- The wire after it has been flushed. -/
def flush (w : Wire) : Wire :=
  { w with flushes := w.flushes + 1 }

/-- Reads a line that has come back: up to a line feed, which belongs to it, or all there is.  The
line is used up even if it is not text.  The number is that of its bytes. -/
def readLine (w : Wire) : Wire × Except SystemFault (Nat × Text) :=
  match w.incoming with
  | none => (w, .ok (0, []))
  | some bytes =>
    let body := bytes.takeWhile (· ≠ 0x0A)
    let line := body ++ (bytes.drop body.length).take 1
    ({ w with incoming := some (bytes.drop line.length) },
      match Bytes.text? line with
      | some t => .ok (line.length, t)
      | none => .error .notText)

/-- The wire after bytes have been written and flushed one by one, and the fault that stopped it. -/
def sendBytes : List UInt8 → Wire → Wire × Option SystemFault
  | [], w => (w, none)
  | b :: rest, w =>
    if w.takes 1 then sendBytes rest (w.put [b]).flush else (w, some .wireCut)

/-- Sends lines one after the other, and counts those sent. -/
def sendLines : List Text → Nat → Wire → Wire × Except SystemFault Nat
  | [], count, w => (w, .ok count)
  | line :: rest, count, w =>
    match sendBytes (lineBytes line) w with
    | (next, none) => sendLines rest (count + 1) next
    | (next, some fault) => (next, .error fault)

/-- Sends a program, and counts the lines sent. -/
def send (w : Wire) (program : Text) : Wire × Except SystemFault Nat :=
  sendLines (sentLines program) 0 w

end Wire

end PenPlotter
