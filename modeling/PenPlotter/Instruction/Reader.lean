import PenPlotter.Fault
import PenPlotter.Instruction
import PenPlotter.Number.Numeral

/-!
# Reading plot programs

A line holds commands, each ended or separated by a semicolon (`commandTexts`).  A command is two
letters and its parameters (`Instruction.read`).  What does not begin with two known letters is
ignored, and so is a pen selection that is not exactly one digit from zero to six; every other
command that cannot be used is a fault, which quotes it in full.

Pen commands take points only if there are more than two bytes after the letters.
-/

namespace PenPlotter

/-- The commands of a line, without blank ends; empty ones are left out. -/
def commandTexts (line : Text) : List Text :=
  ((line.splitOn ';').map Text.trim).filter (· ≠ [])

/-- The number in a field. -/
def readNumber (field : Text) : Except Unreadable Float :=
  let trimmed := field.trim
  if trimmed = [] then .error .missingNumber
  else
    match Numeral.readFinite? trimmed with
    | some x => .ok x
    | none => .error (.notANumber trimmed)

/-- The points whose coordinates are given in turn; nothing if one is left over. -/
def pairUp {α : Type} : List α → Option (List (Point α))
  | [] => some []
  | [_] => none
  | x :: y :: rest => (pairUp rest).map (⟨x, y⟩ :: ·)

/-- The numbers in a list of fields, or the first reason why one has none. -/
def readNumbers : List Text → Except Unreadable (List Float)
  | [] => .ok []
  | field :: rest =>
    match readNumber field with
    | .error reason => .error reason
    | .ok x => (readNumbers rest).map (x :: ·)

/-- The points in the parameters of a command. -/
def readPoints (parameters : Text) : Except Unreadable (List (Point Float)) :=
  if parameters.trim = [] then .ok []
  else
    match readNumbers (parameters.splitOn ',') with
    | .error reason => .error reason
    | .ok numbers =>
      match pairUp numbers with
      | some points => .ok points
      | none => .error (.unpaired numbers.length)

namespace Instruction

/-- The points that a pen command carries. -/
def readStroke (parameters : Text) : Except Unreadable (List (Point Float)) :=
  if parameters.byteLength ≤ 2 then .ok [] else readPoints parameters

/-- The pen selection with the given parameters. -/
def ofPenNumber : Text → Instruction Float
  | [digit] => if '0' ≤ digit ∧ digit ≤ '6' then .selectPen (digit.toNat - '0'.toNat) else .ignored
  | _ => .ignored

/-- The polygon mode command with the given parameters. -/
def ofPolygonMode (parameters : Text) : Instruction Float :=
  .polygonMode
    (if parameters.trim = ['0'] then .start
      else if parameters.trim = ['2'] then .finish
      else .other)

/-- The instruction that a command text stands for, or the reason why it stands for none. -/
def parse : Text → Except Unreadable (Instruction Float)
  | 'I' :: 'N' :: _ => .ok .reset
  | 'S' :: 'P' :: parameters => .ok (ofPenNumber parameters)
  | 'P' :: 'U' :: parameters => (readStroke parameters).map .penUp
  | 'P' :: 'D' :: parameters => (readStroke parameters).map .penDown
  | 'P' :: 'M' :: parameters => .ok (ofPolygonMode parameters)
  | 'P' :: 'A' :: parameters => (readPoints parameters).map .plotAbsolute
  | 'P' :: 'R' :: parameters => (readPoints parameters).map .plotRelative
  | 'C' :: 'I' :: parameters => (readNumber (parameters.takeWhile (· ≠ ','))).map .circle
  | 'E' :: 'P' :: _ => .ok .edge
  | 'F' :: 'P' :: _ => .ok .fill
  | _ => .ok .ignored

/-- The instruction that a command text in the given line stands for. -/
def read (line : Nat) (text : Text) : Except Fault (Instruction Float) :=
  (parse text).mapError (.unreadable line text)

end Instruction

end PenPlotter
