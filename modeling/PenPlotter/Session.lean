import PenPlotter.Fill
import PenPlotter.Instruction.Reader
import PenPlotter.Pen
import PenPlotter.Scaling

/-!
# Carrying out plot instructions

A session is what has to be remembered from one instruction to the next: the pen, the object being
defined and the figure defined last, where circles are centred, the last radius, and the number of
the line.  The setup, which is the scaling and the width of the pen, stays the same throughout.

Carrying out an instruction is a `Step`: the session afterwards, the commands it gave rise to, and
the fault that cut it short, if there was one.  A fault loses what comes after it and nothing that
came before: the session and the commands are those of the part that was done.  Steps are put one
after the other by `Step.andThen`, and everything larger is made of that:

* points are gone through by `plotPoint` or `plotDelta` one after the other;
* `execute` carries out an instruction;
* `feed` reads a line and carries out its commands;
* `run` feeds lines.
-/

namespace PenPlotter

/-- What stays the same during a session: the scaling and the width of a stroke in device units. -/
structure Setup (K : Type) where
  scaling : Scaling K
  penWidth : K

/-- What is remembered between instructions.  `radius` is the last one, and `line` counts the lines
fed so far. -/
structure Session where
  pen : Pen
  workpiece : Workpiece
  /-- Where circles are centred: the target of the last move to a position, or the last centre
  given in a definition. -/
  anchor : Position
  radius : Int
  line : Nat
deriving DecidableEq, Repr

/-- What carrying something out comes to: the session afterwards, the commands in order, and the
fault that cut it short. -/
structure Step where
  session : Session
  commands : List Command
  fault : Option Fault
deriving DecidableEq, Repr

namespace Step

/-- Nothing is done. -/
def stay (s : Session) : Step :=
  ⟨s, [], none⟩

/-- One command is given. -/
def give (s : Session) (c : Command) : Step :=
  ⟨s, [c], none⟩

/-- A fault, with nothing done. -/
def fail (s : Session) (f : Fault) : Step :=
  ⟨s, [], some f⟩

/-- One step after the other; a fault in the first one leaves out the second. -/
def andThen (first : Step) (next : Session → Step) : Step :=
  match first.fault with
  | some _ => first
  | none =>
    let second := next first.session
    ⟨second.session, first.commands ++ second.commands, second.fault⟩

/-- A step for each member of a list, one after the other up to the first fault. -/
def each {α : Type} (step : α → Session → Step) : List α → Session → Step
  | [], s => stay s
  | a :: rest, s => (step a s).andThen (each step rest)

end Step

namespace Session

/-- The session at the start. -/
def start : Session where
  pen := .start
  workpiece := .empty
  anchor := .origin
  radius := 0
  line := 0

/-- The fault for what is out of range; it quotes the letters of the command alone. -/
def outOfRange (s : Session) (command : String) : Fault :=
  .unreadable s.line command.toList .outOfRange

section

variable {K : Type} [Scalar K]

/-! ## 1. Points -/

/-- Takes a device position: into the definition at hand, if there is one, and else to the plot.
The anchor follows the centres and the moves. -/
def takePosition (p : Position) (s : Session) : Step :=
  match s.workpiece.capture? p s.pen.down with
  | some (workpiece, .center center) => .stay { s with workpiece, anchor := center }
  | some (workpiece, .corner _) => .stay { s with workpiece }
  | none =>
    let (pen, command) := s.pen.goTo p
    .give { s with pen, anchor := if s.pen.down then s.anchor else p } command

/-- Goes to a raw point. -/
def plotPoint (setup : Setup K) (command : String) (p : Point K) (s : Session) : Step :=
  match setup.scaling.place? p with
  | some position => s.takePosition position
  | none => .fail s (s.outOfRange command)

/-- Goes along a raw displacement. -/
def plotDelta (setup : Setup K) (d : Point K) (s : Session) : Step :=
  match (setup.scaling.displace? d).bind s.pen.goBy? with
  | some (pen, command) => .give { s with pen } command
  | none => .fail s (s.outOfRange "PR")

/-- Goes through raw points. -/
def plotPoints (setup : Setup K) (command : String) (points : List (Point K)) (s : Session) :
    Step :=
  Step.each (plotPoint setup command) points s

/-- Goes along raw displacements. -/
def plotDeltas (setup : Setup K) (deltas : List (Point K)) (s : Session) : Step :=
  Step.each (plotDelta setup) deltas s

/-! ## 2. Objects -/

/-- Takes a pen; a number that no pen has is passed over. -/
def selectPen (n : Nat) (s : Session) : Step :=
  match s.pen.select? n with
  | some (pen, command) => .give { s with pen } command
  | none => .stay s

/-- Takes a raw radius: into the definition at hand, if there is one, and else as a circle around
the anchor. -/
def takeRadius (setup : Setup K) (raw : K) (s : Session) : Step :=
  match setup.scaling.measure? raw with
  | none => .fail s (s.outOfRange "CI")
  | some radius =>
    match s.workpiece.setRadius? radius with
    | some workpiece => .stay { s with workpiece, radius }
    | none => .give { s with radius } (.fullCircle s.anchor radius)

/-- Starts or ends a definition. -/
def polygonMode (mode : PolygonMode) (s : Session) : Step :=
  match mode with
  | .start => .stay { s with workpiece := s.workpiece.start s.anchor s.radius }
  | .finish =>
    let (workpiece, fault) := s.workpiece.finish s.line
    ⟨{ s with workpiece }, [], fault⟩
  | .other => .stay s

/-- Draws the outline of the figure. -/
def drawOutline (s : Session) : Step :=
  ⟨s, s.workpiece.figure.outline, none⟩

/-- Fills the figure. -/
def fillFigure (setup : Setup K) (s : Session) : Step :=
  if s.workpiece.figure = .none then .fail s (.noObject s.line)
  else
    match s.workpiece.figure.fillStrokes? setup.penWidth with
    | none => .fail s (.endlessFill s.line)
    | some strokes =>
      let workpiece := { s.workpiece with figure := s.workpiece.figure.filled K }
      ⟨{ s with workpiece }, strokes, none⟩

/-! ## 3. Instructions, lines and programs -/

/-- Carries out an instruction. -/
def execute (setup : Setup K) (i : Instruction K) (s : Session) : Step :=
  match i with
  | .reset => .give s .reset
  | .selectPen n => s.selectPen n
  | .penUp points => { s with pen := s.pen.lift }.plotPoints setup "PU" points
  | .penDown points => { s with pen := s.pen.lower }.plotPoints setup "PD" points
  | .plotAbsolute points => s.plotPoints setup "PA" points
  | .plotRelative deltas => s.plotDeltas setup deltas
  | .polygonMode mode => s.polygonMode mode
  | .circle radius => s.takeRadius setup radius
  | .edge => s.drawOutline
  | .fill => s.fillFigure setup
  | .ignored => .stay s

end

/-- Reads a command and carries it out. -/
def perform (setup : Setup Float) (text : Text) (s : Session) : Step :=
  match Instruction.read s.line text with
  | .error fault => .fail s fault
  | .ok i => s.execute setup i

/-- Counts a line and carries out its commands from left to right. -/
def feed (setup : Setup Float) (line : Text) (s : Session) : Step :=
  Step.each (perform setup) (commandTexts line) { s with line := s.line + 1 }

/-- Feeds lines up to the first fault. -/
def run (setup : Setup Float) (lines : List Text) (s : Session) : Step :=
  Step.each (feed setup) lines s

end Session

end PenPlotter
