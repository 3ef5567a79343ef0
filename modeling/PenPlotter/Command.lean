import PenPlotter.Position
import PenPlotter.Text

/-!
# Device commands

The dialect that the plotter understands has seven commands, each written on a line of its own as
one letter and its parameters (`Command.text`).  For other dialects a command is rendered through
the template of its kind (`Command.kind`), in which its parameters have names
(`Command.named`).

The last section says where a command leaves the pen: `Command.moved`.
-/

namespace PenPlotter

/-- A command of the device.  Angles are in degrees. -/
inductive Command where
  | reset
  /-- Take a pen; zero asks which pen is held. -/
  | selectPen (pen : Nat)
  | move (target : Position)
  | draw (target : Position)
  | relativeMove (delta : Position)
  | relativeDraw (delta : Position)
  | circle (center : Position) (radius startAngle endAngle : Int)
deriving DecidableEq, Repr

namespace Command

/-- The command for all of a circle. -/
def fullCircle (center : Position) (radius : Int) : Command :=
  .circle center radius 0 360

/-! ## 1. Text -/

/-- Whole numbers separated by commas. -/
def parameters (values : List Int) : Text :=
  [','].intercalate (values.map Text.ofInt)

/-- A command as the device reads it: its letter and its parameters. -/
def text : Command → Text
  | reset => ['H']
  | selectPen pen => 'J' :: parameters [pen]
  | move p => 'M' :: parameters [p.x, p.y]
  | draw p => 'D' :: parameters [p.x, p.y]
  | relativeMove d => 'R' :: parameters [d.x, d.y]
  | relativeDraw d => 'I' :: parameters [d.x, d.y]
  | circle c r a b => 'C' :: parameters [c.x, c.y, r, a, b]

/-! ## 2. Kinds and named parameters -/

/-- The name of the template that renders a command. -/
def kind : Command → Text
  | reset => "reset".toList
  | selectPen _ => "select_pen".toList
  | move _ => "move".toList
  | draw _ => "draw".toList
  | relativeMove _ => "relative_move".toList
  | relativeDraw _ => "relative_draw".toList
  | circle .. => "circle".toList

/-- The parameters of a command under the names that a template calls them by. -/
def named : Command → List (Text × Int)
  | reset => []
  | selectPen pen => [("pen".toList, pen)]
  | move p | draw p | relativeMove p | relativeDraw p => [("x".toList, p.x), ("y".toList, p.y)]
  | circle c r a b =>
    [("x".toList, c.x), ("y".toList, c.y), ("radius".toList, r), ("start".toList, a),
      ("end".toList, b)]

/-! ## 3. Where the pen goes -/

/-- Where the pen is after a command, from where it was before.  Displacements add up without
bound, and circles, resets and changes of pen leave it in place. -/
def moved (p : Position) : Command → Position
  | move q | draw q => q
  | relativeMove d | relativeDraw d => ⟨p.x + d.x, p.y + d.y⟩
  | reset | selectPen _ | circle .. => p

/-- Where the pen is after commands in a row. -/
def movedBy (p : Position) (commands : List Command) : Position :=
  commands.foldl moved p

end Command

end PenPlotter
