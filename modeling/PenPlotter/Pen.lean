import PenPlotter.Command

/-!
# The pen

While a plot is converted the pen is followed: where it is, whether it is down, and which one was
taken last.  Each operation gives the pen after it and the command that makes the plotter follow.

A displacement that would take the pen out of the device range is refused, and a refusal gives no
pen: the one at hand stays as it is, on both axes.
-/

namespace PenPlotter

/-- The state of the pen.  Its number is that of the pen taken last, if one was. -/
structure Pen where
  position : Position
  down : Bool
  number : Option Nat
deriving DecidableEq, Repr

namespace Pen

/-- The pen at the start: at the origin, up, and of unknown number. -/
def start : Pen :=
  ⟨.origin, false, none⟩

/-- The highest number of a pen. -/
def highest : Nat :=
  6

/-- The pen after it has been raised. -/
def lift (p : Pen) : Pen :=
  { p with down := false }

/-- The pen after it has been lowered. -/
def lower (p : Pen) : Pen :=
  { p with down := true }

/-- Takes the pen with the given number, unless there is none such. -/
def select? (p : Pen) (n : Nat) : Option (Pen × Command) :=
  if n ≤ highest then some ({ p with number := some n }, .selectPen n) else none

/-- The command that takes the pen to a target, drawing if it is down. -/
def strokeTo (p : Pen) (target : Position) : Command :=
  if p.down then .draw target else .move target

/-- The command that takes the pen along a displacement, drawing if it is down. -/
def strokeBy (p : Pen) (delta : Position) : Command :=
  if p.down then .relativeDraw delta else .relativeMove delta

/-- Goes to a target. -/
def goTo (p : Pen) (target : Position) : Pen × Command :=
  ({ p with position := target }, p.strokeTo target)

/-- Goes along a displacement, unless it leads out of the device range. -/
def goBy? (p : Pen) (delta : Position) : Option (Pen × Command) :=
  (p.position.add? delta).map fun target => ({ p with position := target }, p.strokeBy delta)

/-! The operations as data, so that a history of the pen is a list. -/

/-- An operation on the pen. -/
inductive Action where
  | lift
  | lower
  | select (n : Nat)
  | goTo (target : Position)
  | goBy (delta : Position)
deriving DecidableEq, Repr

/-- The pen after an operation and the command it gives rise to.  A refused operation changes
nothing and gives no command. -/
def act (p : Pen) : Action → Pen × Option Command
  | .lift => (p.lift, none)
  | .lower => (p.lower, none)
  | .select n =>
    match p.select? n with
    | some (q, c) => (q, some c)
    | none => (p, none)
  | .goTo target => ((p.goTo target).1, some (p.goTo target).2)
  | .goBy delta =>
    match p.goBy? delta with
    | some (q, c) => (q, some c)
    | none => (p, none)

/-- The pen after operations in a row. -/
def actAll (p : Pen) (actions : List Action) : Pen :=
  actions.foldl (fun q a => (q.act a).1) p

end Pen

end PenPlotter
