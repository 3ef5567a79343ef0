import PenPlotter.Number.Amount
import PenPlotter.Session

/-!
# Settings

The parameters of a conversion.  By default four plotter units make one device unit on both axes,
which takes the 0.025 mm of the plot language to the 0.1 mm of the device, and the pen is two device
units wide.

A conversion accepts settings only if its numbers are finite, its divisors are not zero, and the pen
width and the scale are positive; `Settings.check` finds the first of these that fails.
-/

namespace PenPlotter

/-- The parameters of a conversion.  The divisors are plotter units per device unit, the pen width
is in device units, and `header` says whether the converted file begins with comment lines. -/
structure Settings where
  xDiv : Amount := .ofInt 4
  yDiv : Amount := .ofInt 4
  xOffset : Amount := .ofInt 0
  yOffset : Amount := .ofInt 0
  penWidth : Amount := .ofInt 2
  scale : Amount := .ofInt 1
  header : Bool := true
deriving DecidableEq

namespace Settings

/-- The settings that are numbers. -/
inductive Quantity where
  | xDiv
  | yDiv
  | xOffset
  | yOffset
  | penWidth
  | scale
deriving DecidableEq, Repr

namespace Quantity

/-- The quantities, in the order in which they are written and checked. -/
def all : List Quantity :=
  [xDiv, yDiv, xOffset, yOffset, penWidth, scale]

/-- The name under which a quantity is written. -/
def name : Quantity → String
  | xDiv => "x_div"
  | yDiv => "y_div"
  | xOffset => "x_offset"
  | yOffset => "y_offset"
  | penWidth => "pen_width"
  | scale => "scale"

end Quantity

/-- The value of a quantity. -/
def get (s : Settings) : Quantity → Amount
  | .xDiv => s.xDiv
  | .yDiv => s.yDiv
  | .xOffset => s.xOffset
  | .yOffset => s.yOffset
  | .penWidth => s.penWidth
  | .scale => s.scale

/-- The settings with the value of a quantity replaced. -/
def set (s : Settings) (value : Amount) : Quantity → Settings
  | .xDiv => { s with xDiv := value }
  | .yDiv => { s with yDiv := value }
  | .xOffset => { s with xOffset := value }
  | .yOffset => { s with yOffset := value }
  | .penWidth => { s with penWidth := value }
  | .scale => { s with scale := value }

/-- Why settings are not accepted. -/
inductive Fault where
  | notFinite (quantity : Quantity)
  | zeroDivisor
  | penWidth
  | scale
deriving DecidableEq, Repr

/-- The wording of a fault. -/
def Fault.message : Fault → String
  | notFinite quantity => s!"invalid configuration: {quantity.name} must be finite"
  | zeroDivisor => "invalid configuration: axis divisors must not be zero"
  | penWidth => "invalid configuration: pen width must be positive"
  | scale => "invalid configuration: scale must be positive"

/-- The first reason why settings are not accepted, if there is one. -/
def check (s : Settings) : Option Fault :=
  let zero := Binary64.ofInt 0
  match Quantity.all.find? fun q => !(s.get q).toFloat.isFinite with
  | some quantity => some (.notFinite quantity)
  | none =>
    if s.xDiv.toFloat == zero || s.yDiv.toFloat == zero then some .zeroDivisor
    else if s.penWidth.toFloat ≤ zero then some .penWidth
    else if s.scale.toFloat ≤ zero then some .scale
    else none

/-- Settings are accepted if their numbers are finite, no divisor is zero, and the pen width and the
scale are positive. -/
theorem check_eq_none_iff {s : Settings} :
    s.check = none ↔ (∀ q, (s.get q).toFloat.isFinite = true) ∧
      (s.xDiv.toFloat == Binary64.ofInt 0) = false ∧
      (s.yDiv.toFloat == Binary64.ofInt 0) = false ∧
      ¬ s.penWidth.toFloat ≤ Binary64.ofInt 0 ∧ ¬ s.scale.toFloat ≤ Binary64.ofInt 0 := by
  have hall : (∀ q, (s.get q).toFloat.isFinite = true) ↔
      Quantity.all.find? (fun q => !(s.get q).toFloat.isFinite) = none := by
    rw [List.find?_eq_none]
    constructor
    · intro h q _
      simp [h q]
    · intro h q
      have hq : q ∈ Quantity.all := by cases q <;> decide
      simpa using h q hq
  rw [check, hall]
  cases hfind : Quantity.all.find? fun q => !(s.get q).toFloat.isFinite with
  | some q => simp
  | none =>
    simp only [true_and]
    grind

/-- The map from plotter units to device units. -/
def scaling (s : Settings) : Scaling Float :=
  ⟨s.xDiv.toFloat, s.yDiv.toFloat, s.xOffset.toFloat, s.yOffset.toFloat, s.scale.toFloat⟩

/-- What stays the same during a conversion. -/
def setup (s : Settings) : Setup Float :=
  ⟨s.scaling, s.penWidth.toFloat⟩

end Settings

end PenPlotter
