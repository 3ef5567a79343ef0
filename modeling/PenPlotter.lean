import PenPlotter.CommandLine
import PenPlotter.Main
import PenPlotter.Proofs.History
import PenPlotter.Proofs.Session.Effect
import PenPlotter.Proofs.Session.PenPosition
import PenPlotter.Proofs.Session.Definition
import PenPlotter.Proofs.Binary64.Nearest
import PenPlotter.Proofs.Binary64.Packing
import PenPlotter.Proofs.Binary64.Rounding
import PenPlotter.Proofs.Binary64.Units
import PenPlotter.Proofs.Binary64.Whole
import PenPlotter.Proofs.Fill.Rings
import PenPlotter.Proofs.Fill.Corners
import PenPlotter.Proofs.Session.Lossless
import PenPlotter.Proofs.Session.Filling
import PenPlotter.Proofs.Session.Plotting
import PenPlotter.Proofs.Session.Confinement
import PenPlotter.Proofs.Session.CircleCenter
import PenPlotter.Proofs.Session.Persistence
import PenPlotter.Proofs.Text.Lines
import PenPlotter.Proofs.Conversion.LineStructure
import PenPlotter.Proofs.Conversion.FirstFault
import PenPlotter.Proofs.Session.Interruption
import PenPlotter.Proofs.Conversion.Rescaling
import PenPlotter.Proofs.Dialect.Roland
import PenPlotter.Proofs.Wire.Delivery
import PenPlotter.Proofs.Session.Housekeeping
import PenPlotter.Proofs.Binary64.Sign
import PenPlotter.Proofs.Session.CircleRadius
import PenPlotter.Proofs.CommandLine.Target
import PenPlotter.Proofs.CommandLine.Head
import PenPlotter.Proofs.Uri.FilePath
import PenPlotter.Proofs.CommandLine.Sending
import PenPlotter.Proofs.Settings.RoundTrip
import PenPlotter.Proofs.Dialect.Unambiguous
import PenPlotter.Proofs.Fill.Gaps
import PenPlotter.Proofs.Fill.Rectangle
import PenPlotter.Proofs.Fill.Turns
import PenPlotter.Proofs.Fill.RingCount
import PenPlotter.Proofs.Fill.Canonical
import PenPlotter.Proofs.Wire.Cut
import PenPlotter.Proofs.Number.Numeral
import PenPlotter.Proofs.Instruction.Parameters
import PenPlotter.Proofs.Dialect.Rendering
import PenPlotter.Proofs.Pen.ExactSum
import PenPlotter.Proofs.Exact.Coordinate
import PenPlotter.Proofs.Session.Remembered
import PenPlotter.Proofs.Fill.Legs
