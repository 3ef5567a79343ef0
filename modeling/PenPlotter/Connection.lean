import PenPlotter.AddressReader
import PenPlotter.Number.Unsigned
import PenPlotter.SystemFault

/-!
# What an address connects to

Two kinds of address lead to a plotter.  `file:///dev/lp0` is a device, or a plain file, that is
written to.  `serial:///dev/ttyS0@9600` is a serial port and its rate in bits per second, which
stand around the only `@` of the path.  The path is taken as the reader of addresses gives it.
-/

namespace PenPlotter

/-- Why there is no connection. -/
inductive ConnectionFault where
  | system (fault : SystemFault)
  | serial (fault : SystemFault)
  | uri (fault : UriFault)
  | noRate (address : Text)
  | rate (fault : UnsignedFault)
  | unsupportedScheme (scheme : Text)
deriving DecidableEq, Repr

/-- The wording of a fault. -/
def ConnectionFault.message : ConnectionFault → String
  | system fault => s!"i/o error: {fault.message}"
  | serial fault => s!"device error: {fault.reason}"
  | uri fault => s!"cannot parse connection uri: {fault.message}"
  | noRate address =>
    s!"cannot parse connection uri: expected serial:///path@baud, got {String.ofList address}"
  | rate fault => s!"cannot parse connection uri: {fault.message}"
  | unsupportedScheme scheme =>
    s!"unsupported connection scheme '{String.ofList scheme}', use serial:// or file://"

/-- What an address connects to. -/
inductive Destination where
  | serial (path : Text) (rate : Nat)
  | device (path : Text)
deriving DecidableEq, Repr

namespace Destination

/-- The highest rate that can be asked for. -/
def highestRate : Nat :=
  4294967295

/-- What an address connects to. -/
def read (reader : AddressReader) (address : Text) : Except ConnectionFault Destination :=
  match reader address with
  | .error fault => .error (.uri fault)
  | .ok target =>
    if target.scheme = "serial".toList then
      match target.path.splitOn '@' with
      | [path, rate] =>
        match Unsigned.read highestRate rate with
        | .ok n => .ok (.serial path n)
        | .error fault => .error (.rate fault)
      | _ => .error (.noRate address)
    else if target.scheme = "file".toList then .ok (.device target.path)
    else .error (.unsupportedScheme target.scheme)

end Destination

end PenPlotter
