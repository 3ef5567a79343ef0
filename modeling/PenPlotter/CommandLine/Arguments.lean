import PenPlotter.CommandLine.Failure

/-!
# Arguments

The arguments of a conversion are the name of the plot file, perhaps a scale, and options, in any
order of options and others; the arguments of sending are a file and an address, and one option.
Arguments are read from left to right, and the first one that cannot be used is the failure.
-/

namespace PenPlotter

/-- What a conversion is asked for. -/
structure ConvertRequest where
  name : Text
  scale : Option Amount
  config : Option Text
  header : Bool

namespace ConvertRequest

/-- What has been read of the arguments.  Of two settings files the last one counts. -/
structure Partway where
  name : Option Text := none
  scale : Option Amount := none
  config : Option Text := none
  header : Bool := true

/-- Reads arguments. -/
def readFrom (p : Partway) : List Text → Except Failure Partway
  | [] => .ok p
  | arg :: rest =>
    if arg = "--config".toList ∨ arg = "-c".toList then
      match rest with
      | path :: rest => readFrom { p with config := some path } rest
      | [] => .error .missingConfigFile
    else if arg = "--no-header".toList then readFrom { p with header := false } rest
    else if p.name.isNone then readFrom { p with name := some arg } rest
    else if p.scale.isNone then
      match Amount.read? arg with
      | some scale => readFrom { p with scale := some scale } rest
      | none => .error (.badScale arg)
    else .error (.unexpectedArgument arg)

/-- The request that arguments make. -/
def read (args : List Text) : Except Failure ConvertRequest :=
  match readFrom {} args with
  | .error failure => .error failure
  | .ok p =>
    match p.name with
    | none => .error .missingName
    | some name => .ok ⟨name, p.scale, p.config, p.header⟩

/-- The settings of a request, from those of its settings file. -/
def adjust (r : ConvertRequest) (s : Settings) : Settings :=
  { s with scale := r.scale.getD s.scale, header := s.header && r.header }

end ConvertRequest

/-- What sending is asked for: the path of a program, the address of a plotter, and the pause after
each byte in microseconds. -/
structure SendRequest where
  file : Text
  address : Text
  delay : Nat

namespace SendRequest

/-- The pause after each byte if none is asked for, in microseconds. -/
def defaultDelay : Nat :=
  100

/-- The longest pause that can be asked for. -/
def longestDelay : Nat :=
  18446744073709551615

/-- Reads arguments: those that are not of the option, and the pause. -/
def readFrom (others : List Text) (delay : Nat) : List Text → Except Failure (List Text × Nat)
  | [] => .ok (others, delay)
  | arg :: rest =>
    if arg = "--delay-us".toList then
      match rest with
      | value :: rest =>
        match Unsigned.read longestDelay value with
        | .ok delay => readFrom others delay rest
        | .error fault => .error (.badDelay value fault)
      | [] => .error .missingDelay
    else readFrom (others ++ [arg]) delay rest

/-- The request that arguments make. -/
def read (args : List Text) : Except Failure SendRequest :=
  match readFrom [] defaultDelay args with
  | .error failure => .error failure
  | .ok ([file, address], delay) => .ok ⟨file, address, delay⟩
  | .ok _ => .error .sendArguments

end SendRequest

end PenPlotter
