import PenPlotter.Text

/-!
# Addresses and who reads them

A plotter is named by an address, of which the scheme and the path are used.  How an address is read
is the business of the rules for web addresses, which change much of what they read and refuse some
of it.  An `AddressReader` is what is asked of them.
-/

namespace PenPlotter

/-- The parts of an address that are used: the scheme, in lower case, and the path, in which some
characters are encoded. -/
structure Uri where
  scheme : Text
  path : Text
deriving DecidableEq, Repr

/-- Why a text is no address. -/
inductive UriFault where
  | noScheme
  | emptyHost
  | invalidCharacter
  | invalidName
  | invalidNumber
  | invalidBracketed
  | invalidPort
deriving DecidableEq, Repr

/-- The wording of a fault. -/
def UriFault.message : UriFault → String
  | noScheme => "relative URL without a base"
  | emptyHost => "empty host"
  | invalidCharacter => "invalid domain character"
  | invalidName => "invalid international domain name"
  | invalidNumber => "invalid IPv4 address"
  | invalidBracketed => "invalid IPv6 address"
  | invalidPort => "invalid port number"

/-- Reads addresses. -/
abbrev AddressReader :=
  Text → Except UriFault Uri

end PenPlotter
