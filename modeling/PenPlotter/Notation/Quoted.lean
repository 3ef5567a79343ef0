import PenPlotter.Notation
import PenPlotter.Number.Radix
import PenPlotter.Text.Bytes

/-!
# Quoted items of the object notation

Four kinds of items stand in quotes: texts `"a"`, byte strings `b"a"`, characters `'a'` and bytes
`b'a'`.  Texts and byte strings may also be raw, `r#"a"#`, with any number of marks, and then hold
no escapes.

Nobody asks for the value of such an item, so it is only passed over; but an item that is no item of
its kind is an error, and that is decided by its escapes (`skipEscape?`):

* `\x41` is one byte.  In a character it has to be ASCII.  In a text, bytes that are not ASCII have
  to make up a character, one escape right after the other.
* `\u{41}` is a character, and must not be the number of a surrogate.  A byte cannot hold it.
* A backslash may also stand before a quote, a backslash, and the letters `n`, `r`, `t` and `0`.

An item without an end is kept apart from one with a bad escape (`Quoted`), since a reader that
looks for something behind it gives up only on the former.
-/

namespace PenPlotter.Notation

/-! ## 1. Escapes -/

/-- The kinds of quoted items. -/
inductive QuotedKind where
  | text
  | bytes
  | character
  | byte
deriving DecidableEq, Repr

/-- A byte in two hexadecimal digits. -/
def hexByte? : Text → Option (UInt8 × Text)
  | a :: b :: rest => (Radix.number? 16 [a, b]).map fun n => (UInt8.ofNat n, rest)
  | _ => none

/-- The text after the escapes that complete a character, of which some bytes have been read; at
most `more` further escapes may belong to it. -/
def skipCharacterBytes? (more : Nat) (bytes : List UInt8) (t : Text) : Option Text :=
  if (Bytes.text? bytes).isSome then some t
  else
    match more, t with
    | more + 1, '\\' :: 'x' :: digits =>
      (hexByte? digits).bind fun (b, rest) => skipCharacterBytes? more (bytes ++ [b]) rest
    | _, _ => none

/-- The text after a byte in two digits, in an item of the given kind. -/
def skipByteEscape? (kind : QuotedKind) (t : Text) : Option Text :=
  (hexByte? t).bind fun (b, rest) =>
    match kind with
    | .text => skipCharacterBytes? 3 [b] rest
    | .character => if b.toNat < 0x80 then some rest else none
    | .bytes | .byte => some rest

/-- The text after the number of a character in braces. -/
def skipCharacterEscape? (t : Text) : Option Text := do
  let t ← expect? '\x7b' t
  let digits := t.takeWhile Radix.isHex
  let n ← Radix.number? 16 digits
  let rest ← expect? '\x7d' (t.drop digits.length)
  if digits ≠ [] ∧ digits.length ≤ 6 ∧ n.isValidChar then some rest else none

/-- The characters that stand for themselves or for a control character after a backslash. -/
def plainEscapes : Text :=
  ['\'', '"', '\\', 'n', 'r', 't', '0']

/-- The text after an escape in an item of the given kind, whose backslash has been read. -/
def skipEscape? (kind : QuotedKind) : Text → Option Text
  | 'x' :: rest => skipByteEscape? kind rest
  | 'u' :: rest => if kind = .byte then none else skipCharacterEscape? rest
  | c :: rest => if plainEscapes.contains c then some rest else none
  | [] => none

/-! ## 2. Texts and byte strings -/

/-- What comes of passing over a text or a byte string. -/
inductive Quoted where
  | ended (rest : Text)
  | unended
  | invalid
deriving DecidableEq, Repr

/-- The text after an item that ends. -/
def Quoted.rest? : Quoted → Option Text
  | .ended rest => some rest
  | .unended | .invalid => none

/-- Passes over the inside of a text or a byte string, and its closing quote. -/
def skipInside (kind : QuotedKind) : Text → Quoted
  | [] => .unended
  | '"' :: rest => .ended rest
  | '\\' :: rest =>
    if !rest.contains '"' then .unended
    else
      match skipEscape? kind rest with
      | some after => if after.length ≤ rest.length then skipInside kind after else .invalid
      | none => .invalid
  | _ :: rest => skipInside kind rest
termination_by t => t.length

/-- Passes over the inside of a raw item, which ends at a quote and the given number of marks. -/
def skipRawInside (marks : Nat) : Text → Quoted
  | [] => .unended
  | '"' :: rest =>
    match expectWord? (List.replicate marks '#') rest with
    | some after => .ended after
    | none => skipRawInside marks rest
  | _ :: rest => skipRawInside marks rest

/-- Passes over a raw item, whose letters have been read. -/
def skipRaw (t : Text) : Quoted :=
  let marks := (t.takeWhile (· = '#')).length
  match expect? '"' (t.drop marks) with
  | some inside => skipRawInside marks inside
  | none => .invalid

/-- Passes over a text, plain or raw. -/
def skipString : Text → Quoted
  | '"' :: rest => skipInside .text rest
  | 'r' :: rest => skipRaw rest
  | _ => .invalid

/-- Passes over a byte string, plain or raw. -/
def skipByteString : Text → Quoted
  | 'b' :: '"' :: rest => skipInside .bytes rest
  | 'b' :: 'r' :: rest => skipRaw rest
  | _ => .invalid

/-! ## 3. Characters and bytes -/

/-- The text after one character in quotes, whose opening quote has been read; `admitted` says which
characters may stand for themselves. -/
def skipSingle? (kind : QuotedKind) (admitted : Char → Bool) : Text → Option Text
  | '\\' :: rest => (skipEscape? kind rest).bind (expect? '\'')
  | c :: rest => if admitted c then expect? '\'' rest else none
  | [] => none

/-- The text after a character.  A quote may stand for itself. -/
def skipCharacter? : Text → Option Text
  | '\'' :: rest => skipSingle? .character (fun _ => true) rest
  | _ => none

/-- The text after a byte.  Only ASCII characters are bytes. -/
def skipByte? : Text → Option Text
  | 'b' :: '\'' :: rest => skipSingle? .byte (fun c => c.toNat < 0x80) rest
  | _ => none

end PenPlotter.Notation
