import PenPlotter.Text

/-!
# Bytes as text

A file is a string of bytes.  Two readings of it as UTF-8 text are needed:

* `Bytes.text?`, for files that have to be UTF-8 throughout;
* `Bytes.text`, for plot files of any origin, where every run of bytes that begins no character is
  read as one replacement character.

Both walk the bytes with `Bytes.front`, which names the character at the front, or the number of
bytes given up there.  A broken run ends before the first byte that cannot continue the character
begun, so the byte after it is looked at afresh.
-/

namespace PenPlotter.Bytes

/-- What stands at the front of a byte string: a character, or bytes that begin none.  Either way
`size` bytes are used up. -/
inductive Front where
  /-- A character, with the number of bytes it is written in. -/
  | char (c : Char) (size : Nat)
  /-- Bytes that begin no character. -/
  | broken (size : Nat)

/-- A byte other than the first of a character. -/
def isTail (b : UInt8) : Bool :=
  0x80 ≤ b.toNat && b.toNat ≤ 0xBF

/-- The six bits that a tail byte carries. -/
def tailBits (b : UInt8) : Nat :=
  b.toNat - 0x80

/-- The second bytes that may follow the first byte of a three byte character: the encodings that
would fit in two bytes, and the surrogates, are left out. -/
def isSecondOfThree (lead second : UInt8) : Bool :=
  isTail second && (lead != 0xE0 || 0xA0 ≤ second.toNat) && (lead != 0xED || second.toNat ≤ 0x9F)

/-- The second bytes that may follow the first byte of a four byte character: the encodings that
would fit in three bytes, and the numbers above the last character, are left out. -/
def isSecondOfFour (lead second : UInt8) : Bool :=
  isTail second && (lead != 0xF0 || 0x90 ≤ second.toNat) && (lead != 0xF4 || second.toNat ≤ 0x8F)

/-- The front of a byte string that begins with `lead`. -/
def front (lead : UInt8) (rest : List UInt8) : Front :=
  let n := lead.toNat
  if n < 0x80 then .char (Char.ofNat n) 1
  else if 0xC2 ≤ n && n ≤ 0xDF then
    match rest with
    | b :: _ =>
      if isTail b then .char (Char.ofNat ((n - 0xC0) * 64 + tailBits b)) 2 else .broken 1
    | [] => .broken 1
  else if 0xE0 ≤ n && n ≤ 0xEF then
    match rest with
    | b :: more =>
      if isSecondOfThree lead b then
        match more with
        | c :: _ =>
          if isTail c then
            .char (Char.ofNat (((n - 0xE0) * 64 + tailBits b) * 64 + tailBits c)) 3
          else .broken 2
        | [] => .broken 2
      else .broken 1
    | [] => .broken 1
  else if 0xF0 ≤ n && n ≤ 0xF4 then
    match rest with
    | b :: more =>
      if isSecondOfFour lead b then
        match more with
        | c :: last =>
          if isTail c then
            match last with
            | d :: _ =>
              if isTail d then
                .char
                  (Char.ofNat
                    ((((n - 0xF0) * 64 + tailBits b) * 64 + tailBits c) * 64 + tailBits d)) 4
              else .broken 3
            | [] => .broken 3
          else .broken 2
        | [] => .broken 2
      else .broken 1
    | [] => .broken 1
  else .broken 1

/-- The text of a byte string that is UTF-8 throughout; nothing for any other. -/
def text? : List UInt8 → Option Text
  | [] => some []
  | lead :: rest =>
    match front lead rest with
    | .char c size => (text? (rest.drop (size - 1))).map (c :: ·)
    | .broken _ => none
termination_by bytes => bytes.length
decreasing_by simp only [List.length_drop, List.length_cons]; omega

/-- The text of any byte string, with a replacement character for each run of bytes that begins no
character. -/
def text : List UInt8 → Text
  | [] => []
  | lead :: rest =>
    match front lead rest with
    | .char c size => c :: text (rest.drop (size - 1))
    | .broken size => '\uFFFD' :: text (rest.drop (size - 1))
termination_by bytes => bytes.length
decreasing_by all_goals (simp only [List.length_drop, List.length_cons]; omega)

end PenPlotter.Bytes
