import PenPlotter.Proofs.Wire.Delivery

/-!
# A wire that is cut

A wire that is cut takes a number of bytes and no more.  Since a program is sent byte by byte, it
gets exactly so many bytes of the program, wherever in a line the cut falls, even between the two
characters of a line end; and each byte that it got has been flushed (`Wire.sendLines_of_lt`).
-/

namespace PenPlotter

namespace Wire

variable {w : Wire} {room : Nat}

/-- Whether a number of bytes is the most that a wire still takes. -/
def HasRoom (w : Wire) (room : Nat) : Prop :=
  ∀ count, w.takes count = true ↔ count ≤ room

theorem hasRoom_fresh (limit : Nat) (incoming : Option (List UInt8)) :
    (fresh (some limit) incoming).HasRoom limit := by
  intro count
  simp [takes, fresh]

/-- Bytes that are delivered take up room. -/
theorem HasRoom.deliver (h : w.HasRoom room) {bytes : List UInt8} (hle : bytes.length ≤ room) :
    (w.deliver bytes).HasRoom (room - bytes.length) := by
  intro count
  rw [takes_deliver, h]
  omega

/-- **Of bytes that there is not enough room for, the first ones are delivered.** -/
theorem sendBytes_of_lt (h : w.HasRoom room) {bytes : List UInt8} (hlt : room < bytes.length) :
    sendBytes bytes w = (w.deliver (bytes.take room), some .wireCut) := by
  induction bytes generalizing w room with
  | nil => exact absurd hlt (Nat.not_lt_zero room)
  | cons b rest ih =>
    cases room with
    | zero =>
      have hfull : ¬ w.takes 1 = true := mt (h 1).mp (Nat.not_succ_le_zero 0)
      rw [sendBytes, if_neg hfull, List.take_zero, deliver_nil]
    | succ room =>
      have hnext : (w.deliver [b]).HasRoom room := h.deliver (Nat.le_add_left 1 room)
      rw [sendBytes, if_pos ((h 1).mpr (Nat.le_add_left 1 room)), ← deliver_singleton,
        ih hnext (Nat.lt_of_succ_lt_succ hlt), ← deliver_append]
      rfl

/-- **Of lines that there is not enough room for, the first bytes are delivered.**  The cut falls
into the first line, or all of that line is delivered and the cut falls into those that follow. -/
theorem sendLines_of_lt (h : w.HasRoom room) {lines : List Text}
    (hlt : room < (lines.flatMap lineBytes).length) (count : Nat) :
    sendLines lines count w =
      (w.deliver ((lines.flatMap lineBytes).take room), .error .wireCut) := by
  induction lines generalizing w room count with
  | nil => exact absurd hlt (Nat.not_lt_zero room)
  | cons line rest ih =>
    rw [List.flatMap_cons] at hlt ⊢
    rcases Nat.lt_or_ge room (lineBytes line).length with hcut | hle
    · rw [sendLines, sendBytes_of_lt h hcut, List.take_append_of_le_length (Nat.le_of_lt hcut)]
    · rw [List.length_append] at hlt
      rw [sendLines, sendBytes_eq ((h _).mpr hle)]
      refine (ih (h.deliver hle) (by omega) (count + 1)).trans ?_
      rw [← deliver_append, List.take_append, List.take_of_length_le hle]

/-- **What a wire gets of a program.**  The program is cut at line feeds, each line loses the
carriage returns that end it, and lines that are empty or begin with a number sign are left out; the
others are sent with a line end each.  A wire that takes all of these bytes gets them, and the lines
are counted.  A wire that takes fewer gets the first ones, as many as it takes, and the fault is
that of the wire.  Either way there is one flush for each byte that was written. -/
theorem send_fresh (program : Text) (incoming : Option (List UInt8)) :
    let lines := ((program.splitOn '\n').map (Text.dropEndWhile (· = '\r'))).filter
      fun line => line ≠ [] ∧ line.head? ≠ some '#'
    let bytes := lines.flatMap fun line => Text.toBytes (line ++ ['\r', '\n'])
    (fresh none incoming).send program =
        (⟨bytes.toArray, bytes.length, none, incoming⟩, .ok lines.length) ∧
      ∀ limit,
        (bytes.length ≤ limit → (fresh (some limit) incoming).send program =
          (⟨bytes.toArray, bytes.length, some limit, incoming⟩, .ok lines.length)) ∧
        (limit < bytes.length → (fresh (some limit) incoming).send program =
          (⟨(bytes.take limit).toArray, limit, some limit, incoming⟩, .error .wireCut)) := by
  intro lines bytes
  have hlines : sentLines program = lines := by
    rw [sentLines_eq_pieces]
    refine List.filter_congr fun line _ => ?_
    cases line with
    | nil => rfl
    | cons c rest => by_cases hc : c = '#' <;> simp [isSent, hc]
  have hbytes : programBytes program = bytes := by
    rw [programBytes, hlines]
    rfl
  have hdeliver : ∀ limit, (fresh limit incoming).takes bytes.length = true →
      (fresh limit incoming).send program =
        (⟨bytes.toArray, bytes.length, limit, incoming⟩, .ok lines.length) := by
    intro limit htakes
    rw [send_eq (hbytes ▸ htakes), hbytes, hlines]
    simp [deliver, fresh]
  refine ⟨hdeliver none rfl, ?_⟩
  intro limit
  have hroom := hasRoom_fresh limit incoming
  constructor
  · intro hle
    exact hdeliver (some limit) ((hroom _).mpr hle)
  · intro hlt
    have hlength : (bytes.take limit).length = limit := List.length_take_of_le (Nat.le_of_lt hlt)
    rw [send, hlines, sendLines_of_lt hroom hlt 0]
    change (deliver _ (bytes.take limit), _) = _
    rw [deliver, hlength]
    simp [fresh]

/-- Of two comments, an empty line, a line of carriage returns alone and two commands only the
commands are sent, the first one with the carriage return inside it.  A wire that takes four bytes
is cut between the two characters of the first line end. -/
theorem send_fresh_between_line_end :
    let program : Text := "# a\r\nH\r1\r\r\n\n\r\r\n#b\nM1,2".toList
    let bytes : List UInt8 := Text.toBytes "H\r1\r\nM1,2\r\n".toList
    (fresh none none).send program = (⟨bytes.toArray, 11, none, none⟩, .ok 2) ∧
      (bytes.length ≤ 11 ∧
        (fresh (some 11) none).send program = (⟨bytes.toArray, 11, some 11, none⟩, .ok 2)) ∧
      4 < bytes.length ∧
        (fresh (some 4) none).send program =
          (⟨(Text.toBytes ['H', '\r', '1', '\r']).toArray, 4, some 4, none⟩, .error .wireCut) := by
  intro program bytes
  obtain ⟨hfree, hlimit⟩ := send_fresh program none
  exact ⟨hfree, ⟨by decide, (hlimit 11).1 (by decide)⟩, by decide, (hlimit 4).2 (by decide)⟩

end Wire

end PenPlotter
