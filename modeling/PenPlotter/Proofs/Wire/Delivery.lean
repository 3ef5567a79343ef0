import PenPlotter.CommandLine
import PenPlotter.Proofs.Dialect.Roland
import PenPlotter.Proofs.Text.Lines

/-!
# From a conversion to the wire

A converted file is read again when it is sent: it is cut into lines, comments and empty lines are
left out, and each line gets a line end of its own.  The lines that a file is made of come back if
none of them holds a line end, is empty or is a comment (`CommandLine.sentLines_fileText`), and the
texts of commands are such lines.  The file of an empty program is a line end alone, and of that
nothing is sent.

A wire that takes all bytes gets them in order, each flushed (`Wire.send_eq`).
-/

namespace PenPlotter

/-! ## 1. Bytes on a wire -/

namespace Wire

/-- The wire after bytes have been written to it, with one flush for each. -/
def deliver (w : Wire) (bytes : List UInt8) : Wire :=
  { w with written := w.written ++ bytes, flushes := w.flushes + bytes.length }

theorem deliver_nil (w : Wire) : w.deliver [] = w := by
  simp [deliver]

theorem deliver_singleton (w : Wire) (b : UInt8) : w.deliver [b] = (w.put [b]).flush := rfl

theorem deliver_append (w : Wire) (bytes more : List UInt8) :
    w.deliver (bytes ++ more) = (w.deliver bytes).deliver more := by
  have hwritten : w.written ++ (bytes ++ more) = w.written ++ bytes ++ more :=
    Array.toList_inj.mp (by simp)
  simp only [deliver, hwritten, List.length_append, Nat.add_assoc]

/-- What bytes leave room for on a wire. -/
theorem takes_deliver (w : Wire) (bytes : List UInt8) (count : Nat) :
    (w.deliver bytes).takes count = w.takes (bytes.length + count) := by
  have hsize : (w.written ++ bytes).size = w.written.size + bytes.length := by
    rw [← Array.length_toList]
    simp
  simp only [takes, deliver, hsize, Nat.add_assoc]

theorem takes_of_le {w : Wire} {m n : Nat} (hle : m ≤ n) (h : w.takes n = true) :
    w.takes m = true := by
  rw [takes, Option.all_eq_true] at h ⊢
  intro limit hlimit
  have := of_decide_eq_true (h limit hlimit)
  exact decide_eq_true (by omega)

theorem takes_of_append {w : Wire} {bytes more : List UInt8}
    (h : w.takes (bytes ++ more).length = true) :
    w.takes bytes.length = true ∧ (w.deliver bytes).takes more.length = true := by
  rw [List.length_append] at h
  exact ⟨takes_of_le (Nat.le_add_right ..) h, (takes_deliver w bytes more.length).trans h⟩

/-- **Bytes that a wire takes are all delivered.** -/
theorem sendBytes_eq {bytes : List UInt8} {w : Wire} (h : w.takes bytes.length = true) :
    sendBytes bytes w = (w.deliver bytes, none) := by
  induction bytes generalizing w with
  | nil => rw [sendBytes, deliver_nil]
  | cons b rest ih =>
    have hall : w.takes ([b] ++ rest).length = true := h
    obtain ⟨hone, hrest⟩ := takes_of_append hall
    have htakes : w.takes 1 = true := hone
    rw [sendBytes, if_pos htakes, ← deliver_singleton, ih hrest, ← deliver_append]
    rfl

/-- **Lines that a wire takes are all delivered and counted.** -/
theorem sendLines_eq {lines : List Text} {w : Wire} (count : Nat)
    (h : w.takes (lines.flatMap lineBytes).length = true) :
    sendLines lines count w =
      (w.deliver (lines.flatMap lineBytes), .ok (count + lines.length)) := by
  induction lines generalizing w count with
  | nil =>
    rw [List.flatMap_nil, deliver_nil]
    rfl
  | cons line rest ih =>
    rw [List.flatMap_cons] at h ⊢
    obtain ⟨hline, hrest⟩ := takes_of_append h
    rw [sendLines, sendBytes_eq hline]
    refine (ih (count + 1) hrest).trans ?_
    rw [deliver_append, List.length_cons, Nat.add_assoc, Nat.add_comm 1]

/-- **A program that a wire takes is delivered with all its lines.** -/
theorem send_eq {program : Text} {w : Wire}
    (h : w.takes (programBytes program).length = true) :
    w.send program = (w.deliver (programBytes program), .ok (sentLines program).length) := by
  rw [send, sendLines_eq 0 h, Nat.zero_add]
  rfl

end Wire

/-! ## 2. A file and its lines -/

/-- A line without a carriage return keeps its end. -/
theorem Text.dropEndWhile_return {line : Text} (h : '\r' ∉ line) :
    line.dropEndWhile (· = '\r') = line := by
  refine dropEndWhile_eq_self ((Option.all_eq_true _ _).mpr fun c hc => ?_)
  have hne : c ≠ '\r' := by
    rintro rfl
    exact h (List.mem_of_getLast? hc)
  simpa using hne

theorem Text.dropEndWhile_dropReturn (t : Text) :
    dropEndWhile (· = '\r') (dropReturn t) = dropEndWhile (· = '\r') t := by
  rcases eq_dropReturn_or t with h | h
  · rw [h]
  · conv => rhs; rw [h, dropEndWhile_append_of_pos (by decide)]

/-- What is sent of a text is what is to be sent of the pieces between its line feeds. -/
theorem sentLines_eq_pieces (t : Text) :
    sentLines t = ((t.splitOn '\n').map (Text.dropEndWhile (· = '\r'))).filter isSent := by
  induction t using Text.pieces_induction '\n' with
  | last t h =>
    rw [sentLines, Text.lines_of_not_mem h, List.splitOn_eq_singleton h]
    split
    · rename_i hnil
      rw [hnil]
      rfl
    · rfl
  | piece t rest h ih =>
    rw [sentLines] at ih
    rw [sentLines, Text.lines_piece h, List.map_cons, Text.dropEndWhile_dropReturn,
      List.splitOn_append_cons_self_of_not_mem h, List.map_cons, List.filter_cons, List.filter_cons,
      ih]

namespace CommandLine

theorem fileText_singleton (line : Text) : fileText [line] = line ++ lineEnd := by
  rw [fileText, List.intercalate_singleton]

theorem fileText_cons_cons (line next : Text) (rest : List Text) :
    fileText (line :: next :: rest) = line ++ lineEnd ++ fileText (next :: rest) := by
  rw [fileText, List.intercalate_cons_cons, List.append_assoc]
  rfl

/-- The file of no lines is one empty line. -/
theorem lines_fileText_nil : (fileText []).lines = [[]] := by
  decide

theorem lines_append_lineEnd {line : Text} (h : '\n' ∉ line) (rest : Text) :
    (line ++ lineEnd ++ rest).lines = line :: rest.lines := by
  have hreturn : '\n' ∉ line ++ ['\r'] := by simpa using h
  have hpieces : line ++ lineEnd ++ rest = (line ++ ['\r']) ++ '\n' :: rest := by
    simp [lineEnd]
  rw [hpieces, Text.lines_piece hreturn, Text.dropReturn_append_return]

/-- Lines that a file is made of are the lines of the file. -/
theorem lines_fileText {lines : List Text} (hne : lines ≠ [])
    (h : ∀ line ∈ lines, '\n' ∉ line) : (fileText lines).lines = lines := by
  induction lines with
  | nil => exact absurd rfl hne
  | cons line rest ih =>
    rw [List.forall_mem_cons] at h
    cases rest with
    | nil =>
      have hfile : fileText [line] = line ++ lineEnd ++ [] := by
        rw [fileText_singleton, List.append_nil]
      rw [hfile, lines_append_lineEnd h.1]
      rfl
    | cons next more =>
      rw [fileText_cons_cons, lines_append_lineEnd h.1, ih (List.cons_ne_nil _ _) h.2]

/-- **The lines of a file are sent as they are, if each is one to send and holds no line end.** -/
theorem sentLines_fileText {lines : List Text}
    (h : ∀ line ∈ lines, isSent line = true ∧ '\n' ∉ line ∧ '\r' ∉ line) :
    sentLines (fileText lines) = lines := by
  cases lines with
  | nil => rw [sentLines, lines_fileText_nil]; rfl
  | cons first rest =>
    have hends : (first :: rest).map (Text.dropEndWhile (· = '\r')) = first :: rest :=
      (List.map_congr_left fun line hline => Text.dropEndWhile_return (h line hline).2.2).trans
        (List.map_id _)
    rw [sentLines, lines_fileText (List.cons_ne_nil _ _) fun line hline => (h line hline).2.1,
      hends]
    exact List.filter_eq_self.mpr fun line hline => (h line hline).1

end CommandLine

/-! ## 3. Commands -/

/-- The text of a command is neither empty nor a comment. -/
theorem Command.isSent_text (command : Command) : isSent command.text = true := by
  cases command <;> rfl

/-- The bytes that commands are delivered as: each is its text and a line end. -/
def commandBytes (commands : List Command) : List UInt8 :=
  commands.flatMap fun command => Text.toBytes (command.text ++ lineEnd)

/-- **A file of commands is sent as the commands, one by one.** -/
theorem sentLines_commands (commands : List Command) :
    sentLines (CommandLine.fileText (commands.map Command.text)) = commands.map Command.text := by
  refine CommandLine.sentLines_fileText fun line hline => ?_
  obtain ⟨command, -, rfl⟩ := List.mem_map.mp hline
  exact ⟨command.isSent_text, Command.not_mem_text rfl command, Command.not_mem_text rfl command⟩

theorem programBytes_commands (commands : List Command) :
    programBytes (CommandLine.fileText (commands.map Command.text)) = commandBytes commands := by
  rw [programBytes, sentLines_commands, List.flatMap_map]
  rfl

/-- **A conversion is delivered as its commands.**  In a template language that keeps its promise,
the file of a converted program, sent to a wire that takes all bytes, puts the texts of the commands
on it in order, each with a line end.  Every byte is flushed, and as many lines are counted as there
are commands. -/
theorem send_convert (e : TemplateEngine) (h : e.Lawful) (source : Text) (settings : Settings)
    (commands : List Command) (w : Wire) :
    convert source settings = .ok commands →
    w.takes (commandBytes commands).length = true →
    ∃ templates lines, e.roland = .ok templates ∧ e.post templates commands = .ok lines ∧
      w.send (CommandLine.fileText lines) =
        ({ w with
            written := w.written ++ commandBytes commands,
            flushes := w.flushes + (commandBytes commands).length },
          .ok commands.length) := by
  intro _ htakes
  have hbytes := programBytes_commands commands
  obtain ⟨templates, hroland⟩ := h.exists_roland
  refine ⟨templates, commands.map Command.text, hroland,
    TemplateEngine.post_roland h hroland commands, ?_⟩
  rw [Wire.send_eq (by rw [hbytes]; exact htakes), hbytes, sentLines_commands, List.length_map]
  rfl

/-- Three commands, one of them with a minus sign, make three lines.  Of the file of no commands
nothing is sent. -/
theorem send_convert_circle_and_nothing :
    (convert "IN;PU;PA400,-8\r\nCI4".toList {} =
        .ok [.reset, .move ⟨100, -2⟩, .circle ⟨100, -2⟩ 1 0 360] ∧
      ∃ templates lines, TemplateEngine.plain.roland = .ok templates ∧
        TemplateEngine.plain.post templates
          [.reset, .move ⟨100, -2⟩, .circle ⟨100, -2⟩ 1 0 360] = .ok lines ∧
        (Wire.fresh none none).send (CommandLine.fileText lines) =
          (⟨(Text.toBytes "H\r\nM100,-2\r\nC100,-2,1,0,360\r\n".toList).toArray, 29, none, none⟩,
            .ok 3)) ∧
      convert [] {} = .ok [] ∧
      ∃ templates lines, TemplateEngine.plain.roland = .ok templates ∧
        TemplateEngine.plain.post templates [] = .ok lines ∧
        (Wire.fresh none none).send (CommandLine.fileText lines) =
          (Wire.fresh none none, .ok 0) := by
  have hconvert : convert "IN;PU;PA400,-8\r\nCI4".toList {} =
      .ok [.reset, .move ⟨100, -2⟩, .circle ⟨100, -2⟩ 1 0 360] :=
    convert_eq_ok_iff.mpr (by decide +kernel)
  have hempty : convert [] {} = .ok [] := convert_eq_ok_iff.mpr (by decide +kernel)
  have hplain := TemplateEngine.plain_lawful
  exact ⟨⟨hconvert, send_convert _ hplain _ _ _ (Wire.fresh none none) hconvert rfl⟩, hempty,
    send_convert _ hplain _ _ _ (Wire.fresh none none) hempty rfl⟩

end PenPlotter
