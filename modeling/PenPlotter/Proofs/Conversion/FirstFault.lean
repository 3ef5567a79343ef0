import PenPlotter.Proofs.Conversion.LineStructure
import PenPlotter.Proofs.Session.Filling

/-!
# The first fault

A conversion stops at the first command that cannot be carried out, and the fault names its line.
The line counts from one, as the session does, so that a fault tells the lines in front of it,
which are converted without one, from those behind it, which have no part in it
(`convert_at_first_fault`).

All of it comes from one fact on the feeding of lines: the fault names one of them, and the lines
are fed without a fault up to there (`Session.fault_run_append_iff`).
-/

namespace PenPlotter

namespace Session

/-! ## 1. Feeding lines -/

variable {setup : Setup Float} {lines more : List Text} {s : Session} {fault : Fault}

theorem run_append (setup : Setup Float) (lines more : List Text) (s : Session) :
    s.run setup (lines ++ more) = (s.run setup lines).andThen (run setup more) :=
  Step.each_append (feed setup) lines more s

/-- The fault of lines that are fed names one of them. -/
theorem line_of_fault_run (h : (s.run setup lines).fault = some fault) :
    s.line < fault.line ∧ fault.line ≤ s.line + lines.length := by
  obtain ⟨done, line, rest, rfl, hdone, hline, -⟩ := Step.exists_of_fault_each h
  have hcount := line_run setup hdone
  have hnumber := line_of_fault_feed setup hline
  rw [run] at hcount
  rw [hcount] at hnumber
  rw [hnumber, List.length_append, List.length_cons]
  omega

/-- **Lines have a fault of their own if it names one of them.**  If it names one of those behind
them, they are fed without a fault. -/
theorem fault_run_append_iff (h : (s.run setup (lines ++ more)).fault = some fault) :
    ((s.run setup lines).fault = some fault ↔ fault.line ≤ s.line + lines.length) ∧
      ((s.run setup lines).fault = none ↔ s.line + lines.length < fault.line) := by
  rw [run_append] at h
  cases hfirst : (s.run setup lines).fault with
  | some first =>
    rw [Step.andThen_of_fault hfirst, hfirst] at h
    obtain rfl := Option.some.inj h
    have hline := (line_of_fault_run hfirst).2
    exact ⟨iff_of_true rfl hline, iff_of_false (Option.some_ne_none _) (by omega)⟩
  | none =>
    rw [Step.andThen_of_no_fault hfirst] at h
    have hline := (line_of_fault_run h).1
    rw [line_run setup hfirst] at hline
    exact ⟨iff_of_false (Option.some_ne_none _).symm (by omega), iff_of_true rfl hline⟩

end Session

/-! ## 2. Texts -/

section

variable {setup : Setup Float} {fault : Fault}

/-- Behind a line feed that ends the line of the fault, any text will do. -/
theorem fault_conversionStep_append {head tail : Text}
    (h : (conversionStep setup (head ++ '\n' :: tail)).fault = some fault)
    (hline : head.count '\n' + 1 = fault.line) (other : Text) :
    (conversionStep setup (head ++ '\n' :: other)).fault = some fault := by
  rw [conversionStep, Text.lines_append_newline] at h ⊢
  have hhead : fault.line ≤ Session.start.line + (Text.lines (head ++ ['\n'])).length := by
    rw [Text.length_lines_newline, ← hline]
    exact Nat.le_add_left ..
  have hfault := (Session.fault_run_append_iff h).1.mpr hhead
  rw [Session.run_append, Step.andThen_of_fault hfault]
  exact hfault

/-- The lines in front of the fault have none. -/
theorem fault_conversionStep_firstLines {source : Text}
    (h : (conversionStep setup source).fault = some fault) {n : Nat} (hn : n < fault.line) :
    (conversionStep setup (source.firstLines n)).fault = none := by
  rw [conversionStep] at h ⊢
  rw [Text.lines_firstLines]
  rw [← List.take_append_drop n source.lines] at h
  refine (Session.fault_run_append_iff h).2.mpr ?_
  have hlength := List.length_take_le n source.lines
  exact Nat.lt_of_le_of_lt (by rwa [Session.start, Nat.zero_add]) hn

end

/-! ## 3. Conversions -/

variable {settings : Settings} {source : Text}

/-- Accepted settings leave only the program at fault. -/
theorem exists_program_of_convert (haccepted : settings.check = none) {fault : ConversionFault}
    (h : convert source settings = .error fault) : ∃ f, fault = .program f := by
  cases fault with
  | program f => exact ⟨f, rfl⟩
  | settings f =>
    rw [convert, haccepted] at h
    simp only at h
    split at h <;> cases h

/-- What is converted is converted without what stands behind a line feed, to the commands that come
first. -/
theorem convert_isPrefix {s t : Text} {commands : List Command}
    (h : convert (s ++ '\n' :: t) settings = .ok commands) :
    ∃ first, convert s settings = .ok first ∧ first <+: commands := by
  obtain ⟨haccepted, hfault, rfl⟩ := convert_eq_ok_iff.mp h
  -- A line feed at the end can make another line, but no other command.
  have hfront : (conversionStep settings.setup (s ++ ['\n'])).inLine 0 =
      (conversionStep settings.setup s).inLine 0 := by
    rw [conversionStep_inLine, conversionStep_inLine, programTexts_append_newline]
  obtain ⟨-, hcommands, -⟩ := Step.mk.inj hfront
  rw [conversionStep, Text.lines_append_newline, Session.run_append] at hfault ⊢
  have hfirst := (Step.fault_andThen_eq_none_iff.mp hfault).1
  have hnone := (Step.fault_eq_none_iff_of_inLine hfront).mp hfirst
  refine ⟨_, convert_eq_ok_iff.mpr ⟨haccepted, hnone, rfl⟩, ?_⟩
  rw [Step.andThen_of_no_fault hfirst, ← hcommands]
  exact List.prefix_append _ _

/-- **A fault names the first line that cannot be carried out.**  Under accepted settings it is an
unreadable command, a fill of nothing or a definition that makes no figure; if it is an endless
fill, there is no conversion at all.  The lines in front of the one that it names are converted,
and those behind it may be any.  A program that is converted is converted up to each of its line
feeds, to the commands that come first. -/
theorem convert_at_first_fault (haccepted : settings.check = none) :
    (∀ source fault, convert source settings = .error fault → ∃ f : Fault, fault = .program f ∧
      ((∃ command reason, f = .unreadable f.line command reason) ∨ f = .noObject f.line ∨
        (∃ vertices, f = .malformedObject f.line vertices) ∨
        (f = .endlessFill f.line ∧ ∃ t text center radius,
          Session.start.stop? settings.setup source.lines = some (t, text) ∧
          Instruction.read t.line text = .ok .fill ∧ t.workpiece.figure = .circle center radius ∧
          ∀ n, settings.setup.penWidth <
            remaining settings.setup.penWidth (Binary64.ofInt radius) n)) ∧
      1 ≤ f.line ∧ f.line ≤ source.lines.length ∧
      (∃ commands, convert (source.firstLines (f.line - 1)) settings = .ok commands) ∧
      ∀ head tail other, source = head ++ '\n' :: tail → head.count '\n' + 1 = f.line →
        convert (head ++ '\n' :: other) settings = .error fault) ∧
    ∀ s t commands, convert (s ++ '\n' :: t) settings = .ok commands →
      ∃ first, convert s settings = .ok first ∧ first <+: commands := by
  refine ⟨?_, fun s t commands => convert_isPrefix⟩
  intro source fault h
  obtain ⟨f, rfl⟩ := exists_program_of_convert haccepted h
  have hfault := (convert_eq_program_iff.mp h).2
  have hline := Session.line_of_fault_run hfault
  rw [Session.start, Nat.zero_add] at hline
  refine ⟨f, rfl, ?_, hline.1, hline.2, ?_, ?_⟩
  · cases f with
    | unreadable line command reason => exact .inl ⟨command, reason, rfl⟩
    | noObject line => exact .inr (.inl rfl)
    | malformedObject line vertices => exact .inr (.inr (.inl ⟨vertices, rfl⟩))
    | endlessFill line =>
      exact .inr (.inr (.inr ⟨rfl, Session.lt_remaining_of_endless haccepted h⟩))
  · have hnone := fault_conversionStep_firstLines hfault (Nat.sub_one_lt_of_lt hline.1)
    exact ⟨_, convert_eq_ok_iff.mpr ⟨haccepted, hnone, rfl⟩⟩
  · rintro head tail other rfl hcount
    exact convert_eq_program_iff.mpr ⟨haccepted, fault_conversionStep_append hfault hcount other⟩

/-- A fill in a definition is at fault in the second line, and whatever follows that line; the first
line is converted. -/
theorem convert_fill_in_definition :
    let head := "PD;PA4,4\r\nPM0;FP".toList
    Settings.check {} = none ∧
      (∀ other, convert (head ++ '\n' :: other) {} = .error (.program (.noObject 2))) ∧
      ∃ commands, convert "PD;PA4,4\r\n".toList {} = .ok commands := by
  intro head
  have haccepted : Settings.check {} = none := by decide +kernel
  have hfault : convert (head ++ '\n' :: []) {} = .error (.program (.noObject 2)) := by
    rw [convert_eq_program_iff]
    decide +kernel
  obtain ⟨hfirst, -⟩ := convert_at_first_fault haccepted
  obtain ⟨f, hf, -, -, -, hfront, hother⟩ := hfirst _ _ hfault
  obtain rfl := ConversionFault.program.inj hf
  refine ⟨haccepted, ?_, ?_⟩
  · intro other
    exact hother head [] other rfl (by decide)
  · have hlines : Text.firstLines 1 (head ++ '\n' :: []) = "PD;PA4,4\r\n".toList := by decide
    exact hlines ▸ hfront

end PenPlotter
