import PenPlotter.Conversion
import PenPlotter.Proofs.Session.LineNumber
import PenPlotter.Proofs.Text.Lines

/-!
# Line structure matters for line numbers only

The lines of a plot program say where a fault is and nothing else.  With all of its commands on one
line a program is converted to the same commands, or has the same fault in another line; and with
carriage returns in front of its line feeds it has the same conversion altogether
(`convert_of_line_structure`).

The first half compares two sessions that count differently, which is what `Step.inLine` is for.  In
the second half the sessions are the same, since each line has the same commands.
-/

namespace PenPlotter

/-! ## 1. Conversions that agree but for line numbers -/

/-- A fault of a conversion without the line that it names. -/
def ConversionFault.unnumbered : ConversionFault → ConversionFault
  | settings fault => settings fault
  | program fault => program (fault.inLine 0)

/-- Steps that agree but for line numbers make conversions that do. -/
theorem mapError_convert_congr {source source' : Text} {settings : Settings}
    (h : (conversionStep settings.setup source).inLine 0 =
      (conversionStep settings.setup source').inLine 0) :
    (convert source settings).mapError ConversionFault.unnumbered =
      (convert source' settings).mapError ConversionFault.unnumbered := by
  rw [convert, convert]
  cases settings.check with
  | some fault => rfl
  | none =>
    obtain ⟨-, hcommands, hfault⟩ := Step.mk.inj h
    cases hend : (conversionStep settings.setup source).fault with
    | none =>
      have hend' := (Step.fault_eq_none_iff_of_inLine h).mp hend
      simp only [hend, hend', hcommands]
    | some fault =>
      obtain ⟨fault', hend', hsame⟩ := Option.map_eq_some_iff.mp (hfault.symm.trans (congrArg _ hend))
      simp only [hend, hend']
      exact congrArg (fun f => Except.error (ConversionFault.program f)) hsame.symm

/-- A conversion carries out the commands of all lines in a row, but for the line numbers. -/
theorem conversionStep_inLine (setup : Setup Float) (source : Text) :
    (conversionStep setup source).inLine 0 =
      (Step.each (Session.perform setup) (programTexts source) .start).inLine 0 :=
  Session.run_inLine setup source.lines rfl

/-! ## 2. Lines with the same commands -/

/-- Lines with the same commands are the same to a session. -/
theorem Session.run_congr (setup : Setup Float) {lines lines' : List Text}
    (h : lines.map commandTexts = lines'.map commandTexts) (s : Session) :
    s.run setup lines = s.run setup lines' := by
  have hfeed : ∀ lines : List Text, s.run setup lines =
      Step.each (fun texts (t : Session) =>
        Step.each (perform setup) texts { t with line := t.line + 1 })
        (lines.map commandTexts) s := by
    intro lines
    rw [Step.each_map]
    rfl
  rw [hfeed, h, ← hfeed]

/-! ## 3. Conversions -/

/-- **The lines of a program matter for the line numbers of faults only.**  A semicolon parts the
commands before it from those behind it, so that a program on one line is converted to the same
commands or has the same fault but for its line.  Carriage returns in front of line feeds make no
difference at all. -/
theorem convert_of_line_structure (source : Text) (settings : Settings) :
    (∀ s t, commandTexts (s ++ ';' :: t) = commandTexts s ++ commandTexts t) ∧
      (convert source.onOneLine settings).mapError ConversionFault.unnumbered =
        (convert source settings).mapError ConversionFault.unnumbered ∧
      convert source.withReturns settings = convert source settings := by
  refine ⟨commandTexts_append, ?_, ?_⟩
  · refine mapError_convert_congr ?_
    rw [conversionStep_inLine, conversionStep_inLine, programTexts_onOneLine]
  · have hstep : conversionStep settings.setup source.withReturns =
        conversionStep settings.setup source :=
      Session.run_congr settings.setup (map_commandTexts_lines_withReturns source) .start
    rw [convert, convert, hstep]

/-- A fault in the second line, behind a carriage return that ends no line: on one line the fault
is in the first, and carriage returns in front of line feeds leave it in the second. -/
example :
    let source : Text := "PU\r;PA4,4;\nFP".toList
    convert source {} = .error (.program (.noObject 2)) ∧
      convert source.onOneLine {} = .error (.program (.noObject 1)) ∧
      convert source.withReturns {} = .error (.program (.noObject 2)) := by
  intro source
  simp only [convert_eq_program_iff]
  decide +kernel

end PenPlotter
