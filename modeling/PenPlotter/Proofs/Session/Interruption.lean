import PenPlotter.Proofs.Session.Confinement
import PenPlotter.Proofs.Session.LineNumber

/-!
# What a fault leaves behind

A fault loses what comes behind it and nothing in front of it.  An instruction with points can be
cut anywhere: what is left of it is an instruction of its own (`Travel.onward`), but for the
letters that its fault quotes (`Session.execute_travel_append`).  So a point that is refused leaves
the session and the commands of the points before it.

No other instruction does a part of its work and fails then.  `Session.Interruption` has all cases,
and `Session.InterruptedLine` has those of a line: the commands in front of the one that fails are
carried out, and of that one what an interruption leaves.
-/

namespace PenPlotter

/-! ## 1. Steps that fail -/

/-- A fault that quotes the given letters instead of its own text. -/
def Fault.quoting (letters : String) : Fault → Fault
  | unreadable line _ reason => unreadable line letters.toList reason
  | fault => fault

/-- A step whose fault quotes the given letters. -/
def Step.quoting (letters : String) (t : Step) : Step :=
  { t with fault := t.fault.map (Fault.quoting letters) }

namespace Step

variable {letters : String}

theorem quoting_of_no_fault {t : Step} (h : t.fault = none) : t.quoting letters = t := by
  rw [quoting, h, Option.map_none, ← h]

theorem quoting_andThen (first : Step) (next : Session → Step) :
    (first.andThen next).quoting letters =
      (first.quoting letters).andThen fun s => (next s).quoting letters := by
  cases h : first.fault with
  | some fault =>
    have hquoting : (first.quoting letters).fault = some (fault.quoting letters) := by
      rw [quoting, h, Option.map_some]
    rw [andThen_of_fault h, andThen_of_fault hquoting]
  | none =>
    rw [andThen_of_no_fault h, quoting_of_no_fault h, andThen_of_no_fault h]
    rfl

theorem each_quoting {α : Type} {step step' : α → Session → Step}
    (hstep : ∀ a s, step a s = (step' a s).quoting letters) (l : List α) (s : Session) :
    each step l s = (each step' l s).quoting letters := by
  induction l generalizing s with
  | nil => rfl
  | cons a rest ih => rw [each, each, quoting_andThen, hstep, funext ih]

/-- If no step does anything when it fails, a list of them leaves what was done before the member
with which it fails. -/
theorem each_eq_of_fault {α : Type} {step : α → Session → Step} {fault : Session → Fault}
    (hstep : ∀ a s, (step a s).fault ≠ none → step a s = .fail s (fault s)) {l : List α}
    {s : Session} (h : (each step l s).fault ≠ none) :
    ∃ done a rest, l = done ++ a :: rest ∧
      let t := each step done s
      t.fault = none ∧ step a t.session = .fail t.session (fault t.session) ∧
        each step l s = ⟨t.session, t.commands, some (fault t.session)⟩ := by
  obtain ⟨first, hfirst⟩ := Option.ne_none_iff_exists'.mp h
  obtain ⟨done, a, rest, hl, hdone, ha, heq⟩ := exists_of_fault_each hfirst
  have hfail := hstep a _ (ha ▸ Option.some_ne_none first)
  refine ⟨done, a, rest, hl, hdone, hfail, ?_⟩
  rw [heq, andThen_of_no_fault hdone, hfail, fail, List.append_nil]

end Step

/-! ## 2. Instructions with points -/

/-- The ways in which an instruction goes through points. -/
inductive Travel where
  | raised
  | lowered
  | absolute
  | relative
deriving DecidableEq, Repr

namespace Travel

/-- The letters of the instruction. -/
def letters : Travel → String
  | raised => "PU"
  | lowered => "PD"
  | absolute => "PA"
  | relative => "PR"

/-- The way to go on once the instruction has begun: the pen need not be raised or lowered again. -/
def onward : Travel → Travel
  | raised | lowered | absolute => absolute
  | relative => relative

/-- What the instruction does in front of its points. -/
def begin (s : Session) : Travel → Session
  | raised => { s with pen := s.pen.lift }
  | lowered => { s with pen := s.pen.lower }
  | absolute | relative => s

variable {K : Type}

/-- The instruction that goes through points in the given way. -/
def instruction : Travel → List (Point K) → Instruction K
  | raised => .penUp
  | lowered => .penDown
  | absolute => .plotAbsolute
  | relative => .plotRelative

variable [Scalar K] (setup : Setup K)

/-- What the instruction does at a point. -/
def step (way : Travel) (p : Point K) (s : Session) : Step :=
  match way with
  | raised | lowered | absolute => s.plotPoint setup way.letters p
  | relative => s.plotDelta setup p

theorem execute_instruction (way : Travel) (points : List (Point K)) (s : Session) :
    s.execute setup (way.instruction points) = .each (way.step setup) points (way.begin s) := by
  cases way <;> rfl

/-- A point that is refused changes nothing. -/
theorem step_of_fault {way : Travel} {p : Point K} {s : Session}
    (h : (way.step setup p s).fault ≠ none) :
    way.step setup p s = .fail s (s.outOfRange way.letters) := by
  cases way with
  | raised | lowered | absolute =>
    simp only [step, Session.plotPoint] at h ⊢
    split at h
    · exact absurd (Session.fault_takePosition _ s) h
    · rfl
  | relative =>
    simp only [step, Session.plotDelta] at h ⊢
    split at h
    · exact absurd rfl h
    · rfl

/-- Behind the beginning points are treated alike, but for the letters that are quoted. -/
theorem step_onward (way : Travel) (p : Point K) (s : Session) :
    way.step setup p s = (way.onward.step setup p s).quoting way.letters := by
  cases way with
  | raised | lowered | absolute =>
    simp only [step, onward, Session.plotPoint]
    split
    · exact (Step.quoting_of_no_fault (Session.fault_takePosition _ s)).symm
    · rfl
  | relative =>
    simp only [step, onward, Session.plotDelta]
    split <;> rfl

theorem begin_onward (way : Travel) (s : Session) : way.onward.begin s = s := by
  cases way <;> rfl

end Travel

namespace Session

section

variable {K : Type} [Scalar K] (setup : Setup K)

/-- **An instruction with points can be cut in two.**  The second one goes on where the first one
has come to, and quotes the letters of the whole. -/
theorem execute_travel_append (way : Travel) (a b : List (Point K)) (s : Session) :
    s.execute setup (way.instruction (a ++ b)) =
      (s.execute setup (way.instruction a)).andThen fun t =>
        (t.execute setup (way.onward.instruction b)).quoting way.letters := by
  rw [Travel.execute_instruction, Travel.execute_instruction, Step.each_append]
  refine congrArg (Step.andThen _) (funext fun t => ?_)
  rw [Travel.execute_instruction, Travel.begin_onward]
  exact Step.each_quoting (way.step_onward setup) b t

/-! ## 3. Instructions -/

/-- The ways in which an instruction fails in a session, and what each one leaves. -/
inductive Interruption (s : Session) : Instruction K → Step → Prop where
  | travel (way : Travel) {done : List (Point K)} {p : Point K} {rest : List (Point K)} {t : Step}
      (hdone : s.execute setup (way.instruction done) = t) (hfault : t.fault = none)
      (hrefused : t.session.execute setup (way.onward.instruction [p]) =
        .fail t.session (s.outOfRange way.onward.letters)) :
      Interruption s (way.instruction (done ++ p :: rest))
        ⟨t.session, t.commands, some (s.outOfRange way.letters)⟩
  | circle {raw : K} (hraw : setup.scaling.measure? raw = none) :
      Interruption s (.circle raw) (.fail s (s.outOfRange "CI"))
  | noObject (hfigure : s.workpiece.figure = .none) :
      Interruption s .fill (.fail s (.noObject s.line))
  | endlessFill (hfigure : s.workpiece.figure ≠ .none)
      (hendless : s.workpiece.figure.fillStrokes? setup.penWidth = none) :
      Interruption s .fill (.fail s (.endlessFill s.line))
  | finish {d : Draft} (hdraft : s.workpiece.draft = some d) (hcorners : d.figure? = none) :
      Interruption s (.polygonMode .finish)
        ⟨{ s with workpiece := .empty }, [], some (.malformedObject s.line d.corners.length)⟩

theorem execute_circle_of_none {raw : K} (hraw : setup.scaling.measure? raw = none) (s : Session) :
    s.execute setup (.circle raw) = .fail s (s.outOfRange "CI") := by
  rw [execute, takeRadius, hraw]

theorem interruption_of_travel (way : Travel) {points : List (Point K)} {s : Session}
    (h : (s.execute setup (way.instruction points)).fault ≠ none) :
    s.Interruption setup (way.instruction points) (s.execute setup (way.instruction points)) := by
  rw [Travel.execute_instruction] at h
  obtain ⟨done, p, rest, rfl, hdone, hp, heq⟩ :=
    Step.each_eq_of_fault (fun _ _ => Travel.step_of_fault setup) h
  have ht := way.execute_instruction setup done s
  have hline : (s.execute setup (way.instruction done)).session.outOfRange = s.outOfRange := by
    funext letters
    rw [outOfRange, outOfRange, (effect_execute setup _ s).line]
  rw [← ht] at hdone hp heq
  rw [Travel.execute_instruction, heq, hline]
  refine .travel way rfl hdone ?_
  have honward : (way.onward.step setup p (s.execute setup (way.instruction done)).session).fault ≠
      none := by
    intro hnone
    rw [Travel.step_onward, Step.quoting_of_no_fault hnone] at hp
    rw [hp] at hnone
    cases hnone
  rw [Travel.execute_instruction, Travel.begin_onward, Step.each, Travel.step_of_fault setup honward,
    Step.fail_andThen, hline]

/-- **An instruction that fails is interrupted in one of five ways.** -/
theorem interruption_of_fault {i : Instruction K} {s : Session} (hs : s.workpiece.IsExclusive)
    (h : (s.execute setup i).fault ≠ none) : s.Interruption setup i (s.execute setup i) := by
  cases i with
  | reset | edge | ignored => exact absurd rfl h
  | selectPen n =>
    simp only [execute, selectPen] at h
    split at h <;> exact absurd rfl h
  | penUp points => exact interruption_of_travel setup .raised h
  | penDown points => exact interruption_of_travel setup .lowered h
  | plotAbsolute points => exact interruption_of_travel setup .absolute h
  | plotRelative points => exact interruption_of_travel setup .relative h
  | polygonMode mode =>
    cases mode with
    | start | other => exact absurd rfl h
    | finish =>
      simp only [execute, polygonMode, Workpiece.finish] at h ⊢
      cases hdraft : s.workpiece.draft with
      | none => simp [hdraft] at h
      | some d =>
        cases hcorners : d.figure? with
        | some figure => simp [hdraft, hcorners] at h
        | none =>
          have hfigure : s.workpiece.figure = .none := hs (hdraft ▸ Option.some_ne_none d)
          simp only [hcorners, hfigure]
          exact .finish hdraft hcorners
  | circle raw =>
    cases hraw : setup.scaling.measure? raw with
    | none => exact execute_circle_of_none setup hraw s ▸ .circle hraw
    | some radius =>
      simp only [execute, takeRadius, hraw] at h
      split at h <;> exact absurd rfl h
  | fill =>
    by_cases hfigure : s.workpiece.figure = .none
    · rw [execute_fill_of_none setup hfigure]
      exact .noObject hfigure
    · rw [execute, fillFigure, if_neg hfigure] at h ⊢
      cases hstrokes : s.workpiece.figure.fillStrokes? setup.penWidth with
      | none => exact .endlessFill hfigure hstrokes
      | some strokes => simp [hstrokes] at h

end

/-! ## 4. Lines and runs -/

variable (setup : Setup Float)

theorem isExclusive_each_perform (texts : List Text) {s : Session} (hs : s.workpiece.IsExclusive) :
    (Step.each (perform setup) texts s).session.workpiece.IsExclusive :=
  Step.session_each_induction (P := fun t => t.workpiece.IsExclusive)
    (perform_induction setup fun i t ht => (effect_execute setup i t).isExclusive ht) texts s hs

/-- The ways in which a line fails in a session, and what each one leaves: what the commands in
front of the one that fails lead to, and of that one what an interruption leaves. -/
inductive InterruptedLine (s : Session) (line : Text) : Step → Prop where
  | unreadable {done : List Text} {text : Text} {rest : List Text} {reason : Unreadable} {t : Step}
      (hline : commandTexts line = done ++ text :: rest)
      (hdone : Step.each (perform setup) done { s with line := s.line + 1 } = t)
      (hfault : t.fault = none) (htext : Instruction.parse text = .error reason) :
      InterruptedLine s line ⟨t.session, t.commands, some (.unreadable (s.line + 1) text reason)⟩
  | interrupted {done : List Text} {text : Text} {rest : List Text} {i : Instruction Float}
      {t last : Step} (hline : commandTexts line = done ++ text :: rest)
      (hdone : Step.each (perform setup) done { s with line := s.line + 1 } = t)
      (hfault : t.fault = none) (htext : Instruction.parse text = .ok i)
      (hlast : t.session.Interruption setup i last) :
      InterruptedLine s line ⟨last.session, t.commands ++ last.commands, last.fault⟩

theorem interruptedLine_of_fault {line : Text} {s : Session} (hs : s.workpiece.IsExclusive)
    (h : (s.feed setup line).fault ≠ none) : s.InterruptedLine setup line (s.feed setup line) := by
  obtain ⟨fault, hfault⟩ := Option.ne_none_iff_exists'.mp h
  obtain ⟨done, text, rest, hline, hdone, htext, heq⟩ := Step.exists_of_fault_each hfault
  have hcount := line_each_perform setup done { s with line := s.line + 1 }
  rw [feed, heq, Step.andThen_of_no_fault hdone]
  rw [perform, Instruction.read, hcount] at htext ⊢
  cases hparse : Instruction.parse text with
  | error reason =>
    have hnothing := InterruptedLine.unreadable hline rfl hdone hparse
    rw [← List.append_nil (Step.commands _)] at hnothing
    exact hnothing
  | ok i =>
    rw [hparse] at htext
    refine .interrupted hline rfl hdone hparse (interruption_of_fault setup ?_ ?_)
    · exact isExclusive_each_perform setup done hs
    · exact htext ▸ Option.some_ne_none fault

/-- **A step that fails leaves what it had come to.**  After every run, an instruction with points
can be cut in two anywhere; an instruction that fails is interrupted, and in particular a radius
out of range and a fill of nothing change nothing; a line is counted whatever happens in it, and if
it fails it is interrupted; and what has been put out stays. -/
theorem interruption_of_run (setup : Setup Float) (requests : List Request) :
    let run := Step.persist (respond setup) requests start
    let s := run.session
    (∀ (way : Travel) (a b : List (Point Float)),
      s.execute setup (way.instruction (a ++ b)) =
        (s.execute setup (way.instruction a)).andThen fun t =>
          (t.execute setup (way.onward.instruction b)).quoting way.letters) ∧
    (∀ i, (s.execute setup i).fault ≠ none → s.Interruption setup i (s.execute setup i)) ∧
    (∀ raw, setup.scaling.measure? raw = none →
      s.execute setup (.circle raw) = .fail s (s.outOfRange "CI")) ∧
    (s.workpiece.figure = .none → s.execute setup .fill = .fail s (.noObject s.line)) ∧
    (∀ line, (s.feed setup line).session.line = s.line + 1 ∧
      ((s.feed setup line).fault ≠ none → s.InterruptedLine setup line (s.feed setup line))) ∧
    ∀ r, (Step.persist (respond setup) (requests ++ [r]) start).commands =
      run.commands ++ (s.respond setup r).commands := by
  intro run s
  have hs : s.workpiece.IsExclusive := isExclusive_of_run setup requests
  refine ⟨?_, ?_, ?_, ?_, ?_, ?_⟩
  · intro way a b
    exact execute_travel_append setup way a b s
  · intro i h
    exact interruption_of_fault setup hs h
  · intro raw hraw
    exact execute_circle_of_none setup hraw s
  · exact execute_fill_of_none setup
  · intro line
    exact ⟨line_feed setup line s, interruptedLine_of_fault setup hs⟩
  · intro r
    rw [Step.commands_persist_append, Step.commands_persist_cons, Step.persist_nil]
    exact congrArg _ (List.append_nil _)

/-- The second of three displacements leads out of range: the line is counted, the pen is where the
first one has taken it, and what stands behind is lost. -/
theorem interruptedLine_of_displacement :
    let setup := Settings.setup {}
    let run := Step.persist (respond setup) [.feed "IN;PD;".toList] start
    let line := "SP2;PA4,4;PR4,4,1e30,0,4,4;PU;".toList
    let t := run.session.feed setup line
    run.session.InterruptedLine setup line t ∧
      t = ⟨{ start with pen := ⟨⟨2, 2⟩, true, some 2⟩, line := 2 },
        [.selectPen 2, .draw ⟨1, 1⟩, .relativeDraw ⟨1, 1⟩],
        some (.unreadable 2 "PR".toList .outOfRange)⟩ := by
  intro setup run line t
  obtain ⟨-, -, -, -, hline, -⟩ := interruption_of_run setup [.feed "IN;PD;".toList]
  refine ⟨(hline line).2 ?_, ?_⟩
  · decide +kernel
  · decide +kernel

end Session

end PenPlotter
