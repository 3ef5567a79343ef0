import PenPlotter.Proofs.Session.Effect

/-!
# The number of the line

A session counts lines only to name them in faults, and an instruction does not count them.  Behind
another line number the same instruction leads to the same session, the same commands and the same
fault, but for the number (`Session.execute_inLine`), and so does the same command text
(`Session.perform_inLine`).

Two things follow.  A fault names the line that is counted (`Session.line_of_fault_perform`).  And
feeding lines comes to carrying out all of their commands in a row, but for the number
(`Session.run_inLine`), so that it does not matter how the commands are spread over lines.
-/

namespace PenPlotter

/-- A fault that names the given line instead of its own. -/
def Fault.inLine (line : Nat) : Fault → Fault
  | malformedObject _ vertices => malformedObject line vertices
  | noObject _ => noObject line
  | endlessFill _ => endlessFill line
  | unreadable _ command reason => unreadable line command reason

@[simp] theorem Fault.line_inLine (n : Nat) (f : Fault) : (f.inLine n).line = n := by
  cases f <;> rfl

/-- A session that has counted up to the given line instead of its own. -/
def Session.inLine (line : Nat) (s : Session) : Session :=
  { s with line }

/-- A step whose session and whose fault have the given line instead of their own. -/
def Step.inLine (line : Nat) (t : Step) : Step :=
  ⟨t.session.inLine line, t.commands, t.fault.map (Fault.inLine line)⟩

/-! ## 1. Steps in a row -/

namespace Step

variable {n : Nat}

/-- Of steps that agree but for the line numbers both fail or none. -/
theorem fault_eq_none_iff_of_inLine {t u : Step} (h : t.inLine n = u.inLine n) :
    t.fault = none ↔ u.fault = none := by
  obtain ⟨-, -, hfault⟩ := Step.mk.inj h
  rw [← Option.map_eq_none_iff, hfault, Option.map_eq_none_iff]

/-- Steps that agree but for the line numbers, one after the other. -/
theorem inLine_andThen_congr {first first' : Step} {next next' : Session → Step}
    (hfirst : first.inLine n = first'.inLine n)
    (hnext : ∀ s s' : Session, s.inLine n = s'.inLine n → (next s).inLine n = (next' s').inLine n) :
    (first.andThen next).inLine n = (first'.andThen next').inLine n := by
  obtain ⟨hsession, hcommands, hfault⟩ := Step.mk.inj hfirst
  cases h : first.fault with
  | some fault =>
    obtain ⟨fault', h', -⟩ := Option.map_eq_some_iff.mp (hfault.symm.trans (congrArg _ h))
    rw [andThen_of_fault h, andThen_of_fault h', hfirst]
  | none =>
    have h' : first'.fault = none := (fault_eq_none_iff_of_inLine hfirst).mp h
    obtain ⟨hlast, hmore, hend⟩ := Step.mk.inj (hnext _ _ hsession)
    rw [andThen_of_no_fault h, andThen_of_no_fault h', hcommands]
    simp only [inLine, hlast, hmore, hend]

theorem inLine_andThen {first : Step} {next : Session → Step}
    (hnext : ∀ s : Session, next (s.inLine n) = (next s).inLine n) :
    (first.andThen next).inLine n = (first.inLine n).andThen next := by
  cases h : first.fault with
  | some fault =>
    have hfault : (first.inLine n).fault = some (fault.inLine n) := by rw [inLine, h]; rfl
    rw [andThen_of_fault h, andThen_of_fault hfault]
  | none =>
    have hfault : (first.inLine n).fault = none := by rw [inLine, h]; rfl
    rw [andThen_of_no_fault h, andThen_of_no_fault hfault]
    exact congrArg (fun t : Step => Step.mk t.session (first.commands ++ t.commands) t.fault)
      (hnext first.session).symm

/-- If a line number makes no difference to the steps, it makes none to a list of them. -/
theorem each_inLine {α : Type} {step : α → Session → Step}
    (hstep : ∀ a s, step a (s.inLine n) = (step a s).inLine n) (l : List α) (s : Session) :
    each step l (s.inLine n) = (each step l s).inLine n := by
  induction l generalizing s with
  | nil => rfl
  | cons a rest ih => rw [each, each, hstep, inLine_andThen ih]

end Step

namespace Session

/-! ## 2. Instructions -/

section

variable {K : Type} [Scalar K] (setup : Setup K) (n : Nat)

theorem takePosition_inLine (p : Position) (s : Session) :
    (s.inLine n).takePosition p = (s.takePosition p).inLine n := by
  obtain ⟨pen, ⟨draft, figure⟩, anchor, radius, line⟩ := s
  cases draft with
  | none => rfl
  | some d =>
    cases hdown : pen.down <;> simp [takePosition, inLine, Workpiece.capture?, hdown] <;> rfl

theorem plotPoint_inLine (command : String) (p : Point K) (s : Session) :
    (s.inLine n).plotPoint setup command p = (s.plotPoint setup command p).inLine n := by
  rw [plotPoint, plotPoint]
  split
  · exact takePosition_inLine n _ s
  · rfl

theorem plotDelta_inLine (d : Point K) (s : Session) :
    (s.inLine n).plotDelta setup d = (s.plotDelta setup d).inLine n := by
  have hpen : (s.inLine n).pen = s.pen := rfl
  rw [plotDelta, plotDelta, hpen]
  split <;> rfl

/-- **An instruction does not depend on the line number but for the line that its fault names.** -/
theorem execute_inLine (i : Instruction K) (s : Session) :
    (s.inLine n).execute setup i = (s.execute setup i).inLine n := by
  cases i with
  | penUp points =>
    exact Step.each_inLine (plotPoint_inLine setup n "PU") points { s with pen := s.pen.lift }
  | penDown points =>
    exact Step.each_inLine (plotPoint_inLine setup n "PD") points { s with pen := s.pen.lower }
  | plotAbsolute points => exact Step.each_inLine (plotPoint_inLine setup n "PA") points s
  | plotRelative deltas => exact Step.each_inLine (plotDelta_inLine setup n) deltas s
  | reset | edge | ignored => rfl
  | selectPen number =>
    simp only [execute, selectPen, inLine]
    split <;> rfl
  | polygonMode mode =>
    cases mode with
    | start | other => rfl
    | finish =>
      obtain ⟨pen, ⟨draft, figure⟩, anchor, radius, line⟩ := s
      cases draft with
      | none => rfl
      | some d => cases hfigure : d.figure? <;> simp [execute, polygonMode, inLine, Step.inLine,
          Workpiece.finish, hfigure, Fault.inLine]
  | circle raw =>
    simp only [execute, takeRadius, inLine]
    split
    · rfl
    · split <;> rfl
  | fill =>
    have hworkpiece : (s.inLine n).workpiece = s.workpiece := rfl
    rw [execute, execute, fillFigure, fillFigure, hworkpiece]
    by_cases hfigure : s.workpiece.figure = .none
    · rw [if_pos hfigure, if_pos hfigure]
      rfl
    · rw [if_neg hfigure, if_neg hfigure]
      split <;> rfl

end

/-! ## 3. Commands and lines -/

variable (setup : Setup Float)

theorem perform_inLine (n : Nat) (text : Text) (s : Session) :
    (s.inLine n).perform setup text = (s.perform setup text).inLine n := by
  have hline : (s.inLine n).line = n := rfl
  rw [perform, perform, Instruction.read, Instruction.read, hline]
  cases Instruction.parse text with
  | error reason => rfl
  | ok i => exact execute_inLine setup n i s

theorem line_perform (text : Text) (s : Session) :
    (s.perform setup text).session.line = s.line := by
  rw [perform]
  split
  · rfl
  · exact (effect_execute setup _ s).line

/-- **The fault of a command names the line that has been counted.** -/
theorem line_of_fault_perform {text : Text} {s : Session} {fault : Fault}
    (h : (s.perform setup text).fault = some fault) : fault.line = s.line := by
  have hfault := congrArg (·.fault) (perform_inLine setup s.line text s)
  have hself : s.inLine s.line = s := rfl
  simp only [hself, Step.inLine, h, Option.map_some, Option.some.injEq] at hfault
  rw [hfault, Fault.line_inLine]

/-- Commands count no lines. -/
theorem line_each_perform (texts : List Text) (s : Session) :
    (Step.each (perform setup) texts s).session.line = s.line :=
  Step.session_each_induction (P := fun t => t.line = s.line)
    (fun text t ht => (line_perform setup text t).trans ht) texts s rfl

/-- A line that is fed is counted, whether there is a fault in it or not. -/
theorem line_feed (line : Text) (s : Session) :
    (s.feed setup line).session.line = s.line + 1 :=
  line_each_perform setup (commandTexts line) { s with line := s.line + 1 }

/-- The fault of a line names it. -/
theorem line_of_fault_feed {line : Text} {s : Session} {fault : Fault}
    (h : (s.feed setup line).fault = some fault) : fault.line = s.line + 1 := by
  obtain ⟨done, text, -, -, -, hfault, -⟩ := Step.exists_of_fault_each h
  rw [line_of_fault_perform setup hfault, line_each_perform]

/-- Lines that are fed without a fault are all counted. -/
theorem line_run {lines : List Text} {s : Session} (h : (s.run setup lines).fault = none) :
    (s.run setup lines).session.line = s.line + lines.length := by
  induction lines generalizing s with
  | nil => rfl
  | cons line rest ih =>
    rw [run, Step.each] at h ⊢
    obtain ⟨hfirst, hrest⟩ := Step.fault_andThen_eq_none_iff.mp h
    rw [Step.andThen_of_no_fault hfirst]
    refine (ih hrest).trans ?_
    rw [line_feed, List.length_cons]
    omega

/-- **Feeding lines comes to carrying out their commands in a row, but for the line numbers.** -/
theorem run_inLine {n : Nat} (lines : List Text) {s t : Session} (h : s.inLine n = t.inLine n) :
    (s.run setup lines).inLine n =
      (Step.each (perform setup) (lines.flatMap commandTexts) t).inLine n := by
  have hperform := Step.each_inLine (perform_inLine setup n)
  induction lines generalizing s t with
  | nil => exact congrArg (fun s : Session => Step.mk s [] none) h
  | cons line rest ih =>
    rw [List.flatMap_cons, Step.each_append]
    refine Step.inLine_andThen_congr ?_ fun s' t' => ih
    rw [feed, ← hperform, ← hperform, ← h]
    rfl

end Session

end PenPlotter
