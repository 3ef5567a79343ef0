import Mathlib.Data.List.Induction
import PenPlotter.Proofs.Session.Effect
import PenPlotter.Settings

/-!
# Where the pen is followed to

A session follows the pen: it knows where the pen is after what has been plotted.  The commands
that outline or fill a figure are not part of that, although they move the pen as well.

So the position that is followed is the one that the output leads to when the commands drawn from a
figure are left out (`Stroke.plotted`), after every run.  It is where the pen really is unless the
last move or draw to a position came from a figure; the next position that is plotted puts this
right again.
-/

namespace PenPlotter

/-! ## 1. What leads where -/

namespace Command

/-- Whether a command names the position that it goes to. -/
def isAbsolute : Command → Bool
  | move _ | draw _ => true
  | _ => false

@[simp] theorem movedBy_nil (p : Position) : movedBy p [] = p := rfl

@[simp] theorem movedBy_cons (p : Position) (c : Command) (rest : List Command) :
    movedBy p (c :: rest) = movedBy (moved p c) rest := rfl

@[simp] theorem movedBy_append (p : Position) (first second : List Command) :
    movedBy p (first ++ second) = movedBy (movedBy p first) second :=
  List.foldl_append

theorem moved_of_isAbsolute {c : Command} (h : c.isAbsolute = true) (p q : Position) :
    moved p c = moved q c := by
  cases c with
  | move | draw => rfl
  | reset | selectPen | relativeMove | relativeDraw | circle => cases h

/-- Whether a command can be drawn from a figure: it goes to a position or draws a circle. -/
def isOfFigure : Command → Bool
  | move _ | draw _ | circle .. => true
  | _ => false

theorem moved_of_isOfFigure {c : Command} (hfigure : c.isOfFigure = true)
    (habsolute : c.isAbsolute = false) (p : Position) : moved p c = p := by
  cases c with
  | circle => rfl
  | move | draw => cases habsolute
  | reset | selectPen | relativeMove | relativeDraw => cases hfigure

end Command

theorem Pen.moved_strokeTo (pen : Pen) (p target : Position) :
    Command.moved p (pen.strokeTo target) = target := by
  unfold strokeTo
  split <;> rfl

theorem Pen.movedBy_strokeTo (pen : Pen) (p : Position) (targets : List Position) :
    Command.movedBy p (targets.map pen.strokeTo) = targets.getLastD p := by
  induction targets generalizing p with
  | nil => rfl
  | cons target rest ih =>
    rw [List.map_cons, Command.movedBy_cons, pen.moved_strokeTo, ih, List.getLastD_cons]

theorem Pen.position_goBy? {pen moved : Pen} {delta : Position} {c : Command}
    (h : pen.goBy? delta = some (moved, c)) :
    moved.position = Command.moved pen.position c := by
  obtain ⟨target, htarget, hmoved⟩ := Option.map_eq_some_iff.mp h
  obtain ⟨-, -, rfl⟩ := Position.add?_eq_some_iff.mp htarget
  cases hmoved
  unfold strokeBy
  cases pen.down <;> rfl

/-! ## 2. Figures -/

section

variable {K : Type} [Scalar K]

theorem Figure.isOfFigure_of_mem_outline {figure : Figure} {c : Command}
    (h : c ∈ figure.outline) : c.isOfFigure = true := by
  cases figure with
  | none => cases h
  | circle center radius =>
    rw [List.mem_singleton.mp h]
    rfl
  | polyline | triangle | square =>
    rcases List.mem_cons.mp h with rfl | h
    · rfl
    · obtain ⟨p, -, rfl⟩ := List.mem_map.mp h
      rfl

theorem Figure.isOfFigure_of_mem_fillStrokes {figure : Figure} {w : K} {strokes : List Command}
    (h : figure.fillStrokes? w = some strokes) {c : Command} (hc : c ∈ strokes) :
    c.isOfFigure = true := by
  cases figure with
  | none | polyline | triangle =>
    cases h
    cases hc
  | circle center radius =>
    obtain ⟨radii, -, rfl⟩ := Option.map_eq_some_iff.mp h
    obtain ⟨r, -, rfl⟩ := List.mem_map.mp hc
    rfl
  | square a b c d =>
    cases h
    rcases List.mem_cons.mp hc with rfl | hc
    · rfl
    · obtain ⟨q, -, hq⟩ := List.mem_flatMap.mp hc
      obtain ⟨p, -, rfl⟩ := List.mem_map.mp hq
      rfl

end

/-! ## 3. Steps -/

namespace Session

variable {K : Type} [Scalar K]

theorem position_takePositions (positions : List Position) (s : Session) :
    (s.takePositions positions).session.pen.position =
      Command.movedBy s.pen.position (s.takePositions positions).commands := by
  cases hdraft : s.workpiece.draft with
  | none => rw [takePositions_of_no_draft hdraft, Pen.movedBy_strokeTo]
  | some d =>
    cases hdown : s.pen.down with
    | true => rw [takePositions_of_draft_down hdraft hdown]; rfl
    | false => rw [takePositions_of_draft_up hdraft hdown]; rfl

theorem position_plotDeltas (setup : Setup K) (deltas : List (Point K)) (s : Session) :
    (s.plotDeltas setup deltas).session.pen.position =
      Command.movedBy s.pen.position (s.plotDeltas setup deltas).commands := by
  refine Step.each_induction
    (P := fun s t => t.session.pen.position = Command.movedBy s.pen.position t.commands)
    ?_ ?_ ?_ deltas s
  · intro s
    rfl
  · intro d s
    rw [plotDelta]
    cases hgo : (setup.scaling.displace? d).bind s.pen.goBy? with
    | none => rfl
    | some moved =>
      obtain ⟨delta, -, hgoBy⟩ := Option.bind_eq_some_iff.mp hgo
      exact Pen.position_goBy? hgoBy
  · intro s first next hfirst hnext
    rw [Step.andThen]
    split
    · exact hfirst
    · rw [Command.movedBy_append, ← hfirst]
      exact hnext

/-- Except for the outline and the fill of a figure, an instruction leaves the pen where its
commands do. -/
theorem position_execute (setup : Setup K) {i : Instruction K} (hedge : i ≠ .edge)
    (hfill : i ≠ .fill) (s : Session) :
    (s.execute setup i).session.pen.position =
      Command.movedBy s.pen.position (s.execute setup i).commands := by
  cases i with
  | penUp points | penDown points | plotAbsolute points =>
    rw [execute, session_plotPoints, commands_plotPoints]
    exact position_takePositions _ _
  | plotRelative deltas => exact position_plotDeltas setup deltas s
  | selectPen n =>
    simp only [execute, selectPen, Pen.select?]
    by_cases hn : n ≤ Pen.highest
    · rw [if_pos hn]; rfl
    · rw [if_neg hn]; rfl
  | circle raw =>
    simp only [execute, takeRadius]
    split
    · rfl
    · split <;> rfl
  | polygonMode mode => cases mode <;> rfl
  | reset | ignored => rfl
  | edge => exact absurd rfl hedge
  | fill => exact absurd rfl hfill

/-- The outline and the fill of a figure leave the pen of the session alone. -/
theorem pen_of_figure (setup : Setup K) {i : Instruction K} (h : i = .edge ∨ i = .fill)
    (s : Session) : (s.execute setup i).session.pen = s.pen := by
  rcases h with rfl | rfl
  · rfl
  · simp only [execute, fillFigure]
    split
    · rfl
    · split <;> rfl

theorem isOfFigure_of_mem_execute (setup : Setup K) {i : Instruction K} (h : i = .edge ∨ i = .fill)
    (s : Session) {c : Command} (hc : c ∈ (s.execute setup i).commands) : c.isOfFigure = true := by
  rcases h with rfl | rfl
  · exact Figure.isOfFigure_of_mem_outline hc
  · simp only [execute, fillFigure] at hc
    split at hc
    · cases hc
    · split at hc
      · cases hc
      · rename_i strokes hstrokes
        exact Figure.isOfFigure_of_mem_fillStrokes hstrokes hc

end Session

/-! ## 4. Runs -/

/-- Whether an event draws a figure: its outline or its fill. -/
def Event.drawsFigure : Event → Bool
  | .instruction .edge | .instruction .fill => true
  | _ => false

theorem Event.exists_of_drawsFigure {e : Event} (h : e.drawsFigure = true) :
    ∃ i, e = .instruction i ∧ (i = .edge ∨ i = .fill) := by
  cases e with
  | newLine => cases h
  | instruction i =>
    cases i with
    | edge => exact ⟨.edge, rfl, .inl rfl⟩
    | fill => exact ⟨.fill, rfl, .inr rfl⟩
    | reset | selectPen | penUp | penDown | plotAbsolute | plotRelative | polygonMode | circle |
        ignored => cases h

/-- A command, and the event that gave rise to it. -/
structure Stroke where
  event : Event
  command : Command

/-- The commands of strokes. -/
def Stroke.commands (strokes : List Stroke) : List Command :=
  strokes.map Stroke.command

/-- The strokes that are not drawn from a figure. -/
def Stroke.plotted (strokes : List Stroke) : List Stroke :=
  strokes.filter (!·.event.drawsFigure)

/-- The last stroke to go to a position. -/
def Stroke.lastAbsolute? (strokes : List Stroke) : Option Stroke :=
  strokes.reverse.find? (·.command.isAbsolute)

/-- The strokes of events in a row. -/
def Session.strokes (setup : Setup Float) : List Event → Session → List Stroke
  | [], _ => []
  | e :: rest, s =>
    (undergo setup e s).commands.map (Stroke.mk e) ++ strokes setup rest (undergo setup e s).session

namespace Session

theorem commands_strokes (setup : Setup Float) (events : List Event) (s : Session) :
    Stroke.commands (strokes setup events s) =
      (Step.persist (undergo setup) events s).commands := by
  induction events generalizing s with
  | nil => rfl
  | cons e rest ih =>
    have hrest := ih (undergo setup e s).session
    simp only [Stroke.commands] at hrest
    simp [strokes, Stroke.commands, hrest, Function.comp_def]

/-- What a single event contributes to the position that is followed. -/
theorem position_undergo (setup : Setup Float) (e : Event) (s : Session) :
    (undergo setup e s).session.pen.position =
      Command.movedBy s.pen.position
        (Stroke.commands (Stroke.plotted ((undergo setup e s).commands.map (Stroke.mk e)))) := by
  by_cases hfigure : e.drawsFigure = true
  · have hnone :
        Stroke.plotted ((undergo setup e s).commands.map (Stroke.mk e)) = [] := by
      simp [Stroke.plotted, hfigure]
    rw [hnone]
    obtain ⟨i, rfl, hi⟩ := Event.exists_of_drawsFigure hfigure
    exact congrArg Pen.position (pen_of_figure setup hi s)
  · have hall :
        Stroke.commands (Stroke.plotted ((undergo setup e s).commands.map (Stroke.mk e))) =
          (undergo setup e s).commands := by
      have hkept : ∀ x ∈ (undergo setup e s).commands.map (Stroke.mk e),
          (!x.event.drawsFigure) = true := by
        intro x hx
        obtain ⟨c, -, rfl⟩ := List.mem_map.mp hx
        simpa using hfigure
      rw [Stroke.plotted, List.filter_eq_self.mpr hkept]
      simp [Stroke.commands, Function.comp_def]
    rw [hall]
    cases e with
    | newLine => rfl
    | instruction i =>
      refine position_execute setup ?_ ?_ s
      · rintro rfl; exact hfigure rfl
      · rintro rfl; exact hfigure rfl

/-- The position that is followed is the one that the plotted strokes lead to. -/
theorem position_persist (setup : Setup Float) (events : List Event) (s : Session) :
    (Step.persist (undergo setup) events s).session.pen.position =
      Command.movedBy s.pen.position
        (Stroke.commands (Stroke.plotted (strokes setup events s))) := by
  induction events generalizing s with
  | nil => rfl
  | cons e rest ih =>
    rw [Step.session_persist_cons, ih, position_undergo setup e s, ← Command.movedBy_append]
    simp only [strokes, Stroke.commands, Stroke.plotted, List.filter_append, List.map_append]

theorem isOfFigure_of_mem_strokes (setup : Setup Float) {events : List Event} {s : Session}
    {x : Stroke} (hx : x ∈ strokes setup events s) (hfigure : x.event.drawsFigure = true) :
    x.command.isOfFigure = true := by
  induction events generalizing s with
  | nil => cases hx
  | cons e rest ih =>
    rcases List.mem_append.mp hx with hx | hx
    · obtain ⟨c, hc, rfl⟩ := List.mem_map.mp hx
      obtain ⟨i, rfl, hi⟩ := Event.exists_of_drawsFigure hfigure
      exact isOfFigure_of_mem_execute setup hi s hc
    · exact ih hx

end Session

/-- Leaving out the strokes of figures makes no difference to where the rest leads if the last
stroke to a position is not one of them. -/
theorem Stroke.movedBy_plotted {strokes : List Stroke} (p : Position)
    (hfigure : ∀ x ∈ strokes, x.event.drawsFigure = true → x.command.isOfFigure = true)
    (hlast : ∀ x ∈ lastAbsolute? strokes, x.event.drawsFigure = false) :
    Command.movedBy p (commands (plotted strokes)) = Command.movedBy p (commands strokes) := by
  induction strokes using List.reverseRecOn with
  | nil => rfl
  | append_singleton strokes x ih =>
    have hsplit : commands (plotted (strokes ++ [x])) =
        commands (plotted strokes) ++ commands (plotted [x]) := by
      simp [commands, plotted]
    have hsplit' : commands (strokes ++ [x]) = commands strokes ++ [x.command] := by
      simp [commands]
    rw [hsplit, hsplit', Command.movedBy_append, Command.movedBy_append]
    by_cases habsolute : x.command.isAbsolute = true
    · -- The last stroke itself goes to a position, and whatever was before does not matter.
      have hx : x.event.drawsFigure = false := hlast x (by simp [lastAbsolute?, habsolute])
      have hkept : commands (plotted [x]) = [x.command] := by simp [commands, plotted, hx]
      rw [hkept]
      exact Command.moved_of_isAbsolute habsolute _ _
    · have hbefore := ih (fun y hy => hfigure y (List.mem_append_left _ hy))
        (fun y hy => hlast y (by simpa [lastAbsolute?, habsolute] using hy))
      rw [hbefore]
      cases hx : x.event.drawsFigure with
      | true =>
        have hleft : commands (plotted [x]) = [] := by simp [commands, plotted, hx]
        rw [hleft]
        exact (Command.moved_of_isOfFigure (hfigure x (by simp) hx)
          (Bool.eq_false_iff.mpr habsolute) _).symm
      | false =>
        have hkept : commands (plotted [x]) = [x.command] := by simp [commands, plotted, hx]
        rw [hkept]

namespace Session

/-- **The position that is followed is the one that the plotted strokes lead to, after every run.**
It is where all of the output leads to unless the last stroke to a position is from a figure. -/
theorem position_of_run (setup : Setup Float) (requests : List Request) :
    let run := Step.persist (respond setup) requests start
    let output := strokes setup (trace setup requests start) start
    Stroke.commands output = run.commands ∧
      run.session.pen.position =
        Command.movedBy .origin (Stroke.commands (Stroke.plotted output)) ∧
      ((∀ x ∈ Stroke.lastAbsolute? output, x.event.drawsFigure = false) →
        run.session.pen.position = Command.movedBy .origin run.commands) := by
  intro run output
  have hrun : Step.persist (undergo setup) (trace setup requests start) start = run :=
    persist_trace setup requests start
  have hcommands : Stroke.commands output = run.commands := by
    rw [← hrun]
    exact commands_strokes setup _ start
  have hposition : run.session.pen.position =
      Command.movedBy .origin (Stroke.commands (Stroke.plotted output)) := by
    rw [← hrun]
    exact position_persist setup _ start
  refine ⟨hcommands, hposition, ?_⟩
  intro hlast
  rw [hposition, ← hcommands]
  exact Stroke.movedBy_plotted .origin (fun x hx => isOfFigure_of_mem_strokes setup hx) hlast

/-- The outline of a polyline moves the plotter's pen to its last corner, and the session still has
the pen at the origin. -/
theorem position_ne_movedBy_of_outline :
    let run := Step.persist (respond (Settings.setup {}))
      [.feed "PM0;PD;PA0,0,400,0;PM2;EP;".toList] start
    Settings.check {} = none ∧
      run.session.pen.position ≠ Command.movedBy .origin run.commands := by
  decide +kernel

end Session

end PenPlotter
