import PenPlotter.Proofs.History

/-!
# What an instruction does to a session

A session has few parts, and each instruction touches few of them.  This module says what happens
to each part, once for all instructions, in terms of three things that an instruction says:

* `Instruction.penAfter`: whether the pen is down from then on;
* `Instruction.reached`: the positions that it comes to, which are those of its points up to the
  first one out of range;
* `Instruction.radius?`: the radius that it gives.

What `Session.Effect` says of the parts (`Effect.down`, `Effect.line`, `Effect.radius_eq` and
`Effect.draft`) holds whether or not the instruction fails.  Section 2 has the closed form of going
through positions, in which the pen, a definition at hand and the plot are kept apart.
-/

namespace PenPlotter

variable {K : Type} [Scalar K]

/-! ## 1. What an instruction says -/

/-- The device positions of points, up to the first point that has none. -/
def Scaling.landed (scaling : Scaling K) : List (Point K) → List Position
  | [] => []
  | p :: rest =>
    match scaling.place? p with
    | some position => position :: landed scaling rest
    | none => []

namespace Instruction

/-- Whether the pen is down once an instruction has begun. -/
def penAfter (down : Bool) : Instruction K → Bool
  | .penUp _ => false
  | .penDown _ => true
  | _ => down

/-- The positions that an instruction comes to, whether it fails behind them or not. -/
def reached (scaling : Scaling K) : Instruction K → List Position
  | .penUp points | .penDown points | .plotAbsolute points => scaling.landed points
  | _ => []

/-- The radius that an instruction gives, if it does and it is in range. -/
def radius? (scaling : Scaling K) : Instruction K → Option Int
  | .circle raw => scaling.measure? raw
  | _ => none

end Instruction

/-- A definition that has heard of positions, with the pen down or up, and maybe of a radius. -/
def Draft.hear (d : Draft) (down : Bool) (positions : List Position) (radius : Option Int) :
    Draft where
  corners := if down then d.corners ++ positions else d.corners
  center := if down then d.center else positions.getLastD d.center
  radius := radius.getD d.radius

@[simp] theorem Draft.hear_nothing (d : Draft) (down : Bool) : d.hear down [] none = d := by
  cases down <;> simp [hear]

/-- The end of a definition makes its figure, or forgets it, or there is no definition to end. -/
theorem Workpiece.finish_cases (w : Workpiece) (line : Nat) :
    (w.draft = none ∧ (w.finish line).1 = w) ∨
      (∃ d figure, w.draft = some d ∧ d.figure? = some figure ∧
        (w.finish line).1 = ⟨none, figure⟩) ∨
      (w.finish line).1 = ⟨none, w.figure⟩ := by
  rw [finish]
  cases hdraft : w.draft with
  | none => exact .inl ⟨rfl, rfl⟩
  | some d =>
    simp only
    cases hfigure : d.figure? with
    | none => exact .inr (.inr rfl)
    | some figure => exact .inr (.inl ⟨d, figure, rfl, hfigure, rfl⟩)

/-! ## 2. Going through positions -/

namespace Step

@[simp] theorem stay_andThen (s : Session) (next : Session → Step) :
    (stay s).andThen next = next s := rfl

@[simp] theorem fail_andThen (s : Session) (f : Fault) (next : Session → Step) :
    (fail s f).andThen next = fail s f := rfl

theorem give_andThen (s : Session) (c : Command) (next : Session → Step) :
    (give s c).andThen next = ⟨(next s).session, c :: (next s).commands, (next s).fault⟩ := rfl

end Step

/-- Where the pen is has no part in what it draws. -/
theorem Pen.strokeTo_of_position (pen : Pen) (p : Position) :
    ({ pen with position := p } : Pen).strokeTo = pen.strokeTo := rfl

namespace Session

/-- Takes positions one after the other. -/
def takePositions (positions : List Position) (s : Session) : Step :=
  Step.each takePosition positions s

theorem takePosition_of_draft_down {s : Session} {d : Draft} (hdraft : s.workpiece.draft = some d)
    (hdown : s.pen.down = true) (p : Position) :
    s.takePosition p =
      .stay { s with workpiece.draft := some { d with corners := d.corners ++ [p] } } := by
  simp [takePosition, Workpiece.capture?, hdraft, hdown]

theorem takePosition_of_draft_up {s : Session} {d : Draft} (hdraft : s.workpiece.draft = some d)
    (hup : s.pen.down = false) (p : Position) :
    s.takePosition p =
      .stay { s with workpiece.draft := some { d with center := p }, anchor := p } := by
  simp [takePosition, Workpiece.capture?, hdraft, hup]

theorem takePosition_of_no_draft {s : Session} (hdraft : s.workpiece.draft = none)
    (p : Position) :
    s.takePosition p =
      .give { s with pen.position := p, anchor := if s.pen.down then s.anchor else p }
        (s.pen.strokeTo p) := by
  simp [takePosition, Workpiece.capture?, hdraft, Pen.goTo]

theorem fault_takePosition (p : Position) (s : Session) : (s.takePosition p).fault = none := by
  cases hdraft : s.workpiece.draft with
  | none => rw [takePosition_of_no_draft hdraft]; rfl
  | some d =>
    cases hdown : s.pen.down with
    | true => rw [takePosition_of_draft_down hdraft hdown]; rfl
    | false => rw [takePosition_of_draft_up hdraft hdown]; rfl

/-- With the pen down, a definition at hand takes all positions as corners. -/
theorem takePositions_of_draft_down {s : Session} {d : Draft}
    (hdraft : s.workpiece.draft = some d) (hdown : s.pen.down = true)
    (positions : List Position) :
    s.takePositions positions =
      .stay { s with workpiece.draft := some { d with corners := d.corners ++ positions } } := by
  induction positions generalizing s d with
  | nil => simp [takePositions, Step.each, ← hdraft]
  | cons p rest ih =>
    have hrest := ih (s := { s with
      workpiece.draft := some { d with corners := d.corners ++ [p] } }) rfl hdown
    simp only [takePositions] at hrest
    simp only [takePositions, Step.each, takePosition_of_draft_down hdraft hdown,
      Step.stay_andThen, hrest, List.append_assoc, List.singleton_append]

/-- With the pen up, a definition at hand takes the last position as its centre. -/
theorem takePositions_of_draft_up {s : Session} {d : Draft}
    (hdraft : s.workpiece.draft = some d) (hup : s.pen.down = false)
    (positions : List Position) :
    s.takePositions positions =
      .stay { s with
        workpiece.draft := some { d with center := positions.getLastD d.center },
        anchor := positions.getLastD s.anchor } := by
  induction positions generalizing s d with
  | nil => simp [takePositions, Step.each, ← hdraft]
  | cons p rest ih =>
    have hrest := ih (s := { s with
      workpiece.draft := some { d with center := p }, anchor := p }) rfl hup
    simp only [takePositions] at hrest
    simp only [takePositions, Step.each, takePosition_of_draft_up hdraft hup,
      Step.stay_andThen, hrest, List.getLastD_cons]

/-- Without a definition, the pen goes through all positions, and its moves take the anchor
along. -/
theorem takePositions_of_no_draft {s : Session} (hdraft : s.workpiece.draft = none)
    (positions : List Position) :
    s.takePositions positions =
      ⟨{ s with
          pen.position := positions.getLastD s.pen.position,
          anchor := if s.pen.down then s.anchor else positions.getLastD s.anchor },
        positions.map s.pen.strokeTo, none⟩ := by
  induction positions generalizing s with
  | nil => simp [takePositions, Step.each, Step.stay]
  | cons p rest ih =>
    have hrest := ih (s := { s with
      pen.position := p, anchor := if s.pen.down then s.anchor else p }) hdraft
    simp only [takePositions] at hrest
    simp only [takePositions, Step.each, takePosition_of_no_draft hdraft, Step.give_andThen, hrest,
      List.getLastD_cons, List.map_cons, Pen.strokeTo_of_position]
    cases s.pen.down <;> simp

theorem fault_takePositions (positions : List Position) (s : Session) :
    (s.takePositions positions).fault = none := by
  cases hdraft : s.workpiece.draft with
  | none => rw [takePositions_of_no_draft hdraft]
  | some d =>
    cases hdown : s.pen.down with
    | true => rw [takePositions_of_draft_down hdraft hdown]; rfl
    | false => rw [takePositions_of_draft_up hdraft hdown]; rfl

/-- Going through positions leaves alone what the last figure was, the radius, the line, and all of
the pen but where it is. -/
theorem frame_takePositions (positions : List Position) (s : Session) :
    let t := (s.takePositions positions).session
    t.workpiece.figure = s.workpiece.figure ∧ t.radius = s.radius ∧ t.line = s.line ∧
      t.pen.down = s.pen.down ∧ t.pen.number = s.pen.number := by
  cases hdraft : s.workpiece.draft with
  | none => simp [takePositions_of_no_draft hdraft]
  | some d =>
    cases hdown : s.pen.down with
    | true => simp [takePositions_of_draft_down hdraft hdown, Step.stay, hdown]
    | false => simp [takePositions_of_draft_up hdraft hdown, Step.stay, hdown]

theorem draft_takePositions (positions : List Position) (s : Session) :
    (s.takePositions positions).session.workpiece.draft =
      s.workpiece.draft.map (·.hear s.pen.down positions none) := by
  cases hdraft : s.workpiece.draft with
  | none => rw [takePositions_of_no_draft hdraft]; exact hdraft
  | some d =>
    cases hdown : s.pen.down with
    | true => simp [takePositions_of_draft_down hdraft hdown, Step.stay, Draft.hear]
    | false => simp [takePositions_of_draft_up hdraft hdown, Step.stay, Draft.hear]

/-! ## 3. Points and displacements -/

/-- Going through points is going through the positions that they land on, and then failing if
there are fewer of these. -/
theorem plotPoints_eq (setup : Setup K) (command : String) (points : List (Point K))
    (s : Session) :
    s.plotPoints setup command points =
      (s.takePositions (setup.scaling.landed points)).andThen fun t =>
        if (setup.scaling.landed points).length = points.length then .stay t
        else .fail t (t.outOfRange command) := by
  induction points generalizing s with
  | nil => rfl
  | cons p rest ih =>
    cases hplace : setup.scaling.place? p with
    | none =>
      simp [plotPoints, Step.each, plotPoint, Scaling.landed, takePositions, hplace]
    | some position =>
      have hfault := fault_takePosition position s
      have hrest := ih (s.takePosition position).session
      simp only [plotPoints, takePositions] at hrest
      simp only [plotPoints, takePositions, Step.each, plotPoint, hplace, Scaling.landed,
        Step.andThen, hfault, hrest, List.length_cons, Nat.add_right_cancel_iff]
      split <;> simp_all [List.append_assoc]

theorem session_plotPoints (setup : Setup K) (command : String) (points : List (Point K))
    (s : Session) :
    (s.plotPoints setup command points).session =
      (s.takePositions (setup.scaling.landed points)).session := by
  rw [plotPoints_eq, Step.andThen, fault_takePositions]
  simp only
  split <;> rfl

theorem commands_plotPoints (setup : Setup K) (command : String) (points : List (Point K))
    (s : Session) :
    (s.plotPoints setup command points).commands =
      (s.takePositions (setup.scaling.landed points)).commands := by
  rw [plotPoints_eq, Step.andThen, fault_takePositions]
  simp only
  split <;> exact List.append_nil _

/-- Displacements change nothing but where the pen is. -/
theorem session_plotDeltas (setup : Setup K) (deltas : List (Point K)) (s : Session) :
    ∃ p, (s.plotDeltas setup deltas).session = { s with pen.position := p } := by
  refine Step.each_induction
    (P := fun s t => ∃ p, t.session = { s with pen.position := p }) ?_ ?_ ?_ deltas s
  · intro s
    exact ⟨s.pen.position, rfl⟩
  · intro d s
    rw [plotDelta]
    cases hgo : (setup.scaling.displace? d).bind s.pen.goBy? with
    | none => exact ⟨s.pen.position, rfl⟩
    | some moved =>
      obtain ⟨delta, -, hgoBy⟩ := Option.bind_eq_some_iff.mp hgo
      obtain ⟨target, -, rfl⟩ := Option.map_eq_some_iff.mp hgoBy
      exact ⟨target, rfl⟩
  · rintro s first next ⟨p, hp⟩ ⟨q, hq⟩
    rw [Step.andThen]
    split
    · exact ⟨p, hp⟩
    · exact ⟨q, by rw [hq, hp]⟩

/-! ## 4. Instructions -/

/-- What an instruction can do to a session. -/
inductive Effect (setup : Setup K) (s : Session) : Instruction K → Session → Prop where
  | points {i : Instruction K} (hradius : i.radius? setup.scaling = none)
      (hstart : i ≠ .polygonMode .start) (hfinish : i ≠ .polygonMode .finish) :
      Effect setup s i ({ s with pen.down := i.penAfter s.pen.down }.takePositions
        (i.reached setup.scaling)).session
  | select (n : Nat) (number : Option Nat) :
      Effect setup s (.selectPen n) { s with pen.number := number }
  | displace (deltas : List (Point K)) (position : Position) :
      Effect setup s (.plotRelative deltas) { s with pen.position := position }
  | radius {raw : K} {r : Int} (hraw : setup.scaling.measure? raw = some r) :
      Effect setup s (.circle raw)
        { s with
          workpiece.draft := s.workpiece.draft.map fun d => { d with radius := r },
          radius := r }
  | start : Effect setup s (.polygonMode .start)
      { s with workpiece := s.workpiece.start s.anchor s.radius }
  | finish : Effect setup s (.polygonMode .finish)
      { s with workpiece := (s.workpiece.finish s.line).1 }
  | fill : Effect setup s .fill { s with workpiece.figure := s.workpiece.figure.filled K }

theorem effect_of_eq {setup : Setup K} {s t : Session} {i : Instruction K}
    (hradius : i.radius? setup.scaling = none) (hstart : i ≠ .polygonMode .start)
    (hfinish : i ≠ .polygonMode .finish)
    (ht : t = ({ s with pen.down := i.penAfter s.pen.down }.takePositions
      (i.reached setup.scaling)).session) : Effect setup s i t := by
  rw [ht]
  exact .points hradius hstart hfinish

/-- A fill puts the figure in order and leaves all else alone. -/
theorem session_execute_fill (setup : Setup K) (s : Session) :
    (s.execute setup .fill).session =
      { s with workpiece.figure := s.workpiece.figure.filled K } := by
  -- A fill that fails leaves no figure or a circle, and neither has an order.
  obtain ⟨pen, ⟨draft, figure⟩, anchor, radius, line⟩ := s
  cases figure with
  | circle center r =>
    simp only [execute, fillFigure, reduceCtorEq, if_false]
    split <;> rfl
  | none | polyline | triangle | square => rfl

/-- **An instruction has one of seven effects, whether it fails or not.** -/
theorem effect_execute (setup : Setup K) (i : Instruction K) (s : Session) :
    Effect setup s i (s.execute setup i).session := by
  cases i with
  | penUp points | penDown points | plotAbsolute points =>
    exact effect_of_eq rfl (by simp) (by simp) (session_plotPoints setup _ points _)
  | reset | edge | ignored => exact effect_of_eq rfl (by simp) (by simp) rfl
  | selectPen n =>
    simp only [execute, selectPen, Pen.select?]
    by_cases hn : n ≤ Pen.highest
    · rw [if_pos hn]; exact .select n (some n)
    · rw [if_neg hn]; exact .select n s.pen.number
  | plotRelative deltas =>
    obtain ⟨p, hp⟩ := session_plotDeltas setup deltas s
    rw [execute, hp]
    exact .displace deltas p
  | polygonMode mode =>
    cases mode with
    | start => exact .start
    | finish => exact .finish
    | other => exact effect_of_eq rfl (by simp) (by simp) rfl
  | circle raw =>
    cases hraw : setup.scaling.measure? raw with
    | none =>
      refine effect_of_eq hraw (by simp) (by simp) ?_
      simp only [execute, takeRadius, hraw]
      rfl
    | some r =>
      have hsession : (s.execute setup (.circle raw)).session =
          { s with
            workpiece.draft := s.workpiece.draft.map fun d => { d with radius := r },
            radius := r } := by
        obtain ⟨pen, ⟨draft, figure⟩, anchor, radius, line⟩ := s
        cases draft <;> simp [execute, takeRadius, hraw, Workpiece.setRadius?, Step.give, Step.stay]
      rw [hsession]
      exact .radius hraw
  | fill =>
    rw [session_execute_fill]
    exact .fill

/-! ## 5. The parts of a session -/

namespace Effect

variable {setup : Setup K} {s t : Session} {i : Instruction K}

/-- Whether the pen is down is a matter of the last instruction that raised or lowered it. -/
theorem down (h : Effect setup s i t) : t.pen.down = i.penAfter s.pen.down := by
  cases h with
  | points => exact (frame_takePositions _ _).2.2.2.1
  | select | displace | radius | start | finish | fill => rfl

/-- No instruction counts lines. -/
theorem line (h : Effect setup s i t) : t.line = s.line := by
  cases h with
  | points => exact (frame_takePositions _ _).2.2.1
  | select | displace | radius | start | finish | fill => rfl

/-- The radius is the one that the instruction gives, if it gives one. -/
theorem radius_eq (h : Effect setup s i t) :
    t.radius = (i.radius? setup.scaling).getD s.radius := by
  cases h with
  | points hradius =>
    rw [hradius]
    exact (frame_takePositions _ _).2.1
  | radius hraw => simp [Instruction.radius?, hraw]
  | select | displace | start | finish | fill => rfl

/-- A definition at hand hears the positions and the radius of an instruction that neither starts
nor ends a definition. -/
theorem draft (h : Effect setup s i t) (hstart : i ≠ .polygonMode .start)
    (hfinish : i ≠ .polygonMode .finish) :
    t.workpiece.draft =
      s.workpiece.draft.map
        (·.hear (i.penAfter s.pen.down) (i.reached setup.scaling) (i.radius? setup.scaling)) := by
  cases h with
  | points hradius => rw [hradius, draft_takePositions]
  | radius hraw =>
    simp [Instruction.radius?, Instruction.reached, Instruction.penAfter, hraw, Draft.hear]
  | select | displace | fill =>
    simp [Instruction.radius?, Instruction.reached, Draft.hear_nothing]
  | start => exact absurd rfl hstart
  | finish => exact absurd rfl hfinish

/-- There is no definition at hand behind the end of one. -/
theorem draft_finish (h : Effect setup s (.polygonMode .finish) t) : t.workpiece.draft = none := by
  cases h with
  | points _ _ hfinish => exact absurd rfl hfinish
  | finish =>
    rcases s.workpiece.finish_cases s.line with
      ⟨hdraft, hsame⟩ | ⟨d, figure, -, -, hmade⟩ | hforgotten
    · exact (congrArg Workpiece.draft hsame).trans hdraft
    · exact congrArg Workpiece.draft hmade
    · exact congrArg Workpiece.draft hforgotten

end Effect

end Session

end PenPlotter
