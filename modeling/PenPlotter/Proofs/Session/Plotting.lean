import PenPlotter.Proofs.Session.Definition

/-!
# One command for each point

Outside a definition an instruction that goes through points gives one command for each of them, in
order, up to the first one out of range.  An instruction that goes along displacements does so
inside a definition too, up to the first one that is out of range or leads there.
`Step.GoesThrough` says this of a list and a step, and `Step.goesThrough_each` has it for any list
from what is true of its members.

Whether the commands draw is settled by the events so far: they do if the last one that raised or
lowered the pen lowered it (`Event.leaveDown`).  It does not matter whether that was inside a
definition, nor whether it failed afterwards.
-/

namespace PenPlotter

/-! ## 1. Going through a list -/

namespace Step

variable {α : Type}

/-- A step through a list: its members are accepted up to the first one that is refused, and each
that is accepted gives one command.  With the one that is refused the step fails. -/
def GoesThrough (step : Step) (items : List α) (accept? : α → Option Position)
    (stroke : Position → Command) (Refused : α → Session → Prop) (fault : Fault) : Prop :=
  ∃ (accepted rest : List α) (targets : List Position), items = accepted ++ rest ∧
    accepted.map accept? = targets.map some ∧ step.commands = targets.map stroke ∧
    match rest with
    | [] => step.fault = none
    | a :: _ => Refused a step.session ∧ step.fault = some fault

/-- If every member is either accepted for one command or refused with a fault, then the list is
gone through.  What the accepted members keep may be used for both. -/
theorem goesThrough_each {one : α → Session → Step} {accept? : α → Option Position}
    {stroke : Position → Command} {Refused : α → Session → Prop} {fault : Fault}
    {P : Session → Prop}
    (hone : ∀ a s, P s →
      (∃ target t, accept? a = some target ∧ P t ∧ one a s = give t (stroke target)) ∨
        Refused a s ∧ one a s = fail s fault)
    (items : List α) (s : Session) (hs : P s) :
    (each one items s).GoesThrough items accept? stroke Refused fault := by
  induction items generalizing s with
  | nil => exact ⟨[], [], [], rfl, rfl, rfl, rfl⟩
  | cons a more ih =>
    rcases hone a s hs with ⟨target, t, haccept, ht, hgive⟩ | ⟨hrefused, hfail⟩
    · obtain ⟨accepted, rest, targets, hitems, htargets, hcommands, hend⟩ := ih t ht
      rw [each, hgive, give_andThen]
      refine ⟨a :: accepted, rest, target :: targets, ?_, ?_, ?_, hend⟩
      · rw [hitems, List.cons_append]
      · rw [List.map_cons, List.map_cons, haccept, htargets]
      · rw [List.map_cons, hcommands]
    · rw [each, hfail, fail_andThen]
      exact ⟨[], a :: more, [], rfl, rfl, rfl, hrefused, rfl⟩

end Step

/-! ## 2. Instructions with points or displacements -/

/-- The letters of an instruction that goes through points, and the points. -/
def Instruction.route? {K : Type} : Instruction K → Option (String × List (Point K))
  | .penUp points => some ("PU", points)
  | .penDown points => some ("PD", points)
  | .plotAbsolute points => some ("PA", points)
  | _ => none

section

variable {K : Type} [Scalar K]

theorem Instruction.reached_eq (scaling : Scaling K) (i : Instruction K) :
    i.reached scaling = i.route?.elim [] fun route => scaling.landed route.2 := by
  cases i <;> rfl

namespace Session

/-- The pen is raised or lowered before the points are looked at. -/
theorem execute_of_route? (setup : Setup K) {i : Instruction K} {letters : String}
    {points : List (Point K)} (hroute : i.route? = some (letters, points)) (s : Session) :
    s.execute setup i =
      { s with pen.down := i.penAfter s.pen.down }.plotPoints setup letters points := by
  cases i with
  | penUp | penDown | plotAbsolute =>
    cases hroute
    rfl
  | reset | selectPen | plotRelative | polygonMode | circle | edge | fill | ignored => cases hroute

/-- Outside a definition, points are gone through. -/
theorem goesThrough_plotPoints (setup : Setup K) (letters : String) (points : List (Point K))
    {s : Session} (hdraft : s.workpiece.draft = none) :
    (s.plotPoints setup letters points).GoesThrough points setup.scaling.place? s.pen.strokeTo
      (fun p _ => setup.scaling.place? p = none) (s.outOfRange letters) := by
  refine Step.goesThrough_each
    (P := fun t => t.workpiece.draft = none ∧ t.pen.down = s.pen.down ∧ t.line = s.line)
    ?_ points s ⟨hdraft, rfl, rfl⟩
  rintro p t ⟨ht, hdown, hline⟩
  rw [plotPoint]
  cases hplace : setup.scaling.place? p with
  | none =>
    refine .inr ⟨rfl, ?_⟩
    simp only [outOfRange, hline]
  | some target =>
    have hstroke : t.pen.strokeTo target = s.pen.strokeTo target := by
      rw [Pen.strokeTo, Pen.strokeTo, hdown]
    refine .inl ⟨target, { t with
      pen.position := target, anchor := if t.pen.down then t.anchor else target },
      rfl, ⟨ht, hdown, hline⟩, ?_⟩
    rw [← hstroke]
    exact takePosition_of_no_draft ht target

/-- Displacements are gone through, inside a definition and outside. -/
theorem goesThrough_plotDeltas (setup : Setup K) (deltas : List (Point K)) (s : Session) :
    (s.plotDeltas setup deltas).GoesThrough deltas setup.scaling.displace? s.pen.strokeBy
      (fun d t => (setup.scaling.displace? d).bind t.pen.position.add? = none)
      (s.outOfRange "PR") := by
  refine Step.goesThrough_each (P := fun t => t.pen.down = s.pen.down ∧ t.line = s.line)
    ?_ deltas s ⟨rfl, rfl⟩
  rintro d t ⟨hdown, hline⟩
  rw [plotDelta]
  cases hdisplace : setup.scaling.displace? d with
  | none =>
    refine .inr ⟨rfl, ?_⟩
    simp only [Option.bind_none, outOfRange, hline]
  | some delta =>
    cases hadd : t.pen.position.add? delta with
    | none =>
      refine .inr ⟨hadd, ?_⟩
      simp only [Option.bind_some, Pen.goBy?, hadd, Option.map_none, outOfRange, hline]
    | some target =>
      refine .inl ⟨delta, { t with pen.position := target }, rfl, ⟨hdown, hline⟩, ?_⟩
      simp only [Option.bind_some, Pen.goBy?, hadd, Option.map_some, Pen.strokeBy, hdown]

end Session

end

/-! ## 3. The pen -/

namespace Event

/-- Whether an event lowers the pen or raises it, if it does either. -/
def lowers? : Event → Option Bool
  | .instruction (.penUp _) => some false
  | .instruction (.penDown _) => some true
  | _ => none

/-- Whether the last event that raised or lowered the pen lowered it.  The pen is up before any. -/
def leaveDown (events : List Event) : Bool :=
  (events.filterMap lowers?).getLastD false

theorem penAfter_eq (down : Bool) (e : Event) : e.penAfter down = e.lowers?.getD down := by
  cases e with
  | newLine => rfl
  | instruction i => cases i <;> rfl

theorem penAfterAll_eq (down : Bool) (events : List Event) :
    penAfterAll down events = (events.filterMap lowers?).getLastD down := by
  induction events generalizing down with
  | nil => rfl
  | cons e rest ih =>
    have hrest : penAfterAll down (e :: rest) = penAfterAll (e.penAfter down) rest := rfl
    rw [hrest, ih, penAfter_eq]
    cases hlowers : e.lowers? with
    | none => rw [List.filterMap_cons_none hlowers]; rfl
    | some lowered => rw [List.filterMap_cons_some hlowers, List.getLastD_cons]; rfl

end Event

/-! ## 4. Runs -/

namespace Session

variable {setup : Setup Float} {requests : List Request} {past future : List Event}

/-- What a run puts out is what is put out before an event, by the event and behind it. -/
theorem commands_of_trace {e : Event} {s : Session}
    (htrace : trace setup requests s = past ++ e :: future) :
    (Step.persist (respond setup) requests s).commands =
      (Step.persist (undergo setup) past s).commands ++
        (undergo setup e (after setup past s)).commands ++
        (Step.persist (undergo setup) future
          (undergo setup e (after setup past s)).session).commands := by
  rw [← persist_trace, htrace, Step.commands_persist_append, Step.commands_persist_cons,
    List.append_assoc]
  rfl

/-- The pen is down for an event if the last event that raised or lowered it, the event itself
included, lowered it. -/
theorem penAfter_after (setup : Setup Float) (past : List Event) (e : Event) :
    e.penAfter (after setup past start).pen.down = Event.leaveDown (past ++ [e]) := by
  rw [Event.leaveDown, ← Event.penAfterAll_eq, down_after, Event.penAfterAll, Event.penAfterAll,
    List.foldl_append]
  rfl

/-- **Each point that is reached gives one command, and so does each displacement**, in order and
with no others between them: the first ones outside a definition, the second ones everywhere.  They
draw if the last event that raised or lowered the pen lowered it. -/
theorem one_command_each_of_trace {i : Instruction Float}
    (htrace : trace setup requests start = past ++ .instruction i :: future) :
    let s := after setup past start
    let step := s.execute setup i
    let down := Event.leaveDown (past ++ [.instruction i])
    (Step.persist (respond setup) requests start).commands =
        (Step.persist (undergo setup) past start).commands ++ step.commands ++
          (Step.persist (undergo setup) future step.session).commands ∧
      (∀ letters points, i.route? = some (letters, points) → s.workpiece.draft = none →
        step.GoesThrough points setup.scaling.place? (fun p => if down then .draw p else .move p)
          (fun p _ => setup.scaling.place? p = none) (s.outOfRange letters)) ∧
      ∀ deltas, i = .plotRelative deltas →
        step.GoesThrough deltas setup.scaling.displace?
          (fun d => if down then .relativeDraw d else .relativeMove d)
          (fun d t => (setup.scaling.displace? d).bind t.pen.position.add? = none)
          (s.outOfRange "PR") := by
  intro s step down
  have hdown : i.penAfter s.pen.down = down := penAfter_after setup past (.instruction i)
  refine ⟨commands_of_trace htrace, ?_, ?_⟩
  · intro letters points hroute hdraft
    have hthrough := goesThrough_plotPoints setup letters points
      (s := { s with pen.down := i.penAfter s.pen.down }) hdraft
    rw [← execute_of_route? setup hroute s, hdown] at hthrough
    exact hthrough
  · rintro deltas rfl
    have hpen : s.pen.down = down := hdown
    have hthrough := goesThrough_plotDeltas setup deltas s
    have hstroke : s.pen.strokeBy = fun d => if down then .relativeDraw d else .relativeMove d := by
      rw [← hpen]
      rfl
    rwa [hstroke] at hthrough

/-- The pen is lowered during a definition by an instruction that fails, and is still down for
points behind the definition; the second of them is out of range. -/
theorem one_command_each_after_failure :
    let setup := Settings.setup {}
    let near : Point Float := ⟨Binary64.ofInt 4, Binary64.ofInt 8⟩
    let far : Point Float := ⟨Binary64.ofDecimal false 1 30, Binary64.ofInt 0⟩
    let i : Instruction Float := .plotAbsolute [near, far, near]
    let requests : List Request :=
      [.feed "PU8,8;PM0;PD4,4,1e30,0;".toList, .feed "PM2;".toList, .execute i]
    let past := (trace setup requests start).dropLast
    let s := after setup past start
    trace setup requests start = past ++ [.instruction i] ∧ s.workpiece.draft = none ∧
      (s.execute setup i).GoesThrough [near, far, near] setup.scaling.place? .draw
        (fun p _ => setup.scaling.place? p = none) (s.outOfRange "PA") := by
  intro setup near far i requests past s
  have htrace : trace setup requests start = past ++ [.instruction i] := by decide +kernel
  have hdraft : s.workpiece.draft = none := by decide +kernel
  have hdown : Event.leaveDown (past ++ [.instruction i]) = true := by decide +kernel
  obtain ⟨-, hpoints, -⟩ := one_command_each_of_trace htrace
  have hthrough := hpoints "PA" [near, far, near] rfl hdraft
  rw [hdown] at hthrough
  exact ⟨htrace, hdraft, hthrough⟩

end Session

end PenPlotter
