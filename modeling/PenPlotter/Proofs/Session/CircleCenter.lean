import PenPlotter.Proofs.Session.Plotting

/-!
# Where circles are centred

A circle outside a definition is drawn around the last position that a history centred circles at.
There are two kinds of these (`Session.centered`): outside a definition the targets of the moves
that points give, and inside one the points that are taken with the pen up.  Nothing else counts,
neither the moves that enter the outline or the fill of a figure, nor displacements, nor the start
or end of a definition.

Both kinds together are the points that are reached with the pen up, wherever that is
(`Session.centered_eq`).
-/

namespace PenPlotter

/-! ## 1. What centres circles -/

/-- Where a command moves the pen to, if it is a move to a position. -/
def Command.moveTarget? : Command → Option Position
  | .move target => some target
  | _ => none

/-- Whether an event is an instruction that goes through points. -/
def Event.hasPoints : Event → Bool
  | .newLine => false
  | .instruction i => i.route?.isSome

namespace Session

/-- The positions that an event centres circles at, in order: outside a definition the targets of
the moves that its points give, inside one the points that it comes to with the pen up. -/
def centered (setup : Setup Float) (e : Event) (s : Session) : List Position :=
  match s.workpiece.draft with
  | none =>
    if e.hasPoints then (undergo setup e s).commands.filterMap Command.moveTarget? else []
  | some _ => if e.penAfter s.pen.down then [] else e.reached setup.scaling

/-- The positions that events centre circles at. -/
def centeredAll (setup : Setup Float) : List Event → Session → List Position
  | [], _ => []
  | e :: rest, s => centered setup e s ++ centeredAll setup rest (undergo setup e s).session

/-- Where circles are centred behind a history: at the last position that it centred them at, and at
the origin if there is none. -/
def circleCenter (setup : Setup Float) (past : List Event) : Position :=
  (centeredAll setup past start).getLastD .origin

theorem centeredAll_append (setup : Setup Float) (events more : List Event) (s : Session) :
    centeredAll setup (events ++ more) s =
      centeredAll setup events s ++ centeredAll setup more (after setup events s) := by
  induction events generalizing s with
  | nil => rfl
  | cons e rest ih =>
    rw [List.cons_append, centeredAll, centeredAll, ih, List.append_assoc, after_cons]

/-! ## 2. The anchor of a session -/

theorem filterMap_moveTarget?_strokeTo (pen : Pen) (targets : List Position) :
    (targets.map pen.strokeTo).filterMap Command.moveTarget? =
      if pen.down then [] else targets := by
  rw [List.filterMap_map]
  cases hdown : pen.down with
  | true =>
    refine List.filterMap_eq_nil_iff.mpr fun target _ => ?_
    simp only [Function.comp_apply, Pen.strokeTo, hdown, if_true, Command.moveTarget?]
  | false =>
    have hsome : Command.moveTarget? ∘ pen.strokeTo = some := by
      funext target
      simp only [Function.comp_apply, Pen.strokeTo, hdown, Bool.false_eq_true, if_false,
        Command.moveTarget?]
    rw [hsome]
    exact List.filterMap_some

section

variable {K : Type} [Scalar K] {setup : Setup K}

/-- The anchor goes along with the positions that are taken with the pen up. -/
theorem anchor_takePositions (positions : List Position) (s : Session) :
    (s.takePositions positions).session.anchor =
      (if s.pen.down then [] else positions).getLastD s.anchor := by
  cases hdraft : s.workpiece.draft with
  | none =>
    rw [takePositions_of_no_draft hdraft]
    cases s.pen.down <;> rfl
  | some d =>
    cases hdown : s.pen.down with
    | true => rw [takePositions_of_draft_down hdraft hdown]; rfl
    | false => rw [takePositions_of_draft_up hdraft hdown]; rfl

theorem Effect.anchor {s t : Session} {i : Instruction K} (h : Effect setup s i t) :
    t.anchor =
      (if i.penAfter s.pen.down then [] else i.reached setup.scaling).getLastD s.anchor := by
  cases h with
  | points => exact anchor_takePositions _ _
  | select | displace | radius | start | finish | fill =>
    simp [Instruction.reached]

end

variable {setup : Setup Float}

/-- **Circles are centred at the points that are reached with the pen up**, inside a definition and
outside. -/
theorem centered_eq (e : Event) (s : Session) :
    centered setup e s = if e.penAfter s.pen.down then [] else e.reached setup.scaling := by
  cases hdraft : s.workpiece.draft with
  | some d => rw [centered, hdraft]
  | none =>
    rw [centered, hdraft]
    cases e with
    | newLine => simp [Event.hasPoints, Event.reached]
    | instruction i =>
      cases hroute : i.route? with
      | none => simp [Event.hasPoints, Event.reached, Instruction.reached_eq, hroute]
      | some route =>
        have hcommands : (s.execute setup i).commands =
            (setup.scaling.landed route.2).map
              ({ s.pen with down := i.penAfter s.pen.down } : Pen).strokeTo := by
          have htake := takePositions_of_no_draft
            (s := { s with pen.down := i.penAfter s.pen.down }) hdraft
            (setup.scaling.landed route.2)
          rw [execute_of_route? setup hroute, commands_plotPoints, htake]
        simp only [Event.hasPoints, hroute, undergo, hcommands, filterMap_moveTarget?_strokeTo,
          Event.reached, Instruction.reached_eq, Option.isSome_some, if_true, Option.elim_some,
          Event.penAfter]

theorem anchor_undergo (e : Event) (s : Session) :
    (undergo setup e s).session.anchor = (centered setup e s).getLastD s.anchor := by
  rw [centered_eq]
  cases e with
  | newLine => simp [Event.reached, undergo, Step.stay]
  | instruction i => exact (effect_execute setup i s).anchor

theorem anchor_after (events : List Event) (s : Session) :
    (after setup events s).anchor = (centeredAll setup events s).getLastD s.anchor := by
  induction events generalizing s with
  | nil => rfl
  | cons e rest ih =>
    rw [after_cons, ih, anchor_undergo, centeredAll]
    simp [List.getLastD_eq_getLast?, List.getLast?_append]

/-! ## 3. Runs -/

/-- An event without points, or that comes to its points with the pen down, centres no circles. -/
theorem centered_eq_nil {e : Event} {s : Session}
    (h : e.hasPoints = false ∨ e.penAfter s.pen.down = true) : centered setup e s = [] := by
  rw [centered_eq]
  rcases h with hpoints | hdown
  · have hreached : e.reached setup.scaling = [] := by
      cases e with
      | newLine => rfl
      | instruction i =>
        rw [Event.hasPoints, Option.isSome_eq_false_iff, Option.isNone_iff_eq_none] at hpoints
        rw [Event.reached, Instruction.reached_eq, hpoints]
        rfl
    rw [hreached, ite_self]
  · rw [if_pos hdown]

/-- Outside a definition a radius in range gives one circle, around the anchor. -/
theorem commands_execute_circle {s : Session} (hdraft : s.workpiece.draft = none) {raw : Float}
    (hfault : (s.execute setup (.circle raw)).fault = none) :
    ∃ radius, setup.scaling.measure? raw = some radius ∧
      (s.execute setup (.circle raw)).commands = [.circle s.anchor radius 0 360] := by
  cases hraw : setup.scaling.measure? raw with
  | none =>
    simp only [execute, takeRadius, hraw] at hfault
    cases hfault
  | some radius =>
    refine ⟨radius, rfl, ?_⟩
    simp only [execute, takeRadius, hraw, Workpiece.setRadius?, hdraft]
    rfl

/-- **A circle outside a definition is drawn once, around the last position that its history centred
circles at.**  What has no points leaves that where it is, and so do points with the pen down. -/
theorem circle_centered_of_trace {requests : List Request} {past future : List Event} {e : Event}
    (htrace : trace setup requests start = past ++ e :: future) :
    let s := after setup past start
    let step := undergo setup e s
    (Step.persist (respond setup) requests start).commands =
        (Step.persist (undergo setup) past start).commands ++ step.commands ++
          (Step.persist (undergo setup) future step.session).commands ∧
      (∀ raw, e = .instruction (.circle raw) → s.workpiece.draft = none → step.fault = none →
        ∃ radius, setup.scaling.measure? raw = some radius ∧
          step.commands = [.circle (circleCenter setup past) radius 0 360]) ∧
      (e.hasPoints = false ∨ Event.leaveDown (past ++ [e]) = true →
        circleCenter setup (past ++ [e]) = circleCenter setup past) := by
  intro s step
  refine ⟨commands_of_trace htrace, ?_, ?_⟩
  · rintro raw rfl hdraft hfault
    have hanchor : s.anchor = circleCenter setup past := anchor_after past start
    rw [← hanchor]
    exact commands_execute_circle hdraft hfault
  · intro h
    rw [← penAfter_after setup] at h
    rw [circleCenter, centeredAll_append, centeredAll, centered_eq_nil h]
    simp only [centeredAll, List.append_nil]
    rfl

/-- A circle behind a definition is drawn around the point that was taken with the pen up in it, in
an instruction that failed; the outline, the fill and the displacement in between do not count. -/
theorem circle_centered_at_definition :
    let setup := Settings.setup {}
    let circle : Event := .instruction (.circle (Binary64.ofInt 20))
    let requests : List Request :=
      [.feed "PA40,40;PM0;PA400,400,1e30,0;".toList,
        .feed "PD;PA0,0,40,0;PM2;EP;FP;PR4,4;CI20;".toList]
    let past := (trace setup requests start).dropLast
    trace setup requests start = past ++ [circle] ∧ circleCenter setup past = ⟨100, 100⟩ ∧
      (undergo setup circle (after setup past start)).commands = [.circle ⟨100, 100⟩ 5 0 360] := by
  intro setup circle requests past
  have htrace : trace setup requests start = past ++ [circle] := by decide +kernel
  have hcenter : circleCenter setup past = ⟨100, 100⟩ := by decide +kernel
  have hmeasure : setup.scaling.measure? (Binary64.ofInt 20) = some 5 := by decide +kernel
  obtain ⟨-, hcircle, -⟩ := circle_centered_of_trace htrace
  obtain ⟨radius, hradius, hcommands⟩ :=
    hcircle (Binary64.ofInt 20) rfl (by decide +kernel) (by decide +kernel)
  rw [hmeasure] at hradius
  cases hradius
  rw [hcenter] at hcommands
  exact ⟨htrace, hcenter, hcommands⟩

end Session

end PenPlotter
