import PenPlotter.Proofs.Fill.Corners
import PenPlotter.Proofs.Session.Effect

/-!
# What a session remembers is lossless

Every corner, centre and radius that a session remembers was rounded from a double when it was
read, and is a double itself therefore.  Only the position of the pen is not: displacements are
added to it as whole numbers, and nothing is defined by where the pen is.

The invariant is `Session.IsLossless`; `Session.isLossless_of_run` has it for every run.
-/

namespace PenPlotter

open Binary64

/-- Whether all that a definition has heard is lossless. -/
structure Draft.IsLossless (d : Draft) : Prop where
  corners : ∀ p ∈ d.corners, p.IsLossless
  center : d.center.IsLossless
  radius : PenPlotter.IsLossless d.radius

/-- Whether the corners of a figure are lossless, or its centre and radius. -/
def Figure.IsLossless : Figure → Prop
  | circle center radius => center.IsLossless ∧ PenPlotter.IsLossless radius
  | figure => ∀ p ∈ figure.corners, p.IsLossless

/-- Whether all that a session remembers apart from its pen is lossless. -/
structure Session.IsLossless (s : Session) : Prop where
  anchor : s.anchor.IsLossless
  radius : PenPlotter.IsLossless s.radius
  draft : ∀ d ∈ s.workpiece.draft, d.IsLossless
  figure : s.workpiece.figure.IsLossless

/-! ## 1. Where positions come from -/

theorem isLossless_zero : IsLossless 0 := by
  refine ⟨by decide, ?_⟩
  rw [IsDouble, Int.natAbs_zero, Nat.zero_mul]
  exact Nat.dvd_zero _

theorem Scaling.isLossless_of_place? {scaling : Scaling Float} {p : Point Float} {q : Position}
    (h : scaling.place? p = some q) : q.IsLossless := by
  obtain ⟨x, hx, h⟩ := Option.bind_eq_some_iff.mp h
  obtain ⟨y, hy, h⟩ := Option.bind_eq_some_iff.mp h
  cases h
  exact ⟨isLossless_of_toCoordinate? hx, isLossless_of_toCoordinate? hy⟩

theorem Scaling.isLossless_of_mem_landed {scaling : Scaling Float} {points : List (Point Float)}
    {q : Position} (h : q ∈ scaling.landed points) : q.IsLossless := by
  induction points with
  | nil => cases h
  | cons p rest ih =>
    rw [landed] at h
    cases hplace : scaling.place? p with
    | none =>
      rw [hplace] at h
      cases h
    | some position =>
      rw [hplace] at h
      rcases List.mem_cons.mp h with rfl | hrest
      · exact isLossless_of_place? hplace
      · exact ih hrest

theorem Instruction.isLossless_of_mem_reached {scaling : Scaling Float} {i : Instruction Float}
    {q : Position} (h : q ∈ i.reached scaling) : q.IsLossless := by
  cases i with
  | penUp points | penDown points | plotAbsolute points => exact Scaling.isLossless_of_mem_landed h
  | reset | selectPen | plotRelative | polygonMode | circle | edge | fill | ignored => cases h

theorem isLossless_getLastD {positions : List Position} {p : Position}
    (h : ∀ q ∈ positions, q.IsLossless) (hp : p.IsLossless) :
    (positions.getLastD p).IsLossless := by
  rcases List.mem_cons.mp (List.getLastD_mem_cons (l := positions) (a := p)) with heq | hmem
  · rw [heq]
    exact hp
  · exact h _ hmem

/-! ## 2. Figures -/

/-- What a definition makes is as lossless as the definition. -/
theorem Draft.IsLossless.figure {d : Draft} {figure : Figure} (h : d.IsLossless)
    (hfigure : d.figure? = some figure) : figure.IsLossless := by
  obtain ⟨corners, center, radius⟩ := d
  obtain ⟨hcorners, hcenter, hradius⟩ := h
  rw [figure?] at hfigure
  split at hfigure
  · cases hfigure
    exact ⟨hcenter, hradius⟩
  · cases hfigure
    simp_all [Figure.IsLossless, Figure.corners]
  · cases hfigure
    simp_all [Figure.IsLossless, Figure.corners]
  · cases hfigure
    simp_all [Figure.IsLossless, Figure.corners]
  · cases hfigure

/-- A fill chooses among the corners that there are. -/
theorem Figure.IsLossless.corners_filled_subset {figure : Figure} (h : figure.IsLossless) :
    (figure.filled Float).corners ⊆ figure.corners := by
  cases figure with
  | none | circle | polyline | triangle => exact List.Subset.refl _
  | square a b c d =>
    obtain ⟨f, hf, hfilled⟩ := filled_square h
    rw [hfilled]
    intro p hp
    obtain ⟨side, -, rfl⟩ := List.mem_map.mp (show p ∈ Side.all.map f from hp)
    exact (hf side).1

/-- A fill keeps a figure lossless. -/
theorem Figure.IsLossless.filled {figure : Figure} (h : figure.IsLossless) :
    (figure.filled Float).IsLossless := by
  cases figure with
  | none | circle | polyline | triangle => exact h
  | square a b c d => exact fun p hp => h p (h.corners_filled_subset hp)

/-! ## 3. Every run -/

namespace Session

theorem isLossless_start : start.IsLossless where
  anchor := ⟨isLossless_zero, isLossless_zero⟩
  radius := isLossless_zero
  draft := fun _ hd => by cases hd
  figure := fun _ hp => by cases hp

/-- Going through lossless positions keeps a session lossless. -/
theorem IsLossless.takePositions {s : Session} (hs : s.IsLossless) {positions : List Position}
    (hpositions : ∀ p ∈ positions, p.IsLossless) :
    (s.takePositions positions).session.IsLossless := by
  obtain ⟨hanchor, hradius, hdrafts, hfigure⟩ := hs
  have hlast := isLossless_getLastD hpositions hanchor
  cases hdraft : s.workpiece.draft with
  | none =>
    rw [takePositions_of_no_draft hdraft]
    refine ⟨?_, hradius, hdrafts, hfigure⟩
    show Point.IsLossless (if s.pen.down then s.anchor else positions.getLastD s.anchor)
    cases s.pen.down with
    | true => exact hanchor
    | false => exact hlast
  | some d =>
    obtain ⟨hcorners, hcenter, hdradius⟩ := hdrafts d hdraft
    cases hdown : s.pen.down with
    | true =>
      rw [takePositions_of_draft_down hdraft hdown]
      refine ⟨hanchor, hradius, ?_, hfigure⟩
      intro d' hd'
      cases Option.some.inj hd'
      refine ⟨?_, hcenter, hdradius⟩
      intro p hp
      rcases List.mem_append.mp hp with hp | hp
      · exact hcorners p hp
      · exact hpositions p hp
    | false =>
      rw [takePositions_of_draft_up hdraft hdown]
      refine ⟨hlast, hradius, ?_, hfigure⟩
      intro d' hd'
      cases Option.some.inj hd'
      exact ⟨hcorners, isLossless_getLastD hpositions hcenter, hdradius⟩

/-- **An instruction keeps a session lossless.** -/
theorem IsLossless.of_effect {setup : Setup Float} {s t : Session} {i : Instruction Float}
    (hs : s.IsLossless) (h : Effect setup s i t) : t.IsLossless := by
  cases h with
  | points =>
    have hlowered : ({ s with pen.down := i.penAfter s.pen.down } : Session).IsLossless :=
      ⟨hs.anchor, hs.radius, hs.draft, hs.figure⟩
    exact hlowered.takePositions fun p hp => Instruction.isLossless_of_mem_reached hp
  | select | displace => exact ⟨hs.anchor, hs.radius, hs.draft, hs.figure⟩
  | radius hraw =>
    have hr := isLossless_of_toCoordinate? hraw
    refine ⟨hs.anchor, hr, ?_, hs.figure⟩
    intro d hd
    obtain ⟨d', hd', rfl⟩ := Option.map_eq_some_iff.mp hd
    exact ⟨(hs.draft d' hd').corners, (hs.draft d' hd').center, hr⟩
  | start =>
    refine ⟨hs.anchor, hs.radius, ?_, fun p hp => absurd hp List.not_mem_nil⟩
    intro d hd
    cases Option.some.inj hd
    exact ⟨fun p hp => absurd hp List.not_mem_nil, hs.anchor, hs.radius⟩
  | finish =>
    have hfinished : (∀ d ∈ (s.workpiece.finish s.line).1.draft, d.IsLossless) ∧
        (s.workpiece.finish s.line).1.figure.IsLossless := by
      rcases s.workpiece.finish_cases s.line with
        ⟨-, hsame⟩ | ⟨d, figure, hdraft, hfigure, hmade⟩ | hforgotten
      · rw [hsame]
        exact ⟨hs.draft, hs.figure⟩
      · rw [hmade]
        exact ⟨nofun, (hs.draft d hdraft).figure hfigure⟩
      · rw [hforgotten]
        exact ⟨nofun, hs.figure⟩
    exact ⟨hs.anchor, hs.radius, hfinished.1, hfinished.2⟩
  | fill => exact ⟨hs.anchor, hs.radius, hs.draft, hs.figure.filled⟩

theorem IsLossless.line {s : Session} (hs : s.IsLossless) (line : Nat) :
    ({ s with line } : Session).IsLossless :=
  ⟨hs.anchor, hs.radius, hs.draft, hs.figure⟩

/-- **After every run, all that a session remembers apart from its pen is lossless.** -/
theorem isLossless_of_run (setup : Setup Float) (requests : List Request) :
    (Step.persist (respond setup) requests start).session.IsLossless :=
  run_induction setup isLossless_start (fun _ line hs => hs.line line)
    (fun i s hs => hs.of_effect (effect_execute setup i s)) requests

/-- It is where the feeding of lines stops, too. -/
theorem isLossless_of_stop? {setup : Setup Float} {lines : List Text} {t : Session} {text : Text}
    (h : start.stop? setup lines = some (t, text)) : t.IsLossless :=
  stop?_induction setup (fun _ line hs => hs.line line)
    (fun i s hs => hs.of_effect (effect_execute setup i s)) isLossless_start h

end Session

end PenPlotter
