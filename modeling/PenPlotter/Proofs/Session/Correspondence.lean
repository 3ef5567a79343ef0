import Mathlib.Data.List.Forall2
import PenPlotter.Proofs.Session.Effect

/-!
# Runs that correspond

One program can be run with two setups, and its numbers can be taken for others, of the same type
or of another one.  What the runs come to differs in the coordinates, and not in shape: as long as
neither fails, they give commands of the same kinds with the same pens, as many of them, and
remember the same but for coordinates.

`Corresponds R` says so of everything a session consists of: coordinates in the same places are
related by `R`.  Let the setups take every number of the program to related coordinates
(`Setup.Corresponds`).  Then each operation takes sessions that correspond to steps that do
(`Session.Corresponds.execute`), and hence every run does (`Session.Corresponds.runAs`).  A fill is
the exception, since the number of its strokes depends on the lengths.

A run that fails gives the commands in front of the fault, and they correspond to the first ones of
the other run.
-/

namespace PenPlotter

/-! ## 1. Coordinates in the same places -/

section

variable (R : Int → Int → Prop)

/-- Positions whose coordinates are related. -/
structure Point.Corresponds (p q : Position) : Prop where
  x : R p.x q.x
  y : R p.y q.y

/-- Commands of the same kind with the same pen and angles, whose coordinates are related. -/
inductive Command.Corresponds : Command → Command → Prop where
  | reset : Corresponds .reset .reset
  | selectPen (n : Nat) : Corresponds (.selectPen n) (.selectPen n)
  | move {p q : Position} (h : p.Corresponds R q) : Corresponds (.move p) (.move q)
  | draw {p q : Position} (h : p.Corresponds R q) : Corresponds (.draw p) (.draw q)
  | relativeMove {p q : Position} (h : p.Corresponds R q) :
      Corresponds (.relativeMove p) (.relativeMove q)
  | relativeDraw {p q : Position} (h : p.Corresponds R q) :
      Corresponds (.relativeDraw p) (.relativeDraw q)
  | circle {p q : Position} {r r' : Int} (h : p.Corresponds R q) (hradius : R r r') (a b : Int) :
      Corresponds (.circle p r a b) (.circle q r' a b)

/-- Definitions with as many corners. -/
structure Draft.Corresponds (d e : Draft) : Prop where
  corners : d.corners.Forall₂ (Point.Corresponds R) e.corners
  center : d.center.Corresponds R e.center
  radius : R d.radius e.radius

/-- Figures of the same kind. -/
inductive Figure.Corresponds : Figure → Figure → Prop where
  | none : Corresponds .none .none
  | circle {p q : Position} {r r' : Int} (h : p.Corresponds R q) (hradius : R r r') :
      Corresponds (.circle p r) (.circle q r')
  | polyline {a b a' b' : Position} (ha : a.Corresponds R a') (hb : b.Corresponds R b') :
      Corresponds (.polyline a b) (.polyline a' b')
  | triangle {a b c a' b' c' : Position} (ha : a.Corresponds R a') (hb : b.Corresponds R b')
      (hc : c.Corresponds R c') : Corresponds (.triangle a b c) (.triangle a' b' c')
  | square {a b c d a' b' c' d' : Position} (ha : a.Corresponds R a') (hb : b.Corresponds R b')
      (hc : c.Corresponds R c') (hd : d.Corresponds R d') :
      Corresponds (.square a b c d) (.square a' b' c' d')

/-- Sessions that remember the same but for coordinates.  Where the pen is and the lines counted are
left out, because no command depends on them. -/
structure Session.Corresponds (s t : Session) : Prop where
  down : s.pen.down = t.pen.down
  draft : Option.Rel (Draft.Corresponds R) s.workpiece.draft t.workpiece.draft
  figure : s.workpiece.figure.Corresponds R t.workpiece.figure
  anchor : s.anchor.Corresponds R t.anchor
  radius : R s.radius t.radius

/-- Steps that correspond.  One that fails gives no more commands than one that does not. -/
structure Step.Corresponds (t u : Step) : Prop where
  session : t.fault = none → u.fault = none → t.session.Corresponds R u.session
  /-- The commands in the same places. -/
  commands : ∀ (i : Nat) c d, t.commands[i]? = some c → u.commands[i]? = some d →
    c.Corresponds R d
  /-- The second one goes no further than the first one, if that does not fail. -/
  length_le : t.fault = none → u.commands.length ≤ t.commands.length
  /-- The first one goes no further than the second one, if that does not fail. -/
  le_length : u.fault = none → t.commands.length ≤ u.commands.length

variable {α K K' : Type} [Scalar K] [Scalar K']

/-- Setups that take the same numbers, whatever they stand for on either side, to related
coordinates. -/
structure Setup.Corresponds (value : α → K) (value' : α → K') (setup : Setup K)
    (setup' : Setup K') : Prop where
  place : ∀ (p : Point α) q q', setup.scaling.place? (p.map value) = some q →
    setup'.scaling.place? (p.map value') = some q' → q.Corresponds R q'
  displace : ∀ (d : Point α) e e', setup.scaling.displace? (d.map value) = some e →
    setup'.scaling.displace? (d.map value') = some e' → e.Corresponds R e'
  measure : ∀ (raw : α) r r', setup.scaling.measure? (value raw) = some r →
    setup'.scaling.measure? (value' raw) = some r' → R r r'

end

variable {R : Int → Int → Prop}

/-! ## 2. Steps in a row -/

namespace Step.Corresponds

/-- Steps whose commands correspond one by one. -/
theorem of_forall₂ {t u : Step} (hcommands : t.commands.Forall₂ (Command.Corresponds R) u.commands)
    (hsession : t.fault = none → u.fault = none → t.session.Corresponds R u.session) :
    t.Corresponds R u where
  session := hsession
  commands := by
    intro i c d hc hd
    obtain ⟨hi, rfl⟩ := List.getElem?_eq_some_iff.mp hc
    obtain ⟨hi', rfl⟩ := List.getElem?_eq_some_iff.mp hd
    exact hcommands.get hi hi'
  length_le _ := Nat.le_of_eq hcommands.length_eq.symm
  le_length _ := Nat.le_of_eq hcommands.length_eq

theorem stay {s t : Session} (h : s.Corresponds R t) : (Step.stay s).Corresponds R (.stay t) :=
  of_forall₂ .nil fun _ _ => h

theorem give {s t : Session} {c d : Command} (h : s.Corresponds R t) (hc : c.Corresponds R d) :
    (Step.give s c).Corresponds R (.give t d) :=
  of_forall₂ (.cons hc .nil) fun _ _ => h

/-- A step that fails and gives nothing corresponds to all steps. -/
theorem fail_left (s : Session) (fault : Fault) (u : Step) :
    (Step.fail s fault).Corresponds R u where
  session h := nomatch h
  commands _ _ _ hc := nomatch hc
  length_le h := nomatch h
  le_length _ := Nat.zero_le _

theorem fail_right (t : Step) (s : Session) (fault : Fault) :
    t.Corresponds R (.fail s fault) where
  session _ h := nomatch h
  commands _ _ _ _ hd := nomatch hd
  length_le _ := Nat.zero_le _
  le_length h := nomatch h

/-- Steps that do not fail give as many commands, which correspond one by one. -/
theorem forall₂ {t u : Step} (h : t.Corresponds R u) (ht : t.fault = none) (hu : u.fault = none) :
    t.commands.Forall₂ (Command.Corresponds R) u.commands := by
  have hlength := Nat.le_antisymm (h.le_length hu) (h.length_le ht)
  refine List.forall₂_iff_get.mpr ⟨hlength, ?_⟩
  intro i hi hi'
  exact h.commands i _ _ (List.getElem?_eq_getElem hi) (List.getElem?_eq_getElem hi')

/-- Behind a step that fails, the other one may go on. -/
theorem extend_right {t u : Step} (h : t.Corresponds R u) (ht : t.fault ≠ none)
    (hu : u.fault = none) (s : Session) (more : List Command) (fault : Option Fault) :
    t.Corresponds R ⟨s, u.commands ++ more, fault⟩ where
  session hnone := absurd hnone ht
  commands i c d hc hd := by
    obtain ⟨hi, -⟩ := List.getElem?_eq_some_iff.mp hc
    rw [List.getElem?_append_left (Nat.lt_of_lt_of_le hi (h.le_length hu))] at hd
    exact h.commands i c d hc hd
  length_le hnone := absurd hnone ht
  le_length _ := by
    have := h.le_length hu
    rw [List.length_append]
    omega

theorem extend_left {t u : Step} (h : t.Corresponds R u) (ht : t.fault = none)
    (hu : u.fault ≠ none) (s : Session) (more : List Command) (fault : Option Fault) :
    (Step.mk s (t.commands ++ more) fault).Corresponds R u where
  session _ hnone := absurd hnone hu
  commands i c d hc hd := by
    obtain ⟨hi, -⟩ := List.getElem?_eq_some_iff.mp hd
    rw [List.getElem?_append_left (Nat.lt_of_lt_of_le hi (h.length_le ht))] at hc
    exact h.commands i c d hc hd
  length_le _ := by
    have := h.length_le ht
    rw [List.length_append]
    omega
  le_length hnone := absurd hnone hu

/-- **Steps in a row correspond if they do one by one.** -/
theorem andThen {first first' : Step} {next next' : Session → Step}
    (hfirst : first.Corresponds R first')
    (hnext : ∀ s s' : Session, s.Corresponds R s' → (next s).Corresponds R (next' s')) :
    (first.andThen next).Corresponds R (first'.andThen next') := by
  cases h : first.fault with
  | some fault =>
    have hfault : first.fault ≠ none := h ▸ Option.some_ne_none fault
    rw [andThen_of_fault h]
    cases h' : first'.fault with
    | some fault' =>
      rw [andThen_of_fault h']
      exact hfirst
    | none =>
      rw [andThen_of_no_fault h']
      exact hfirst.extend_right hfault h' _ _ _
  | none =>
    rw [andThen_of_no_fault h]
    cases h' : first'.fault with
    | some fault' =>
      have hfault : first'.fault ≠ none := h' ▸ Option.some_ne_none fault'
      rw [andThen_of_fault h']
      exact hfirst.extend_left h hfault _ _ _
    | none =>
      have hsecond := hnext _ _ (hfirst.session h h')
      have hlength := Nat.le_antisymm (hfirst.le_length h') (hfirst.length_le h)
      rw [andThen_of_no_fault h']
      refine ⟨hsecond.session, ?_, ?_, ?_⟩
      · intro i c d hc hd
        rcases Nat.lt_or_ge i first.commands.length with hi | hi
        · rw [List.getElem?_append_left hi] at hc
          rw [List.getElem?_append_left (hlength ▸ hi)] at hd
          exact hfirst.commands i c d hc hd
        · rw [List.getElem?_append_right hi] at hc
          rw [List.getElem?_append_right (hlength ▸ hi), ← hlength] at hd
          exact hsecond.commands _ c d hc hd
      · intro hnone
        have := hsecond.length_le hnone
        simp only [List.length_append]
        omega
      · intro hnone
        have := hsecond.le_length hnone
        simp only [List.length_append]
        omega

theorem each {β : Type} {step step' : β → Session → Step} {l : List β}
    (hstep : ∀ b ∈ l, ∀ s s' : Session, s.Corresponds R s' →
      (step b s).Corresponds R (step' b s'))
    {s s' : Session} (h : s.Corresponds R s') :
    (Step.each step l s).Corresponds R (Step.each step' l s') := by
  induction l generalizing s s' with
  | nil => exact stay h
  | cons b rest ih =>
    refine andThen (hstep b List.mem_cons_self s s' h) fun t t' ht => ?_
    exact ih (fun c hc => hstep c (List.mem_cons_of_mem b hc)) ht

end Step.Corresponds

/-! ## 3. Figures and definitions -/

/-- The outlines of figures of the same kind. -/
theorem Figure.Corresponds.outline {f g : Figure} (h : f.Corresponds R g) :
    f.outline.Forall₂ (Command.Corresponds R) g.outline := by
  cases h with
  | none => exact .nil
  | circle h hradius => exact .cons (.circle h hradius 0 360) .nil
  | polyline ha hb => exact .cons (.move hb) (.cons (.draw ha) (.cons (.draw hb) .nil))
  | triangle ha hb hc =>
    exact .cons (.move hc) (.cons (.draw ha) (.cons (.draw hb) (.cons (.draw hc) .nil)))
  | square ha hb hc hd =>
    exact .cons (.move hd)
      (.cons (.draw ha) (.cons (.draw hb) (.cons (.draw hc) (.cons (.draw hd) .nil))))

/-- Definitions with as many corners make figures of the same kind, or none. -/
theorem Draft.Corresponds.figure? {d e : Draft} (h : d.Corresponds R e) :
    Option.Rel (Figure.Corresponds R) d.figure? e.figure? := by
  obtain ⟨corners, center, radius⟩ := d
  obtain ⟨corners', center', radius'⟩ := e
  obtain ⟨hcorners, hcenter, hradius⟩ := h
  simp only at hcorners hcenter hradius
  cases hcorners with
  | nil => exact .some (.circle hcenter hradius)
  | cons ha hrest =>
    cases hrest with
    | nil => exact .none
    | cons hb hrest =>
      cases hrest with
      | nil => exact .some (.polyline ha hb)
      | cons hc hrest =>
        cases hrest with
        | nil => exact .some (.triangle ha hb hc)
        | cons hd hrest =>
          cases hrest with
          | nil => exact .some (.square ha hb hc hd)
          | cons he hrest => exact .none

/-! ## 4. Instructions -/

/-- Strokes of pens that are both down or both up. -/
theorem Pen.strokeTo_corresponds {pen pen' : Pen} (hdown : pen.down = pen'.down) {p q : Position}
    (h : p.Corresponds R q) : (pen.strokeTo p).Corresponds R (pen'.strokeTo q) := by
  rw [strokeTo, strokeTo, ← hdown]
  split
  · exact .draw h
  · exact .move h

theorem Pen.strokeBy_corresponds {pen pen' : Pen} (hdown : pen.down = pen'.down) {d e : Position}
    (h : d.Corresponds R e) : (pen.strokeBy d).Corresponds R (pen'.strokeBy e) := by
  rw [strokeBy, strokeBy, ← hdown]
  split
  · exact .relativeDraw h
  · exact .relativeMove h

namespace Session.Corresponds

theorem start (h : R 0 0) : Session.start.Corresponds R .start where
  down := rfl
  draft := .none
  figure := .none
  anchor := ⟨h, h⟩
  radius := h

variable {s t : Session}

/-- Behind lines that are counted differently. -/
theorem line (h : s.Corresponds R t) (m n : Nat) :
    ({ s with line := m } : Session).Corresponds R { t with line := n } :=
  ⟨h.down, h.draft, h.figure, h.anchor, h.radius⟩

/-- Another pen in another place, up or down. -/
theorem pen (h : s.Corresponds R t) (pen pen' : Pen) (hdown : pen.down = pen'.down) :
    ({ s with pen } : Session).Corresponds R { t with pen := pen' } :=
  ⟨hdown, h.draft, h.figure, h.anchor, h.radius⟩

theorem takePosition (h : s.Corresponds R t) {p q : Position} (hpq : p.Corresponds R q) :
    (s.takePosition p).Corresponds R (t.takePosition q) := by
  obtain ⟨pen, ⟨draft, figure⟩, anchor, radius, line⟩ := s
  obtain ⟨pen', ⟨draft', figure'⟩, anchor', radius', line'⟩ := t
  obtain ⟨hdown, hdraft, hfigure, hanchor, hradius⟩ := h
  simp only at hdown hdraft hfigure hanchor hradius
  cases hdraft with
  | none =>
    rw [takePosition_of_no_draft rfl, takePosition_of_no_draft rfl]
    refine .give ⟨hdown, .none, hfigure, ?_, hradius⟩ (Pen.strokeTo_corresponds hdown hpq)
    cases hpen : pen.down with
    | true => simpa only [hpen, ← hdown, if_true] using hanchor
    | false => simpa only [hpen, ← hdown, Bool.false_eq_true, if_false] using hpq
  | some hd =>
    cases hpen : pen.down with
    | true =>
      rw [takePosition_of_draft_down rfl hpen, takePosition_of_draft_down rfl (hdown ▸ hpen)]
      refine .stay ⟨hdown, .some ⟨?_, hd.center, hd.radius⟩, hfigure, hanchor, hradius⟩
      exact List.rel_append hd.corners (.cons hpq .nil)
    | false =>
      rw [takePosition_of_draft_up rfl hpen, takePosition_of_draft_up rfl (hdown ▸ hpen)]
      exact .stay ⟨hdown, .some ⟨hd.corners, hpq, hd.radius⟩, hfigure, hpq, hradius⟩

section

variable {α K K' : Type} [Scalar K] [Scalar K'] {value : α → K} {value' : α → K'}
  {setup : Setup K} {setup' : Setup K'}

theorem plotPoint (hsetup : Setup.Corresponds R value value' setup setup')
    (h : s.Corresponds R t) (letters : String) (p : Point α) :
    (s.plotPoint setup letters (p.map value)).Corresponds R
      (t.plotPoint setup' letters (p.map value')) := by
  rw [Session.plotPoint, Session.plotPoint]
  cases hq : setup.scaling.place? (p.map value) with
  | none => exact .fail_left ..
  | some q =>
    cases hq' : setup'.scaling.place? (p.map value') with
    | none => exact .fail_right ..
    | some q' => exact h.takePosition (hsetup.place p q q' hq hq')

theorem plotDelta (hsetup : Setup.Corresponds R value value' setup setup')
    (h : s.Corresponds R t) (d : Point α) :
    (s.plotDelta setup (d.map value)).Corresponds R (t.plotDelta setup' (d.map value')) := by
  rw [Session.plotDelta, Session.plotDelta]
  cases hgo : (setup.scaling.displace? (d.map value)).bind s.pen.goBy? with
  | none => exact .fail_left ..
  | some moved =>
    cases hgo' : (setup'.scaling.displace? (d.map value')).bind t.pen.goBy? with
    | none => exact .fail_right ..
    | some moved' =>
      obtain ⟨e, he, hmoved⟩ := Option.bind_eq_some_iff.mp hgo
      obtain ⟨e', he', hmoved'⟩ := Option.bind_eq_some_iff.mp hgo'
      obtain ⟨target, -, rfl⟩ := Option.map_eq_some_iff.mp hmoved
      obtain ⟨target', -, rfl⟩ := Option.map_eq_some_iff.mp hmoved'
      exact .give (h.pen _ _ h.down) (Pen.strokeBy_corresponds h.down (hsetup.displace d e e' he he'))

theorem plotPoints (hsetup : Setup.Corresponds R value value' setup setup')
    (h : s.Corresponds R t) (letters : String) (points : List (Point α)) :
    (s.plotPoints setup letters (points.map (Point.map value))).Corresponds R
      (t.plotPoints setup' letters (points.map (Point.map value'))) := by
  rw [Session.plotPoints, Session.plotPoints, Step.each_map, Step.each_map]
  exact .each (fun p _ s t hst => hst.plotPoint hsetup letters p) h

theorem plotDeltas (hsetup : Setup.Corresponds R value value' setup setup')
    (h : s.Corresponds R t) (deltas : List (Point α)) :
    (s.plotDeltas setup (deltas.map (Point.map value))).Corresponds R
      (t.plotDeltas setup' (deltas.map (Point.map value'))) := by
  rw [Session.plotDeltas, Session.plotDeltas, Step.each_map, Step.each_map]
  exact .each (fun d _ s t hst => hst.plotDelta hsetup d) h

theorem selectPen (h : s.Corresponds R t) (n : Nat) :
    (s.selectPen n).Corresponds R (t.selectPen n) := by
  rw [Session.selectPen, Session.selectPen, Pen.select?, Pen.select?]
  by_cases hn : n ≤ Pen.highest
  · rw [if_pos hn, if_pos hn]
    exact .give (h.pen _ _ h.down) (.selectPen n)
  · rw [if_neg hn, if_neg hn]
    exact .stay h

theorem takeRadius (hsetup : Setup.Corresponds R value value' setup setup')
    (h : s.Corresponds R t) (raw : α) :
    (s.takeRadius setup (value raw)).Corresponds R (t.takeRadius setup' (value' raw)) := by
  rw [Session.takeRadius, Session.takeRadius]
  cases hr : setup.scaling.measure? (value raw) with
  | none => exact .fail_left ..
  | some r =>
    cases hr' : setup'.scaling.measure? (value' raw) with
    | none => exact .fail_right ..
    | some r' =>
      have hradius := hsetup.measure raw r r' hr hr'
      obtain ⟨pen, ⟨draft, figure⟩, anchor, radius, line⟩ := s
      obtain ⟨pen', ⟨draft', figure'⟩, anchor', radius', line'⟩ := t
      obtain ⟨hdown, hdraft, hfigure, hanchor, -⟩ := h
      simp only at hdown hdraft hfigure hanchor
      cases hdraft with
      | none =>
        exact .give ⟨hdown, .none, hfigure, hanchor, hradius⟩ (.circle hanchor hradius 0 360)
      | some hd =>
        exact .stay ⟨hdown, .some ⟨hd.corners, hd.center, hradius⟩, hfigure, hanchor, hradius⟩

theorem polygonMode (h : s.Corresponds R t) (mode : PolygonMode) :
    (s.polygonMode mode).Corresponds R (t.polygonMode mode) := by
  cases mode with
  | other => exact .stay h
  | start =>
    exact .stay ⟨h.down, .some ⟨.nil, h.anchor, h.radius⟩, .none, h.anchor, h.radius⟩
  | finish =>
    obtain ⟨pen, ⟨draft, figure⟩, anchor, radius, line⟩ := s
    obtain ⟨pen', ⟨draft', figure'⟩, anchor', radius', line'⟩ := t
    obtain ⟨hdown, hdraft, hfigure, hanchor, hradius⟩ := h
    simp only at hdown hdraft hfigure hanchor hradius
    cases hdraft with
    | none => exact .stay ⟨hdown, .none, hfigure, hanchor, hradius⟩
    | @some d e hd =>
      have hmade := hd.figure?
      simp only [Session.polygonMode, Workpiece.finish]
      generalize d.figure? = made, e.figure? = made' at hmade
      cases hmade with
      | none => exact .of_forall₂ .nil fun hnone => absurd hnone (Option.some_ne_none _)
      | some hmade => exact .stay ⟨hdown, .none, hmade, hanchor, hradius⟩

/-- **Whatever it is, but for a fill, an instruction takes sessions that correspond to steps that
do.** -/
theorem execute (hsetup : Setup.Corresponds R value value' setup setup')
    (h : s.Corresponds R t) {i : Instruction α} (hfill : i ≠ .fill) :
    (s.execute setup (i.map value)).Corresponds R (t.execute setup' (i.map value')) := by
  cases i with
  | reset => exact .give h .reset
  | selectPen n => exact h.selectPen n
  | penUp points => exact (h.pen s.pen.lift t.pen.lift rfl).plotPoints hsetup "PU" points
  | penDown points => exact (h.pen s.pen.lower t.pen.lower rfl).plotPoints hsetup "PD" points
  | plotAbsolute points => exact h.plotPoints hsetup "PA" points
  | plotRelative deltas => exact h.plotDeltas hsetup deltas
  | polygonMode mode => exact h.polygonMode mode
  | circle raw => exact h.takeRadius hsetup raw
  | edge => exact .of_forall₂ h.figure.outline fun _ _ => h
  | fill => exact absurd rfl hfill
  | ignored => exact .stay h

end

end Session.Corresponds

/-! ## 5. Programs -/

/-- Only the letters of a fill stand for one. -/
theorem Instruction.parse_ne_fill {text : Text} (h : ¬ "FP".toList <+: text) :
    parse text ≠ .ok .fill := by
  intro hfill
  unfold parse at hfill
  split at hfill
  case h_10 => exact h (List.prefix_append ['F', 'P'] _)
  case h_2 parameters =>
    unfold ofPenNumber at hfill
    split at hfill
    · split at hfill <;> cases hfill
    · cases hfill
  case h_3 parameters | h_4 parameters =>
    cases hread : readStroke parameters <;> rw [hread] at hfill <;> cases hfill
  case h_6 parameters | h_7 parameters =>
    cases hread : readPoints parameters <;> rw [hread] at hfill <;> cases hfill
  case h_8 parameters =>
    cases hread : readNumber (parameters.takeWhile (· ≠ ',')) <;> rw [hread] at hfill <;> cases hfill
  case h_1 | h_5 | h_9 | h_11 => cases hfill

@[simp] theorem Point.map_id {α : Type} : Point.map (id : α → α) = id := rfl

@[simp] theorem Instruction.map_id {α : Type} (i : Instruction α) : i.map id = i := by
  cases i <;> simp [map]

namespace Session

section

variable {K : Type} [Scalar K] (value : Float → K) (setup : Setup K)

/-- Reads a command and carries it out with other numbers for its own. -/
def performAs (text : Text) (s : Session) : Step :=
  match Instruction.read s.line text with
  | .error fault => .fail s fault
  | .ok i => s.execute setup (i.map value)

/-- Counts a line and carries out its commands with other numbers for theirs. -/
def feedAs (line : Text) (s : Session) : Step :=
  Step.each (performAs value setup) (commandTexts line) { s with line := s.line + 1 }

/-- Feeds lines with other numbers for theirs, up to the first fault. -/
def runAs (lines : List Text) (s : Session) : Step :=
  Step.each (feedAs value setup) lines s

end

/-- With the numbers as they are it is a run. -/
theorem runAs_id (setup : Setup Float) : runAs id setup = run setup := by
  have hperform : performAs id setup = perform setup := by
    funext text s
    rw [performAs, perform]
    cases Instruction.read s.line text with
    | error fault => rfl
    | ok i => exact congrArg (execute setup · s) i.map_id
  have hfeed : feedAs id setup = feed setup := by
    funext line s
    rw [feedAs, feed, hperform]
  funext lines s
  rw [runAs, run, hfeed]

namespace Corresponds

variable {K K' : Type} [Scalar K] [Scalar K'] {value : Float → K} {value' : Float → K'}
  {setup : Setup K} {setup' : Setup K'} {s t : Session}

theorem performAs (hsetup : Setup.Corresponds R value value' setup setup')
    (h : s.Corresponds R t) {text : Text} (htext : ¬ "FP".toList <+: text) :
    (s.performAs value setup text).Corresponds R (t.performAs value' setup' text) := by
  rw [Session.performAs, Session.performAs, Instruction.read, Instruction.read]
  cases hparse : Instruction.parse text with
  | error reason => exact .fail_left ..
  | ok i =>
    refine h.execute hsetup ?_
    rintro rfl
    exact Instruction.parse_ne_fill htext hparse

theorem feedAs (hsetup : Setup.Corresponds R value value' setup setup')
    (h : s.Corresponds R t) {line : Text} (hline : ∀ text ∈ commandTexts line,
      ¬ "FP".toList <+: text) :
    (s.feedAs value setup line).Corresponds R (t.feedAs value' setup' line) := by
  refine Step.Corresponds.each ?_ (h.line (s.line + 1) (t.line + 1))
  intro text htext s t hst
  exact hst.performAs hsetup (hline text htext)

/-- **Without fills, the runs of a program correspond.** -/
theorem runAs (hsetup : Setup.Corresponds R value value' setup setup')
    (h : s.Corresponds R t) {lines : List Text}
    (hlines : ∀ text ∈ lines.flatMap commandTexts, ¬ "FP".toList <+: text) :
    (s.runAs value setup lines).Corresponds R (t.runAs value' setup' lines) := by
  refine Step.Corresponds.each ?_ h
  intro line hline s t hst
  refine hst.feedAs hsetup fun text htext => ?_
  exact hlines text (List.mem_flatMap.mpr ⟨line, hline, htext⟩)

end Corresponds

end Session

end PenPlotter
