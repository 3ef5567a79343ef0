import Mathlib.Algebra.BigOperators.Group.List.Basic
import Mathlib.Algebra.Order.Ring.Int
import Mathlib.Data.List.DropRight
import Mathlib.Data.List.Induction
import PenPlotter.Pen

/-!
# Where displacements add up to

The pen goes to targets and along displacements.  A displacement that leads out of the device range
is refused, on both axes if it does so on one, and a refusal changes nothing
(`Pen.act_of_refuses`).

So where the pen is depends on the operations that were not refused, and on these alone: it is at
the last target, or at the origin if there was none, and as far from there as the displacements
behind it add up to, without bound (`Pen.position_actAll`).
-/

namespace PenPlotter

namespace Pen

namespace Action

/-- The target of an operation, if it has one. -/
def target? : Action → Option Position
  | goTo target => some target
  | _ => none

/-- The displacement of an operation, if it is one. -/
def delta? : Action → Option Position
  | goBy delta => some delta
  | _ => none

/-- Whether all coordinates in an operation are those of the device. -/
def IsInRange : Action → Prop
  | goTo p | goBy p => IsCoordinate p.x ∧ IsCoordinate p.y
  | lift | lower | select _ => True

instance : DecidablePred IsInRange
  | goTo _ | goBy _ => inferInstanceAs (Decidable (_ ∧ _))
  | lift | lower | select _ => inferInstanceAs (Decidable True)

end Action

/-! ## 1. What is refused -/

/-- Whether the pen refuses an operation. -/
def refuses (p : Pen) : Action → Bool
  | .select n => (p.select? n).isNone
  | .goBy delta => (p.goBy? delta).isNone
  | .lift | .lower | .goTo _ => false

/-- The operations of a row that are not refused. -/
def accepted (p : Pen) : List Action → List Action
  | [] => []
  | a :: rest => if p.refuses a then accepted p rest else a :: accepted (p.act a).1 rest

variable {p : Pen} {a : Action} {delta : Position}

/-- **A refused operation leaves the pen as it is, and gives no command.** -/
theorem act_of_refuses (h : p.refuses a = true) : p.act a = (p, none) := by
  cases a with
  | select n => rw [act, Option.isNone_iff_eq_none.mp h]
  | goBy delta => rw [act, Option.isNone_iff_eq_none.mp h]
  | lift | lower | goTo target => cases h

/-- **A displacement is refused unless it stays in the device range, on both axes.** -/
theorem refuses_goBy_iff :
    p.refuses (.goBy delta) = true ↔
      ¬ (IsCoordinate (p.position.x + delta.x) ∧ IsCoordinate (p.position.y + delta.y)) := by
  rw [refuses, goBy?, Option.isNone_map, Option.isNone_iff_eq_none, Option.eq_none_iff_forall_ne_some]
  simp only [ne_eq, Position.add?_eq_some_iff]
  constructor
  · rintro h ⟨hx, hy⟩
    exact h _ ⟨hx, hy, rfl⟩
  · rintro h target ⟨hx, hy, -⟩
    exact h ⟨hx, hy⟩

/-- A displacement that is not refused is added to the position. -/
theorem act_goBy (h : p.refuses (.goBy delta) = false) :
    p.act (.goBy delta) =
      ({ p with position := ⟨p.position.x + delta.x, p.position.y + delta.y⟩ },
        some (p.strokeBy delta)) := by
  obtain ⟨moved, hmoved⟩ := Option.isSome_iff_exists.mp (Option.isNone_eq_false_iff.mp h)
  obtain ⟨target, htarget, rfl⟩ := Option.map_eq_some_iff.mp hmoved
  obtain ⟨-, -, rfl⟩ := Position.add?_eq_some_iff.mp htarget
  rw [act, hmoved]

/-- Taking another pen moves none. -/
theorem position_act_select (p : Pen) (n : Nat) : (p.act (.select n)).1.position = p.position := by
  rw [act, select?]
  by_cases h : n ≤ highest
  · rw [if_pos h]
  · rw [if_neg h]

theorem actAll_append (p : Pen) (first second : List Action) :
    p.actAll (first ++ second) = (p.actAll first).actAll second :=
  List.foldl_append

theorem actAll_concat (p : Pen) (actions : List Action) (a : Action) :
    p.actAll (actions ++ [a]) = ((p.actAll actions).act a).1 :=
  actAll_append p actions [a]

/-- An operation is accepted or refused by the pen that those before it have left. -/
theorem accepted_concat (p : Pen) (actions : List Action) (a : Action) :
    p.accepted (actions ++ [a]) =
      p.accepted actions ++ if (p.actAll actions).refuses a then [] else [a] := by
  induction actions generalizing p with
  | nil => rfl
  | cons b rest ih =>
    rw [List.cons_append, accepted, accepted]
    by_cases hb : p.refuses b = true
    · have hstay : p.actAll (b :: rest) = p.actAll rest := by
        rw [actAll, List.foldl_cons, act_of_refuses hb]
        rfl
      rw [if_pos hb, if_pos hb, ih, hstay]
    · rw [if_neg hb, if_neg hb, ih, List.cons_append]
      rfl

/-! ## 2. Exact sums -/

/-- The last target of operations; the origin if they have none. -/
def lastTarget (actions : List Action) : Position :=
  (actions.filterMap Action.target?).getLastD .origin

/-- The displacements behind the last target of operations. -/
def laterDeltas (actions : List Action) : List Position :=
  (actions.rtakeWhile fun a => a.target?.isNone).filterMap Action.delta?

/-- The last target of operations and the displacements behind it, added up without bound. -/
def landing (actions : List Action) : Position :=
  ⟨(lastTarget actions).x + ((laterDeltas actions).map Point.x).sum,
    (lastTarget actions).y + ((laterDeltas actions).map Point.y).sum⟩

theorem landing_concat_goTo (actions : List Action) (target : Position) :
    landing (actions ++ [.goTo target]) = target := by
  simp [landing, lastTarget, laterDeltas, Action.target?]

theorem landing_concat_goBy (actions : List Action) (delta : Position) :
    landing (actions ++ [.goBy delta]) =
      ⟨(landing actions).x + delta.x, (landing actions).y + delta.y⟩ := by
  simp [landing, lastTarget, laterDeltas, Action.target?, Action.delta?,
    add_assoc]

/-- Neither a target nor a displacement leads anywhere. -/
theorem landing_concat_of_none (actions : List Action) (htarget : a.target? = none)
    (hdelta : a.delta? = none) : landing (actions ++ [a]) = landing actions := by
  simp [landing, lastTarget, laterDeltas, htarget, hdelta]

/-- An operation that is not refused leads where it adds up to. -/
theorem position_act {actions : List Action} (hp : p.position = landing actions)
    (ha : p.refuses a = false) : (p.act a).1.position = landing (actions ++ [a]) := by
  cases a with
  | goTo target => exact (landing_concat_goTo actions target).symm
  | goBy delta => rw [act_goBy ha, landing_concat_goBy, ← hp]
  | lift | lower => exact hp.trans (landing_concat_of_none actions rfl rfl).symm
  | select n => rw [position_act_select, hp, landing_concat_of_none actions rfl rfl]

/-- **The pen is where the operations that were not refused add up to.** -/
theorem position_actAll (actions : List Action) :
    (start.actAll actions).position = landing (start.accepted actions) := by
  induction actions using List.reverseRecOn with
  | nil => rfl
  | append_singleton actions a ih =>
    rw [actAll_concat, accepted_concat]
    cases ha : (start.actAll actions).refuses a with
    | true => rw [act_of_refuses ha, if_pos rfl, List.append_nil, ih]
    | false => exact position_act ih ha

/-- A pen in the device range stays there. -/
theorem isCoordinate_position_act (hp : IsCoordinate p.position.x ∧ IsCoordinate p.position.y)
    (ha : a.IsInRange) :
    IsCoordinate (p.act a).1.position.x ∧ IsCoordinate (p.act a).1.position.y := by
  cases hrefuses : p.refuses a with
  | true => rwa [act_of_refuses hrefuses]
  | false =>
    cases a with
    | goTo target => exact ha
    | goBy delta =>
      rw [act_goBy hrefuses]
      exact not_not.mp (mt refuses_goBy_iff.mpr (ne_true_of_eq_false hrefuses))
    | lift | lower => exact hp
    | select n => rwa [position_act_select]

theorem isCoordinate_position_actAll {actions : List Action} (h : ∀ a ∈ actions, a.IsInRange)
    (hp : IsCoordinate p.position.x ∧ IsCoordinate p.position.y) :
    IsCoordinate (p.actAll actions).position.x ∧ IsCoordinate (p.actAll actions).position.y := by
  induction actions generalizing p with
  | nil => exact hp
  | cons a rest ih =>
    rw [List.forall_mem_cons] at h
    exact ih h.2 (isCoordinate_position_act hp h.1)

/-- **Displacements add up exactly.**  After any operations on a fresh pen, it is at the last
target, or at the origin if there was none, plus the displacements that were not refused since,
added up without bound.  This sum is in the device range.  One displacement more is added to it if
that stays in the device range on both axes, and if not, it changes nothing at all. -/
theorem adds_up_of_actions (actions : List Action) (delta : Position) :
    let pen := start.actAll actions
    let target := lastTarget (start.accepted actions)
    let deltas := laterDeltas (start.accepted actions)
    let x := target.x + (deltas.map Point.x).sum
    let y := target.y + (deltas.map Point.y).sum
    pen.position = ⟨x, y⟩ ∧
      ((∀ a ∈ actions, a.IsInRange) → IsCoordinate x ∧ IsCoordinate y) ∧
      (IsCoordinate (x + delta.x) ∧ IsCoordinate (y + delta.y) →
        pen.act (.goBy delta) =
          ({ pen with position := ⟨x + delta.x, y + delta.y⟩ }, some (pen.strokeBy delta))) ∧
      (¬ (IsCoordinate (x + delta.x) ∧ IsCoordinate (y + delta.y)) →
        pen.act (.goBy delta) = (pen, none)) := by
  intro pen target deltas x y
  have hposition : pen.position = ⟨x, y⟩ := position_actAll actions
  have hrefuses : pen.refuses (.goBy delta) = true ↔
      ¬ (IsCoordinate (x + delta.x) ∧ IsCoordinate (y + delta.y)) := by
    rw [refuses_goBy_iff, hposition]
  refine ⟨hposition, fun hactions => ?_, fun hrange => ?_, fun hrange => ?_⟩
  · have hstart : IsCoordinate start.position.x ∧ IsCoordinate start.position.y := by decide
    have hpen := isCoordinate_position_actAll hactions hstart
    rwa [show start.actAll actions = pen from rfl, hposition] at hpen
  · have haccepted : pen.refuses (.goBy delta) = false :=
      eq_false_of_ne_true fun h => hrefuses.mp h hrange
    rw [act_goBy haccepted, hposition]
  · exact act_of_refuses (hrefuses.mpr hrange)

/-- The second step to the right is refused, and so is the last one, which leads out of the range
upwards or downwards only: the pen stays where it is on the other axis too. -/
theorem adds_up_of_actions_to_corner :
    let step : Position := ⟨5000000000000000000, 0⟩
    let actions : List Action :=
      [.goBy ⟨9, 9⟩, .lower, .goTo ⟨7, -7⟩, .select 3, .goBy step, .goBy step,
        .goBy ⟨-7, lowestCoordinate + 7⟩, .select 9]
    let pen : Pen := ⟨⟨5000000000000000000, lowestCoordinate⟩, true, some 3⟩
    (∀ a ∈ actions, a.IsInRange) ∧ start.actAll actions = pen ∧
      (IsCoordinate 5000000000000000000 ∧ IsCoordinate lowestCoordinate) ∧
      pen.act (.goBy ⟨-1, -1⟩) = (pen, none) ∧
      pen.act (.goBy ⟨highestCoordinate, 0⟩) = (pen, none) ∧
      pen.act (.goBy ⟨-1, 1⟩) =
        ({ pen with position := ⟨4999999999999999999, lowestCoordinate + 1⟩ },
          some (.relativeDraw ⟨-1, 1⟩)) := by
  intro step actions pen
  have hactions : ∀ a ∈ actions, a.IsInRange := by decide
  have hpen : start.actAll actions = pen := by decide
  have hx : (lastTarget (start.accepted actions)).x +
      ((laterDeltas (start.accepted actions)).map Point.x).sum = 5000000000000000000 := by decide
  have hy : (lastTarget (start.accepted actions)).y +
      ((laterDeltas (start.accepted actions)).map Point.y).sum = lowestCoordinate := by decide
  have hsums (delta : Position) := adds_up_of_actions actions delta
  simp only [hpen, hx, hy] at hsums
  refine ⟨hactions, hpen, (hsums ⟨0, 0⟩).2.1 hactions, ?_, ?_, ?_⟩
  · exact (hsums ⟨-1, -1⟩).2.2.2 (by decide)
  · exact (hsums ⟨highestCoordinate, 0⟩).2.2.2 (by decide)
  · exact (hsums ⟨-1, 1⟩).2.2.1 (by decide)

end Pen

end PenPlotter
