import Cutscene.Proofs.Motion.Cover

/-!
# Paths, Call by Call

A path makes its steps one after the other, each in so many calls (`PathStep.calls`) at most. A walk
takes the actor as far as its strides get, the other steps leave it where it is (`PathStep.goal`).
With every call a path comes nearer to the end of its steps, begins anew or is over
(`Path.update_call`), so a path that is not for ever is over some time (`Path.exists_end`). What is
to happen at its end makes no difference before, and happens there once (`Path.after_closing`,
`Path.after_closing_end`).
-/

namespace Cutscene

open Exact

variable {g : Settings ℚ} {v time : ℚ} {x : Vec ℚ} {p : Path ℚ} {a b : Actor ℚ}

/-! ### One step -/

namespace PathStep

/-- The tiles by which a step is to move the actor. -/
def offset : PathStep ℚ → Tile
  | .walk offset => offset
  | .face _ _ => ⟨0, 0⟩
  | .wait _ => ⟨0, 0⟩

def isWalk : PathStep ℚ → Bool
  | .walk _ => true
  | .face _ _ => false
  | .wait _ => false

/-- Where a step takes an actor that walks so fast. -/
def goal (g : Settings ℚ) (v : ℚ) (x : Vec ℚ) (step : PathStep ℚ) : Vec ℚ :=
  ⟨x.x + covered (step.offset.x * g.tileSize : ℤ) v,
    x.y + covered (step.offset.y * g.tileSize : ℤ) v⟩

/-- The calls that it takes to pause. -/
def pauseCalls (time pause : ℚ) : ℕ := max 1 ⌈pause / time⌉₊

/-- The calls that a step takes at most: one for each stride and one to see that it is made, or as
many as it takes to pause. -/
def calls (g : Settings ℚ) (v time : ℚ) : PathStep ℚ → ℕ
  | .walk offset => Exact.strides (offset.x * g.tileSize : ℤ) v +
      Exact.strides (offset.y * g.tileSize : ℤ) v + 1
  | .face _ pause => pauseCalls time pause
  | .wait pause => pauseCalls time pause

/-- The calls that a step takes at most from where it is. -/
def left (g : Settings ℚ) (v time : ℚ) (p : Path ℚ) (a : Actor ℚ) (step : PathStep ℚ) : ℕ :=
  match step with
  | .walk _ => p.target.elim (step.calls g v time) fun target => a.strides target v + 1
  | .face _ pause => pauseCalls time (if p.pauseLeft ≤ 0 then pause else p.pauseLeft)
  | .wait pause => pauseCalls time (if p.pauseLeft ≤ 0 then pause else p.pauseLeft)

/-- The path is making a step, which its actor began at this point. -/
structure Begun (g : Settings ℚ) (v : ℚ) (x : Vec ℚ) (p : Path ℚ) (a : Actor ℚ)
    (step : PathStep ℚ) : Prop where
  speed : a.speed g = v
  /-- No walk is under way. -/
  still : p.target = none → a.position = x
  /-- The strides that are left take the actor to the goal. -/
  walking : ∀ target, p.target = some target → step.isWalk = true ∧ step.goal g v x =
    ⟨a.position.x + covered (target.x - a.position.x) v,
      a.position.y + covered (target.y - a.position.y) v⟩

variable {step : PathStep ℚ}

lemma goal_of_pause (hv : 0 < v) (h : step.offset = ⟨0, 0⟩) : step.goal g v x = x := by
  have hzero : covered ((0 * g.tileSize : ℤ) : ℚ) v = 0 := by
    rw [zero_mul, Int.cast_zero, covered_zero hv]
  rw [goal, h, hzero, add_zero, add_zero]

lemma pauseCalls_pos (time pause : ℚ) : 0 < pauseCalls time pause :=
  Nat.lt_of_lt_of_le Nat.one_pos (le_max_left _ _)

lemma calls_pos (g : Settings ℚ) (v time : ℚ) (step : PathStep ℚ) : 0 < step.calls g v time := by
  cases step with
  | walk offset => exact Nat.succ_pos _
  | face d pause => exact pauseCalls_pos time pause
  | wait pause => exact pauseCalls_pos time pause

lemma left_pos (step : PathStep ℚ) : 0 < step.left g v time p a := by
  cases step with
  | walk offset =>
    rw [left]
    cases p.target with
    | none => exact calls_pos g v time (.walk offset)
    | some target => exact Nat.succ_pos _
  | face d pause => exact pauseCalls_pos _ _
  | wait pause => exact pauseCalls_pos _ _

/-- Nothing of the step is made yet. -/
lemma left_of_fresh (hp : p.target = none) (hpause : p.pauseLeft ≤ 0) :
    step.left g v time p a = step.calls g v time := by
  cases step with
  | walk offset => rw [left, hp, Option.elim_none]
  | face d pause => rw [left, if_pos hpause, calls]
  | wait pause => rw [left, if_pos hpause, calls]

lemma begun_of_fresh (hp : p.target = none) (hspeed : a.speed g = v) (hx : a.position = x) :
    step.Begun g v x p a where
  speed := hspeed
  still _ := hx
  walking target htarget := by
    rw [hp] at htarget
    cases htarget

/-- What the actor does in the meantime makes no difference, if it keeps its place. -/
lemma Begun.poses (h : step.Begun g v x p a) (hb : a.Poses b) : step.Begun g v x p b where
  speed := (hb.toWalks.speed g).trans h.speed
  still := by
    rw [hb.position]
    exact h.still
  walking := by
    rw [hb.position]
    exact h.walking

lemma left_poses (hb : a.Poses b) : step.left g v time p b = step.left g v time p a := by
  unfold left Actor.strides
  rw [hb.position]

/-- A pause that is not over has one call less to go. -/
lemma pauseCalls_lt {pause : ℚ} (htime : 0 < time) (hgoes : 0 < pause - time) :
    pauseCalls time (pause - time) < pauseCalls time pause := by
  have hmore : pause / time = (pause - time) / time + 1 := by
    rw [sub_div, div_self htime.ne', sub_add_cancel]
  have hpos := Nat.ceil_pos.mpr (div_pos hgoes htime)
  rw [pauseCalls, pauseCalls, hmore, Nat.ceil_add_one (div_pos hgoes htime).le]
  omega

/-- One call for a pause. -/
lemma countDown_begun {pause : ℚ} (htime : 0 < time) (h : step.Begun g v x p a)
    (hpause : step.isWalk = false)
    (hleft : ∀ (q : Path ℚ) (b : Actor ℚ), step.left g v time q b =
      pauseCalls time (if q.pauseLeft ≤ 0 then pause else q.pauseLeft))
    (hb : a.Poses b) : b.position = x ∧
      ((p.countDown pause time).2 = false → step.Begun g v x (p.countDown pause time).1 b ∧
        step.left g v time (p.countDown pause time).1 b < step.left g v time p a) := by
  have htarget : p.target = none := by
    cases htarget : p.target with
    | none => rfl
    | some target =>
      rw [(h.walking target htarget).1] at hpause
      cases hpause
  have hx : b.position = x := hb.position.trans (h.still htarget)
  refine ⟨hx, fun hgoes => ⟨begun_of_fresh htarget ((hb.toWalks.speed g).trans h.speed) hx, ?_⟩⟩
  have hgoes := not_le.mp (of_decide_eq_false hgoes)
  rw [hleft, hleft]
  unfold Path.countDown
  dsimp only
  rw [if_neg hgoes.not_ge]
  exact pauseCalls_lt htime hgoes

/-- One call for a walk. -/
lemma walk_begun {target : Vec ℚ} (hv : 0 < v)
    (hgoal : step.goal g v x = ⟨a.position.x + covered (target.x - a.position.x) v,
      a.position.y + covered (target.y - a.position.y) v⟩) :
    ((a.stepToward target v).2 = true → (a.stepToward target v).1.position = step.goal g v x) ∧
      ((a.stepToward target v).2 = false → step.goal g v x =
          ⟨(a.stepToward target v).1.position.x +
              covered (target.x - (a.stepToward target v).1.position.x) v,
            (a.stepToward target v).1.position.y +
              covered (target.y - (a.stepToward target v).1.position.y) v⟩ ∧
        (a.stepToward target v).1.strides target v < a.strides target v) := by
  rcases a.stepToward_cases target v with
    ⟨hx, hgoes, hposition⟩ | ⟨-, hy, hgoes, hposition⟩ | ⟨hx, hy, heq⟩
  · rw [hgoes, hposition, nearer_add_covered hv hx]
    exact ⟨nofun, fun _ => ⟨hgoal, (Actor.stepToward_strides hv).resolve_right
      fun hnear => hnear.1.not_gt hx⟩⟩
  · rw [hgoes, hposition, nearer_add_covered hv hy]
    exact ⟨nofun, fun _ => ⟨hgoal, (Actor.stepToward_strides hv).resolve_right
      fun hnear => hnear.2.not_gt hy⟩⟩
  · rw [covered_of_near hv hx, covered_of_near hv hy, add_zero, add_zero] at hgoal
    rw [heq]
    exact ⟨fun _ => hgoal.symm, nofun⟩

end PathStep

namespace Path

/-- One call for a walk is a stride towards its target, which the first call sets. -/
lemma make_walk {offset : Tile} (time : ℚ) (h : (PathStep.walk offset).Begun g v x p a) :
    ∃ target, p.make (.walk offset) a time g =
        ({ p with target := some target }, a.stepToward target v) ∧
      (PathStep.walk offset).goal g v x = ⟨a.position.x + covered (target.x - a.position.x) v,
        a.position.y + covered (target.y - a.position.y) v⟩ ∧
      (PathStep.walk offset).left g v time p a = a.strides target v + 1 := by
  unfold make
  dsimp only
  rw [h.speed]
  cases htarget : p.target with
  | none =>
    refine ⟨_, rfl, ?_, ?_⟩
    · rw [Option.getD_none, h.still htarget, ofInt_eq, ofInt_eq, add_sub_cancel_left,
        add_sub_cancel_left]
      rfl
    · rw [PathStep.left, htarget, Option.elim_none, Option.getD_none, PathStep.calls,
        Actor.strides, ofInt_eq, ofInt_eq, add_sub_cancel_left, add_sub_cancel_left]
  | some target =>
    refine ⟨target, rfl, (h.walking target htarget).2, ?_⟩
    rw [PathStep.left, htarget, Option.elim_some]

/-- One call for a step: it is made and has taken the actor to its goal, or it comes nearer to
that. -/
lemma make_begun {step : PathStep ℚ} (hv : 0 < v) (htime : 0 < time)
    (h : step.Begun g v x p a) :
    (p.make step a time g).2.1.speed g = v ∧
    ((p.make step a time g).2.2 = true →
      (p.make step a time g).2.1.position = step.goal g v x) ∧
    ((p.make step a time g).2.2 = false →
      step.Begun g v x (p.make step a time g).1 (p.make step a time g).2.1 ∧
      step.left g v time (p.make step a time g).1 (p.make step a time g).2.1 <
        step.left g v time p a) := by
  have hspeed : (p.make step a time g).2.1.speed g = v :=
    ((make_makes step).walks.speed g).trans h.speed
  refine ⟨hspeed, ?_⟩
  cases step with
  | walk offset =>
    obtain ⟨target, hmake, hgoal, hleft⟩ := make_walk time h
    rw [hmake] at hspeed ⊢
    obtain ⟨hmade, hgoes⟩ := PathStep.walk_begun hv hgoal
    refine ⟨hmade, fun hfalse => ?_⟩
    obtain ⟨hgoal', hless⟩ := hgoes hfalse
    refine ⟨⟨hspeed, nofun, fun target' htarget' => ?_⟩, ?_⟩
    · obtain rfl := Option.some.inj htarget'
      exact ⟨rfl, hgoal'⟩
    · rw [hleft, PathStep.left, Option.elim_some]
      exact Nat.succ_lt_succ hless
  | face d pause =>
    obtain ⟨hx, hgoes⟩ := PathStep.countDown_begun htime h rfl (fun _ _ => rfl)
      (b := a.halt.face d) ⟨⟨rfl, rfl, rfl, rfl⟩, rfl⟩
    exact ⟨fun _ => hx.trans (PathStep.goal_of_pause hv rfl).symm, hgoes⟩
  | wait pause =>
    obtain ⟨hx, hgoes⟩ := PathStep.countDown_begun htime h rfl (fun _ _ => rfl)
      (b := a.halt) ⟨⟨rfl, rfl, rfl, rfl⟩, rfl⟩
    exact ⟨fun _ => hx.trans (PathStep.goal_of_pause hv rfl).symm, hgoes⟩

/-! ### One call -/

/-- The path is at one of its steps, and the actor began it where the steps before it lead to from
this point. -/
def Midway (g : Settings ℚ) (v : ℚ) (x : Vec ℚ) (p : Path ℚ) (a : Actor ℚ) : Prop :=
  ∃ step, p.steps[p.index]? = some step ∧
    step.Begun g v ((p.steps.take p.index).foldl (PathStep.goal g v) x) p a

/-- The calls that it takes at most to make the steps that are left. -/
def left (g : Settings ℚ) (v time : ℚ) (p : Path ℚ) (a : Actor ℚ) : ℕ :=
  p.steps[p.index]?.elim 0 (PathStep.left g v time p a) +
    ((p.steps.drop (p.index + 1)).map (PathStep.calls g v time)).sum

/-- The same path, at another of its steps. -/
structure Continues (p q : Path ℚ) : Prop where
  actor : q.actor = p.actor
  steps : q.steps = p.steps
  looping : q.looping = p.looping
  atEnd : q.atEnd = p.atEnd

lemma Continues.trans {q r : Path ℚ} (h : p.Continues q) (h' : q.Continues r) : p.Continues r :=
  ⟨h'.actor.trans h.actor, h'.steps.trans h.steps, h'.looping.trans h.looping,
    h'.atEnd.trans h.atEnd⟩

lemma Midway.poses (h : p.Midway g v x a) (hb : a.Poses b) : p.Midway g v x b :=
  h.imp fun _ h => ⟨h.1, h.2.poses hb⟩

lemma left_poses (hb : a.Poses b) : p.left g v time b = p.left g v time a := by
  unfold left
  cases p.steps[p.index]? with
  | none => rfl
  | some step => rw [Option.elim_some, Option.elim_some, PathStep.left_poses hb]

lemma Midway.left_pos (h : p.Midway g v x a) (time : ℚ) : 0 < p.left g v time a := by
  obtain ⟨step, hstep, -⟩ := h
  rw [left, hstep, Option.elim_some]
  exact Nat.add_pos_left (PathStep.left_pos step) _

/-- A path at its first step. -/
lemma midway_of_fresh (time : ℚ) (hsteps : p.steps ≠ []) (hindex : p.index = 0)
    (htarget : p.target = none) (hpause : p.pauseLeft = 0) (hspeed : a.speed g = v)
    (hx : a.position = x) :
    p.Midway g v x a ∧ p.left g v time a = (p.steps.map (PathStep.calls g v time)).sum := by
  obtain ⟨step, rest, hcons⟩ := List.exists_cons_of_ne_nil hsteps
  have hstep : p.steps[p.index]? = some step := by rw [hindex, hcons, List.getElem?_cons_zero]
  refine ⟨⟨step, hstep, PathStep.begun_of_fresh htarget hspeed ?_⟩, ?_⟩
  · rw [hindex, List.take_zero, List.foldl_nil, hx]
  · rw [left, hstep, Option.elim_some, PathStep.left_of_fresh htarget hpause.le, hindex, hcons,
      List.drop_one, List.tail_cons, List.map_cons, List.sum_cons]

/-- What one call does. -/
inductive Call (g : Settings ℚ) (v time : ℚ) (x : Vec ℚ) (p : Path ℚ) (a : Actor ℚ) :
    Path ℚ × Actor ℚ × Bool → Prop
  | goes {q : Path ℚ} {b : Actor ℚ} (continues : p.Continues q) (midway : q.Midway g v x b)
      (nearer : q.left g v time b < p.left g v time a) : Call g v time x p a (q, b, false)
  /-- The last step is made, and the path begins anew. -/
  | wraps {b : Actor ℚ} (looping : p.looping = true) (speed : b.speed g = v)
      (arrived : b.position = p.steps.foldl (PathStep.goal g v) x) :
      Call g v time x p a ({ p with index := 0, target := none, pauseLeft := 0 }, b, false)
  /-- The last step is made, and the path is over. -/
  | ends {b : Actor ℚ} (once : p.looping = false)
      (arrived : b.position = p.steps.foldl (PathStep.goal g v) x) :
      Call g v time x p a
        ({ p with index := p.index + 1, target := none, pauseLeft := 0, atEnd := none },
          p.atEnd.getD id b.halt, true)

/-- **One call of a path that is at one of its steps.** -/
theorem update_call (hv : 0 < v) (htime : 0 < time) (h : p.Midway g v x a) :
    Call g v time x p a (p.update a time g) := by
  obtain ⟨step, hstep, hbegun⟩ := h
  have hmakes : p.Makes a (p.make step a time g).1 (p.make step a time g).2.1 := make_makes step
  obtain ⟨hspeed, hmade, hgoes⟩ := make_begun hv htime hbegun
  have hlength : p.index < p.steps.length := (List.getElem?_eq_some_iff.mp hstep).1
  have htake : (p.steps.take (p.index + 1)).foldl (PathStep.goal g v) x =
      step.goal g v ((p.steps.take p.index).foldl (PathStep.goal g v) x) := by
    rw [List.take_add_one, hstep, Option.toList_some, List.foldl_append, List.foldl_cons,
      List.foldl_nil]
  unfold update
  rw [hstep]
  dsimp only
  generalize p.make step a time g = made at *
  obtain ⟨⟨_, _, _, _, target, pauseLeft, _⟩, b, made⟩ := made
  obtain ⟨rfl, rfl, rfl, rfl, rfl, -⟩ := hmakes
  dsimp only at *
  cases made with
  | false =>
    obtain ⟨hbegun', hless⟩ := hgoes rfl
    refine .goes ⟨rfl, rfl, rfl, rfl⟩ ⟨step, hstep, hbegun'⟩ ?_
    rw [left, left, hstep, Option.elim_some, Option.elim_some]
    exact Nat.add_lt_add_right hless _
  | true =>
    rw [if_neg (by simp)]
    split
    · rename_i hlater
      obtain ⟨next, hnext⟩ : ∃ next, p.steps[p.index + 1]? = some next :=
        ⟨_, List.getElem?_eq_getElem hlater⟩
      have hdrop : p.steps.drop (p.index + 1) = next :: p.steps.drop (p.index + 2) := by
        rw [List.drop_eq_getElem_cons hlater]
        exact congrArg (· :: _) (List.getElem_eq_iff _ |>.mpr hnext)
      refine .goes ⟨rfl, rfl, rfl, rfl⟩ ⟨next, hnext, PathStep.begun_of_fresh rfl hspeed ?_⟩ ?_
      · rw [htake, hmade rfl]
      · rw [left, left, hstep, hnext, Option.elim_some, Option.elim_some,
          PathStep.left_of_fresh rfl le_rfl, hdrop, List.map_cons, List.sum_cons]
        exact Nat.lt_add_of_pos_left (PathStep.left_pos step)
    · rename_i hlast
      have harrived : b.position = p.steps.foldl (PathStep.goal g v) x := by
        rw [hmade rfl, ← htake, List.take_of_length_le (Nat.not_lt.mp hlast)]
      split
      · exact .wraps ‹_› hspeed harrived
      · exact .ends (Bool.eq_false_iff.mpr ‹_›) harrived

/-! ### Many calls -/

/-- A path and its actor after so many calls, and what the last of them answered. Between the calls
other things may happen to the actor. -/
def after (g : Settings ℚ) (time : ℚ) (between : ℕ → Actor ℚ → Actor ℚ) (p : Path ℚ)
    (a : Actor ℚ) : ℕ → Path ℚ × Actor ℚ × Bool
  | 0 => (p, a, false)
  | n + 1 => (after g time between p a n).1.update
      (between n (after g time between p a n).2.1) time g

variable {between : ℕ → Actor ℚ → Actor ℚ}

/-- A path that is not for ever gets on with every call until it is over. -/
lemma after_midway (hv : 0 < v) (htime : 0 < time)
    (hbetween : ∀ n (b : Actor ℚ), b.Poses (between n b)) (honce : p.looping = false)
    (h : p.Midway g v x a) {n : ℕ} (hgoes : ∀ k ≤ n, (p.after g time between a k).2.2 = false) :
    p.Continues (p.after g time between a n).1 ∧
      (p.after g time between a n).1.Midway g v x (p.after g time between a n).2.1 ∧
      (p.after g time between a n).1.left g v time (p.after g time between a n).2.1 + n ≤
        p.left g v time a := by
  induction n with
  | zero => exact ⟨⟨rfl, rfl, rfl, rfl⟩, h, le_rfl⟩
  | succ n ih =>
    obtain ⟨hcontinues, hmidway, hleft⟩ := ih fun k hk => hgoes k (Nat.le_succ_of_le hk)
    have hposes := hbetween n (p.after g time between a n).2.1
    have hcall := update_call hv htime (hmidway.poses hposes)
    have hlast := hgoes (n + 1) le_rfl
    rw [← left_poses hposes] at hleft
    rw [after] at hlast ⊢
    generalize (p.after g time between a n).1.update _ time g = r at hcall hlast ⊢
    cases hcall with
    | goes continues midway nearer =>
      refine ⟨hcontinues.trans continues, midway, ?_⟩
      dsimp only
      omega
    | wraps looping =>
      rw [hcontinues.looping, honce] at looping
      cases looping
    | ends => cases hlast

/-- A path that is not for ever is over some time, and its actor has come to where its steps lead
to. -/
lemma exists_end (hv : 0 < v) (htime : 0 < time)
    (hbetween : ∀ n (b : Actor ℚ), b.Poses (between n b)) (honce : p.looping = false)
    (h : p.Midway g v x a) : ∃ n ≤ p.left g v time a,
      (∀ k < n, (p.after g time between a k).2.2 = false) ∧
      ∃ q, ∃ b : Actor ℚ, p.after g time between a n = (q, p.atEnd.getD id b.halt, true) ∧
        q.atEnd = none ∧ b.position = p.steps.foldl (PathStep.goal g v) x := by
  have hgets := fun n => after_midway (n := n) hv htime hbetween honce h
  have hover : ∃ n, (p.after g time between a n).2.2 = true := by
    by_contra hnever
    obtain ⟨-, hmidway, hleft⟩ := hgets (p.left g v time a) fun k _ =>
      Bool.eq_false_iff.mpr fun htrue => hnever ⟨k, htrue⟩
    have := hmidway.left_pos time
    omega
  have hfirst : ∀ k < Nat.find hover, (p.after g time between a k).2.2 = false := fun k hk =>
    Bool.eq_false_iff.mpr (Nat.find_min hover hk)
  have hlast := Nat.find_spec hover
  generalize Nat.find hover = n at hfirst hlast
  cases n with
  | zero => cases hlast
  | succ n =>
    obtain ⟨hcontinues, hmidway, hleft⟩ := hgets n fun k hk => hfirst k (Nat.lt_succ_of_le hk)
    have hpos := hmidway.left_pos time
    have hcall := update_call hv htime
      (hmidway.poses (hbetween n (p.after g time between a n).2.1))
    refine ⟨n + 1, by omega, hfirst, ?_⟩
    rw [after] at hlast ⊢
    generalize (p.after g time between a n).1.update _ time g = r at hcall hlast ⊢
    cases hcall with
    | goes => cases hlast
    | wraps => cases hlast
    | @ends b _ arrived =>
      rw [hcontinues.steps] at arrived
      exact ⟨_, b, by rw [hcontinues.atEnd], rfl, arrived⟩

/-! ### What happens at the end -/

/-- The path, with something else to happen at its end. -/
def closing (p : Path ℚ) (f : Option (Actor ℚ → Actor ℚ)) : Path ℚ := { p with atEnd := f }

lemma make_closing (f : Option (Actor ℚ → Actor ℚ)) (step : PathStep ℚ) :
    (p.closing f).make step a time g =
      ((p.make step a time g).1.closing f, (p.make step a time g).2) := by
  cases step <;> rfl

/-- What is to happen at the end makes no difference before the end, and there it happens to the
actor as it would be otherwise. -/
lemma update_closing (f : Option (Actor ℚ → Actor ℚ)) (p : Path ℚ) (a : Actor ℚ) :
    ((p.closing none).update a time g).2.2 = false ∧ (p.closing f).update a time g =
        (((p.closing none).update a time g).1.closing f,
          ((p.closing none).update a time g).2.1, false) ∨
      ((p.closing none).update a time g).2.2 = true ∧ (p.closing f).update a time g =
        (((p.closing none).update a time g).1.closing none,
          f.getD id ((p.closing none).update a time g).2.1, true) := by
  have hsteps : ∀ f, (p.closing f).steps[(p.closing f).index]? = p.steps[p.index]? := fun _ => rfl
  unfold update
  rw [hsteps, hsteps]
  cases p.steps[p.index]? with
  | none => exact .inr ⟨rfl, rfl⟩
  | some step =>
    dsimp only
    rw [make_closing, make_closing]
    generalize p.make step a time g = made
    obtain ⟨⟨_, steps, looping, index, _, _, _⟩, b, made⟩ := made
    cases made with
    | false => exact .inl ⟨rfl, rfl⟩
    | true =>
      dsimp only [closing]
      rw [Bool.not_true, if_neg Bool.false_ne_true, if_neg Bool.false_ne_true]
      rcases em (index + 1 < steps.length) with hlater | hlast
      · simp only [hlater, if_true]
        exact .inl ⟨trivial, trivial⟩
      · simp only [hlast, if_false]
        cases looping with
        | true => exact .inl ⟨rfl, rfl⟩
        | false => exact .inr ⟨rfl, rfl⟩

/-- As long as the path is not over, what is to happen at its end makes no difference. -/
lemma after_closing {n : ℕ}
    (hgoes : ∀ k ≤ n, ((p.closing none).after g time between a k).2.2 = false)
    (f : Option (Actor ℚ → Actor ℚ)) : (p.closing f).after g time between a n =
      (((p.closing none).after g time between a n).1.closing f,
        ((p.closing none).after g time between a n).2.1, false) := by
  induction n generalizing f with
  | zero => rfl
  | succ n ih =>
    have hbefore := ih fun k hk => hgoes k (Nat.le_succ_of_le hk)
    have hlast := hgoes (n + 1) le_rfl
    rw [after, hbefore none] at hlast
    rw [after, after, hbefore f, hbefore none]
    dsimp only at hlast ⊢
    rcases update_closing f ((p.closing none).after g time between a n).1 _ with
      ⟨-, heq⟩ | ⟨htrue, -⟩
    · exact heq
    · rw [hlast] at htrue
      cases htrue

/-- With the call that ends the path it happens. -/
lemma after_closing_end {n : ℕ} {q : Path ℚ} {o : Actor ℚ}
    (hgoes : ∀ k < n, ((p.closing none).after g time between a k).2.2 = false)
    (hend : (p.closing none).after g time between a n = (q, o, true))
    (f : Option (Actor ℚ → Actor ℚ)) :
    (p.closing f).after g time between a n = (q.closing none, f.getD id o, true) := by
  cases n with
  | zero => cases hend
  | succ n =>
    have hbefore := after_closing fun k hk => hgoes k (Nat.lt_succ_of_le hk)
    rw [after, hbefore none] at hend
    rw [after, hbefore f]
    dsimp only at hend ⊢
    rcases update_closing f ((p.closing none).after g time between a n).1 _ with
      ⟨hfalse, -⟩ | ⟨-, heq⟩
    · rw [hend] at hfalse
      cases hfalse
    · rw [heq, hend]

end Path

end Cutscene
