import Mathlib.Algebra.BigOperators.Ring.List
import Cutscene.Proofs.Motion.Course

/-!
# Where Paths End

The actor of a path that is not for ever comes to where its walks add up to, but for the rests that
they leave within the tolerance. A square is never over: its ways back undo its ways there, whatever
they leave, and every lap ends where it began (`paths_end_where_they_should`).
-/

namespace Cutscene

open Exact

variable {g : Settings ℚ} {v time : ℚ} {x : Vec ℚ} {p : Path ℚ} {a b : Actor ℚ}

namespace Path

variable {between : ℕ → Actor ℚ → Actor ℚ}

/-! ### Laps -/

/-- A path for ever that is about to make its first step. -/
structure Fresh (p : Path ℚ) : Prop where
  looping : p.looping = true
  steps : p.steps ≠ []
  index : p.index = 0
  target : p.target = none
  pauseLeft : p.pauseLeft = 0

lemma Continues.wraps (hp : p.Fresh) {q : Path ℚ} (h : p.Continues q) :
    { q with index := 0, target := none, pauseLeft := 0 } = p := by
  obtain ⟨_, _, _, _, _, _, _⟩ := p
  obtain ⟨-, -, rfl, rfl, rfl⟩ := hp
  obtain ⟨rfl, rfl, rfl, rfl⟩ := h
  rfl

/-- A path for ever whose steps lead back to where they begin: it gets on with every call, and with
the last call of a lap it is as it was at first. -/
lemma lap_call (hv : 0 < v) (htime : 0 < time) (hp : p.Fresh)
    (hhome : p.steps.foldl (PathStep.goal g v) x = x) {q : Path ℚ} (hcontinues : p.Continues q)
    (hmidway : q.Midway g v x b) : ∃ r c, q.update b time g = (r, c, false) ∧ p.Continues r ∧
      r.Midway g v x c ∧ (r.left g v time c < q.left g v time b ∨ r = p ∧
        r.left g v time c = (p.steps.map (PathStep.calls g v time)).sum) := by
  have hcall := update_call hv htime hmidway
  generalize q.update b time g = r at hcall
  cases hcall with
  | @goes r c continues midway nearer =>
    exact ⟨r, c, rfl, hcontinues.trans continues, midway, .inl nearer⟩
  | @wraps c looping speed arrived =>
    rw [hcontinues.steps, hhome] at arrived
    rw [hcontinues.wraps hp]
    obtain ⟨hfirst, hleft⟩ := midway_of_fresh time hp.steps hp.index hp.target hp.pauseLeft speed
      arrived
    exact ⟨p, c, rfl, ⟨rfl, rfl, rfl, rfl⟩, hfirst, .inr ⟨rfl, hleft⟩⟩
  | ends once =>
    rw [hcontinues.looping, hp.looping] at once
    cases once

lemma after_lap (hv : 0 < v) (htime : 0 < time)
    (hbetween : ∀ n (b : Actor ℚ), b.Poses (between n b)) (hp : p.Fresh)
    (hhome : p.steps.foldl (PathStep.goal g v) x = x) (hspeed : a.speed g = v)
    (hx : a.position = x) (n : ℕ) :
    (p.after g time between a n).2.2 = false ∧ p.Continues (p.after g time between a n).1 ∧
      (p.after g time between a n).1.Midway g v x (p.after g time between a n).2.1 ∧
      (p.after g time between a n).1.left g v time (p.after g time between a n).2.1 ≤
        (p.steps.map (PathStep.calls g v time)).sum := by
  induction n with
  | zero =>
    obtain ⟨hfirst, hleft⟩ := midway_of_fresh time hp.steps hp.index hp.target hp.pauseLeft
      hspeed hx
    exact ⟨rfl, ⟨rfl, rfl, rfl, rfl⟩, hfirst, hleft.le⟩
  | succ n ih =>
    obtain ⟨-, hcontinues, hmidway, hleft⟩ := ih
    have hposes := hbetween n (p.after g time between a n).2.1
    rw [← left_poses hposes] at hleft
    obtain ⟨r, c, heq, hcontinues', hmidway', hless⟩ :=
      lap_call hv htime hp hhome hcontinues (hmidway.poses hposes)
    rw [after, heq]
    refine ⟨rfl, hcontinues', hmidway', ?_⟩
    rcases hless with hless | ⟨-, hlap⟩
    · exact hless.le.trans hleft
    · exact hlap.le

/-- The lap that is being made is over some time. -/
lemma exists_lap (hv : 0 < v) (htime : 0 < time)
    (hbetween : ∀ n (b : Actor ℚ), b.Poses (between n b)) (hp : p.Fresh)
    (hhome : p.steps.foldl (PathStep.goal g v) x = x) (hspeed : a.speed g = v)
    (hx : a.position = x) {n l : ℕ}
    (hl : (p.after g time between a n).1.left g v time (p.after g time between a n).2.1 ≤ l) :
    ∃ m, n < m ∧ m ≤ n + l ∧ (p.after g time between a m).1 = p := by
  have hgets := after_lap hv htime hbetween hp hhome hspeed hx
  induction l generalizing n with
  | zero =>
    have := (hgets n).2.2.1.left_pos time
    omega
  | succ l ih =>
    obtain ⟨-, hcontinues, hmidway, -⟩ := hgets n
    have hposes := hbetween n (p.after g time between a n).2.1
    rw [← left_poses hposes] at hl
    obtain ⟨r, c, heq, -, -, hless⟩ :=
      lap_call hv htime hp hhome hcontinues (hmidway.poses hposes)
    have hnext : p.after g time between a (n + 1) = (r, c, false) := by rw [after, heq]
    rcases hless with hless | ⟨hlap, -⟩
    · obtain ⟨m, hlt, hle, hm⟩ := ih (n := n + 1) (by rw [hnext]; dsimp only; omega)
      exact ⟨m, by omega, by omega, hm⟩
    · exact ⟨n + 1, Nat.lt_succ_self n, by omega, by rw [hnext, hlap]⟩

/-- The ways back undo the ways there. -/
lemma square_goal (hv : 0 < v) (h : Handle) (width height : ℤ) (pause : ℚ) (x : Vec ℚ) :
    (square h width height pause).steps.foldl (PathStep.goal g v) x = x := by
  have hpause : ∀ (x : Vec ℚ), (PathStep.wait pause).goal g v x = x := fun _ =>
    PathStep.goal_of_pause hv rfl
  have hwalks : PathStep.goal g v (PathStep.goal g v (PathStep.goal g v (PathStep.goal g v x
      (.walk ⟨width, 0⟩)) (.walk ⟨0, height⟩)) (.walk ⟨-width, 0⟩)) (.walk ⟨0, -height⟩) = x := by
    simp only [PathStep.goal, PathStep.offset, neg_mul, zero_mul, Int.cast_neg, Int.cast_zero,
      covered_neg hv, covered_zero hv, add_zero, add_neg_cancel_right]
  unfold square start
  dsimp only [List.flatMap_cons]
  split_ifs
  · simpa only [List.flatMap_cons, List.flatMap_nil, List.cons_append, List.nil_append,
      List.append_nil, List.foldl_cons, List.foldl_nil, hpause] using hwalks
  · exact hwalks

/-! ### Where the walks add up to -/

/-- Steps take an actor as far as all their walks get together. -/
lemma foldl_goal (g : Settings ℚ) (v : ℚ) (steps : List (PathStep ℚ)) (x : Vec ℚ) :
    steps.foldl (PathStep.goal g v) x =
      ⟨x.x + (steps.map fun s => covered (s.offset.x * g.tileSize : ℤ) v).sum,
        x.y + (steps.map fun s => covered (s.offset.y * g.tileSize : ℤ) v).sum⟩ := by
  induction steps generalizing x with
  | nil => simp
  | cons step rest ih =>
    rw [List.foldl_cons, ih, List.map_cons, List.map_cons, List.sum_cons, List.sum_cons,
      ← add_assoc, ← add_assoc]
    rfl

variable {d : PathStep ℚ → ℤ}

/-- Each walk falls short by no more than the tolerance. -/
lemma abs_sum_sub_covered (hv : 0 < v) (hd : ∀ s : PathStep ℚ, s.isWalk = false → d s = 0)
    (steps : List (PathStep ℚ)) :
    |((steps.map d).sum : ℚ) - (steps.map fun s => covered (d s) v).sum| ≤
      steps.countP PathStep.isWalk * Scalar.tolerance := by
  induction steps with
  | nil => simp
  | cons step rest ih =>
    rw [List.map_cons, List.map_cons, List.sum_cons, List.sum_cons, List.countP_cons, Int.cast_add,
      Nat.cast_add, add_sub_add_comm]
    cases hwalk : step.isWalk with
    | false =>
      have hzero : ((d step : ℤ) : ℚ) = 0 := by rw [hd step hwalk, Int.cast_zero]
      rw [hzero, covered_zero hv, sub_zero, zero_add]
      simpa using ih
    | true =>
      have hstep := abs_sub_covered hv ((d step : ℤ) : ℚ)
      refine (abs_add_le _ _).trans ?_
      rw [if_pos rfl, Nat.cast_one, add_mul, one_mul]
      linarith

/-- If no walk leaves a rest, then the walks get as far as they are to. -/
lemma sum_covered (hv : 0 < v) {steps : List (PathStep ℚ)}
    (hd : ∀ s ∈ steps, ¬ LeavesRest (d s) v) :
    (steps.map fun s => covered (d s) v).sum = ((steps.map d).sum : ℤ) := by
  induction steps with
  | nil => simp
  | cons step rest ih =>
    obtain ⟨hstep, hrest⟩ := List.forall_mem_cons.mp hd
    rw [List.map_cons, List.map_cons, List.sum_cons, List.sum_cons, ih hrest, covered_eq hv hstep,
      Int.cast_add]

/-- The tiles by which steps are to move the actor together. -/
def total (steps : List (PathStep ℚ)) : Tile :=
  ⟨(steps.map fun s => s.offset.x).sum, (steps.map fun s => s.offset.y).sum⟩

/-- In pixels the steps are to move the actor by the sum of what each of them is to. -/
lemma total_pixels (size : ℤ) (steps : List (PathStep ℚ)) :
    (total steps).x * size = (steps.map fun s => s.offset.x * size).sum ∧
      (total steps).y * size = (steps.map fun s => s.offset.y * size).sum :=
  ⟨(List.sum_map_mul_right ..).symm, (List.sum_map_mul_right ..).symm⟩

/-- Each walk falls short by no more than the tolerance. -/
lemma place_near (hv : 0 < v) (steps : List (PathStep ℚ)) (x : Vec ℚ) :
    |x.x + ((total steps).x * g.tileSize : ℤ) - (steps.foldl (PathStep.goal g v) x).x| ≤
        steps.countP PathStep.isWalk * Scalar.tolerance ∧
      |x.y + ((total steps).y * g.tileSize : ℤ) - (steps.foldl (PathStep.goal g v) x).y| ≤
        steps.countP PathStep.isWalk * Scalar.tolerance := by
  have hstill : ∀ s : PathStep ℚ, s.isWalk = false → s.offset = ⟨0, 0⟩ := by
    intro s hs
    cases s with
    | walk offset => cases hs
    | face d pause => rfl
    | wait pause => rfl
  rw [foldl_goal, (total_pixels g.tileSize steps).1, (total_pixels g.tileSize steps).2]
  dsimp only
  rw [add_sub_add_left_eq_sub, add_sub_add_left_eq_sub]
  constructor
  · exact abs_sum_sub_covered hv (fun s hs => by rw [hstill s hs, zero_mul]) steps
  · exact abs_sum_sub_covered hv (fun s hs => by rw [hstill s hs, zero_mul]) steps

/-- If no walk leaves a rest, the steps lead where they are to. -/
lemma place_exact (hv : 0 < v) {steps : List (PathStep ℚ)}
    (hd : ∀ s ∈ steps, ¬ LeavesRest (s.offset.x * g.tileSize : ℤ) v ∧
      ¬ LeavesRest (s.offset.y * g.tileSize : ℤ) v) (x : Vec ℚ) :
    steps.foldl (PathStep.goal g v) x = ⟨x.x + ((total steps).x * g.tileSize : ℤ),
      x.y + ((total steps).y * g.tileSize : ℤ)⟩ := by
  rw [foldl_goal, (total_pixels g.tileSize steps).1, (total_pixels g.tileSize steps).2,
    sum_covered hv fun s hs => (hd s hs).1, sum_covered hv fun s hs => (hd s hs).2]

/-! ### The end of a path, and the laps of a square -/

/-- A path that is not for ever is over with call `n`, and `o` is what it leaves of its actor `a` to
whatever is to happen at its end. -/
structure Ends (g : Settings ℚ) (time : ℚ) (between : ℕ → Actor ℚ → Actor ℚ) (h : Handle)
    (steps : List (PathStep ℚ)) (a : Actor ℚ) (n : ℕ) (o : Actor ℚ) : Prop where
  soon : n ≤ max 1 (steps.map (PathStep.calls g (a.speed g) time)).sum
  /-- Before the last call, nothing happens of what is to happen at the end. -/
  going : ∀ k < n, ∃ q : Path ℚ, ∃ b, ∀ f,
    ((start h steps false).closing f).after g time between a k = (q.closing f, b, false)
  /-- With the last call it happens once, and cannot happen again. -/
  done : ∃ q : Path ℚ, q.atEnd = none ∧ ∀ f,
    ((start h steps false).closing f).after g time between a n = (q, f.getD id o, true)
  halted : o.walking = false ∧ o.animation = none
  place : o.position = ⟨
    a.position.x + (steps.map fun s => covered (s.offset.x * g.tileSize : ℤ) (a.speed g)).sum,
    a.position.y + (steps.map fun s => covered (s.offset.y * g.tileSize : ℤ) (a.speed g)).sum⟩
  /-- Each walk falls short by no more than the tolerance. -/
  near :
    |a.position.x + ((total steps).x * g.tileSize : ℤ) - o.position.x| ≤
      steps.countP PathStep.isWalk * Scalar.tolerance ∧
    |a.position.y + ((total steps).y * g.tileSize : ℤ) - o.position.y| ≤
      steps.countP PathStep.isWalk * Scalar.tolerance
  /-- If no walk leaves a rest within the tolerance, the actor is where they are to take it. -/
  exact : (∀ s ∈ steps, ¬ LeavesRest (s.offset.x * g.tileSize : ℤ) (a.speed g) ∧
      ¬ LeavesRest (s.offset.y * g.tileSize : ℤ) (a.speed g)) →
    o.position = ⟨a.position.x + ((total steps).x * g.tileSize : ℤ),
      a.position.y + ((total steps).y * g.tileSize : ℤ)⟩
  /-- An actor that walks whole pixels is. -/
  whole : (∃ pixels : ℤ, a.speed g = pixels) →
    o.position = ⟨a.position.x + ((total steps).x * g.tileSize : ℤ),
      a.position.y + ((total steps).y * g.tileSize : ℤ)⟩

/-- What becomes of a square and of its actor `a`. -/
structure Laps (g : Settings ℚ) (time : ℚ) (between : ℕ → Actor ℚ → Actor ℚ) (h : Handle)
    (width height : ℤ) (pause : ℚ) (a : Actor ℚ) : Prop where
  never : ∀ n, ((square h width height pause).after g time between a n).2.2 = false
  /-- At the end of every lap the actor is where it was at first. -/
  home : ∀ n, ((square h width height pause).after g time between a n).1 =
      square h width height pause →
    ((square h width height pause).after g time between a n).2.1.position = a.position
  /-- Every lap comes to its end. -/
  again : ∀ n, ∃ m, n < m ∧
    m ≤ n + ((square h width height pause).steps.map (PathStep.calls g (a.speed g) time)).sum ∧
    ((square h width height pause).after g time between a m).1 = square h width height pause

lemma exists_ends (hv : 0 < a.speed g) (htime : 0 < time)
    (hbetween : ∀ n (b : Actor ℚ), b.Poses (between n b)) (h : Handle) (steps : List (PathStep ℚ)) :
    ∃ n o, Ends g time between h steps a n o := by
  have hclosing : (start h steps false).closing none = start h steps false := rfl
  suffices hend : ∃ n ≤ max 1 (steps.map (PathStep.calls g (a.speed g) time)).sum,
      (∀ k < n, ((start h steps false).after g time between a k).2.2 = false) ∧
      ∃ q, ∃ b : Actor ℚ, (start h steps false).after g time between a n = (q, b.halt, true) ∧
        b.position = steps.foldl (PathStep.goal g (a.speed g)) a.position by
    obtain ⟨n, hsoon, hgoes, q, b, hdone, hposition⟩ := hend
    refine ⟨n, b.halt, hsoon, fun k hk => ⟨_, _, after_closing fun j hj => ?_⟩,
      ⟨_, rfl, after_closing_end hgoes hdone⟩, ⟨rfl, rfl⟩, ?_, ?_, fun hd => ?_,
      fun hwhole => ?_⟩
    · exact hgoes j (hj.trans_lt hk)
    · exact hposition.trans (foldl_goal g _ steps a.position)
    · have hnear := place_near (g := g) hv steps a.position
      rwa [← hposition] at hnear
    · exact hposition.trans (place_exact hv hd a.position)
    · obtain ⟨pixels, hpixels⟩ := hwhole
      rw [hpixels] at hposition hv
      exact hposition.trans (place_exact hv (fun _ _ =>
        ⟨not_leavesRest_of_whole _ _, not_leavesRest_of_whole _ _⟩) a.position)
  cases steps with
  | nil =>
    refine ⟨1, le_max_left _ _, fun k hk => ?_, _, between 0 a, rfl, (hbetween 0 a).position⟩
    rw [Nat.lt_one_iff.mp hk]
    rfl
  | cons step rest =>
    obtain ⟨hmidway, hleft⟩ := midway_of_fresh time (p := start h (step :: rest) false)
      (List.cons_ne_nil _ _) rfl rfl rfl (Eq.refl (a.speed g)) (Eq.refl a.position)
    obtain ⟨n, hn, hgoes, q, b, hdone, -, hposition⟩ := exists_end hv htime hbetween rfl hmidway
    exact ⟨n, (hn.trans hleft.le).trans (le_max_right _ _), hgoes, q, b, hdone, hposition⟩

lemma laps (hv : 0 < a.speed g) (htime : 0 < time)
    (hbetween : ∀ n (b : Actor ℚ), b.Poses (between n b)) (h : Handle) (width height : ℤ)
    (pause : ℚ) : Laps g time between h width height pause a := by
  have hfresh : (square h width height pause).Fresh := by
    refine ⟨rfl, ?_, rfl, rfl, rfl⟩
    unfold square
    split_ifs <;> simp [start]
  have hhome := square_goal (g := g) hv h width height pause a.position
  have hgets := after_lap hv htime hbetween hfresh hhome rfl rfl
  refine ⟨fun n => (hgets n).1, fun n hn => ?_, fun n => ?_⟩
  · obtain ⟨-, -, ⟨step, hstep, hbegun⟩, -⟩ := hgets n
    have hposition := hbegun.still (by rw [hn]; rfl)
    rw [hposition, hn]
    rfl
  · exact exists_lap hv htime hbetween hfresh hhome rfl rfl (hgets n).2.2.2

end Path

/-- **Paths end where they should.** With time and speed an actor follows a path that is not for
ever to its end, and is where the walks add up to but for the rests that they leave; then it halts,
and what is to happen at the end happens to it, once. A square is never over and brings the actor
back with every lap. Between the calls, anything may happen to the actor that leaves it its
place. -/
theorem paths_end_where_they_should {between : ℕ → Actor ℚ → Actor ℚ} (htime : 0 < time)
    (hv : 0 < a.speed g) (hbetween : ∀ n (b : Actor ℚ), b.Poses (between n b)) :
    (∀ h steps, ∃ n o, Path.Ends g time between h steps a n o) ∧
      ∀ h width height pause, Path.Laps g time between h width height pause a :=
  ⟨Path.exists_ends hv htime hbetween, Path.laps hv htime hbetween⟩

/-- While time passes, a villager goes a tile to the right, looks up for a while, and goes two tiles
up; and he comes back from a walk around a rectangle. -/
theorem villager_comes_where_he_should :
    (∃ n q, ∃ o : Actor ℚ,
      ((Path.start ⟨0⟩ [.walk ⟨1, 0⟩, .face .up 32, .walk ⟨0, -2⟩] false).closing
        (some Actor.freed)).after .standard 16 (fun _ b => b.update 16)
        (.place "Linus" .villager ⟨0, 0⟩ .down 64) n = (q, o.freed, true) ∧
      o.position = ⟨64, -128⟩ ∧ o.walking = false) ∧
    ∃ m, 0 < m ∧ ((Path.square ⟨0⟩ 2 (-3) 100).after .standard 16 (fun _ b => b.update 16)
      (.place "Linus" .villager ⟨0, 0⟩ .down 64) m).2.1.position = ⟨0, 0⟩ := by
  have htime : (0 : ℚ) < 16 := by decide +kernel
  obtain ⟨hends, hlaps⟩ := paths_end_where_they_should (g := .standard)
    (a := .place "Linus" .villager ⟨0, 0⟩ .down 64) htime (by decide +kernel)
    fun _ b => b.update_poses 16
  constructor
  · obtain ⟨n, o, ho⟩ := hends ⟨0⟩ [.walk ⟨1, 0⟩, .face .up 32, .walk ⟨0, -2⟩]
    obtain ⟨q, -, hdone⟩ := ho.done
    refine ⟨n, q, o, hdone (some Actor.freed), ?_, ho.halted.1⟩
    rw [ho.whole ⟨2, by decide +kernel⟩]
    decide +kernel
  · obtain ⟨m, hpos, -, hm⟩ := (hlaps ⟨0⟩ 2 (-3) 100).again 0
    refine ⟨m, hpos, ((hlaps ⟨0⟩ 2 (-3) 100).home m hm).trans ?_⟩
    decide +kernel

/-- A walk whose stride is almost as long as its way: what is left lies within the tolerance, and
the actor ends short of its target. -/
theorem long_stride_falls_short : ¬ ∀ (g : Settings ℚ) (time : ℚ) (h : Handle)
    (steps : List (PathStep ℚ)) (a : Actor ℚ), 0 < g.tileSize → 0 < a.speed g → 0 < time →
      ∃ n, (∀ k < n, ((Path.start h steps false).after g time (fun _ b => b) a k).2.2 = false) ∧
        ((Path.start h steps false).after g time (fun _ b => b) a n).2.2 = true ∧
        ((Path.start h steps false).after g time (fun _ b => b) a n).2.1.position =
          ⟨a.position.x + ((Path.total steps).x * g.tileSize : ℤ),
            a.position.y + ((Path.total steps).y * g.tileSize : ℤ)⟩ := by
  intro hends
  obtain ⟨n, hgoes, hdone, hposition⟩ := hends
    { Settings.standard with tileSize := 1, npcSpeed := 1 - 1 / 0x1000000 } 16 ⟨0⟩ [.walk ⟨1, 0⟩]
    (.place "Linus" .villager ⟨0, 0⟩ .down 1) (by decide) (by decide +kernel) (by decide +kernel)
  match n with
  | 0 => cases hdone
  | 1 =>
    revert hdone
    decide +kernel
  | 2 =>
    revert hposition
    decide +kernel
  | n + 3 =>
    have hgoesOn := hgoes 2 (by omega)
    revert hgoesOn
    decide +kernel

end Cutscene
