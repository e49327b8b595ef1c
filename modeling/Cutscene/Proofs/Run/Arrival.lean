import Cutscene.Proofs.Motion.March
import Cutscene.Proofs.Run.Handles

/-!
# An Open Barrier Closes

A move that stops the script leaves it to the barrier to go on. In exact arithmetic, with settings
that let actors get on, everybody who is on the way lands after as many ticks as there are strides
to go and one more, unless a path walks the actor too. A path may lead away from the target as fast as
the barrier brings its actor there, and then the two of them hold the script for ever.
-/

namespace Cutscene

namespace HostMove

variable {α σ : Type}

/-- A tick goes by. -/
def isTick : HostMove α σ → Bool
  | .tick => true
  | _ => false

end HostMove

/-- Where something is always left, and every step that counts takes some of it off, the goal is
reached by as many of them as there was left. -/
lemma exists_prefix_of_descent {S I : Type} {f : S → I → S} {p q : S → Prop}
    {r : S → List I → Prop} {n : S → ℕ} {c : I → Bool} (hleft : ∀ s, p s → 0 < n s)
    (hstep : ∀ s i rest, p s → r s (i :: rest) → q (f s i) ∨
      p (f s i) ∧ r (f s i) rest ∧ n (f s i) + (if c i then 1 else 0) ≤ n s)
    {s : S} {steps : List I} (hlive : p s) (hsteps : r s steps)
    (hcounts : n s ≤ steps.countP c) :
    ∃ first, first <+: steps ∧ q (first.foldl f s) := by
  induction steps generalizing s with
  | nil => exact absurd hcounts (Nat.not_le.mpr (hleft s hlive))
  | cons i rest ih =>
    rcases hstep s i rest hlive hsteps with hgoal | ⟨hnext, hlater, hless⟩
    · exact ⟨[i], ⟨rest, rfl⟩, hgoal⟩
    · have hrest : n (f s i) ≤ rest.countP c := by
        rw [List.countP_cons] at hcounts
        omega
      obtain ⟨first, hfront, hgoal⟩ := ih hnext hlater hrest
      exact ⟨i :: first, List.cons_prefix_cons.mpr ⟨rfl, hfront⟩, hgoal⟩

open Scene Commands

namespace Scene

section Over

variable {α σ : Type} [Scalar α] [Stage α σ] {s t u : Scene α σ}

/-! ### Nobody is on the way in an event that is over -/

/-- If the event is over, then nobody is on the way. -/
def Cleared (s : Scene α σ) : Prop := s.isTerminal = true → s.barrier.isClosed = true

omit [Scalar α] in
lemma finish_cleared (hgoes : u.isTerminal = false) (ending : Ending) :
    (u.finish ending).Cleared := by
  have hbarrier := congrArg Troupe.barrier (finish_troupe hgoes ending)
  intro _
  rw [show (u.finish ending).barrier = .closed from hbarrier]
  rfl

omit [Scalar α] in
lemma clearAway_closes (u : Scene α σ) (given : Option Outcome) :
    (u.clearAway given).barrier.isClosed = true := by
  have hbarrier := congrArg Troupe.barrier (clearAway_troupe u given)
  rw [show (u.clearAway given).barrier = .closed from hbarrier]
  rfl

omit [Scalar α] in
/-- A skip of an event that goes on leaves nobody on the way. -/
lemma skip_closes (hs : s.Calm) (hgoes : s.isTerminal = false) :
    s.skip.barrier.isClosed = true := by
  rw [skip, if_neg (by simp [hgoes]), hs.dispatching, if_neg (by simp)]
  exact clearAway_closes s none

lemma round_cleared (hs : s.AtWork) : (s.round table).1.Cleared := by
  rcases round_or_at s with ⟨raw, hat⟩ | hend | hcomment
  · rcases round_runs hs hat rfl with ⟨-, heq⟩ | ⟨heq, u, ending, hgoes, hfinish⟩
    · intro hover
      rw [heq, isTerminal_of_phase ((em _).imp (if_pos ·) (if_neg ·))] at hover
      cases hover
    · rw [heq, hfinish]
      exact finish_cleared hgoes ending
  · rw [hend]
    exact finish_cleared hs.isTerminal .plain
  · intro hover
    rw [hcomment] at hover
    exact absurd hs.isTerminal (by simp [show s.isTerminal = true from hover])

lemma overture_cleared (hrest : s.AtRest) (hs : s.Cleared) : s.overture.1.Cleared := by
  rcases overture_cases hrest with ⟨-, heq⟩ | ⟨hgoes, -, o, hphase, ho⟩ | ⟨-, -, ho⟩
  · rwa [heq]
  · -- An overture that is over the event skips it or gives it up.
    have hskipped : s.overture.1.phase = .skipped := ho.phase.trans hphase
    revert hskipped
    unfold overture
    rw [if_neg (by simp [hgoes])]
    split
    · exact fun _ _ => skip_closes hrest.toCalm hgoes
    · split
      · exact fun _ _ => clearAway_closes _ _
      · rename_i u hopen
        intro hskipped
        have hover : u.phase = .skipped := by
          rcases resume_cases u with ⟨q, -⟩ | ⟨-, -, -, hhelm, -⟩
          · rw [← hskipped, q.phase]
          · rw [show u.resume.1.phase = .running from congrArg Helm.phase hhelm] at hskipped
            cases hskipped
        rcases openEvent_cases hrest.toCalm hopen with
          ⟨hsome, -⟩ | ⟨-, -, rfl⟩ | ⟨-, -, v, n, -, -, rfl⟩
        · cases hsome
        · rw [(isTerminal_eq_true_iff _).mpr (.inr hover)] at hgoes
          cases hgoes
        · cases hover
  · intro hover
    rw [isTerminal_of_phase ho.phase] at hover
    cases hover

lemma cleared_habit : Habit (Cleared : Scene α σ → Prop) where
  overture _ hrest hs := overture_cleared hrest hs
  round _ hwork _ := round_cleared hwork
  skip s hrest hs := by
    cases hgoes : s.isTerminal with
    | true => rwa [skip_of_isTerminal hgoes]
    | false => exact fun _ => skip_closes hrest.toCalm hgoes
  finish s ending _ hs := by
    cases hgoes : s.isTerminal with
    | true => rwa [finish_of_isTerminal hgoes]
    | false => exact finish_cleared hgoes ending
  requestSkip _ hs := hs
  surround _ _ _ _ hs := hs

/-! ### A script that waits for those on the way -/

/-- The event goes on, and those who are on the way hold its script. -/
structure Awaits (s : Scene α σ) : Prop where
  rest : s.AtRest
  goes : s.isTerminal = false
  held : ¬ s.Free

namespace Awaits

omit [Scalar α] [Stage α σ] in
lemma phase (hs : s.Awaits) : s.phase = .running ∨ s.phase = .suspended :=
  phase_of_goesOn hs.goes fun hfresh => hs.held (.inl (hs.rest.fresh hfresh).2)

omit [Scalar α] [Stage α σ] in
lemma pending (hs : s.Awaits) : s.troupe.barrier.pending ≠ [] :=
  fun hnil => hs.held (.inl (List.isEmpty_iff.mpr hnil))

/-- Time passes in a tick, and the barrier goes on. -/
lemma tick_eq (hs : s.Awaits) (hskip : s.skipRequested = false) : s.tick table = s.resume.1 := by
  have hopen : s.openEvent = (s, none) := if_pos (ne_uninitialized_of_phase hs.phase)
  have hoverture : s.overture = s.resume := by
    rw [overture, if_neg (by simp [hs.goes]), if_neg (by simp [hskip]), hopen]
  have hstop : s.resume.2 = false := by
    rcases resume_cases s with ⟨-, hback, hmore⟩ | ⟨-, hstop, -⟩
    · by_contra hgoes
      exact hs.held (hback (hmore (by simpa using hgoes)))
    · exact hstop
  rw [Scene.tick_eq, hoverture, hstop, if_neg Bool.false_ne_true]

/-- A tick that does not close the barrier leaves the script where it was. -/
lemma tick (hs : s.Awaits) (hskip : s.skipRequested = false)
    (hopen : (s.tick table).barrier.isClosed = false) :
    (s.tick table).Awaits ∧ s.Quiet (s.tick table) := by
  have hrest : (s.tick table).AtRest := hs.rest.apply .tick
  rw [hs.tick_eq hskip] at hrest hopen ⊢
  rcases resume_cases s with ⟨q, hback, -⟩ | ⟨-, -, hclosed, -⟩
  · exact ⟨⟨hrest, isTerminal_of_phase (q.phase ▸ hs.phase), fun hfree => hs.held (hback hfree)⟩, q⟩
  · rw [hopen] at hclosed
    cases hclosed

lemma tick_troupe (hs : s.Awaits) (hskip : s.skipRequested = false)
    (hthaw : Stage.worldFrozen α s.elapse.stage = false) : (s.tick table).troupe =
      (s.troupe.elapse s.elapsed s.settings).resolve s.settings := by
  rw [hs.tick_eq hskip, resume_troupe, if_neg (by simp [hthaw])]

end Awaits

/-- At no tick of a run is the world frozen. -/
def Thawed (s : Scene α σ) : List (HostMove α σ) → Prop
  | [] => True
  | move :: rest =>
    (move.isTick = true → Stage.worldFrozen α s.elapse.stage = false) ∧
      Thawed (move.apply table s) rest

instance Thawed.decidable : (s : Scene α σ) → (moves : List (HostMove α σ)) →
    Decidable (s.Thawed moves)
  | _, [] => .isTrue trivial
  | s, move :: rest =>
    have := decidable (move.apply table s) rest
    inferInstanceAs (Decidable (_ ∧ Thawed (move.apply table s) rest))

end Over

section March

variable {σ : Type} [Stage ℚ σ] {s : Scene ℚ σ}

/-- Those who hold the script get on, and no path walks them. -/
structure Marching (s : Scene ℚ σ) : Prop extends s.Awaits where
  ruled : s.Ruled fun _ T => T.Sound ∧ T.Brisk
  walkable : s.settings.Walkable
  undisturbed : s.troupe.Undisturbed

namespace Marching

/-- A tick closes the barrier, or it takes one tick at least off those that the barrier may still
take. -/
theorem tick (hs : s.Marching) (hthaw : Stage.worldFrozen ℚ s.elapse.stage = false) :
    (s.tick table).barrier.isClosed = true ∨ (s.tick table).Marching ∧
      (s.tick table).troupe.march (s.tick table).settings < s.troupe.march s.settings := by
  cases hskip : s.skipRequested with
  | true =>
    rw [tick_of_skipRequested table hs.goes hskip]
    exact .inl (skip_closes hs.rest.toCalm hs.goes)
  | false =>
    cases hopen : (s.tick table).barrier.isClosed with
    | true => exact .inl rfl
    | false =>
      obtain ⟨hawaits, -⟩ := hs.toAwaits.tick hskip hopen
      have hsettings : (s.tick table).settings = s.settings := by
        rw [hs.toAwaits.tick_eq hskip]
        exact (resume_tidy s).settings
      have htroupe := hs.toAwaits.tick_troupe hskip hthaw
      obtain ⟨hsound, hbrisk⟩ := hs.ruled.rule
      have hmarch := Troupe.resolve_march hs.walkable (hsound.elapse s.elapsed s.settings)
        (hbrisk.elapse hsound s.elapsed)
      rw [Troupe.elapse_march hsound hs.undisturbed] at hmarch
      have hlen : 0 < (s.troupe.elapse s.elapsed s.settings).barrier.pending.length :=
        List.length_pos_iff.mpr hs.pending
      have hruled : (s.tick table).Ruled fun _ T => T.Sound ∧ T.Brisk := by
        refine ⟨fun hfresh => absurd hfresh (ne_uninitialized_of_phase hawaits.phase), ?_⟩
        rw [hs.toAwaits.tick_eq hskip]
        exact hs.ruled.drifts Troupe.fit_rule (resume_drifts s)
      have hundisturbed : (s.tick table).troupe.Undisturbed := by
        rw [htroupe]
        exact hs.undisturbed.tick hsound s.elapsed
      refine .inr ⟨⟨hawaits, hruled, hsettings ▸ hs.walkable, hundisturbed⟩, ?_⟩
      rw [htroupe, hsettings]
      omega

/-- Between the ticks the barrier is closed from outside, or left alone. -/
lemma apply (hs : s.Marching) {move : HostMove ℚ σ} (hmove : move.isTick = false) :
    (move.apply table s).barrier.isClosed = true ∨ (move.apply table s).Marching ∧
      (move.apply table s).troupe.march (move.apply table s).settings =
        s.troupe.march s.settings := by
  have hrest := hs.rest.apply move
  cases move with
  | tick => cases hmove
  | skip => exact .inl (skip_closes hs.rest.toCalm hs.goes)
  | finish ending =>
    exact .inl (finish_cleared hs.goes ending (finish_ends hs.goes ending).isTerminal)
  | requestSkip =>
    exact .inr ⟨⟨⟨hrest, hs.goes, hs.held⟩, ⟨hs.ruled.unopened, hs.ruled.rule⟩, hs.walkable,
      hs.undisturbed⟩, rfl⟩
  | surround stage library elapsed =>
    exact .inr ⟨⟨⟨hrest, hs.goes, hs.held⟩, ⟨hs.ruled.unopened, hs.ruled.rule⟩, hs.walkable,
      hs.undisturbed⟩, rfl⟩

omit [Stage ℚ σ] in
lemma march_pos (hs : s.Marching) : 0 < s.troupe.march s.settings := by
  obtain ⟨hsound, hbrisk⟩ := hs.ruled.rule
  have hmarch := Troupe.resolve_march hs.walkable hsound hbrisk
  have hlen : 0 < s.troupe.barrier.pending.length := List.length_pos_iff.mpr hs.pending
  omega

/-- A move closes the barrier, or it takes a tick off those that are left if it is one. -/
lemma step (hs : s.Marching) {move : HostMove ℚ σ}
    (hthaw : move.isTick = true → Stage.worldFrozen ℚ s.elapse.stage = false) :
    (move.apply table s).barrier.isClosed = true ∨ (move.apply table s).Marching ∧
      (move.apply table s).troupe.march (move.apply table s).settings +
        (if move.isTick then 1 else 0) ≤ s.troupe.march s.settings := by
  cases hmove : move.isTick with
  | true =>
    obtain rfl : move = .tick := by cases move <;> first | rfl | cases hmove
    exact hs.tick (hthaw hmove)
  | false =>
    rcases hs.apply hmove with hclosed | ⟨hmarching, hsame⟩
    · exact .inl hclosed
    · exact .inr ⟨hmarching, hsame.le⟩

/-- After so many ticks as the barrier may still take it has closed. -/
theorem arrives (hs : s.Marching) {after : List (HostMove ℚ σ)} (hthaw : s.Thawed after)
    (hticks : s.troupe.march s.settings ≤ after.countP HostMove.isTick) :
    ∃ first, first <+: after ∧ (s.play table first).barrier.isClosed = true := by
  refine exists_prefix_of_descent (p := Marching) (q := fun t => t.barrier.isClosed = true)
    (r := Thawed) (fun _ => march_pos) (fun t move rest ht hthaw => ?_) hs hthaw hticks
  rcases ht.step hthaw.1 with hclosed | ⟨hmarching, hless⟩
  · exact .inl hclosed
  · exact .inr ⟨hmarching, hthaw.2, hless⟩

end Marching

end March

end Scene

/-- **An open barrier closes**, in exact arithmetic, if tiles have a size and everybody gets on:
wherever a run has come to be held by those on the way, and no path walks any of them, so many
ticks without a frozen world as they have strides to go, and one more for each of them, see the
barrier closed. -/
theorem barrier_closes {σ : Type} [Stage ℚ σ] (p : Premiere ℚ σ) (hwalkable : p.settings.Walkable)
    (before after : List (HostMove ℚ σ)) (hheld : ¬ (p.scene.play table before).Free)
    (hundisturbed : (p.scene.play table before).troupe.Undisturbed)
    (hthawed : (p.scene.play table before).Thawed after)
    (hticks : (p.scene.play table before).troupe.march p.settings ≤
      after.countP HostMove.isTick) :
    ∃ first, first <+: after ∧
      ((p.scene.play table before).play table first).barrier.isClosed = true := by
  have hruled := ((Ruled.habit (Troupe.fit_rule.pinned p.settings)).kept.play ⟨p.atRest,
    p.ruled ⟨rfl, .of_idle rfl rfl, fun m hm => absurd hm List.not_mem_nil⟩⟩ before).2
  have hcleared := (cleared_habit.kept.play (s := p.scene) ⟨p.atRest, nofun⟩ before).2
  obtain ⟨hsettings, hfit⟩ := hruled.rule
  have hgoes : (p.scene.play table before).isTerminal = false := by
    by_contra hover
    exact hheld (.inl (hcleared (by simpa using hover)))
  have hmarching : (p.scene.play table before).Marching :=
    { rest := atRest_play p.atRest before
      goes := hgoes
      held := hheld
      ruled := ⟨hruled.unopened, hfit⟩
      walkable := hsettings ▸ hwalkable
      undisturbed := hundisturbed }
  exact hmarching.arrives hthawed (hsettings ▸ hticks)

/-- The events of `rehearsed`, over fractions. -/
def rehearsedExactly (commands : List String) : Premiere ℚ Rehearsal where
  id := "rehearsal"
  key := none
  commands := ["none", "follow", "Abigail 0 0 1"] ++ commands
  settings := .standard
  sceneData := []
  stage := {}
  library := none
  elapsed := 16

/-- Abigail crosses a tile in two strides and lands. A path that has her turn to the right all the
while does not keep her from it. -/
theorem turning_walker_lands :
    ∃ first, first <+: [.tick, .tick, .tick] ∧
      (((rehearsedExactly ["beginSimultaneousCommand", "speed Abigail 32",
          "advancedMove Abigail true 1 4", "move Abigail 1 0 1"]).scene.play table [.tick]).play
        table first).barrier.isClosed = true := by
  -- The event gets a name, so that nothing but `hrun` ever works its run out.
  obtain ⟨p, hp⟩ : ∃ p, rehearsedExactly ["beginSimultaneousCommand", "speed Abigail 32",
    "advancedMove Abigail true 1 4", "move Abigail 1 0 1"] = p := ⟨_, rfl⟩
  rw [hp]
  have hwalkable : p.settings.Walkable := by
    subst hp
    constructor <;> decide +kernel
  have hrun : ∀ s, s = p.scene.play table [.tick] → s.barrier.isClosed = false ∧
      s.flags.continueAfterMove = false ∧ s.paths.map Path.steps = [[.face .right 4]] ∧
      s.Thawed [.tick, .tick, .tick] ∧ s.troupe.march p.settings ≤ 3 := by
    intro s hs
    rw [hs, ← hp, table_eq_spelled]
    decide +kernel
  obtain ⟨hopen, hstops, hsteps, hthawed, hmarch⟩ := hrun _ rfl
  have hheld : ¬ (p.scene.play table [.tick]).Free := by
    rintro (hclosed | hgoesOn)
    · rw [hopen] at hclosed
      cases hclosed
    · rw [hstops] at hgoesOn
      cases hgoesOn
  have hundisturbed : (p.scene.play table [.tick]).troupe.Undisturbed := by
    rintro q hq ⟨offset, hoffset⟩
    have hmem : q.steps ∈ [[PathStep.face .right 4]] := hsteps ▸ List.mem_map_of_mem hq
    rw [List.mem_singleton.mp hmem] at hoffset
    simp at hoffset
  exact barrier_closes p hwalkable [.tick] [.tick, .tick, .tick] hheld hundisturbed hthawed hmarch

/-! ### A script that is held for ever -/

/-- Abigail walks a hundred tiles to the right along a path, and is sent five tiles to the left. -/
def torn : Premiere ℚ Rehearsal :=
  rehearsedExactly ["advancedMove Abigail false 100 0", "move Abigail -5 0 3", "end"]

namespace Torn

/-- Abigail at the end of a tick, back from the step that the path has made with her. -/
def walker : Actor ℚ :=
  { Actor.place "Abigail" .villager ⟨0, 0⟩ .left 64 with
    position := ⟨2, 0⟩, scripted := true, walking := true }

/-- Where she is sent. -/
def target : Target := ⟨⟨-5, 0⟩, .left⟩

/-- The path that leads her away from there. -/
def path (atEnd : Option (Actor ℚ → Actor ℚ)) : Path ℚ :=
  { Path.start ⟨0⟩ [.walk ⟨100, 0⟩] false with target := some ⟨6400, 0⟩, atEnd := atEnd }

/-- The path and the target have Abigail between them. -/
structure Tears (T : Troupe ℚ) : Prop where
  cast : T.cast.members = [(⟨0⟩, walker)]
  pending : T.barrier.pending = [(⟨0⟩, target)]
  paths : ∃ atEnd, T.paths = [path atEnd]

/-- Abigail in the middle of a tick, a step further along the path. -/
def led : Actor ℚ := (walker.stepToward ⟨6400, 0⟩ 2).1

lemma path_leads (atEnd : Option (Actor ℚ → Actor ℚ)) (time : ℚ) :
    (path atEnd).update walker time .standard = (path atEnd, led, false) := by
  have hspeed : walker.speed .standard = 2 := by decide +kernel
  have hstep : walker.stepToward ⟨6400, 0⟩ 2 = (led, false) := by decide +kernel
  unfold Path.update Path.make
  simp only [path, Path.start, List.getElem?_cons_zero, Option.getD_some, hspeed, hstep]
  rfl

lemma target_takes_back : led.approach .standard target = (walker, false) := by
  decide +kernel

/-- What the path makes of a tick, the barrier takes back. -/
lemma Tears.tick {T : Troupe ℚ} (hT : Tears T) (time : ℚ) :
    Tears ((T.elapse time .standard).resolve .standard) := by
  obtain ⟨⟨members, next, player⟩, ⟨pending⟩, paths⟩ := T
  obtain ⟨rfl, rfl, atEnd, rfl⟩ := hT
  have hlive : ∀ a : Actor ℚ, (Cast.mk [(⟨0⟩, a)] next player).get? ⟨0⟩ = some a := fun _ => rfl
  have hset : ∀ a b : Actor ℚ, (Cast.mk [(⟨0⟩, a)] next player).modify ⟨0⟩ (fun _ => b) =
      Cast.mk [(⟨0⟩, b)] next player := fun _ _ => rfl
  have hupdated : (Cast.mk [(⟨0⟩, walker)] next player).modifyAll (·.update time) =
      Cast.mk [(⟨0⟩, walker)] next player := rfl
  have helapsed : Troupe.elapse ⟨⟨[(⟨0⟩, walker)], next, player⟩, ⟨[(⟨0⟩, target)]⟩, [path atEnd]⟩
      time .standard = ⟨⟨[(⟨0⟩, led)], next, player⟩, ⟨[(⟨0⟩, target)]⟩, [path atEnd]⟩ := by
    have hactor : (path atEnd).actor = ⟨0⟩ := rfl
    simp only [Troupe.elapse, Path.updateAll, hupdated, hactor, hlive, path_leads, hset]
    rfl
  have hresolved : Troupe.resolve ⟨⟨[(⟨0⟩, led)], next, player⟩, ⟨[(⟨0⟩, target)]⟩, [path atEnd]⟩
      .standard = ⟨⟨[(⟨0⟩, walker)], next, player⟩, ⟨[(⟨0⟩, target)]⟩, [path atEnd]⟩ := by
    simp only [Troupe.resolve, Barrier.advance, hlive, target_takes_back, hset]
    rfl
  rw [helapsed, hresolved]
  exact ⟨rfl, rfl, atEnd, rfl⟩

/-- Abigail holds the script, and her path keeps her from her target. -/
structure Stuck (s : Scene ℚ Rehearsal) : Prop extends s.Awaits where
  settings : s.settings = .standard
  skipRequested : s.skipRequested = false
  thawed : s.stage.worldFrozen = false
  tears : Tears s.troupe

lemma elapse_worldFrozen (s : Scene ℚ Rehearsal) :
    s.elapse.stage.worldFrozen = s.stage.worldFrozen := by
  change (Rehearsal.wait s.stage).worldFrozen = s.stage.worldFrozen
  unfold Rehearsal.wait
  split <;> rfl

lemma resume_stage (s : Scene ℚ Rehearsal) : s.resume.1.stage = s.elapse.stage := by
  unfold resume
  dsimp only
  split_ifs <;> rfl

lemma Stuck.elapse {s : Scene ℚ Rehearsal} (hs : Stuck s) :
    Stage.worldFrozen ℚ s.elapse.stage = false :=
  (elapse_worldFrozen s).trans hs.thawed

lemma Stuck.tick {s : Scene ℚ Rehearsal} (hs : Stuck s) : Stuck (s.tick table) := by
  have htears : Tears (s.tick table).troupe := by
    rw [hs.tick_troupe hs.skipRequested hs.elapse, hs.settings]
    exact hs.tears.tick s.elapsed
  have hopen : (s.tick table).barrier.isClosed = false := by
    unfold Barrier.isClosed
    rw [show (s.tick table).barrier.pending = _ from htears.pending]
    rfl
  obtain ⟨hawaits, hquiet⟩ := hs.toAwaits.tick hs.skipRequested hopen
  refine ⟨hawaits, ?_, hquiet.skipRequested.trans hs.skipRequested, ?_, htears⟩
  · rw [hs.tick_eq hs.skipRequested]
    exact (resume_tidy s).settings.trans hs.settings
  · rw [hs.tick_eq hs.skipRequested, resume_stage]
    exact hs.elapse

/-- However many ticks go by, nothing comes of it. -/
lemma Stuck.play {s : Scene ℚ Rehearsal} (hs : Stuck s) {moves : List (HostMove ℚ Rehearsal)}
    (hmoves : ∀ move ∈ moves, move = .tick) :
    s.Thawed moves ∧ (s.play table moves).barrier.isClosed = false := by
  induction moves generalizing s with
  | nil => exact ⟨trivial, by simpa using fun hclosed => hs.held (.inl hclosed)⟩
  | cons move rest ih =>
    obtain ⟨rfl, hrest⟩ := List.forall_mem_cons.mp hmoves
    obtain ⟨hthawed, hopen⟩ := ih hs.tick hrest
    exact ⟨⟨fun _ => hs.elapse, hthawed⟩, hopen⟩

lemma stuck_torn : Stuck (torn.scene.play table [.tick, .tick, .tick]) := by
  have hrest : (torn.scene.play table [.tick, .tick, .tick]).AtRest := atRest_play torn.atRest _
  have hrun : ∀ s, s = torn.scene.play table [.tick, .tick, .tick] → s.isTerminal = false ∧
      s.barrier.pending = [(⟨0⟩, target)] ∧ s.flags.continueAfterMove = false ∧
      s.settings = .standard ∧ s.skipRequested = false ∧ s.stage.worldFrozen = false ∧
      s.cast.members = [(⟨0⟩, walker)] ∧ s.paths.map (fun q =>
        decide (q.actor = ⟨0⟩ ∧ q.steps = [.walk ⟨100, 0⟩] ∧ q.looping = false ∧ q.index = 0 ∧
          q.target = some ⟨6400, 0⟩ ∧ q.pauseLeft = 0)) = [true] := by
    intro s hs
    rw [hs, table_eq_spelled]
    decide +kernel
  obtain ⟨s, hs⟩ : ∃ s, torn.scene.play table [.tick, .tick, .tick] = s := ⟨_, rfl⟩
  rw [hs] at hrest hrun ⊢
  obtain ⟨hgoes, hpending, hstops, hsettings, hskip, hthawed, hcast, hpaths⟩ := hrun s rfl
  obtain ⟨q, hpaths, hq⟩ := List.map_eq_singleton_iff.mp hpaths
  have hpath : q = path q.atEnd := by
    obtain ⟨actor, steps, looping, index, target, pauseLeft, atEnd⟩ := q
    obtain ⟨rfl, rfl, rfl, rfl, rfl, rfl⟩ := of_decide_eq_true hq
    rfl
  have hheld : ¬ s.Free := by
    rintro (hclosed | hgoesOn)
    · rw [Barrier.isClosed, hpending] at hclosed
      cases hclosed
    · rw [hstops] at hgoesOn
      cases hgoesOn
  exact ⟨⟨hrest, hgoes, hheld⟩, hsettings, hskip, hthawed, hcast, hpending, q.atEnd,
    hpath ▸ hpaths⟩

end Torn

/-- A path that leads away from the target holds the barrier open for ever: it is not the case that
an open barrier closes whatever paths are under way. -/
theorem path_holds_barrier_open :
    ¬ ∀ (p : Premiere ℚ Rehearsal) (before : List (HostMove ℚ Rehearsal)),
      p.settings.Walkable → 0 < p.elapsed → ¬ (p.scene.play table before).Free →
      ∃ n, ∀ after, (p.scene.play table before).Thawed after →
        n ≤ after.countP HostMove.isTick → ∃ first, first <+: after ∧
          ((p.scene.play table before).play table first).barrier.isClosed = true := by
  intro h
  have hwalkable : torn.settings.Walkable := by
    constructor <;> decide +kernel
  have hstuck := Torn.stuck_torn
  obtain ⟨n, hn⟩ := h torn [.tick, .tick, .tick] hwalkable (by decide +kernel) hstuck.held
  have hticks : ∀ move ∈ List.replicate n (HostMove.tick : HostMove ℚ Rehearsal), move = .tick :=
    fun move hmove => List.eq_of_mem_replicate hmove
  have hcount : n ≤ (List.replicate n (HostMove.tick : HostMove ℚ Rehearsal)).countP
      HostMove.isTick := by
    rw [List.countP_replicate]
    exact le_of_eq (if_pos rfl).symm
  obtain ⟨first, hfront, hclosed⟩ := hn _ (hstuck.play hticks).1 hcount
  have hopen := (hstuck.play fun move hmove => hticks move (hfront.subset hmove)).2
  rw [hopen] at hclosed
  cases hclosed

end Cutscene
