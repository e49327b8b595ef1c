import Cutscene.Proofs.Run.Release
import Cutscene.Proofs.Tempo.Opening
import Cutscene.Proofs.Tempo.Rounds
import Mathlib.Logic.Relation

/-!
# The Transcript Does Not Depend on the Timing

All runs of an event go through the same scenes once the clock is left out: there is one step from
beat to beat (`Scene.Rhythm`), and every tick makes some of these steps, or none while something is
waited for. Runs that come to an end therefore come to the same end, and the calls, the reports and
the outcome are no part of the clock.
-/

namespace Cutscene

variable {α : Type} [Scalar α]

/-- The settings that tell how fast actors walk, how near they must come, and how long emotes and
jumps last. -/
structure Pace (α : Type) where
  npcSpeed : α
  farmerSpeed : α
  arrivalSlop : Int
  emoteTime : α
  jumpTime : α

/-- The same event at another pace. -/
def Premiere.at {σ : Type} (p : Premiere α σ) (pace : Pace α) : Premiere α σ :=
  { p with settings := { p.settings with
      npcSpeed := pace.npcSpeed
      farmerSpeed := pace.farmerSpeed
      arrivalSlop := pace.arrivalSlop
      emoteTime := pace.emoteTime
      jumpTime := pace.jumpTime } }

/-- The circumstances of one tick: the time that has passed, and whether the world is frozen. -/
structure Pulse (α : Type) where
  elapsed : α
  frozen : Bool

namespace Scene

/-- The scene after one tick under its circumstances. -/
def tickAt (s : Scene α Rehearsal) (p : Pulse α) : Scene α Rehearsal :=
  s.play Commands.table
    [.surround { s.stage with worldFrozen := p.frozen } s.library p.elapsed, .tick]

/-- The scene as a tick finds it. -/
def pulsed (s : Scene α Rehearsal) (p : Pulse α) : Scene α Rehearsal :=
  { s with stage := { s.stage with worldFrozen := p.frozen }, elapsed := p.elapsed }

/-- The scene after ticks under their circumstances. -/
def perform (s : Scene α Rehearsal) (pulses : List (Pulse α)) : Scene α Rehearsal :=
  pulses.foldl tickAt s

/-! ### From beat to beat -/

/-- `f` leads from beat to beat: the first overture makes its step at once, and a round makes one
or none. -/
structure Rhythm (f : Scene α Rehearsal → Scene α Rehearsal) : Prop where
  opens : ∀ s : Scene α Rehearsal, s.Tame → s.AtRest → s.phase = .uninitialized →
    s.skipRequested = false → s.overture.1.Tame ∧ s.overture.1.untimed = f s.bare
  plays : ∀ s : Scene α Rehearsal, s.Tame → s.AtWork → (s.round Commands.table).1.Tame ∧
    ((s.round Commands.table).1.untimed = s.bare ∨
      (s.round Commands.table).1.untimed = f s.bare)

theorem exists_rhythm : ∃ f : Scene α Rehearsal → Scene α Rehearsal, Rhythm f := by
  obtain ⟨g, hg⟩ := round_timed (α := α)
  refine ⟨fun c => if c.phase = .uninitialized then c.overture.1.untimed else g c, ?_, ?_⟩
  · intro s hs hrest hfresh hskip
    have hfresh' : s.bare.phase = .uninitialized := congrArg Phase.bare hfresh
    rw [if_pos hfresh']
    exact opening_timed hs hrest hfresh hskip
  · intro s hs hw
    have hbegun : s.bare.phase ≠ .uninitialized := by
      intro h
      cases hw.phase_bare.symm.trans h
    rw [if_neg hbegun]
    exact hg s hs hw

/-- A step of an event that is not over. -/
def Beat (f : Scene α Rehearsal → Scene α Rehearsal) (c d : Scene α Rehearsal) : Prop :=
  c.isTerminal = false ∧ d = f c

variable {f : Scene α Rehearsal → Scene α Rehearsal} {s t c d : Scene α Rehearsal}

omit [Scalar α] in
lemma beat_rightUnique : Relator.RightUnique (Beat f) :=
  fun _ _ _ h h' => h.2.trans h'.2.symm

omit [Scalar α] in
lemma eq_of_reflTransGen_beat (h : Relation.ReflTransGen (Beat f) c d)
    (hover : c.isTerminal = true) : d = c := by
  rcases h.cases_head with rfl | ⟨_, ⟨hgoes, -⟩, -⟩
  · rfl
  · simp [hover] at hgoes

omit [Scalar α] in
/-- All runs from one scene come to the same end. -/
lemma eq_of_both_over (h : Relation.ReflTransGen (Beat f) s c)
    (h' : Relation.ReflTransGen (Beat f) s d) (hc : c.isTerminal = true)
    (hd : d.isTerminal = true) : c = d := by
  rcases h.total_of_right_unique beat_rightUnique h' with hcd | hdc
  · exact (eq_of_reflTransGen_beat hcd hc).symm
  · exact eq_of_reflTransGen_beat hdc hd

/-! ### Runs -/

/-- The scene between two ticks of an event that nobody asks to skip. -/
structure Steady (s : Scene α Rehearsal) : Prop where
  tame : s.Tame
  rest : s.AtRest
  unskipped : s.isTerminal = false → s.skipRequested = false

lemma unskipped_law :
    Law fun s : Scene α Rehearsal => s.isTerminal = false → s.skipRequested = false where
  ends := fun _ _ _ h hgoes => absurd h.isTerminal (by simp [hgoes])
  opening := fun _ _ _ h _ => h.skipRequested
  onward := fun hs _ h _ => h.turn.skipRequested.trans hs.skipRequested

/-- A round makes a beat, or none. -/
lemma round_beats (hf : Rhythm f) (hs : s.Tame) (hw : s.AtWork) :
    Relation.ReflTransGen (Beat f) s.bare (s.round Commands.table).1.untimed := by
  have hgoes : s.bare.isTerminal = false := (Alike.of_bare s).isTerminal ▸ hw.isTerminal
  rcases (hf.plays s hs hw).2 with h | h
  · rw [h]
  · exact .single ⟨hgoes, h⟩

/-- What the rounds of a tick keep without the clock, the tick keeps from its first round on. -/
lemma dispatch_along (hf : Rhythm f) {K : Scene α Rehearsal → Prop} (fuel : Nat) (hs : s.Tame)
    (hw : s.AtWork) (hK : ∀ d ∈ s.roundsFrom Commands.table fuel, d.Tame → d.AtWork → K d.bare →
      K (d.round Commands.table).1.untimed) (h : K s.bare) :
    (s.dispatch Commands.table fuel).Tame ∧ K (s.dispatch Commands.table fuel).untimed := by
  induction fuel generalizing s with
  | zero =>
    rw [dispatch, untimed_of_free hw.free]
    exact ⟨hs, h⟩
  | succ fuel ih =>
    rw [roundsFrom] at hK
    have htame := (hf.plays s hs hw).1
    have hround := hK s List.mem_cons_self hs hw h
    rw [dispatch_succ]
    cases hmore : (s.round Commands.table).2 with
    | false => exact ⟨htame, hround⟩
    | true =>
      rw [hmore] at hK
      have hwork := hw.next hmore
      rw [untimed_of_free hwork.free] at hround
      exact ih htame hwork (fun d hd => hK d (List.mem_cons_of_mem s hd)) hround

/-- The overture of an event that has begun moves nothing but the clock. -/
lemma overture_untimed (hs : s.Steady) (hbegun : s.phase ≠ .uninitialized) :
    s.overture.1.Tame ∧ s.overture.1.untimed = s.untimed := by
  cases hgoes : s.isTerminal with
  | true =>
    rw [overture, if_pos hgoes]
    exact ⟨hs.tame, rfl⟩
  | false =>
    have hresume : s.overture = s.resume := by
      rw [overture, if_neg (by simp [hgoes]), if_neg (by simp [hs.unskipped hgoes]), openEvent,
        if_pos hbegun]
    rw [hresume]
    exact resume_timed hs.tame (phase_of_goesOn hgoes hbegun)

/-- An overture makes the first step, or none. -/
lemma overture_beats (hf : Rhythm f) (hs : s.Steady) :
    s.overture.1.Tame ∧ Relation.ReflTransGen (Beat f) s.untimed s.overture.1.untimed := by
  by_cases hfresh : s.phase = .uninitialized
  · have hgoes : s.isTerminal = false := by
      unfold Event.isTerminal
      rw [hfresh]
    obtain ⟨htame, hopen⟩ := hf.opens s hs.tame hs.rest hfresh (hs.unskipped hgoes)
    have hfree : s.Free := .inl (hs.rest.fresh hfresh).2
    rw [untimed_of_free hfree]
    exact ⟨htame, .single ⟨(Alike.of_bare s).isTerminal ▸ hgoes, hopen⟩⟩
  · obtain ⟨htame, huntimed⟩ := overture_untimed hs hfresh
    rw [huntimed]
    exact ⟨htame, .refl⟩

/-- What the rounds of a tick keep without the clock, the tick keeps from its overture on. -/
lemma tick_along (hf : Rhythm f) {K : Scene α Rehearsal → Prop} (hs : s.Steady)
    (hK : ∀ d ∈ s.tickRounds Commands.table, d.Tame → d.AtWork → K d.bare →
      K (d.round Commands.table).1.untimed) (h : K s.overture.1.untimed) :
    (s.tick Commands.table).Steady ∧ K (s.tick Commands.table).untimed := by
  obtain ⟨⟨hrest, hunskipped⟩, -⟩ := unskipped_law.keptByTick.tick ⟨hs.rest, hs.unskipped⟩
  have htame := (overture_beats hf hs).1
  have htick : (s.tick Commands.table).Tame ∧ K (s.tick Commands.table).untimed := by
    rw [tick_eq]
    rw [tickRounds] at hK
    cases hmore : s.overture.2 with
    | false => exact ⟨htame, h⟩
    | true =>
      rw [hmore] at hK
      have hwork := hs.rest.work hmore
      rw [untimed_of_free hwork.free] at h
      exact dispatch_along hf dispatchLimit htame hwork hK h
  exact ⟨⟨htick.1, hrest, hunskipped⟩, htick.2⟩

lemma tick_beats (hf : Rhythm f) (hs : s.Steady) :
    (s.tick Commands.table).Steady ∧
      Relation.ReflTransGen (Beat f) s.untimed (s.tick Commands.table).untimed :=
  tick_along hf hs (fun _ _ htame hwork h => h.trans (round_beats hf htame hwork))
    (overture_beats hf hs).2

/-- Frozen or not, and however long it has been since, the scene is the same but for the clock. -/
lemma pulsed_steady (hs : s.Steady) (p : Pulse α) :
    (s.pulsed p).Steady ∧ (s.pulsed p).untimed = s.untimed :=
  ⟨⟨⟨hs.tame.cast, hs.tame.paths⟩, hs.rest.apply (.surround _ _ _), hs.unskipped⟩,
    Alike.untimed rfl Iff.rfl⟩

lemma tickAt_beats (hf : Rhythm f) (hs : s.Steady) (p : Pulse α) :
    (s.tickAt p).Steady ∧ Relation.ReflTransGen (Beat f) s.untimed (s.tickAt p).untimed := by
  obtain ⟨hset, hsame⟩ := pulsed_steady hs p
  obtain ⟨hsteady, hbeats⟩ := tick_beats hf hset
  rw [hsame] at hbeats
  exact ⟨hsteady, hbeats⟩

theorem perform_beats (hf : Rhythm f) (hs : s.Steady) (pulses : List (Pulse α)) :
    Relation.ReflTransGen (Beat f) s.untimed (s.perform pulses).untimed := by
  induction pulses generalizing s with
  | nil => exact .refl
  | cons p rest ih =>
    obtain ⟨hsteady, hbeats⟩ := tickAt_beats hf hs p
    exact hbeats.trans (ih hsteady)

lemma untimed_same {β : Type} {g : Scene α Rehearsal → β} (hbare : ∀ v, g v.bare = g v)
    (hadvance : ∀ v, g (v.advance 1) = g v) (s : Scene α Rehearsal) : g s.untimed = g s := by
  by_cases hf : s.Free
  · rw [untimed_of_free hf, hbare]
  · rw [untimed_of_not_free hf, hbare, hadvance]

end Scene

open Scene

lemma Premiere.steady (p : Premiere α Rehearsal) : p.scene.Steady :=
  ⟨⟨⟨List.nodup_nil, fun _ hm => absurd hm List.not_mem_nil⟩,
    fun _ hp => absurd hp List.not_mem_nil⟩, p.atRest, fun _ => rfl⟩

/-- **The transcript does not depend on the timing.** Two runs of an event from the same stage may
differ in their pace, in the time that passes from tick to tick and in the ticks on which the world
is frozen. If both come to an end, they have made the same calls, given the same reports and had
the same outcome. -/
theorem transcript_keeps_no_time (p : Premiere α Rehearsal) (pace pace' : Pace α)
    (pulses pulses' : List (Pulse α))
    (hover : ((p.at pace).scene.perform pulses).isTerminal = true)
    (hover' : ((p.at pace').scene.perform pulses').isTerminal = true) :
    ((p.at pace).scene.perform pulses).calls = ((p.at pace').scene.perform pulses').calls ∧
      ((p.at pace).scene.perform pulses).reports = ((p.at pace').scene.perform pulses').reports ∧
      ((p.at pace).scene.perform pulses).outcome =
        ((p.at pace').scene.perform pulses').outcome := by
  obtain ⟨f, hf⟩ := exists_rhythm (α := α)
  have hstart : (p.at pace).scene.untimed = (p.at pace').scene.untimed :=
    Alike.untimed rfl Iff.rfl
  have h := perform_beats hf (p.at pace).steady pulses
  have h' := perform_beats hf (p.at pace').steady pulses'
  rw [hstart] at h
  have hend := eq_of_both_over h h' (by rwa [isTerminal_untimed]) (by rwa [isTerminal_untimed])
  have hsame : ∀ {β : Type} {g : Scene α Rehearsal → β}, (∀ v, g v.bare = g v) →
      (∀ v, g (v.advance 1) = g v) → g ((p.at pace).scene.perform pulses) =
        g ((p.at pace').scene.perform pulses') := by
    intro _ g hbare hadvance
    rw [← untimed_same hbare hadvance, hend, untimed_same hbare hadvance]
  exact ⟨hsame (g := fun v => v.calls) (fun _ => rfl) fun _ => rfl,
    hsame (g := fun v => v.reports) (fun _ => rfl) fun _ => rfl,
    hsame (g := fun v => v.outcome) (fun _ => rfl) fun _ => rfl⟩

/-- A pause, a walk and a dialogue. -/
def promenade : Premiere Float32 Rehearsal :=
  { rehearsed ["pause 100", "move Abigail 2 0 1", "speak Abigail hi", "end"] with
    stage := .autopilot }

def Pace.brisk : Pace Float32 := ⟨64, 64, 2, 0, 0⟩

def Pace.slow : Pace Float32 := ⟨24, 8, 4, 640, 400⟩

/-- Nothing holds the event up. -/
def fluentPulses : List (Pulse Float32) := .replicate 9 ⟨200, false⟩

/-- Less time passes from tick to tick, and the world is frozen for a while. -/
def haltingPulses : List (Pulse Float32) :=
  [⟨16, false⟩, ⟨16, true⟩] ++ .replicate 14 ⟨40, false⟩

/-- The slow promenade is not over when the brisk one is, and both leave the same transcript. -/
theorem promenade_keeps_no_time :
    let brisk := (promenade.at .brisk).scene
    let slow := (promenade.at .slow).scene
    (slow.perform (haltingPulses.take fluentPulses.length)).isTerminal = false ∧
      ((brisk.perform fluentPulses).isTerminal = true ∧
        (slow.perform haltingPulses).isTerminal = true) ∧
      (brisk.perform fluentPulses).calls = (slow.perform haltingPulses).calls ∧
      (brisk.perform fluentPulses).reports = (slow.perform haltingPulses).reports ∧
      (brisk.perform fluentPulses).outcome = (slow.perform haltingPulses).outcome := by
  have hends : ((promenade.at .slow).scene.perform
        (haltingPulses.take fluentPulses.length)).isTerminal = false ∧
      ((promenade.at .brisk).scene.perform fluentPulses).isTerminal = true ∧
      ((promenade.at .slow).scene.perform haltingPulses).isTerminal = true := by
    decide +kernel
  exact ⟨hends.1, hends.2,
    transcript_keeps_no_time promenade .brisk .slow fluentPulses haltingPulses hends.2.1 hends.2.2⟩

end Cutscene
