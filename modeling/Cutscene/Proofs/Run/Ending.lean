import Cutscene.Proofs.Run.Laws

/-!
# The End of an Event

However an event comes to its end, by an `end`, for want of commands, by a skip or by a fault of its
header, it does so once. The stage is told by the last call that is ever made, and phase and
outcome say the same of it. Nothing that the host does afterwards touches the event.
-/

namespace Cutscene

variable {α σ : Type} [Scalar α] [Stage α σ]

namespace Scene

variable {s t : Scene α σ}

/-! ### What is told of the end -/

/-- The calls, the phase and the outcome tell the same of the end. -/
structure Accounted (s : Scene α σ) : Prop where
  once : s.endings ≤ 1
  told_iff : s.endings = 1 ↔ s.phase = .finished ∨ s.phase = .skipped
  last : s.phase = .finished ∨ s.phase = .skipped →
    ∃ o, s.outcome = some o ∧ s.calls.getLast? = some (.endEvent o)
  finished_iff : s.phase = .finished ↔ ∃ ending, s.outcome = some (.finished ending)
  skipped_iff : s.phase = .skipped ↔ (∃ ending, s.outcome = some (.skipped ending)) ∨
    ∃ index fault, s.outcome = some (.aborted index fault)
  ongoing : ¬ (s.phase = .finished ∨ s.phase = .skipped) → s.outcome = none

/-- Either the event goes on and nothing is told of an end, or it has one outcome, and the last
call tells it. -/
def Tally (s : Scene α σ) : Prop :=
  (s.isTerminal = false ∧ s.outcome = none ∧ s.endings = 0) ∨
    ∃ o, s.outcome = some o ∧ s.phase = o.phase ∧ s.endings = 1 ∧
      s.calls.getLast? = some (.endEvent o)

omit [Scalar α] [Stage α σ] in
lemma Tally.accounted (h : s.Tally) : s.Accounted := by
  rcases h with ⟨hgoes, hnone, hzero⟩ | ⟨o, ho, hphase, hone, hlast⟩
  · have hphase : ¬ (s.phase = .finished ∨ s.phase = .skipped) := by
      rw [← isTerminal_eq_true_iff, hgoes]
      exact Bool.false_ne_true
    constructor <;> simp_all
  · have hover : s.phase = .finished ∨ s.phase = .skipped := by
      rw [hphase]
      cases o <;> simp [Outcome.phase]
    refine ⟨Nat.le_of_eq hone, iff_of_true hone hover, fun _ => ⟨o, ho, hlast⟩, ?_, ?_,
      absurd hover⟩
    · rw [hphase, ho]
      cases o <;> simp [Outcome.phase]
    · rw [hphase, ho]
      cases o <;> simp [Outcome.phase]

omit [Scalar α] [Stage α σ] in
lemma Tally.of_goesOn (h : s.Tally) (hgoes : s.isTerminal = false) :
    s.outcome = none ∧ s.endings = 0 := by
  rcases h with ⟨-, h⟩ | ⟨o, -, hphase, -, -⟩
  · exact h
  · have hover := (isTerminal_eq_true_iff s).mpr (by rw [hphase]; cases o <;> simp [Outcome.phase])
    rw [hover] at hgoes
    cases hgoes

lemma tally_lasting : Law.Lasting (Tally : Scene α σ → Prop) where
  ends {s t o} _ hgoes h hend := by
    obtain ⟨-, hzero⟩ := h.of_goesOn hgoes
    obtain ⟨u, -, -, -, hcalls, -⟩ := hend.told
    refine .inr ⟨o, hend.outcome, hend.phase, by rw [hend.endings, hzero], ?_⟩
    rw [hcalls]
    exact List.getLast?_concat
  opening _ hgoes h hopen := by
    obtain ⟨hnone, hzero⟩ := h.of_goesOn hgoes
    exact .inl ⟨isTerminal_of_phase hopen.phase, hopen.outcome.trans hnone,
      hopen.endings.trans hzero⟩
  onward hs h hround := by
    obtain ⟨hnone, hzero⟩ := h.of_goesOn hs.isTerminal
    exact .inl ⟨isTerminal_of_phase hround.phase, hround.turn.outcome.trans hnone,
      hround.turn.endings.trans hzero⟩
  requestSkip _ h := h
  surround _ _ _ _ h := h

/-! ### The stage at the end -/

/-- If the event is over, the end is the last that the stage has seen. -/
def Told (s : Scene α σ) : Prop :=
  s.isTerminal = true →
    ∃ o stage, s.outcome = some o ∧ s.stage = Stage.perform (α := α) (.endEvent o) stage

omit [Scalar α] in
lemma Ends.isTold {o : Outcome} (h : s.Ends t o) : t.Told := by
  obtain ⟨u, -, -, -, -, hstage⟩ := h.told
  exact fun _ => ⟨o, u.stage, h.outcome, hstage⟩

omit [Scalar α] in
lemma told_of_goesOn (h : s.isTerminal = false) : s.Told := by
  intro hover
  rw [h] at hover
  cases hover

lemma told_law : Law (Told : Scene α σ → Prop) where
  ends _ _ _ h := h.isTold
  opening _ _ _ h := told_of_goesOn (isTerminal_of_phase h.phase)
  onward _ _ h := told_of_goesOn (isTerminal_of_phase h.phase)

lemma apply_told (hs : s.AtRest) (hgoes : s.isTerminal = false) (move : HostMove α σ) :
    (move.apply Commands.table s).Told := by
  have h : s.Told := told_of_goesOn hgoes
  cases move with
  | tick => exact (told_law.keptByTick.tick ⟨hs, h⟩).1.2
  | skip => exact told_law.skip hs h
  | requestSkip => exact told_of_goesOn hgoes
  | finish ending => exact told_law.finish hs h ending
  | surround stage library elapsed => exact told_of_goesOn hgoes

/-! ### After the end -/

variable {table : CommandTable (Handler α σ)}

/-- A move does nothing to an event that is over, and only the surroundings do to its stage. -/
lemma apply_of_isTerminal (hover : s.isTerminal = true) (move : HostMove α σ) :
    s.Untouched (move.apply table s) ∧ move.rounds table s = [] ∧
      ((∀ stage library elapsed, move ≠ .surround stage library elapsed) →
        (move.apply table s).stage = s.stage) := by
  cases move with
  | tick =>
    have hdone : s.overture = (s, false) := if_pos hover
    rw [HostMove.apply, HostMove.rounds, tick_eq, tickRounds, hdone]
    exact ⟨.refl s, rfl, fun _ => rfl⟩
  | skip =>
    rw [HostMove.apply, skip_of_isTerminal hover]
    exact ⟨.refl s, rfl, fun _ => rfl⟩
  | requestSkip => exact ⟨⟨rfl, rfl, rfl⟩, rfl, fun _ => rfl⟩
  | finish ending =>
    rw [HostMove.apply, finish_of_isTerminal hover]
    exact ⟨.refl s, rfl, fun _ => rfl⟩
  | surround stage library elapsed =>
    exact ⟨⟨rfl, rfl, rfl⟩, rfl, fun h => absurd rfl (h stage library elapsed)⟩

/-- Nothing that comes after the end touches the event, and no command is dispatched. -/
theorem play_of_isTerminal (hover : s.isTerminal = true) (moves : List (HostMove α σ)) :
    s.Untouched (s.play table moves) ∧ s.rounds table moves = [] ∧
      ((∀ move ∈ moves, ∀ stage library elapsed, move ≠ .surround stage library elapsed) →
        (s.play table moves).stage = s.stage) := by
  induction moves generalizing s with
  | nil => exact ⟨.refl s, rfl, fun _ => rfl⟩
  | cons move rest ih =>
    obtain ⟨hsame, hrounds, hstage⟩ : s.Untouched (move.apply table s) ∧ _ :=
      apply_of_isTerminal hover move
    obtain ⟨hsame', hrounds', hstage'⟩ := ih (hsame.isTerminal.trans hover)
    refine ⟨hsame.trans hsame', ?_, fun h => ?_⟩
    · rw [Scene.rounds, hrounds, hrounds']
      rfl
    · exact (hstage' fun m hm => h m (List.mem_cons_of_mem _ hm)).trans
        (hstage (h move List.mem_cons_self))

end Scene

/-! ### Every run -/

open Scene Commands

/-- **An event ends once.** In every scene of every run the stage was told of the end at most once,
exactly if the event is over, and by the last call; phase and outcome agree. The move that is over
the event leaves the stage as the call left it. From then on no move changes the event, makes a
call, reports or dispatches a command. -/
theorem event_ends_once (p : Premiere α σ) :
    (∀ moves, ∀ t ∈ p.scene.course table moves, t.Accounted) ∧
    (∀ before (move : HostMove α σ), (p.scene.play table before).isTerminal = false →
      (move.apply table (p.scene.play table before)).Told) ∧
    ∀ before after, (p.scene.play table before).isTerminal = true →
      (p.scene.play table before).Untouched (p.scene.play table (before ++ after)) ∧
      (p.scene.play table before).rounds table after = [] ∧
      ((∀ move ∈ after, ∀ stage library elapsed, move ≠ .surround stage library elapsed) →
        (p.scene.play table (before ++ after)).stage = (p.scene.play table before).stage) := by
  have htally : p.scene.Tally := .inl ⟨rfl, rfl, rfl⟩
  refine ⟨fun moves t ht => ?_, fun before move hgoes => ?_, fun before after hover => ?_⟩
  · exact (tally_lasting.kept.course ⟨p.atRest, htally⟩ moves t ht).2.accounted
  · exact apply_told (atRest_play p.atRest before) hgoes move
  · rw [play_append]
    exact play_of_isTerminal hover after

end Cutscene
