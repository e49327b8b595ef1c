import Cutscene.Proofs.Run.Laws

/-!
# The Law of the Pointer

The pointer never leaves the list. A command keeps it, moves it on by one, passes over a winner's
line or begins another script, and the version of the list and the pointer into it, taken together,
never go back. So a command that a run has left is never come back to.
-/

namespace Cutscene

variable {α σ : Type} [Scalar α] [Stage α σ]

namespace Scene

variable {s t : Scene α σ}

/-! ### One command -/

/-- Where a command leaves the pointer. -/
inductive PointerStep (name : String) (a : Args) (s t : Scene α σ) : Prop
  | keeps (pointer : t.pointer = s.pointer)
  | next (pointer : t.pointer = s.pointer + 1)
  | passesWinner (named : name = "awardFestivalPrize") (unnamed : a.get? 1 = none)
      (lost : Stage.festivalWinner α s.stage = false)
      (pointer : t.pointer = min (s.pointer + 2) s.working.size)
  | restarts (named : name = "fork" ∨ name = "switchEvent") (text : String) (swap : Swap)
      (replaced : t.working = s.working.apply (.replaceAll (Script.split text) swap))
      (pointer : t.pointer = 0)

omit [Scalar α] in
lemma Steers.pointerStep {name : String} {a : Args} (hp : s.pointer ≤ s.working.size)
    (h : Steers name a s t) : PointerStep name a s t := by
  have hnext : t.pointer = min (s.pointer + 1) s.working.size → PointerStep name a s t := by
    intro heq
    rcases Nat.lt_or_eq_of_le hp with hlt | heq'
    · exact .next (heq.trans (Nat.min_eq_left hlt))
    · exact .keeps (by rw [heq, ← heq', Nat.min_eq_right (Nat.le_succ _)])
  cases h with
  | holds w stand => exact .keeps (congrArg Stand.pointer stand)
  | passes stand => exact hnext (congrArg Stand.pointer stand)
  | splices commands stand => exact hnext (congrArg Stand.pointer stand)
  | rewrites command stand => exact .keeps (congrArg Stand.pointer stand)
  | redirects named text swap stand =>
    exact .restarts named text swap (congrArg Stand.working stand) (congrArg Stand.pointer stand)
  | leaps named unnamed lost stand =>
    exact .passesWinner named unnamed lost (congrArg Stand.pointer stand)

/-- One dispatch of any text, wherever the event is. -/
lemma runCommand_pointerStep (hs : s.Calm) (raw : String) :
    PointerStep ((Commands.table : CommandTable (Handler α σ)).commandOf raw).1
      ((Commands.table : CommandTable (Handler α σ)).commandOf raw).2 s
      (runCommand Commands.table s s.pointer raw) := by
  rcases runCommand_cases Commands.table_isLawful hs raw with ⟨hturn, -⟩ | ⟨u, ending, hu, heq⟩
  · exact hturn.steers.pointerStep hs.pointer
  · rw [heq]
    refine .keeps ?_
    rw [(finish_frame u ending).2.1]
    exact hu.pointer

lemma runCommand_calm (hs : s.Calm) (raw : String) :
    (runCommand Commands.table s s.pointer raw).Calm := by
  rcases runCommand_cases Commands.table_isLawful hs raw with ⟨hturn, -⟩ | ⟨u, ending, hu, heq⟩
  · exact hturn.calm
  · rw [heq]
    cases hover : u.isTerminal with
    | true =>
      rw [finish_of_isTerminal hover]
      exact hu.calm hs
    | false => exact (hu.ends (finish_ends hover ending)).calm hs

/-! ### The mark goes up -/

lemma round_mark_le (hs : s.AtWork) : s.mark ≤ (s.round Commands.table).1.mark := by
  rcases round_cases hs with ⟨-, o, ho⟩ | ho
  · exact ho.mark.ge
  · rcases ho.turn.steers.lt_mark_or ho.inside with hlt | ⟨w, hstand, -⟩
    · exact hlt.le
    · exact (congrArg Stand.mark hstand).ge

omit [Scalar α] [Stage α σ] in
lemma Opened.mark_le {more : Bool} (hs : s.AtRest) (h : Opened s t more) : s.mark ≤ t.mark := by
  unfold mark
  cases h with
  | stays stand => rw [stand]
  | reads fresh n len stand =>
    rw [stand]
    have hzero : s.pointer = 0 := (hs.fresh fresh).1
    exact Prod.Lex.toLex_le_toLex.mpr (.inr ⟨rfl, hzero.trans_le (Nat.zero_le n)⟩)
  | lands _ _ _ _ stand =>
    rw [stand]
    exact Prod.Lex.toLex_le_toLex.mpr (.inr ⟨rfl, Nat.le_min.mpr ⟨Nat.le_succ _, hs.pointer⟩⟩)

omit [Scalar α] in
lemma Interval.mark_le (hs : s.AtRest) (h : s.Interval t) : s.mark ≤ t.mark := by
  cases h with
  | untouched same => exact (congrArg Stand.mark same.stand).ge
  | ends _ o ends => exact ends.mark.ge
  | opens _ more opening => exact opening.opened.mark_le hs

/-- The marks of these scenes begin no lower than this one and never go down. -/
def RisesFrom (m : ℕ ×ₗ ℕ) (scenes : List (Scene α σ)) : Prop :=
  (∀ d ∈ scenes, m ≤ d.mark) ∧ scenes.Pairwise fun d e => d.mark ≤ e.mark

omit [Scalar α] [Stage α σ] in
lemma RisesFrom.cons {scenes : List (Scene α σ)} {m : ℕ ×ₗ ℕ} (hm : m ≤ s.mark)
    (h : RisesFrom s.mark scenes) : RisesFrom m (s :: scenes) := by
  refine ⟨fun d hd => ?_, List.pairwise_cons.mpr h⟩
  rcases List.mem_cons.mp hd with rfl | hd
  · exact hm
  · exact hm.trans (h.1 d hd)

omit [Scalar α] [Stage α σ] in
lemma RisesFrom.append {before after : List (Scene α σ)} {m : ℕ ×ₗ ℕ}
    (h : RisesFrom m (before ++ [s])) (h' : RisesFrom s.mark after) :
    RisesFrom m (before ++ after) := by
  obtain ⟨hge, hpair⟩ := h
  obtain ⟨hbefore, -, hlast⟩ := List.pairwise_append.mp hpair
  have hs : ∀ d ∈ before, d.mark ≤ s.mark := fun d hd => hlast d hd s List.mem_cons_self
  refine ⟨fun d hd => ?_, List.pairwise_append.mpr ⟨hbefore, h'.2, fun d hd e he => ?_⟩⟩
  · rcases List.mem_append.mp hd with hd | hd
    · exact hge d (List.mem_append_left _ hd)
    · exact (hge s (List.mem_append_right _ List.mem_cons_self)).trans (h'.1 d hd)
  · exact (hs d hd).trans (h'.1 e he)

lemma dispatch_rises (hs : s.AtWork) (fuel : Nat) :
    RisesFrom s.mark (s.roundsFrom Commands.table fuel ++ [s.dispatch Commands.table fuel]) := by
  induction fuel generalizing s with
  | zero => exact RisesFrom.cons le_rfl ⟨by simp, by simp⟩
  | succ fuel ih =>
    rw [dispatch_succ, roundsFrom]
    refine RisesFrom.cons le_rfl ?_
    have hle := round_mark_le hs
    cases hmore : (s.round Commands.table).2 with
    | false => exact RisesFrom.cons hle ⟨by simp, by simp⟩
    | true =>
      have h := ih (hs.next hmore)
      exact ⟨fun d hd => hle.trans (h.1 d hd), h.2⟩

lemma apply_rises (hs : s.AtRest) (move : HostMove α σ) :
    RisesFrom s.mark (move.rounds Commands.table s ++ [move.apply Commands.table s]) := by
  by_cases htick : move = .tick
  · subst htick
    rw [HostMove.rounds, HostMove.apply, tick_eq, tickRounds]
    have hle := (overture_interval hs).mark_le hs
    cases hmore : s.overture.2 with
    | false => exact RisesFrom.cons hle ⟨by simp, by simp⟩
    | true =>
      have h := dispatch_rises (hs.work hmore) dispatchLimit
      exact ⟨fun d hd => hle.trans (h.1 d hd), h.2⟩
  · rw [(apply_of_ne_tick hs.toCalm htick Commands.table).1]
    exact RisesFrom.cons ((apply_interval hs htick).mark_le hs) ⟨by simp, by simp⟩

theorem course_rises (hs : s.AtRest) (moves : List (HostMove α σ)) :
    RisesFrom s.mark (s.course Commands.table moves) := by
  induction moves generalizing s with
  | nil => exact RisesFrom.cons le_rfl ⟨by simp, by simp⟩
  | cons move rest ih =>
    exact RisesFrom.cons le_rfl ((apply_rises hs move).append (ih (hs.apply move)))

end Scene

/-! ### Every run -/

open Scene Commands

/-- **The law of the pointer.** On the course of every run the pointer is in the list or at its
end; whatever text is dispatched there keeps the pointer, moves it on by one, by two for a prize
that was not won, or to the beginning of another script; and the marks never go down, so that one
that was left is never returned to. -/
theorem pointer_law (p : Premiere α σ) (moves : List (HostMove α σ)) :
    (∀ t ∈ p.scene.course table moves, t.pointer ≤ t.working.size ∧
      ∀ raw, PointerStep ((table : CommandTable (Handler α σ)).commandOf raw).1
          ((table : CommandTable (Handler α σ)).commandOf raw).2 t
          (runCommand table t t.pointer raw) ∧
        (runCommand table t t.pointer raw).pointer ≤
          (runCommand table t t.pointer raw).working.size) ∧
    (p.scene.course table moves).Pairwise (fun s t => s.mark ≤ t.mark) ∧
    ∀ before s between t after u rest,
      p.scene.course table moves = before ++ s :: between ++ t :: after ++ u :: rest →
      s.mark ≠ t.mark → s.mark ≠ u.mark := by
  obtain ⟨-, hpair⟩ := course_rises p.atRest moves
  refine ⟨fun t ht => ?_, hpair, ?_⟩
  · have hcalm := (atRest_lasting.kept.course ⟨p.atRest, p.atRest⟩ moves t ht).1.toCalm
    exact ⟨hcalm.pointer, fun raw =>
      ⟨runCommand_pointerStep hcalm raw, (runCommand_calm hcalm raw).pointer⟩⟩
  · intro before s between t after u rest hcourse hleft hback
    rw [hcourse] at hpair
    simp only [List.append_assoc, List.cons_append] at hpair
    have hs := List.pairwise_cons.mp (List.pairwise_append.mp hpair).2.1
    have ht := List.pairwise_cons.mp (List.pairwise_append.mp hs.2).2.1
    have hst : s.mark ≤ t.mark := hs.1 t (by simp)
    have htu : t.mark ≤ u.mark := ht.1 u (by simp)
    exact hleft (hst.antisymm (hback ▸ htu))

end Cutscene
