import Cutscene.Proofs.Footprint.Basic

/-!
# Footprints of the Commands That Steer and Speak

The commands that hold the script hold a wait of their own while they do, and ask the stage for
nothing more while they hold it. Only an `end` leaves no footprint: it finishes the event.
-/

namespace Cutscene.Commands

open Scene

variable {α σ : Type} [Stage α σ]

/-! ### Flow -/

lemma skippable_obeys (a : Args) (s : Scene α σ) : Obeys "skippable" a s (skippable a s) :=
  .passes (.of_eq rfl rfl id)

lemma pause_obeys [Scalar α] (a : Args) (s : Scene α σ) : Obeys "pause" a s (pause a s) := by
  unfold pause
  split
  · dsimp only
    generalize (if Stage.menuOpen α s.stage = true then _ else _) = left
    split
    · exact .uncalled rfl id (.passes rfl)
    · exact .uncalled rfl id (.holds _ rfl (absurd · (Nat.lt_irrefl _)) fun _ => ⟨_, rfl, rfl⟩)
  · refine .reading fun time _ => ?_
    split
    · exact .passes (.refl s)
    · exact .uncalled rfl id (.holds _ rfl (absurd · (Nat.lt_irrefl _)) fun _ => ⟨_, rfl, rfl⟩)

lemma redirect_obeys {name : String} (hn : name = "fork" ∨ name = "switchEvent") (a : Args)
    (s : Scene α σ) (key : String) (swap : Swap) : Obeys name a s (redirect s key swap) := by
  unfold redirect
  split
  · exact .uncalled rfl id (.redirects hn _ swap rfl)
  · exact .passOver (.refl s) _

lemma fork_obeys (a : Args) (s : Scene α σ) : Obeys "fork" a s (fork a s) := by
  refine .reading fun v _ => ?_
  obtain ⟨taken, key⟩ := v
  dsimp only
  split
  · exact redirect_obeys (.inl rfl) a s key .fork
  · exact .passes (.refl s)

lemma switchEvent_obeys (a : Args) (s : Scene α σ) :
    Obeys "switchEvent" a s (switchEvent a s) :=
  .reading fun key _ => redirect_obeys (.inr rfl) a s key .switch

lemma beginSimultaneous_obeys (a : Args) (s : Scene α σ) :
    Obeys "beginSimultaneousCommand" a s (beginSimultaneous a s) :=
  .passes (.of_eq rfl rfl id)

lemma endSimultaneous_obeys (a : Args) (s : Scene α σ) :
    Obeys "endSimultaneousCommand" a s (endSimultaneous a s) :=
  .passes (.of_eq rfl rfl id)

lemma setSkipActions_obeys (a : Args) (s : Scene α σ) :
    Obeys "setSkipActions" a s (setSkipActions a s) :=
  .reading fun _ _ => .passes (.of_eq rfl rfl id)

/-- The only command that may be over the event: it stays, or quiet work is finished. -/
lemma end_obeys (a : Args) (s : Scene α σ) :
    Obeys "end" a s («end» a s) ∨
      ∃ u ending, s.Quiet u ∧ «end» a s = (u.finish ending).done := by
  unfold «end»
  split
  · exact .inl (.holds (.refl s))
  · split
    · exact .inr ⟨s, _, .refl s, rfl⟩
    · exact .inr ⟨_, _, (Quiet.refl s).note _, rfl⟩

omit [Stage α σ] in
lemma held_gate {a : Args} {g : String} {w : Option (Wait α)} (hg : a.get? 1 = some g) :
    Held "waitForOtherPlayers" a w ↔ w = some (.gate g) := by
  constructor
  · rintro ⟨v, rfl, hv⟩
    cases v <;> simp_all [Wait.IsOf]
  · rintro rfl
    exact ⟨_, rfl, rfl, hg⟩

/-- The player is said to be ready only where the gate is not held yet. -/
lemma arriveAtGate_obeys {a : Args} {s u : Scene α σ} {gate : String} (hget : a.get? 1 = some gate)
    (hnot : ¬ Held "waitForOtherPlayers" a s.wait)
    (hu : u = ((s.call (.requestReady gate)).call (.waitingForPlayers (some gate))).await
      (.gate gate)) :
    Obeys "waitForOtherPlayers" a s
      (if Stage.gateReady α u.stage gate then
        ((u.call (.waitingForPlayers none)).advance 1).done
      else u.done) := by
  subst hu
  split
  · refine .of_calls (l := [.requestReady gate, .waitingForPlayers (some gate),
      .waitingForPlayers none]) ?_ rfl (Nat.le_refl 1) (absurd · hnot) .inl (.passes rfl)
    simp [Scene.call, Scene.await, Scene.advance]
  · refine .of_calls (l := [.requestReady gate, .waitingForPlayers (some gate)]) ?_ rfl
      (Nat.le_refl 1) (absurd · hnot) .inl
      (.holds (some (.gate gate)) rfl (fun _ => ⟨_, rfl, rfl, hget⟩) (absurd · hnot))
    simp [Scene.call, Scene.await]

lemma waitForOtherPlayers_obeys (a : Args) (s : Scene α σ) :
    Obeys "waitForOtherPlayers" a s (waitForOtherPlayers a s) := by
  refine .reading fun gate hg => ?_
  have hget : a.get? 1 = some gate := Args.get?_of_get hg
  dsimp only
  split
  · rename_i name hw
    by_cases hname : name = gate
    · simp only [hname, beq_self_eq_true, if_true]
      split
      · exact .passes ((Quiet.refl s).call rfl rfl)
      · exact .holds (.refl s)
    · refine arriveAtGate_obeys hget ?_ (if_neg (by simpa using hname))
      rw [held_gate hget, hw]
      simpa using hname
  · rename_i hw
    exact arriveAtGate_obeys hget (fun h => hw _ ((held_gate hget).mp h)) rfl

/-! ### Dialogue -/

/-- A dialogue that this command has opened is held, any other is waited out, and only then may it
open one of its own. -/
lemma onceClosed_obeys {name : String} (hn : name = "speak" ∨ name = "message") {a : Args}
    {s : Scene α σ} {begins : Scene α σ → Reply α σ}
    (h : ¬ Held name a s.wait → Obeys name a s (begins s)) :
    Obeys name a s (onceClosed s begins) := by
  unfold onceClosed
  split
  · unfold holdDialogue
    split
    · exact .holds (.refl s)
    · exact .passes (.refl s)
  · rename_i hw
    split
    · exact .holds (.refl s)
    · refine h ?_
      rintro ⟨v, hv, hof⟩
      rcases hn with rfl | rfl <;> cases v <;> simp_all [Wait.IsOf]

lemma speak_obeys (a : Args) (s : Scene α σ) : Obeys "speak" a s (speak a s) := by
  refine onceClosed_obeys (.inl rfl) fun hnot => .reading fun v _ => ?_
  obtain ⟨token, text⟩ := v
  refine .withActor (.refl s) fun _ actor _ => ?_
  split
  · exact .called rfl rfl (fun _ => hnot) id
      (.holds _ rfl (fun _ => ⟨_, rfl, .inl rfl⟩) (absurd · hnot))
  · exact .passOver (.refl s) _

lemma message_obeys (a : Args) (s : Scene α σ) : Obeys "message" a s (message a s) :=
  onceClosed_obeys (.inr rfl) fun hnot => .reading fun _ _ =>
    .called rfl rfl (fun _ => hnot) id
      (.holds _ rfl (fun _ => ⟨_, rfl, .inr rfl⟩) (absurd · hnot))

omit [Stage α σ] in
lemma not_held_of_ne_answer {name : String} {a : Args} {w : Option (Wait α)}
    (hn : name = "question" ∨ name = "quickQuestion")
    (hw : ∀ fork, w = some (.answer fork) → False) : ¬ Held name a w := by
  rintro ⟨v, rfl, hof⟩
  rcases hn with rfl | rfl <;> cases v <;> simp_all [Wait.IsOf]

lemma question_obeys (a : Args) (s : Scene α σ) : Obeys "question" a s (question a s) := by
  unfold question
  split
  · dsimp only
    split
    · exact .holds (.of_eq rfl rfl id)
    · split
      · exact .passes (.of_eq rfl rfl id)
      · exact .passes (.of_eq rfl rfl id)
  · rename_i hw
    have hnot := not_held_of_ne_answer (a := a) (.inl rfl) hw
    split
    · exact .holds (.refl s)
    · refine .reading fun v _ => ?_
      obtain ⟨fork, text⟩ := v
      dsimp only
      split
      · exact .passOver (.refl s) _
      · exact .called rfl rfl (fun _ => hnot) id
          (.holds _ rfl (fun _ => ⟨_, rfl, .inl rfl⟩) (absurd · hnot))

lemma quickQuestion_obeys (a : Args) (s : Scene α σ) :
    Obeys "quickQuestion" a s (quickQuestion a s) := by
  unfold quickQuestion
  dsimp only
  split
  · have hq : s.Quiet { s with stage := (Stage.takeAnswer α s.stage).2 } := .of_eq rfl rfl id
    split
    · exact .holds hq
    · split
      · exact .passOver hq _
      · split
        · exact .passes hq
        · exact .uncalled rfl id (.splices _ rfl)
  · rename_i hw
    have hnot := not_held_of_ne_answer (a := a) (.inr rfl) hw
    split
    · exact .holds (.refl s)
    · split
      · exact .passOver (.refl s) _
      · exact .called rfl rfl (fun _ => hnot) id
          (.holds _ rfl (fun _ => ⟨_, rfl, .inr rfl⟩) (absurd · hnot))

lemma speakFromState_obeys (a : Args) (s : Scene α σ) :
    Obeys "speakFromState" a s (speakFromState a s) := by
  refine .reading fun v _ => ?_
  obtain ⟨actor, key⟩ := v
  dsimp only
  split
  · exact .uncalled rfl id (.rewrites _ rfl)
  · exact .passOver (.refl s) _

end Cutscene.Commands
