import Cutscene.Proofs.Conduct.Basic
import Cutscene.Proofs.Script.Arguments

/-!
# Conduct of the Commands That Steer and Speak

A command that shows something records its own wait in the same step, and one that has waited drops
its wait when it moves on. A `fork`, a `switchEvent` and a `speakFromState` leave the wait alone,
but they never find one. The overlay is shown and taken away by `waitForOtherPlayers`, and the fork
variable is set by `question`.
-/

namespace Cutscene.Commands

open Scene

variable {α σ : Type} [Scalar α]

/-! ### Flow -/

lemma skippable_conduct (a : Args) (s : Scene α σ) :
    Conduct "skippable" a s (skippable a s).scene :=
  .passes (.of_eq rfl rfl rfl rfl rfl)

lemma beginSimultaneous_conduct (a : Args) (s : Scene α σ) :
    Conduct "beginSimultaneousCommand" a s (beginSimultaneous a s).scene :=
  .passes (.of_eq rfl rfl rfl rfl rfl)

lemma endSimultaneous_conduct (a : Args) (s : Scene α σ) :
    Conduct "endSimultaneousCommand" a s (endSimultaneous a s).scene :=
  .passes (.of_eq rfl rfl rfl rfl rfl)

lemma setSkipActions_conduct (a : Args) (s : Scene α σ) :
    Conduct "setSkipActions" a s (setSkipActions a s).scene :=
  .reading fun _ _ => .passes (.of_eq rfl rfl rfl rfl rfl)

variable [Stage α σ]

lemma pause_conduct (a : Args) (s : Scene α σ) : Conduct "pause" a s (pause a s).scene := by
  have hawaits : ∀ left, Conduct "pause" a s (s.await (.pause left)) := fun left =>
    .awaits (.refl s) rfl rfl fun _ => rfl
  unfold pause
  split
  · dsimp only
    generalize (if Stage.menuOpen α s.stage = true then _ else _) = left
    split
    · exact .passes (.of_eq rfl rfl rfl rfl rfl)
    · exact hawaits left
  · refine .reading fun time _ => ?_
    split
    · exact .passes (.refl s)
    · exact hawaits _

lemma finish_conduct {name : String} {a : Args} {s t : Scene α σ} (hn : name ∉ waiting)
    (h : s.Tidy t) (hw : t.wait = s.wait) (ending : Ending) :
    Conduct name a s (t.finish ending) := by
  cases hover : t.isTerminal with
  | true =>
    rw [finish_of_isTerminal hover]
    exact .leaves hn h hw
  | false =>
    refine .drops (h.finish ending) ?_
    unfold finish
    rw [if_neg (by simp [hover])]
    rfl

lemma end_conduct (a : Args) (s : Scene α σ) : Conduct "end" a s («end» a s).scene := by
  unfold «end»
  split
  · exact .stays s
  · split
    · exact finish_conduct (by decide) (.refl s) rfl _
    · exact finish_conduct (by decide) ((Tidy.refl s).note _) rfl _

lemma redirect_conduct {name : String} (hn : name ∉ waiting) (a : Args) (s : Scene α σ)
    (key : String) (swap : Swap) : Conduct name a s (redirect s key swap).scene := by
  unfold redirect
  split
  · exact .leaves hn (.of_eq rfl rfl rfl rfl rfl) rfl
  · exact .passOver (.refl s) _

lemma fork_conduct (a : Args) (s : Scene α σ) : Conduct "fork" a s (fork a s).scene := by
  refine .reading fun v _ => ?_
  obtain ⟨taken, key⟩ := v
  dsimp only
  split
  · exact redirect_conduct (by decide) a s key .fork
  · exact .passes (.refl s)

lemma switchEvent_conduct (a : Args) (s : Scene α σ) :
    Conduct "switchEvent" a s (switchEvent a s).scene :=
  .reading fun key _ => redirect_conduct (by decide) a s key .switch

/-! ### The gate -/

/-- The player has said to be ready, and the overlay shows whom it is for. -/
def arrived (s : Scene α σ) (gate : String) : Scene α σ :=
  ((s.call (.requestReady gate)).call (.waitingForPlayers (some gate))).await (.gate gate)

/-- A gate is held if the wait for it is recorded. -/
def heldAt (s : Scene α σ) (gate : String) : Bool :=
  match s.wait with
  | some (.gate name) => name == gate
  | _ => false

omit [Scalar α] in
lemma waitForOtherPlayers_eq (a : Args) (s : Scene α σ) : waitForOtherPlayers a s =
    s.reading (a.get 1 "gate") fun gate =>
      let t := if heldAt s gate then s else arrived s gate
      if Stage.gateReady α t.stage gate then
        ((t.call (.waitingForPlayers none)).advance 1).done
      else t.done := rfl

lemma waitForOtherPlayers_conduct (a : Args) (s : Scene α σ) :
    Conduct "waitForOtherPlayers" a s (waitForOtherPlayers a s).scene := by
  -- Whatever is asked of the stage, nothing but the overlay and the wait is touched.
  have hconduct : ∀ {t : Scene α σ}, t.cast = s.cast → t.paths = s.paths →
      t.settings = s.settings → t.forkVariable = s.forkVariable → (t.wait = none ∨
        t.stand = { s.stand with wait := t.wait } ∧ t.edits = s.edits ∧
          (s.Owned "waitForOtherPlayers" a → t.Owned "waitForOtherPlayers" a)) →
      Conduct "waitForOtherPlayers" a s t := by
    intro t hcast hpaths hsettings hfork hwait
    refine ⟨fun h => h.of_eq hcast hpaths, hsettings, absurd rfl, fun _ => hfork,
      fun _ howned => ?_⟩
    exact hwait.imp id fun h => ⟨h.1, h.2.1, h.2.2 howned⟩
  rw [waitForOtherPlayers_eq]
  refine .reading fun gate hread => ?_
  dsimp only
  split
  · split
    · exact hconduct rfl rfl rfl rfl (.inl rfl)
    · exact .stays s
  · split
    · exact hconduct rfl rfl rfl rfl (.inl rfl)
    · refine hconduct rfl rfl rfl rfl (.inr ⟨rfl, rfl, fun _ w hw => ?_⟩)
      rw [← Option.some.inj (show some (.gate gate) = some w from hw)]
      exact ⟨rfl, Args.get?_of_get hread⟩

/-! ### Dialogue -/

lemma onceClosed_conduct {name : String} {a : Args} {s : Scene α σ}
    {begins : Scene α σ → Reply α σ} (h : Conduct name a s (begins s).scene) :
    Conduct name a s (onceClosed s begins).scene := by
  unfold onceClosed
  split
  · unfold holdDialogue
    split
    · exact .stays s
    · exact .passes (.refl s)
  · split
    · exact .stays s
    · exact h

lemma speak_conduct (a : Args) (s : Scene α σ) : Conduct "speak" a s (speak a s).scene := by
  refine onceClosed_conduct (.reading fun v _ => ?_)
  obtain ⟨token, text⟩ := v
  refine .withActor (.refl s) fun _ actor _ _ => ?_
  split
  · exact .awaits ((Tidy.refl s).call rfl) rfl rfl fun _ => .inl rfl
  · exact .passOver (.refl s) _

lemma message_conduct (a : Args) (s : Scene α σ) : Conduct "message" a s (message a s).scene :=
  onceClosed_conduct (.reading fun _ _ =>
    .awaits ((Tidy.refl s).call rfl) rfl rfl fun _ => .inr rfl)

lemma question_conduct (a : Args) (s : Scene α σ) :
    Conduct "question" a s (question a s).scene := by
  unfold question
  split
  · dsimp only
    split
    · exact .holds (.of_eq rfl rfl rfl rfl rfl) rfl rfl rfl
    · split
      · exact ⟨fun h => h.of_eq rfl rfl, rfl, fun _ => overlay_eq rfl, absurd rfl,
          fun _ _ => .inl rfl⟩
      · exact .passes (.of_eq rfl rfl rfl rfl rfl)
  · split
    · exact .stays s
    · refine .reading fun v hread => ?_
      obtain ⟨fork, text⟩ := v
      dsimp only
      split
      · exact .passOver (.refl s) _
      · refine .awaits ((Tidy.refl s).call rfl) rfl rfl fun _ => .inl ⟨rfl, ?_⟩
        obtain ⟨_, -, hread⟩ := bind_eq_ok.mp hread
        obtain ⟨_, -, hread⟩ := bind_eq_ok.mp hread
        obtain ⟨_, htag, hread⟩ := bind_eq_ok.mp hread
        obtain ⟨rfl, -⟩ := Prod.mk.inj (Except.ok.inj hread)
        exact Args.parsed_eq_ok_iff.mp htag

lemma quickQuestion_conduct (a : Args) (s : Scene α σ) :
    Conduct "quickQuestion" a s (quickQuestion a s).scene := by
  unfold quickQuestion
  dsimp only
  split
  · have htaken : s.Tidy { s with stage := (Stage.takeAnswer α s.stage).2 } :=
      .of_eq rfl rfl rfl rfl rfl
    split
    · exact .holds htaken rfl rfl rfl
    · split
      · exact .passOver htaken _
      · split
        · exact .passes htaken
        · exact .drops (htaken.trans (.of_eq rfl rfl rfl rfl rfl)) rfl
  · split
    · exact .stays s
    · split
      · exact .passOver (.refl s) _
      · exact .awaits ((Tidy.refl s).call rfl) rfl rfl fun _ => .inr ⟨rfl, rfl⟩

lemma speakFromState_conduct (a : Args) (s : Scene α σ) :
    Conduct "speakFromState" a s (speakFromState a s).scene := by
  refine .reading fun v _ => ?_
  obtain ⟨actor, key⟩ := v
  dsimp only
  split
  · exact .leaves (by decide) (.of_eq rfl rfl rfl rfl rfl) rfl
  · exact .passOver (.refl s) _

end Cutscene.Commands
