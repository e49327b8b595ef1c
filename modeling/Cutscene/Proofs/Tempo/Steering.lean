import Cutscene.Proofs.Tempo.Basic

/-!
# The Commands That Steer and Speak Are Timeless

While a command holds the script, by a pause, a dialogue or a question, nothing changes but the
clock. What it does once it goes on is the same at any time.
-/

namespace Cutscene.Commands

open Scene

variable {α : Type} [Scalar α]

/-! ### Flow -/

lemma skippable_timeless : Timeless (skippable : Handler α Rehearsal) skippable := by
  intro a s hs
  exact .twin (.advance ((Twin.of_tame hs).map
    (f := fun v => ({ v with flags := { v.flags with skippable := true } } : Scene α Rehearsal))
    (fun _ => rfl) (fun _ => rfl) fun _ => rfl))

lemma simultaneous_twin {s : Scene α Rehearsal} (hs : s.Tame) (together : Bool) :
    Twin ({ s with flags := { s.flags with simultaneous := together } } : Scene α Rehearsal)
      { s.bare with flags := { s.bare.flags with simultaneous := together } } :=
  (Twin.of_tame hs).map
    (f := fun v =>
      ({ v with flags := { v.flags with simultaneous := together } } : Scene α Rehearsal))
    (fun _ => rfl) (fun _ => rfl) fun _ => rfl

lemma beginSimultaneous_timeless :
    Timeless (beginSimultaneous : Handler α Rehearsal) beginSimultaneous :=
  fun _ _ hs => .twin (simultaneous_twin hs true).advance

lemma endSimultaneous_timeless :
    Timeless (endSimultaneous : Handler α Rehearsal) endSimultaneous :=
  fun _ _ hs => .twin (simultaneous_twin hs false).advance

lemma setSkipActions_timeless : Timeless (setSkipActions : Handler α Rehearsal) setSkipActions := by
  intro a s hs
  refine .reading (.of_tame hs) fun text => .twin (.advance ?_)
  exact (Twin.of_tame hs).map
    (f := fun v => ({ v with skipActions := partsBetween '#' text } : Scene α Rehearsal))
    (fun _ => rfl) (fun _ => rfl) fun _ => rfl

/-- A pause that is over as soon as it is looked at again. -/
def pauseOver (a : Args) (s : Scene α Rehearsal) : Reply α Rehearsal :=
  match s.wait with
  | some (.pause _) => (s.advance 1).done
  | _ => pause a s

lemma pause_timeless : Timeless (pause : Handler α Rehearsal) pauseOver := by
  intro a s hs
  have hwait : s.bare.wait = s.wait.map Wait.bare := rfl
  rw [pause]
  split
  · rename_i remaining hw
    have hbare : s.bare.wait = some (.pause 0) := by
      rw [hwait, hw]
      rfl
    rw [pauseOver, hbare]
    dsimp only
    generalize (if Stage.menuOpen α s.stage = true then _ else _) = left
    split
    · exact ⟨⟨hs.cast, hs.paths⟩, .inr (Twin.of_tame hs).advance.alike⟩
    · refine ⟨⟨hs.cast, hs.paths⟩, .inl ?_⟩
      have hsame : ({ s.bare with wait := some (.pause 0) } : Scene α Rehearsal) = s.bare := by
        rw [← hbare]
      exact hsame
  · rename_i hw
    have hw' : ∀ left, s.bare.wait ≠ some (.pause left) := by
      intro left h'
      rw [hwait, Option.map_eq_some_iff] at h'
      obtain ⟨w, h, heq⟩ := h'
      cases w with
      | pause remaining => exact hw remaining h
      | _ => cases heq
    rw [pauseOver, pause]
    simp only
    refine .reading (.of_tame hs) fun time => ?_
    split
    · exact .twin (Twin.of_tame hs).advance
    · exact .twin (Twin.of_tame hs).await

lemma end_timeless : Timeless («end» : Handler α Rehearsal) «end» := by
  intro a s hs
  have hclosed : Stage.dialogueOpen α s.bare.stage = false := rfl
  unfold «end»
  rw [hclosed]
  split
  · exact .stays hs
  · rw [if_neg Bool.false_ne_true]
    split
    · exact .twin (Twin.of_tame hs).finish
    · exact .twin (Twin.of_tame hs).note.finish

lemma redirect_even {s : Scene α Rehearsal} (hs : s.Tame) (key : String) (swap : Swap) :
    Even s (redirect s key swap).scene (redirect s.bare key swap).scene := by
  have htext : segmentText? s.bare key = segmentText? s key := rfl
  unfold redirect
  rw [htext]
  split
  · exact .twin (Twin.of_tame hs).queue
  · exact .twin (Twin.of_tame hs).passOver

lemma fork_timeless : Timeless (fork : Handler α Rehearsal) fork := by
  intro a s hs
  refine .reading (.of_tame hs) fun v => ?_
  obtain ⟨taken, key⟩ := v
  cases taken with
  | true => exact redirect_even hs key .fork
  | false => exact .twin (Twin.of_tame hs).advance

lemma switchEvent_timeless : Timeless (switchEvent : Handler α Rehearsal) switchEvent :=
  fun _ _ hs => .reading (.of_tame hs) fun key => redirect_even hs key .switch

/-- A gate is asked for once, and it is ready at any time or never. -/
lemma gate_even {s t u : Scene α Rehearsal} (h : t.Twin u) (gate : String) :
    Even s
      (if Stage.gateReady α t.stage gate then
        ((t.call (.waitingForPlayers none)).advance 1).done else t.done).scene
      (if Stage.gateReady α u.stage gate then
        ((u.call (.waitingForPlayers none)).advance 1).done else u.done).scene := by
  have hready : Stage.gateReady α t.stage gate = Stage.gateReady α u.stage gate :=
    h.alike.same (f := fun v => Stage.gateReady α v.stage gate) fun _ => rfl
  rw [hready]
  split
  · exact .twin h.call.advance
  · exact .twin h

lemma waitForOtherPlayers_timeless :
    Timeless (waitForOtherPlayers : Handler α Rehearsal) waitForOtherPlayers := by
  intro a s hs
  refine .reading (.of_tame hs) fun gate => gate_even ?_ gate
  have hasked : ((s.call (.requestReady gate)).call (.waitingForPlayers (some gate))
      |>.await (.gate gate)).Twin ((s.bare.call (.requestReady gate)).call
        (.waitingForPlayers (some gate)) |>.await (.gate gate)) :=
    (Twin.of_tame hs).call.call.await
  split
  · rename_i name hw
    rw [(wait_bare_iff (by simp)).mpr hw]
    dsimp only
    split
    · exact .of_tame hs
    · exact hasked
  · rename_i hw
    have hw' : ∀ name, s.bare.wait ≠ some (.gate name) := fun name h' =>
      hw name ((wait_bare_iff (by simp)).mp h')
    simp only
    exact hasked

/-! ### Dialogue -/

lemma onceClosed_even {s : Scene α Rehearsal} (hs : s.Tame)
    {begins begins' : Scene α Rehearsal → Reply α Rehearsal}
    (h : Even s (begins s).scene (begins' s.bare).scene) :
    Even s (onceClosed s begins).scene (onceClosed s.bare begins').scene := by
  have hclosed : Stage.dialogueOpen α s.bare.stage = false := rfl
  rw [onceClosed]
  split
  · rename_i hw
    rw [onceClosed, (wait_bare_iff (by simp)).mpr hw]
    unfold holdDialogue
    rw [hclosed]
    split
    · exact .stays hs
    · exact .twin (Twin.of_tame hs).advance
  · rename_i hw
    have hw' : s.bare.wait ≠ some .dialogue := fun h' => hw ((wait_bare_iff (by simp)).mp h')
    rw [onceClosed]
    simp only [hclosed]
    split
    · exact .stays hs
    · exact h

lemma speak_timeless : Timeless (speak : Handler α Rehearsal) speak := by
  intro a s hs
  refine onceClosed_even hs (.reading (.of_tame hs) fun v => ?_)
  refine .withActor (.of_tame hs) fun handle c d hc hd hcd => ?_
  have hname : c.bare.name = d.bare.name := congrArg Actor.name hcd
  have hkind : c.bare.kind = d.bare.kind := congrArg Actor.kind hcd
  rw [show c.name = d.name from hname, show c.kind = d.kind from hkind]
  split
  · exact .twin (Twin.of_tame hs).call.await
  · exact .twin (Twin.of_tame hs).passOver

lemma message_timeless : Timeless (message : Handler α Rehearsal) message :=
  fun _ _ hs => onceClosed_even hs
    (.reading (.of_tame hs) fun _ => .twin (Twin.of_tame hs).call.await)

lemma question_timeless : Timeless (question : Handler α Rehearsal) question := by
  intro a s hs
  have hclosed : Stage.dialogueOpen α s.bare.stage = false := rfl
  rw [question]
  split
  · rename_i fork hw
    rw [question, (wait_bare_iff (by simp)).mpr hw]
    dsimp only
    rcases hl : Stage.takeAnswer α s.stage with ⟨answer, stage⟩
    rcases hr : Stage.takeAnswer α s.bare.stage with ⟨answer', stage'⟩
    obtain ⟨rfl, htwin⟩ := (Twin.of_tame hs).answer hl hr
    cases answer with
    | none => exact .twin htwin
    | some n =>
      dsimp only
      split
      · exact .twin (.advance (htwin.map
          (f := fun v => ({ v with forkVariable := true } : Scene α Rehearsal))
          (fun _ => rfl) (fun _ => rfl) fun _ => rfl))
      · exact .twin htwin.advance
  · rename_i hw
    have hw' : ∀ fork, s.bare.wait ≠ some (.answer fork) := fun fork h' =>
      hw fork ((wait_bare_iff (by simp)).mp h')
    rw [question]
    simp only [hclosed]
    split
    · exact .stays hs
    · refine .reading (.of_tame hs) fun v => ?_
      obtain ⟨fork, text⟩ := v
      dsimp only
      split
      · exact .twin (Twin.of_tame hs).passOver
      · exact .twin (Twin.of_tame hs).call.await

lemma quickQuestion_timeless : Timeless (quickQuestion : Handler α Rehearsal) quickQuestion := by
  intro a s hs
  have hclosed : Stage.dialogueOpen α s.bare.stage = false := rfl
  have htext : s.bare.currentCommand? = s.currentCommand? := rfl
  rw [quickQuestion, quickQuestion, htext]
  rcases splitQuickQuestion (s.currentCommand?.getD "") with ⟨prompt, branches⟩
  dsimp only
  split
  · rename_i fork hw
    rw [(wait_bare_iff (by simp)).mpr hw]
    dsimp only
    rcases hl : Stage.takeAnswer α s.stage with ⟨answer, stage⟩
    rcases hr : Stage.takeAnswer α s.bare.stage with ⟨answer', stage'⟩
    obtain ⟨rfl, htwin⟩ := (Twin.of_tame hs).answer hl hr
    cases answer with
    | none => exact .twin htwin
    | some n =>
      dsimp only
      cases branches[n]? with
      | none => exact .twin htwin.passOver
      | some branch =>
        dsimp only
        split
        · exact .twin htwin.advance
        · exact .twin htwin.advance.queue
  · rename_i hw
    have hw' : ∀ fork, s.bare.wait ≠ some (.answer fork) := fun fork h' =>
      hw fork ((wait_bare_iff (by simp)).mp h')
    simp only [hclosed]
    split
    · exact .stays hs
    · cases splitPrompt? prompt with
      | none => exact .twin (Twin.of_tame hs).passOver
      | some question => exact .twin (Twin.of_tame hs).call.await

lemma speakFromState_timeless : Timeless (speakFromState : Handler α Rehearsal) speakFromState := by
  intro a s hs
  refine .reading (.of_tame hs) fun v => ?_
  obtain ⟨actor, key⟩ := v
  have hline : Stage.stateDialogue? α s.bare.stage actor key =
      Stage.stateDialogue? α s.stage actor key := rfl
  dsimp only
  rw [hline]
  split
  · exact .twin (Twin.of_tame hs).queue
  · exact .twin (Twin.of_tame hs).passOver

end Cutscene.Commands
