import Cutscene.Proofs.Reading.Basic

/-!
# What the Commands That Steer and Speak Read

While a command holds the script it reads nothing, apart from a gate, which is read every time. An
`end` has no reader: it ends the event also where its tokens cannot be read.
-/

namespace Cutscene.Commands

open Scene

variable {α σ : Type} [Stage α σ]

/-! ### Flow -/

omit [Stage α σ] in
lemma skippable_reads : Reads (skippable : Handler α σ) .silent := .silent fun _ _ => rfl

lemma pause_reads [Scalar α] :
    Reads (pause : Handler α σ) (.unheld "pause" (.plain (·.int 1 "duration"))) := by
  intro a s
  unfold pause
  split
  · rename_i hw
    rw [Reader.unheld, if_pos ⟨_, hw, rfl⟩]
    refine .silent ?_
    dsimp only [Scene.done]
    generalize (if Stage.menuOpen α s.stage = true then _ else _) = left
    split <;> rfl
  · rename_i hw
    have hnot : ¬ Held "pause" a s.wait := by
      rintro ⟨v, hv, hof⟩
      cases v <;> simp_all [Wait.IsOf]
    rw [Reader.unheld, if_neg hnot]
    refine .reading (fun _ => none) (by simp [Reader.plain]) fun time _ => .silent ?_
    dsimp only [Scene.done]
    split <;> rfl

/-- Whatever its tokens are, an `end` reports at most one fault. -/
lemma end_notes (a : Args) (s : Scene α σ) :
    ∃ faults : List Fault,
      («end» a s).scene.reports = s.reports ++ faults.map s.noteOf := by
  have hfinish : ∀ (u : Scene α σ) ending, (u.finish ending).reports = u.reports := by
    intro u ending
    unfold finish
    split <;> rfl
  unfold «end»
  split
  · exact ⟨[], (List.append_nil _).symm⟩
  · split
    · exact ⟨[], (hfinish s _).trans (List.append_nil _).symm⟩
    · rename_i e _
      exact ⟨[.argument e], hfinish (s.note (.argument e)) _⟩

lemma redirect_notes {read : Args.Read (Option Cue)} (s : Scene α σ) (key : String) (swap : Swap) :
    Notes read s (redirect s key swap) := by
  unfold redirect
  split
  · exact .silent rfl
  · exact .one (show Fits read s (.unknownForkKey key) from trivial) rfl

/-- What a `fork` reads: a flag and a key, or a key alone. -/
def readFork (a : Args) : Args.Read String :=
  if 3 ≤ a.size then do
    let _ ← a.get 1 "requirement"
    a.get 2 "fork key"
  else a.get 1 "fork key"

lemma fork_reads : Reads (fork : Handler α σ) (.plain readFork) := by
  intro a s
  refine .reading (fun _ => none) ?_ ?_
  · unfold Reader.plain readFork
    split <;> simp
  · rintro ⟨taken, key⟩ -
    refine .unread ?_
    dsimp only
    split
    · exact redirect_notes s key .fork
    · exact .silent rfl

lemma switchEvent_reads : Reads (switchEvent : Handler α σ) (.plain (·.get 1 "event key")) :=
  .plain rfl fun _ s key => redirect_notes s key .switch

omit [Stage α σ] in
lemma beginSimultaneous_reads : Reads (beginSimultaneous : Handler α σ) .silent :=
  .silent fun _ _ => rfl

omit [Stage α σ] in
lemma endSimultaneous_reads : Reads (endSimultaneous : Handler α σ) .silent :=
  .silent fun _ _ => rfl

omit [Stage α σ] in
lemma setSkipActions_reads :
    Reads (setSkipActions : Handler α σ) (.plain (·.remainder 1 "actions")) :=
  .plain rfl fun _ _ _ => .silent rfl

lemma waitForOtherPlayers_reads :
    Reads (waitForOtherPlayers : Handler α σ) (.plain (·.get 1 "gate")) := by
  refine .plain rfl fun a s gate => .silent ?_
  have hreports : ∀ {u : Scene α σ}, u.reports = s.reports →
      (if Stage.gateReady α u.stage gate then
        ((u.call (.waitingForPlayers none)).advance 1).done
      else u.done).scene.reports = s.reports := by
    intro u hu
    split <;> exact hu
  refine hreports ?_
  split
  · split <;> rfl
  · rfl

/-! ### Dialogue -/

/-- What is read where a dialogue of the command's own or of others does not hold the script. -/
lemma onceClosed_follows {name : String} (hn : name = "speak" ∨ name = "message")
    {read : Reader α σ} {begins : Scene α σ → Reply α σ} {a : Args} {s : Scene α σ}
    (h : Follows (read a s) s (begins s)) :
    Follows (Reader.unheld name (.whenClosed read) a s) s (onceClosed s begins) := by
  unfold onceClosed
  split
  · rename_i hw
    rw [Reader.unheld, if_pos ⟨_, hw, hn⟩]
    refine .silent ?_
    unfold holdDialogue
    dsimp only [Scene.done]
    split <;> rfl
  · rename_i hw
    have hnot : ¬ Held name a s.wait := by
      rintro ⟨v, hv, hof⟩
      rcases hn with rfl | rfl <;> cases v <;> simp_all [Wait.IsOf]
    rw [Reader.unheld, if_neg hnot, Reader.whenClosed]
    split
    · exact .silent rfl
    · exact h

lemma speak_reads : Reads (speak : Handler α σ)
    (.unheld "speak" (.whenClosed (.actor (·.remainder 2 "dialogue")))) := by
  intro a s
  refine onceClosed_follows (.inl rfl) (.reading (fun v => some ⟨v.1, []⟩) ?_ ?_)
  · simp [Reader.actor]
  · rintro ⟨token, text⟩ -
    refine .actor fun _ actor => ?_
    split
    · exact .silent rfl
    · exact .one (show Fits _ s (.cannotSpeak actor.name) from trivial) rfl

lemma message_reads : Reads (message : Handler α σ)
    (.unheld "message" (.whenClosed (.plain (·.remainder 1 "message")))) := by
  intro a s
  refine onceClosed_follows (.inr rfl) (.reading (fun _ => none) ?_ fun text _ => .silent rfl)
  simp [Reader.plain]

/-- What a `question` reads: the tag, the text, and then what the tag means. -/
def readQuestion (a : Args) : Args.Read (Option Nat) := do
  let _ ← a.get 1 "fork tag"
  let _ ← a.remainder 2 "question"
  a.parsed 1 "fork tag" .forkTag forkTag?

lemma question_reads : Reads (question : Handler α σ)
    (.unheld "question" (.whenClosed (.plain readQuestion))) := by
  intro a s
  unfold question
  split
  · rename_i hw
    rw [Reader.unheld, if_pos ⟨_, hw, .inl rfl⟩]
    refine .silent ?_
    dsimp only
    split
    · rfl
    · split <;> rfl
  · rename_i hw
    have hnot : ¬ Held "question" a s.wait := by
      rintro ⟨v, hv, hof⟩
      cases v <;> simp_all [Wait.IsOf]
    rw [Reader.unheld, if_neg hnot, Reader.whenClosed]
    split
    · exact .silent rfl
    · refine .reading (fun _ => none) (by simp [Reader.plain, readQuestion]) ?_
      rintro ⟨fork, text⟩ -
      dsimp only
      split
      · exact .passOver trivial
      · exact .silent rfl

lemma quickQuestion_reads : Reads (quickQuestion : Handler α σ) .silent := by
  intro a s
  unfold quickQuestion Reader.silent
  dsimp only
  split
  · split
    · exact .silent rfl
    · split
      · exact .unread (.one (show Fits _ s (.noBranch _) from trivial) rfl)
      · refine .silent ?_
        dsimp only [Scene.done]
        split <;> rfl
  · split
    · exact .silent rfl
    · split
      · exact .passOver trivial
      · exact .silent rfl

lemma speakFromState_reads : Reads (speakFromState : Handler α σ) (.plain fun a => do
    let _ ← a.get 1 "actor"
    a.get 2 "state key") := by
  intro a s
  refine .reading (fun _ => none) (by simp [Reader.plain]) ?_
  rintro ⟨actor, key⟩ -
  refine .unread ?_
  dsimp only
  split
  · exact .silent rfl
  · exact .one (show Fits _ s (.noStateDialogue actor key) from trivial) rfl

end Cutscene.Commands
