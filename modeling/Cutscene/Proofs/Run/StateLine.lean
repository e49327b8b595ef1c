import Cutscene.Proofs.Footprint.Spelled
import Cutscene.Proofs.Run.Fork
import Cutscene.Proofs.Run.Next
import Cutscene.Proofs.Script.WriteBack

/-!
# Lines That Are Looked Up

A `speakFromState` looks a line up and leaves in its own place the command to speak it, for the next
round to find. The line is quoted and comes through as it is. The actor is written back without
quotes, so it is the same actor's line only if the token is a word.
-/

namespace Cutscene

variable {α σ : Type} [Scalar α] [Stage α σ]

namespace Scene

variable {s t d : Scene α σ} {raw actor text : String}

/-! ### The command that looks a line up -/

/-- A `speakFromState` is under the pointer, and the stage has a line for its actor and key. -/
structure Recalls (s : Scene α σ) (actor text : String) : Prop where
  spoken : ∃ raw, s.At raw
  named : s.command.1 = "speakFromState"
  token : s.command.2.get? 1 = some actor
  line : ∃ key, s.command.2.get? 2 = some key ∧
    Stage.stateDialogue? α s.stage actor key = some text

lemma At.recalls {key : String} (hat : s.At raw)
    (htokens : Script.tokens? raw = some ["speakFromState", actor, key])
    (hline : Stage.stateDialogue? α s.stage actor key = some text) : s.Recalls actor text := by
  have hcommand := hat.command_eq.trans (Commands.commandOf_of_spelled htokens rfl)
  exact ⟨⟨raw, hat⟩, by rw [hcommand], by rw [hcommand]; rfl, key, by rw [hcommand]; rfl, hline⟩

/-- The scene with another text in the place of the command under the pointer. -/
def rewritten (s : Scene α σ) (command : String) : Scene α σ :=
  { s with
    working := s.working.apply (.replaceAt s.pointer command)
    phase := .running
    chainRequested := false }

omit [Scalar α] in
lemma speakFromState_of_line {a : Args} {key : String} (htoken : a.get? 1 = some actor)
    (hkey : a.get? 2 = some key) (hline : Stage.stateDialogue? α s.stage actor key = some text) :
    Commands.speakFromState a s =
      (s.onEvent (·.replaceCurrent (Commands.speakCommand actor text))).done := by
  have hfirst : a.get 1 "actor" = .ok actor := by rw [Args.get, htoken]
  have hsecond : a.get 2 "state key" = .ok key := by rw [Args.get, hkey]
  unfold Commands.speakFromState
  rw [hfirst, hsecond]
  dsimp only [reading, bind, Except.bind, pure, Except.pure]
  rw [hline]

omit [Scalar α] [Stage α σ] in
lemma replaceCurrent_applied (hs : s.Calm) (command : String) :
    ((s.underWay.onEvent (·.replaceCurrent command)).onEvent Event.applyEdits).atEase =
      { s with working := s.working.apply (.replaceAt s.pointer command) } := by
  have hsize : s.pointer ≤ (s.working.apply (.replaceAt s.pointer command)).size := by
    refine hs.pointer.trans ?_
    simp only [Working.size, Working.apply_commands, Working.edited]
    split <;> simp
  have hidle : s = { s with dispatching := none, edits := [] } := by
    rw [← hs.dispatching, ← hs.edits]
  rw [hidle]
  simp [onEvent, underWay, atEase, Event.applyEdits, Event.replaceCurrent, Event.queue,
    Event.current, Event.applyEdit, Nat.min_eq_left hsize]

/-- The round of such a command does nothing but leave the command to speak in its place. -/
theorem round_recalls (hw : s.AtWork) (h : s.Recalls actor text) :
    (s.round Commands.table).1 = s.rewritten (Commands.speakCommand actor text) := by
  obtain ⟨raw, hat⟩ := h.spoken
  obtain ⟨key, hkey, hline⟩ := h.line
  have hrun := hat.runs Commands.speakFromState (by simp [Commands.builtIn]) h.named
  have hfound := speakFromState_of_line
    (s := ({ s with chainRequested := false } : Scene α σ).underWay) h.token hkey hline
  rw [hfound, done, replaceCurrent_applied hw.unchained] at hrun
  exact round_of_moved hw hat hrun rfl rfl fun h =>
    Nat.succ_ne_self s.working.version (Prod.mk.inj h).2

/-! ### The command to speak it -/

/-- What comes of a line that is to be spoken. While a dialogue is open it waits. Then it is shown
under the name of whoever answers to the token and can speak, and in any other case passed over. -/
structure Spoken (actor text : String) (d t : Scene α σ) : Prop where
  waits : Stage.dialogueOpen α d.stage = true → t.stand = d.stand ∧ t.calls = d.calls
  speaks : Stage.dialogueOpen α d.stage = false → ∀ h x,
    d.cast.resolve? (ActorRef.parse actor) = some h → d.cast.get? h = some x →
    x.kind.canSpeak = true → t.calls = d.calls ++ [.pushDialogue (some x.name) text] ∧
      t.stand = { d.stand with wait := some .dialogue }
  passes : Stage.dialogueOpen α d.stage = false →
    (∀ h x, d.cast.resolve? (ActorRef.parse actor) = some h → d.cast.get? h = some x →
      x.kind.canSpeak = false) → t.calls = d.calls ∧ t.stand = d.stand.advance 1

omit [Scalar α] in
lemma speak_of_tokens {a : Args} (htokens : a.tokens = ["speak", actor, text])
    (hidle : d.wait = none) : Commands.speak a d =
      if Stage.dialogueOpen α d.stage then d.done
      else d.withActor actor fun _ x =>
        if x.kind.canSpeak then ((d.call (.pushDialogue (some x.name) text)).await .dialogue).done
        else (d.passOver (.cannotSpeak x.name)).done := by
  have hactor : a.get 1 "actor" = .ok actor := by simp [Args.get, Args.get?, htokens]
  have htext : a.remainder 2 "dialogue" = .ok text := by
    have hspaced : Text.spaced [text] = text := by simp [Text.spaced]
    simp [Args.remainder, Args.get, Args.get?, Args.rest, htokens, hspaced, bind, Except.bind,
      pure, Except.pure]
  unfold Commands.speak Commands.onceClosed
  rw [hidle, hactor, htext]
  dsimp only [reading, bind, Except.bind, pure, Except.pure]

/-- The command queues no edits, and the pointer stays in the list. -/
structure Unedited (d t : Scene α σ) : Prop where
  edits : t.edits = d.edits
  pointer : d.pointer ≤ d.working.size → t.pointer ≤ t.working.size

omit [Scalar α] in
lemma speak_spoken {a : Args} (htokens : a.tokens = ["speak", actor, text])
    (hidle : d.wait = none) :
    Spoken actor text d (Commands.speak a d).scene ∧ d.Unedited (Commands.speak a d).scene := by
  have hstays : ∀ {t : Scene α σ}, t.edits = d.edits → t.working = d.working →
      t.pointer = d.pointer → d.Unedited t := fun hedits hworking hpointer =>
    ⟨hedits, fun h => by rwa [hpointer, hworking]⟩
  have hpasses : ∀ {t : Scene α σ}, t.edits = d.edits → t.working = d.working →
      t.pointer = min (d.pointer + 1) d.working.size → d.Unedited t :=
    fun hedits hworking hpointer =>
      ⟨hedits, fun _ => by rw [hpointer, hworking]; exact Nat.min_le_right _ _⟩
  rw [speak_of_tokens htokens hidle]
  cases hopen : Stage.dialogueOpen α d.stage with
  | true => exact ⟨⟨fun _ => ⟨rfl, rfl⟩, by simp [hopen], by simp [hopen]⟩, hstays rfl rfl rfl⟩
  | false =>
    have hnot : ¬ Stage.dialogueOpen α d.stage = true := by simp [hopen]
    rw [if_neg Bool.false_ne_true]
    unfold withActor
    dsimp only
    cases hresolve : d.cast.resolve? (ActorRef.parse actor) with
    | none =>
      have hpassed : ∀ {t : Scene α σ}, t.calls = d.calls → t.stand = d.stand.advance 1 →
          Spoken actor text d t := fun hcalls hstand =>
        ⟨fun h => absurd h hnot, by simp [hresolve], fun _ _ => ⟨hcalls, hstand⟩⟩
      dsimp only
      split
      · exact ⟨hpassed rfl rfl, hpasses rfl rfl rfl⟩
      · exact ⟨hpassed rfl rfl, hpasses rfl rfl rfl⟩
    | some h =>
      obtain ⟨x, hx⟩ := Option.isSome_iff_exists.mp (Cast.get?_isSome_of_resolve? hresolve)
      have hwho : ∀ h' x', d.cast.resolve? (ActorRef.parse actor) = some h' →
          d.cast.get? h' = some x' → x = x' := by
        intro h' x' hresolve' hx'
        obtain rfl := Option.some.inj (hresolve.symm.trans hresolve')
        exact Option.some.inj (hx.symm.trans hx')
      dsimp only
      rw [hx]
      dsimp only
      cases hspeaks : x.kind.canSpeak with
      | true =>
        refine ⟨⟨fun h => absurd h hnot, fun _ h' x' hresolve' hx' _ => ?_, fun _ hmute => ?_⟩,
          hstays rfl rfl rfl⟩
        · rw [← hwho h' x' hresolve' hx']
          exact ⟨rfl, rfl⟩
        · exact absurd hspeaks (by simp [hmute h x hresolve hx])
      | false =>
        refine ⟨⟨fun h => absurd h hnot, fun _ h' x' hresolve' hx' hspeaks' => ?_,
          fun _ _ => ⟨rfl, rfl⟩⟩, hpasses rfl rfl rfl⟩
        rw [← hwho h' x' hresolve' hx', hspeaks] at hspeaks'
        cases hspeaks'

/-- The round of such a command speaks the line, unless it waits. -/
theorem round_speaks (hw : d.AtWork) (hat : d.At raw)
    (htokens : Script.tokens? raw = some ["speak", actor, text]) (hidle : d.wait = none) :
    Spoken actor text d (d.round Commands.table).1 := by
  have hcommand := hat.command_eq.trans (Commands.commandOf_of_spelled htokens rfl)
  have hcalm := hw.unchained
  obtain ⟨phase, chain, heq⟩ := round_at hw hat
  have hrun := hat.runs Commands.speak (by simp [Commands.builtIn]) (congrArg Prod.fst hcommand)
  rw [hcommand] at hrun
  obtain ⟨hspoken, hunedited⟩ := speak_spoken (a := ⟨["speak", actor, text]⟩)
    (d := ({ d with chainRequested := false } : Scene α σ).underWay) rfl hidle
  have happlied := Event.applyEdits_of_nil (hunedited.edits.trans hcalm.edits)
    (hunedited.pointer hcalm.pointer)
  rw [heq, hrun, onEvent, happlied]
  exact ⟨hspoken.waits, hspoken.speaks, hspoken.passes⟩

/-! ### From the one to the other -/

omit [Scalar α] [Stage α σ] in
lemma get?_rewritten (hin : s.pointer < s.working.size) (command : String) :
    (s.rewritten command).working.get? s.pointer = some command := by
  have hlt : s.pointer < s.working.commands.length := hin
  simp [rewritten, Working.get?, Working.edited, hlt]

omit [Scalar α] [Stage α σ] in
/-- Wherever the script is left at such a command, it is found there. -/
lemma rewritten_at (hin : s.pointer < s.working.size) {command : String}
    (hstand : d.stand = (s.rewritten command).stand)
    (hcomment : d.settings.isComment command = false) : d.At command := by
  have hworking : d.working = (s.rewritten command).working := congrArg Stand.working hstand
  have hpointer : d.pointer = s.pointer := congrArg Stand.pointer hstand
  refine ⟨?_, hcomment⟩
  rw [hworking, hpointer, get?_rewritten hin]

end Scene

open Scene Commands Script

/-- **A line that is looked up is spoken.** Whatever line the stage has for the actor token and the
key of a `speakFromState`, its round does nothing but leave a command to speak the line in its own
place. This command has the token and the line for its tokens exactly if the token is a word. Then
the rounds that come next wait until no dialogue is open, and the first of them that finds none
looks for whom the token means and, if that actor can speak, shows just the line. -/
theorem state_line_is_spoken (p : Premiere α σ) (moves : List (HostMove α σ)) :
    ∀ earlier s later actor text, p.scene.rounds table moves = earlier ++ s :: later →
      s.Recalls actor text →
      (s.round table).1 = s.rewritten (speakCommand actor text) ∧
      (s.round table).1.working.get? s.pointer = some (speakCommand actor text) ∧
      (tokens? (speakCommand actor text) = some ["speak", actor, text] ↔ IsWord actor) ∧
      (IsWord actor → p.settings.isComment (speakCommand actor text) = false →
        ∀ held d rest, later = held ++ d :: rest →
          (∀ e ∈ held, Stage.dialogueOpen α e.stage = true) →
          d.At (speakCommand actor text) ∧ d.command = ("speak", ⟨["speak", actor, text]⟩) ∧
            Spoken actor text d (d.round table).1) := by
  intro earlier s later actor text hrounds hrecalls
  have hscenes := attended_habit.kept.rounds ⟨p.atRest, p.attended⟩ moves
  have hsettings := (settings_habit p.settings).kept.rounds ⟨p.atRest, rfl⟩ moves
  rw [hrounds] at hscenes hsettings
  obtain ⟨hw, hattended⟩ := hscenes s (by simp)
  have hround := round_recalls hw hrecalls
  have hin : s.pointer < s.working.size := by
    obtain ⟨raw, hat⟩ := hrecalls.spoken
    exact (List.getElem?_eq_some_iff.mp hat.1).1
  refine ⟨hround, by rw [hround, get?_rewritten hin], tokens?_speakCommand_iff, ?_⟩
  rintro hword hcomment held d rest rfl hheld
  have htokens := tokens?_speakCommand hword text
  have hidle : s.wait = none := by
    refine hattended.owned.wait_eq_none ?_
    rw [hrecalls.named]
    decide
  -- Wherever the script is as this round has left it, the line is to be spoken.
  have hspeaks : ∀ e ∈ held ++ [d], e.AtWork → e.stand = (s.round table).1.stand →
      e.At (speakCommand actor text) ∧ e.command = ("speak", ⟨["speak", actor, text]⟩) ∧
        Spoken actor text e (e.round table).1 := by
    intro e he hwork hstand
    rw [hround] at hstand
    have hat : e.At (speakCommand actor text) := by
      refine rewritten_at hin hstand ?_
      rw [(hsettings e (by simp at he ⊢; tauto)).2, hcomment]
    have hwait : e.wait = none := (congrArg Stand.wait hstand).trans hidle
    have hcommand := hat.command_eq.trans (commandOf_of_spelled htokens rfl)
    exact ⟨hat, hcommand, round_speaks hwork hat htokens hwait⟩
  have hpassage := play_passage p.atRest moves
  rw [hrounds] at hpassage
  have hstand : d.stand = (s.round table).1.stand := by
    refine hpassage.next_of_held (by simp [hrecalls.named]) fun e he hwork hstand => ?_
    obtain ⟨-, hcommand, hspoken⟩ := hspeaks e (List.mem_append_left _ he) hwork hstand
    exact ⟨by simp [hcommand], (hspoken.waits (hheld e he)).1⟩
  exact hspeaks d (by simp) (hscenes d (by simp)).1 hstand

/-- Abigail has a word to say about the rain. -/
def rainTalk : Premiere Float32 Rehearsal :=
  { rehearsed ["speakFromState Abigail rain", "pause 1000"] with
    stage := { stateDialogue := [(("Abigail", "rain"), "\"Wet,\" she says: \\o/")] } }

/-- She says it in the next tick. -/
theorem rain_talk_is_spoken : ∃ s d, rainTalk.scene.rounds table [.tick, .tick] = [s, d] ∧
    s.Recalls "Abigail" "\"Wet,\" she says: \\o/" ∧
    d.command = ("speak", ⟨["speak", "Abigail", "\"Wet,\" she says: \\o/"]⟩) ∧
    (d.round table).1.calls =
      d.calls ++ [.pushDialogue (some "Abigail") "\"Wet,\" she says: \\o/"] := by
  obtain ⟨l, hl⟩ : ∃ l, l = rainTalk.scene.rounds table [.tick, .tick] := ⟨_, rfl⟩
  have hlength : l.length = 2 := by
    rw [hl, table_eq_spelled]
    decide +kernel
  have hfirst : l.head?.any (fun e =>
      decide (e.working.get? e.pointer = some "speakFromState Abigail rain") &&
      !e.settings.isComment "speakFromState Abigail rain" &&
      decide (Stage.stateDialogue? Float32 e.stage "Abigail" "rain" =
        some "\"Wet,\" she says: \\o/")) = true := by
    rw [hl, table_eq_spelled]
    decide +kernel
  have hlast : l.getLast?.any (fun e => !Stage.dialogueOpen Float32 e.stage &&
      ((e.cast.resolve? (ActorRef.parse "Abigail")).any fun h => (e.cast.get? h).any fun x =>
        x.name == "Abigail" && x.kind.canSpeak)) = true := by
    rw [hl, table_eq_spelled]
    decide +kernel
  obtain ⟨s, d, rfl⟩ := List.length_eq_two.mp hlength
  simp only [List.head?_cons, Option.any_some, Bool.and_eq_true, decide_eq_true_eq,
    Bool.not_eq_true'] at hfirst
  obtain ⟨⟨hget, hcomment⟩, hline⟩ := hfirst
  simp only [List.getLast?_cons_cons, List.getLast?_singleton, Option.any_some, Bool.and_eq_true,
    Bool.not_eq_true', Option.any_eq_true, beq_iff_eq] at hlast
  obtain ⟨hclosed, h, hresolve, x, hx, hname, hspeaks⟩ := hlast
  have hrecalls : s.Recalls "Abigail" "\"Wet,\" she says: \\o/" :=
    At.recalls ⟨hget, hcomment⟩ (by decide +kernel) hline
  obtain ⟨-, -, -, hlater⟩ := state_line_is_spoken rainTalk [.tick, .tick] [] s [d] _ _ hl.symm
    hrecalls
  obtain ⟨-, hcommand, hspoken⟩ := hlater (by decide) (by decide +kernel) [] d [] rfl (by simp)
  have hshown := (hspoken.speaks hclosed h x hresolve hx hspeaks).1
  rw [hname] at hshown
  exact ⟨s, d, hl.symm, hrecalls, hcommand, hshown⟩

/-- An actor whose name has a space has something to say as well. -/
def oldSam : Premiere Float32 Rehearsal :=
  { rehearsed ["speakFromState \"Old Sam\" rain", "pause 1000"] with
    stage := { stateDialogue := [(("Old Sam", "rain"), "Hi")] } }

/-- It is not the case that the command in place of a `speakFromState` has the actor token for its
first argument and the line for its second. -/
theorem spaced_speaker_is_torn :
    ¬ ∀ (p : Premiere Float32 Rehearsal) (moves : List (HostMove Float32 Rehearsal)),
      ∀ s ∈ p.scene.rounds table moves, ∀ actor text, s.Recalls actor text →
        ∃ raw, (s.round table).1.working.get? s.pointer = some raw ∧
          tokens? raw = some ["speak", actor, text] := by
  intro hclaim
  obtain ⟨l, hl⟩ : ∃ l, l = oldSam.scene.rounds table [.tick] := ⟨_, rfl⟩
  have hrun : l.any (fun e =>
      decide (e.working.get? e.pointer = some "speakFromState \"Old Sam\" rain") &&
      !e.settings.isComment "speakFromState \"Old Sam\" rain" &&
      decide (Stage.stateDialogue? Float32 e.stage "Old Sam" "rain" = some "Hi") &&
      decide ((e.round table).1.working.get? e.pointer = some "speak Old Sam \"Hi\"")) = true := by
    rw [hl, table_eq_spelled]
    decide +kernel
  obtain ⟨s, hs, hall⟩ := List.any_eq_true.mp hrun
  simp only [Bool.and_eq_true, decide_eq_true_eq, Bool.not_eq_true'] at hall
  obtain ⟨⟨⟨hget, hcomment⟩, hline⟩, hleft⟩ := hall
  have hrecalls : s.Recalls "Old Sam" "Hi" := At.recalls ⟨hget, hcomment⟩ (by decide +kernel) hline
  obtain ⟨raw, hraw, htokens⟩ := hclaim oldSam [.tick] s (hl ▸ hs) "Old Sam" "Hi" hrecalls
  obtain rfl := Option.some.inj (hleft.symm.trans hraw)
  revert htokens
  decide +kernel

end Cutscene
