import Cutscene.Proofs.Reading.Table
import Cutscene.Proofs.Run.Laws
import Cutscene.Proofs.Tempo.Acting
import Cutscene.Proofs.Tempo.Steering

/-!
# Rounds Are Timeless

A round does to a scene nothing, or what it does to what is left of the scene without its clock
(`Scene.round_timed`). A move is over with the round that begins it, so it does not matter how long
its actors are on their way.
-/

namespace Cutscene

variable {α : Type} [Scalar α]

namespace Commands

open Scene

/-! ### Commands -/

/-- Every command but a `move` is timeless. -/
lemma builtIn_timeless : ∀ m ∈ (builtIn : List (String × Handler α Rehearsal)),
    m.2 = move ∨ m.1 ≠ "move" ∧ ∃ g, Timeless m.2 g := by
  have h : ∀ {name : String} {handler g : Handler α Rehearsal}, Timeless handler g →
      name ≠ "move" → handler = move ∨ name ≠ "move" ∧ ∃ g, Timeless handler g :=
    fun hg hn => .inr ⟨hn, _, hg⟩
  simp only [builtIn, List.forall_mem_cons]
  exact ⟨h skippable_timeless (by decide), h pause_timeless (by decide),
    h end_timeless (by decide), h fork_timeless (by decide), h switchEvent_timeless (by decide),
    h beginSimultaneous_timeless (by decide), h endSimultaneous_timeless (by decide),
    h setSkipActions_timeless (by decide), h waitForOtherPlayers_timeless (by decide),
    h speak_timeless (by decide), h message_timeless (by decide), h question_timeless (by decide),
    h quickQuestion_timeless (by decide), h speakFromState_timeless (by decide), .inl trivial,
    h advancedMove_timeless (by decide), h stopAdvancedMoves_timeless (by decide),
    h walkInSquare_timeless (by decide), h warp_timeless (by decide),
    h faceDirection_timeless (by decide), h showFrame_timeless (by decide),
    h animate_timeless (by decide), h stopAnimation_timeless (by decide),
    h positionOffset_timeless (by decide), h jump_timeless (by decide),
    h shake_timeless (by decide), h emote_timeless (by decide), h speed_timeless (by decide),
    h halt_timeless (by decide), h addActor_timeless (by decide),
    h removeActor_timeless (by decide), h playSound_timeless (by decide),
    h playMusic_timeless (by decide), h stopMusic_timeless (by decide),
    h viewport_timeless (by decide), h globalFade_timeless (by decide),
    h globalFadeToClear_timeless (by decide), h spawnEffect_timeless (by decide),
    h screenFlash_timeless (by decide), h mail_timeless (by decide),
    h friendship_timeless (by decide), h addItem_timeless (by decide),
    h loseItems_timeless (by decide), h showItemsLost_timeless (by decide),
    h awardFestivalPrize_timeless (by decide), by simp⟩

omit [Scalar α] in
lemma finish_free {σ : Type} [Stage α σ] {s : Scene α σ} (hs : s.Free) (ending : Ending) :
    (s.finish ending).Free := by
  unfold finish
  split
  · exact hs
  · exact .inl rfl

omit [Scalar α] in
lemma Lawful.free {σ : Type} [Stage α σ] {name : String} {handler : Handler α σ}
    (h : Lawful name handler) (hname : name ≠ "move") {a : Args} {s : Scene α σ} (hs : s.Free) :
    (handler a s).scene.Free := by
  rcases h a s with hobeys | ⟨u, ending, hu, heq⟩
  · exact (hobeys.footprint.free hs).resolve_right fun hstops => hname hstops.1.named
  · rw [heq]
    exact finish_free (hu.free hs) ending

lemma handler_timed {name : String} {m : String × Handler α Rehearsal}
    (h : table.resolve? name = some m) : ∃ g, Timed m.2 g := by
  rcases builtIn_timeless m (CommandTable.mem_of_resolve? h) with hmove | ⟨hname, g, hg⟩
  · exact ⟨moveOver, hmove ▸ move_timed⟩
  · exact ⟨g, hg.timed fun a s hs => (table_isLawful name m h).free hname hs⟩

end Commands

namespace Scene

variable {s u : Scene α Rehearsal}

/-! ### Edits -/

lemma applyEdit_bare (s : Scene α Rehearsal) (edit : Edit) :
    (s.onEvent (·.applyEdit edit)).bare = s.bare.onEvent (·.applyEdit edit) := by
  rcases edit with ⟨i, new⟩ | ⟨i, new⟩ | ⟨new, _ | _⟩
  · have hpointer : s.bare.pointer = s.pointer := rfl
    simp only [Event.applyEdit, onEvent, hpointer]
    split <;> rfl
  all_goals rfl

lemma foldl_applyEdit_bare (s : Scene α Rehearsal) (edits : List Edit) :
    (s.onEvent (edits.foldl Event.applyEdit)).bare =
      s.bare.onEvent (edits.foldl Event.applyEdit) := by
  induction edits generalizing s with
  | nil => rfl
  | cons edit rest ih =>
    refine (ih (s.onEvent (·.applyEdit edit))).trans ?_
    exact congrArg (onEvent · (rest.foldl Event.applyEdit)) (applyEdit_bare s edit)

lemma applyEdits_bare (s : Scene α Rehearsal) :
    (s.onEvent Event.applyEdits).bare = s.bare.onEvent Event.applyEdits :=
  congrArg (fun v : Scene α Rehearsal =>
      ({ v with pointer := min v.pointer v.working.size } : Scene α Rehearsal))
    (foldl_applyEdit_bare { s with edits := [] } s.edits)

omit [Scalar α] in
lemma applyEdits_of_nil (hedits : s.edits = []) (hp : s.pointer ≤ s.working.size) :
    s.onEvent Event.applyEdits = s := by
  rw [onEvent, Event.applyEdits_of_nil hedits hp]

/-- Edits of the list do not wait for movers; while a move holds the script, there are none. -/
lemma applyEdits_untimed (h : s.Free ∨ s.edits = [] ∧ s.pointer ≤ s.working.size) :
    (s.onEvent Event.applyEdits).untimed = s.untimed.onEvent Event.applyEdits := by
  have hframe := s.applyEdits_frame
  by_cases hf : s.Free
  · rw [untimed_of_free hf, untimed_of_free (hf.of_eq hframe.barrier hframe.continueAfterMove),
      applyEdits_bare]
  · obtain ⟨hedits, hp⟩ := h.resolve_left hf
    have hadvanced : (s.advance 1).bare.onEvent Event.applyEdits = (s.advance 1).bare :=
      applyEdits_of_nil hedits (Nat.min_le_right _ _)
    rw [applyEdits_of_nil hedits hp, untimed_of_not_free hf, hadvanced]

lemma Tame.applyEdits (hs : s.Tame) : (s.onEvent Event.applyEdits).Tame := by
  have hframe := s.applyEdits_frame
  exact ⟨hframe.cast ▸ hs.cast, hframe.paths ▸ hs.paths⟩

/-! ### Rounds -/

lemma Twin.timed (h : s.Twin u) (hf : s.Free) {c : Scene α Rehearsal} :
    s.Tame ∧ (s.untimed = c ∨ s.untimed = u.bare) :=
  ⟨h.left, .inr ((untimed_of_free hf).trans h.alike)⟩

lemma Twin.underWay (h : s.Twin u) : s.underWay.Twin u.underWay :=
  h.map (fun _ => rfl) (fun _ => rfl) fun _ => rfl

lemma Twin.atEase (h : s.Twin u) : s.atEase.Twin u.atEase :=
  h.map (fun _ => rfl) (fun _ => rfl) fun _ => rfl

lemma atEase_untimed (s : Scene α Rehearsal) : s.atEase.untimed = s.untimed.atEase := by
  have hfree : s.atEase.Free ↔ s.Free := Iff.rfl
  by_cases hf : s.Free
  · rw [untimed_of_free hf, untimed_of_free (hfree.mpr hf)]
    rfl
  · rw [untimed_of_not_free hf, untimed_of_not_free (mt hfree.mp hf)]
    rfl

/-- What is left of a command once its edits are made. -/
lemma reply_timed {name : String} {handler g : Handler α Rehearsal}
    (hlaw : Commands.Lawful name handler) (hg : Timed handler g) (a : Args) (hs : s.Tame)
    (hc : s.Calm) (hf : s.Free) :
    ((handler a s.underWay).scene.onEvent Event.applyEdits).atEase.Tame ∧
      (((handler a s.underWay).scene.onEvent Event.applyEdits).atEase.untimed = s.bare ∨
        ((handler a s.underWay).scene.onEvent Event.applyEdits).atEase.untimed =
          ((g a s.bare.underWay).scene.bare.onEvent Event.applyEdits).atEase) := by
  have hlawful := hlaw a s.underWay
  obtain ⟨htame, hout⟩ := hg a s.underWay (Twin.of_tame hs).underWay.left hf
  generalize handler a s.underWay = reply at hlawful htame hout ⊢
  have hheld : reply.scene.Free ∨
      reply.scene.edits = [] ∧ reply.scene.pointer ≤ reply.scene.working.size := by
    rcases hlawful with hobeys | ⟨v, ending, hv, rfl⟩
    · refine (hobeys.footprint.free hf).imp_right fun ⟨_, hhelm⟩ => ?_
      have hstand : reply.scene.stand = s.stand := congrArg Helm.toStand hhelm
      have hp : reply.scene.stand.pointer ≤ reply.scene.stand.working.size := by
        rw [hstand]
        exact hc.pointer
      exact ⟨(congrArg Helm.edits hhelm).trans hc.edits, hp⟩
    · exact .inl (Commands.finish_free (hv.free hf) ending)
  have hnothing : (s.underWay.bare.onEvent Event.applyEdits).atEase = s.bare := by
    have hsame : s.underWay.bare.onEvent Event.applyEdits = s.underWay.bare :=
      applyEdits_of_nil hc.edits hc.pointer
    have hidle : ({ s.bare with dispatching := s.dispatching } : Scene α Rehearsal) = s.bare := rfl
    rw [hsame]
    rwa [hc.dispatching] at hidle
  rw [atEase_untimed, applyEdits_untimed hheld]
  refine ⟨⟨htame.applyEdits.cast, htame.applyEdits.paths⟩, ?_⟩
  rcases hout with h | h
  · exact .inl (by rw [h, hnothing])
  · exact .inr (by rw [h]; rfl)

/-- A text that is run does at any time the same, or nothing yet. -/
lemma runCommand_timed (raw : String) : ∃ f : Scene α Rehearsal → Scene α Rehearsal,
    ∀ s : Scene α Rehearsal, s.Tame → s.Calm → s.Free →
      (runCommand Commands.table s s.pointer raw).Tame ∧
        ((runCommand Commands.table s s.pointer raw).untimed = s.bare ∨
          (runCommand Commands.table s s.pointer raw).untimed = f s.bare) := by
  rcases htokens : Script.tokens? raw with _ | _ | ⟨name, args⟩
  · refine ⟨fun c => (c.underWay.passOver (.malformed (.unclosedQuote raw))).atEase.bare,
      fun s hs _ hf => ?_⟩
    rw [runCommand_unreadable htokens]
    exact (Twin.of_tame hs).underWay.passOver.atEase.timed hf
  · refine ⟨fun c => (c.underWay.advance 1).atEase.bare, fun s hs _ hf => ?_⟩
    rw [runCommand_eq, htokens]
    exact (Twin.of_tame hs).underWay.advance.atEase.timed hf
  · rcases hname : (Commands.table : CommandTable (Handler α Rehearsal)).resolve? name with
      _ | ⟨name', handler⟩
    · refine ⟨fun c =>
          ((c.underWay.report .unknownCommand (.unknownCommand name)).advance 1).atEase.bare,
        fun s hs _ hf => ?_⟩
      rw [runCommand_unknown htokens hname]
      exact (Twin.of_tame hs).underWay.report.advance.atEase.timed hf
    · obtain ⟨g, hg⟩ := Commands.handler_timed hname
      refine ⟨fun c => ((g ⟨name :: args⟩ c.underWay).scene.bare.onEvent Event.applyEdits).atEase,
        fun s hs hc hf => ?_⟩
      rw [runCommand_known htokens hname (Commands.handler_fault hname _ _)]
      exact reply_timed (Commands.table_isLawful name _ hname) hg ⟨name :: args⟩ hs hc hf

lemma settle_untimed (s : Scene α Rehearsal) (phase : Phase) (chain : Bool) :
    ({ s with phase := phase, chainRequested := chain } : Scene α Rehearsal).untimed =
      { s.untimed with phase := phase.bare } := by
  have hfree : Free ({ s with phase := phase, chainRequested := chain } : Scene α Rehearsal) ↔
    s.Free := Iff.rfl
  by_cases hf : s.Free
  · rw [untimed_of_free hf, untimed_of_free (hfree.mpr hf)]
    rfl
  · rw [untimed_of_not_free hf, untimed_of_not_free (mt hfree.mp hf)]
    rfl

lemma isTerminal_untimed (s : Scene α Rehearsal) : s.untimed.isTerminal = s.isTerminal := by
  by_cases hf : s.Free
  · rw [untimed_of_free hf]
    exact (Alike.of_bare s).isTerminal.symm
  · rw [untimed_of_not_free hf]
    exact (Alike.of_bare (s.advance 1)).isTerminal.symm

omit [Scalar α] in
lemma AtWork.phase_bare (hs : s.AtWork) : s.phase.bare = .running := by
  rcases hs.phase with h | h <;> rw [h] <;> rfl

/-- A command that was run settles the phase, unless it is over the event. -/
lemma settled_timed {t d : Scene α Rehearsal} {phase : Phase} {chain : Bool} (hs : s.AtWork)
    (hout : t.untimed = s.bare ∨ t.untimed = d) (hgoes : t.isTerminal = false)
    (hphase : phase.bare = .running) :
    ({ t with phase := phase, chainRequested := chain } : Scene α Rehearsal).untimed = s.bare ∨
      ({ t with phase := phase, chainRequested := chain } : Scene α Rehearsal).untimed =
        if d.isTerminal then d else { d with phase := .running } := by
  have hover := isTerminal_untimed t
  rw [settle_untimed, hphase]
  rcases hout with h | h
  · refine .inl ?_
    have hsame : ({ s.bare with phase := s.phase.bare } : Scene α Rehearsal) = s.bare := rfl
    rw [hs.phase_bare] at hsame
    rw [h]
    exact hsame
  · rw [h, hgoes] at hover
    rw [h, hover, if_neg Bool.false_ne_true]
    exact .inr rfl

/-- A round without the clock, if running a text does what `f` says. -/
def roundBy (f : String → Scene α Rehearsal → Scene α Rehearsal) (c : Scene α Rehearsal) :
    Scene α Rehearsal :=
  match c.working.get? c.pointer with
  | none => (c.finish .plain).bare
  | some raw =>
    if c.settings.isComment raw then (c.advance 1).bare
    else if (f raw c).isTerminal then f raw c
    else { f raw c with phase := .running }

/-- A round does at any time the same, or nothing yet. -/
lemma round_timed : ∃ f : Scene α Rehearsal → Scene α Rehearsal,
    ∀ s : Scene α Rehearsal, s.Tame → s.AtWork →
      (s.round Commands.table).1.Tame ∧
        ((s.round Commands.table).1.untimed = s.bare ∨
          (s.round Commands.table).1.untimed = f s.bare) := by
  have hrun : ∀ raw : String, ∃ f : Scene α Rehearsal → Scene α Rehearsal, _ := runCommand_timed
  choose f hf using hrun
  refine ⟨roundBy f, fun s hs hw => ?_⟩
  have hget : s.bare.working.get? s.bare.pointer = s.working.get? s.pointer := rfl
  unfold round roundBy
  dsimp only
  rw [hget]
  cases s.working.get? s.pointer with
  | none => exact (Twin.of_tame hs).finish.timed (Commands.finish_free hw.free .plain)
  | some raw =>
    have hcomment : s.bare.settings.isComment raw = s.settings.isComment raw := rfl
    dsimp only
    rw [hcomment]
    split
    · exact (Twin.of_tame hs).advance.timed hw.free
    · have hcalm := hw.unchained
      have hcases := runCommand_cases Commands.table_isLawful hcalm raw
      obtain ⟨htame, hout⟩ := hf raw { s with chainRequested := false } ⟨hs.cast, hs.paths⟩ hcalm
        hw.free
      dsimp only at hcases htame hout
      generalize runCommand Commands.table { s with chainRequested := false } s.pointer raw = t
        at hcases htame hout ⊢
      rcases hcases with ⟨hturn, hphase⟩ | ⟨v, ending, hv, rfl⟩
      · have hgoes : t.isTerminal = false := by
          have h := hw.isTerminal
          unfold Event.isTerminal at h ⊢
          rwa [hphase]
        have hskip : t.skipRequested = false := hturn.skipRequested.trans hw.skipRequested
        rw [if_neg (by simp [hgoes]), if_neg (by simp [hskip])]
        refine ⟨⟨htame.cast, htame.paths⟩, settled_timed hw hout hgoes ?_⟩
        split <;> rfl
      · have hv : v.isTerminal = false := by
          have h := hw.isTerminal
          unfold Event.isTerminal at h ⊢
          rwa [hv.phase]
        have hover := (finish_ends hv ending).isTerminal
        rw [if_pos hover]
        refine ⟨htame, .inr ?_⟩
        rw [← isTerminal_untimed] at hover
        rcases hout with h | h
        · have hgoes : s.bare.isTerminal = false := (Alike.of_bare s).isTerminal ▸ hw.isTerminal
          rw [h] at hover
          cases hgoes.symm.trans hover
        · rw [h] at hover ⊢
          exact (if_pos hover).symm

end Scene

end Cutscene
