import Cutscene.Proofs.Conduct.Acting
import Cutscene.Proofs.Conduct.Steering
import Cutscene.Proofs.Reading.Table
import Cutscene.Proofs.Run.Laws
import Cutscene.Proofs.Tempo.Clock

/-!
# Scenes That Are in Order

Every command of the table shows its conduct, and so does the round that runs it. What a tick does
ahead of its commands is tidy, and the clock moves nobody's name or kind. So in every scene of a
run the cast and the paths are in order, and a recorded wait belongs to the command under the
pointer (`Scene.Attended`).
-/

namespace Cutscene

variable {α σ : Type} [Scalar α] [Stage α σ]

namespace Commands

open Scene

theorem builtIn_conduct :
    ∀ m ∈ (builtIn : List (String × Handler α σ)), ∀ a s, Conduct m.1 a s (m.2 a s).scene := by
  simp only [builtIn, List.forall_mem_cons]
  exact ⟨skippable_conduct, pause_conduct, end_conduct, fork_conduct, switchEvent_conduct,
    beginSimultaneous_conduct, endSimultaneous_conduct, setSkipActions_conduct,
    waitForOtherPlayers_conduct, speak_conduct, message_conduct, question_conduct,
    quickQuestion_conduct, speakFromState_conduct, move_conduct, advancedMove_conduct,
    stopAdvancedMoves_conduct, walkInSquare_conduct, warp_conduct, faceDirection_conduct,
    showFrame_conduct, animate_conduct, stopAnimation_conduct, positionOffset_conduct,
    jump_conduct, shake_conduct, emote_conduct, speed_conduct, halt_conduct, addActor_conduct,
    removeActor_conduct, playSound_conduct, playMusic_conduct, stopMusic_conduct,
    viewport_conduct, globalFade_conduct, globalFadeToClear_conduct, spawnEffect_conduct,
    screenFlash_conduct, mail_conduct, friendship_conduct, addItem_conduct, loseItems_conduct,
    showItemsLost_conduct, awardFestivalPrize_conduct, by simp⟩

/-- Whatever command this table gives out shows its conduct and does not give up. -/
def IsConducted (table : CommandTable (Handler α σ)) : Prop :=
  ∀ name m, table.resolve? name = some m →
    ∀ a s, (m.2 a s).fault = none ∧ Conduct m.1 a s (m.2 a s).scene

lemma table_isConducted : IsConducted (table : CommandTable (Handler α σ)) :=
  fun _ m h a s => ⟨handler_fault h a s, builtIn_conduct m (CommandTable.mem_of_resolve? h) a s⟩

end Commands

/-! ### A command that is run -/

namespace Event

/-- The settings and the fork variable are the same, and no wait is set. -/
structure Eases (e d : Event α) : Prop where
  settings : d.settings = e.settings
  forkVariable : d.forkVariable = e.forkVariable
  wait : e.wait = none → d.wait = none

omit [Scalar α] in
lemma applyEdit_eases (e : Event α) (edit : Edit) : e.Eases (e.applyEdit edit) := by
  rcases edit with ⟨i, new⟩ | ⟨i, new⟩ | ⟨new, swap⟩
  · unfold applyEdit
    dsimp only
    split <;> exact ⟨rfl, rfl, fun hw => hw⟩
  · exact ⟨rfl, rfl, fun hw => hw⟩
  · exact ⟨rfl, rfl, fun _ => rfl⟩

omit [Scalar α] in
lemma applyEdits_eases (e : Event α) : e.Eases e.applyEdits := by
  have h := List.foldlRecOn (motive := e.Eases) e.edits applyEdit (b := { e with edits := [] })
    ⟨rfl, rfl, fun hw => hw⟩ fun d hd edit _ =>
      have hstep := d.applyEdit_eases edit
      ⟨hstep.settings.trans hd.settings, hstep.forkVariable.trans hd.forkVariable,
        fun hw => hstep.wait (hd.wait hw)⟩
  exact ⟨h.settings, h.forkVariable, h.wait⟩

end Event

namespace Scene

variable {s t u r : Scene α σ} {name : String} {a : Args}

omit [Stage α σ] in
/-- A command that leaves a wait makes no edits. -/
lemma Conduct.applyEdits_or (hs : s.Calm) (h : Conduct name a s.underWay r) (hk : s.Kempt)
    (howned : s.Owned name a) : r.wait = none ∨
      r.stand = { s.stand with wait := r.wait } ∧ r.edits = s.edits ∧ r.Owned name a ∧
        r.onEvent Event.applyEdits = r := by
  rcases h.wait ⟨hk.cast, hk.paths⟩ howned with hnone | ⟨hstand, hedits, hown⟩
  · exact .inl hnone
  · have hnil : r.edits = [] := hedits.trans hs.edits
    have hw : r.working = s.working := congrArg Stand.working hstand
    have hp : r.pointer = s.pointer := congrArg Stand.pointer hstand
    refine .inr ⟨hstand, hedits, hown, ?_⟩
    rw [onEvent, Event.applyEdits_of_nil hnil (by rw [hp, hw]; exact hs.pointer)]

omit [Stage α σ] in
lemma Conduct.applyEdits (hs : s.Calm) (h : Conduct name a s.underWay r) :
    Conduct name a s (r.onEvent Event.applyEdits).atEase where
  kempt := fun hk => (h.kempt ⟨hk.cast, hk.paths⟩).of_eq r.applyEdits_frame.cast
    r.applyEdits_frame.paths
  settings := r.applyEdits_eases.settings.trans h.settings
  overlay := h.overlay
  forkVariable := fun hn => r.applyEdits_eases.forkVariable.trans (h.forkVariable hn)
  wait := by
    intro hk howned
    rcases h.applyEdits_or hs hk howned with hnone | ⟨hstand, hedits, hown, hsame⟩
    · exact .inl (r.applyEdits_eases.wait hnone)
    · rw [hsame]
      exact .inr ⟨hstand, hedits, hown⟩

lemma runCommand_conduct {table : CommandTable (Handler α σ)} (ht : Commands.IsConducted table)
    (hs : s.Calm) (raw : String) : Conduct (table.commandOf raw).1 (table.commandOf raw).2 s
      (runCommand table s s.pointer raw) := by
  have hpass : ∀ {name : String} {a : Args} {t : Scene α σ}, t.cast = s.cast →
      t.paths = s.paths → t.settings = s.settings → t.calls = s.calls →
      t.forkVariable = s.forkVariable → t.wait = none → Conduct name a s t :=
    fun hcast hpaths hsettings hcalls hfork =>
      .drops (.of_eq hcast hpaths hsettings hcalls hfork)
  rw [runCommand_eq]
  unfold CommandTable.commandOf
  rcases Script.tokens? raw with _ | _ | ⟨name, args⟩
  · exact hpass rfl rfl rfl rfl rfl rfl
  · exact hpass rfl rfl rfl rfl rfl rfl
  · dsimp only
    rcases hr : table.resolve? name with _ | ⟨name', handler⟩
    · exact hpass rfl rfl rfl rfl rfl rfl
    · obtain ⟨hfault, hconduct⟩ := ht _ _ hr ⟨name :: args⟩ s.underWay
      dsimp only at hfault hconduct ⊢
      rw [hfault]
      exact hconduct.applyEdits hs

/-- The text under the pointer, which is no comment. -/
def At (s : Scene α σ) (raw : String) : Prop :=
  s.working.get? s.pointer = some raw ∧ s.settings.isComment raw = false

omit [Scalar α] [Stage α σ] in
lemma At.of_stand {raw : String} (h : s.At raw) {w : Option (Wait α)}
    (hstand : t.stand = { s.stand with wait := w }) (hsettings : t.settings = s.settings) :
    t.At raw := by
  unfold At
  rw [show t.working = s.working from congrArg Stand.working hstand,
    show t.pointer = s.pointer from congrArg Stand.pointer hstand, hsettings]
  exact h

lemma At.command_eq {raw : String} (h : s.At raw) :
    s.command = (Commands.table : CommandTable (Handler α σ)).commandOf raw := by
  rw [command, h.1]

/-- The text under the pointer is run by the handler that has its name. -/
lemma At.runs {raw name : String} (h : s.At raw) (handler : Handler α σ)
    (hmem : (name, handler) ∈ Commands.builtIn) (hname : s.command.1 = name) :
    runCommand Commands.table { s with chainRequested := false } s.pointer raw =
      ((handler s.command.2 { s with chainRequested := false }.underWay).scene.onEvent
        Event.applyEdits).atEase := by
  rw [h.command_eq] at hname ⊢
  exact runCommand_of_name (s := { s with chainRequested := false })
    (fun _ _ => Commands.handler_of_resolve? hmem) (Commands.builtIn_lawful _ hmem).fault
    (Commands.name_ne_empty hmem) hname

/-- A round passes over a comment, finishes an event that is out of commands, and runs a text. -/
lemma round_or_at (s : Scene α σ) : (∃ raw, s.At raw) ∨
    (s.round Commands.table).1 = s.finish .plain ∨ (s.round Commands.table).1 = s.advance 1 := by
  unfold round
  dsimp only
  split
  · exact .inr (.inl rfl)
  · rename_i raw hget
    split
    · exact .inr (.inr rfl)
    · rename_i hcomment
      exact .inl ⟨raw, hget, by simpa using hcomment⟩

/-- A round runs the text under the pointer and notes whether the script went on, or the text is
over the event. -/
theorem round_runs (hs : s.AtWork) {raw : String} (h : s.At raw) {t : Scene α σ}
    (ht : runCommand Commands.table { s with chainRequested := false } s.pointer raw = t) :
    (t.isTerminal = false ∧ (s.round Commands.table).1 =
      { t with
        phase := if (t.pointer, t.working.version) ≠ (s.pointer, s.working.version) then .running
          else .suspended
        chainRequested := t.flags.simultaneous && t.chainRequested }) ∨
      (s.round Commands.table).1 = t ∧
        ∃ (u : Scene α σ) (ending : Ending), u.isTerminal = false ∧ t = u.finish ending := by
  have hcalm := hs.unchained
  have hcases := runCommand_cases Commands.table_isLawful hcalm raw
  have hgoes := hs.isTerminal
  unfold round
  rw [h.1]
  dsimp only at hcases ⊢
  rw [h.2, if_neg Bool.false_ne_true, ht]
  rw [ht] at hcases
  rcases hcases with ⟨hturn, hphase⟩ | ⟨u, ending, hu, rfl⟩
  · have hterm : t.isTerminal = false := by
      unfold Event.isTerminal at hgoes ⊢
      rw [hphase, hgoes]
    have hskip : ¬ t.skipRequested = true := by
      rw [hturn.skipRequested.trans hs.skipRequested]
      exact Bool.false_ne_true
    rw [if_neg (by simp [hterm]), if_neg hskip]
    exact .inl ⟨hterm, rfl⟩
  · have hterm : u.isTerminal = false := by
      unfold Event.isTerminal at hgoes ⊢
      rwa [hu.phase]
    rw [if_pos (finish_ends hterm ending).isTerminal]
    exact .inr ⟨rfl, u, ending, hterm, rfl⟩

/-- A round leaves what running the text leaves, apart from the phase and the chain. -/
lemma round_at (hs : s.AtWork) {raw : String} (h : s.At raw) : ∃ phase chain,
    (s.round Commands.table).1 =
      { runCommand Commands.table { s with chainRequested := false } s.pointer raw with
        phase := phase, chainRequested := chain } := by
  rcases round_runs hs h rfl with ⟨-, heq⟩ | ⟨heq, -⟩
  · exact ⟨_, _, heq⟩
  · exact ⟨_, _, heq⟩

omit [Stage α σ] in
lemma Conduct.settle (h : Conduct name a { s with chainRequested := false } t) (phase : Phase)
    (chain : Bool) : Conduct name a s { t with phase := phase, chainRequested := chain } where
  kempt := fun hk => (h.kempt ⟨hk.cast, hk.paths⟩).of_eq rfl rfl
  settings := h.settings
  overlay := h.overlay
  forkVariable := h.forkVariable
  wait := fun hk => h.wait ⟨hk.cast, hk.paths⟩

/-- A round is the conduct of the command under the pointer. -/
theorem round_conduct (hs : s.AtWork) :
    Conduct s.command.1 s.command.2 s (s.round Commands.table).1 := by
  rcases round_or_at s with ⟨raw, hat⟩ | hend | hcomment
  · have hcalm := hs.unchained
    have hrun := runCommand_conduct Commands.table_isConducted hcalm raw
    obtain ⟨phase, chain, heq⟩ := round_at hs hat
    rw [heq, hat.command_eq]
    exact hrun.settle phase chain
  · rw [hend]
    exact .drops (.finish (.refl s) .plain) (finish_wait hs.isTerminal .plain)
  · rw [hcomment]
    exact .passes (.refl s)

/-- A wait outlasts only the round of its command. -/
lemma round_wait (hs : s.AtWork) : (s.round Commands.table).1.wait = none ∨ ∃ raw, s.At raw := by
  rcases round_or_at s with hat | hend | hcomment
  · exact .inr hat
  · rw [hend]
    exact .inl (finish_wait hs.isTerminal .plain)
  · rw [hcomment]
    exact .inl rfl

/-! ### Ahead of the commands -/

lemma Tidy.openMusic (h : s.Tidy t) (header : Option String) :
    s.Tidy (match header with | some music => t.openMusic music | none => t) := by
  cases header with
  | none => exact h
  | some music =>
    unfold Scene.openMusic
    dsimp only
    split_ifs
    · exact h
    · exact h.call rfl
    · exact h.call rfl

lemma Tidy.openCamera (h : s.Tidy t) (header : Option String) :
    s.Tidy (match header with | some camera => t.openCamera camera | none => (t, none)).1 := by
  cases header with
  | none => exact h
  | some camera =>
    unfold Scene.openCamera
    dsimp only
    split
    · exact h.call rfl
    · exact h

lemma openGroup_tidy {group : List String} (h : s.openGroup group = .ok t) : s.Tidy t := by
  unfold openGroup at h
  dsimp only at h
  split at h
  · cases h
  · split at h
    · obtain rfl := Except.ok.inj h
      exact (Tidy.refl s).recast fun hc => hc.spawn _
    · obtain rfl := Except.ok.inj h
      exact .refl s

lemma openGroups_tidy (s : Scene α σ) (groups : List (List String)) :
    s.Tidy (s.openGroups groups).1 := by
  induction groups generalizing s with
  | nil => exact .refl s
  | cons group rest ih =>
    unfold openGroups
    split
    · rename_i t ht
      exact (openGroup_tidy ht).trans (ih t)
    · exact .refl s

lemma Tidy.openLayout (h : s.Tidy t) (header : Option String) :
    s.Tidy (match header with | some layout => t.openLayout layout | none => (t, none)).1 := by
  cases header with
  | none => exact h
  | some layout =>
    unfold Scene.openLayout
    dsimp only
    split
    · exact h
    · split
      · exact h
      · exact h.trans (openGroups_tidy t _)

lemma openHeader_tidy (s : Scene α σ) : s.Tidy s.openHeader.1 := by
  have hcast : s.Tidy { s with cast := .empty (Stage.localPlayer α s.stage) } :=
    (Tidy.refl s).recast fun _ => ⟨List.nodup_nil, fun _ hm => absurd hm List.not_mem_nil⟩
  unfold openHeader
  dsimp only
  generalize s.working.commands.take (min s.settings.headerLength 3) = header
  have hcamera := (hcast.openMusic header[0]?).openCamera header[1]?
  have hlayout := hcamera.openLayout header[2]?
  split
  · exact .refl s
  · split
    · exact hcamera
    · split
      · exact hlayout
      · exact hlayout.trans (.of_eq rfl rfl rfl rfl rfl)

lemma openEvent_tidy (s : Scene α σ) : s.Tidy s.openEvent.1 := by
  have hrun : ∀ {t : Scene α σ}, s.Tidy t → s.Tidy { t with phase := .running } :=
    fun h => h.trans (.of_eq rfl rfl rfl rfl rfl)
  have hheader := openHeader_tidy s
  unfold openEvent
  split
  · exact .refl s
  · cases s.flags.forked || s.flags.switched with
    | true => exact hrun (.refl s)
    | false =>
      dsimp only [Bool.false_eq_true, if_false]
      generalize s.openHeader = x at hheader ⊢
      obtain ⟨t, _ | cause⟩ := x
      · exact hrun hheader
      · exact hheader

lemma elapse_kempt (hs : s.Kempt) : s.elapse.Kempt ∧ s.elapse.cast.bare = s.cast.bare := by
  have horder := hs.cast.modifyAll (·.update s.elapsed)
  have hupdate := Cast.bare_modifyAll (fun a => a.update_bare s.elapsed) s.cast
  obtain ⟨hpaths, hcast, hbare⟩ := Path.updateAll_spec s.elapsed s.settings horder hs.paths
  exact ⟨⟨hcast, hpaths⟩, hbare.trans hupdate⟩

/-- Time and the barrier change neither names nor kinds. -/
lemma resume_bare (hs : s.Kempt) : s.resume.1.Kempt ∧ s.resume.1.cast.bare = s.cast.bare := by
  obtain ⟨hkempt, hbare⟩ := elapse_kempt hs
  unfold resume
  dsimp only
  split
  · exact ⟨hkempt, hbare⟩
  · split
    · exact ⟨hkempt, hbare⟩
    · rename_i hopen
      obtain ⟨horder, hcast, -⟩ := Barrier.resolve_spec s.elapse.settings hkempt.cast hopen
      generalize s.elapse.barrier.resolve s.elapse.settings s.elapse.cast = resolved
        at horder hcast ⊢
      obtain ⟨barrier, cast, closed⟩ := resolved
      dsimp only at horder hcast ⊢
      have hall : ∀ {t : Scene α σ}, t.cast = cast → t.paths = s.elapse.paths →
          t.Kempt ∧ t.cast.bare = s.cast.bare := by
        intro t ht hpaths
        rw [ht]
        exact ⟨⟨ht ▸ horder, hpaths ▸ hkempt.paths⟩, hcast.trans hbare⟩
      split_ifs <;> exact hall rfl rfl

lemma resume_tidy (s : Scene α σ) : s.Tidy s.resume.1 := by
  refine ⟨fun hs => (resume_bare hs).1, ?_, overlay_eq ?_, ?_⟩
  · unfold resume
    dsimp only
    split_ifs <;> rfl
  · unfold resume
    dsimp only
    split_ifs <;> rfl
  · unfold resume
    dsimp only
    split_ifs <;> rfl

theorem overture_tidy (s : Scene α σ) : s.Tidy s.overture.1 := by
  have hopen := openEvent_tidy s
  unfold overture
  split
  · exact .refl s
  · split
    · exact .skip (.refl s)
    · generalize s.openEvent = x at hopen ⊢
      obtain ⟨t, _ | cause⟩ := x
      · exact hopen.trans (resume_tidy t)
      · have hreported : s.Tidy
            (t.reportAt cause.index (t.working.getD cause.index) .fatal (.header cause)) :=
          hopen.trans (.of_eq rfl rfl rfl rfl rfl)
        exact hreported.clearAway _

/-! ### Waits that are attended to -/

omit [Scalar α] in
/-- A skip leaves no wait, or it is put off or not made at all. -/
lemma skip_cases (s : Scene α σ) : s.skip.wait = none ∨
    s.skip.stand = s.stand ∧ s.skip.edits = s.edits ∧ s.skip.cast = s.cast := by
  unfold skip
  split_ifs
  · exact .inr ⟨rfl, rfl, rfl⟩
  · exact .inr ⟨rfl, rfl, rfl⟩
  · obtain ⟨v, hv, heq⟩ := clearAway_eq s none
    rw [heq]
    exact .inl (congrArg Stand.wait hv.stand)

/-- The cast and the paths are in order, and a recorded wait belongs to the command under the
pointer. Before the first tick there is none. -/
structure Attended (s : Scene α σ) : Prop extends Kempt s where
  owned : s.Owned s.command.1 s.command.2
  spoken : s.wait ≠ none → ∃ raw, s.At raw
  fresh : s.phase = .uninitialized → s.wait = none

/-- Whatever happens beside the script leaves a wait to its command, or drops it. -/
lemma Attended.of_tidy (hs : s.Attended) (h : s.Tidy t)
    (hw : t.wait = none ∨ t.stand = s.stand ∧ t.cast.bare = s.cast.bare)
    (hfresh : t.phase = .uninitialized → s.phase = .uninitialized) : t.Attended where
  toKempt := h.kempt hs.toKempt
  owned := by
    intro w hw'
    rcases hw with hnone | ⟨hstand, hcast⟩
    · cases hnone.symm.trans hw'
    · have hwait : t.wait = s.wait := congrArg Stand.wait hstand
      rw [command_of_stand (w := s.wait) hstand]
      exact (hs.owned w (hwait ▸ hw')).of_bare hcast
  spoken := by
    intro hw'
    rcases hw with hnone | ⟨hstand, -⟩
    · exact absurd hnone hw'
    · obtain ⟨raw, hat⟩ := hs.spoken fun hnone => hw' ((congrArg Stand.wait hstand).trans hnone)
      exact ⟨raw, hat.of_stand (w := s.wait) hstand h.settings⟩
  fresh := by
    intro hphase
    rcases hw with hnone | ⟨hstand, -⟩
    · exact hnone
    · exact (congrArg Stand.wait hstand).trans (hs.fresh (hfresh hphase))

lemma Attended.round (hw : s.AtWork) (hs : s.Attended) :
    (s.round Commands.table).1.Attended := by
  have h := round_conduct hw
  have hbegun : (s.round Commands.table).1.phase ≠ .uninitialized := by
    rcases round_cases hw with ⟨-, o, ho⟩ | ho
    · rw [ho.phase]
      cases o <;> simp [Outcome.phase]
    · exact ne_uninitialized_of_phase ho.phase
  rcases h.wait hs.toKempt hs.owned with hnone | ⟨hstand, -, hown⟩
  · refine ⟨h.kempt hs.toKempt, fun w hw' => ?_, fun hw' => absurd hnone hw',
      fun hfresh => absurd hfresh hbegun⟩
    cases hnone.symm.trans hw'
  · refine ⟨h.kempt hs.toKempt, ?_, fun hw' => ?_, fun hfresh => absurd hfresh hbegun⟩
    · rw [command_of_stand hstand]
      exact hown
    · obtain ⟨raw, hat⟩ := (round_wait hw).resolve_left hw'
      exact ⟨raw, hat.of_stand hstand h.settings⟩

lemma resume_wait (s : Scene α σ) :
    s.resume.1.wait = none ∨ s.resume.1.stand = s.stand := by
  rcases resume_cases s with ⟨q, -, -⟩ | ⟨-, -, -, hhelm, -⟩
  · exact .inr q.stand
  · exact .inl (congrArg (·.toStand.wait) hhelm)

/-- Ahead of its commands, a tick leaves a wait as it is, or drops it. -/
lemma overture_wait (hrest : s.AtRest) (hs : s.Attended) : s.overture.1.wait = none ∨
    s.overture.1.stand = s.stand ∧ s.overture.1.cast.bare = s.cast.bare := by
  unfold overture
  split
  · exact .inr ⟨rfl, rfl⟩
  · split
    · exact s.skip_cases.imp id fun h => ⟨h.1, congrArg Cast.bare h.2.2⟩
    · split
      · rename_i u cause _
        obtain ⟨v, hv, heq⟩ := clearAway_eq
          (u.reportAt cause.index (u.working.getD cause.index) .fatal (.header cause))
          (some (.aborted cause.index (.header cause)))
        rw [abort, heq]
        exact .inl (congrArg Stand.wait hv.stand)
      · rename_i u hopen
        rcases openEvent_cases hrest.toCalm hopen with
          ⟨hsome, -⟩ | ⟨-, -, rfl⟩ | ⟨-, hfresh, v, n, hv, -, rfl⟩
        · cases hsome
        · exact (resume_wait u).imp id fun h => ⟨h, (resume_bare hs.toKempt).2⟩
        · have hnone : v.wait = none := (congrArg Stand.wait hv.stand).trans (hs.fresh hfresh)
          rcases resume_wait ({ v with pointer := n, phase := .running } : Scene α σ) with h | h
          · exact .inl h
          · exact .inl ((congrArg Stand.wait h).trans hnone)

lemma Attended.overture (hrest : s.AtRest) (hs : s.Attended) : s.overture.1.Attended := by
  refine hs.of_tidy (overture_tidy s) (overture_wait hrest hs) fun hphase => ?_
  rcases overture_cases hrest with ⟨-, heq⟩ | ⟨-, -, o, -, ho⟩ | ⟨-, -, ho⟩
  · rwa [heq] at hphase
  · rw [ho.phase] at hphase
    cases o <;> cases hphase
  · exact absurd hphase (ne_uninitialized_of_phase ho.phase)

lemma attended_habit : Habit (Attended : Scene α σ → Prop) where
  overture _ hrest hs := hs.overture hrest
  round _ hw hs := hs.round hw
  skip s hrest hs := by
    refine hs.of_tidy (.skip (.refl s))
      (s.skip_cases.imp id fun h => ⟨h.1, congrArg Cast.bare h.2.2⟩) fun hphase => ?_
    cases hover : s.isTerminal with
    | true => rwa [skip_of_isTerminal hover] at hphase
    | false =>
      obtain ⟨o, -, ho⟩ := skip_ends hrest.toCalm hover
      rw [ho.phase] at hphase
      cases o <;> cases hphase
  finish s ending _ hs := by
    cases hover : s.isTerminal with
    | true => rwa [finish_of_isTerminal hover]
    | false =>
      have hends := finish_ends hover ending
      refine hs.of_tidy (.finish (.refl s) ending) (.inl (finish_wait hover ending))
        fun hphase => ?_
      rw [hends.phase] at hphase
      cases hphase
  requestSkip _ hs := hs.of_tidy (.of_eq rfl rfl rfl rfl rfl) (.inr ⟨rfl, rfl⟩) id
  surround _ _ _ _ hs := hs.of_tidy (.of_eq rfl rfl rfl rfl rfl) (.inr ⟨rfl, rfl⟩) id

end Scene

lemma Premiere.attended (p : Premiere α σ) : p.scene.Attended where
  cast := ⟨List.nodup_nil, fun _ hm => absurd hm List.not_mem_nil⟩
  paths := fun _ hp => absurd hp List.not_mem_nil
  owned := fun _ hw => nomatch hw
  spoken := fun hw => absurd rfl hw
  fresh := fun _ => rfl

end Cutscene
