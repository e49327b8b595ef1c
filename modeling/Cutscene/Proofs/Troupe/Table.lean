import Cutscene.Proofs.Conduct.Table
import Cutscene.Proofs.Troupe.Acting
import Cutscene.Proofs.Troupe.Steering

/-!
# Rules That the Troupe Keeps To

A round does the deeds of the command under the pointer, or it finishes the event and everybody
stands still (`Scene.round_troupe`). Ahead of the rounds the troupe drifts (`Troupe.Drift`): the
header brings it on, time passes for it, the barrier moves it on, and a skip dismisses it. So what
every act and every drift keep holds on the course of every run (`Scene.Ruled.habit`).
-/

namespace Cutscene

variable {α σ : Type} [Scalar α] [Stage α σ]

/-! ### The table of commands -/

namespace Commands

open Scene

/-- A handler leaves its footprint and does its deeds, or it finishes the event and does nothing
else. -/
def Performs (name : String) (handler : Handler α σ) : Prop :=
  ∀ a s, (Obeys name a s (handler a s) ∧ Deeds name s (handler a s).scene) ∨
    ∃ u ending, s.Quiet u ∧ u.troupe = s.troupe ∧ handler a s = (u.finish ending).done

lemma end_performs : Performs "end" («end» : Handler α σ) := by
  intro a s
  unfold «end»
  split
  · exact .inl ⟨.holds (.refl s), .refl s⟩
  · split
    · exact .inr ⟨s, _, .refl s, rfl, rfl⟩
    · exact .inr ⟨s.note _, _, (Quiet.refl s).note _, rfl, rfl⟩

theorem builtIn_performs :
    ∀ m ∈ (builtIn : List (String × Handler α σ)), Performs m.1 m.2 := by
  have h : ∀ {name : String} {handler : Handler α σ},
      (∀ a s, Obeys name a s (handler a s)) → (∀ a s, Deeds name s (handler a s).scene) →
      Performs name handler := fun ho hd a s => .inl ⟨ho a s, hd a s⟩
  simp only [builtIn, List.forall_mem_cons]
  exact ⟨h skippable_obeys skippable_deeds, h pause_obeys pause_deeds, end_performs,
    h fork_obeys fork_deeds, h switchEvent_obeys switchEvent_deeds,
    h beginSimultaneous_obeys beginSimultaneous_deeds,
    h endSimultaneous_obeys endSimultaneous_deeds, h setSkipActions_obeys setSkipActions_deeds,
    h waitForOtherPlayers_obeys waitForOtherPlayers_deeds, h speak_obeys speak_deeds,
    h message_obeys message_deeds, h question_obeys question_deeds,
    h quickQuestion_obeys quickQuestion_deeds, h speakFromState_obeys speakFromState_deeds,
    h move_obeys move_deeds, h advancedMove_obeys advancedMove_deeds,
    h stopAdvancedMoves_obeys stopAdvancedMoves_deeds, h walkInSquare_obeys walkInSquare_deeds,
    h warp_obeys warp_deeds, h faceDirection_obeys faceDirection_deeds,
    h showFrame_obeys showFrame_deeds, h animate_obeys animate_deeds,
    h stopAnimation_obeys stopAnimation_deeds, h positionOffset_obeys positionOffset_deeds,
    h jump_obeys jump_deeds, h shake_obeys shake_deeds, h emote_obeys emote_deeds,
    h speed_obeys speed_deeds, h halt_obeys halt_deeds, h addActor_obeys addActor_deeds,
    h removeActor_obeys removeActor_deeds, h playSound_obeys playSound_deeds,
    h playMusic_obeys playMusic_deeds, h stopMusic_obeys stopMusic_deeds,
    h viewport_obeys viewport_deeds, h globalFade_obeys (fade_deeds true),
    h globalFadeToClear_obeys (fade_deeds false), h spawnEffect_obeys spawnEffect_deeds,
    h screenFlash_obeys screenFlash_deeds, h mail_obeys mail_deeds,
    h friendship_obeys friendship_deeds, h addItem_obeys addItem_deeds,
    h loseItems_obeys loseItems_deeds, h showItemsLost_obeys showItemsLost_deeds,
    h awardFestivalPrize_obeys awardFestivalPrize_deeds, by simp⟩

/-- Whatever command this table gives out performs. -/
def IsPerformed (table : CommandTable (Handler α σ)) : Prop :=
  ∀ name m, table.resolve? name = some m → Performs m.1 m.2

lemma table_isPerformed : IsPerformed (table : CommandTable (Handler α σ)) :=
  fun _ m h => builtIn_performs m (CommandTable.mem_of_resolve? h)

end Commands

namespace Troupe

/-- Everybody stands still, and nobody is on the way. -/
def still (T : Troupe α) : Troupe α := ⟨T.cast.haltAll, .closed, []⟩

/-- Everybody stands still and has been let go. -/
def dismissed (T : Troupe α) : Troupe α :=
  ⟨T.cast.modifyAll fun a => a.halt.clearOverrides, .closed, []⟩

/-- Time passes for the actors and then for the paths. -/
def elapse (T : Troupe α) (time : α) (g : Settings α) : Troupe α :=
  let moved := Path.updateAll time g T.paths (T.cast.modifyAll (·.update time))
  ⟨moved.2, T.barrier, moved.1⟩

/-- The barrier goes on. -/
def resolve (T : Troupe α) (g : Settings α) : Troupe α :=
  let moved := Barrier.advance g T.barrier.pending T.cast
  ⟨moved.2, ⟨moved.1⟩, T.paths⟩

/-- What happens to a troupe without a command. -/
inductive Drift (g : Settings α) (T : Troupe α) : Troupe α → Prop
  | assembles (player : Nat) (idle : T.barrier = .closed) (pathless : T.paths = []) :
      Drift g T { T with cast := .empty player }
  | comes (actor : String) (kind : ActorKind) (tile : Tile) (facing : Direction) :
      Drift g T { T with cast := (T.cast.spawn (.place actor kind tile facing g.tileSize)).2 }
  | elapses (time : α) : Drift g T (T.elapse time g)
  | resolves : Drift g T (T.resolve g)
  | dismisses : Drift g T T.dismissed

/-- What every act and every drift keep. -/
structure Rule (rule : Settings α → Troupe α → Prop) : Prop where
  act : ∀ {g name T U}, rule g T → Act g name T U → rule g U
  drift : ∀ {g T U}, rule g T → Drift g T U → rule g U
  still : ∀ {g T}, rule g T → rule g T.still

variable {rule : Settings α → Troupe α → Prop} {g : Settings α} {name : String} {T U : Troupe α}

lemma Rule.acts (r : Rule rule) (hT : rule g T) (h : Relation.ReflTransGen (Act g name) T U) :
    rule g U := by
  induction h with
  | refl => exact hT
  | tail _ act ih => exact r.act ih act

lemma Rule.drifts (r : Rule rule) (hT : rule g T) (h : Relation.ReflTransGen (Drift g) T U) :
    rule g U := by
  induction h with
  | refl => exact hT
  | tail _ drift ih => exact r.drift ih drift

/-- A rule may ask for certain settings, since nothing changes them. -/
lemma Rule.pinned (r : Rule rule) (g₀ : Settings α) : Rule fun g T => g = g₀ ∧ rule g T where
  act hT h := ⟨hT.1, r.act hT.2 h⟩
  drift hT h := ⟨hT.1, r.drift hT.2 h⟩
  still hT := ⟨hT.1, r.still hT.2⟩

end Troupe

namespace Scene

open Troupe

variable {s t u : Scene α σ}

/-! ### A round -/

omit [Scalar α] in
lemma finish_troupe (h : u.isTerminal = false) (ending : Ending) :
    (u.finish ending).troupe = u.troupe.still := by
  rw [finish, if_neg (by simp [h])]
  rfl

/-- A text that is run leaves what its command has left, with the edits made, or it is over the
event. -/
theorem runCommand_performs {table : CommandTable (Handler α σ)}
    (ht : Commands.IsPerformed table) (hs : s.Calm) (raw : String) :
    (∃ r, Footprint (table.commandOf raw).1 (table.commandOf raw).2 s.underWay r ∧
      Deeds (table.commandOf raw).1 s.underWay r ∧
      runCommand table s s.pointer raw = (r.onEvent Event.applyEdits).atEase) ∨
    ∃ u ending, s.Quiet u ∧ u.troupe = s.troupe ∧
      runCommand table s s.pointer raw = u.finish ending := by
  -- A text that is passed over has queued nothing.
  have hpass : ∀ {name : String} {a : Args} {t u : Scene α σ}, s.underWay.Quiet u →
      u.troupe = s.troupe → t = (u.advance 1).atEase →
      ∃ r, Footprint name a s.underWay r ∧ Deeds name s.underWay r ∧
        t = (r.onEvent Event.applyEdits).atEase := by
    rintro name a t u hu htroupe rfl
    refine ⟨u.advance 1, (Obeys.passes hu).footprint, .of_eq htroupe hu.edits, ?_⟩
    have hnone : (u.advance 1).toEvent.applyEdits = (u.advance 1).toEvent :=
      Event.applyEdits_of_nil (hu.edits.trans hs.edits) (Nat.min_le_right _ _)
    rw [onEvent, hnone]
  rw [runCommand_eq]
  unfold CommandTable.commandOf
  rcases Script.tokens? raw with _ | _ | ⟨name, args⟩
  · exact .inl (hpass ((Quiet.refl s.underWay).note _) rfl rfl)
  · exact .inl (hpass (.refl s.underWay) rfl rfl)
  · dsimp only
    rcases hr : table.resolve? name with _ | ⟨name', handler⟩
    · exact .inl (hpass (u := s.underWay.report .unknownCommand _) (.of_eq rfl rfl id) rfl rfl)
    · dsimp only
      rcases ht _ _ hr ⟨name :: args⟩ s.underWay with
        ⟨⟨hfault, hprint⟩, hdeeds⟩ | ⟨u, ending, hu, htroupe, heq⟩
      · dsimp only at hfault hprint hdeeds
        rw [hfault]
        exact .inl ⟨_, hprint, hdeeds, rfl⟩
      · dsimp only at heq
        rw [heq]
        refine .inr ⟨u.atEase, ending, hu.atEase hs, htroupe, ?_⟩
        rw [← atEase_finish]
        exact congrArg Scene.atEase (applyEdits_finish hs hu ending)

/-- A round does the deeds of the command under the pointer, or it finishes the event. -/
theorem round_troupe (hs : s.AtWork) :
    Relation.ReflTransGen (Act s.settings s.command.1) s.troupe
        (s.round Commands.table).1.troupe ∨
      (s.round Commands.table).1.phase = .finished ∧
        (s.round Commands.table).1.troupe = s.troupe.still := by
  have hfinished : ∀ {u : Scene α σ} (ending : Ending), u.isTerminal = false →
      u.troupe = s.troupe →
      (u.finish ending).phase = .finished ∧ (u.finish ending).troupe = s.troupe.still := by
    intro u ending hgoes htroupe
    exact ⟨(finish_ends hgoes ending).phase, htroupe ▸ finish_troupe hgoes ending⟩
  rcases round_or_at s with ⟨raw, hat⟩ | hend | hcomment
  · have hcalm := hs.unchained
    rcases runCommand_performs Commands.table_isPerformed hcalm raw with
      ⟨r, -, hdeeds, heq⟩ | ⟨u, ending, hu, htroupe, heq⟩
    · obtain ⟨phase, chain, hround⟩ := round_at hs hat
      have hframe := r.applyEdits_frame
      have hsame : (s.round Commands.table).1.troupe = r.troupe := by
        rw [hround, show runCommand Commands.table { s with chainRequested := false } s.pointer raw
          = _ from heq]
        simp only [troupe, Troupe.mk.injEq]
        exact ⟨hframe.cast, hframe.barrier, hframe.paths⟩
      rw [hsame, hat.command_eq]
      exact .inl hdeeds.troupe
    · have hgoes : u.isTerminal = false := by
        unfold Event.isTerminal
        rw [hu.phase]
        exact hs.isTerminal
      have hround : (s.round Commands.table).1 = u.finish ending := by
        rcases round_runs hs hat heq with ⟨hrun, -⟩ | ⟨hround, -⟩
        · rw [(finish_ends hgoes ending).isTerminal] at hrun
          cases hrun
        · exact hround
      rw [hround]
      exact .inr (hfinished ending hgoes htroupe)
  · rw [hend]
    exact .inr (hfinished .plain hs.isTerminal rfl)
  · rw [hcomment]
    exact .inl .refl

/-! ### Ahead of the rounds -/

omit [Scalar α] in
lemma runSkipAction_troupe (s : Scene α σ) (action : String) :
    (s.runSkipAction action).troupe = s.troupe := by
  unfold runSkipAction
  dsimp only
  split <;> rfl

omit [Scalar α] in
lemma clearAway_troupe (s : Scene α σ) (given : Option Outcome) :
    (s.clearAway given).troupe = s.troupe.dismissed := by
  have hactions : ∀ (l : List String) (t : Scene α σ),
      (l.foldl runSkipAction t).troupe = t.troupe := by
    intro l
    induction l with
    | nil => exact fun _ => rfl
    | cons action rest ih => exact fun t => (ih _).trans (runSkipAction_troupe t action)
  exact hactions s.skipActions _

omit [Scalar α] in
lemma skip_troupe (s : Scene α σ) :
    s.skip.troupe = s.troupe ∨ s.skip.troupe = s.troupe.dismissed := by
  unfold skip
  split_ifs
  · exact .inl rfl
  · exact .inl rfl
  · exact .inr (clearAway_troupe s none)

/-- The troupe changes by drifts, and the settings are left alone. -/
structure Drifts (s t : Scene α σ) : Prop where
  settings : t.settings = s.settings
  troupe : Relation.ReflTransGen (Drift s.settings) s.troupe t.troupe

namespace Drifts

omit [Stage α σ] in
lemma refl (s : Scene α σ) : s.Drifts s := ⟨rfl, .refl⟩

omit [Stage α σ] in
lemma trans (h : s.Drifts t) (h' : t.Drifts u) : s.Drifts u where
  settings := h'.settings.trans h.settings
  troupe := h.troupe.trans (h.settings ▸ h'.troupe)

omit [Stage α σ] in
lemma of_eq (hsettings : t.settings = s.settings) (htroupe : t.troupe = s.troupe) : s.Drifts t :=
  ⟨hsettings, htroupe ▸ .refl⟩

omit [Stage α σ] in
lemma drift (h : s.Drifts t) (b : Drift t.settings t.troupe u.troupe)
    (hsettings : u.settings = t.settings) : s.Drifts u :=
  h.trans ⟨hsettings, .single b⟩

lemma openMusic (h : s.Drifts t) (header : Option String) :
    s.Drifts (match header with | some music => t.openMusic music | none => t) := by
  cases header with
  | none => exact h
  | some music =>
    unfold Scene.openMusic
    dsimp only
    split_ifs <;> exact h.trans (.of_eq rfl rfl)

lemma openCamera (h : s.Drifts t) (header : Option String) :
    s.Drifts (match header with | some camera => t.openCamera camera | none => (t, none)).1 := by
  cases header with
  | none => exact h
  | some camera =>
    unfold Scene.openCamera
    dsimp only
    split <;> exact h.trans (.of_eq rfl rfl)

lemma layoutActor?_placed {name : String} {tile : Tile} {facing : Direction} {actor : Actor α}
    (h : s.layoutActor? name tile facing = some actor) :
    ∃ name' kind, actor = .place name' kind tile facing s.settings.tileSize := by
  delta layoutActor? at h
  generalize (ActorRef.parse name).id = id at h
  cases id with
  | localPlayer => exact ⟨_, _, (Option.some.inj h).symm⟩
  | player n =>
    dsimp only at h
    split at h
    · exact ⟨_, _, (Option.some.inj h).symm⟩
    · cases h
  | named name => exact ⟨_, _, (Option.some.inj h).symm⟩

lemma openGroup {group : List String} (h : s.openGroup group = .ok t) : s.Drifts t := by
  unfold Scene.openGroup at h
  dsimp only at h
  split at h
  · cases h
  · split at h
    · rename_i actor hactor
      obtain rfl := Except.ok.inj h
      obtain ⟨name, kind, rfl⟩ := layoutActor?_placed hactor
      exact (refl s).drift (.comes name kind _ _) rfl
    · obtain rfl := Except.ok.inj h
      exact refl s

lemma openGroups (s : Scene α σ) (groups : List (List String)) :
    s.Drifts (s.openGroups groups).1 := by
  induction groups generalizing s with
  | nil => exact refl s
  | cons group rest ih =>
    unfold Scene.openGroups
    split
    · rename_i t ht
      exact (openGroup ht).trans (ih t)
    · exact refl s

lemma openLayout (h : s.Drifts t) (header : Option String) :
    s.Drifts (match header with | some layout => t.openLayout layout | none => (t, none)).1 := by
  cases header with
  | none => exact h
  | some layout =>
    unfold Scene.openLayout
    dsimp only
    split
    · exact h
    · split
      · exact h
      · exact h.trans (openGroups t _)

end Drifts

/-- Before the first tick nobody is on the way. -/
def Unopened (s : Scene α σ) : Prop :=
  s.phase = .uninitialized → s.barrier = .closed ∧ s.paths = []

lemma openHeader_drifts (idle : s.barrier = .closed) (pathless : s.paths = []) :
    s.Drifts s.openHeader.1 := by
  have hcast : s.Drifts { s with cast := .empty (Stage.localPlayer α s.stage) } :=
    (Drifts.refl s).drift (.assembles _ idle pathless) rfl
  unfold openHeader
  dsimp only
  generalize s.working.commands.take (min s.settings.headerLength 3) = header
  have hcamera := (hcast.openMusic header[0]?).openCamera header[1]?
  have hlayout := hcamera.openLayout header[2]?
  split
  · exact .refl s
  · split
    · exact hcamera
    · split
      · exact hlayout
      · exact hlayout.trans (.of_eq rfl rfl)

lemma openEvent_drifts (hs : s.Unopened) : s.Drifts s.openEvent.1 := by
  unfold openEvent
  split
  · exact .refl s
  · rename_i hfresh
    obtain ⟨hidle, hpathless⟩ := hs (not_not.mp hfresh)
    have hheader := openHeader_drifts hidle hpathless
    cases s.flags.forked || s.flags.switched with
    | true => exact .of_eq rfl rfl
    | false =>
      dsimp only [Bool.false_eq_true, if_false]
      generalize s.openHeader = x at hheader ⊢
      obtain ⟨t, _ | cause⟩ := x
      · exact hheader.trans (.of_eq rfl rfl)
      · exact hheader

omit [Stage α σ] in
/-- A barrier that is closed has nobody to move on. -/
lemma resolve_of_isClosed (h : s.barrier.isClosed) : s.troupe.resolve s.settings = s.troupe := by
  have hpending : s.barrier.pending = [] := by simpa [Barrier.isClosed] using h
  have hclosed : s.barrier = ⟨[]⟩ := congrArg Barrier.mk hpending
  simp [Troupe.resolve, troupe, hclosed, Barrier.advance]

/-- Time passes, and then the barrier goes on unless the world is frozen. -/
lemma resume_troupe (s : Scene α σ) : s.resume.1.troupe =
    if Stage.worldFrozen α s.elapse.stage then s.troupe.elapse s.elapsed s.settings
    else (s.troupe.elapse s.elapsed s.settings).resolve s.settings := by
  unfold resume
  dsimp only
  split
  · rfl
  · split
    · rename_i hclosed
      exact (resolve_of_isClosed hclosed).symm
    · split_ifs <;> rfl

lemma resume_drifts (s : Scene α σ) : s.Drifts s.resume.1 where
  settings := (resume_tidy s).settings
  troupe := by
    have helapsed : Relation.ReflTransGen (Drift s.settings) s.troupe
        (s.troupe.elapse s.elapsed s.settings) := .single (.elapses s.elapsed)
    rw [resume_troupe]
    split
    · exact helapsed
    · exact helapsed.tail .resolves

lemma skip_drifts (s : Scene α σ) : s.Drifts s.skip where
  settings := (Tidy.skip (.refl s)).settings
  troupe := by
    rcases skip_troupe s with heq | heq
    · exact heq ▸ .refl
    · exact heq ▸ .single .dismisses

lemma clearAway_drifts (s : Scene α σ) (given : Option Outcome) : s.Drifts (s.clearAway given) where
  settings := (Tidy.clearAway (.refl s) given).settings
  troupe := by
    rw [clearAway_troupe]
    exact .single .dismisses

/-- Whatever an overture does to the troupe is done in drifts. -/
theorem overture_drifts (hs : s.Unopened) : s.Drifts s.overture.1 := by
  have hopen := openEvent_drifts hs
  unfold overture
  split
  · exact .refl s
  · split
    · exact skip_drifts s
    · generalize s.openEvent = x at hopen ⊢
      obtain ⟨t, _ | cause⟩ := x
      · exact hopen.trans (resume_drifts t)
      · have hreported : t.Drifts
            (t.reportAt cause.index (t.working.getD cause.index) .fatal (.header cause)) :=
          .of_eq rfl rfl
        exact (hopen.trans hreported).trans (clearAway_drifts _ _)

/-! ### Runs -/

lemma overture_phase (hs : s.AtRest) (h : s.overture.1.phase = .uninitialized) :
    s.overture.1 = s := by
  rcases overture_cases hs with ⟨-, heq⟩ | ⟨-, -, o, -, ho⟩ | ⟨-, -, ho⟩
  · rw [heq]
  · rw [ho.phase] at h
    cases o <;> cases h
  · exact absurd h (ne_uninitialized_of_phase ho.phase)

lemma round_phase (hs : s.AtWork) : (s.round Commands.table).1.phase ≠ .uninitialized := by
  rcases round_cases hs with ⟨-, o, ho⟩ | ho
  · rw [ho.phase]
    cases o <;> simp [Outcome.phase]
  · exact ne_uninitialized_of_phase ho.phase

/-- Between the ticks nothing happens to the troupe but a drift, or the host finishes the event. -/
lemma apply_drifts (s : Scene α σ) {move : HostMove α σ} (hmove : move ≠ .tick) :
    s.Drifts (move.apply Commands.table s) ∨ ∃ ending, s.isTerminal = false ∧
      move.apply Commands.table s = s.finish ending := by
  cases move with
  | tick => exact absurd rfl hmove
  | skip => exact .inl (skip_drifts s)
  | requestSkip => exact .inl (.of_eq rfl rfl)
  | finish ending =>
    cases hover : s.isTerminal with
    | true =>
      rw [HostMove.apply, finish_of_isTerminal hover]
      exact .inl (.refl s)
    | false => exact .inr ⟨ending, rfl, rfl⟩
  | surround stage library elapsed => exact .inl (.of_eq rfl rfl)

/-- Nobody comes on before the first tick. -/
lemma Unopened.overture (hrest : s.AtRest) (hs : s.Unopened) : s.overture.1.Unopened := by
  intro hfresh
  have heq := overture_phase hrest hfresh
  rw [heq] at hfresh ⊢
  exact hs hfresh

lemma Unopened.round (hs : s.AtWork) : (s.round Commands.table).1.Unopened :=
  fun hfresh => absurd hfresh (round_phase hs)

lemma Unopened.apply (hrest : s.AtRest) (hs : s.Unopened) {move : HostMove α σ}
    (hmove : move ≠ .tick) : (move.apply Commands.table s).Unopened := by
  intro hfresh
  rcases (apply_of_ne_tick hrest.toCalm hmove Commands.table).2 with hsame | ⟨-, o, ho, -⟩
  · rw [hsame.phase] at hfresh
    rw [hsame.event]
    exact hs hfresh
  · rw [ho.phase] at hfresh
    cases o <;> cases hfresh

/-- The troupe keeps to a rule, and nobody comes on before the first tick. -/
structure Ruled (rule : Settings α → Troupe α → Prop) (s : Scene α σ) : Prop where
  unopened : s.Unopened
  rule : rule s.settings s.troupe

variable {rule : Settings α → Troupe α → Prop}

omit [Stage α σ] in
lemma Ruled.drifts (r : Rule rule) (hs : s.Ruled rule) (h : s.Drifts t) :
    rule t.settings t.troupe := by
  rw [h.settings]
  exact r.drifts hs.rule h.troupe

lemma Ruled.overture (r : Rule rule) (hrest : s.AtRest) (hs : s.Ruled rule) :
    s.overture.1.Ruled rule :=
  ⟨hs.unopened.overture hrest, hs.drifts r (overture_drifts hs.unopened)⟩

lemma Ruled.round (r : Rule rule) (hwork : s.AtWork) (hs : s.Ruled rule) :
    (s.round Commands.table).1.Ruled rule where
  unopened := .round hwork
  rule := by
    rw [(round_conduct hwork).settings]
    rcases round_troupe hwork with hacts | ⟨-, hstill⟩
    · exact r.acts hs.rule hacts
    · rw [hstill]
      exact r.still hs.rule

lemma Ruled.apply (r : Rule rule) (hrest : s.AtRest) (hs : s.Ruled rule) (move : HostMove α σ)
    (hmove : move ≠ .tick) : (move.apply Commands.table s).Ruled rule where
  unopened := hs.unopened.apply hrest hmove
  rule := by
    rcases apply_drifts s hmove with hdrifts | ⟨ending, hgoes, heq⟩
    · exact hs.drifts r hdrifts
    · rw [heq, (Tidy.finish (.refl s) ending).settings, finish_troupe hgoes]
      exact r.still hs.rule

/-- What every act and every drift keep is kept by every run. -/
theorem Ruled.habit (r : Rule rule) : Habit (Ruled rule : Scene α σ → Prop) where
  overture _ hrest hs := hs.overture r hrest
  round _ hwork hs := hs.round r hwork
  skip _ hrest hs := hs.apply r hrest .skip nofun
  finish _ ending hrest hs := hs.apply r hrest (.finish ending) nofun
  requestSkip _ hs := ⟨hs.unopened, hs.rule⟩
  surround _ _ _ _ hs := ⟨hs.unopened, hs.rule⟩

end Scene

omit [Scalar α] [Stage α σ] in
lemma Premiere.ruled {rule : Settings α → Troupe α → Prop} (p : Premiere α σ)
    (h : rule p.settings ⟨.empty 0, .closed, []⟩) : p.scene.Ruled rule :=
  ⟨fun _ => ⟨rfl, rfl⟩, h⟩

end Cutscene
