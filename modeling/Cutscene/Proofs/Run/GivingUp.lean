import Cutscene.Proofs.Footprint.Spelled
import Cutscene.Proofs.Run.Skip

/-!
# A Command That Gives Up

A host may add commands of its own to the table, and these may give up. Then the event is cleared
away whatever the command has done before, also where it has ended the event itself: the end is
told once more, and the skip actions run after it. Nothing else tells an end twice.
-/

namespace Cutscene

variable {α σ : Type}

namespace Scene

variable {table : CommandTable (Handler α σ)} {s t u : Scene α σ} {reply : Reply α σ}

/-! ### The reply of a command -/

/-- What the command of the next round leaves, if it is one of the table. -/
def reply? (table : CommandTable (Handler α σ)) (s : Scene α σ) : Option (Reply α σ) :=
  (s.working.get? s.pointer).bind fun raw =>
    if s.settings.isComment raw then none
    else
      match Script.tokens? raw with
      | some (name :: args) =>
        (table.resolve? name).map fun m =>
          m.2 ⟨name :: args⟩ { s with chainRequested := false }.underWay
      | _ => none

lemma of_reply? (h : s.reply? table = some reply) :
    ∃ raw name args m, s.working.get? s.pointer = some raw ∧ s.settings.isComment raw = false ∧
      Script.tokens? raw = some (name :: args) ∧ table.resolve? name = some m ∧
      reply = m.2 ⟨name :: args⟩ { s with chainRequested := false }.underWay := by
  obtain ⟨raw, hget, h⟩ := Option.bind_eq_some_iff.mp h
  split at h
  · cases h
  · rename_i hcomment
    split at h
    · rename_i name args htokens
      obtain ⟨m, hresolve, hreply⟩ := Option.map_eq_some_iff.mp h
      exact ⟨raw, name, args, m, hget, by simpa using hcomment, htokens, hresolve, hreply.symm⟩
    · cases h

/-- The scene of a command that is done, once its edits are made. -/
def edited (s : Scene α σ) : Scene α σ := (s.onEvent Event.applyEdits).atEase

lemma edited_calm (s : Scene α σ) : s.edited.Calm :=
  ⟨rfl, (Event.applyEdits_frame _).edits, Event.pointer_applyEdits_le _⟩

lemma edited_isTerminal (s : Scene α σ) : s.edited.isTerminal = s.isTerminal := by
  have hphase : s.edited.phase = s.phase := (Event.applyEdits_frame _).phase
  unfold Event.isTerminal
  rw [hphase]

/-- Edits leave alone what a skip does. -/
lemma edited_frame (s : Scene α σ) :
    s.edited.skipActions = s.skipActions ∧ s.edited.id = s.id := by
  refine List.foldlRecOn
    (motive := fun e : Event α => e.skipActions = s.skipActions ∧ e.id = s.id)
    s.edits Event.applyEdit ⟨rfl, rfl⟩ ?_
  intro e he edit _
  have hsame : (e.applyEdit edit).skipActions = e.skipActions ∧ (e.applyEdit edit).id = e.id := by
    unfold Event.applyEdit
    cases edit with
    | insertAfter index commands => dsimp only; split <;> exact ⟨rfl, rfl⟩
    | replaceAt index command => exact ⟨rfl, rfl⟩
    | replaceAll commands swap => exact ⟨rfl, rfl⟩
  exact ⟨hsame.1.trans he.1, hsame.2.trans he.2⟩

section Run

variable [Stage α σ] {raw name : String} {args : List String} {m : String × Handler α σ}
  {fault : Fault}

lemma runCommand_of_fault (htokens : Script.tokens? raw = some (name :: args))
    (hresolve : table.resolve? name = some m)
    (hfault : (m.2 ⟨name :: args⟩ s.underWay).fault = some fault) :
    runCommand table s s.pointer raw =
      (m.2 ⟨name :: args⟩ s.underWay).scene.edited.abort s.pointer raw fault := by
  rw [runCommand_eq, htokens]
  dsimp only
  rw [hresolve]
  dsimp only
  rw [hfault]
  rfl

lemma abort_isTerminal (s : Scene α σ) (index : Nat) (command : String) (fault : Fault) :
    (s.abort index command fault).isTerminal = true := rfl

/-- A round whose command is over the event stops there. -/
lemma round_of_isTerminal (hget : s.working.get? s.pointer = some raw)
    (hcomment : s.settings.isComment raw = false)
    (hrun : runCommand table { s with chainRequested := false } s.pointer raw = t)
    (hover : t.isTerminal = true) : s.round table = (t, false) := by
  unfold round
  rw [hget]
  dsimp only
  rw [hcomment, hrun, if_neg Bool.false_ne_true, if_pos hover]

end Run

/-! ### One round -/

variable [Stage α σ]

/-- How an event is given up that a command has left: the skip actions run after all that the
command did, and the stage is told of the fault. -/
structure GivenUpAt (index : Nat) (command : String) (fault : Fault) (t u : Scene α σ) :
    Prop where
  phase : u.phase = .skipped
  outcome : u.outcome = some (.aborted index fault)
  calls : u.calls = t.calls ++ .closeMenus :: t.skipActions.map .triggerAction ++
    [.endEvent (.aborted index fault)]
  reports : u.reports = t.reports ++ [⟨t.id, index, command, fault, .fatal⟩] ++
    (failures α (Stage.perform (.closeMenus : Call α) t.stage) t.skipActions).map
      t.edited.failureReport

lemma GivenUpAt.endings {index : Nat} {command : String} {fault : Fault}
    (h : GivenUpAt index command fault t u) : u.endings = t.endings + 1 := by
  have hactions : (t.skipActions.map (.triggerAction : String → Call α)).countP Call.isEnd = 0 := by
    simp [List.countP_eq_zero, Call.isEnd]
  rw [Scene.endings, h.calls]
  simp [Scene.endings, hactions, Call.isEnd]

/-- What tells the end is as the command has left it. -/
structure KeepsEnd (t u : Scene α σ) : Prop where
  phase : u.phase = t.phase
  outcome : u.outcome = t.outcome
  calls : u.calls = t.calls
  reports : u.reports = t.reports

omit [Stage α σ] in
lemma edited_keepsEnd (s : Scene α σ) : s.KeepsEnd s.edited :=
  ⟨(Event.applyEdits_frame _).phase, (Event.applyEdits_frame _).outcome, rfl, rfl⟩

lemma abort_givenUp (s : Scene α σ) (index : Nat) (command : String) (fault : Fault) :
    GivenUpAt index command fault s (s.edited.abort index command fault) := by
  obtain ⟨hactions, hid⟩ := s.edited_frame
  rw [abort, clearAway_conclude]
  refine ⟨rfl, rfl, ?_, ?_⟩
  · rw [← hactions]
    rfl
  · rw [← hactions, ← hid]
    rfl

lemma round_of_fault {fault : Fault} (h : s.reply? table = some reply)
    (hfault : reply.fault = some fault) :
    s.round table =
      (reply.scene.edited.abort s.pointer (s.working.getD s.pointer) fault, false) := by
  obtain ⟨raw, name, args, m, hget, hcomment, htokens, hresolve, rfl⟩ := of_reply? h
  have hraw : s.working.getD s.pointer = raw := by rw [Working.getD, hget, Option.getD_some]
  rw [hraw]
  exact round_of_isTerminal hget hcomment (runCommand_of_fault htokens hresolve hfault)
    (abort_isTerminal _ _ _ _)

lemma runCommand_of_reply (h : s.reply? table = some reply) (hfault : reply.fault = none) :
    ∃ raw, s.working.get? s.pointer = some raw ∧ s.settings.isComment raw = false ∧
      runCommand table { s with chainRequested := false } s.pointer raw = reply.scene.edited := by
  obtain ⟨raw, name, args, m, hget, hcomment, htokens, hresolve, rfl⟩ := of_reply? h
  exact ⟨raw, hget, hcomment, runCommand_known htokens hresolve hfault⟩

lemma round_of_over (h : s.reply? table = some reply) (hfault : reply.fault = none)
    (hover : reply.scene.isTerminal = true) : s.round table = (reply.scene.edited, false) := by
  obtain ⟨raw, hget, hcomment, hrun⟩ := runCommand_of_reply h hfault
  exact round_of_isTerminal hget hcomment hrun ((edited_isTerminal _).trans hover)

/-! ### Every round of a table -/

/-- A command that does not end the event, or finishes it. -/
inductive EndsFairly (s t : Scene α σ) : Prop
  | goesOn (phase : t.phase = s.phase) (endings : t.endings = s.endings)
  | finishes (phase : t.phase = .finished) (endings : t.endings = s.endings + 1)

/-- No command of the table ends an event in another way than by finishing it once. -/
def Fair (table : CommandTable (Handler α σ)) : Prop :=
  ∀ name m, table.resolve? name = some m → ∀ a (s : Scene α σ), s.isTerminal = false →
    s.EndsFairly (m.2 a s).scene

lemma fair_of_isLawful (ht : Commands.IsLawful table) : Fair table := by
  intro name m hresolve a s hgoes
  rcases ht name m hresolve a s with hobeys | ⟨u, ending, hu, heq⟩
  · exact .goesOn hobeys.footprint.goes.phase_eq hobeys.footprint.endings
  · have hgoes' : u.isTerminal = false := by
      unfold Event.isTerminal at hgoes ⊢
      rwa [hu.phase]
    have hends := finish_ends hgoes' ending
    rw [heq]
    exact .finishes hends.phase (hends.endings.trans (by rw [hu.endings]))

omit [Stage α σ] in
lemma Fair.register {command : String} {handler : Handler α σ} (hfair : Fair table)
    (hhandler : ∀ a (s : Scene α σ), s.isTerminal = false → s.EndsFairly (handler a s).scene) :
    Fair (table.register command handler) := by
  intro name m hresolve
  rcases CommandTable.resolve?_register hresolve with rfl | hbefore
  · exact hhandler
  · exact hfair name m hbefore

/-- The command of the next round ends the event and gives up for all that. -/
def Relapses (table : CommandTable (Handler α σ)) (s : Scene α σ) : Prop :=
  ∃ reply fault, s.reply? table = some reply ∧ reply.fault = some fault ∧
    reply.scene.isTerminal = true

/-- The event goes on, and no end has been told. -/
structure Untold (s : Scene α σ) : Prop extends Calm s where
  phase : s.phase = .running ∨ s.phase = .suspended
  endings : s.endings = 0

/-- What a round leaves of an event that goes on. -/
inductive After (table : CommandTable (Handler α σ)) (s t : Scene α σ) (more : Bool) : Prop
  | goesOn (untold : t.Untold) (fine : ¬ s.Relapses table)
  | ends (stop : more = false) (calm : t.Calm) (ended : t.isTerminal = true)
      (endings : t.endings = 1) (fine : ¬ s.Relapses table)
  | relapses (stop : more = false) (calm : t.Calm) (ended : t.isTerminal = true)
      (endings : t.endings = 2) (relapses : s.Relapses table)

omit [Stage α σ] in
lemma not_relapses (h : s.reply? table = none) : ¬ s.Relapses table := by
  rintro ⟨reply, fault, hreply, -⟩
  rw [h] at hreply
  cases hreply

omit [Stage α σ] in
lemma relapses_iff (h : s.reply? table = some reply) :
    s.Relapses table ↔ reply.fault.isSome ∧ reply.scene.isTerminal = true := by
  constructor
  · rintro ⟨reply', fault, hreply', hfault, hover⟩
    obtain rfl : reply = reply' := Option.some.inj (h.symm.trans hreply')
    exact ⟨Option.isSome_of_eq_some hfault, hover⟩
  · rintro ⟨hsome, hover⟩
    obtain ⟨fault, hfault⟩ := Option.isSome_iff_exists.mp hsome
    exact ⟨reply, fault, h, hfault, hover⟩

/-- A command that has not ended the event leaves the rest of the round to the skip that may have
been asked for. -/
lemma Untold.settle (ht : t.Untold) (hfine : ¬ s.Relapses table) {phase : Phase}
    (hphase : phase = .running ∨ phase = .suspended) {chain more : Bool}
    {r : Scene α σ × Bool} (hr : r =
      if t.isTerminal then (t, false)
      else if t.skipRequested then (t.skip, false)
      else ({ t with phase := phase, chainRequested := chain }, more)) :
    After table s r.1 r.2 := by
  have hgoes : t.isTerminal = false := isTerminal_of_phase ht.phase
  rw [hr, if_neg (by simp [hgoes])]
  split
  · obtain ⟨o, -, ho⟩ := skip_ends ht.toCalm hgoes
    exact .ends rfl (ho.calm ht.toCalm) ho.isTerminal (by rw [ho.endings, ht.endings]) hfine
  · exact .goesOn ⟨⟨ht.dispatching, ht.edits, ht.pointer⟩, hphase, ht.endings⟩ hfine

lemma round_after_of_untold {raw : String} (hget : s.working.get? s.pointer = some raw)
    (hcomment : s.settings.isComment raw = false) (hfine : ¬ s.Relapses table)
    (hrun : (runCommand table { s with chainRequested := false } s.pointer raw).Untold) :
    After table s (s.round table).1 (s.round table).2 := by
  unfold round
  rw [hget]
  dsimp only
  rw [hcomment, if_neg Bool.false_ne_true]
  exact hrun.settle hfine ((em _).imp (if_pos ·) (if_neg ·)) rfl

/-- A text that calls no command is passed over. -/
lemma Untold.run_of_no_reply (hs : s.Untold) {raw : String}
    (hget : s.working.get? s.pointer = some raw) (hcomment : s.settings.isComment raw = false)
    (hnone : s.reply? table = none) :
    (runCommand table { s with chainRequested := false } s.pointer raw).Untold := by
  have hpassed : ∀ t : Scene α σ, t.phase = s.phase → t.endings = s.endings → t.edits = s.edits →
      (t.advance 1).atEase.Untold := fun t hphase hendings hedits =>
    ⟨⟨rfl, hedits.trans hs.edits, Nat.min_le_right _ _⟩, hphase ▸ hs.phase,
      hendings.trans hs.endings⟩
  have hrun := runCommand_eq table { s with chainRequested := false } raw
  rw [hrun]
  rcases htokens : Script.tokens? raw with _ | _ | ⟨name, args⟩
  · exact hpassed _ rfl rfl rfl
  · exact hpassed _ rfl rfl rfl
  · dsimp only
    cases hresolve : table.resolve? name with
    | none => exact hpassed _ rfl rfl rfl
    | some m => simp [reply?, hget, hcomment, htokens, hresolve] at hnone

lemma Untold.round_of_reply (hs : s.Untold) (hreply : s.reply? table = some reply)
    (hfairly : s.EndsFairly reply.scene) : After table s (s.round table).1 (s.round table).2 := by
  have hover : reply.scene.phase = .finished → reply.scene.isTerminal = true := fun h =>
    (isTerminal_eq_true_iff _).mpr (.inl h)
  cases hfault : reply.fault with
  | some fault =>
    -- The fault tells one end, on top of the one that the command may have told.
    obtain ⟨o, -, ho⟩ :=
      abort_ends reply.scene.edited s.pointer (s.working.getD s.pointer) fault
    have hendings : _ = reply.scene.endings + 1 := ho.endings
    have hcalm := ho.calm (edited_calm _)
    rw [round_of_fault hreply hfault]
    cases hfairly with
    | goesOn phase endings =>
      have hgoes : reply.scene.isTerminal = false := isTerminal_of_phase (phase ▸ hs.phase)
      exact .ends rfl hcalm ho.isTerminal (by rw [hendings, endings, hs.endings])
        (by simp [relapses_iff hreply, hgoes])
    | finishes phase endings =>
      exact .relapses rfl hcalm ho.isTerminal (by rw [hendings, endings, hs.endings])
        ((relapses_iff hreply).mpr ⟨Option.isSome_of_eq_some hfault, hover phase⟩)
  | none =>
    have hfine : ¬ s.Relapses table := by simp [relapses_iff hreply, hfault]
    cases hfairly with
    | goesOn phase endings =>
      obtain ⟨raw, hget, hcomment, hrun⟩ := runCommand_of_reply hreply hfault
      refine round_after_of_untold hget hcomment hfine ?_
      rw [hrun]
      have hphase : reply.scene.edited.phase = s.phase :=
        (Event.applyEdits_frame _).phase.trans phase
      exact ⟨edited_calm _, hphase ▸ hs.phase, endings.trans hs.endings⟩
    | finishes phase endings =>
      rw [round_of_over hreply hfault (hover phase)]
      exact .ends rfl (edited_calm _) ((edited_isTerminal _).trans (hover phase))
        (endings.trans (by rw [hs.endings])) hfine

theorem round_after (hfair : Fair table) (hs : s.Untold) :
    After table s (s.round table).1 (s.round table).2 := by
  have hgoes : s.isTerminal = false := isTerminal_of_phase hs.phase
  cases hget : s.working.get? s.pointer with
  | none =>
    have hends := finish_ends hgoes .plain
    unfold round
    rw [hget]
    exact .ends rfl (hends.calm hs.toCalm) hends.isTerminal (by rw [hends.endings, hs.endings])
      (not_relapses (by simp [reply?, hget]))
  | some raw =>
    cases hcomment : s.settings.isComment raw with
    | true =>
      unfold round
      rw [hget]
      dsimp only
      rw [if_pos hcomment]
      exact .goesOn ⟨⟨hs.dispatching, hs.edits, Nat.min_le_right _ _⟩, hs.phase, hs.endings⟩
        (not_relapses (by simp [reply?, hget, hcomment]))
    | false =>
      cases hreply : s.reply? table with
      | none =>
        exact round_after_of_untold hget hcomment (not_relapses hreply)
          (hs.run_of_no_reply hget hcomment hreply)
      | some reply =>
        obtain ⟨-, name, args, m, -, -, -, hresolve, heq⟩ := of_reply? hreply
        have hfairly := hfair name m hresolve ⟨name :: args⟩
          { s with chainRequested := false }.underWay hgoes
        rw [← heq] at hfairly
        refine hs.round_of_reply hreply ?_
        cases hfairly with
        | goesOn phase endings => exact .goesOn phase endings
        | finishes phase endings => exact .finishes phase endings

/-! ### Every move -/

/-- Between two ticks no end has been told of an event that goes on, and at most two of one that is
over. -/
structure Counted (s : Scene α σ) : Prop extends AtRest s where
  goes : s.isTerminal = false → s.endings = 0
  told : s.isTerminal = true → s.endings = 1 ∨ s.endings = 2

omit [Stage α σ] in
lemma Untold.counted (hs : s.Untold) : s.Counted where
  toCalm := hs.toCalm
  fresh hfresh := absurd hfresh (ne_uninitialized_of_phase hs.phase)
  goes _ := hs.endings
  told hover := by
    rw [isTerminal_of_phase hs.phase] at hover
    cases hover

omit [Stage α σ] in
lemma counted_of_over (hcalm : s.Calm) (hover : s.isTerminal = true)
    (hendings : s.endings = 1 ∨ s.endings = 2) : s.Counted where
  toCalm := hcalm
  fresh hfresh := by
    rcases (isTerminal_eq_true_iff s).mp hover with h | h <;> rw [hfresh] at h <;> cases h
  goes hgoes := by
    rw [hover] at hgoes
    cases hgoes
  told _ := hendings

lemma Ends.counted {o : Outcome} (h : s.Ends t o) (hcalm : s.Calm) (hzero : s.endings = 0) :
    t.Counted ∧ t.endings = 1 := by
  have hone : t.endings = 1 := by rw [h.endings, hzero]
  exact ⟨counted_of_over (h.calm hcalm) h.isTerminal (.inl hone), hone⟩

lemma Untold.dispatch (hfair : Fair table) (hs : s.Untold) (fuel : Nat) :
    (s.dispatch table fuel).Counted ∧ ((s.dispatch table fuel).endings = 2 ↔
      ∃ e ∈ s.roundsFrom table fuel, e.Relapses table) := by
  induction fuel generalizing s with
  | zero => exact ⟨hs.counted, by simp [Scene.dispatch, roundsFrom, hs.endings]⟩
  | succ fuel ih =>
    rw [dispatch_succ, roundsFrom]
    cases round_after hfair hs with
    | goesOn untold fine =>
      cases hmore : (s.round table).2 with
      | true => simpa [fine] using ih untold
      | false => simpa [fine, untold.endings] using untold.counted
    | ends stop calm ended endings fine =>
      simpa [stop, fine, endings] using counted_of_over calm ended (.inl endings)
    | relapses stop calm ended endings relapses =>
      simpa [stop, relapses, endings] using counted_of_over calm ended (.inr endings)

omit [Stage α σ] in
lemma Untouched.counted (h : s.Untouched t) (hs : s.Counted) :
    t.Counted ∧ t.endings = s.endings := by
  have hendings : t.endings = s.endings := congrArg (List.countP Call.isEnd) h.calls
  have hover := h.isTerminal
  refine ⟨⟨⟨⟨?_, ?_, ?_⟩, ?_⟩, ?_, ?_⟩, hendings⟩
  · rw [h.event]
    exact hs.dispatching
  · rw [h.event]
    exact hs.edits
  · rw [h.event]
    exact hs.pointer
  · rw [h.event]
    exact hs.fresh
  · rw [hover, hendings]
    exact hs.goes
  · rw [hover, hendings]
    exact hs.told

variable [Scalar α]

lemma Counted.tick (hfair : Fair table) (hs : s.Counted) :
    (s.tick table).Counted ∧ ((s.tick table).endings = 2 ↔
      s.endings = 2 ∨ ∃ e ∈ s.tickRounds table, e.Relapses table) := by
  rw [tick_eq, tickRounds]
  rcases overture_cases hs.toAtRest with ⟨-, heq⟩ | ⟨hgoes, hstop, o, -, ho⟩ | ⟨hgoes, -, ho⟩
  · rw [heq]
    exact ⟨hs, by simp⟩
  · obtain ⟨hcounted, hone⟩ := ho.counted hs.toCalm (hs.goes hgoes)
    rw [hstop]
    exact ⟨hcounted, by simp [hone, hs.goes hgoes]⟩
  · have huntold : s.overture.1.Untold :=
      ⟨ho.calm, ho.phase, ho.endings.trans (hs.goes hgoes)⟩
    cases hmore : s.overture.2 with
    | true => simpa [hs.goes hgoes] using huntold.dispatch hfair dispatchLimit
    | false => exact ⟨huntold.counted, by simp [huntold.endings, hs.goes hgoes]⟩

lemma Counted.apply (hfair : Fair table) (hs : s.Counted) (move : HostMove α σ) :
    (move.apply table s).Counted ∧ ((move.apply table s).endings = 2 ↔
      s.endings = 2 ∨ ∃ e ∈ move.rounds table s, e.Relapses table) := by
  by_cases htick : move = .tick
  · subst htick
    exact hs.tick hfair
  · obtain ⟨hnone, hmove⟩ := apply_of_ne_tick hs.toCalm htick table
    rw [hnone]
    rcases hmove with hsame | ⟨hgoes, o, ho, -⟩
    · obtain ⟨hcounted, hendings⟩ := hsame.counted hs
      exact ⟨hcounted, by simp [hendings]⟩
    · obtain ⟨hcounted, hone⟩ := ho.counted hs.toCalm (hs.goes hgoes)
      exact ⟨hcounted, by simp [hone, hs.goes hgoes]⟩

/-- In every run of a fair table, an end is told twice exactly where a command has ended the event
and given up. -/
theorem Counted.play (hfair : Fair table) (hs : s.Counted) (moves : List (HostMove α σ)) :
    (s.play table moves).Counted ∧ ((s.play table moves).endings = 2 ↔
      s.endings = 2 ∨ ∃ e ∈ s.rounds table moves, e.Relapses table) := by
  induction moves generalizing s with
  | nil => exact ⟨hs, by simp [rounds]⟩
  | cons move rest ih =>
    obtain ⟨hnext, hmove⟩ := hs.apply hfair move
    obtain ⟨hlast, hrest⟩ := ih hnext
    refine ⟨hlast, ?_⟩
    rw [play_cons, rounds, hrest, hmove, or_assoc]
    simp [or_and_right, exists_or]

/-! ### Tables of a host -/

/-- The built-in commands and those of a host. -/
def hosted (own : List (String × Handler α σ)) : CommandTable (Handler α σ) :=
  own.foldl (fun t c => t.register c.1 c.2) Commands.table

lemma hosted_fair {own : List (String × Handler α σ)}
    (hown : ∀ c ∈ own, ∀ a (s : Scene α σ), s.isTerminal = false → s.EndsFairly (c.2 a s).scene) :
    Fair (hosted own) := by
  refine List.foldlRecOn (motive := Fair) own _ (fair_of_isLawful Commands.table_isLawful) ?_
  exact fun t hfair c hc => hfair.register (hown c hc)

end Scene

open Scene

variable [Scalar α] [Stage α σ]

/-- **Nothing tells an end twice but a command that gives up after it.** If the commands of a host
end an event by finishing it, if at all, then the stage is told of the end at most twice in every
run, and twice exactly if a command has finished the event and given up. -/
theorem second_end_is_of_fault {own : List (String × Handler α σ)}
    (hown : ∀ c ∈ own, ∀ a (s : Scene α σ), s.isTerminal = false → s.EndsFairly (c.2 a s).scene)
    (p : Premiere α σ) (moves : List (HostMove α σ)) :
    (p.scene.play (hosted own) moves).endings ≤ 2 ∧
    ((p.scene.play (hosted own) moves).endings = 2 ↔
      ∃ e ∈ p.scene.rounds (hosted own) moves, e.Relapses (hosted own)) := by
  have hstart : p.scene.Counted := ⟨p.atRest, fun _ => rfl, nofun⟩
  obtain ⟨hcounted, htwice⟩ := hstart.play (hosted_fair hown) moves
  refine ⟨?_, htwice.trans (or_iff_right (by simp [Scene.endings, Premiere.scene]))⟩
  cases hover : (p.scene.play (hosted own) moves).isTerminal with
  | false => simp [hcounted.goes hover]
  | true => rcases hcounted.told hover with h | h <;> simp [h]

/-- **A fault overrides the end.** Whatever a command of any table has left in its round: if it
gives up, the tick clears the event away, with the fault for its outcome and after the skip
actions, and tells the stage of this end on top of any that the command has made. If it has ended
the event and does not give up, the tick leaves the end alone. -/
theorem fault_overrides_end {table : CommandTable (Handler α σ)} (s : Scene α σ) :
    ∀ e ∈ s.tickRounds table, ∀ reply, e.reply? table = some reply →
      (∀ fault, reply.fault = some fault →
        GivenUpAt e.pointer (e.working.getD e.pointer) fault reply.scene (s.tick table) ∧
          (s.tick table).endings = reply.scene.endings + 1) ∧
      (reply.fault = none → reply.scene.isTerminal = true →
        reply.scene.KeepsEnd (s.tick table)) := by
  intro e he reply hreply
  refine ⟨fun fault hfault => ?_, fun hfault hover => ?_⟩
  · have hround := round_of_fault hreply hfault
    rw [(last_of_mem_tickRounds he (by rw [hround])).2, hround]
    have hgiven := abort_givenUp reply.scene e.pointer (e.working.getD e.pointer) fault
    exact ⟨hgiven, hgiven.endings⟩
  · have hround := round_of_over hreply hfault hover
    rw [(last_of_mem_tickRounds he (by rw [hround])).2, hround]
    exact edited_keepsEnd _

/-- Ends the event, and gives up if it is told to. -/
def bow : Handler α σ := fun a s =>
  ⟨s.finish .plain, if a.size = 1 then none else some (.gaveUp "the curtain is stuck")⟩

/-- The table of a host that has them bow. -/
def bowing : CommandTable (Handler Float32 Rehearsal) := hosted [("bow", bow)]

/-- An event that takes its bow badly in its second tick. -/
def stuckCurtain : Premiere Float32 Rehearsal := rehearsed ["setSkipActions cleanup", "bow badly"]

lemma stuckCurtain_relapses {s : Scene Float32 Rehearsal}
    (hs : s = stuckCurtain.scene.play bowing [.tick]) :
    ∃ e ∈ s.tickRounds bowing, ∃ reply fault, e.reply? bowing = some reply ∧
      reply.fault = some fault ∧ e.endings = 0 ∧ reply.scene.endings = 1 ∧
      reply.scene.outcome = some (.finished .plain) := by
  have hrun : (s.tickRounds bowing).any (fun e => (e.reply? bowing).any fun reply =>
      decide (reply.fault = some (.gaveUp "the curtain is stuck") ∧ e.endings = 0 ∧
        reply.scene.endings = 1 ∧ reply.scene.outcome = some (.finished .plain))) = true := by
    rw [hs, bowing, hosted, Commands.table_eq_spelled]
    decide +kernel
  obtain ⟨e, he, hany⟩ := List.any_eq_true.mp hrun
  obtain ⟨reply, hreply, hdecided⟩ := (Option.any_eq_true _ _).mp hany
  obtain ⟨hfault, hends⟩ := of_decide_eq_true hdecided
  exact ⟨e, he, reply, _, hreply, hfault, hends⟩

/-- The stage is told of the bow and then of the fault. -/
theorem stuck_bow_is_overridden : ∃ s, s = stuckCurtain.scene.play bowing [.tick] ∧
    ∃ e ∈ s.tickRounds bowing, ∃ reply fault, e.reply? bowing = some reply ∧
      reply.fault = some fault ∧ reply.scene.outcome = some (.finished .plain) ∧
      GivenUpAt e.pointer (e.working.getD e.pointer) fault reply.scene (s.tick bowing) ∧
      (s.tick bowing).endings = 2 := by
  obtain ⟨s, hs⟩ : ∃ s, s = stuckCurtain.scene.play bowing [.tick] := ⟨_, rfl⟩
  obtain ⟨e, he, reply, fault, hreply, hfault, -, hone, houtcome⟩ := stuckCurtain_relapses hs
  obtain ⟨hgiven, hendings⟩ := (fault_overrides_end s e he reply hreply).1 fault hfault
  rw [hone] at hendings
  exact ⟨s, hs, e, he, reply, fault, hreply, hfault, houtcome, hgiven, hendings⟩

/-- It is not the case that the end stands which a command has made that gives up then. -/
theorem stuck_bow_ends_twice :
    ¬ ∀ (table : CommandTable (Handler Float32 Rehearsal)) (p : Premiere Float32 Rehearsal)
      (before : List (HostMove Float32 Rehearsal)) (s : Scene Float32 Rehearsal),
      s = p.scene.play table before → ∀ e ∈ s.tickRounds table, ∀ reply fault ending,
        e.reply? table = some reply → reply.fault = some fault →
        reply.scene.endings = e.endings + 1 → reply.scene.outcome = some (.finished ending) →
        (s.tick table).phase = .finished ∧ (s.tick table).outcome = some (.finished ending) ∧
          (s.tick table).endings = 1 := by
  intro h
  obtain ⟨s, hs⟩ : ∃ s, s = stuckCurtain.scene.play bowing [.tick] := ⟨_, rfl⟩
  obtain ⟨e, he, reply, fault, hreply, hfault, hnone, hone, houtcome⟩ := stuckCurtain_relapses hs
  obtain ⟨hphase, -⟩ := h bowing stuckCurtain _ s hs e he reply fault .plain hreply hfault
    (by rw [hone, hnone]) houtcome
  have hround := round_of_fault hreply hfault
  have hgiven := abort_givenUp reply.scene e.pointer (e.working.getD e.pointer) fault
  rw [(last_of_mem_tickRounds he (by rw [hround])).2, hround, hgiven.phase] at hphase
  cases hphase

end Cutscene
