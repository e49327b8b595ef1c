import Cutscene.Proofs.Reading.Table
import Cutscene.Proofs.Run.Release

/-!
# Nothing Is Fatal after the Header

A command never gives up, so an event is given up for one reason only: its header cannot be read.
That comes to light in the first tick, before any command was run, and is reported once.
-/

namespace Cutscene

open Scene Commands

variable {α σ : Type}

namespace Scene

/-- The reports of faults that ended the event. -/
def fatals (s : Scene α σ) : List Report := s.reports.filter (·.severity = .fatal)

/-- Nothing fatal is reported, and the event is not given up. -/
structure Mild (s t : Scene α σ) : Prop where
  fatals : t.fatals = s.fatals
  aborted : ∀ i f, t.outcome = some (.aborted i f) → s.outcome = some (.aborted i f)

namespace Mild

variable {s t u : Scene α σ}

lemma refl (s : Scene α σ) : s.Mild s := ⟨rfl, fun _ _ => id⟩

lemma trans (h : s.Mild t) (h' : t.Mild u) : s.Mild u :=
  ⟨h'.fatals.trans h.fatals, fun i f => h.aborted i f ∘ h'.aborted i f⟩

lemma of_eq (hr : t.reports = s.reports) (ho : t.outcome = s.outcome) : s.Mild t where
  fatals := congrArg (List.filter _) hr
  aborted := by simp [ho]

lemma of_append {l : List Report} (hr : t.reports = s.reports ++ l)
    (hl : ∀ r ∈ l, r.severity ≠ .fatal)
    (ho : ∀ i f, t.outcome = some (.aborted i f) → s.outcome = some (.aborted i f)) :
    s.Mild t where
  fatals := by
    have hnone : l.filter (·.severity = .fatal) = [] :=
      List.filter_eq_nil_iff.mpr fun r hr => by simpa using hl r hr
    rw [Scene.fatals, hr, List.filter_append, hnone, List.append_nil]
    rfl
  aborted := ho

end Mild

/-! ### What is never fatal -/

variable [Stage α σ]

lemma conclude_mild (s : Scene α σ) (phase : Phase) {o : Outcome}
    (ho : ∀ i f, o ≠ .aborted i f) : s.Mild (s.conclude phase o) where
  fatals := rfl
  aborted i f h := absurd (Option.some.inj h) (ho i f)

lemma finish_mild (s : Scene α σ) (ending : Ending) : s.Mild (s.finish ending) := by
  have hmild : ∀ u : Scene α σ, u.Mild (u.conclude .finished (.finished ending)) :=
    fun u => conclude_mild u _ (by simp)
  unfold finish
  split
  · exact .refl s
  · refine Mild.trans ?_ (hmild _)
    exact .of_eq rfl rfl

lemma runSkipAction_mild (s : Scene α σ) (action : String) : s.Mild (s.runSkipAction action) := by
  unfold runSkipAction
  dsimp only
  split
  · exact .of_eq rfl rfl
  · exact .of_append rfl (by simp) fun _ _ => id

/-- What is cleared away is mild, whatever outcome is given then. -/
lemma clearAway_mild (s : Scene α σ) (given : Option Outcome) :
    ∃ u, s.Mild u ∧
      s.clearAway given = u.conclude .skipped (given.getD (.skipped u.finalEnding)) := by
  refine ⟨_, ?_, rfl⟩
  refine List.foldlRecOn (motive := fun t => s.Mild t) s.skipActions _ (.of_eq rfl rfl) ?_
  exact fun t h action _ => h.trans (runSkipAction_mild t action)

lemma skip_mild (s : Scene α σ) : s.Mild s.skip := by
  unfold skip
  split
  · exact .refl s
  · split
    · exact .of_eq rfl rfl
    · obtain ⟨u, hu, heq⟩ := clearAway_mild s none
      rw [heq]
      exact hu.trans (conclude_mild u _ (by simp))

/-- A command reports what can be recovered from and does not give the event up. -/
lemma handler_mild [Scalar α] {name : String} {m : String × Handler α σ}
    (h : table.resolve? name = some m) (a : Args) (s : Scene α σ) : s.Mild (m.2 a s).scene := by
  obtain ⟨faults, hreports⟩ := handler_notes h a s
  refine .of_append hreports ?_ fun i f hout => ?_
  · intro r hr
    obtain ⟨fault, -, rfl⟩ := List.mem_map.mp hr
    simp [noteOf]
  · rcases table_isLawful name m h a s with hobeys | ⟨u, ending, hu, heq⟩
    · rwa [← hobeys.footprint.goes.outcome_eq]
    · rw [heq] at hout
      rw [← hu.outcome]
      exact (finish_mild u ending).aborted i f hout

variable [Scalar α]

lemma runCommand_mild (s : Scene α σ) (raw : String) :
    s.Mild (runCommand table s s.pointer raw) := by
  have hnote : ∀ {r : Report}, r.severity ≠ .fatal → ∀ q ∈ [r], q.severity ≠ .fatal := by
    rintro r hr q hq
    rwa [List.mem_singleton.mp hq]
  rcases htokens : Script.tokens? raw with _ | _ | ⟨name, args⟩
  · rw [runCommand_unreadable htokens]
    exact .of_append rfl (hnote nofun) fun _ _ => id
  · rw [runCommand_eq, htokens]
    exact .of_eq rfl rfl
  · cases hname : (table : CommandTable (Handler α σ)).resolve? name with
    | none =>
      rw [runCommand_unknown htokens hname]
      exact .of_append rfl (hnote nofun) fun _ _ => id
    | some m =>
      rw [runCommand_known htokens hname (handler_fault hname _ _)]
      have hstart : s.Mild s.underWay := .of_eq rfl rfl
      have hmild := handler_mild hname ⟨name :: args⟩ s.underWay
      exact (hstart.trans hmild).trans (.of_eq rfl (Event.applyEdits_frame _).outcome)

lemma round_mild (s : Scene α σ) : s.Mild (s.round table).1 := by
  unfold round
  dsimp only
  split
  · exact finish_mild s .plain
  · rename_i raw _
    split
    · exact .of_eq rfl rfl
    · have hrun := runCommand_mild { s with chainRequested := false } raw
      have hstart : s.Mild { s with chainRequested := false } := .of_eq rfl rfl
      generalize runCommand table { s with chainRequested := false } s.pointer raw = t at hrun ⊢
      have ht := hstart.trans hrun
      split
      · exact ht
      · split
        · exact ht.trans (skip_mild t)
        · exact ht.trans (.of_eq rfl rfl)

lemma dispatch_mild (fuel : Nat) (s : Scene α σ) : s.Mild (s.dispatch table fuel) := by
  induction fuel generalizing s with
  | zero => exact .refl s
  | succ fuel ih =>
    rw [dispatch_succ]
    split
    · exact (round_mild s).trans (ih _)
    · exact round_mild s

/-! ### The header -/

variable {s t u : Scene α σ}

omit [Scalar α] in
lemma openMusic_mild (s : Scene α σ) (header : String) : s.Mild (s.openMusic header) := by
  unfold openMusic
  dsimp only
  split_ifs <;> exact .of_eq rfl rfl

omit [Scalar α] in
lemma openCamera_mild (s : Scene α σ) (header : String) : s.Mild (s.openCamera header).1 := by
  unfold openCamera
  split <;> exact .of_eq rfl rfl

omit [Scalar α] in
lemma Mild.music (h : s.Mild u) (header : Option String) :
    s.Mild (match header with | some music => u.openMusic music | none => u) := by
  cases header with
  | none => exact h
  | some music => exact h.trans (openMusic_mild u music)

omit [Scalar α] in
lemma Mild.camera (h : s.Mild u) (header : Option String) :
    s.Mild (match header with | some camera => u.openCamera camera | none => (u, none)).1 := by
  cases header with
  | none => exact h
  | some camera => exact h.trans (openCamera_mild u camera)

lemma Mild.layout (h : s.Mild u) (header : Option String) :
    s.Mild (match header with | some layout => u.openLayout layout | none => (u, none)).1 := by
  cases header with
  | none => exact h
  | some layout =>
    obtain ⟨cast, heq⟩ := openLayout_eq u layout
    exact h.trans (heq ▸ .of_eq rfl rfl)

lemma openHeader_mild (s : Scene α σ) : s.Mild s.openHeader.1 := by
  have hcast : s.Mild { s with cast := .empty (Stage.localPlayer α s.stage) } := .of_eq rfl rfl
  unfold openHeader
  dsimp only
  generalize s.working.commands.take (min s.settings.headerLength 3) = header
  have hmusic := hcast.music header[0]?
  have hcamera := hmusic.camera header[1]?
  have hlayout := hcamera.layout header[2]?
  split
  · exact .refl s
  · split
    · exact hcamera
    · split
      · exact hlayout
      · exact hlayout.trans (.of_eq rfl rfl)

lemma resume_mild (s : Scene α σ) : s.Mild s.resume.1 := by
  unfold resume
  dsimp only
  split_ifs <;> exact .of_eq rfl rfl

/-! ### The one fatal report -/

/-- The header is read, and it is at fault: the event is given up. -/
structure Refused (s t : Scene α σ) (cause : HeaderFault) : Prop where
  read : s.openHeader.2 = some cause
  report : ∃ r, t.fatals = s.fatals ++ [r] ∧ r.fault = .header cause ∧ r.index = cause.index
  outcome : t.outcome = some (.aborted cause.index (.header cause))
  ended : t.isTerminal = true

lemma abort_refused {cause : HeaderFault} {command : String}
    (hread : s.openHeader = (u, some cause)) :
    Refused s (u.abort cause.index command (.header cause)) cause := by
  have hu : s.Mild u := by
    have h := openHeader_mild s
    rwa [hread] at h
  obtain ⟨v, hv, heq⟩ := clearAway_mild
    (u.reportAt cause.index command .fatal (.header cause))
    (some (.aborted cause.index (.header cause)))
  unfold abort
  rw [heq]
  refine ⟨by rw [hread], ⟨⟨u.id, cause.index, command, .header cause, .fatal⟩, ?_, rfl, rfl⟩,
    rfl, rfl⟩
  refine (show _ = v.fatals from rfl).trans (hv.fatals.trans ?_)
  rw [← hu.fatals]
  simp [fatals, reportAt]

lemma openEvent_mild (s : Scene α σ) :
    (s.openEvent.2 = none ∧ s.Mild s.openEvent.1) ∨
      ∃ u cause, s.phase = .uninitialized ∧ s.openHeader = (u, some cause) ∧
        s.openEvent = (u, some cause) := by
  unfold openEvent
  split
  · exact .inl ⟨rfl, .refl s⟩
  · rename_i hfresh
    cases hswap : s.flags.forked || s.flags.switched with
    | true => exact .inl ⟨rfl, .of_eq rfl rfl⟩
    | false =>
      have hmild := openHeader_mild s
      rcases hopen : s.openHeader with ⟨u, _ | cause⟩
      · rw [hopen] at hmild
        exact .inl ⟨rfl, hmild.trans (.of_eq rfl rfl)⟩
      · exact .inr ⟨u, cause, not_not.mp hfresh, rfl, rfl⟩

/-- Ahead of its commands a tick reports nothing fatal, unless the header is at fault. -/
lemma overture_mild (s : Scene α σ) : s.Mild s.overture.1 ∨
    s.phase = .uninitialized ∧ s.overture.2 = false ∧ ∃ cause, Refused s s.overture.1 cause := by
  unfold overture
  split
  · exact .inl (.refl s)
  · split
    · exact .inl (skip_mild s)
    · rcases openEvent_mild s with ⟨hnone, hmild⟩ | ⟨u, cause, hfresh, hread, heq⟩
      · rcases hopen : s.openEvent with ⟨u, fault⟩
        rw [hopen] at hnone hmild
        obtain rfl : fault = none := hnone
        exact .inl (hmild.trans (resume_mild u))
      · rw [heq]
        exact .inr ⟨hfresh, rfl, cause, abort_refused hread⟩

lemma apply_mild (s : Scene α σ) {move : HostMove α σ} (hmove : move ≠ .tick) :
    s.Mild (move.apply table s) := by
  cases move with
  | tick => exact absurd rfl hmove
  | skip => exact skip_mild s
  | requestSkip => exact .of_eq rfl rfl
  | finish ending => exact finish_mild s ending
  | surround stage library elapsed => exact .of_eq rfl rfl

lemma tick_mild (s : Scene α σ) : s.Mild (s.tick table) ∨
    s.phase = .uninitialized ∧ s.tickRounds table = [] ∧
      ∃ cause, Refused s (s.tick table) cause := by
  rw [tick_eq, tickRounds]
  rcases overture_mild s with hmild | ⟨hfresh, hstop, hrefused⟩
  · refine .inl ?_
    split
    · exact hmild.trans (dispatch_mild _ _)
    · exact hmild
  · rw [hstop]
    exact .inr ⟨hfresh, rfl, hrefused⟩

/-! ### Runs -/

/-- An event that has begun does not begin again. -/
lemma begun_lasting : Law.Lasting (fun s : Scene α σ => s.phase ≠ .uninitialized) where
  ends {s t o} _ _ _ hend := by
    rw [hend.phase]
    cases o <;> simp [Outcome.phase]
  opening _ _ _ h := ne_uninitialized_of_phase h.phase
  onward _ _ h := ne_uninitialized_of_phase h.phase
  requestSkip _ := id
  surround _ _ _ _ := id

/-- The first tick begins the event, or it is over by then. -/
lemma begun_tick (hs : s.AtRest) : (s.tick table).phase ≠ .uninitialized := by
  have hopen : s.overture.1.phase ≠ .uninitialized := by
    rcases overture_cases hs with ⟨hover, heq⟩ | ⟨-, -, o, -, ho⟩ | ⟨-, -, ho⟩
    · rw [heq]
      rcases (isTerminal_eq_true_iff s).mp hover with h | h <;> simp [h]
    · rw [ho.phase]
      cases o <;> simp [Outcome.phase]
    · exact ne_uninitialized_of_phase ho.phase
  rw [tick_eq]
  cases hmore : s.overture.2 with
  | false => exact hopen
  | true =>
    exact (begun_lasting.toLaw.keptByTick.dispatch dispatchLimit ⟨hs.work hmore, hopen⟩).1.2

/-- Once the event has begun, nothing is fatal any more. -/
lemma play_mild (hs : s.AtRest) (hbegun : s.phase ≠ .uninitialized)
    (moves : List (HostMove α σ)) : s.Mild (s.play table moves) := by
  induction moves generalizing s with
  | nil => exact .refl s
  | cons move rest ih =>
    have hnext := (begun_lasting.kept.apply ⟨hs, hbegun⟩ move).1
    refine Mild.trans ?_ (ih hnext.1 hnext.2)
    by_cases htick : move = .tick
    · subst htick
      exact (tick_mild s).resolve_right fun h => hbegun h.1
    · exact apply_mild s htick

/-- Without a tick nothing is fatal, and no command is run. -/
lemma play_of_no_tick {moves : List (HostMove α σ)} (h : .tick ∉ moves) (s : Scene α σ) :
    s.Mild (s.play table moves) ∧ s.rounds table moves = [] := by
  induction moves generalizing s with
  | nil => exact ⟨.refl s, rfl⟩
  | cons move rest ih =>
    obtain ⟨hmove, hrest⟩ := not_or.mp (mt List.mem_cons.mpr h)
    obtain ⟨hmild, hrounds⟩ := ih hrest (move.apply table s)
    refine ⟨(apply_mild s (Ne.symm hmove)).trans hmild, ?_⟩
    rw [rounds, hrounds, List.append_nil]
    cases move with
    | tick => exact absurd rfl hmove
    | skip | requestSkip | finish | surround => rfl

/-- The event was given up for its header, in the first of its ticks and before any round. -/
structure GivenUp (s : Scene α σ) (moves : List (HostMove α σ)) (cause : HeaderFault) : Prop where
  first : ∃ before after, moves = before ++ .tick :: after ∧ .tick ∉ before ∧
    (s.play table before).openHeader.2 = some cause
  report : ∃ r, (s.play table moves).fatals = [r] ∧ r.fault = .header cause ∧
    r.index = cause.index ∧ r.index ≤ 2
  outcome : (s.play table moves).outcome = some (.aborted cause.index (.header cause))
  unrun : s.rounds table moves = []

end Scene

lemma HeaderFault.index_le (cause : HeaderFault) : cause.index ≤ 2 := by
  cases cause <;> simp [index]

/-- **Nothing is fatal but the header.** No command ever gives up. A run has no fatal report and is
not given up, or its only fatal report is that of a header that cannot be read, made in the first
tick before any command was run. -/
theorem only_header_is_fatal [Scalar α] [Stage α σ] :
    (∀ name m, (table : CommandTable (Handler α σ)).resolve? name = some m →
      ∀ a s, (m.2 a s).fault = none) ∧
    ∀ (p : Premiere α σ) (moves : List (HostMove α σ)),
      ((p.scene.play table moves).fatals = [] ∧
        ∀ i f, (p.scene.play table moves).outcome ≠ some (.aborted i f)) ∨
      ∃ cause, p.scene.GivenUp moves cause := by
  refine ⟨fun name m h => handler_fault h, fun p moves => ?_⟩
  have hmild : ∀ {t : Scene α σ}, p.scene.Mild t →
      t.fatals = [] ∧ ∀ i f, t.outcome ≠ some (.aborted i f) := by
    intro t h
    exact ⟨h.fatals, fun i f hout => nomatch h.aborted i f hout⟩
  by_cases htick : .tick ∈ moves
  · obtain ⟨before, after, rfl, hfirst⟩ := List.eq_append_cons_of_mem htick
    obtain ⟨hstart, hnone⟩ := play_of_no_tick hfirst p.scene
    have hrest : (p.scene.play table before).AtRest := atRest_play p.atRest before
    have hplay : p.scene.play table (before ++ .tick :: after) =
        ((p.scene.play table before).tick table).play table after := play_append ..
    rcases tick_mild (p.scene.play table before) with hnext | ⟨-, hunrun, cause, hrefused⟩
    · rw [hplay]
      exact .inl (hmild ((hstart.trans hnext).trans
        (play_mild (hrest.apply .tick) (begun_tick hrest) after)))
    · have hsame : ((p.scene.play table before).tick table).Untouched
          (((p.scene.play table before).tick table).play table after) :=
        (play_of_isTerminal hrefused.ended after).1
      have hlater : ((p.scene.play table before).tick table).rounds table after = [] :=
        (play_of_isTerminal hrefused.ended after).2.1
      obtain ⟨r, hfatals, hfault, hindex⟩ := hrefused.report
      refine .inr ⟨cause, ⟨before, after, rfl, hfirst, hrefused.read⟩, ⟨r, ?_, hfault, hindex, ?_⟩,
        ?_, ?_⟩
      · rw [hplay, fatals, hsame.reports]
        exact hfatals.trans (congrArg (· ++ [r]) hstart.fatals)
      · rw [hindex]
        exact cause.index_le
      · rw [hplay, hsame.event]
        exact hrefused.outcome
      · rw [rounds_append, hnone, rounds]
        exact congrArg₂ (· ++ ·) hunrun hlater
  · exact .inl (hmild (play_of_no_tick htick p.scene).1)

end Cutscene
