import Cutscene.Proofs.Footprint.Turn
import Cutscene.Proofs.Run.Basic
import Mathlib.Data.Prod.Lex

/-!
# What an Overture and a Round Can Do

An event that is not over either ends, once and for all (`Scene.Ends`), or goes on. An overture
that goes on may set the pointer behind the header or past a move that has landed
(`Scene.overture_cases`). A round that goes on is the turn of the command under the pointer
(`Scene.round_cases`).
-/

namespace Cutscene

/-- The phase of an event with this outcome. -/
def Outcome.phase : Outcome → Phase
  | .finished _ => .finished
  | .skipped _ => .skipped
  | .aborted _ _ => .skipped

/-- The version of the command list and the pointer into it, the version first. -/
def Stand.mark {α : Type} (p : Stand α) : ℕ ×ₗ ℕ := toLex (p.working.version, p.pointer)

lemma Stand.mark_lt_advance {α : Type} {p : Stand α} (h : p.pointer < p.working.size) {n : Nat}
    (hn : 0 < n) : p.mark < (p.advance n).mark := by
  refine Prod.Lex.toLex_lt_toLex.mpr (.inr ⟨rfl, ?_⟩)
  exact Nat.lt_min.mpr ⟨Nat.lt_add_of_pos_right hn, h⟩

lemma Stand.mark_lt_apply {α : Type} {p q : Stand α} {edit : Edit}
    (h : q.working = p.working.apply edit) : p.mark < q.mark := by
  refine Prod.Lex.toLex_lt_toLex.mpr (.inl ?_)
  simp [h]

namespace Scene

variable {α σ : Type}

def mark (s : Scene α σ) : ℕ ×ₗ ℕ := s.stand.mark

/-! ### The end -/

/-- The event is over: after work without one-time requests the stage is told, and then nothing is
done any more. -/
structure Ends [Stage α σ] (s t : Scene α σ) (o : Outcome) : Prop where
  outcome : t.outcome = some o
  phase : t.phase = o.phase
  mark : t.mark = s.mark
  calm : s.Calm → t.Calm
  told : ∃ u : Scene α σ, s.calls <+: u.calls ∧ u.endings = s.endings ∧ u.oneTimes = s.oneTimes ∧
    t.calls = (u.call (.endEvent o)).calls ∧ t.stage = (u.call (.endEvent o)).stage

lemma isTerminal_eq_true_iff (s : Scene α σ) :
    s.isTerminal = true ↔ s.phase = .finished ∨ s.phase = .skipped := by
  unfold Event.isTerminal
  cases s.phase <;> simp

lemma isTerminal_of_phase {s : Scene α σ} (h : s.phase = .running ∨ s.phase = .suspended) :
    s.isTerminal = false := by
  unfold Event.isTerminal
  rcases h with h | h <;> rw [h]

lemma ne_uninitialized_of_phase {s : Scene α σ} (h : s.phase = .running ∨ s.phase = .suspended) :
    s.phase ≠ .uninitialized := by
  rcases h with h | h <;> simp [h]

variable [Stage α σ] {s t u : Scene α σ} {o : Outcome}

namespace Ends

lemma isTerminal (h : s.Ends t o) : t.isTerminal = true := by
  rw [isTerminal_eq_true_iff, h.phase]
  cases o <;> simp [Outcome.phase]

lemma endings (h : s.Ends t o) : t.endings = s.endings + 1 := by
  obtain ⟨u, -, hu, -, hcalls, -⟩ := h.told
  rw [Scene.endings, hcalls, ← hu]
  simp [Scene.endings, Scene.call, Call.isEnd]

lemma oneTimes (h : s.Ends t o) : t.oneTimes = s.oneTimes := by
  obtain ⟨u, -, -, hu, hcalls, -⟩ := h.told
  rw [Scene.oneTimes, hcalls, ← hu]
  simp [Scene.oneTimes, Scene.call, Call.isOneTime]

lemma before (h : u.Ends t o) (hpre : s.calls <+: u.calls) (hend : u.endings = s.endings)
    (hone : u.oneTimes = s.oneTimes) (hmark : u.mark = s.mark) (hcalm : s.Calm → u.Calm) :
    s.Ends t o where
  outcome := h.outcome
  phase := h.phase
  mark := h.mark.trans hmark
  calm := h.calm ∘ hcalm
  told := by
    obtain ⟨v, hpre', hend', hone', hcalls, hstage⟩ := h.told
    exact ⟨v, hpre.trans hpre', hend'.trans hend, hone'.trans hone, hcalls, hstage⟩

end Ends

lemma conclude_ends (s : Scene α σ) (o : Outcome) : s.Ends (s.conclude o.phase o) o :=
  ⟨rfl, rfl, rfl, fun hs => ⟨hs.dispatching, hs.edits, hs.pointer⟩,
    s, List.prefix_rfl, rfl, rfl, rfl, rfl⟩

omit [Stage α σ] in
lemma Quiet.mark_eq (q : s.Quiet u) : u.mark = s.mark :=
  congrArg Stand.mark q.stand

omit [Stage α σ] in
lemma Quiet.calm (q : s.Quiet u) (hs : s.Calm) : u.Calm where
  dispatching := q.dispatching.trans hs.dispatching
  edits := q.edits.trans hs.edits
  pointer := by
    rw [q.pointer, q.working]
    exact hs.pointer

lemma Quiet.ends (q : s.Quiet u) (h : u.Ends t o) : s.Ends t o :=
  h.before q.calls q.endings q.oneTimes q.mark_eq q.calm

lemma finish_of_isTerminal (h : s.isTerminal = true) (ending : Ending) : s.finish ending = s :=
  if_pos h

lemma finish_ends (h : s.isTerminal = false) (ending : Ending) :
    s.Ends (s.finish ending) (.finished ending) := by
  rw [finish, if_neg (by simp [h])]
  exact (conclude_ends _ (.finished ending)).before List.prefix_rfl rfl rfl rfl
    fun hs => ⟨hs.dispatching, hs.edits, hs.pointer⟩

lemma finish_wait (h : s.isTerminal = false) (ending : Ending) :
    (s.finish ending).wait = none := by
  rw [finish, if_neg (by simp [h])]
  rfl

/-- Nothing is pending any more. -/
def cleared (s : Scene α σ) : Scene α σ :=
  { s with
    flags := { s.flags with skipped := true, simultaneous := false, continueAfterMove := false }
    skipRequested := false
    wait := none
    edits := []
    barrier := .closed
    paths := []
    cast := s.cast.modifyAll fun a => a.halt.clearOverrides
    skipActions := [] }

lemma clearAway_eq (s : Scene α σ) (given : Option Outcome) :
    ∃ u : Scene α σ, s.cleared.Quiet u ∧
      s.clearAway given = u.conclude .skipped (given.getD (.skipped u.finalEnding)) := by
  have hmenus : s.cleared.Quiet (s.cleared.call .closeMenus) := (Quiet.refl _).call rfl rfl
  have hact : ∀ (v : Scene α σ) (action : String), v.Quiet (v.runSkipAction action) := by
    intro v action
    have htold : v.Quiet (v.call (.triggerAction action)) := (Quiet.refl v).call rfl rfl
    unfold runSkipAction
    dsimp only
    split
    · exact htold
    · exact htold.trans (.of_eq rfl rfl id)
  exact ⟨_, hmenus.foldl hact s.skipActions, rfl⟩

lemma clearAway_ends (s : Scene α σ) {given : Option Outcome}
    (hgiven : ∀ o ∈ given, o.phase = .skipped) :
    ∃ o, o.phase = .skipped ∧ s.Ends (s.clearAway given) o := by
  obtain ⟨u, hu, heq⟩ := clearAway_eq s given
  rw [heq]
  have hphase : (given.getD (.skipped u.finalEnding)).phase = .skipped := by
    cases given with
    | none => rfl
    | some o => exact hgiven o rfl
  refine ⟨_, hphase, ?_⟩
  rw [← hphase]
  exact (hu.ends (conclude_ends u _)).before List.prefix_rfl rfl rfl rfl
    fun hs => ⟨hs.dispatching, rfl, hs.pointer⟩

lemma skip_of_isTerminal (h : s.isTerminal = true) : s.skip = s := if_pos h

lemma skip_ends (hs : s.Calm) (h : s.isTerminal = false) :
    ∃ o, o.phase = .skipped ∧ s.Ends s.skip o := by
  have hskip : s.skip = s.clearAway none := by
    rw [skip, if_neg (by simp [h]), hs.dispatching]
    rfl
  rw [hskip]
  exact clearAway_ends s (by simp)

lemma skip_wait (hs : s.Calm) (h : s.isTerminal = false) : s.skip.wait = none := by
  obtain ⟨v, hv, heq⟩ := clearAway_eq s none
  rw [skip, if_neg (by simp [h]), hs.dispatching, if_neg (by simp), heq]
  exact congrArg Stand.wait hv.stand

lemma abort_ends (s : Scene α σ) (index : Nat) (command : String) (fault : Fault) :
    ∃ o, o.phase = .skipped ∧ s.Ends (s.abort index command fault) o := by
  have hgiven : ∀ o ∈ some (Outcome.aborted index fault), o.phase = .skipped := by
    simp [Outcome.phase]
  obtain ⟨o, hphase, h⟩ := clearAway_ends (s.reportAt index command .fatal fault) hgiven
  have hq : s.Quiet (s.reportAt index command .fatal fault) := .of_eq rfl rfl id
  exact ⟨o, hphase, hq.ends h⟩

/-! ### The header -/

lemma openMusic_quiet (s : Scene α σ) (header : String) : s.Quiet (s.openMusic header) := by
  unfold openMusic
  dsimp only
  split_ifs
  · exact .refl s
  · exact (Quiet.refl s).call rfl rfl
  · exact (Quiet.refl s).call rfl rfl

lemma openCamera_quiet (s : Scene α σ) (header : String) : s.Quiet (s.openCamera header).1 := by
  unfold openCamera
  split
  · exact (Quiet.refl s).call rfl rfl
  · exact .refl s

lemma Quiet.music (h : s.Quiet u) (header : Option String) :
    s.Quiet (match header with | some music => u.openMusic music | none => u) := by
  cases header with
  | some music => exact h.trans (openMusic_quiet u music)
  | none => exact h

lemma Quiet.camera (h : s.Quiet u) (header : Option String) :
    s.Quiet (match header with | some camera => u.openCamera camera | none => (u, none)).1 := by
  cases header with
  | some camera => exact h.trans (openCamera_quiet u camera)
  | none => exact h

variable [Scalar α]

lemma openGroup_eq {group : List String} (h : s.openGroup group = .ok t) :
    ∃ cast, t = { s with cast := cast } := by
  unfold openGroup at h
  dsimp only at h
  split at h
  · simp at h
  · split at h
    · exact ⟨_, (Except.ok.inj h).symm⟩
    · exact ⟨_, (Except.ok.inj h).symm⟩

lemma openGroups_eq (s : Scene α σ) (groups : List (List String)) :
    ∃ cast, (s.openGroups groups).1 = { s with cast := cast } := by
  induction groups generalizing s with
  | nil => exact ⟨_, rfl⟩
  | cons group rest ih =>
    unfold openGroups
    split
    · rename_i t ht
      obtain ⟨cast, rfl⟩ := openGroup_eq ht
      exact ih _
    · exact ⟨_, rfl⟩

/-- The layout brings actors on and does nothing else. -/
lemma openLayout_eq (s : Scene α σ) (header : String) :
    ∃ cast, (s.openLayout header).1 = { s with cast := cast } := by
  unfold openLayout
  split
  · exact ⟨_, rfl⟩
  · split
    · exact ⟨_, rfl⟩
    · exact openGroups_eq s _

lemma openLayout_quiet (s : Scene α σ) (header : String) : s.Quiet (s.openLayout header).1 := by
  obtain ⟨cast, h⟩ := openLayout_eq s header
  rw [h]
  exact .of_eq rfl rfl id

lemma Quiet.layout (h : s.Quiet u) (header : Option String) :
    s.Quiet (match header with | some layout => u.openLayout layout | none => (u, none)).1 := by
  cases header with
  | some layout => exact h.trans (openLayout_quiet u layout)
  | none => exact h

/-- A header that is read sets the pointer, and a faulty one leaves it; the rest is quiet. -/
lemma openHeader_cases {fault : Option HeaderFault} (h : s.openHeader = (t, fault)) :
    (fault.isSome ∧ s.Quiet t) ∨
      (fault = none ∧ s.settings.headerLength ≤ s.working.size ∧
        ∃ u, s.Quiet u ∧ t = { u with pointer := s.settings.headerLength }) := by
  have hq₀ : s.Quiet { s with cast := .empty (Stage.localPlayer α s.stage) } :=
    .of_eq rfl rfl id
  unfold openHeader at h
  dsimp only at h
  generalize s.working.commands.take (min s.settings.headerLength 3) = header at h
  have hmusic := hq₀.music header[0]?
  have hcamera := hmusic.camera header[1]?
  have hlayout := hcamera.layout header[2]?
  split at h
  · obtain ⟨rfl, rfl⟩ := Prod.mk.inj h
    exact .inl ⟨rfl, .refl s⟩
  · rename_i hlen
    split at h
    · obtain ⟨rfl, rfl⟩ := Prod.mk.inj h
      exact .inl ⟨rfl, hcamera⟩
    · split at h
      · obtain ⟨rfl, rfl⟩ := Prod.mk.inj h
        exact .inl ⟨rfl, hlayout⟩
      · obtain ⟨rfl, rfl⟩ := Prod.mk.inj h
        exact .inr ⟨rfl, Nat.not_lt.mp hlen, _, hlayout, rfl⟩

/-- The first tick reads the header, unless the script was replaced before; any other tick leaves
the scene to what comes next. -/
lemma openEvent_cases (hs : s.Calm) {fault : Option HeaderFault} (h : s.openEvent = (t, fault)) :
    (fault.isSome ∧ s.Quiet t) ∨
      (fault = none ∧ s.phase ≠ .uninitialized ∧ t = s) ∨
      (fault = none ∧ s.phase = .uninitialized ∧ ∃ u n, s.Quiet u ∧ n ≤ s.working.size ∧
        t = { u with pointer := n, phase := .running }) := by
  unfold openEvent at h
  dsimp only at h
  split at h
  · rename_i hbegun
    obtain ⟨rfl, rfl⟩ := Prod.mk.inj h
    exact .inr (.inl ⟨rfl, hbegun, rfl⟩)
  · rename_i hfresh
    have hfresh : s.phase = .uninitialized := not_not.mp hfresh
    cases hswap : s.flags.forked || s.flags.switched with
    | true =>
      simp only [hswap, if_true] at h
      obtain ⟨rfl, rfl⟩ := Prod.mk.inj h
      exact .inr (.inr ⟨rfl, hfresh, s, s.pointer, .refl s, hs.pointer, rfl⟩)
    | false =>
      simp only [hswap] at h
      rcases hopen : s.openHeader with ⟨u, fault'⟩
      rw [hopen] at h
      rcases openHeader_cases hopen with ⟨hsome, hq⟩ | ⟨rfl, hlen, v, hv, rfl⟩
      · obtain ⟨cause, rfl⟩ := Option.isSome_iff_exists.mp hsome
        obtain ⟨rfl, rfl⟩ := Prod.mk.inj h
        exact .inl ⟨rfl, hq⟩
      · obtain ⟨rfl, rfl⟩ := Prod.mk.inj h
        exact .inr (.inr ⟨rfl, hfresh, v, _, hv, hlen, rfl⟩)

/-! ### The overture -/

/-- Actors and paths go on, and a barrier that is open may close. The pointer moves only past a
move that held the script and has landed. -/
lemma resume_cases (s : Scene α σ) :
    (s.Quiet s.resume.1 ∧ (s.resume.1.Free → s.Free) ∧ (s.resume.2 = true → s.resume.1.Free)) ∨
      (¬ s.Free ∧ s.resume.2 = false ∧ s.resume.1.barrier.isClosed ∧
        s.resume.1.helm = { s.helm.advance 1 with phase := .running } ∧
        s.resume.1.calls = s.calls) := by
  unfold resume
  dsimp only
  split
  · exact .inl ⟨.of_eq rfl rfl id, id, by simp⟩
  · split
    · rename_i hclosed
      exact .inl ⟨.of_eq rfl rfl id, fun _ => .inl hclosed, fun _ => .inl hclosed⟩
    · rename_i hopen
      have hfree : s.Free ↔ s.flags.continueAfterMove = true := or_iff_right hopen
      split
      · rename_i hall
        have hclosed : (s.elapse.barrier.resolve s.elapse.settings s.elapse.cast).1.isClosed :=
          (Bool.and_eq_true_iff.mp hall).2
        split
        · rename_i hgo
          exact .inl ⟨.of_eq rfl rfl fun _ => .inl hclosed, fun _ => .inr hgo,
            fun _ => .inl hclosed⟩
        · rename_i hstop
          exact .inr ⟨fun h => hstop (hfree.mp h), rfl, hclosed, rfl, rfl⟩
      · rename_i hsome
        have hlater : ¬ (s.elapse.barrier.resolve s.elapse.settings s.elapse.cast).1.isClosed := by
          intro hclosed
          exact hsome (Bool.and_eq_true_iff.mpr ⟨by simpa using hopen, hclosed⟩)
        exact .inl ⟨.of_eq rfl rfl fun h => .inr (hfree.mp h),
          fun h => .inr (h.resolve_left hlater), fun h => .inr h⟩

/-- How an overture leaves the script of an event that goes on. -/
inductive Opened (s t : Scene α σ) (more : Bool) : Prop
  | stays (stand : t.stand = s.stand) (free : s.Free ↔ t.Free) (goes : more = true → t.Free)
  | reads (fresh : s.phase = .uninitialized) (n : Nat) (len : n ≤ s.working.size)
      (stand : t.stand = { s.stand with pointer := n }) (free : t.Free)
  | lands (held : ¬ s.Free) (stop : more = false) (closed : t.barrier.isClosed)
      (running : t.phase = .running) (stand : t.stand = s.stand.advance 1)

/-- What an overture leaves of an event that goes on. -/
structure Opening (s t : Scene α σ) (more : Bool) : Prop where
  calm : t.Calm
  phase : t.phase = .running ∨ t.phase = .suspended
  skipRequested : t.skipRequested = false
  outcome : t.outcome = s.outcome
  calls : s.calls <+: t.calls
  endings : t.endings = s.endings
  oneTimes : t.oneTimes = s.oneTimes
  opened : Opened s t more

/-- The scene of an event that no move is working at. Before the first tick nobody is on the
way. -/
structure AtRest (s : Scene α σ) : Prop extends Calm s where
  fresh : s.phase = .uninitialized → s.pointer = 0 ∧ s.barrier.isClosed

omit [Stage α σ] [Scalar α] in
lemma phase_of_goesOn (h : s.isTerminal = false) (hbegun : s.phase ≠ .uninitialized) :
    s.phase = .running ∨ s.phase = .suspended := by
  unfold Event.isTerminal at h
  cases hp : s.phase <;> simp_all

/-- Once the script has begun, an overture leaves the header alone. -/
lemma resume_opening (hs : s.Calm) (hphase : s.phase = .running ∨ s.phase = .suspended)
    (hskip : s.skipRequested = false) : Opening s s.resume.1 s.resume.2 := by
  rcases resume_cases s with ⟨q, hback, hmore⟩ | ⟨hheld, hstop, hclosed, hhelm, hcalls⟩
  · exact
      { calm := q.calm hs
        phase := by rwa [q.phase]
        skipRequested := q.skipRequested.trans hskip
        outcome := q.outcome
        calls := q.calls
        endings := q.endings
        oneTimes := q.oneTimes
        opened := .stays q.stand ⟨q.free, hback⟩ hmore }
  · have hstand : s.resume.1.stand = s.stand.advance 1 := congrArg Helm.toStand hhelm
    have hp : s.resume.1.stand.pointer ≤ s.resume.1.stand.working.size := by
      rw [hstand]
      exact Nat.min_le_right _ _
    exact
      { calm := ⟨(congrArg Helm.dispatching hhelm).trans hs.dispatching,
          (congrArg Helm.edits hhelm).trans hs.edits, hp⟩
        phase := .inl (congrArg Helm.phase hhelm)
        skipRequested := (congrArg Helm.skipRequested hhelm).trans hskip
        outcome := congrArg Helm.outcome hhelm
        calls := by simp [hcalls]
        endings := congrArg (List.countP Call.isEnd) hcalls
        oneTimes := congrArg (List.countP Call.isOneTime) hcalls
        opened := .lands hheld hstop hclosed (congrArg Helm.phase hhelm) hstand }

lemma header_opening (hs : s.AtRest) (hfresh : s.phase = .uninitialized)
    (hskip : s.skipRequested = false) {n : Nat} (hn : n ≤ s.working.size) (hu : s.Quiet u) :
    Opening s (resume { u with pointer := n, phase := .running }).1
      (resume { u with pointer := n, phase := .running }).2 := by
  have hcalm : ({ u with pointer := n, phase := .running } : Scene α σ).Calm :=
    ⟨(hu.calm hs.toCalm).dispatching, (hu.calm hs.toCalm).edits, hu.working ▸ hn⟩
  have hfree : ({ u with pointer := n, phase := .running } : Scene α σ).Free :=
    hu.free (.inl (hs.fresh hfresh).2)
  have h := resume_opening hcalm (.inl rfl) (hu.skipRequested.trans hskip)
  have hopened : Opened s (resume { u with pointer := n, phase := .running }).1
      (resume { u with pointer := n, phase := .running }).2 := by
    cases h.opened with
    | stays stand free goes =>
      have hn' : ({ u with pointer := n, phase := .running } : Scene α σ).stand =
          { s.stand with pointer := n } :=
        congrArg (fun p : Stand α => { p with pointer := n }) hu.stand
      exact .reads hfresh n hn (stand.trans hn') (free.mp hfree)
    | reads fresh => cases fresh
    | lands held => exact absurd hfree held
  exact
    { calm := h.calm
      phase := h.phase
      skipRequested := h.skipRequested
      outcome := h.outcome.trans hu.outcome
      calls := hu.calls.trans h.calls
      endings := h.endings.trans hu.endings
      oneTimes := h.oneTimes.trans hu.oneTimes
      opened := hopened }

/-- An overture leaves an event that is over alone, ends it, or goes on. -/
theorem overture_cases (hs : s.AtRest) :
    (s.isTerminal = true ∧ s.overture = (s, false)) ∨
      (s.isTerminal = false ∧ s.overture.2 = false ∧
        ∃ o, o.phase = .skipped ∧ s.Ends s.overture.1 o) ∨
      (s.isTerminal = false ∧ s.skipRequested = false ∧
        Opening s s.overture.1 s.overture.2) := by
  unfold overture
  split
  · rename_i hover
    exact .inl ⟨hover, rfl⟩
  · rename_i hgoes
    have hgoes : s.isTerminal = false := by simpa using hgoes
    split
    · exact .inr (.inl ⟨hgoes, rfl, skip_ends hs.toCalm hgoes⟩)
    · rename_i hskip
      have hskip : s.skipRequested = false := by simpa using hskip
      split
      · rename_i u cause hopen
        have hq : s.Quiet u := by
          rcases openEvent_cases hs.toCalm hopen with ⟨-, hq⟩ | ⟨hnone, -⟩ | ⟨hnone, -⟩
          · exact hq
          · cases hnone
          · cases hnone
        obtain ⟨o, hphase, ho⟩ :=
          abort_ends u cause.index (u.working.getD cause.index) (.header cause)
        exact .inr (.inl ⟨hgoes, rfl, o, hphase, hq.ends ho⟩)
      · rename_i u hopen
        refine .inr (.inr ⟨hgoes, hskip, ?_⟩)
        rcases openEvent_cases hs.toCalm hopen with
          ⟨hsome, -⟩ | ⟨-, hbegun, rfl⟩ | ⟨-, hfresh, v, n, hv, hn, rfl⟩
        · cases hsome
        · exact resume_opening hs.toCalm (phase_of_goesOn hgoes hbegun) hskip
        · exact header_opening hs hfresh hskip hn hv

/-! ### A round -/

omit [Scalar α] in
/-- A command moves the mark on, unless it is to run again. -/
lemma Steers.lt_mark_or {name : String} {a : Args} (hin : s.pointer < s.working.size)
    (h : Steers name a s t) : s.mark < t.mark ∨
      ∃ w, t.stand = { s.stand with wait := w } ∧ (s.oneTimes < t.oneTimes → Held name a w) ∧
        (Held name a s.wait → Held name a w) := by
  unfold mark
  cases h with
  | holds w stand begun kept => exact .inr ⟨w, stand, begun, kept⟩
  | passes stand => exact .inl (stand ▸ Stand.mark_lt_advance hin Nat.one_pos)
  | leaps _ _ _ stand => exact .inl (stand ▸ Stand.mark_lt_advance hin Nat.two_pos)
  | splices commands stand => exact .inl (Stand.mark_lt_apply (congrArg Stand.working stand))
  | rewrites command stand => exact .inl (Stand.mark_lt_apply (congrArg Stand.working stand))
  | redirects _ _ _ stand => exact .inl (Stand.mark_lt_apply (congrArg Stand.working stand))

/-- The scene of an event whose tick is going from command to command. -/
structure AtWork (s : Scene α σ) : Prop extends Calm s where
  phase : s.phase = .running ∨ s.phase = .suspended
  skipRequested : s.skipRequested = false
  free : s.Free

/-- The command that the text under the pointer calls, and its tokens; a command without a name at
the end of the list. -/
def command (s : Scene α σ) : String × Args :=
  match s.working.get? s.pointer with
  | none => ("", ⟨[]⟩)
  | some raw => (Commands.table : CommandTable (Handler α σ)).commandOf raw

lemma command_of_stand {w : Option (Wait α)} (h : t.stand = { s.stand with wait := w }) :
    t.command = s.command := by
  unfold command
  rw [show t.working = s.working from congrArg Stand.working h,
    show t.pointer = s.pointer from congrArg Stand.pointer h]

omit [Stage α σ] [Scalar α] in
lemma AtWork.isTerminal (hs : s.AtWork) : s.isTerminal = false := isTerminal_of_phase hs.phase

omit [Stage α σ] [Scalar α] in
/-- A command is run in a calm scene, from which no other command has been asked for. -/
lemma AtWork.unchained (hs : s.AtWork) : ({ s with chainRequested := false } : Scene α σ).Calm :=
  ⟨hs.dispatching, hs.edits, hs.pointer⟩

omit [Scalar α] in
/-- A turn does not see whether the next command was asked for, and a phase may follow it. -/
lemma Turn.settle {name : String} {a : Args} (h : Turn name a { s with chainRequested := false } t)
    (phase : Phase) (chain : Bool) :
    Turn name a s { t with phase := phase, chainRequested := chain } where
  calm := ⟨h.calm.dispatching, h.calm.edits, h.calm.pointer⟩
  skipRequested := h.skipRequested
  outcome := h.outcome
  calls := h.calls
  endings := h.endings
  once := h.once
  silent := h.silent
  steers := by
    cases h.steers with
    | holds w stand begun kept => exact .holds w stand begun kept
    | passes stand => exact .passes stand
    | splices commands stand => exact .splices commands stand
    | rewrites command stand => exact .rewrites command stand
    | redirects named text swap stand => exact .redirects named text swap stand
    | leaps named unnamed lost stand => exact .leaps named unnamed lost stand
  free := h.free

/-- What a round leaves of an event that goes on. -/
structure Onward (s t : Scene α σ) (more : Bool) : Prop where
  inside : s.pointer < s.working.size
  turn : Turn s.command.1 s.command.2 s t
  phase : t.phase = .running ∨ t.phase = .suspended
  moved : more = true → t.mark ≠ s.mark

/-- A round ends the event, or it is the turn of the command under the pointer. -/
theorem round_cases (hs : s.AtWork) :
    ((s.round Commands.table).2 = false ∧ ∃ o, s.Ends (s.round Commands.table).1 o) ∨
      Onward s (s.round Commands.table).1 (s.round Commands.table).2 := by
  have hgoes := hs.isTerminal
  unfold round
  dsimp only
  split
  · exact .inl ⟨rfl, _, finish_ends hgoes .plain⟩
  · rename_i raw hget
    have hin : s.pointer < s.working.size := (List.getElem?_eq_some_iff.mp hget).1
    split
    · refine .inr ⟨hin, .passes hs.toCalm (.refl s), hs.phase, fun _ => ?_⟩
      exact (Stand.mark_lt_advance (p := s.stand) hin Nat.one_pos).ne'
    · have hcommand : s.command = (Commands.table : CommandTable (Handler α σ)).commandOf raw := by
        rw [command, hget]
      have hcalm := hs.unchained
      have hcases := runCommand_cases Commands.table_isLawful hcalm raw
      dsimp only at hcases
      rw [← hcommand] at hcases
      generalize runCommand Commands.table { s with chainRequested := false } s.pointer raw = t
        at hcases ⊢
      rcases hcases with ⟨hturn, hphase⟩ | ⟨u, ending, hu, rfl⟩
      · have hterm : ¬ t.isTerminal = true := by
          unfold Event.isTerminal at hgoes ⊢
          rw [hphase, hgoes]
          exact Bool.false_ne_true
        have hskip : ¬ t.skipRequested = true := by
          rw [hturn.skipRequested, hs.skipRequested]
          exact Bool.false_ne_true
        rw [if_neg hterm, if_neg hskip]
        refine .inr ⟨hin, hturn.settle _ _, ?_, fun hmore heq => ?_⟩
        · exact (em _).imp (if_pos ·) (if_neg ·)
        · rw [Bool.and_eq_true, decide_eq_true_eq] at hmore
          obtain ⟨hv, hp⟩ := Prod.mk.inj (toLex.injective heq)
          exact hmore.1 (Prod.ext hp hv)
      · have hchain : s.Quiet { s with chainRequested := false } := .of_eq rfl rfl id
        have hu := hchain.trans hu
        have hgoes : u.isTerminal = false := by
          unfold Event.isTerminal at hgoes ⊢
          rwa [hu.phase]
        have hends := hu.ends (finish_ends hgoes ending)
        rw [if_pos hends.isTerminal]
        exact .inl ⟨rfl, _, hends⟩

end Scene

end Cutscene
