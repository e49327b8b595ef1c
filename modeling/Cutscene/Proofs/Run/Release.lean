import Cutscene.Proofs.Run.Ending
import Cutscene.Proofs.Run.Pointer
import Cutscene.Scalar.Single
import Cutscene.Stage.Rehearsal

/-!
# The Barrier Releases Once

A well-formed move that is not told to go on stops the script while anybody is on the way. Then
nothing is dispatched until the last of them has landed; the tick in which that happens moves the
pointer past the move and dispatches nothing either, and the move is not run again. As long as no
move has stopped the script, the barrier never moves the pointer.

A malformed move does not stop the script, even while others are on the way.
-/

namespace Cutscene

variable {α σ : Type} [Scalar α] [Stage α σ]

namespace Scene

open Commands

variable {s t d : Scene α σ}

/-! ### A move that stops the script -/

/-- The command under the pointer is a well-formed move that is not told to go on. -/
def AtStop (d : Scene α σ) : Prop :=
  ∃ raw, d.working.get? d.pointer = some raw ∧ d.settings.isComment raw = false ∧
    Stops ((table : CommandTable (Handler α σ)).commandOf raw).1
      ((table : CommandTable (Handler α σ)).commandOf raw).2

/-- The round that starts here is a move that leaves somebody on the way and stops the script. -/
def Stopped (d : Scene α σ) : Prop :=
  d.AtStop ∧ (d.round table).1.barrier.isClosed = false

lemma handler_of_move (name : String) (handler : Handler α σ)
    (h : table.resolve? name = some ("move", handler)) : handler = move := by
  have hmem : ("move", handler) ∈ builtIn := CommandTable.mem_of_resolve? h
  simpa [builtIn] using hmem

/-- A move that is not told to go on says so to the scene. -/
lemma runCommand_of_stops {table : CommandTable (Handler α σ)} {raw : String}
    (htable : ∀ name handler, table.resolve? name = some ("move", handler) → handler = move)
    (h : Stops (table.commandOf raw).1 (table.commandOf raw).2) :
    (runCommand table s s.pointer raw).flags.continueAfterMove = false ∧
      (runCommand table s s.pointer raw).phase = s.phase ∧
      (runCommand table s s.pointer raw).skipRequested = s.skipRequested := by
  obtain ⟨hname, hform, hstops⟩ := h
  obtain ⟨name, args, handler, htokens, hresolve, ha⟩ :=
    CommandTable.resolve?_of_commandOf (by rw [hname]; decide)
  rw [hname] at hresolve
  rw [ha] at hform hstops
  obtain rfl := htable name handler hresolve
  obtain ⟨groups, hgroups⟩ := Option.isSome_iff_exists.mp hform
  have hoff : (setOff ⟨name :: args⟩ s.underWay groups).helm = s.underWay.helm :=
    (sendOff_spec s.underWay groups).2.1
  simp only [runCommand_eq, htokens, hresolve, move_of_some hgroups]
  generalize hout : (if moveContinues ⟨name :: args⟩ ||
      (setOff _ s.underWay groups).barrier.isClosed
    then (setOff _ s.underWay groups).advance 1 else setOff _ s.underWay groups) = out
  have hflag : out.flags.continueAfterMove = false := by
    subst hout
    split <;> exact hstops
  have hphase : out.phase = s.phase := by
    subst hout
    split <;> exact congrArg Helm.phase hoff
  have hskip : out.skipRequested = s.skipRequested := by
    subst hout
    split <;> exact congrArg Helm.skipRequested hoff
  have hframe := out.applyEdits_frame
  exact ⟨hframe.continueAfterMove.trans hflag, hframe.phase.trans hphase,
    hframe.skipRequested.trans hskip⟩

lemma round_of_atStop (hs : d.AtWork) (h : d.AtStop) :
    (d.round table).1.flags.continueAfterMove = false ∧ (d.round table).1.isTerminal = false := by
  obtain ⟨raw, hget, hcomment, hstops⟩ := h
  obtain ⟨hflag, hphase, hskip⟩ :=
    runCommand_of_stops (s := { d with chainRequested := false }) handler_of_move hstops
  unfold round
  rw [hget]
  dsimp only at hflag hphase hskip ⊢
  generalize runCommand table { d with chainRequested := false } d.pointer raw = t
    at hflag hphase hskip ⊢
  have hgoes : t.isTerminal = false := by
    unfold Event.isTerminal
    rw [hphase]
    exact hs.isTerminal
  rw [hcomment, if_neg Bool.false_ne_true, hgoes, if_neg Bool.false_ne_true, hskip,
    hs.skipRequested, if_neg Bool.false_ne_true]
  refine ⟨hflag, isTerminal_of_phase ?_⟩
  exact (em _).imp (if_pos ·) (if_neg ·)

/-! ### While the script is stopped -/

/-- The script is stopped where it was when the move was dispatched. -/
structure Barred (d t : Scene α σ) : Prop where
  stand : t.stand = d.stand
  phase : t.phase = .running ∨ t.phase = .suspended
  held : ¬ t.Free

/-- The pointer is past the move, and nobody is on the way. -/
structure Released (d t : Scene α σ) : Prop where
  working : t.working = d.working
  pointer : t.pointer = d.pointer + 1
  phase : t.phase = .running
  closed : t.barrier.isClosed = true

omit [Scalar α] [Stage α σ] in
lemma Released.mark_lt (h : d.Released t) : d.mark < t.mark := by
  refine Prod.Lex.toLex_lt_toLex.mpr (.inr ⟨congrArg Working.version h.working.symm, ?_⟩)
  exact (Nat.lt_succ_self _).trans_eq h.pointer.symm

/-- The round of a move that stops the script is the last of its tick. -/
lemma Stopped.barred (hs : d.AtWork) (h : d.Stopped) :
    (d.round table).2 = false ∧ d.Barred (d.round table).1 := by
  obtain ⟨hflag, hgoes⟩ := round_of_atStop hs h.1
  have hheld : ¬ (d.round table).1.Free := by
    rintro (hclosed | hon)
    · exact Bool.false_ne_true (h.2.symm.trans hclosed)
    · exact Bool.false_ne_true (hflag.symm.trans hon)
  rcases round_cases hs with ⟨-, o, ho⟩ | ho
  · rw [ho.isTerminal] at hgoes
    cases hgoes
  · have hstand := ((ho.turn.free hs.free).resolve_left hheld).2
    refine ⟨?_, hstand, ho.phase, hheld⟩
    by_contra hmore
    exact ho.moved (by simpa using hmore) (congrArg Stand.mark hstand)

omit [Scalar α] [Stage α σ] in
lemma Untouched.free (h : s.Untouched t) : s.Free ↔ t.Free := by
  unfold Free
  rw [h.event]

/-- One move while the script is stopped: it stays stopped, or the last of those on the way has
landed, or the event is over. Nothing is dispatched. -/
lemma Barred.apply (hin : d.pointer < d.working.size) (ht : t.AtRest) (h : d.Barred t)
    (move : HostMove α σ) :
    move.rounds table t = [] ∧
      (d.Barred (move.apply table t) ∨ (move = .tick ∧ d.Released (move.apply table t)) ∨
        ((move.apply table t).isTerminal = true ∧
          ((move.apply table t).phase = .skipped ∨ ∃ ending, move = .finish ending))) := by
  by_cases htick : move = .tick
  · subst htick
    rw [HostMove.rounds, HostMove.apply, tick_eq, tickRounds]
    rcases overture_cases ht with ⟨hover, -⟩ | ⟨-, hstop, o, hphase, ho⟩ | ⟨-, -, ho⟩
    · rw [isTerminal_of_phase h.phase] at hover
      cases hover
    · rw [hstop]
      exact ⟨rfl, .inr (.inr ⟨ho.isTerminal, .inl (ho.phase.trans hphase)⟩)⟩
    · cases ho.opened with
      | stays stand free goes =>
        have hheld : ¬ t.overture.1.Free := fun hfree => h.held (free.mpr hfree)
        have hstop : t.overture.2 = false := by simpa using fun hmore => hheld (goes hmore)
        rw [hstop]
        exact ⟨rfl, .inl ⟨stand.trans h.stand, ho.phase, hheld⟩⟩
      | reads fresh => exact absurd fresh (ne_uninitialized_of_phase h.phase)
      | lands held stop closed running stand =>
        have hstand : t.overture.1.stand = d.stand.advance 1 :=
          stand.trans (congrArg (Stand.advance · 1) h.stand)
        rw [stop]
        exact ⟨rfl, .inr (.inl ⟨rfl, congrArg Stand.working hstand,
          (congrArg Stand.pointer hstand).trans (Nat.min_eq_left hin), running, closed⟩)⟩
  · obtain ⟨hnone, hmove⟩ := apply_of_ne_tick ht.toCalm htick table
    refine ⟨hnone, ?_⟩
    rcases hmove with hsame | ⟨-, o, ho, hphase⟩
    · refine .inl ⟨hsame.stand.trans h.stand, ?_, fun hfree => h.held (hsame.free.mpr hfree)⟩
      rw [hsame.phase]
      exact h.phase
    · refine .inr (.inr ⟨ho.isTerminal, ?_⟩)
      rw [ho.phase]
      exact hphase

/-- The script is stopped all along this run, and nothing is dispatched. -/
def Waits (d t : Scene α σ) (run : List (HostMove α σ)) : Prop :=
  ∀ earlier, earlier <+: run → d.Barred (t.play table earlier) ∧ t.rounds table earlier = []

lemma Barred.waits_nil (h : d.Barred t) : d.Waits t [] := by
  intro earlier hpre
  rw [List.prefix_nil.mp hpre]
  exact ⟨h, rfl⟩

lemma Waits.cons {move : HostMove α σ} {rest : List (HostMove α σ)} (h : d.Barred t)
    (hnone : move.rounds table t = []) (hw : d.Waits (move.apply table t) rest) :
    d.Waits t (move :: rest) := by
  intro earlier hpre
  rcases List.prefix_cons_iff.mp hpre with rfl | ⟨later, rfl, hlater⟩
  · exact ⟨h, rfl⟩
  · obtain ⟨hbarred, hrounds⟩ := hw later hlater
    refine ⟨hbarred, ?_⟩
    rw [Scene.rounds, hnone, hrounds]
    rfl

/-- How a run goes on from where a move has stopped the script: it is stopped to the end of the
run, or up to the tick in which the last of those on the way lands, or up to the move that skips or
finishes the event. -/
inductive Interlude (d t : Scene α σ) (run : List (HostMove α σ)) : Prop
  | waits (waits : d.Waits t run)
  | lands (wait rest : List (HostMove α σ)) (split : run = wait ++ .tick :: rest)
      (waits : d.Waits t wait) (idle : (t.play table wait).tickRounds table = [])
      (released : d.Released ((t.play table wait).tick table))
  | ends (wait : List (HostMove α σ)) (move : HostMove α σ) (rest : List (HostMove α σ))
      (split : run = wait ++ move :: rest) (waits : d.Waits t wait)
      (idle : move.rounds table (t.play table wait) = [])
      (ended : (move.apply table (t.play table wait)).isTerminal = true)
      (how : (move.apply table (t.play table wait)).phase = .skipped ∨
        ∃ ending, move = .finish ending)

lemma Interlude.cons {move : HostMove α σ} {rest : List (HostMove α σ)} (h : d.Barred t)
    (hnone : move.rounds table t = []) (hrest : d.Interlude (move.apply table t) rest) :
    d.Interlude t (move :: rest) := by
  cases hrest with
  | waits hw => exact .waits (hw.cons h hnone)
  | lands wait rest' split hw idle released =>
    exact .lands (move :: wait) rest' (congrArg (move :: ·) split) (hw.cons h hnone) idle released
  | ends wait last rest' split hw idle ended how =>
    exact .ends (move :: wait) last rest' (congrArg (move :: ·) split) (hw.cons h hnone) idle
      ended how

theorem Barred.interlude (hin : d.pointer < d.working.size) (ht : t.AtRest) (h : d.Barred t)
    (run : List (HostMove α σ)) : d.Interlude t run := by
  induction run generalizing t with
  | nil => exact .waits h.waits_nil
  | cons move rest ih =>
    obtain ⟨hnone, hmove⟩ := h.apply hin ht move
    rcases hmove with hbarred | ⟨rfl, hfree⟩ | ⟨hover, how⟩
    · exact .cons h hnone (ih (ht.apply move) hbarred)
    · exact .lands [] rest rfl h.waits_nil hnone hfree
    · exact .ends [] move rest rfl h.waits_nil hnone hover how

lemma mem_course_of_mem_rounds (run : List (HostMove α σ)) :
    ∀ e ∈ t.rounds table run, e ∈ t.course table run := by
  induction run generalizing t with
  | nil => simp [Scene.rounds]
  | cons move rest ih =>
    intro e he
    rcases List.mem_append.mp he with he | he
    · exact List.mem_append_left _ (List.mem_cons_of_mem _ he)
    · exact List.mem_append_right _ (ih e he)

/-- The move that stopped the script is not run again. -/
theorem Barred.rounds (hin : d.pointer < d.working.size) (ht : t.AtRest) (h : d.Barred t)
    (run : List (HostMove α σ)) : ∀ e ∈ t.rounds table run, d.mark < e.mark := by
  induction run generalizing t with
  | nil => simp [Scene.rounds]
  | cons move rest ih =>
    have hnext := ht.apply move
    obtain ⟨hnone, hmove⟩ := h.apply hin ht move
    rw [Scene.rounds, hnone, List.nil_append]
    rcases hmove with hbarred | ⟨-, hfree⟩ | ⟨hover, -⟩
    · exact ih hnext hbarred
    · intro e he
      exact hfree.mark_lt.trans_le
        ((course_rises hnext rest).1 e (mem_course_of_mem_rounds rest e he))
    · rw [(play_of_isTerminal hover rest).2.1]
      simp

/-! ### While no move stops the script -/

/-- A round that leaves the script stopped is that of a move that stops it. -/
lemma Onward.stopped (hs : s.AtWork)
    (h : Onward s (s.round table).1 (s.round table).2) (hheld : ¬ (s.round table).1.Free) :
    s.Stopped := by
  obtain ⟨hstops, hstand⟩ := (h.turn.free hs.free).resolve_left hheld
  obtain ⟨raw, hget⟩ : ∃ raw, s.working.get? s.pointer = some raw :=
    ⟨_, List.getElem?_eq_getElem h.inside⟩
  refine ⟨⟨raw, hget, ?_, ?_⟩, by simpa using fun hclosed => hheld (.inl hclosed)⟩
  · -- A comment would have been passed over.
    by_contra hcomment
    have hpassed : (s.round table).1 = s.advance 1 := by
      unfold Scene.round
      rw [hget]
      dsimp only
      rw [if_pos (by simpa using hcomment)]
    rw [hpassed] at hstand
    exact (Stand.mark_lt_advance (p := s.stand) h.inside Nat.one_pos).ne'
      (congrArg Stand.mark hstand)
  · rw [command, hget] at hstops
    exact hstops

/-- If the script is stopped, the last of these rounds is a move that stopped it. -/
def Answered (s : Scene α σ) (rounds : List (Scene α σ)) : Prop :=
  s.isTerminal = false → ¬ s.Free → ∃ d ∈ rounds.getLast?, d.Stopped

lemma round_answered (hs : s.AtWork) (before : List (Scene α σ)) :
    (s.round table).1.Answered (before ++ [s]) := by
  intro hgoes hheld
  refine ⟨s, by simp, ?_⟩
  rcases round_cases hs with ⟨-, o, ho⟩ | ho
  · rw [ho.isTerminal] at hgoes
    cases hgoes
  · exact ho.stopped hs hheld

lemma Interval.answered {before : List (Scene α σ)} (h : s.Answered before)
    (hinterval : s.Interval t) : t.Answered before := by
  intro hgoes hheld
  cases hinterval with
  | untouched same =>
    exact h (same.isTerminal ▸ hgoes) fun hfree => hheld (same.free.mp hfree)
  | ends _ o ends =>
    rw [ends.isTerminal] at hgoes
    cases hgoes
  | opens goes more opening =>
    cases opening.opened with
    | stays stand free => exact h goes fun hfree => hheld (free.mp hfree)
    | reads fresh n len stand free => exact absurd free hheld
    | lands held stop closed => exact absurd (.inl closed) hheld

theorem Passage.answered {before scenes : List (Scene α σ)} (hs : s.Answered before)
    (h : Passage s scenes t) : t.Answered (before ++ scenes) := by
  induction h generalizing before with
  | stays => rwa [List.append_nil]
  | pauses _ interval _ ih => exact ih (interval.answered hs)
  | @rounds s _ _ work _ ih =>
    have h := ih (round_answered work before)
    rwa [List.append_assoc] at h

/-- Where nothing stops the script, an open barrier does not move the pointer. -/
lemma overture_mark_of_answered (hs : s.AtRest) {rounds : List (Scene α σ)}
    (h : s.Answered rounds) (hopen : s.barrier.isClosed = false)
    (hnone : ∀ d ∈ rounds.getLast?, ¬ d.Stopped) : s.overture.1.mark = s.mark := by
  rcases overture_cases hs with ⟨-, heq⟩ | ⟨-, -, o, -, ho⟩ | ⟨hgoes, -, ho⟩
  · rw [heq]
  · exact ho.mark
  · cases ho.opened with
    | stays stand => exact congrArg Stand.mark stand
    | reads fresh =>
      rw [(hs.fresh fresh).2] at hopen
      cases hopen
    | lands held =>
      obtain ⟨d, hd, hstopped⟩ := h hgoes held
      exact absurd hstopped (hnone d hd)

end Scene

/-! ### Every run -/

open Scene Commands

/-- **The barrier releases the script once.** A well-formed move that is not told to go on and
leaves somebody on the way is the last round of its tick, and stops the script where it is. Until
the tick in which the last of those on the way lands, nothing is dispatched; that tick moves the
pointer by one and dispatches nothing either, unless the event is over before. No later round
starts at the mark of the move. And wherever the last round was not such a move, neither an open
barrier nor its closing moves the pointer. -/
theorem stopping_move_releases_once (p : Premiere α σ) (before : List (HostMove α σ)) :
    (∀ d ∈ (p.scene.play table before).tickRounds table, d.Stopped →
      (∃ earlier, (p.scene.play table before).tickRounds table = earlier ++ [d]) ∧
      d.Barred ((p.scene.play table before).tick table) ∧
      ∀ after, d.Interlude ((p.scene.play table before).tick table) after ∧
        ∀ e ∈ ((p.scene.play table before).tick table).rounds table after, d.mark < e.mark) ∧
    ((p.scene.play table before).barrier.isClosed = false →
      (∀ d ∈ (p.scene.rounds table before).getLast?, ¬ d.Stopped) →
      (p.scene.play table before).overture.1.mark = (p.scene.play table before).mark) := by
  have hrest := atRest_play p.atRest before
  refine ⟨fun d hd hstopped => ?_, fun hopen hnone => ?_⟩
  · obtain ⟨htick, hwork⟩ := atRest_law.keptByTick.tick ⟨hrest, hrest⟩
    have hin : d.pointer < d.working.size := by
      obtain ⟨raw, hget, -⟩ := hstopped.1
      exact (List.getElem?_eq_some_iff.mp hget).1
    obtain ⟨hstop, hbarred⟩ := hstopped.barred (hwork d hd).1
    obtain ⟨hlast, heq⟩ := last_of_mem_tickRounds hd hstop
    rw [← heq] at hbarred
    exact ⟨hlast, hbarred, fun after =>
      ⟨hbarred.interlude hin htick.1 after, hbarred.rounds hin htick.1 after⟩⟩
  · have hfresh : p.scene.Answered [] := fun _ hheld => absurd (.inl rfl) hheld
    have hanswered := (play_passage p.atRest before).answered hfresh
    exact overture_mark_of_answered hrest hanswered hopen hnone

/-- An event that brings Abigail on and goes on with these commands, on a stage without a game. -/
def rehearsed (commands : List String) : Premiere Float32 Rehearsal where
  id := "rehearsal"
  key := none
  commands := ["none", "follow", "Abigail 0 0 1"] ++ commands
  settings := .standard
  sceneData := []
  stage := {}
  library := none
  elapsed := 0

/-- A single walk stops the script at once. -/
theorem walk_stops_script :
    ∃ d ∈ (rehearsed ["move Abigail 5 0 1"]).scene.tickRounds table, d.Stopped ∧
      d.Barred ((rehearsed ["move Abigail 5 0 1"]).scene.tick table) := by
  have hrun : ((rehearsed ["move Abigail 5 0 1"]).scene.tickRounds table).any (fun d =>
      decide (d.working.get? d.pointer = some "move Abigail 5 0 1" ∧
        d.settings.isComment "move Abigail 5 0 1" = false ∧
        d.command.1 = "move" ∧ (moveGroups? d.command.2).isSome = true ∧
        moveContinues d.command.2 = false ∧
        (d.round table).1.barrier.isClosed = false)) = true := by
    decide +kernel
  obtain ⟨d, hd, hall⟩ := List.any_eq_true.mp hrun
  obtain ⟨hget, hcomment, hname, hform, hhalts, hopen⟩ := of_decide_eq_true hall
  rw [command, hget] at hname hform hhalts
  have hstopped : d.Stopped := ⟨⟨_, hget, hcomment, hname, hform, hhalts⟩, hopen⟩
  have hrelease := stopping_move_releases_once (rehearsed ["move Abigail 5 0 1"]) []
  rw [play_nil] at hrelease
  exact ⟨d, hd, hstopped, (hrelease.1 d hd hstopped).2.1⟩

/-- Abigail walks on while a malformed move is dispatched. -/
def strayMove : Premiere Float32 Rehearsal :=
  rehearsed ["beginSimultaneousCommand", "move Abigail 5 0 1 continue", "move Abigail",
    "pause 1000"]

/-- A malformed move is reported and passed over, also while somebody is on the way: it is not the
case that every move that is not told to go on holds the pointer while the barrier is open. -/
theorem malformed_move_passes :
    ¬ ∀ (p : Premiere Float32 Rehearsal) (before : List (HostMove Float32 Rehearsal)),
      ∀ d ∈ (p.scene.play table before).tickRounds table,
        d.command.1 = "move" → moveContinues d.command.2 = false →
          (d.round table).1.barrier.isClosed = false →
            ((p.scene.play table before).tick table).pointer = d.pointer := by
  intro h
  have hrun : (strayMove.scene.tickRounds table).any (fun d =>
      decide (d.command.1 = "move" ∧ moveContinues d.command.2 = false ∧
        (d.round table).1.barrier.isClosed = false ∧
        (strayMove.scene.tick table).pointer ≠ d.pointer)) = true := by
    decide +kernel
  obtain ⟨d, hd, hall⟩ := List.any_eq_true.mp hrun
  obtain ⟨hname, hhalts, hopen, hmoved⟩ := of_decide_eq_true hall
  have hheld := h strayMove []
  rw [play_nil] at hheld
  exact hmoved (hheld d hd hname hhalts hopen)

end Cutscene
