import Cutscene.Proofs.Footprint.Spelled
import Cutscene.Proofs.Run.Dismissal
import Cutscene.Proofs.Troupe.Settled

/-!
# Actors That Were Stopped

A `halt` closes the barrier for everybody, and a `warp` takes its actor out of it. Whoever they stop
stays where he is until a command displaces actors again, if no path walks him: neither of the two
ends a path, and an actor who is on one walks on in the next tick.
-/

namespace Cutscene

open Commands

variable {α σ : Type} [Scalar α] [Stage α σ]

namespace Scene

variable {s t d : Scene α σ} {raw : String} {h : Handle} {x : Vec α} {past : List (Scene α σ)}

/-! ### The commands that stop actors -/

/-- The command under the pointer stops the actor: a `halt`, or a `warp` that is for him. -/
inductive Stills (d : Scene α σ) (h : Handle) : Prop
  | halts {raw : String} (spoken : d.At raw) (named : d.command.1 = "halt")
  | warps {raw : String} (spoken : d.At raw) (named : d.command.1 = "warp") {token : String}
      {tile : Tile} (actor : d.command.2.get 1 "actor" = .ok token)
      (place : d.command.2.point 2 "tile" = .ok tile)
      (meant : d.cast.resolve? (ActorRef.parse token) = some h)

lemma At.stills (hat : d.At "halt") (h : Handle) : d.Stills h := by
  have htokens : Script.tokens? "halt" = some ["halt"] := by decide +kernel
  exact .halts hat (by rw [hat.command_eq, commandOf_of_spelled htokens rfl])

/-- The command under the pointer puts actors in other places, sends them there, or changes who is
live. -/
def Displaces (s : Scene α σ) : Prop := (∃ raw, s.At raw) ∧ s.command.1 ∈ displacing

omit [Stage α σ] in
lemma warp_troupe {a : Args} {token : String} {tile : Tile} (hactor : a.get 1 "actor" = .ok token)
    (hplace : a.point 2 "tile" = .ok tile)
    (hmeant : s.cast.resolve? (ActorRef.parse token) = some h) :
    (warp a s).scene.barrier = s.barrier.remove h ∧ (warp a s).scene.paths = s.paths := by
  obtain ⟨b, hb⟩ := Option.isSome_iff_exists.mp (Cast.get?_isSome_of_resolve? hmeant)
  unfold warp
  rw [hactor, hplace]
  dsimp only [reading, withActor, bind, Except.bind, pure, Except.pure]
  rw [hmeant]
  dsimp only
  rw [hb]
  dsimp only
  cases a.wantsContinue 4 <;> exact ⟨rfl, rfl⟩

/-- A round leaves the troupe that its command leaves. -/
lemma round_troupe_of_run (hw : d.AtWork) (hat : d.At raw)
    (hrun : runCommand table { d with chainRequested := false } d.pointer raw =
      (t.onEvent Event.applyEdits).atEase) : (d.round table).1.troupe = t.troupe := by
  obtain ⟨phase, chain, heq⟩ := round_at hw hat
  have hframe := t.applyEdits_frame
  rw [heq, hrun]
  simp only [troupe, Troupe.mk.injEq]
  exact ⟨hframe.cast, hframe.barrier, hframe.paths⟩

/-- Whoever is stopped and not walked by a path is settled where the round leaves him. -/
lemma Stills.settled (hw : d.AtWork) (hstills : d.Stills h) (hunled : d.troupe.Unled h)
    (hhere : (d.round table).1.cast.HasAt h x) : (d.round table).1.troupe.Settled h x := by
  cases hstills with
  | halts spoken named =>
    have hrun := spoken.runs halt (by simp [builtIn]) named
    have htroupe := round_troupe_of_run hw spoken hrun
    refine ⟨?_, ?_, hhere⟩
    · rw [htroupe]
      exact List.not_mem_nil
    · rw [htroupe]
      exact hunled
  | warps spoken named actor place meant =>
    have hrun := spoken.runs warp (by simp [builtIn]) named
    obtain ⟨hbarrier, hpaths⟩ :=
      warp_troupe (s := ({ d with chainRequested := false } : Scene α σ).underWay) actor place meant
    have htroupe := round_troupe_of_run hw spoken hrun
    refine ⟨?_, ?_, hhere⟩
    · rw [htroupe, troupe, hbarrier]
      exact fun hmem => (Barrier.mem_movers_remove.mp hmem).2 rfl
    · rw [htroupe, troupe, hpaths]
      exact hunled

/-! ### What leaves a settled actor where he is -/

lemma round_settled (hw : s.AtWork) (hquiet : ¬ s.Displaces) (hs : s.troupe.Settled h x) :
    (s.round table).1.troupe.Settled h x := by
  rcases round_or_at s with hat | hend | hcomment
  · rcases round_troupe hw with hacts | ⟨-, hstill⟩
    · exact hs.acts (fun hmem => hquiet ⟨hat, hmem⟩) hacts
    · rw [hstill]
      exact hs.still
  · rw [hend, finish_troupe hw.isTerminal]
    exact hs.still
  · rw [hcomment]
    exact hs

omit [Scalar α] in
lemma skip_settled (hs : s.troupe.Settled h x) : s.skip.troupe.Settled h x := by
  rcases skip_troupe s with heq | heq
  · rwa [heq]
  · rw [heq]
    exact hs.dismissed

/-- Once the header has been read. -/
lemma overture_settled (hbegun : s.phase ≠ .uninitialized) (hsound : s.troupe.Sound)
    (hs : s.troupe.Settled h x) : s.overture.1.troupe.Settled h x := by
  have hopen : s.openEvent = (s, none) := by rw [openEvent, if_pos hbegun]
  unfold overture
  split
  · exact hs
  · split
    · exact skip_settled hs
    · rw [hopen]
      dsimp only
      have helapsed := hs.bound (.elapse (g := s.settings) hsound s.elapsed) List.not_mem_nil
      rw [resume_troupe]
      split
      · exact helapsed
      · exact helapsed.bound (.resolve (g := s.settings) (hsound.elapse s.elapsed s.settings))
          List.not_mem_nil

lemma apply_settled (hs : s.troupe.Settled h x) {move : HostMove α σ} (hmove : move ≠ .tick) :
    (move.apply table s).troupe.Settled h x := by
  cases move with
  | tick => exact absurd rfl hmove
  | skip => exact skip_settled hs
  | requestSkip => exact hs
  | surround stage library elapsed => exact hs
  | finish ending =>
    rw [HostMove.apply]
    cases hover : s.isTerminal with
    | true => rwa [finish_of_isTerminal hover]
    | false =>
      rw [finish_troupe hover]
      exact hs.still

/-! ### Along a run -/

/-- Whoever was stopped in one of the rounds, with no path that walked him, is settled where he was
left, if no round since then has displaced actors. -/
structure Minded (h : Handle) (past : List (Scene α σ)) (s : Scene α σ) : Prop where
  ruled : s.Ruled fun _ T => T.Sound
  begun : past ≠ [] → s.phase ≠ .uninitialized
  settled : ∀ earlier d quiet x, past = earlier ++ d :: quiet → d.Stills h → d.troupe.Unled h →
    (d.round table).1.cast.HasAt h x → (∀ q ∈ quiet, ¬ q.Displaces) → s.troupe.Settled h x

theorem minded_chronicle (h : Handle) : Chronicle (Minded (α := α) (σ := σ) h) where
  overture {past s} hrest hs := by
    refine ⟨hs.ruled.overture Troupe.sound_rule hrest, fun hpast hfresh => ?_, ?_⟩
    · have hsame := overture_phase hrest hfresh
      rw [hsame] at hfresh
      exact hs.begun hpast hfresh
    · intro earlier d quiet x hsplit hstills hunled hhere hquiet
      exact overture_settled (hs.begun (by simp [hsplit])) hs.ruled.rule
        (hs.settled earlier d quiet x hsplit hstills hunled hhere hquiet)
  round {past s} hw hs := by
    refine ⟨hs.ruled.round Troupe.sound_rule hw, fun _ => round_phase hw, ?_⟩
    intro earlier d quiet x hsplit hstills hunled hhere hquiet
    rcases List.eq_nil_or_concat quiet with rfl | ⟨before, q, rfl⟩
    · obtain ⟨-, heq⟩ := List.append_inj' hsplit rfl
      obtain rfl : s = d := by simpa using heq
      exact hstills.settled hw hunled hhere
    · rw [List.concat_eq_append, ← List.cons_append, ← List.append_assoc] at hsplit
      obtain ⟨hbefore, heq⟩ := List.append_inj' hsplit rfl
      obtain rfl : s = q := by simpa using heq
      exact round_settled hw (hquiet s (by simp)) (hs.settled earlier d before x hbefore hstills
        hunled hhere fun q hq => hquiet q (by simp [hq]))
  move {past s} move hmove hrest hs := by
    refine ⟨hs.ruled.apply Troupe.sound_rule hrest move hmove, fun hpast hfresh => ?_, ?_⟩
    · rcases (apply_of_ne_tick hrest.toCalm hmove table).2 with hsame | ⟨-, o, ho, -⟩
      · exact hs.begun hpast (hsame.phase.symm.trans hfresh)
      · rw [ho.phase] at hfresh
        cases o <;> cases hfresh
    · intro earlier d quiet x hsplit hstills hunled hhere hquiet
      exact apply_settled (hs.settled earlier d quiet x hsplit hstills hunled hhere hquiet) hmove

lemma Minded.dismiss (hrest : s.AtRest) (hs : Minded h past s) {k : Handle} (hne : k ≠ h) :
    Minded h past (s.onEvent (·.removeActor k)) where
  ruled := hs.ruled.incident Troupe.sound_rule hrest (.dismiss k)
  begun := hs.begun
  settled earlier d quiet x hsplit hstills hunled hhere hquiet :=
    (hs.settled earlier d quiet x hsplit hstills hunled hhere hquiet).bound
      (.without (g := s.settings) s.troupe k) (by simpa using hne.symm)

/-- A law that looks back holds amid incidents too, if those who are taken off do not matter to
it. -/
theorem Chronicle.undergo {law : List (Scene α σ) → Scene α σ → Prop} (c : Chronicle law)
    {incidents : List (Incident α σ)}
    (hdismiss : ∀ k, .dismiss k ∈ incidents → ∀ {past s}, s.AtRest → law past s →
      law past (s.onEvent (·.removeActor k)))
    (hrest : s.AtRest) (hs : law past s) :
    law (past ++ s.roundsAmid table incidents) (s.undergo table incidents) ∧
      Recounted law past (s.roundsAmid table incidents) := by
  induction incidents generalizing s past with
  | nil =>
    rw [roundsAmid, List.append_nil]
    exact ⟨hs, trivial⟩
  | cons incident rest ih =>
    have hstep : law (past ++ incident.rounds table s) (incident.apply table s) ∧
        Recounted law past (incident.rounds table s) := by
      cases incident with
      | host move => exact c.apply hrest hs move
      | dismiss k =>
        refine ⟨?_, trivial⟩
        rw [Incident.rounds, List.append_nil]
        exact hdismiss k List.mem_cons_self hrest hs
    obtain ⟨hlast, hlater⟩ := ih (fun k hk => hdismiss k (List.mem_cons_of_mem _ hk))
      (hrest.incident incident) hstep.1
    rw [roundsAmid, ← List.append_assoc]
    exact ⟨hlast, hstep.2.append hlater⟩

end Scene

open Scene

/-- **Actors that were stopped stay put.** Whoever is stopped by a `halt` or by a `warp` while no
path walks him is from then on found where the round has left him, before every round up to the next
that displaces actors, and at the end of the run if there is none. -/
theorem stopped_actors_stay (p : Premiere α σ) (incidents : List (Incident α σ)) (h : Handle)
    (hlive : .dismiss h ∉ incidents) :
    ∀ earlier d later x, p.scene.roundsAmid table incidents = earlier ++ d :: later →
      d.Stills h → d.troupe.Unled h → (d.round table).1.cast.HasAt h x →
      (∀ quiet e rest, later = quiet ++ e :: rest → (∀ q ∈ quiet, ¬ q.Displaces) →
        e.cast.HasAt h x) ∧
      ((∀ q ∈ later, ¬ q.Displaces) → (p.scene.undergo table incidents).cast.HasAt h x) := by
  intro earlier d later x hrounds hstills hunled hhere
  have hfirst : Minded h [] p.scene :=
    ⟨p.ruled (.of_idle rfl rfl), by simp, fun _ _ _ _ hsplit => by simp at hsplit⟩
  have hdismiss : ∀ k, .dismiss k ∈ incidents → ∀ {past} {s : Scene α σ}, s.AtRest →
      Minded h past s → Minded h past (s.onEvent (·.removeActor k)) :=
    fun k hk _ _ hrest hs => hs.dismiss hrest fun heq => hlive (heq ▸ hk)
  obtain ⟨hlast, hall⟩ := (minded_chronicle h).undergo hdismiss p.atRest hfirst
  rw [List.nil_append, hrounds] at hlast
  rw [hrounds] at hall
  constructor
  · rintro quiet e rest rfl hquiet
    have hsplit : earlier ++ d :: (quiet ++ e :: rest) = (earlier ++ d :: quiet) ++ e :: rest := by
      simp
    rw [hsplit] at hall
    exact (hall.at.settled earlier d quiet x (by simp) hstills hunled hhere hquiet).here
  · exact fun hquiet => (hlast.settled earlier d later x rfl hstills hunled hhere hquiet).here

/-- Abigail is stopped two pixels on her way. -/
def stoppedShort : Premiere ℚ Rehearsal :=
  rehearsedExactly ["move Abigail 5 0 1 continue", "halt", "pause 1000"]

/-- There she stays. -/
theorem halted_walker_stays : ∃ sent d held,
    stoppedShort.scene.roundsAmid table [.host .tick, .host .tick, .host .tick] = [sent, d, held] ∧
      d.Stills ⟨0⟩ ∧ d.troupe.Unled ⟨0⟩ ∧ (d.round table).1.cast.HasAt ⟨0⟩ ⟨2, 0⟩ ∧
      held.cast.HasAt ⟨0⟩ ⟨2, 0⟩ ∧
      (stoppedShort.scene.undergo table [.host .tick, .host .tick, .host .tick]).cast.HasAt ⟨0⟩
        ⟨2, 0⟩ := by
  obtain ⟨l, hl⟩ : ∃ l, l = stoppedShort.scene.roundsAmid table
    [.host .tick, .host .tick, .host .tick] := ⟨_, rfl⟩
  have hlength : l.length = 3 := by
    rw [hl, table_eq_spelled]
    decide +kernel
  have hsecond : l.tail.head?.any (fun e =>
      decide (e.working.get? e.pointer = some "halt") && !e.settings.isComment "halt" &&
      e.paths.isEmpty &&
      decide (((e.round table).1.cast.get? ⟨0⟩).map Actor.position = some ⟨2, 0⟩)) = true := by
    rw [hl, table_eq_spelled]
    decide +kernel
  have hlast : l.getLast?.any (fun e =>
      decide (e.working.get? e.pointer = some "pause 1000")) = true := by
    rw [hl, table_eq_spelled]
    decide +kernel
  obtain ⟨sent, d, held, rfl⟩ := List.length_eq_three.mp hlength
  simp only [List.tail_cons, List.head?_cons, Option.any_some, Bool.and_eq_true, decide_eq_true_eq,
    Bool.not_eq_true', List.isEmpty_iff] at hsecond
  obtain ⟨⟨⟨hget, hcomment⟩, hpaths⟩, hplace⟩ := hsecond
  have hpause : held.working.get? held.pointer = some "pause 1000" := by simpa using hlast
  have hstills : d.Stills ⟨0⟩ := At.stills ⟨hget, hcomment⟩ ⟨0⟩
  have hunled : d.troupe.Unled ⟨0⟩ := by simp [Troupe.Unled, Scene.troupe, hpaths]
  have hhere : (d.round table).1.cast.HasAt ⟨0⟩ ⟨2, 0⟩ := by
    obtain ⟨a, ha, hposition⟩ := Option.map_eq_some_iff.mp hplace
    exact ⟨a, ha, hposition⟩
  have hquiet : ¬ held.Displaces := by
    rintro ⟨⟨raw, hat⟩, hmem⟩
    obtain rfl := Option.some.inj (hpause.symm.trans hat.1)
    have htokens : Script.tokens? "pause 1000" = some ["pause", "1000"] := by decide +kernel
    rw [hat.command_eq, commandOf_of_spelled htokens rfl] at hmem
    simp [displacing] at hmem
  obtain ⟨hbefore, hafter⟩ := stopped_actors_stay stoppedShort
    [.host .tick, .host .tick, .host .tick] ⟨0⟩ (by simp) [sent] d [held] ⟨2, 0⟩ hl.symm hstills
    hunled hhere
  exact ⟨sent, d, held, hl.symm, hstills, hunled, hhere, hbefore [] held [] rfl (by simp),
    hafter (by simpa using hquiet)⟩

/-- Abigail is stopped while a path walks her. -/
def stoppedOnPath : Premiere ℚ Rehearsal :=
  rehearsedExactly ["advancedMove Abigail false 5 0", "halt", "pause 1000"]

/-- She walks on: it is not the case that whoever is stopped stays where he is until actors are
displaced again. -/
theorem halted_walker_goes_on :
    ¬ ∀ (p : Premiere ℚ Rehearsal) (incidents : List (Incident ℚ Rehearsal)) (h : Handle),
      .dismiss h ∉ incidents → ∀ earlier d later x,
        p.scene.roundsAmid table incidents = earlier ++ d :: later → d.Stills h →
        (d.round table).1.cast.HasAt h x →
        ∀ quiet e rest, later = quiet ++ e :: rest → (∀ q ∈ quiet, ¬ q.Displaces) →
          e.cast.HasAt h x := by
  intro hclaim
  obtain ⟨l, hl⟩ : ∃ l, l = stoppedOnPath.scene.roundsAmid table
    [.host .tick, .host .tick, .host .tick] := ⟨_, rfl⟩
  have hlength : l.length = 3 := by
    rw [hl, table_eq_spelled]
    decide +kernel
  have hsecond : l.tail.head?.any (fun e =>
      decide (e.working.get? e.pointer = some "halt") && !e.settings.isComment "halt" &&
      decide (((e.round table).1.cast.get? ⟨0⟩).map Actor.position = some ⟨2, 0⟩)) = true := by
    rw [hl, table_eq_spelled]
    decide +kernel
  have hlast : l.getLast?.any (fun e =>
      decide ((e.cast.get? ⟨0⟩).map Actor.position = some ⟨4, 0⟩)) = true := by
    rw [hl, table_eq_spelled]
    decide +kernel
  obtain ⟨led, d, later, rfl⟩ := List.length_eq_three.mp hlength
  simp only [List.tail_cons, List.head?_cons, Option.any_some, Bool.and_eq_true, decide_eq_true_eq,
    Bool.not_eq_true'] at hsecond
  obtain ⟨⟨hget, hcomment⟩, hplace⟩ := hsecond
  have hmoved : (later.cast.get? ⟨0⟩).map Actor.position = some ⟨4, 0⟩ := by simpa using hlast
  have hstills : d.Stills ⟨0⟩ := At.stills ⟨hget, hcomment⟩ ⟨0⟩
  have hhere : (d.round table).1.cast.HasAt ⟨0⟩ ⟨2, 0⟩ := by
    obtain ⟨a, ha, hposition⟩ := Option.map_eq_some_iff.mp hplace
    exact ⟨a, ha, hposition⟩
  obtain ⟨a, ha, hposition⟩ := hclaim stoppedOnPath [.host .tick, .host .tick, .host .tick] ⟨0⟩
    (by simp) [led] d [later] ⟨2, 0⟩ hl.symm hstills hhere [] later [] rfl (by simp)
  rw [ha, Option.map_some, hposition] at hmoved
  exact absurd (Option.some.inj hmoved) (by decide +kernel)

end Cutscene
