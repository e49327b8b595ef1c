import Cutscene.Proofs.Conduct.Table
import Cutscene.Proofs.Run.Release

/-!
# The Overlay of a Gate

While an event goes on, the overlay that says for whom the player waits is up exactly while its
script waits at a gate, and shows that gate. An event that comes to its own end leaves no overlay.
One that is skipped, or finished by its host, while it waits at a gate drops the wait and leaves the
overlay up: nobody takes it away any more.
-/

namespace Cutscene

variable {α σ : Type} [Scalar α] [Stage α σ]

namespace Scene

variable {s t r : Scene α σ} {name : String} {a : Args}

/-- The overlay shows the gate at which the script waits, and no other. -/
def Shown (s : Scene α σ) : Prop := s.overlay = s.wait.bind Wait.gate?

omit [Scalar α] [Stage α σ] in
lemma shown_iff : s.Shown ↔ ∀ gate, s.overlay = some gate ↔ s.wait = some (.gate gate) := by
  have hgate : ∀ gate, s.wait.bind Wait.gate? = some gate ↔ s.wait = some (.gate gate) := by
    intro gate
    rcases s.wait with _ | w
    · simp
    · cases w <;> simp [Wait.gate?]
  unfold Shown
  constructor
  · intro h gate
    rw [h, hgate]
  · intro h
    refine Option.ext fun gate => ?_
    rw [h, hgate]

omit [Scalar α] [Stage α σ] in
lemma Owned.gate_eq_none (h : s.Owned name a) (hn : name ≠ "waitForOtherPlayers") :
    s.wait.bind Wait.gate? = none := by
  cases hw : s.wait with
  | none => rfl
  | some w =>
    cases w with
    | gate g => exact absurd (h _ hw).1 hn
    | _ => rfl

/-! ### The one command -/

omit [Scalar α] in
lemma waitForOtherPlayers_shown (howned : s.Owned "waitForOtherPlayers" a) (hs : s.Shown) :
    (Commands.waitForOtherPlayers a s).scene.Shown := by
  rw [Commands.waitForOtherPlayers_eq]
  cases hread : a.get 1 "gate" with
  | error e =>
    -- A wait at a gate would need the token that could not be read.
    have hnone : s.wait.bind Wait.gate? = none := by
      cases hw : s.wait with
      | none => rfl
      | some w =>
        cases w with
        | gate g =>
          have hget : a.get? 1 = some g := (howned _ hw).2
          simp [Args.get, hget] at hread
        | _ => rfl
    exact hs.trans hnone
  | ok gate =>
    have hgone : ∀ u : Scene α σ, ((u.call (.waitingForPlayers none)).advance 1).Shown :=
      fun u => overlay_waitingForPlayers u none
    dsimp only [reading]
    split
    · split
      · exact hgone s
      · exact hs
    · split
      · exact hgone _
      · exact overlay_waitingForPlayers (s.call (.requestReady gate)) (some gate)

omit [Stage α σ] in
lemma Conduct.applyEdits_wait (hs : s.Calm) (h : Conduct name a s.underWay r) (hk : s.Kempt)
    (howned : s.Owned name a) : (r.onEvent Event.applyEdits).wait = r.wait := by
  rcases h.applyEdits_or hs hk howned with hnone | ⟨-, -, -, hsame⟩
  · exact (r.applyEdits_eases.wait hnone).trans hnone.symm
  · rw [hsame]

/-! ### A round -/

lemma runCommand_shown {table : CommandTable (Handler α σ)} {raw : String}
    (htable : ∀ name handler, table.resolve? name = some ("waitForOtherPlayers", handler) →
      handler = Commands.waitForOtherPlayers)
    (hname : (table.commandOf raw).1 = "waitForOtherPlayers") (hc : s.Calm) (hk : s.Kempt)
    (howned : s.Owned "waitForOtherPlayers" (table.commandOf raw).2) (hs : s.Shown) :
    (runCommand table s s.pointer raw).Shown := by
  have hfault : ∀ a (s : Scene α σ), (Commands.waitForOtherPlayers a s).fault = none :=
    fun a s => (Commands.waitForOtherPlayers_obeys a s).fault
  have hconduct := Commands.waitForOtherPlayers_conduct (table.commandOf raw).2 s.underWay
  have hshown := waitForOtherPlayers_shown (s := s.underWay) howned hs
  rw [runCommand_of_name htable hfault (by decide) hname]
  have hwait := hconduct.applyEdits_wait hc hk howned
  exact hshown.trans (congrArg (Option.bind · Wait.gate?) hwait.symm)

/-- Every round leaves the overlay that belongs to the wait it leaves. -/
theorem round_shown (hw : s.AtWork) (ha : s.Attended) (hs : s.Shown) :
    (s.round Commands.table).1.Shown := by
  have hround := round_conduct hw
  by_cases hat : ∃ raw, s.At raw
  · by_cases hname : s.command.1 = "waitForOtherPlayers"
    · obtain ⟨raw, hraw⟩ := hat
      obtain ⟨phase, chain, heq⟩ := round_at hw hraw
      have howned := ha.owned
      rw [hname, hraw.command_eq] at howned
      rw [hraw.command_eq] at hname
      have hcalm := hw.unchained
      have hrun :
          (runCommand Commands.table { s with chainRequested := false } s.pointer raw).Shown :=
        runCommand_shown (fun _ _ => Commands.handler_of_resolve? (by simp [Commands.builtIn]))
          hname hcalm ⟨ha.cast, ha.paths⟩ howned hs
      rw [heq]
      exact hrun
    · have hnone : s.overlay = none := hs.trans (ha.owned.gate_eq_none hname)
      refine (hround.overlay hname).trans (hnone.trans ?_)
      rcases hround.wait ha.toKempt ha.owned with hwait | ⟨-, -, hown⟩
      · rw [hwait]
        rfl
      · exact (hown.gate_eq_none hname).symm
  · have hidle : s.wait = none := by
      by_contra hwait
      exact hat (ha.spoken hwait)
    have hnone : s.overlay = none := hs.trans (by rw [hidle]; rfl)
    rcases (round_or_at s).resolve_left hat with heq | heq
    · rw [heq]
      unfold Shown
      rw [((Tidy.refl s).finish .plain).overlay, hnone, finish_wait hw.isTerminal .plain]
      rfl
    · rw [heq]
      exact hnone

/-- A round that is over the event leaves no wait. -/
lemma round_wait_of_isTerminal (hw : s.AtWork)
    (hover : (s.round Commands.table).1.isTerminal = true) :
    (s.round Commands.table).1.wait = none := by
  rcases round_or_at s with ⟨raw, hat⟩ | heq | heq
  · rcases round_cases hw with ⟨-, o, ho⟩ | ho
    · rcases round_runs hw hat rfl with ⟨hgoes, heq⟩ | ⟨heq, u, ending, hu, hend⟩
      · -- What has run on is not over, whatever phase is noted.
        rw [heq, isTerminal_of_phase ((em _).imp (if_pos ·) (if_neg ·))] at hover
        cases hover
      · rw [heq, hend]
        exact finish_wait hu ending
    · rw [isTerminal_of_phase ho.phase] at hover
      cases hover
  · rw [heq]
    exact finish_wait hw.isTerminal .plain
  · rw [heq]
    rfl

/-! ### A run -/

/-- Every wait is attended to. While the event goes on, the overlay shows the gate that is waited
at, and a script that is held up by a move waits for nothing else. -/
structure Screened (s : Scene α σ) : Prop where
  attended : s.Attended
  shown : s.isTerminal = false → s.Shown
  idle : s.isTerminal = false → ¬ s.Free → s.wait = none

lemma Screened.round (hw : s.AtWork) (hs : s.Screened) :
    (s.round Commands.table).1.Screened where
  attended := hs.attended.round hw
  shown := fun _ => round_shown hw hs.attended (hs.shown hw.isTerminal)
  idle := by
    intro hgoes hheld
    rcases round_cases hw with ⟨-, o, ho⟩ | ho
    · rw [ho.isTerminal] at hgoes
      cases hgoes
    · rcases ho.turn.free hw.free with hfree | ⟨hstops, hstand⟩
      · exact absurd hfree hheld
      · -- Only a move holds the script up, and no wait belongs to a move.
        have hown := (hs.attended.round hw).owned
        rw [command_of_stand (w := s.wait) hstand, hstops.named] at hown
        exact hown.wait_eq_none (by decide)

lemma Screened.overture (hrest : s.AtRest) (hs : s.Screened) : s.overture.1.Screened := by
  have hattended := hs.attended.overture hrest
  rcases overture_cases hrest with ⟨-, heq⟩ | ⟨-, -, o, -, ho⟩ | ⟨hgoes, -, ho⟩
  · rwa [heq]
  · refine ⟨hattended, fun hgoes => ?_, fun hgoes => ?_⟩
    · rw [ho.isTerminal] at hgoes
      cases hgoes
    · rw [ho.isTerminal] at hgoes
      cases hgoes
  · have hsame : s.overture.1.wait = s.wait → s.overture.1.Shown := by
      intro hwait
      unfold Shown
      rw [(overture_tidy s).overlay, hwait]
      exact hs.shown hgoes
    cases ho.opened with
    | stays stand free =>
      have hwait : s.overture.1.wait = s.wait := congrArg Stand.wait stand
      exact ⟨hattended, fun _ => hsame hwait,
        fun _ hheld => hwait.trans (hs.idle hgoes fun h => hheld (free.mp h))⟩
    | reads fresh n len stand free =>
      exact ⟨hattended, fun _ => hsame (congrArg Stand.wait stand),
        fun _ hheld => absurd free hheld⟩
    | lands held stop closed running stand =>
      have hwait : s.overture.1.wait = none := congrArg Stand.wait stand
      exact ⟨hattended, fun _ => hsame (hwait.trans (hs.idle hgoes held).symm),
        fun _ hheld => absurd (.inl closed) hheld⟩

/-- The moves between the ticks either end the event or leave the script and the overlay alone. -/
lemma screened_habit : Habit (Screened : Scene α σ → Prop) where
  overture _ hrest hs := hs.overture hrest
  round _ hw hs := hs.round hw
  skip s hrest hs := by
    have hattended := attended_habit.skip s hrest hs.attended
    cases hover : s.isTerminal with
    | true => rwa [skip_of_isTerminal hover]
    | false =>
      obtain ⟨o, -, ho⟩ := skip_ends hrest.toCalm hover
      have hnot : s.skip.isTerminal ≠ false := by simp [ho.isTerminal]
      exact ⟨hattended, fun hgoes => absurd hgoes hnot, fun hgoes => absurd hgoes hnot⟩
  finish s ending hrest hs := by
    have hattended := attended_habit.finish s ending hrest hs.attended
    cases hover : s.isTerminal with
    | true => rwa [finish_of_isTerminal hover]
    | false =>
      have hnot : (s.finish ending).isTerminal ≠ false := by
        simp [(finish_ends hover ending).isTerminal]
      exact ⟨hattended, fun hgoes => absurd hgoes hnot, fun hgoes => absurd hgoes hnot⟩
  requestSkip s hs := ⟨attended_habit.requestSkip s hs.attended, hs.shown, hs.idle⟩
  surround s stage library elapsed hs :=
    ⟨attended_habit.surround s stage library elapsed hs.attended, hs.shown, hs.idle⟩

end Scene

lemma Premiere.screened (p : Premiere α σ) : p.scene.Screened where
  attended := p.attended
  shown := fun _ => rfl
  idle := fun _ _ => rfl

open Scene Commands

/-- **The overlay shows the gate that is waited at, while the event goes on.** In every scene of
every run whose event is not over, the last request for the overlay named a gate exactly if the
script waits at this gate. A round that is over the event leaves neither a wait nor an overlay. A
skip, and likewise a host that finishes the event, drops the wait and leaves the overlay as it
was. -/
theorem overlay_shows_gate (p : Premiere α σ) (moves : List (HostMove α σ)) :
    (∀ t ∈ p.scene.course table moves, t.isTerminal = false →
      (∀ gate, t.overlay = some gate ↔ t.wait = some (.gate gate)) ∧
      (t.skip.wait = none ∧ t.skip.overlay = t.overlay) ∧
      ∀ ending, (t.finish ending).wait = none ∧ (t.finish ending).overlay = t.overlay) ∧
    ∀ d ∈ p.scene.rounds table moves, (d.round table).1.isTerminal = true →
      (d.round table).1.wait = none ∧ (d.round table).1.overlay = none := by
  constructor
  · intro t ht hgoes
    obtain ⟨hrest, hs⟩ := screened_habit.kept.course ⟨p.atRest, p.screened⟩ moves t ht
    exact ⟨shown_iff.mp (hs.shown hgoes),
      ⟨skip_wait hrest.toCalm hgoes, (Tidy.skip (.refl t)).overlay⟩,
      fun ending => ⟨finish_wait hgoes ending, ((Tidy.refl t).finish ending).overlay⟩⟩
  · intro d hd hover
    obtain ⟨hw, hs⟩ := screened_habit.kept.rounds ⟨p.atRest, p.screened⟩ moves d hd
    have hwait := round_wait_of_isTerminal hw hover
    have hshown := round_shown hw hs.attended (hs.shown hw.isTerminal)
    refine ⟨hwait, hshown.trans ?_⟩
    rw [hwait]
    rfl

/-- An event that is skipped while its script waits at a gate is over, and the overlay is still
up. -/
theorem skip_leaves_overlay :
    ((rehearsed ["waitForOtherPlayers dance", "end"]).scene.play table [.tick, .skip]).overlay =
        some "dance" ∧
      ((rehearsed ["waitForOtherPlayers dance", "end"]).scene.play table [.tick, .skip]).wait =
        none ∧
      ((rehearsed ["waitForOtherPlayers dance", "end"]).scene.play table [.tick, .skip]).phase =
        .skipped := by
  decide +kernel

end Cutscene
