import Cutscene.Proofs.Conduct.Table
import Cutscene.Proofs.Place.Table
import Cutscene.Proofs.Tempo.Rounds

/-!
# Rounds at Their Places

Without the clock, a round does the same wherever the same text is under the pointer: it moves on
in the same way and leaves the same scene otherwise (`Scene.round_placed`).
-/

namespace Cutscene.Scene

variable {α : Type} [Scalar α] {d t : Scene α Rehearsal}

omit [Scalar α] in
lemma finish_placed (s : Scene α Rehearsal) (q : Place) (reports : List Report) (ending : Ending) :
    (s.placed q reports).finish ending = (s.finish ending).placed q reports := by
  have hover : (s.placed q reports).isTerminal = s.isTerminal := rfl
  unfold finish
  rw [hover]
  split <;> rfl

/-- A move that holds the script passes, once the movers have landed. -/
lemma untimed_placed (s : Scene α Rehearsal) (q : Place) (reports : List Report) :
    (s.placed q reports).untimed = if s.Free then s.bare.placed q reports
      else (s.advance 1).bare.placed ((Motion.pass 1).apply q) reports := rfl

/-- The text under the pointer is a prize that the player has not won, and takes the command after
it along. -/
structure Leaps (d : Scene α Rehearsal) : Prop where
  text : ∃ raw, d.At raw
  lost : d.LosesPrize d.command.1 d.command.2

/-- An event that was at `d` has come to `x` by a motion. -/
structure Moves (d x : Scene α Rehearsal) (m : Motion) : Prop where
  rested : m.GoesOn → x.wait = none
  leap : ∀ n, m = .pass n → n = 1 ∨ n = 2 ∧ d.Leaps

lemma Departs.untimed {raw : String} {m : Motion} (hat : d.At raw)
    (h : Departs d.command.1 d.command.2 d t m) (hd : d.Free) : ∃ m' x, Moves d x m' ∧ ∀ q reports,
      ((t.settled m).placed (m.apply q) reports).untimed = x.placed (m'.apply q) reports := by
  have hsettled : (t.settled m).Free ↔ t.Free := by cases m <;> exact Iff.rfl
  by_cases hfree : t.Free
  · refine ⟨m, (t.settled m).bare, ⟨fun hm => ?_, fun n hn => ?_⟩, fun q reports => ?_⟩
    · cases h.leaves with
      | passes n some pointer wait edits => exact congrArg (Option.map Wait.bare) wait
      | splices new pointer wait edits => exact congrArg (Option.map Wait.bare) wait
      | _ => exact hm.elim
    · exact (h.leap n hn).imp_right fun hlost => ⟨hlost.1, ⟨raw, hat⟩, hlost.2⟩
    · rw [untimed_placed, if_pos (hsettled.mpr hfree)]
  · obtain rfl := (h.free hd).resolve_left hfree
    refine ⟨.pass 1, ((t.settled .hold).advance 1).bare, ⟨fun _ => rfl, fun n hn => ?_⟩,
      fun q reports => ?_⟩
    · exact .inl (Motion.pass.inj hn).symm
    · rw [untimed_placed, if_neg (mt hsettled.mp hfree)]
      rfl

lemma round_of_end {s : Scene α Rehearsal} (hget : s.working.get? s.pointer = none) :
    (s.round Commands.table).1 = s.finish .plain := by
  unfold round
  rw [hget]

lemma round_of_comment {s : Scene α Rehearsal} {raw : String}
    (hget : s.working.get? s.pointer = some raw) (hcomment : s.settings.isComment raw = true) :
    (s.round Commands.table).1 = s.advance 1 := by
  unfold round
  rw [hget]
  dsimp only
  rw [if_pos hcomment]

/-- A text under the pointer does the same at every place. -/
lemma text_placed (hd : d.AtWork) {raw : String} (hat : d.At raw) : ∃ x m, Moves d x m ∧
    ∀ q reports, q.working.get? q.pointer = some raw → (d.placed q reports).AtWork →
      ∃ reports', ((d.placed q reports).round Commands.table).1.untimed =
        x.placed (m.apply q) reports' := by
  obtain ⟨m, t, hm, hrun⟩ := exists_motion Commands.table_isLawful
    (fun _ _ => Commands.table_local) (fun _ _ h => Commands.handler_fault h)
    (s := { d with chainRequested := false }) hd.edits raw
  rw [← At.command_eq hat] at hm
  have hleap : ∀ n, m = .pass n → n = 1 ∨ n = 2 ∧ d.LosesPrize d.command.1 d.command.2 :=
    fun n hn => (hm.leap n hn).imp_right fun h => ⟨h.1, ⟨h.2.named, h.2.unnamed, h.2.lost⟩⟩
  obtain ⟨m', x, hx, huntimed⟩ :=
    Departs.untimed (d := d) hat ⟨hm.leaves, hm.free, hleap⟩ hd.free
  -- The phase follows the command, unless the command is over the event.
  refine ⟨if (t.settled m).isTerminal then x else { x with phase := .running }, m', ?_, ?_⟩
  · refine ⟨fun hm' => ?_, hx.leap⟩
    split <;> exact hx.rested hm'
  intro q reports hq hu
  have hthere := hrun q reports hq
  generalize hv : runCommand Commands.table
    (({ d with chainRequested := false } : Scene α Rehearsal).placed q reports) q.pointer raw = v
    at hthere
  have hleft : v = (t.settled m).placed (m.apply q) v.reports :=
    congrArg (fun u : Scene α Rehearsal => ({ u with reports := v.reports } : Scene α _)) hthere
  have hleft' : v.untimed = x.placed (m'.apply q) v.reports :=
    (congrArg untimed hleft).trans (huntimed q v.reports)
  have hover : v.isTerminal = (t.settled m).isTerminal := by
    rw [hleft]
    rfl
  refine ⟨v.reports, ?_⟩
  rcases round_runs hu (show (d.placed q reports).At raw from ⟨hq, hat.2⟩) hv with
    ⟨hgoes, hround⟩ | ⟨hround, u, ending, hu, hend⟩
  · have hgoes : ¬ (t.settled m).isTerminal = true := by simp [← hover, hgoes]
    have hphase : ∀ c : Prop, [Decidable c] →
        (if c then Phase.running else Phase.suspended).bare = .running := by
      intro c _
      split <;> rfl
    rw [hround, settle_untimed, hphase, hleft', if_neg hgoes]
    rfl
  · have hover : (t.settled m).isTerminal = true := by
      rw [← hover, hend]
      exact (finish_ends hu ending).isTerminal
    rw [hround, hleft', if_pos hover]

/-- **Rounds do the same everywhere.** -/
theorem round_placed (hd : d.AtWork) : ∃ x m, Moves d x m ∧ ∀ q reports,
    q.working.get? q.pointer = d.working.get? d.pointer → (d.placed q reports).AtWork →
      ∃ reports', ((d.placed q reports).round Commands.table).1.untimed =
        x.placed (m.apply q) reports' := by
  cases hget : d.working.get? d.pointer with
  | none =>
    refine ⟨(d.finish .plain).bare, .hold, ⟨nofun, nofun⟩, fun q reports hq _ => ⟨reports, ?_⟩⟩
    rw [round_of_end (s := d.placed q reports) hq, finish_placed, untimed_placed,
      if_pos (Commands.finish_free hd.free .plain)]
    rfl
  | some raw =>
    cases hcomment : d.settings.isComment raw with
    | true =>
      refine ⟨(d.advance 1).bare, .pass 1, ⟨fun _ => rfl, fun n hn => ?_⟩,
        fun q reports hq _ => ⟨reports, ?_⟩⟩
      · exact .inl (Motion.pass.inj hn).symm
      · rw [round_of_comment (s := d.placed q reports) hq hcomment,
          untimed_of_free (s := (d.placed q reports).advance 1) hd.free]
        rfl
    | false => exact text_placed hd ⟨hget, hcomment⟩

end Cutscene.Scene
