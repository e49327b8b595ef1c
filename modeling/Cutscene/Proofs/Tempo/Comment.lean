import Cutscene.Proofs.Place.Gloss
import Cutscene.Proofs.Place.Opening
import Cutscene.Proofs.Run.Fatal
import Cutscene.Proofs.Tempo.Transcript

/-!
# Comments Only Cost Time

A comment in the list takes a round of its own and may break up commands that run together, and so
it takes time. Without the clock, a run of the list with the comment goes through the scenes of a
run of the list without it (`Scene.Glossed`).
-/

namespace Cutscene

variable {α : Type} [Scalar α]

namespace Scene

/-- A run with the comment, which began at `start`, has come as far as the scene `x` of the run
without it. -/
structure Glossed (f : Scene α Rehearsal → Scene α Rehearsal) (start : Scene α Rehearsal)
    (comment : String) (after : List String) (x : Scene α Rehearsal) : Prop where
  marked : x.settings.isComment comment = true
  reached : ∃ q reports, Relation.ReflTransGen (Beat f) start (x.placed q reports) ∧
    (Abreast comment after x.place q ∨ x.wait = none ∧ AtComment comment after x.place q)

variable {f : Scene α Rehearsal → Scene α Rehearsal} {start s d : Scene α Rehearsal}
  {comment : String} {after : List String}

/-! ### Rounds -/

omit [Scalar α] in
lemma AtWork.placed (hd : d.AtWork) {q : Place} (hq : q.pointer ≤ q.working.size)
    (reports : List Report) : (d.placed q reports).AtWork :=
  ⟨⟨hd.dispatching, hd.edits, hq⟩, hd.phase, hd.skipRequested, hd.free⟩

/-- The run with the comment passes over it before the other goes on. -/
lemma Glossed.abreast (hf : Rhythm f) (hs : d.Tame) (hd : d.AtWork)
    (h : Glossed f start comment after d.bare) : ∃ q reports,
      Relation.ReflTransGen (Beat f) start (d.bare.placed q reports) ∧
        Abreast comment after d.place q := by
  obtain ⟨q, reports, hreach, habreast | ⟨hwait, hthere⟩⟩ := h.reached
  · exact ⟨q, reports, hreach, habreast⟩
  · have hget := hthere.get?
    have hd' : (d.placed q reports).AtWork :=
      hd.placed (List.getElem?_eq_some_iff.mp hget).1.le reports
    have hround := round_beats hf (s := d.placed q reports) ⟨hs.cast, hs.paths⟩ hd'
    rw [round_of_comment (s := d.placed q reports) hget h.marked,
      untimed_of_free (s := (d.placed q reports).advance 1) hd.free] at hround
    have hpassed : ((d.placed q reports).advance 1).bare =
        d.bare.placed ((Motion.pass 1).apply q) reports :=
      congrArg (fun w => ({ d.bare with wait := w } : Scene α Rehearsal).placed
        ((Motion.pass 1).apply q) reports) hwait.symm
    rw [hpassed] at hround
    exact ⟨_, reports, hreach.trans hround, hthere.pass⟩

/-- A round of the run without the comment is a round of the other, too. -/
lemma Glossed.round (hf : Rhythm f) (hs : d.Tame) (hd : d.AtWork)
    (hleap : d.Leaps → ¬ d.place.Before after) (h : Glossed f start comment after d.bare) :
    Glossed f start comment after (d.round Commands.table).1.untimed := by
  obtain ⟨q, reports, hreach, habreast⟩ := h.abreast hf hs hd
  obtain ⟨x, m, hm, hx⟩ := round_placed hd
  have hd' := hd.placed (habreast.room hd.pointer) reports
  obtain ⟨rest, hplain⟩ : ∃ rest, (d.round Commands.table).1.untimed =
      x.placed (m.apply d.place) rest := hx d.place d.reports rfl hd
  obtain ⟨rest', hglossed⟩ := hx q reports habreast.get? hd'
  have hround := round_beats hf (s := d.placed q reports) ⟨hs.cast, hs.paths⟩ hd'
  rw [hglossed] at hround
  have hnext := habreast.apply m fun n hn => (hm.leap n hn).imp_right (And.imp_right hleap)
  refine ⟨?_, m.apply q, rest', ?_, ?_⟩
  · rw [untimed_same (g := fun v => v.settings.isComment comment) (fun _ => rfl) fun _ => rfl,
      (round_conduct hd).settings]
    exact h.marked
  · rw [hplain]
    exact hreach.trans hround
  · rw [hplain]
    exact hnext.imp_right (And.imp_left hm.rested)

/-! ### Runs -/

end Scene

open Scene

variable {f : Scene α Rehearsal → Scene α Rehearsal} {comment : String}
  {before after : List String}

end Cutscene
