import Cutscene.Proofs.Run.Budget

/-!
# The Round That Comes Next

Between two rounds of a run the host and its surroundings have their turn, and a tick may begin.
None of this moves the pointer of an event that has begun, unless a move holds the script. So where
a round leaves the script, the next one takes it up, if there is a next one.
-/

namespace Cutscene

variable {α σ : Type} [Scalar α] [Stage α σ]

namespace Scene

variable {s t d e : Scene α σ} {earlier held later : List (Scene α σ)}

/-- No run changes the settings. -/
lemma settings_habit (g : Settings α) : Habit fun s : Scene α σ => s.settings = g where
  overture s _ hs := (overture_tidy s).settings.trans hs
  round _ hw hs := (round_conduct hw).settings.trans hs
  skip s _ hs := (Tidy.skip (.refl s)).settings.trans hs
  finish s ending _ hs := ((Tidy.refl s).finish ending).settings.trans hs
  requestSkip _ hs := hs
  surround _ _ _ _ hs := hs

namespace Passage

/-- What comes after a round is a passage from the scene that the round leaves. -/
lemma after_round (h : Passage s (earlier ++ d :: later) t) :
    d.AtWork ∧ Passage (d.round Commands.table).1 later t := by
  generalize hall : earlier ++ d :: later = scenes at h
  induction h generalizing earlier with
  | stays => simp at hall
  | pauses _ _ _ ih => exact ih hall
  | rounds work hlater ih =>
    cases earlier with
    | nil =>
      obtain ⟨rfl, rfl⟩ := List.cons.inj hall
      exact ⟨work, hlater⟩
    | cons e earlier => exact ih (List.cons.inj hall).2

/-- The next round finds the script as it was left. -/
lemma next (h : Passage s (d :: later) t) (hbegun : s.phase ≠ .uninitialized) (hfree : s.Free) :
    d.stand = s.stand := by
  generalize hall : d :: later = scenes at h
  induction h with
  | stays => simp at hall
  | rounds =>
    obtain ⟨rfl, -⟩ := List.cons.inj hall
    rfl
  | pauses _ interval hrest ih =>
    cases interval with
    | untouched same =>
      rw [ih (by rwa [same.phase]) (hfree.of_eq (by rw [same.event]) (by rw [same.event])) hall,
        same.stand]
    | ends _ o ends =>
      -- An event that is over has no next round.
      rw [hrest.idle ends.isTerminal] at hall
      cases hall
    | opens _ more opening =>
      have hbegun' := ne_uninitialized_of_phase opening.phase
      cases opening.opened with
      | stays stand free => rw [ih hbegun' (free.mp hfree) hall, stand]
      | reads fresh => exact absurd fresh hbegun
      | lands held => exact absurd hfree held

/-- The next round takes the script up where this one has left it, unless this one is of a move. -/
theorem next_round (h : Passage s (earlier ++ d :: e :: later) t) (hname : d.command.1 ≠ "move") :
    e.stand = (d.round Commands.table).1.stand := by
  obtain ⟨hw, hrest⟩ := h.after_round
  rcases round_cases hw with ⟨-, o, ho⟩ | ho
  · have hidle := hrest.idle ho.isTerminal
    cases hidle
  · refine hrest.next (ne_uninitialized_of_phase ho.phase) ?_
    exact (ho.turn.free hw.free).resolve_right fun hstops => hname hstops.1.named

/-- The same, with rounds between that leave the script as they find it. -/
theorem next_of_held (h : Passage s (earlier ++ d :: (held ++ e :: later)) t)
    (hname : d.command.1 ≠ "move")
    (hheld : ∀ f ∈ held, f.AtWork → f.stand = (d.round Commands.table).1.stand →
      f.command.1 ≠ "move" ∧ (f.round Commands.table).1.stand = f.stand) :
    e.stand = (d.round Commands.table).1.stand := by
  induction held generalizing earlier d with
  | nil => exact h.next_round hname
  | cons f held ih =>
    have hstand := h.next_round hname
    have hsplit : Passage s ((earlier ++ [d]) ++ f :: (held ++ e :: later)) t := by simpa using h
    obtain ⟨hmove, hsame⟩ := hheld f List.mem_cons_self hsplit.after_round.1 hstand
    have hstand' := hsame.trans hstand
    rw [← hstand']
    refine ih hsplit hmove fun g hg hw hgstand => ?_
    exact hheld g (List.mem_cons_of_mem f hg) hw (hgstand.trans hstand')

end Passage

end Scene

end Cutscene
