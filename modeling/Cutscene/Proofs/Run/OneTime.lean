import Cutscene.Proofs.Run.Pointer

/-!
# One-Time Requests

A command that waits is run again in every tick, and whatever it asks of the stage only once it has
asked before it began to wait. So the rounds of a run that begin at one mark make one such request
at most among them, however often the stage changes its mind in between.

The proof looks ahead. A scene is spent if the command under the pointer holds a wait of its own,
or if the event is over. From a scene that is spent no one-time request is to come at its mark, and
from any other at most one (`Scene.Frugal`).
-/

namespace Cutscene

variable {α σ : Type} [Scalar α] [Stage α σ]

namespace Scene

variable {s t : Scene α σ}

/-! ### Requests of rounds -/

/-- The calls made in the round that starts from a scene. -/
def requests (d : Scene α σ) : List (Call α) :=
  (d.round Commands.table).1.calls.drop d.calls.length

/-- The number of one-time requests made in rounds that start at a mark. -/
def tally (m : ℕ ×ₗ ℕ) (scenes : List (Scene α σ)) : Nat :=
  ((scenes.filter (·.mark = m)).flatMap requests).countP Call.isOneTime

lemma tally_cons (m : ℕ ×ₗ ℕ) (s : Scene α σ) (rest : List (Scene α σ)) :
    tally m (s :: rest) =
      (if s.mark = m then s.requests.countP Call.isOneTime else 0) + tally m rest := by
  unfold tally
  by_cases h : s.mark = m <;> simp [h]

omit [Scalar α] in
lemma Ends.calls {o : Outcome} (h : s.Ends t o) : s.calls <+: t.calls := by
  obtain ⟨u, hpre, -, -, hcalls, -⟩ := h.told
  rw [hcalls]
  exact hpre.trans (List.prefix_append _ _)

lemma round_calls (hs : s.AtWork) : s.calls <+: (s.round Commands.table).1.calls := by
  rcases round_cases hs with ⟨-, o, ho⟩ | ho
  · exact ho.calls
  · exact ho.turn.calls

lemma oneTimes_round (hs : s.AtWork) :
    (s.round Commands.table).1.oneTimes = s.oneTimes + s.requests.countP Call.isOneTime := by
  obtain ⟨l, hl⟩ := round_calls hs
  unfold oneTimes requests
  rw [← hl, List.drop_left, List.countP_append]

/-! ### Looking ahead -/

/-- No one-time request is to come from the command under the pointer. -/
def Spent (s : Scene α σ) : Prop :=
  s.isTerminal = true ∨ Held s.command.1 s.command.2 s.wait

/-- Before a scene come none of these rounds, at its mark they make at most one one-time request,
and none at all if it is spent. -/
structure Frugal (s : Scene α σ) (scenes : List (Scene α σ)) : Prop where
  past : ∀ m < s.mark, tally m scenes = 0
  spent : s.Spent → tally s.mark scenes = 0
  once : ∀ m, tally m scenes ≤ 1

/-- The mark moves on, or what is spent stays spent. -/
def Leads (s t : Scene α σ) : Prop :=
  s.mark < t.mark ∨ s.mark = t.mark ∧ (s.Spent → t.Spent)

lemma Leads.frugal {scenes : List (Scene α σ)} (h : s.Leads t) (hf : t.Frugal scenes) :
    s.Frugal scenes where
  past m hm := by
    rcases h with hlt | ⟨heq, -⟩
    · exact hf.past m (hm.trans hlt)
    · exact hf.past m (heq ▸ hm)
  spent hs := by
    rcases h with hlt | ⟨heq, hspent⟩
    · exact hf.past s.mark hlt
    · exact heq ▸ hf.spent (hspent hs)
  once := hf.once

lemma Ends.leads {o : Outcome} (h : s.Ends t o) : s.Leads t :=
  .inr ⟨h.mark.symm, fun _ => .inl h.isTerminal⟩

/-- Where the pointer is at the end, no command holds a wait. -/
lemma inside_of_held (h : Held s.command.1 s.command.2 s.wait) : s.pointer < s.working.size := by
  by_contra hout
  have hget : s.working.get? s.pointer = none := List.getElem?_eq_none (Nat.le_of_not_lt hout)
  have hnone : s.command = ("", ⟨[]⟩) := by rw [command, hget]
  rw [hnone] at h
  exact not_held (by decide) _ _ h

lemma held_of_stand (h : t.stand = s.stand) (hheld : Held s.command.1 s.command.2 s.wait) :
    Held t.command.1 t.command.2 t.wait := by
  rw [command_of_stand (w := s.wait) h, show t.wait = s.wait from congrArg Stand.wait h]
  exact hheld

lemma Opening.leads {more : Bool} (hs : s.AtRest) (hgoes : s.isTerminal = false)
    (h : Opening s t more) : s.Leads t := by
  have hheld : s.Spent → Held s.command.1 s.command.2 s.wait := by
    rintro (hover | hheld)
    · rw [hgoes] at hover
      cases hover
    · exact hheld
  rcases (h.opened.mark_le hs).lt_or_eq with hlt | heq
  · exact .inl hlt
  · refine .inr ⟨heq, fun hspent => .inr ?_⟩
    cases h.opened with
    | stays stand => exact held_of_stand stand (hheld hspent)
    | reads fresh n len stand =>
      have hn : s.pointer = n :=
        (Prod.mk.inj (toLex.injective (heq.trans (congrArg Stand.mark stand)))).2
      exact held_of_stand (stand.trans (hn ▸ rfl)) (hheld hspent)
    | lands _ _ _ _ stand =>
      have hlt := Stand.mark_lt_advance (p := s.stand) (inside_of_held (hheld hspent))
        Nat.one_pos
      exact absurd (heq.trans (congrArg Stand.mark stand)) hlt.ne

lemma Frugal.round (hs : s.AtWork) {scenes : List (Scene α σ)}
    (h : (s.round Commands.table).1.Frugal scenes) : s.Frugal (s :: scenes) := by
  have hcount := oneTimes_round hs
  -- What the round makes itself, and what comes after it at the same mark.
  have hkey : (s.Spent → s.requests.countP Call.isOneTime + tally s.mark scenes = 0) ∧
      s.requests.countP Call.isOneTime + tally s.mark scenes ≤ 1 := by
    rcases round_cases hs with ⟨-, o, ho⟩ | ho
    · have hnone := ho.oneTimes
      have hlater := h.spent (.inl ho.isTerminal)
      rw [ho.mark] at hlater
      omega
    · have honce := ho.turn.once
      have hsilent : s.Spent → s.requests.countP Call.isOneTime = 0 := by
        rintro (hover | hheld)
        · rw [hs.isTerminal] at hover
          cases hover
        · have := ho.turn.silent hheld
          omega
      rcases ho.turn.steers.lt_mark_or ho.inside with hlt | ⟨w, hstand, hbegun, hkept⟩
      · have hlater := h.past s.mark hlt
        exact ⟨fun hspent => by rw [hsilent hspent, hlater], by omega⟩
      · have hmark : (s.round Commands.table).1.stand.mark = s.stand.mark := by
          rw [hstand]
          rfl
        have hlater : Held s.command.1 s.command.2 w → tally s.mark scenes = 0 := by
          intro hheld
          rw [mark, ← hmark]
          refine h.spent (.inr ?_)
          rwa [command_of_stand hstand, show (s.round Commands.table).1.wait = w from
            congrArg Stand.wait hstand]
        refine ⟨fun hspent => ?_, ?_⟩
        · have hheld := hspent.resolve_left (by simp [hs.isTerminal])
          rw [hsilent hspent, hlater (hkept hheld)]
        · have hall := h.once s.mark
          rcases Nat.eq_zero_or_pos (s.requests.countP Call.isOneTime) with hzero | hpos
          · omega
          · have := hlater (hbegun (by omega))
            omega
  refine ⟨fun m hm => ?_, fun hspent => ?_, fun m => ?_⟩
  · rw [tally_cons, if_neg hm.ne', h.past m (hm.trans_le (round_mark_le hs))]
  · rw [tally_cons, if_pos rfl]
    exact hkey.1 hspent
  · rw [tally_cons]
    split
    · rename_i heq
      exact heq ▸ hkey.2
    · rw [Nat.zero_add]
      exact h.once m

/-! ### Along a passage -/

lemma Untouched.leads (h : s.Untouched t) : s.Leads t := by
  refine .inr ⟨(congrArg Stand.mark h.stand).symm, Or.imp ?_ (held_of_stand h.stand)⟩
  rw [h.isTerminal]
  exact id

lemma Interval.leads (hs : s.AtRest) (h : s.Interval t) : s.Leads t := by
  cases h with
  | untouched same => exact same.leads
  | ends _ o ends => exact ends.leads
  | opens goes more opening => exact opening.leads hs goes

theorem Passage.frugal {scenes : List (Scene α σ)} (h : Passage s scenes t) :
    s.Frugal scenes := by
  induction h with
  | stays => exact ⟨fun _ _ => rfl, fun _ => rfl, fun _ => Nat.zero_le 1⟩
  | pauses rest interval _ ih => exact (interval.leads rest).frugal ih
  | rounds work _ ih => exact Frugal.round work ih

omit [Scalar α] in
lemma Interval.oneTimes (h : s.Interval t) : t.oneTimes = s.oneTimes := by
  cases h with
  | untouched same => exact congrArg (List.countP Call.isOneTime) same.calls
  | ends _ o ends => exact ends.oneTimes
  | opens _ more opening => exact opening.oneTimes

/-- One-time requests are made in rounds only. -/
theorem Passage.oneTimes {scenes : List (Scene α σ)} (h : Passage s scenes t) :
    t.oneTimes = s.oneTimes + (scenes.flatMap requests).countP Call.isOneTime := by
  induction h with
  | stays => rfl
  | pauses _ interval _ ih => rw [ih, interval.oneTimes]
  | rounds work _ ih =>
    rw [ih, oneTimes_round work, List.flatMap_cons, List.countP_append, Nat.add_assoc]

end Scene

/-! ### Every run -/

open Scene Commands

/-- **No request is repeated while a command waits.** The rounds of a run that start at one mark,
in however many ticks, make one one-time request at most among them, and no such request is made
but in a round. -/
theorem one_request_at_each_mark (p : Premiere α σ) (moves : List (HostMove α σ)) :
    (∀ m, (((p.scene.rounds table moves).filter (·.mark = m)).flatMap requests).countP
      Call.isOneTime ≤ 1) ∧
    (p.scene.play table moves).calls.countP Call.isOneTime =
      ((p.scene.rounds table moves).flatMap requests).countP Call.isOneTime := by
  have hpassage := play_passage p.atRest moves
  exact ⟨hpassage.frugal.once, hpassage.oneTimes.trans (Nat.zero_add _)⟩

end Cutscene
