import Cutscene.Proofs.Troupe.Bound
import Mathlib.Logic.Function.Iterate

/-!
# Everybody Goes Their Own Way

What the barrier does with one of those on the way has nothing to do with the others. Called again
and again (`Barrier.after`), it takes each of them through the same states as if nobody else were on
the way (`Actor.afoot`), and it leaves everybody else alone.
-/

namespace Cutscene

variable {α : Type}

namespace Cast

variable {β : Type} {actor : β → Handle} {turn : β → Actor α → β × Actor α × Bool}

/-- If no two drivers have the same actor, then the actor of one that is done has none any more. -/
lemma not_mem_drive_of_done {ds : List β} {c : Cast α} {d : β} {a : Actor α}
    (hactor : ∀ d a, actor (turn d a).1 = actor d) (hapart : (ds.map actor).Nodup) (hd : d ∈ ds)
    (ha : c.get? (actor d) = some a) (hdone : (turn d a).2.2 = true) :
    actor d ∉ (drive actor turn ds c).1.map actor := by
  induction ds generalizing c with
  | nil => cases hd
  | cons e rest ih =>
    rw [List.map_cons, List.nodup_cons] at hapart
    obtain ⟨hnew, hapart⟩ := hapart
    rcases List.mem_cons.mp hd with rfl | hd
    · rw [drive_cons_some ha, hdone]
      exact fun hmem => hnew ((map_drive_sublist hactor _).subset hmem)
    · have hne : actor d ≠ actor e := fun heq => hnew (heq ▸ List.mem_map_of_mem hd)
      cases he : c.get? (actor e) with
      | none =>
        rw [drive_cons_none he]
        exact ih hapart hd ha
      | some b =>
        have hlater := ih (c := c.modify (actor e) fun _ => (turn e b).2.1) hapart hd
          (by rwa [get?_modify_of_ne c hne])
        rw [drive_cons_some he]
        dsimp only
        split
        · exact hlater
        · rw [List.map_cons, List.mem_cons, hactor, not_or]
          exact ⟨hne, hlater⟩

end Cast

variable [Scalar α]

/-! ### Alone -/

namespace Actor

/-- One call for an actor that is on its way alone, if it has not landed. -/
def goOn (g : Settings α) (t : Target) (s : Actor α × Bool) : Actor α × Bool :=
  if s.2 then s else s.1.approach g t

/-- An actor that is on its way alone after so many calls, and whether it has landed. -/
def afoot (g : Settings α) (t : Target) (a : Actor α) (n : ℕ) : Actor α × Bool :=
  (goOn g t)^[n] (a, false)

variable {g : Settings α} {t : Target} {a b : Actor α} {n : ℕ}

@[simp] lemma afoot_zero : a.afoot g t 0 = (a, false) := rfl

lemma afoot_succ : a.afoot g t (n + 1) =
    if (a.afoot g t n).2 then a.afoot g t n else (a.afoot g t n).1.approach g t :=
  Function.iterate_succ_apply' _ _ _

lemma afoot_succ_of_going (h : (a.afoot g t n).2 = false) :
    a.afoot g t (n + 1) = (a.afoot g t n).1.approach g t := by
  rw [afoot_succ, h, if_neg Bool.false_ne_true]

lemma afoot_succ_of_landed (h : (a.afoot g t n).2 = true) :
    a.afoot g t (n + 1) = a.afoot g t n := by
  rw [afoot_succ, h, if_pos rfl]

/-- Whoever has landed stays as he is. -/
lemma afoot_of_le {k : ℕ} (h : (a.afoot g t n).2 = true) (hle : n ≤ k) :
    a.afoot g t k = a.afoot g t n := by
  induction k, hle using Nat.le_induction with
  | base => rfl
  | succ k _ ih => rw [afoot_succ_of_landed (by rwa [ih]), ih]

/-- The calls after one that did not land the actor. -/
lemma afoot_of_walked (h : a.approach g t = (b, false)) :
    a.afoot g t (n + 1) = b.afoot g t n := by
  rw [afoot, Function.iterate_succ_apply, goOn, if_neg Bool.false_ne_true, h]
  rfl

/-- What every stride keeps is kept for as long as an actor is on its way. -/
lemma afoot_keeps {P : Actor α → Prop}
    (hstride : ∀ b, P b → P (b.stepToward (tileOrigin g.tileSize t.tile) (b.speed g)).1) (ha : P a)
    (h : (a.afoot g t n).2 = false) : P (a.afoot g t n).1 := by
  induction n with
  | zero => exact ha
  | succ n ih =>
    cases hgoing : (a.afoot g t n).2 with
    | true =>
      rw [afoot_succ_of_landed hgoing, hgoing] at h
      cases h
    | false =>
      rw [afoot_succ_of_going hgoing] at h ⊢
      rcases (a.afoot g t n).1.approach_cases g t with ⟨-, heq⟩ | ⟨-, heq⟩
      · rw [heq] at h
        cases h
      · rw [heq]
        exact hstride _ (ih hgoing)

/-- While an actor is on its way, nothing changes about it but its place and its pose. -/
lemma afoot_walks (h : (a.afoot g t n).2 = false) : a.Walks (a.afoot g t n).1 :=
  afoot_keeps (fun _ hb => hb.trans (stepToward_walks _ _ _)) (.refl a) h

end Actor

/-! ### Together -/

namespace Barrier

/-- One call. -/
def call (g : Settings α) (s : Barrier × Cast α) : Barrier × Cast α :=
  ((s.1.resolve g s.2).1, (s.1.resolve g s.2).2.1)

/-- Those on the way and the cast after so many calls. -/
def after (g : Settings α) (b : Barrier) (c : Cast α) (n : ℕ) : Barrier × Cast α :=
  (call g)^[n] (b, c)

/-- What the next call answers after so many. -/
def answer (g : Settings α) (b : Barrier) (c : Cast α) (n : ℕ) : Bool :=
  ((b.after g c n).1.resolve g (b.after g c n).2).2.2

variable {g : Settings α} {b : Barrier} {c : Cast α} {n : ℕ} {h : Handle}
  {m : Handle × Target} {a : Actor α}

lemma call_eq_drive (s : Barrier × Cast α) : call g s =
    (⟨(Cast.drive Prod.fst (turn g) s.1.pending s.2).1⟩,
      (Cast.drive Prod.fst (turn g) s.1.pending s.2).2) := by
  rw [← advance_eq_drive]
  rfl

lemma after_succ : b.after g c (n + 1) = call g (b.after g c n) :=
  Function.iterate_succ_apply' _ _ _

/-- Nobody comes to be on the way. -/
lemma after_sublist (n : ℕ) : (b.after g c n).1.pending.Sublist b.pending := by
  induction n with
  | zero => exact .refl _
  | succ n ih =>
    rw [after_succ]
    exact (advance_sublist g _ _).trans ih

/-- Whoever is not on the way is left alone. -/
lemma after_get?_of_not_mem (hh : h ∉ b.movers) (n : ℕ) :
    (b.after g c n).2.get? h = c.get? h := by
  induction n with
  | zero => rfl
  | succ n ih =>
    have hh' : h ∉ (b.after g c n).1.movers := fun hmem =>
      hh (((after_sublist n).map Prod.fst).subset hmem)
    rw [after_succ, call_eq_drive]
    exact (Cast.get?_drive_of_not_mem hh' _).trans ih

/-- A call answers true if it is the one that lands the last. -/
lemma answer_eq_true_iff : b.answer g c n = true ↔
    (b.after g c n).1.pending ≠ [] ∧ (b.after g c (n + 1)).1.pending = [] := by
  rw [after_succ, answer, call, resolve]
  simp [isClosed]

/-- Nobody is on the way twice, so whoever is on the way later has the same target as before. -/
lemma mem_of_mem_movers {b' : Barrier} (hapart : b.movers.Nodup)
    (hsub : b'.pending.Sublist b.pending) (hm : m ∈ b.pending) (hmover : m.1 ∈ b'.movers) :
    m ∈ b'.pending := by
  obtain ⟨m', hm', hsame⟩ := List.mem_map.mp hmover
  obtain rfl : m' = m := List.inj_on_of_nodup_map hapart (hsub.subset hm') hm hsame
  exact hm'

/-- One call takes an actor one step further or lands it, and drops its target if it has landed. -/
lemma call_mover (hapart : b.movers.Nodup) (hm : m ∈ b.pending) (ha : c.get? m.1 = some a) :
    (call g (b, c)).2.get? m.1 = some (a.approach g m.2).1 ∧
      (m ∈ (call g (b, c)).1.pending ↔ (a.approach g m.2).2 = false) := by
  have hdriven : (Cast.drive Prod.fst (turn g) b.pending c).2.get? m.1 = some (turn g m a).2.1 ∧
      ((turn g m a).2.2 = false →
        (turn g m a).1 ∈ (Cast.drive Prod.fst (turn g) b.pending c).1) :=
    Cast.drive_of_mem hapart hm ha
  obtain ⟨hturned, hgoes⟩ := hdriven
  rw [call_eq_drive]
  refine ⟨hturned, fun hmem => ?_, hgoes⟩
  by_contra hdone
  exact Cast.not_mem_drive_of_done (fun _ _ => rfl) hapart hm ha (by simpa [turn] using hdone)
    (List.mem_map_of_mem hmem)

/-- One call leaves whoever is not on the way where he is, and does not send him anywhere. -/
lemma call_of_not_mem (hh : h ∉ b.movers) :
    (call g (b, c)).2.get? h = c.get? h ∧ h ∉ (call g (b, c)).1.movers :=
  ⟨after_get?_of_not_mem hh 1, fun hmem => hh (((after_sublist 1).map Prod.fst).subset hmem)⟩

/-- **Everybody goes their own way.** After any number of calls, one of those on the way is where it
would be alone, and is on the way still if it would be so alone. -/
theorem after_mover (hapart : b.movers.Nodup) (hm : m ∈ b.pending) (ha : c.get? m.1 = some a)
    (n : ℕ) : (b.after g c n).2.get? m.1 = some (a.afoot g m.2 n).1 ∧
      (m ∈ (b.after g c n).1.pending ↔ (a.afoot g m.2 n).2 = false) := by
  induction n with
  | zero => exact ⟨ha, iff_of_true hm rfl⟩
  | succ n ih =>
    obtain ⟨hget, hgoing⟩ := ih
    have hsub : (b.after g c n).1.pending.Sublist b.pending := after_sublist n
    rw [after_succ]
    cases hlanded : (a.afoot g m.2 n).2 with
    | true =>
      have hmover : m.1 ∉ (b.after g c n).1.movers := fun hmem => by
        rw [hgoing.mp (mem_of_mem_movers hapart hsub hm hmem)] at hlanded
        cases hlanded
      obtain ⟨hsame, hgone⟩ := call_of_not_mem (g := g) (c := (b.after g c n).2) hmover
      rw [Actor.afoot_succ_of_landed hlanded, hlanded]
      exact ⟨hsame.trans hget,
        iff_of_false (fun hmem => hgone (List.mem_map_of_mem hmem)) Bool.true_eq_false_eq_False⟩
    | false =>
      rw [Actor.afoot_succ_of_going hlanded]
      exact call_mover (hapart.sublist (hsub.map Prod.fst)) (hgoing.mpr hlanded) hget

end Barrier

end Cutscene
