import Cutscene.Proofs.Actor.Upkeep
import Cutscene.Proofs.Scalar.Grains

/-!
# Animations That Never Settle

In exact arithmetic frames are turned over until the clock holds no frame time any more
(`Animation.exists_settles`). In thirty-two-bit floating point a frame time that is very short
beside the clock is rounded away when it is taken off. A looping animation is then turned over for
ever. This happens just if the clock stands still the second time, if not the first
(`Animation.never_settles_iff`), so at most on clocks of more than `2 ^ 24` frame times
(`Animation.exists_settles_of_le`) and always from `2 ^ 25` on (`Animation.never_settles_of_ge`).
-/

namespace Cutscene

namespace Animation

/-! ### Clocks that stand still and loops that run out of frames -/

section Turning

variable {α : Type} [Scalar α] {a : Animation α}

/-- A looping animation goes on while its clock holds a frame time. -/
lemma pass_of_looping (hloop : a.looping = true) (hdue : a.frameTime ≤ a.elapsed) :
    ∃ b, a.pass = .inl b ∧ b.frameTime = a.frameTime ∧ b.looping = true ∧
      b.elapsed = a.elapsed - a.frameTime := by
  obtain ⟨b, hnext⟩ : ∃ b, a.turn? = some b := by
    unfold turn?
    dsimp only
    rw [if_pos hloop]
    split_ifs
    · exact ⟨_, rfl⟩
    · exact ⟨_, rfl⟩
  obtain ⟨htime, hloops, hrest⟩ := turn?_clock hnext
  exact ⟨b, pass_of_turn? hdue hnext, htime, hloops.trans hloop, hrest⟩

/-- If taking the frame time off does not change the clock, it never does. -/
lemma never_settles_of_still (hloop : a.looping = true) (hdue : a.frameTime ≤ a.elapsed)
    (hstill : a.elapsed - a.frameTime = a.elapsed) : ¬ ∃ r, a.Settles r := by
  rintro ⟨r, hr⟩
  induction hr with
  | comesOut hpass =>
    obtain ⟨b, hpass', -⟩ := pass_of_looping hloop hdue
    rw [hpass] at hpass'
    cases hpass'
  | goesOn hpass _ ih =>
    obtain ⟨htime, hloops, hrest⟩ := turn?_clock (pass_eq_inl hpass).2
    rw [hstill] at hrest
    refine ih (hloops.trans hloop) ?_ ?_
    · rwa [htime, hrest]
    · rwa [htime, hrest]

/-- The same with the clock standing still the second time. -/
lemma never_settles_of_next (hloop : a.looping = true) (hdue : a.frameTime ≤ a.elapsed)
    (hdue' : a.frameTime ≤ a.elapsed - a.frameTime)
    (hstill : a.elapsed - a.frameTime - a.frameTime = a.elapsed - a.frameTime) :
    ¬ ∃ r, a.Settles r := by
  rintro ⟨r, hr⟩
  obtain ⟨b, hpass, htime, hloops, hrest⟩ := pass_of_looping hloop hdue
  refine never_settles_of_still hloops ?_ ?_ ⟨r, hr.of_goesOn hpass⟩
  · rwa [htime, hrest]
  · rwa [htime, hrest]

/-- What is left on the clock is less than a frame time. -/
lemma exists_settles_of_rest (h : ¬ a.frameTime ≤ a.elapsed - a.frameTime) :
    ∃ r, a.Settles r := by
  refine exists_settles_of_next fun b _ hnext => ⟨_, Settles.comesOut (pass_of_rests ?_)⟩
  obtain ⟨htime, -, hrest⟩ := turn?_clock hnext
  rwa [htime, hrest]

/-- A one-shot animation has no more frames to turn over than are left. -/
lemma exists_settles_of_once (honce : a.looping = false) : ∃ r, a.Settles r := by
  induction hleft : a.frames.length - a.index using Nat.strong_induction_on generalizing a with
  | _ left ih =>
    refine exists_settles_of_next fun b _ hnext => ?_
    unfold turn? at hnext
    dsimp only at hnext
    split_ifs at hnext with hmore hloop
    · obtain rfl := Option.some.inj hnext
      refine ih _ ?_ honce rfl
      dsimp only
      omega
    · rw [honce] at hloop
      cases hloop

end Turning

/-! ### In floating point -/

open Single

variable {a : Animation Float32} {k n : ℕ}

/-- As long as twice the frame time is more than a step of the clock, time goes on. -/
lemma exists_settles_of_steep (hf : Counts a.frameTime k) (hx : Counts a.elapsed n)
    (hsteep : 2 ^ width (n - k) < 2 * k) : ∃ r, a.Settles r := by
  induction n using Nat.strong_induction_on generalizing a with
  | _ n ih =>
    by_cases heq : n = k
    · exact exists_settles_of_rest ((heq ▸ hx).not_le_sub hf)
    · refine exists_settles_of_next fun b hdue hnext => ?_
      obtain ⟨htime, -, hrest⟩ := turn?_clock hnext
      have hlt : k < n := lt_of_le_of_ne ((hf.le_iff hx).mp hdue) (Ne.symm heq)
      have hless := fit_sub_lt hlt hsteep
      have hwidth : width (fit (n - k) - k) ≤ width (n - k) :=
        width_mono (Nat.sub_le_sub_right hless.le k)
      refine ih _ hless (htime ▸ hf) (hrest ▸ hx.sub hf hlt) (lt_of_le_of_lt ?_ hsteep)
      exact Nat.pow_le_pow_right (by decide) hwidth

/-- Up to `2 ^ 24` frame times on the clock, turning frames over comes to an end. -/
theorem exists_settles_of_le (hf : Counts a.frameTime k) (hx : Counts a.elapsed n)
    (hle : n ≤ 2 ^ 24 * k) : ∃ r, a.Settles r :=
  exists_settles_of_steep hf hx (steep_of_le hf.pos hle)

/-- From `2 ^ 25` frame times on, the clock of a looping animation stands still. -/
theorem never_settles_of_ge (hf : Counts a.frameTime k) (hx : Counts a.elapsed n)
    (hge : 2 ^ 25 * k ≤ n) (hloop : a.looping = true) : ¬ ∃ r, a.Settles r := by
  have hpos := hf.pos
  have hlt : k < n := by omega
  have hstill := fit_sub_of_ge hx.fits hpos hge
  have hrest := hx.sub hf hlt
  rw [hstill] at hrest
  exact never_settles_of_next hloop ((hf.le_iff hx).mpr hlt.le) ((hf.le_iff hrest).mpr hlt.le)
    (hrest.sub_eq_sub hx hf hlt hlt rfl)

/-- If the clock does not stand still the second time, it never does. -/
lemma still_of_never_settles (hf : Counts a.frameTime k) (hx : Counts a.elapsed n)
    (hlt : k < n) (hle : k ≤ fit (n - k)) (hnever : ¬ ∃ r, a.Settles r) :
    a.elapsed - a.frameTime - a.frameTime = a.elapsed - a.frameTime := by
  have hr := hx.sub hf hlt
  have hflat : 2 * k ≤ 2 ^ width (fit (n - k) - k) := by
    by_contra hsteep
    refine hnever (exists_settles_of_next fun b _ hnext => ?_)
    obtain ⟨htime, -, hrest⟩ := turn?_clock hnext
    exact exists_settles_of_steep (htime ▸ hf) (hrest ▸ hr) (not_le.mp hsteep)
  have hlt' : k < fit (n - k) := by
    refine lt_of_le_of_ne hle fun heq => ?_
    have := steep_of_le (n := fit (n - k)) hf.pos (by omega)
    omega
  exact hr.sub_eq_sub hx hf hlt' hlt (fit_sub_fit hx.fits hf.pos hlt hlt' hflat)

/-- **A looping animation never settles if and only if its clock stands still the second time, if
not the first.** This holds of every animation with a frame time that lets `advance` begin. -/
theorem never_settles_iff (htime : ¬ a.frameTime ≤ 0) : (¬ ∃ r, a.Settles r) ↔
    a.looping = true ∧ a.frameTime ≤ a.elapsed ∧ a.frameTime ≤ a.elapsed - a.frameTime ∧
      a.elapsed - a.frameTime - a.frameTime = a.elapsed - a.frameTime := by
  refine ⟨fun hnever => ?_, fun ⟨hloop, hdue, hdue', hstill⟩ =>
    never_settles_of_next hloop hdue hdue' hstill⟩
  have hloop : a.looping = true := by
    by_contra honce
    exact hnever (exists_settles_of_once (Bool.not_eq_true _ ▸ honce))
  have hdue : a.frameTime ≤ a.elapsed := by
    by_contra hrests
    exact hnever ⟨_, Settles.comesOut (pass_of_rests hrests)⟩
  have hdue' : a.frameTime ≤ a.elapsed - a.frameTime := by
    by_contra hrests
    exact hnever (exists_settles_of_rest hrests)
  refine ⟨hloop, hdue, hdue', ?_⟩
  rcases counts_of_not_le_zero htime with ⟨k, hf⟩ | hinfinite | hundefined
  · rcases hf.counts_of_le hdue with ⟨n, hx⟩ | hinfinite
    · rcases Nat.lt_or_eq_of_le ((hf.le_iff hx).mp hdue) with hlt | rfl
      · have hle := (hf.le_iff (hx.sub hf hlt)).mp hdue'
        exact still_of_never_settles hf hx hlt hle hnever
      · exact absurd hdue' (hx.not_le_sub hf)
    · exact (hf.infinity_sub hinfinite).2
  · exact absurd hdue' (not_le_sub_of_infinity hinfinite hdue)
  · exact absurd hdue (not_le_of_notANumber hundefined)

/-- One frame, looping, that is to be shown for a `2 ^ 26`-th of a millisecond; sixteen milliseconds
have gone by. -/
def flicker : Animation Float32 := ⟨[4], ofPattern 0x32800000, true, 0, ofPattern 0x41800000⟩

theorem flicker_never_settles : ¬ flicker.frameTime ≤ 0 ∧ ¬ ∃ r, flicker.Settles r := by
  have htime : ¬ flicker.frameTime ≤ 0 := by decide +kernel
  refine ⟨htime, (never_settles_iff htime).mpr ⟨rfl, ?_, ?_, ?_⟩⟩ <;> decide +kernel

/-- Frames and finite times do not make sure that an animation settles. -/
theorem not_forall_settle : ¬ ∀ (frames : List ℕ) (frameTime t : Float32) (looping : Bool),
    frames ≠ [] → isFinite frameTime = true → isFinite t = true → ¬ frameTime ≤ 0 →
      ∃ r, ({ start frames frameTime looping with elapsed := 0 + t } : Animation Float32).Settles
        r := by
  intro hall
  have hsettles := hall flicker.frames flicker.frameTime flicker.elapsed true (by decide)
    (by decide +kernel) (by decide +kernel) (by decide +kernel)
  exact never_settles_of_still rfl (by decide +kernel) (by decide +kernel) hsettles

end Animation

end Cutscene
