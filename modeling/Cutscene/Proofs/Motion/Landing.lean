import Cutscene.Proofs.Motion.Alone
import Cutscene.Proofs.Motion.March
import Mathlib.Data.Finset.Max

/-!
# Where and When They Land

In exact arithmetic every actor that is on its way lands on its target, after as many calls as there
are strides to go and one more at most (`Actor.exists_landing`). Among whole pixels the call that
lands it shifts it by no more than one stride. Since everybody goes their own way, the barrier
closes with the call that lands the last of them, and with no other (`movers_land`).
-/

namespace Cutscene

open Exact

/-! ### One actor -/

namespace Actor

variable {g : Settings ℚ} {t : Target} {a : Actor ℚ} {n : ℕ}

/-- The actor stands on whole pixels and walks whole pixels. -/
structure Whole (g : Settings ℚ) (a : Actor ℚ) : Prop where
  x : ∃ n : ℤ, a.position.x = n
  y : ∃ n : ℤ, a.position.y = n
  speed : ∃ n : ℤ, a.speed g = n

/-- Among whole numbers a stride ends on a whole number. -/
lemma whole_nearer {x v : ℚ} (n : ℤ) (hx : ∃ n : ℤ, x = n) (hv : ∃ n : ℤ, v = n) :
    ∃ k : ℤ, nearer n x v = k := by
  obtain ⟨x, rfl⟩ := hx
  obtain ⟨v, rfl⟩ := hv
  unfold nearer
  split
  · exact ⟨x + min |n - x| v, by push_cast; rfl⟩
  · exact ⟨x - min |n - x| v, by push_cast; rfl⟩

lemma Whole.stepToward (ha : a.Whole g) (tile : Tile) :
    (a.stepToward (tileOrigin g.tileSize tile) (a.speed g)).1.Whole g := by
  have hspeed : ∃ n : ℤ, (a.stepToward (tileOrigin g.tileSize tile) (a.speed g)).1.speed g = n := by
    rw [(a.stepToward_walks _ _).speed g]
    exact ha.speed
  rcases a.stepToward_cases (tileOrigin g.tileSize tile) (a.speed g) with
    ⟨-, -, hposition⟩ | ⟨-, -, -, hposition⟩ | ⟨-, -, heq⟩
  · refine ⟨?_, ?_, hspeed⟩
    · rw [hposition]
      exact whole_nearer _ ha.x ha.speed
    · rw [hposition]
      exact ha.y
  · refine ⟨?_, ?_, hspeed⟩
    · rw [hposition]
      exact ha.x
    · rw [hposition]
      exact whole_nearer _ ha.y ha.speed
  · rw [heq] at hspeed ⊢
    exact ⟨ha.x, ha.y, hspeed⟩

lemma Whole.afoot (ha : a.Whole g) (h : (a.afoot g t n).2 = false) : (a.afoot g t n).1.Whole g :=
  afoot_keeps (fun _ hb => hb.stepToward t.tile) ha h

/-- An actor on whole pixels that has arrived is one stride at most away from the corner. -/
lemma Whole.near (ha : a.Whole g) {tile : Tile} (harrived : hasArrived g a tile = true) :
    |(tileOrigin g.tileSize tile : Vec ℚ).x - a.position.x| ≤ a.speed g ∧
      |(tileOrigin g.tileSize tile : Vec ℚ).y - a.position.y| ≤ a.speed g := by
  obtain ⟨⟨x, hx⟩, ⟨y, hy⟩, -⟩ := ha
  obtain ⟨-, hgap⟩ := hasArrived_iff.mp harrived
  have hround : ∀ n : ℤ, Scalar.round (n : ℚ) = n := keeps
  rw [hx, hy, keeps, keeps, hround, hround, ofInt_eq] at hgap
  have habs : ∀ u v : ℤ, |(Scalar.ofInt u : ℚ) - v| = ((u - v).natAbs : ℚ) := by
    intro u v
    rw [ofInt_eq, Nat.cast_natAbs]
    push_cast
    rfl
  dsimp only [tileOrigin]
  rw [hx, hy, habs, habs]
  rw [Int.cast_natCast, Nat.cast_max] at hgap
  exact max_le_iff.mp hgap

/-- Everybody who gets on lands, after as many calls as there are strides to go and one more at
most. -/
theorem exists_landing (hg : g.Walkable) (hv : 0 < a.speed g) :
    ∃ n, (0 < n ∧ n ≤ a.strides (tileOrigin g.tileSize t.tile) (a.speed g) + 1) ∧
      ∀ k, (a.afoot g t k).2 = true ↔ n ≤ k := by
  induction hs : a.strides (tileOrigin g.tileSize t.tile) (a.speed g) using
    Nat.strong_induction_on generalizing a with
  | _ s ih =>
    subst hs
    rcases a.approach_cases g t with ⟨-, heq⟩ | ⟨haway, heq⟩
    · have hlanded : (a.afoot g t 1).2 = true := by
        rw [afoot_succ_of_going rfl, afoot_zero, heq]
      refine ⟨1, ⟨Nat.one_pos, Nat.le_add_left 1 _⟩, fun k => ⟨fun hk => ?_, fun hk => ?_⟩⟩
      · refine Nat.one_le_iff_ne_zero.mpr fun hzero => ?_
        rw [hzero] at hk
        cases hk
      · rw [afoot_of_le hlanded hk, hlanded]
    · have hspeed := (a.stepToward_walks (tileOrigin g.tileSize t.tile) (a.speed g)).speed g
      have hstride := approach_strides hg hv (t := t) (by rw [heq])
      rw [heq] at hstride
      dsimp only at hstride
      obtain ⟨n, ⟨hpos, hle⟩, hlands⟩ := ih _ (by rwa [hspeed]) (by rwa [hspeed]) rfl
      rw [hspeed] at hle
      refine ⟨n + 1, ⟨Nat.succ_pos n, by omega⟩, fun k => ?_⟩
      cases k with
      | zero => exact iff_of_false (by simp) (by omega)
      | succ k => rw [afoot_of_walked heq, hlands, Nat.succ_le_succ_iff]

/-- The call that lands an actor puts it on its target. -/
lemma afoot_of_lands (hgoing : (a.afoot g t n).2 = false)
    (hlands : (a.afoot g t (n + 1)).2 = true) :
    hasArrived g (a.afoot g t n).1 t.tile = true ∧
      (a.afoot g t (n + 1)).1 = (a.afoot g t n).1.land g t := by
  rw [afoot_succ_of_going hgoing] at hlands ⊢
  rcases (a.afoot g t n).1.approach_cases g t with ⟨harrived, heq⟩ | ⟨-, heq⟩
  · exact ⟨harrived, by rw [heq]⟩
  · rw [heq] at hlands
    cases hlands

end Actor

/-! ### All of them -/

/-- One of those on the way, who is `a` at first, lands with call `n`. -/
structure Barrier.Lands (g : Settings ℚ) (b : Barrier) (c : Cast ℚ) (m : Handle × Target)
    (a : Actor ℚ) (n : ℕ) : Prop where
  /-- The others make no difference. -/
  alone : ∀ k, (b.after g c k).2.get? m.1 = ((⟨[m]⟩ : Barrier).after g c k).2.get? m.1 ∧
    (m ∈ (b.after g c k).1.pending ↔ m ∈ ((⟨[m]⟩ : Barrier).after g c k).1.pending)
  soon : 0 < n ∧ n ≤ ⌈|(tileOrigin g.tileSize m.2.tile : Vec ℚ).x - a.position.x| / a.speed g⌉₊ +
    ⌈|(tileOrigin g.tileSize m.2.tile : Vec ℚ).y - a.position.y| / a.speed g⌉₊ + 1
  pending : ∀ k, m ∈ (b.after g c k).1.pending ↔ k < n
  /-- Among whole pixels the landing shifts the actor by one stride at most. -/
  near : a.Whole g → ∃ o, (b.after g c (n - 1)).2.get? m.1 = some o ∧
    |(tileOrigin g.tileSize m.2.tile : Vec ℚ).x - o.position.x| ≤ a.speed g ∧
    |(tileOrigin g.tileSize m.2.tile : Vec ℚ).y - o.position.y| ≤ a.speed g
  landed : ∀ k, n ≤ k → ∃ o, (b.after g c k).2.get? m.1 = some o ∧
    o.position = tileOrigin g.tileSize m.2.tile ∧ o.facing = m.2.facing ∧ o.walking = false ∧
    o.speedOverride = none ∧ o.scripted = false

namespace Barrier

variable {g : Settings ℚ} {b : Barrier} {c : Cast ℚ} {m : Handle × Target} {a : Actor ℚ}

lemma exists_lands (hg : g.Walkable) (hapart : b.movers.Nodup) (hm : m ∈ b.pending)
    (ha : c.get? m.1 = some a) (hv : 0 < a.speed g) : ∃ n, b.Lands g c m a n := by
  obtain ⟨n, hsoon, hlands⟩ := Actor.exists_landing (t := m.2) hg hv
  obtain ⟨n, rfl⟩ := Nat.exists_eq_add_one.mpr hsoon.1
  have hgoing : ∀ k, (a.afoot g m.2 k).2 = false ↔ k < n + 1 := fun k => by
    rw [← Bool.not_eq_true, hlands, Nat.not_le]
  have hlast := (hgoing n).mpr (Nat.lt_succ_self n)
  obtain ⟨harrived, hland⟩ := Actor.afoot_of_lands hlast ((hlands _).mpr le_rfl)
  have hmover := after_mover (g := g) hapart hm ha
  have hsolo := after_mover (g := g) (b := ⟨[m]⟩) (List.nodup_singleton _) List.mem_cons_self ha
  refine ⟨n + 1, fun k => ⟨?_, ?_⟩, hsoon, fun k => ?_, fun hwhole => ?_, fun k hk => ?_⟩
  · rw [(hmover k).1, (hsolo k).1]
  · rw [(hmover k).2, (hsolo k).2]
  · rw [(hmover k).2, hgoing]
  · refine ⟨_, (hmover n).1, ?_⟩
    rw [← (Actor.afoot_walks hlast).speed g]
    exact (hwhole.afoot hlast).near harrived
  · refine ⟨_, (hmover k).1, ?_⟩
    rw [Actor.afoot_of_le ((hlands _).mpr le_rfl) hk, hland]
    exact ⟨rfl, rfl, rfl, rfl, rfl⟩

/-- If everybody on the way lands some time, the barrier closes with the call that lands the last of
them, and with no other. -/
lemma exists_last {landing : Handle × Target → ℕ} (hopen : b.pending ≠ [])
    (hpending : ∀ m ∈ b.pending, ∀ k, m ∈ (b.after g c k).1.pending ↔ k < landing m) :
    ∃ last, (∀ m ∈ b.pending, landing m ≤ last) ∧ (∃ m ∈ b.pending, landing m = last) ∧
      ∀ n, b.answer g c n = true ↔ n + 1 = last := by
  obtain ⟨final, hfinal, hlatest⟩ := b.pending.toFinset.exists_max_image landing
    ((List.toFinset_nonempty_iff _).mpr hopen)
  rw [List.mem_toFinset] at hfinal
  have hlatest : ∀ m ∈ b.pending, landing m ≤ landing final := fun m hm =>
    hlatest m (List.mem_toFinset.mpr hm)
  have hclosed : ∀ k, (b.after g c k).1.pending = [] ↔ landing final ≤ k := by
    intro k
    refine ⟨fun hnil => ?_, fun hle => ?_⟩
    · refine Nat.not_lt.mp fun hlt => ?_
      have hmem := (hpending final hfinal k).mpr hlt
      rw [hnil] at hmem
      cases hmem
    · refine List.eq_nil_iff_forall_not_mem.mpr fun m hmem => ?_
      have hm := (after_sublist k).subset hmem
      have hlt := (hpending m hm k).mp hmem
      have := hlatest m hm
      omega
  refine ⟨landing final, hlatest, ⟨final, hfinal, rfl⟩, fun n => ?_⟩
  rw [answer_eq_true_iff, Ne, hclosed, hclosed]
  omega

end Barrier

/-- **All of them land, everybody at their own time.** In exact arithmetic, with settings that let
actors get on, each of those on the way goes through the states it would go through alone and lands
within its strides and one call more; whoever is not on the way is left alone; and one call answers
true, that which lands the last. -/
theorem movers_land {g : Settings ℚ} {b : Barrier} {c : Cast ℚ} (hg : g.Walkable)
    (hopen : b.pending ≠ []) (hapart : b.movers.Nodup)
    (hlive : ∀ m ∈ b.pending, ∃ a, c.get? m.1 = some a ∧ 0 < a.speed g) :
    (∃ landing : Handle × Target → ℕ,
      (∀ m ∈ b.pending, ∀ a, c.get? m.1 = some a → b.Lands g c m a (landing m)) ∧
      ∃ last, (∀ m ∈ b.pending, landing m ≤ last) ∧ (∃ m ∈ b.pending, landing m = last) ∧
        ∀ n, b.answer g c n = true ↔ n + 1 = last) ∧
    ∀ h, h ∉ b.movers → ∀ n, (b.after g c n).2.get? h = c.get? h := by
  refine ⟨?_, fun h hh n => Barrier.after_get?_of_not_mem hh n⟩
  have hlands : ∀ m, ∃ n, m ∈ b.pending → ∀ a, c.get? m.1 = some a → b.Lands g c m a n := by
    intro m
    by_cases hm : m ∈ b.pending
    · obtain ⟨a, ha, hv⟩ := hlive m hm
      obtain ⟨n, hn⟩ := Barrier.exists_lands hg hapart hm ha hv
      refine ⟨n, fun _ a' ha' => ?_⟩
      obtain rfl := Option.some.inj (ha.symm.trans ha')
      exact hn
    · exact ⟨0, fun h => absurd h hm⟩
  choose landing hlanding using hlands
  refine ⟨landing, hlanding, ?_⟩
  refine Barrier.exists_last hopen fun m hm k => ?_
  obtain ⟨a, ha, -⟩ := hlive m hm
  exact (hlanding m hm a ha).pending k

/-- Two villagers. -/
def duo : Cast ℚ where
  members := [(⟨0⟩, .place "Abigail" .villager ⟨0, 0⟩ .right 64),
    (⟨1⟩, .place "Lewis" .villager ⟨5, 5⟩ .down 64)]
  next := 2
  localPlayer := 1

/-- One of them is to go a tile to the right, the other two tiles up. -/
def duoBarrier : Barrier := ⟨[(⟨0⟩, ⟨⟨1, 0⟩, .up⟩), (⟨1⟩, ⟨⟨5, 3⟩, .left⟩)]⟩

/-- The two of them land within sixty-five calls, one of which answers true. -/
theorem duo_lands : ∃ last ≤ 65, ∀ n, duoBarrier.answer .standard duo n = true ↔ n + 1 = last := by
  have hwalkable : (Settings.standard : Settings ℚ).Walkable := by
    constructor <;> decide +kernel
  obtain ⟨⟨landing, hlands, last, -, ⟨m, hm, rfl⟩, hanswer⟩, -⟩ :=
    movers_land (b := duoBarrier) (c := duo) hwalkable (by decide) (by decide) (by
      intro m hm
      rcases List.mem_pair.mp hm with rfl | rfl
      · exact ⟨_, rfl, by decide +kernel⟩
      · exact ⟨_, rfl, by decide +kernel⟩)
  refine ⟨_, ?_, hanswer⟩
  rcases List.mem_pair.mp hm with rfl | rfl
  · exact (hlands _ hm _ rfl).soon.2.trans (by decide +kernel)
  · exact (hlands _ hm _ rfl).soon.2.trans (by decide +kernel)

end Cutscene
