import Mathlib.Algebra.Order.Archimedean.Basic
import Mathlib.Data.Rat.Floor
import Mathlib.Tactic.Linarith
import Mathlib.Tactic.Ring
import Cutscene.Actor.Basic
import Cutscene.Scalar.Exact

/-!
# Upkeep in Any Number of Steps

What runs on an actor by the clock does not mind how often the clock is looked at: in exact
arithmetic two upkeeps of an actor leave what one of their joint length leaves
(`Actor.update_update`). The time of a frame that has not run out is carried on, and what is over in
the first upkeep is over in the joint one, with the same last frame.
-/

namespace Cutscene

namespace Animation

/-! ### Frames turned over -/

section Settling

variable {α : Type} [Scalar α] {a b : Animation α} {r : Option (Animation α)}

lemma pass_of_rests (h : ¬ a.frameTime ≤ a.elapsed) : a.pass = .inr (some a) := by
  rw [pass, if_neg h]

lemma pass_of_turn? (h : a.frameTime ≤ a.elapsed) (hnext : a.turn? = some b) :
    a.pass = .inl b := by
  rw [pass, if_pos h, hnext]

lemma pass_of_over (h : a.frameTime ≤ a.elapsed) (hover : a.turn? = none) :
    a.pass = .inr none := by
  rw [pass, if_pos h, hover]

lemma pass_eq_inl (h : a.pass = .inl b) : a.frameTime ≤ a.elapsed ∧ a.turn? = some b := by
  unfold pass at h
  split at h
  · rename_i hdue
    split at h
    · rename_i next hnext
      exact ⟨hdue, hnext.trans (congrArg some (Sum.inl.inj h))⟩
    · cases h
  · cases h

lemma pass_eq_inr (h : a.pass = .inr r) :
    (¬ a.frameTime ≤ a.elapsed ∧ r = some a) ∨
      (a.frameTime ≤ a.elapsed ∧ a.turn? = none ∧ r = none) := by
  unfold pass at h
  split at h
  · rename_i hdue
    split at h
    · cases h
    · rename_i hover
      exact .inr ⟨hdue, hover, (Sum.inr.inj h).symm⟩
  · rename_i hrests
    exact .inl ⟨hrests, (Sum.inr.inj h).symm⟩

/-- The loop over `pass` comes to an end, and this comes out. -/
inductive Settles : Animation α → Option (Animation α) → Prop
  | comesOut {a : Animation α} {r : Option (Animation α)} : a.pass = .inr r → a.Settles r
  | goesOn {a b : Animation α} {r : Option (Animation α)} : a.pass = .inl b → b.Settles r →
      a.Settles r

/-- The loop, unfolded by one pass. -/
lemma settle_eq (a : Animation α) : a.settle = a.pass.elim settle id := by
  unfold settle
  rw [repeatM_eq_of_monadTail]
  change Id.run (bind (m := Id) a.pass _) = _
  cases a.pass <;> rfl

lemma Settles.settle_eq (h : a.Settles r) : a.settle = r := by
  induction h with
  | comesOut hpass =>
    rw [Animation.settle_eq, hpass]
    rfl
  | goesOn hpass _ ih =>
    rw [Animation.settle_eq, hpass]
    exact ih

lemma Settles.of_goesOn (h : a.Settles r) (hpass : a.pass = .inl b) : b.Settles r := by
  cases h with
  | comesOut hpass' => rw [hpass] at hpass'; cases hpass'
  | goesOn hpass' h =>
    rw [hpass] at hpass'
    obtain rfl := Sum.inl.inj hpass'
    exact h

/-- The loop comes to an end if it does whenever it goes on. -/
lemma exists_settles_of_next
    (h : ∀ b, a.frameTime ≤ a.elapsed → a.turn? = some b → ∃ r, b.Settles r) :
    ∃ r, a.Settles r := by
  cases hpass : a.pass with
  | inl b =>
    obtain ⟨hdue, hnext⟩ := pass_eq_inl hpass
    obtain ⟨r, hr⟩ := h b hdue hnext
    exact ⟨r, .goesOn hpass hr⟩
  | inr r => exact ⟨r, .comesOut hpass⟩

/-- A frame has had its time: this is what is left on the clock. -/
lemma turn?_clock (h : a.turn? = some b) : b.frameTime = a.frameTime ∧ b.looping = a.looping ∧
    b.elapsed = a.elapsed - a.frameTime := by
  unfold turn? at h
  dsimp only at h
  split_ifs at h <;> obtain rfl := Option.some.inj h <;> exact ⟨rfl, rfl, rfl⟩

/-- The two animations have the same frames, and the second is among them if the first is. -/
structure Continues (a b : Animation α) : Prop where
  frames : b.frames = a.frames
  frameTime : b.frameTime = a.frameTime
  looping : b.looping = a.looping
  shows : b.index < a.frames.length ∨ b.index = a.index

omit [Scalar α] in
lemma Continues.refl (a : Animation α) : a.Continues a := ⟨rfl, rfl, rfl, .inr rfl⟩

omit [Scalar α] in
lemma Continues.trans {c : Animation α} (h : a.Continues b) (h' : b.Continues c) :
    a.Continues c where
  frames := h'.frames.trans h.frames
  frameTime := h'.frameTime.trans h.frameTime
  looping := h'.looping.trans h.looping
  shows := by
    rcases h'.shows with hlt | heq
    · exact .inl (h.frames ▸ hlt)
    · rw [heq]
      exact h.shows

lemma turn?_continues (hframes : a.frames ≠ []) (h : a.turn? = some b) : a.Continues b := by
  unfold turn? at h
  dsimp only at h
  split_ifs at h with hmore hloop
  · obtain rfl := Option.some.inj h
    exact ⟨rfl, rfl, rfl, .inl hmore⟩
  · obtain rfl := Option.some.inj h
    exact ⟨rfl, rfl, rfl, .inl (List.length_pos_iff.mpr hframes)⟩

lemma Settles.continues (h : a.Settles r) (hframes : a.frames ≠ []) :
    ∀ b ∈ r, a.Continues b := by
  induction h with
  | comesOut hpass =>
    rcases pass_eq_inr hpass with ⟨-, rfl⟩ | ⟨-, -, rfl⟩
    · rintro b hb
      obtain rfl := Option.some.inj hb
      exact .refl _
    · rintro b hb
      cases hb
  | goesOn hpass _ ih =>
    have hfirst := turn?_continues hframes (pass_eq_inl hpass).2
    exact fun c hc => hfirst.trans (ih (hfirst.frames ▸ hframes) c hc)

end Settling

/-! ### More time on the clock -/

/-- The same animation, later. -/
def later (a : Animation ℚ) (t : ℚ) : Animation ℚ := { a with elapsed := a.elapsed + t }

variable {a b : Animation ℚ} {r : Option (Animation ℚ)} {s t : ℚ}

lemma later_later (a : Animation ℚ) (s t : ℚ) : (a.later s).later t = a.later (s + t) := by
  simp only [later, add_assoc]

lemma turn?_later (a : Animation ℚ) (t : ℚ) : (a.later t).turn? = a.turn?.map (·.later t) := by
  have hrest : a.elapsed + t - a.frameTime = a.elapsed - a.frameTime + t := by ring
  unfold turn? later
  dsimp only
  rw [hrest]
  split_ifs <;> rfl

lemma due_later (ht : 0 ≤ t) (h : a.frameTime ≤ a.elapsed) :
    (a.later t).frameTime ≤ (a.later t).elapsed := le_add_of_le_of_nonneg h ht

/-- What is turned over with less on the clock is turned over with more, which is then left. -/
lemma Settles.later (ht : 0 ≤ t) (h : a.Settles r) {r' : Option (Animation ℚ)}
    (h' : r.elim (r' = none) fun b => (b.later t).Settles r') : (a.later t).Settles r' := by
  induction h with
  | comesOut hpass =>
    rcases pass_eq_inr hpass with ⟨-, rfl⟩ | ⟨hdue, hover, rfl⟩
    · exact h'
    · obtain rfl : r' = none := h'
      exact .comesOut (pass_of_over (due_later ht hdue) (by rw [turn?_later, hover]; rfl))
  | goesOn hpass _ ih =>
    obtain ⟨hdue, hnext⟩ := pass_eq_inl hpass
    exact .goesOn (pass_of_turn? (due_later ht hdue) (by rw [turn?_later, hnext]; rfl)) (ih h')

/-- In exact arithmetic a frame time is always taken off the clock, so that this comes to an end. -/
lemma exists_settles (htime : 0 < a.frameTime) : ∃ r, a.Settles r := by
  obtain ⟨n, hn⟩ := Archimedean.arch a.elapsed htime
  induction n generalizing a with
  | zero =>
    refine ⟨_, .comesOut (pass_of_rests (not_le.mpr (lt_of_le_of_lt ?_ htime)))⟩
    simpa using hn
  | succ n ih =>
    refine exists_settles_of_next fun b _ hnext => ?_
    obtain ⟨hsame, -, hrest⟩ := turn?_clock hnext
    refine ih (hsame ▸ htime) ?_
    rw [hsame, hrest]
    rw [succ_nsmul] at hn
    linarith

lemma advance_of_spent (h : a.frames = [] ∨ a.frameTime ≤ 0) (t : ℚ) : a.advance t = none := by
  rw [advance, if_pos]
  exact h.imp_left List.isEmpty_iff.mpr

lemma advance_of_settles (hframes : a.frames ≠ []) (htime : 0 < a.frameTime)
    (h : (a.later t).Settles r) : a.advance t = r := by
  have hgoes : ¬ (a.frames.isEmpty = true ∨ a.frameTime ≤ 0) := by
    rintro (hnone | hzero)
    · exact hframes (List.isEmpty_iff.mp hnone)
    · exact absurd htime (not_lt.mpr hzero)
  rw [advance, if_neg hgoes]
  exact h.settle_eq

/-- An animation with frames and a frame time settles. -/
lemma exists_advance (hspent : ¬ (a.frames = [] ∨ a.frameTime ≤ 0)) (t : ℚ) :
    ∃ r, (a.later t).Settles r ∧ a.advance t = r := by
  obtain ⟨hframes, htime⟩ := not_or.mp hspent
  have htime' : 0 < (a.later t).frameTime := not_le.mp htime
  obtain ⟨r, hr⟩ := exists_settles htime'
  exact ⟨r, hr, advance_of_settles hframes (not_le.mp htime) hr⟩

lemma continues_of_advance (h : a.advance t = some b) : a.frames ≠ [] ∧ a.Continues b := by
  by_cases hspent : a.frames = [] ∨ a.frameTime ≤ 0
  · rw [advance_of_spent hspent] at h
    cases h
  · obtain ⟨r, hr, hadvance⟩ := exists_advance hspent t
    have hframes := (not_or.mp hspent).1
    have hb := hr.continues hframes b (hadvance.symm.trans h)
    exact ⟨hframes, ⟨hb.frames, hb.frameTime, hb.looping, hb.shows⟩⟩

/-- **An animation can be looked at in between.** -/
theorem advance_add (a : Animation ℚ) (s : ℚ) (ht : 0 ≤ t) :
    (a.advance s).bind (·.advance t) = a.advance (s + t) := by
  by_cases hspent : a.frames = [] ∨ a.frameTime ≤ 0
  · rw [advance_of_spent hspent, advance_of_spent hspent]
    rfl
  · obtain ⟨hframes, htime⟩ := not_or.mp hspent
    obtain ⟨r, hr, hfirst⟩ := exists_advance hspent s
    rw [hfirst]
    cases r with
    | none =>
      have hjoint := hr.later ht rfl
      rw [later_later] at hjoint
      exact (advance_of_settles hframes (not_le.mp htime) hjoint).symm
    | some b =>
      have hb := (continues_of_advance hfirst).2
      have hspent' : ¬ (b.frames = [] ∨ b.frameTime ≤ 0) := by rwa [hb.frames, hb.frameTime]
      obtain ⟨r', hr', hsecond⟩ := exists_advance hspent' t
      have hjoint := hr.later ht hr'
      rw [later_later] at hjoint
      rw [Option.bind_some, hsecond]
      exact (advance_of_settles hframes (not_le.mp htime) hjoint).symm

/-- What is on show in between is not left on show, unless nothing else comes. -/
lemma Continues.current? {x y : Animation ℚ} (h : x.Continues y) (hnone : y.current? = none) :
    x.current? = none := by
  unfold Animation.current? at hnone ⊢
  rw [List.getElem?_eq_none_iff, h.frames] at hnone
  rw [List.getElem?_eq_none_iff]
  rcases h.shows with hlt | heq
  · exact absurd hlt (not_lt.mpr hnone)
  · rwa [heq] at hnone

end Animation

/-! ### Countdowns -/

lemma Countdown.tick_add (c : Option (Countdown ℚ)) (s : ℚ) {t : ℚ} (ht : 0 ≤ t) :
    (c.bind (·.tick s)).bind (·.tick t) = c.bind (·.tick (s + t)) := by
  cases c with
  | none => rfl
  | some c =>
    have hrest : c.remaining - s - t = c.remaining - (s + t) := by ring
    simp only [Option.bind_some, tick]
    by_cases hover : c.remaining - s ≤ 0
    · have hover' : c.remaining - (s + t) ≤ 0 := by linarith
      rw [if_pos hover, if_pos hover']
      rfl
    · rw [if_neg hover]
      simp only [Option.bind_some, hrest]

/-! ### Actors -/

namespace Actor

/-- The sprite can be looked at in between. -/
lemma animate_add (x : Actor ℚ) (s : ℚ) {t : ℚ} (ht : 0 ≤ t) :
    (x.animate s).animate t = x.animate (s + t) := by
  cases hrunning : x.animation with
  | none => simp only [animate, hrunning]
  | some running =>
    have hjoint := running.advance_add s ht
    cases hfirst : running.advance s with
    | none =>
      rw [hfirst, Option.bind_none] at hjoint
      simp only [animate, hrunning, hfirst, ← hjoint]
    | some between =>
      obtain ⟨hframes, hbetween⟩ := Animation.continues_of_advance hfirst
      rw [hfirst, Option.bind_some] at hjoint
      simp only [animate, hrunning, hfirst, ← hjoint]
      cases hsecond : between.advance t with
      | none =>
        dsimp only
        rw [hbetween.frames, List.getLast?_eq_some_getLast hframes, Option.getD_some,
          Option.getD_some]
      | some later =>
        dsimp only
        cases hshown : later.current? with
        | none =>
          have hkept := (Animation.continues_of_advance hsecond).2.current? hshown
          rw [hkept]
          rfl
        | some frame => rfl

/-- The sprite goes on whatever the countdowns are. -/
lemma animate_timed (x : Actor ℚ) (emote jump shake : Option (Countdown ℚ)) (t : ℚ) :
    ({ x with emote := emote, jump := jump, shake := shake } : Actor ℚ).animate t =
      { x.animate t with emote := emote, jump := jump, shake := shake } := by
  unfold animate
  dsimp only
  split
  · rfl
  · split <;> rfl

lemma animate_countdowns (x : Actor ℚ) (t : ℚ) : (x.animate t).emote = x.emote ∧
    (x.animate t).jump = x.jump ∧ (x.animate t).shake = x.shake := by
  unfold animate
  split
  · exact ⟨rfl, rfl, rfl⟩
  · split <;> exact ⟨rfl, rfl, rfl⟩

/-- **Upkeep does not mind the frame rate.** In exact arithmetic, whatever animation and countdowns
an actor has, and however far they are: the upkeep of some time and then of some more leaves the
actor that the upkeep of both together leaves. -/
theorem update_update (x : Actor ℚ) (s : ℚ) {t : ℚ} (ht : 0 ≤ t) :
    (x.update s).update t = x.update (s + t) := by
  obtain ⟨hemote, hjump, hshake⟩ := x.animate_countdowns s
  obtain ⟨hemote', hjump', hshake'⟩ := x.animate_countdowns (s + t)
  simp only [update, animate_timed, animate_add x s ht, hemote, hjump, hshake, hemote', hjump',
    hshake', Countdown.tick_add _ s ht]

/-- Two frames, the first of which has had most of its time, under an emote and a jump. -/
def curtsy : Actor ℚ :=
  { (place "Haley" .villager ⟨2, 3⟩ .down 64 : Actor ℚ) with
    animation := some ⟨[4, 5], 100, false, 0, 60⟩
    emote := some ⟨150, 20⟩
    jump := some ⟨300, 8⟩ }

/-- Looked at just when the first frame has had its time, the curtsy ends as it does otherwise. -/
theorem curtsy_ends_alike : (0 : ℚ) ≤ 160 ∧
    (curtsy.update 40).update 160 = curtsy.update (40 + 160) ∧
    (curtsy.update (40 + 160)).animation = none ∧ (curtsy.update (40 + 160)).frame = 5 ∧
    (curtsy.update (40 + 160)).emote = none ∧ (curtsy.update (40 + 160)).jump = some ⟨100, 8⟩ := by
  have hlong : (0 : ℚ) ≤ 160 := by norm_num
  have hover : (⟨[4, 5], 100, false, 0, 60⟩ : Animation ℚ).advance (40 + 160) = none := by
    refine Animation.advance_of_settles (by decide) (by norm_num) ?_
    refine .goesOn (Animation.pass_of_turn? (by decide +kernel) rfl) (.comesOut ?_)
    exact Animation.pass_of_over (by decide +kernel) rfl
  have hanimate : curtsy.animate (40 + 160) = { curtsy with animation := none, frame := 5 } := by
    simp only [animate, curtsy, hover]
    rfl
  refine ⟨hlong, update_update curtsy 40 hlong, ?_⟩
  unfold update
  rw [hanimate]
  decide +kernel

end Actor

end Cutscene
