import Cutscene.Proofs.Troupe.Walking
import Mathlib.Algebra.Order.Ring.Nat

/-!
# Driving a Cast

The targets of the barrier and the paths are drivers: each has one actor, and in every tick each
has its turn with that actor and goes on or is done. Both are instances of one recursion
(`Cast.drive`), and what is to be said of a tick of either is said of it once.
-/

namespace Cutscene

variable {α : Type}

namespace Cast

lemma get?_modify (c : Cast α) (h k : Handle) (f : Actor α → Actor α) :
    (c.modify h f).get? k = if k = h then (c.get? k).map f else c.get? k := by
  unfold modify get?
  dsimp only
  induction c.members with
  | nil => simp
  | cons m rest ih =>
    have hfst : (if m.1 = h then (m.1, f m.2) else m).1 = m.1 := by split <;> rfl
    rw [List.map_cons, List.lookup_cons, List.lookup_cons, hfst, ih]
    cases heq : k == m.1 with
    | false => rfl
    | true =>
      rw [beq_iff_eq.mp heq]
      by_cases hm : m.1 = h <;> simp [hm]

@[simp] lemma get?_modify_self (c : Cast α) (h : Handle) (f : Actor α → Actor α) :
    (c.modify h f).get? h = (c.get? h).map f := by
  rw [get?_modify, if_pos rfl]

lemma get?_modify_of_ne (c : Cast α) {h k : Handle} (hk : k ≠ h) (f : Actor α → Actor α) :
    (c.modify h f).get? k = c.get? k := by
  rw [get?_modify, if_neg hk]

lemma get?_modifyAll (c : Cast α) (f : Actor α → Actor α) (h : Handle) :
    (c.modifyAll f).get? h = (c.get? h).map f := by
  unfold modifyAll get?
  dsimp only
  induction c.members with
  | nil => rfl
  | cons m rest ih =>
    rw [List.map_cons, List.lookup_cons, List.lookup_cons, ih]
    cases h == m.1 <;> rfl

section Drive

variable {β : Type} (actor : β → Handle) (turn : β → Actor α → β × Actor α × Bool)

/-- The drivers have their turns one after the other. One that is done goes, and so does one whose
actor is not live. -/
def drive : List β → Cast α → List β × Cast α
  | [], c => ([], c)
  | d :: rest, c =>
    match c.get? (actor d) with
    | none => drive rest c
    | some a =>
      let moved := turn d a
      let later := drive rest (c.modify (actor d) fun _ => moved.2.1)
      (if moved.2.2 then later.1 else moved.1 :: later.1, later.2)

variable {actor turn} {c : Cast α} {d : β} {rest : List β}

lemma drive_cons_none (hd : c.get? (actor d) = none) :
    drive actor turn (d :: rest) c = drive actor turn rest c := by
  rw [drive, hd]

lemma drive_cons_some {a : Actor α} (hd : c.get? (actor d) = some a) :
    drive actor turn (d :: rest) c =
      (if (turn d a).2.2 then
          (drive actor turn rest (c.modify (actor d) fun _ => (turn d a).2.1)).1
        else
          (turn d a).1 :: (drive actor turn rest (c.modify (actor d) fun _ => (turn d a).2.1)).1,
        (drive actor turn rest (c.modify (actor d) fun _ => (turn d a).2.1)).2) := by
  rw [drive, hd]

/-- Nobody comes on or goes off. -/
@[simp] lemma handles_drive (ds : List β) (c : Cast α) :
    (drive actor turn ds c).2.handles = c.handles := by
  induction ds generalizing c with
  | nil => rfl
  | cons d rest ih =>
    cases hd : c.get? (actor d) with
    | none => rw [drive_cons_none hd, ih]
    | some a => rw [drive_cons_some hd, ih, handles_modify]

/-- An actor without a driver is left alone. -/
lemma get?_drive_of_not_mem {ds : List β} {h : Handle} (hh : h ∉ ds.map actor) (c : Cast α) :
    (drive actor turn ds c).2.get? h = c.get? h := by
  induction ds generalizing c with
  | nil => rfl
  | cons d rest ih =>
    rw [List.map_cons, List.mem_cons, not_or] at hh
    cases hd : c.get? (actor d) with
    | none => rw [drive_cons_none hd, ih hh.2]
    | some a => rw [drive_cons_some hd, ih hh.2, get?_modify_of_ne c hh.1]

/-- Whoever still drives is a driver that has had its turn and is not done. -/
lemma mem_drive {ds : List β} {e : β} (he : e ∈ (drive actor turn ds c).1) :
    ∃ d ∈ ds, ∃ a, (turn d a).2.2 = false ∧ e = (turn d a).1 := by
  induction ds generalizing c with
  | nil => cases he
  | cons d rest ih =>
    have hlater : ∀ {c : Cast α}, e ∈ (drive actor turn rest c).1 →
        ∃ d' ∈ d :: rest, ∃ a, (turn d' a).2.2 = false ∧ e = (turn d' a).1 := by
      intro c he
      obtain ⟨d', hd', h⟩ := ih he
      exact ⟨d', List.mem_cons_of_mem d hd', h⟩
    cases hd : c.get? (actor d) with
    | none =>
      rw [drive_cons_none hd] at he
      exact hlater he
    | some a =>
      rw [drive_cons_some hd] at he
      cases hdone : (turn d a).2.2 with
      | true => exact hlater (by simpa [hdone] using he)
      | false =>
        rw [hdone] at he
        rcases List.mem_cons.mp he with rfl | he
        · exact ⟨d, List.mem_cons_self, a, hdone, rfl⟩
        · exact hlater he

/-- Those who still drive keep their order, and whatever no turn changes of them. -/
lemma map_drive_sublist {γ : Type} {key : β → γ} {ds : List β}
    (hkey : ∀ d a, key (turn d a).1 = key d) (c : Cast α) :
    ((drive actor turn ds c).1.map key).Sublist (ds.map key) := by
  induction ds generalizing c with
  | nil => exact .slnil
  | cons d rest ih =>
    cases hd : c.get? (actor d) with
    | none =>
      rw [drive_cons_none hd]
      exact (ih c).cons _
    | some a =>
      rw [drive_cons_some hd]
      dsimp only
      split
      · exact (ih _).cons _
      · rw [List.map_cons, hkey, List.map_cons]
        exact (ih _).cons_cons _

/-- If an actor that bears a mark after a turn bore it before and keeps its driver, then whoever
bears it in the end bore it at first, and keeps the driver that he may have. -/
lemma drive_mark (mark : Actor α → Prop) {ds : List β}
    (hactor : ∀ d a, actor (turn d a).1 = actor d)
    (hturn : ∀ d ∈ ds, ∀ a, mark (turn d a).2.1 → (turn d a).2.2 = false ∧ mark a)
    {m : Handle × Actor α} (hm : m ∈ (drive actor turn ds c).2.members) (hmark : mark m.2) :
    (∃ a, (m.1, a) ∈ c.members ∧ mark a) ∧
      (m.1 ∈ ds.map actor → m.1 ∈ (drive actor turn ds c).1.map actor) := by
  induction ds generalizing c with
  | nil => exact ⟨⟨m.2, hm, hmark⟩, id⟩
  | cons d rest ih =>
    obtain ⟨hfirst, hrest⟩ := List.forall_mem_cons.mp hturn
    cases hd : c.get? (actor d) with
    | none =>
      rw [drive_cons_none hd] at hm ⊢
      obtain ⟨⟨a, ha, hmarked⟩, hkeeps⟩ := ih hrest hm
      refine ⟨⟨a, ha, hmarked⟩, fun hmem => ?_⟩
      rcases List.mem_cons.mp hmem with heq | hmem
      · have hlive : m.1 ∈ c.handles := List.mem_map.mpr ⟨_, ha, rfl⟩
        rw [heq, ← get?_isSome_iff, hd] at hlive
        cases hlive
      · exact hkeeps hmem
    | some a =>
      rw [drive_cons_some hd] at hm ⊢
      dsimp only at hm ⊢
      obtain ⟨⟨b, hb, hmarked⟩, hkeeps⟩ := ih hrest hm
      rcases mem_modify hb with ⟨a', -, heq⟩ | ⟨hb, hne⟩
      · obtain ⟨hfst, rfl⟩ := Prod.mk.inj heq
        obtain ⟨hgoing, hbefore⟩ := hfirst a hmarked
        refine ⟨⟨a, hfst ▸ mem_members_of_get? hd, hbefore⟩, fun _ => ?_⟩
        rw [hgoing, hfst]
        exact List.mem_cons.mpr (.inl (hactor d a).symm)
      · refine ⟨⟨b, hb, hmarked⟩, fun hmem => ?_⟩
        have hlater := hkeeps ((List.mem_cons.mp hmem).resolve_left hne)
        split
        · exact hlater
        · exact List.mem_cons_of_mem _ hlater

/-- An actor comes out of all the turns as its own drivers leave it. -/
lemma get?_drive (R : Actor α → Actor α → Prop) (hrefl : ∀ a, R a a)
    (htrans : ∀ {a b c}, R a b → R b c → R a c) {ds : List β} {h : Handle}
    (hturn : ∀ d ∈ ds, actor d = h → ∀ a, R a (turn d a).2.1) {a : Actor α}
    (ha : c.get? h = some a) :
    ∃ b, (drive actor turn ds c).2.get? h = some b ∧ R a b := by
  induction ds generalizing c a with
  | nil => exact ⟨a, ha, hrefl a⟩
  | cons d rest ih =>
    obtain ⟨hfirst, hrest⟩ := List.forall_mem_cons.mp hturn
    cases hd : c.get? (actor d) with
    | none =>
      rw [drive_cons_none hd]
      exact ih hrest ha
    | some a' =>
      rw [drive_cons_some hd]
      by_cases hh : actor d = h
      · obtain rfl : a' = a := Option.some.inj (hd.symm.trans (hh ▸ ha))
        obtain ⟨b, hb, hmarked⟩ := ih hrest (c := c.modify (actor d) fun _ => (turn d a').2.1)
          (by rw [hh, get?_modify_self, ha, Option.map_some])
        exact ⟨b, hb, htrans (hfirst hh a') hmarked⟩
      · exact ih hrest (by rwa [get?_modify_of_ne c (Ne.symm hh)])

section Purse

variable (cost : β → Option (Actor α) → Nat)

/-- What drivers may still spend on the actors that they find. -/
def purse (actor : β → Handle) (ds : List β) (c : Cast α) : Nat :=
  (ds.map fun d => cost d (c.get? (actor d))).sum

variable {cost}

lemma purse_cons (d : β) (rest : List β) (c : Cast α) :
    purse cost actor (d :: rest) c = cost d (c.get? (actor d)) + purse cost actor rest c := by
  simp [purse]

lemma purse_congr {ds : List β} {c c' : Cast α}
    (h : ∀ d ∈ ds, cost d (c'.get? (actor d)) = cost d (c.get? (actor d))) :
    purse cost actor ds c' = purse cost actor ds c :=
  congrArg List.sum (List.map_congr_left h)

/-- If no two drivers have the same actor, and each of them spends in its turn unless it is done,
then so much is spent as there are drivers. -/
theorem drive_purse {ds : List β} (hapart : (ds.map actor).Nodup)
    (hactor : ∀ d a, actor (turn d a).1 = actor d) (hpos : ∀ d x, 0 < cost d x)
    (hspend : ∀ d ∈ ds, ∀ a, c.get? (actor d) = some a → (turn d a).2.2 = false →
      cost (turn d a).1 (some (turn d a).2.1) < cost d (some a)) :
    purse cost actor (drive actor turn ds c).1 (drive actor turn ds c).2 + ds.length ≤
      purse cost actor ds c := by
  induction ds generalizing c with
  | nil => exact Nat.le_refl _
  | cons d rest ih =>
    rw [List.map_cons, List.nodup_cons] at hapart
    obtain ⟨hnew, hapart⟩ := hapart
    obtain ⟨hfirst, hrest⟩ := List.forall_mem_cons.mp hspend
    have hd0 := hpos d (c.get? (actor d))
    cases hd : c.get? (actor d) with
    | none =>
      have hlater := ih hapart hrest
      rw [drive_cons_none hd, purse_cons, List.length_cons]
      omega
    | some a =>
      -- The others find the actors that they would have found without this turn.
      have hothers : ∀ e ∈ rest,
          (c.modify (actor d) fun _ => (turn d a).2.1).get? (actor e) = c.get? (actor e) := by
        intro e he
        refine get?_modify_of_ne c (fun heq => hnew ?_) _
        exact heq ▸ List.mem_map_of_mem he
      have hlater := ih (c := c.modify (actor d) fun _ => (turn d a).2.1) hapart
        fun e he b hb => hrest e he b (hothers e he ▸ hb)
      rw [purse_congr fun e he => congrArg (cost e) (hothers e he)] at hlater
      rw [drive_cons_some hd, purse_cons, List.length_cons]
      dsimp only
      split
      · omega
      · rename_i hgoes
        have hspent := hfirst a hd (by simpa using hgoes)
        have hleft : (drive actor turn rest (c.modify (actor d) fun _ => (turn d a).2.1)).2.get?
            (actor (turn d a).1) = some (turn d a).2.1 := by
          rw [hactor, get?_drive_of_not_mem hnew, get?_modify_self, hd, Option.map_some]
        rw [purse_cons, hleft, hd]
        omega

end Purse

/-- What all actors bear and every turn leaves, all actors bear afterwards. -/
lemma drive_every {P : Actor α → Prop} {ds : List β} (hc : ∀ m ∈ c.members, P m.2)
    (hturn : ∀ d ∈ ds, ∀ a, P a → P (turn d a).2.1) :
    ∀ m ∈ (drive actor turn ds c).2.members, P m.2 := by
  induction ds generalizing c with
  | nil => exact hc
  | cons d rest ih =>
    obtain ⟨hfirst, hrest⟩ := List.forall_mem_cons.mp hturn
    cases hd : c.get? (actor d) with
    | none =>
      rw [drive_cons_none hd]
      exact ih hc hrest
    | some a =>
      rw [drive_cons_some hd]
      refine ih (fun m hm => ?_) hrest
      rcases mem_modify hm with ⟨-, -, rfl⟩ | ⟨hm, -⟩
      · exact hfirst a (hc _ (mem_members_of_get? hd))
      · exact hc m hm

end Drive

end Cast

variable [Scalar α]

/-! ### Paths and targets as drivers -/

/-- A target has its turn with the actor that is sent to it. -/
def Barrier.turn (g : Settings α) (m : Handle × Target) (a : Actor α) :
    (Handle × Target) × Actor α × Bool :=
  (m, a.approach g m.2)

lemma Barrier.advance_eq_drive (g : Settings α) (pending : List (Handle × Target)) (c : Cast α) :
    Barrier.advance g pending c = Cast.drive Prod.fst (Barrier.turn g) pending c := by
  induction pending generalizing c with
  | nil => rfl
  | cons m rest ih =>
    obtain ⟨h, t⟩ := m
    unfold Barrier.advance Cast.drive
    cases c.get? h with
    | none => exact ih c
    | some a =>
      dsimp only [Barrier.turn]
      rw [ih]

/-- A path has its turn with its actor. -/
def Path.turn (time : α) (g : Settings α) (p : Path α) (a : Actor α) :
    Path α × Actor α × Bool :=
  p.update a time g

lemma Path.updateAll_eq_drive (time : α) (g : Settings α) (paths : List (Path α)) (c : Cast α) :
    Path.updateAll time g paths c = Cast.drive Path.actor (Path.turn time g) paths c := by
  induction paths generalizing c with
  | nil => rfl
  | cons p rest ih =>
    unfold Path.updateAll Cast.drive
    cases c.get? p.actor with
    | none => exact ih c
    | some a =>
      dsimp only [Path.turn]
      rw [Path.update_actor, ih]

end Cutscene
