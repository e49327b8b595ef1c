import Cutscene.Proofs.Troupe.Sound

/-!
# Nobody Is Sent Off without Speed

A script may set the speed of an actor, but never to one at which it would not get on. Whatever else
happens to a troupe leaves the speeds alone or takes back what a script has set (`Troupe.fit_rule`).
-/

namespace Cutscene

variable {α : Type} [Scalar α]

/-- A speed that a script has set is one to get on by. -/
def Actor.Brisk (a : Actor α) : Prop := ∀ v, a.speedOverride = some v → ¬ v ≤ 0

namespace Actor

lemma brisk_of_none {a : Actor α} (h : a.speedOverride = none) : a.Brisk := by
  intro v hv
  rw [h] at hv
  cases hv

lemma Brisk.of_eq {a b : Actor α} (ha : a.Brisk) (h : b.speedOverride = a.speedOverride) :
    b.Brisk :=
  fun v hv => ha v (h ▸ hv)

end Actor

namespace Troupe

/-- Every speed that a script has set is one to get on by. -/
def Brisk (T : Troupe α) : Prop := ∀ m ∈ T.cast.members, m.2.Brisk

variable {T U : Troupe α} {g : Settings α} {name : String}

namespace Brisk

lemma put (hT : T.Brisk) {h : Handle} {a : Actor α} (ha : a.Brisk) : (T.put h a).Brisk := by
  intro m hm
  rcases Cast.mem_modify hm with ⟨-, -, rfl⟩ | ⟨hm, -⟩
  · exact ha
  · exact hT m hm

lemma of_get? (hT : T.Brisk) {h : Handle} {a : Actor α} (ha : T.cast.get? h = some a) :
    a.Brisk :=
  hT _ (Cast.mem_members_of_get? ha)

lemma modifyAll {c : Cast α} (hc : ∀ m ∈ c.members, m.2.Brisk) {f : Actor α → Actor α}
    (hf : ∀ a : Actor α, a.Brisk → (f a).Brisk) : ∀ m ∈ (c.modifyAll f).members, m.2.Brisk := by
  intro m hm
  obtain ⟨n, hn, rfl⟩ := List.mem_map.mp hm
  exact hf n.2 (hc n hn)

lemma spawn (hT : T.Brisk) {a : Actor α} (ha : a.Brisk) :
    ∀ m ∈ (T.cast.spawn a).2.members, m.2.Brisk := by
  intro m hm
  rcases Cast.mem_spawn hm with heq | hm
  · exact heq ▸ ha
  · exact hT m hm

lemma released {l : List Handle} {c : Cast α} (hc : ∀ m ∈ c.members, m.2.Brisk) :
    ∀ m ∈ (l.foldl (fun c h => c.modify h fun a => a.halt.freed) c).members, m.2.Brisk := by
  induction l generalizing c with
  | nil => exact hc
  | cons h rest ih =>
    refine ih fun m hm => ?_
    rcases Cast.mem_modify hm with ⟨a, ha, rfl⟩ | ⟨hm, -⟩
    · exact (hc _ ha).of_eq rfl
    · exact hc m hm

/-- One act of a command: only `speed` sets a speed. -/
lemma act (hT : T.Brisk) (h : Act g name T U) : U.Brisk := by
  cases h with
  | poses live pose => exact hT.put ((hT.of_get? live).of_eq pose.speedOverride)
  | shifts named live offset => exact hT.put ((hT.of_get? live).of_eq rfl)
  | paces named live positive =>
    refine hT.put fun v hv => ?_
    obtain rfl := Option.some.inj hv
    exact positive
  | sends named live offset facing => exact hT.put ((hT.of_get? live).of_eq rfl)
  | follows named live steps looping => exact hT.put ((hT.of_get? live).of_eq rfl)
  | circles named live width height pause => exact hT.put ((hT.of_get? live).of_eq rfl)
  | warps named live tile => exact hT.put ((hT.of_get? live).of_eq rfl)
  | halts named => exact modifyAll hT fun a ha => ha.of_eq rfl
  | releases named => exact released hT
  | comes named actor kind tile facing => exact hT.spawn (Actor.brisk_of_none rfl)
  | leaves named h => exact fun m hm => hT m (List.mem_filter.mp hm).1

lemma approach {a : Actor α} (ha : a.Brisk) (t : Target) : (a.approach g t).1.Brisk := by
  rcases a.approach_cases g t with ⟨-, heq⟩ | ⟨-, heq⟩
  · rw [heq]
    exact Actor.brisk_of_none rfl
  · rw [heq]
    exact ha.of_eq (a.stepToward_walks _ _).speedOverride

lemma update {p : Path α} (hp : p.Sound) {a : Actor α} (ha : a.Brisk) (time : α) :
    (p.update a time g).2.1.Brisk := by
  have hmoved : p.Moved a (p.update a time g).1 (p.update a time g).2.1
      (p.update a time g).2.2 := Path.update_moved hp
  cases hended : (p.update a time g).2.2 with
  | false => exact ha.of_eq (hmoved.walks hended).speedOverride
  | true => exact ha.of_eq (hmoved.frees hended).speedOverride

lemma elapse (hsound : T.Sound) (hT : T.Brisk) (time : α) : (T.elapse time g).Brisk := by
  unfold Brisk Troupe.elapse
  dsimp only
  rw [Path.updateAll_eq_drive]
  refine Cast.drive_every (modifyAll hT fun a ha => ha.of_eq (a.update_poses time).speedOverride) ?_
  exact fun p hp a ha => update (hsound.paths p hp) ha time

lemma resolve (hT : T.Brisk) : (T.resolve g).Brisk := by
  unfold Brisk Troupe.resolve
  dsimp only
  rw [Barrier.advance_eq_drive]
  exact Cast.drive_every hT fun m _ a ha => approach ha m.2

end Brisk

/-- Every troupe that begins without actors, targets and paths stays sound and brisk. -/
theorem fit_rule : Rule fun (_ : Settings α) T => T.Sound ∧ T.Brisk where
  act hT h := ⟨hT.1.act h, hT.2.act h⟩
  drift := by
    intro g T U hT h
    refine ⟨sound_rule.drift (g := g) hT.1 h, ?_⟩
    cases h with
    | assembles player idle pathless => exact fun m hm => absurd hm List.not_mem_nil
    | comes actor kind tile facing => exact hT.2.spawn (Actor.brisk_of_none rfl)
    | elapses time => exact hT.2.elapse hT.1 time
    | resolves => exact hT.2.resolve
    | dismisses => exact Brisk.modifyAll hT.2 fun a _ => Actor.brisk_of_none rfl
  still := by
    intro g T hT
    exact ⟨sound_rule.still (g := g) hT.1, Brisk.modifyAll hT.2 fun a ha => ha.of_eq rfl⟩

end Troupe

end Cutscene
