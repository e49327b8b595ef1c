import Cutscene.Proofs.Tempo.Clock
import Cutscene.Proofs.Troupe.Identity
import Cutscene.Proofs.Troupe.Sound

/-!
# Identities That Last

Whom an identity means is a matter of names and kinds, and nobody changes either while on the stage:
walking, posing and the passing of time leave them alone. So whatever befalls a troupe, no two of
its actors come to answer to one identity (`Troupe.singular_rule`).
-/

namespace Cutscene

variable {α : Type}

namespace Cast

variable {c d : Cast α} {h : Handle} {id : ActorId}

variable [Scalar α]

lemma answers_bare {a : Actor α} {localPlayer : Nat} :
    a.bare.Answers localPlayer id ↔ a.Answers localPlayer id := by
  cases id <;> rfl

/-- Names and kinds tell who answers to what. -/
lemma Singular.of_bare (hc : c.Singular) (hd : d.Orderly) (hbare : d.bare = c.bare) :
    d.Singular where
  toOrderly := hd
  single := by
    have hplayer : d.bare.localPlayer = c.bare.localPlayer := congrArg Cast.localPlayer hbare
    change d.localPlayer = c.localPlayer at hplayer
    have hwas : ∀ m ∈ d.members, ∃ n ∈ c.members, n.1 = m.1 ∧ n.2.bare = m.2.bare := by
      intro m hm
      have hmem : (m.1, m.2.bare) ∈ c.bare.members := hbare ▸ List.mem_map.mpr ⟨m, hm, rfl⟩
      obtain ⟨n, hn, heq⟩ := List.mem_map.mp hmem
      obtain ⟨hfst, hsnd⟩ := Prod.mk.inj heq
      exact ⟨n, hn, hfst, hsnd⟩
    intro m hm n hn id hmid hnid
    obtain ⟨m', hm', hmh, hmb⟩ := hwas m hm
    obtain ⟨n', hn', hnh, hnb⟩ := hwas n hn
    rw [hplayer, ← answers_bare, ← hmb, answers_bare] at hmid
    rw [hplayer, ← answers_bare, ← hnb, answers_bare] at hnid
    rw [← hmh, ← hnh]
    exact hc.single m' hm' n' hn' id hmid hnid

lemma Singular.modifyAll (hc : c.Singular) {f : Actor α → Actor α}
    (hf : ∀ a, (f a).bare = a.bare) : (c.modifyAll f).Singular :=
  hc.of_bare (hc.toOrderly.modifyAll f) (bare_modifyAll hf c)

lemma Singular.modify (hc : c.Singular) {f : Actor α → Actor α} (hf : ∀ a, (f a).bare = a.bare)
    (h : Handle) : (c.modify h f).Singular :=
  hc.of_bare (hc.toOrderly.modify h f) (bare_modify_of_bare hf c h)

/-- An actor may take the place of another of its name and kind. -/
lemma Singular.put (hc : c.Singular) {a b : Actor α} (live : c.get? h = some a)
    (hb : b.bare = a.bare) : (c.modify h fun _ => b).Singular :=
  hc.of_bare (hc.toOrderly.modify h _) (hc.toOrderly.bare_modify live hb)

end Cast

variable [Scalar α]

lemma Actor.Walks.bare {a b : Actor α} (h : a.Walks b) : b.bare = a.bare := by
  rw [Actor.bare, h.name, h.kind]
  rfl

lemma Path.Sound.tame {p : Path α} (hp : p.Sound) : p.Tame := by
  intro f hf a
  rcases hp.ending with heq | ⟨heq, -, -⟩
  · rw [heq, Option.mem_some_iff] at hf
    rw [← hf]
    rfl
  · rw [heq] at hf
    cases hf

namespace Troupe

variable {T U : Troupe α} {g : Settings α} {name : String}

lemma singular_released (hT : T.cast.Singular) : T.released.cast.Singular :=
  List.foldlRecOn (motive := fun c : Cast α => c.Singular) T.walkers
    (fun c h => c.modify h fun a => a.halt.freed) hT
    fun _ hc h _ => hc.modify (f := fun a => a.halt.freed) (fun _ => rfl) h

/-- Only `addActor` and `removeActor` change who is there. -/
lemma singular_act (hT : T.cast.Singular) (act : Act g name T U) : U.cast.Singular := by
  cases act with
  | poses live pose => exact hT.put live pose.bare
  | shifts named live offset => exact hT.put live rfl
  | paces named live positive => exact hT.put live rfl
  | sends named live offset facing => exact hT.put live rfl
  | follows named live steps looping => exact hT.put live rfl
  | circles named live width height pause => exact hT.put live rfl
  | warps named live tile => exact hT.put live rfl
  | halts named => exact hT.modifyAll fun _ => rfl
  | releases named => exact singular_released hT
  | comes named actor kind tile facing => exact hT.spawn _
  | leaves named h => exact hT.remove h

lemma singular_elapse (hT : T.cast.Singular) (hpaths : ∀ p ∈ T.paths, p.Tame) (time : α)
    (g : Settings α) : (T.elapse time g).cast.Singular := by
  have hlater : (T.cast.modifyAll (·.update time)).Singular :=
    hT.modifyAll fun a => a.update_bare time
  obtain ⟨-, horder, hbare⟩ := Path.updateAll_spec time g hlater.toOrderly hpaths
  exact hlater.of_bare horder hbare

/-- In every troupe that begins without targets and paths, and with a cast in which each identity
means one actor, it goes on to mean one at most. -/
theorem singular_rule : Rule fun (_ : Settings α) T => T.Sound ∧ T.cast.Singular where
  act hT h := ⟨hT.1.act h, singular_act hT.2 h⟩
  drift := by
    intro g T U hT h
    refine ⟨sound_rule.drift (g := g) hT.1 h, ?_⟩
    cases h with
    | assembles player idle pathless => exact .empty player
    | comes actor kind tile facing => exact hT.2.spawn _
    | elapses time => exact singular_elapse hT.2 (fun p hp => (hT.1.paths p hp).tame) time g
    | resolves =>
      obtain ⟨horder, hbare⟩ := Barrier.advance_spec g T.barrier.pending hT.2.toOrderly
      exact hT.2.of_bare horder hbare
    | dismisses => exact hT.2.modifyAll (f := fun a => a.halt.clearOverrides) fun _ => rfl
  still := by
    intro g T hT
    exact ⟨sound_rule.still (g := g) hT.1, hT.2.modifyAll fun _ => rfl⟩

end Troupe

end Cutscene
