import Cutscene.Proofs.Troupe.Bound

/-!
# Actors That Nothing Moves

An actor who is not on the way and whom no path walks is settled (`Troupe.Settled`). Time and the
barrier leave him where he is, and so do all commands but those that put actors in other places
or take them off (`Commands.displacing`).
-/

namespace Cutscene

variable {α : Type}

namespace Commands

/-- The commands that put actors in other places, send them there, or change who is live. -/
def displacing : List String :=
  ["move", "advancedMove", "walkInSquare", "warp", "positionOffset", "addActor", "removeActor"]

end Commands

namespace Cast

/-- The actor under the handle is live, and this is his place. -/
def HasAt (c : Cast α) (h : Handle) (x : Vec α) : Prop := ∃ a, c.get? h = some a ∧ a.position = x

variable {c : Cast α} {h k : Handle} {x : Vec α} {f : Actor α → Actor α}

lemma HasAt.modify (hc : c.HasAt h x) (hf : ∀ a, (f a).position = a.position) (k : Handle) :
    (c.modify k f).HasAt h x := by
  obtain ⟨a, ha, hposition⟩ := hc
  rw [HasAt, get?_modify]
  split
  · exact ⟨f a, by rw [ha, Option.map_some], (hf a).trans hposition⟩
  · exact ⟨a, ha, hposition⟩

lemma HasAt.modifyAll (hc : c.HasAt h x) (hf : ∀ a, (f a).position = a.position) :
    (c.modifyAll f).HasAt h x := by
  obtain ⟨a, ha, hposition⟩ := hc
  exact ⟨f a, by rw [get?_modifyAll, ha, Option.map_some], (hf a).trans hposition⟩

/-- Somebody is changed where he stands. -/
lemma HasAt.put (hc : c.HasAt h x) {a b : Actor α} (live : c.get? k = some a)
    (hb : b.position = a.position) : (c.modify k fun _ => b).HasAt h x := by
  obtain ⟨a', ha, hposition⟩ := hc
  rw [HasAt, get?_modify]
  split
  · rename_i heq
    obtain rfl : a' = a := Option.some.inj (ha.symm.trans (heq ▸ live))
    exact ⟨b, by rw [ha, Option.map_some], hb.trans hposition⟩
  · exact ⟨a', ha, hposition⟩

end Cast

namespace Troupe

/-- The actor is at this place, and neither the barrier nor a path takes him from it. -/
structure Settled (T : Troupe α) (h : Handle) (x : Vec α) : Prop where
  idle : h ∉ T.barrier.movers
  unled : T.Unled h
  here : T.cast.HasAt h x

variable {T U : Troupe α} {h : Handle} {x : Vec α}

lemma Settled.still (hT : T.Settled h x) : T.still.Settled h x :=
  ⟨by simp [Troupe.still], by simp [Unled, Troupe.still], hT.here.modifyAll fun _ => rfl⟩

lemma Settled.dismissed (hT : T.Settled h x) : T.dismissed.Settled h x :=
  ⟨by simp [Troupe.dismissed], by simp [Unled, Troupe.dismissed], hT.here.modifyAll fun _ => rfl⟩

lemma Settled.released (hT : T.Settled h x) : T.released.Settled h x where
  idle := hT.idle
  unled := by simp [Unled, Troupe.released]
  here := List.foldlRecOn (motive := fun c : Cast α => c.HasAt h x) T.walkers
    (fun c k => c.modify k fun a => a.halt.freed) hT.here
    fun _ hc k _ => hc.modify (f := fun a => a.halt.freed) (fun _ => rfl) k

variable [Scalar α] {g : Settings α} {name : String} {gone : List Handle}

/-- One act of a command that does not displace anybody. -/
lemma Settled.act (hname : name ∉ Commands.displacing) (hT : T.Settled h x)
    (act : Act g name T U) : U.Settled h x := by
  have hother : ∀ {P : Prop}, name ∈ Commands.displacing → P := fun hmem => absurd hmem hname
  cases act with
  | poses live pose => exact ⟨hT.idle, hT.unled, hT.here.put live pose.position⟩
  | paces named live positive => exact ⟨hT.idle, hT.unled, hT.here.put live rfl⟩
  | halts named => exact ⟨by simp, hT.unled, hT.here.modifyAll fun _ => rfl⟩
  | releases named => exact hT.released
  | shifts named live offset => exact hother (by simp [named, Commands.displacing])
  | sends named live offset facing => exact hother (by simp [named, Commands.displacing])
  | follows named live steps looping => exact hother (by simp [named, Commands.displacing])
  | circles named live width height pause => exact hother (by simp [named, Commands.displacing])
  | warps named live tile => exact hother (by simp [named, Commands.displacing])
  | comes named actor kind tile facing => exact hother (by simp [named, Commands.displacing])
  | leaves named k => exact hother (by simp [named, Commands.displacing])

lemma Settled.acts (hname : name ∉ Commands.displacing) (hT : T.Settled h x)
    (acts : Relation.ReflTransGen (Act g name) T U) : U.Settled h x := by
  induction acts with
  | refl => exact hT
  | tail _ act ih => exact ih.act hname act

/-- Nothing but time, the barrier, and others who go off. -/
lemma Settled.bound (hT : T.Settled h x) (hU : Bound g gone T U) (hgone : h ∉ gone) :
    U.Settled h x where
  idle hmem := hT.idle ((hU.pending.map Prod.fst).subset hmem)
  unled := hU.unled hT.unled
  here := by
    obtain ⟨a, ha, hposition⟩ := hT.here
    have hlive := hU.live h (Cast.mem_handles_of_get? ha) hgone
    obtain ⟨b, hb⟩ := Option.isSome_iff_exists.mp (Cast.get?_isSome_iff.mpr hlive)
    obtain ⟨a', ha', hsame, -⟩ := hU.stays hT.idle hT.unled hb
    obtain rfl : a' = a := Option.some.inj (ha'.symm.trans ha)
    exact ⟨b, hb, hsame.trans hposition⟩

end Troupe

end Cutscene
