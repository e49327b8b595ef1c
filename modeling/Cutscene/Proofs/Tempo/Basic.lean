import Cutscene.Proofs.Run.Cases
import Cutscene.Stage.Rehearsal

/-!
# Scenes without Their Clock

Where actors stand, how long a pause still lasts and whether a dialogue is still up depend on how
fast a run goes. What is left of a scene without all that is bare (`Scene.bare`), and two scenes
are alike if they are equal when bare. Whatever an event does to its scene it does alike to scenes
that are alike.
-/

namespace Cutscene

variable {α : Type} [Scalar α]

/-! ### What is bare -/

/-- An actor as it comes on: a name and a kind. -/
def Actor.bare (a : Actor α) : Actor α := .place a.name a.kind ⟨0, 0⟩ .up 0

/-- A pause that is over. -/
def Wait.bare : Wait α → Wait α
  | .pause _ => .pause 0
  | w => w

def Phase.bare : Phase → Phase
  | .suspended => .running
  | phase => phase

/-- No dialogue or menu is up, and nothing else holds the frame. -/
def Rehearsal.bare (r : Rehearsal) : Rehearsal :=
  { r with dialogueOpen := false, menuOpen := false, worldFrozen := false }

/-- Nobody takes a step and nothing lasts. -/
def Settings.bare (s : Settings α) : Settings α :=
  { s with npcSpeed := 0, farmerSpeed := 0, arrivalSlop := 0, emoteTime := 0, jumpTime := 0 }

def Cast.bare (c : Cast α) : Cast α := c.modifyAll Actor.bare

namespace Scene

/-- What is left of a scene without all that the clock moves. -/
def bare (s : Scene α Rehearsal) : Scene α Rehearsal :=
  { s with
    phase := s.phase.bare
    settings := s.settings.bare
    cast := s.cast.bare
    barrier := .closed
    paths := []
    flags := { s.flags with continueAfterMove := false }
    wait := s.wait.map Wait.bare
    chainRequested := false
    stage := s.stage.bare
    elapsed := 0 }

/-- The scenes are the same but for what the clock moves. -/
def Alike (s u : Scene α Rehearsal) : Prop := s.bare = u.bare

end Scene

/-! ### Actors and casts -/

omit [Scalar α] in
@[simp] lemma Phase.bare_bare (p : Phase) : p.bare.bare = p.bare := by
  cases p <;> rfl

@[simp] lemma Wait.bare_bare (w : Wait α) : w.bare.bare = w.bare := by
  cases w <;> rfl

@[simp] lemma Actor.bare_bare (a : Actor α) : a.bare.bare = a.bare := rfl

namespace Cast

omit [Scalar α] in
lemma modifyAll_modifyAll (c : Cast α) (f g : Actor α → Actor α) :
    (c.modifyAll f).modifyAll g = c.modifyAll (g ∘ f) := by
  simp [modifyAll, Function.comp_def]

lemma bare_modifyAll {f : Actor α → Actor α} (hf : ∀ a, (f a).bare = a.bare) (c : Cast α) :
    (c.modifyAll f).bare = c.bare := by
  rw [bare, modifyAll_modifyAll]
  exact congrArg c.modifyAll (funext hf)

@[simp] lemma bare_bare (c : Cast α) : c.bare.bare = c.bare :=
  bare_modifyAll Actor.bare_bare c

lemma bare_modify {f g : Actor α → Actor α} (hfg : ∀ a, (f a).bare = g a.bare) (c : Cast α)
    (h : Handle) : (c.modify h f).bare = c.bare.modify h g := by
  simp only [bare, modify, modifyAll, List.map_map, Cast.mk.injEq, and_true]
  refine List.map_congr_left fun m _ => ?_
  simp only [Function.comp_apply]
  split
  · simp [hfg]
  · rfl

lemma bare_modify_of_bare {f : Actor α → Actor α} (hf : ∀ a, (f a).bare = a.bare) (c : Cast α)
    (h : Handle) : (c.modify h f).bare = c.bare := by
  rw [bare_modify (g := id) hf]
  simp [modify]

lemma bare_remove (c : Cast α) (h : Handle) : (c.remove h).bare = c.bare.remove h := by
  simp [bare, remove, modifyAll, List.filter_map, Function.comp_def]

lemma get?_bare (c : Cast α) (h : Handle) : c.bare.get? h = (c.get? h).map Actor.bare := by
  unfold bare modifyAll get?
  dsimp only
  induction c.members with
  | nil => rfl
  | cons m rest ih =>
    rw [List.map_cons, List.lookup_cons, List.lookup_cons, ih]
    cases h == m.1 <;> rfl

lemma handleOf?_bare {test : Actor α → Bool} (htest : ∀ a, test a.bare = test a) (c : Cast α) :
    c.bare.handleOf? test = c.handleOf? test := by
  simp only [handleOf?, bare, modifyAll, List.find?_map, Option.map_map]
  simp [Function.comp_def, htest]

lemma find?_bare (c : Cast α) (id : ActorId) : c.bare.find? id = c.find? id := by
  have hplayer : ∀ number, c.bare.findPlayer? number = c.findPlayer? number :=
    fun number => handleOf?_bare (fun _ => rfl) c
  cases id with
  | localPlayer => exact hplayer c.localPlayer
  | player number => exact hplayer number
  | named name =>
    exact congrArg₂ Option.or (handleOf?_bare (fun _ => rfl) c) (handleOf?_bare (fun _ => rfl) c)

lemma bare_spawn (c : Cast α) (a : Actor α) :
    (c.spawn a).2.bare = (c.bare.spawn a.bare).2 := by
  have hfind : c.bare.find? (identity a.bare) = c.find? (identity a) := find?_bare c (identity a)
  unfold spawn
  rw [hfind]
  cases c.find? (identity a) with
  | none => simp [bare, modifyAll]
  | some h =>
    dsimp only
    exact bare_modify (f := fun _ => a) (g := fun _ => a.bare) (fun _ => rfl) c h

/-- Every handle is given out once. -/
structure Orderly (c : Cast α) : Prop where
  nodup : (c.members.map Prod.fst).Nodup
  given : ∀ m ∈ c.members, m.1.number < c.next

variable {c : Cast α}

omit [Scalar α] in
lemma Orderly.modifyAll (hc : c.Orderly) (f : Actor α → Actor α) : (c.modifyAll f).Orderly where
  nodup := by simpa [Cast.modifyAll, Function.comp_def] using hc.nodup
  given := by
    intro m hm
    obtain ⟨n, hn, rfl⟩ := List.mem_map.mp hm
    exact hc.given n hn

omit [Scalar α] in
lemma Orderly.modify (hc : c.Orderly) (h : Handle) (f : Actor α → Actor α) :
    (c.modify h f).Orderly where
  nodup := by
    have hfst : ∀ m : Handle × Actor α, (if m.1 = h then (m.1, f m.2) else m).1 = m.1 := by
      intro m
      split <;> rfl
    simpa [Cast.modify, Function.comp_def, hfst] using hc.nodup
  given := by
    intro m hm
    obtain ⟨n, hn, rfl⟩ := List.mem_map.mp hm
    split
    · exact hc.given n hn
    · exact hc.given n hn

omit [Scalar α] in
lemma Orderly.remove (hc : c.Orderly) (h : Handle) : (c.remove h).Orderly where
  nodup := hc.nodup.sublist (List.filter_sublist.map _)
  given := fun m hm => hc.given m (List.mem_filter.mp hm).1

omit [Scalar α] in
lemma Orderly.spawn (hc : c.Orderly) (a : Actor α) : (c.spawn a).2.Orderly := by
  unfold Cast.spawn
  cases c.find? (identity a) with
  | some h =>
    dsimp only
    exact hc.modify h _
  | none =>
    constructor
    · rw [List.map_append, List.nodup_append]
      refine ⟨hc.nodup, by simp, fun h hh k hk heq => ?_⟩
      obtain ⟨m, hm, rfl⟩ := List.mem_map.mp hh
      obtain rfl : k = ⟨c.next⟩ := by simpa using hk
      exact absurd (hc.given m hm) (by simp [heq])
    · intro m hm
      rcases List.mem_append.mp hm with hm | hm
      · exact Nat.lt_succ_of_lt (hc.given m hm)
      · obtain rfl := List.mem_singleton.mp hm
        exact Nat.lt_succ_self c.next

omit [Scalar α] in
/-- Nobody else is live under the handle of an actor. -/
lemma Orderly.eq_of_get? (hc : c.Orderly) {m : Handle × Actor α} (hm : m ∈ c.members)
    {a : Actor α} (ha : c.get? m.1 = some a) : m.2 = a := by
  unfold get? at ha
  have hnodup := hc.nodup
  generalize c.members = l at hm ha hnodup
  induction l with
  | nil => cases hm
  | cons n rest ih =>
    rw [List.map_cons, List.nodup_cons] at hnodup
    rw [List.lookup_cons] at ha
    rcases List.mem_cons.mp hm with rfl | hm
    · simpa using ha
    · have hne : (m.1 == n.1) = false := by
        rw [beq_eq_false_iff_ne]
        rintro heq
        exact hnodup.1 (heq ▸ List.mem_map_of_mem hm)
      rw [hne] at ha
      exact ih hm ha hnodup.2

/-- An actor may take the place of another of its name and kind. -/
lemma Orderly.bare_modify (hc : c.Orderly) {h : Handle} {a b : Actor α} (ha : c.get? h = some a)
    (hb : b.bare = a.bare) : (c.modify h fun _ => b).bare = c.bare := by
  simp only [Cast.bare, Cast.modify, Cast.modifyAll, List.map_map, Cast.mk.injEq, and_true]
  refine List.map_congr_left fun m hm => ?_
  simp only [Function.comp_apply]
  split
  · rename_i heq
    rw [hb, hc.eq_of_get? hm (heq ▸ ha)]
  · rfl

end Cast

/-! ### Scenes -/

/-- What is to happen to the actor at the end of the path leaves its name and its kind. -/
def Path.Tame (p : Path α) : Prop := ∀ f ∈ p.atEnd, ∀ a, (f a).bare = a.bare

omit [Scalar α] in
lemma Rehearsal.respond_bare (c : Call α) (r : Rehearsal) :
    (respond c r).bare = (respond c r.bare).bare := by
  cases c <;> rfl

namespace Scene

/-- Nothing that the clock does to a scene changes more than the clock. -/
structure Tame (s : Scene α Rehearsal) : Prop where
  cast : s.cast.Orderly
  paths : ∀ p ∈ s.paths, p.Tame

variable {s t u : Scene α Rehearsal}

@[simp] lemma bare_bare (s : Scene α Rehearsal) : s.bare.bare = s.bare := by
  have hwait : (s.wait.map Wait.bare).map Wait.bare = s.wait.map Wait.bare := by
    rw [Option.map_map]
    exact congrArg (s.wait.map ·) (funext Wait.bare_bare)
  unfold bare
  simp only [Phase.bare_bare, Cast.bare_bare, hwait]
  rfl

/-- Only a pause wears off. -/
lemma wait_bare_iff {w : Wait α} (hw : ∀ left, w ≠ .pause left) :
    s.bare.wait = some w ↔ s.wait = some w := by
  have hmap : s.bare.wait = s.wait.map Wait.bare := rfl
  rw [hmap, Option.map_eq_some_iff]
  constructor
  · rintro ⟨v, hv, rfl⟩
    cases v with
    | pause left => exact absurd rfl (hw 0)
    | _ => exact hv
  · intro h
    refine ⟨w, h, ?_⟩
    cases w with
    | pause left => exact absurd rfl (hw left)
    | _ => rfl

lemma Tame.bare (hs : s.Tame) : s.bare.Tame where
  cast := hs.cast.modifyAll Actor.bare
  paths := fun _ hp => absurd hp (List.not_mem_nil)

namespace Alike

lemma refl (s : Scene α Rehearsal) : s.Alike s := rfl

lemma symm (h : s.Alike u) : u.Alike s := Eq.symm h

lemma trans (h : s.Alike t) (h' : t.Alike u) : s.Alike u := Eq.trans h h'

lemma of_bare (s : Scene α Rehearsal) : s.Alike s.bare := s.bare_bare.symm

/-- A cast without its clock is the same cast. -/
lemma of_cast {c : Cast α} (h : c.bare = s.cast.bare) :
    ({ s with cast := c } : Scene α Rehearsal).Alike s :=
  congrArg (fun c : Cast α => ({ s.bare with cast := c } : Scene α Rehearsal)) h

lemma call (h : s.Alike u) (c : Call α) : (s.call c).Alike (u.call c) := by
  have hcall : ∀ v : Scene α Rehearsal, (v.call c).bare = { v.bare with
      stage := (Rehearsal.respond c v.bare.stage).bare, calls := v.bare.calls ++ [c] } := by
    intro v
    have hstage := Rehearsal.respond_bare c v.stage
    simp only [Scene.call, Scene.bare, Stage.perform, hstage]
  rw [Alike, hcall, hcall, show s.bare = u.bare from h]

/-- What can be told without the clock is the same. -/
lemma same {β : Type} {f : Scene α Rehearsal → β} (hf : ∀ v, f v = f v.bare) (h : s.Alike u) :
    f s = f u := by
  rw [hf s, hf u, show s.bare = u.bare from h]

lemma cast (h : s.Alike u) : s.cast.bare = u.cast.bare := congrArg (·.cast) h

lemma isTerminal (h : s.Alike u) : s.isTerminal = u.isTerminal := by
  refine h.same (f := fun v => v.isTerminal) fun v => ?_
  unfold Event.isTerminal Scene.bare
  dsimp only
  cases v.phase <;> rfl

/-- A token means the same handle in scenes that are alike. -/
lemma resolve? (h : s.Alike u) (r : ActorRef) : s.cast.resolve? r = u.cast.resolve? r := by
  unfold Cast.resolve?
  rw [← Cast.find?_bare, h.cast, Cast.find?_bare]

lemma get? (h : s.Alike u) (handle : Handle) :
    (s.cast.get? handle).map Actor.bare = (u.cast.get? handle).map Actor.bare := by
  rw [← Cast.get?_bare, h.cast, Cast.get?_bare]

end Alike

/-- The scenes are alike and tame. -/
structure Twin (s u : Scene α Rehearsal) : Prop where
  left : s.Tame
  right : u.Tame
  alike : s.Alike u

namespace Twin

/-- A scene and what is left of it. -/
lemma of_tame (hs : s.Tame) : s.Twin s.bare := ⟨hs, hs.bare, .of_bare s⟩

/-- A change that neither reads nor moves the clock. -/
lemma map {f : Scene α Rehearsal → Scene α Rehearsal} (hf : ∀ v, (f v).bare = f v.bare)
    (hcast : ∀ v, (f v).cast = v.cast) (hpaths : ∀ v, (f v).paths = v.paths) (h : s.Twin u) :
    (f s).Twin (f u) where
  left := ⟨hcast s ▸ h.left.cast, hpaths s ▸ h.left.paths⟩
  right := ⟨hcast u ▸ h.right.cast, hpaths u ▸ h.right.paths⟩
  alike := (hf s).trans ((congrArg f h.alike).trans (hf u).symm)

lemma advance {n : Nat} (h : s.Twin u) : (s.advance n).Twin (u.advance n) :=
  h.map (f := (Scene.advance · n)) (fun _ => rfl) (fun _ => rfl) fun _ => rfl

lemma report {severity : Severity} {fault : Fault} (h : s.Twin u) :
    (s.report severity fault).Twin (u.report severity fault) :=
  h.map (f := (Scene.report · severity fault)) (fun _ => rfl) (fun _ => rfl) fun _ => rfl

lemma note {fault : Fault} (h : s.Twin u) : (s.note fault).Twin (u.note fault) := h.report

lemma passOver {fault : Fault} (h : s.Twin u) : (s.passOver fault).Twin (u.passOver fault) :=
  h.note.advance

lemma queue {edit : Edit} (h : s.Twin u) :
    (s.onEvent (·.queue edit)).Twin (u.onEvent (·.queue edit)) :=
  h.map (f := (onEvent · (·.queue edit))) (fun _ => rfl) (fun _ => rfl) fun _ => rfl

lemma await {w : Wait α} (h : s.Twin u) : (s.await w).Twin (u.await w) :=
  ⟨⟨h.left.cast, h.left.paths⟩, ⟨h.right.cast, h.right.paths⟩,
    congrArg (Scene.await · w.bare) h.alike⟩

lemma chained {chain : Bool} (h : s.Twin u) :
    (s.advanceChained chain).Twin (u.advanceChained chain) := by
  have hadvance := h.advance (n := 1)
  cases chain with
  | false => exact hadvance
  | true =>
    exact ⟨⟨h.left.cast, h.left.paths⟩, ⟨h.right.cast, h.right.paths⟩, hadvance.alike⟩

lemma call {c : Call α} (h : s.Twin u) : (s.call c).Twin (u.call c) :=
  ⟨⟨h.left.cast, h.left.paths⟩, ⟨h.right.cast, h.right.paths⟩, h.alike.call c⟩

/-- Each scene puts another actor in the place of one that has the same name and kind. -/
lemma putActor (h : s.Twin u) {handle : Handle} {a a' b b' : Actor α}
    (ha : s.cast.get? handle = some a) (hb : u.cast.get? handle = some b)
    (ha' : a'.bare = a.bare) (hb' : b'.bare = b.bare) :
    (s.putActor handle a').Twin (u.putActor handle b') where
  left := ⟨h.left.cast.modify handle fun _ => a', h.left.paths⟩
  right := ⟨h.right.cast.modify handle fun _ => b', h.right.paths⟩
  alike :=
    have hs : (s.putActor handle a').Alike s := .of_cast (h.left.cast.bare_modify ha ha')
    have hu : (u.putActor handle b').Alike u := .of_cast (h.right.cast.bare_modify hb hb')
    hs.trans (h.alike.trans hu.symm)

lemma sendTo {b c : Barrier} (h : s.Twin u) :
    Twin ({ s with barrier := b } : Scene α Rehearsal) { u with barrier := c } :=
  ⟨⟨h.left.cast, h.left.paths⟩, ⟨h.right.cast, h.right.paths⟩, h.alike⟩

lemma spawn {a b : Actor α} (h : s.Twin u) (hab : a.bare = b.bare) :
    Twin ({ s with cast := (s.cast.spawn a).2 } : Scene α Rehearsal)
      { u with cast := (u.cast.spawn b).2 } := by
  have hcast : (s.cast.spawn a).2.bare = (u.cast.spawn b).2.bare := by
    rw [Cast.bare_spawn, Cast.bare_spawn, h.alike.cast, hab]
  refine ⟨⟨h.left.cast.spawn a, h.left.paths⟩, ⟨h.right.cast.spawn b, h.right.paths⟩, ?_⟩
  exact congrArg₂ (fun (v : Scene α Rehearsal) (c : Cast α) =>
    ({ v with cast := c } : Scene α Rehearsal)) h.alike hcast

lemma remove {handle : Handle} (h : s.Twin u) :
    (s.onEvent (·.removeActor handle)).Twin (u.onEvent (·.removeActor handle)) := by
  have hcast : (s.cast.remove handle).bare = (u.cast.remove handle).bare := by
    rw [Cast.bare_remove, Cast.bare_remove, h.alike.cast]
  refine ⟨⟨h.left.cast.remove handle, fun p hp => h.left.paths p (List.mem_filter.mp hp).1⟩,
    ⟨h.right.cast.remove handle, fun p hp => h.right.paths p (List.mem_filter.mp hp).1⟩, ?_⟩
  exact congrArg₂ (fun (v : Scene α Rehearsal) (c : Cast α) =>
    ({ v with cast := c } : Scene α Rehearsal)) h.alike hcast

lemma addPath (h : s.Twin u) {p q : Path α} (hp : p.Tame) (hq : q.Tame) :
    (s.onEvent (·.addPath p)).Twin (u.onEvent (·.addPath q)) := by
  have htame : ∀ {v : Scene α Rehearsal} {r : Path α}, v.Tame → r.Tame →
      (v.onEvent (·.addPath r)).Tame := by
    intro v r hv hr
    refine ⟨hv.cast, fun p hp => ?_⟩
    rcases List.mem_append.mp hp with hp | hp
    · exact hv.paths p (List.mem_filter.mp hp).1
    · rwa [List.mem_singleton.mp hp]
  exact ⟨htame h.left hp, htame h.right hq, h.alike⟩

lemma foldl {β : Type} {f : Scene α Rehearsal → β → Scene α Rehearsal}
    (hf : ∀ {v w : Scene α Rehearsal} x, v.Twin w → (f v x).Twin (f w x)) (h : s.Twin u)
    (l : List β) : (l.foldl f s).Twin (l.foldl f u) := by
  induction l generalizing s u with
  | nil => exact h
  | cons x rest ih => exact ih (hf x h)

/-- The pick for the question that is up is the same. -/
lemma answer (h : s.Twin u) {m n : Option Nat} {r r' : Rehearsal}
    (hs : Stage.takeAnswer α s.stage = (m, r)) (hu : Stage.takeAnswer α u.stage = (n, r')) :
    m = n ∧ Twin ({ s with stage := r } : Scene α Rehearsal) { u with stage := r' } := by
  have hstage : s.stage.bare = u.stage.bare :=
    h.alike.same (f := fun v => v.stage.bare) fun _ => rfl
  have hpick : s.stage.pick = u.stage.pick := h.alike.same (f := fun v => v.stage.pick) fun _ => rfl
  have hanswer : s.stage.answer.1 = u.stage.answer.1 ∧
      s.stage.answer.2.bare = u.stage.answer.2.bare := by
    unfold Rehearsal.answer
    rw [hpick]
    cases u.stage.pick with
    | none => exact ⟨rfl, hstage⟩
    | some n => exact ⟨rfl, congrArg (fun q : Rehearsal => { q with pick := none }) hstage⟩
  rw [show s.stage.answer = (m, r) from hs, show u.stage.answer = (n, r') from hu] at hanswer
  refine ⟨hanswer.1, ⟨h.left.cast, h.left.paths⟩, ⟨h.right.cast, h.right.paths⟩, ?_⟩
  exact congrArg₂ (fun (v : Scene α Rehearsal) (r : Rehearsal) =>
    ({ v with stage := r } : Scene α Rehearsal)) h.alike hanswer.2

lemma conclude {phase : Phase} {o : Outcome} (h : s.Twin u) :
    (s.conclude phase o).Twin (u.conclude phase o) := by
  have hphase : Twin ({ s with phase := phase } : Scene α Rehearsal) { u with phase := phase } :=
    ⟨⟨h.left.cast, h.left.paths⟩, ⟨h.right.cast, h.right.paths⟩,
      congrArg (fun v : Scene α Rehearsal =>
        ({ v with phase := phase.bare } : Scene α Rehearsal)) h.alike⟩
  exact (hphase.call (c := .endEvent o)).map
    (f := fun v => ({ v with outcome := some o } : Scene α Rehearsal))
    (fun _ => rfl) (fun _ => rfl) fun _ => rfl

/-- Everybody stops, and nobody is on a path any more. -/
lemma still {f : Actor α → Actor α} (hf : ∀ a, (f a).bare = a.bare) (h : s.Twin u) :
    Twin ({ s with cast := s.cast.modifyAll f, paths := [] } : Scene α Rehearsal)
      { u with cast := u.cast.modifyAll f, paths := [] } := by
  have hstill : ∀ v : Scene α Rehearsal,
      Alike ({ v with cast := v.cast.modifyAll f, paths := [] } : Scene α Rehearsal) v :=
    fun v => .of_cast (Cast.bare_modifyAll hf v.cast)
  exact ⟨⟨h.left.cast.modifyAll f, by simp⟩, ⟨h.right.cast.modifyAll f, by simp⟩,
    (hstill s).trans (h.alike.trans (hstill u).symm)⟩

lemma finish {ending : Ending} (h : s.Twin u) : (s.finish ending).Twin (u.finish ending) := by
  have hstill := h.still (f := Actor.halt) fun _ => rfl
  have hrest := (hstill.sendTo (b := .closed) (c := .closed)).map
    (f := fun v : Scene α Rehearsal =>
      ({ v with
        wait := none
        flags := { v.flags with simultaneous := false } } : Scene α Rehearsal))
    (fun _ => rfl) (fun _ => rfl) fun _ => rfl
  unfold Scene.finish
  rw [h.alike.isTerminal]
  split
  · exact h
  · exact hrest.conclude

lemma skipAction (action : String) (h : s.Twin u) :
    (s.runSkipAction action).Twin (u.runSkipAction action) := by
  have hfailure : Stage.actionFailure? α s.stage action = Stage.actionFailure? α u.stage action :=
    h.alike.same (f := fun v => Stage.actionFailure? α v.stage action) fun _ => rfl
  unfold Scene.runSkipAction
  rw [hfailure]
  cases Stage.actionFailure? α u.stage action with
  | none => exact h.call
  | some reason =>
    exact (h.call (c := .triggerAction action)).map
      (f := fun v => v.reportAt v.pointer action .recoverable (.skipActionFailed reason))
      (fun _ => rfl) (fun _ => rfl) fun _ => rfl

lemma cleared (h : s.Twin u) : s.cleared.Twin u.cleared := by
  have hstill := h.still (f := fun a => a.halt.clearOverrides) fun _ => rfl
  exact (hstill.sendTo (b := .closed) (c := .closed)).map
    (f := fun v : Scene α Rehearsal =>
      ({ v with
        flags := { v.flags with skipped := true, simultaneous := false, continueAfterMove := false }
        skipRequested := false
        wait := none
        edits := []
        skipActions := [] } : Scene α Rehearsal))
    (fun _ => rfl) (fun _ => rfl) fun _ => rfl

lemma clearAway {given : Option Outcome} (h : s.Twin u) :
    (s.clearAway given).Twin (u.clearAway given) := by
  have hactions : s.skipActions = u.skipActions :=
    h.alike.same (f := fun v => v.skipActions) fun _ => rfl
  have hend : ∀ {v w : Scene α Rehearsal}, v.Twin w →
      (v.conclude .skipped (given.getD (.skipped v.finalEnding))).Twin
        (w.conclude .skipped (given.getD (.skipped w.finalEnding))) := by
    intro v w hvw
    rw [hvw.alike.same (f := fun v => v.finalEnding) fun _ => rfl]
    exact hvw.conclude
  have hdone := hend ((h.cleared.call (c := .closeMenus)).foldl skipAction s.skipActions)
  have hclear : ∀ v : Scene α Rehearsal, v.clearAway given =
      let t := v.skipActions.foldl runSkipAction (v.cleared.call .closeMenus)
      t.conclude .skipped (given.getD (.skipped t.finalEnding)) := fun _ => rfl
  rw [hclear s, hclear u, ← hactions]
  exact hdone

lemma abort {index : Nat} {command : String} {fault : Fault} (h : s.Twin u) :
    (s.abort index command fault).Twin (u.abort index command fault) :=
  clearAway (h.map (f := (reportAt · index command .fatal fault)) (fun _ => rfl) (fun _ => rfl)
    fun _ => rfl)

end Twin

/-! ### What a command leaves -/

/-- Of `s` is left a scene that is like `s` still, or else is like `d`. -/
structure Even (s t d : Scene α Rehearsal) : Prop where
  tame : t.Tame
  alike : t.Alike s ∨ t.Alike d

namespace Even

variable {r d : Scene α Rehearsal}

lemma twin (h : t.Twin d) : Even s t d := ⟨h.left, .inr h.alike⟩

lemma stays (hs : s.Tame) : Even s s d := ⟨hs, .inl (.refl s)⟩

lemma reading {β : Type} {read : Args.Read β} {next next' : β → Reply α Rehearsal}
    (h : s.Twin u) (hnext : ∀ v, Even r (next v).scene (next' v).scene) :
    Even r (s.reading read next).scene (u.reading read next').scene := by
  cases read with
  | ok v => exact hnext v
  | error e => exact .twin h.passOver

/-- The actor of a token is the same actor in both scenes, wherever it stands. -/
lemma withActor {token : String} {next next' : Handle → Actor α → Reply α Rehearsal}
    (h : s.Twin u)
    (hnext : ∀ handle a b, s.cast.get? handle = some a → u.cast.get? handle = some b →
      a.bare = b.bare → Even r (next handle a).scene (next' handle b).scene) :
    Even r (s.withActor token next).scene (u.withActor token next').scene := by
  unfold Scene.withActor
  dsimp only
  rw [h.alike.resolve? (ActorRef.parse token)]
  cases u.cast.resolve? (ActorRef.parse token) with
  | none =>
    dsimp only
    split
    · exact .twin h.advance
    · exact .twin h.passOver
  | some handle =>
    have hget := h.alike.get? handle
    dsimp only
    cases hs : s.cast.get? handle <;> cases hu : u.cast.get? handle <;> rw [hs, hu] at hget
    · exact .twin h
    · cases hget
    · cases hget
    · exact hnext handle _ _ hs hu (Option.some.inj hget)

/-- The actor of a token is posed, each scene in its own way. -/
lemma posed {token : String} {f g : Actor α → Actor α} (h : s.Twin u)
    (hf : ∀ a, (f a).bare = a.bare) (hg : ∀ a, (g a).bare = a.bare) :
    Even r (s.withActor token fun handle a => ((s.putActor handle (f a)).advance 1).done).scene
      (u.withActor token fun handle a => ((u.putActor handle (g a)).advance 1).done).scene :=
  .withActor h fun _ a b ha hb _ => .twin (h.putActor ha hb (hf a) (hg b)).advance

end Even

/-! ### What is left once the movers have landed -/

instance (s : Scene α Rehearsal) : Decidable s.Free := inferInstanceAs (Decidable (_ ∨ _))

/-- What is left of a scene without its clock; a move that holds the script is over. -/
def untimed (s : Scene α Rehearsal) : Scene α Rehearsal :=
  if s.Free then s.bare else (s.advance 1).bare

lemma untimed_of_free (h : s.Free) : s.untimed = s.bare := if_pos h

lemma untimed_of_not_free (h : ¬ s.Free) : s.untimed = (s.advance 1).bare := if_neg h

end Scene

/-- Whenever the command is run, it leaves the scene alone but for the clock, or it does what the
other command does to what is left of the scene without its clock. -/
def Timeless (h g : Handler α Rehearsal) : Prop :=
  ∀ a s, s.Tame → Scene.Even s (h a s).scene (g a s.bare).scene

/-- The same is true of the command once all whom it sent off have landed. -/
def Timed (h g : Handler α Rehearsal) : Prop :=
  ∀ a s, s.Tame → s.Free → (h a s).scene.Tame ∧
    ((h a s).scene.untimed = s.bare ∨ (h a s).scene.untimed = (g a s.bare).scene.bare)

/-- Nobody is sent off by a command that leaves the script free. -/
lemma Timeless.timed {h g : Handler α Rehearsal} (hg : Timeless h g)
    (hfree : ∀ a s, s.Free → (h a s).scene.Free) : Timed h g := by
  intro a s hs hf
  obtain ⟨htame, halike⟩ := hg a s hs
  rw [Scene.untimed_of_free (hfree a s hf)]
  exact ⟨htame, halike⟩

end Cutscene
