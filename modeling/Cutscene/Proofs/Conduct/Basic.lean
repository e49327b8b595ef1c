import Cutscene.Proofs.Reading.Basic
import Cutscene.Proofs.Tempo.Basic

/-!
# The Conduct of a Command

A recorded wait belongs to one command: to one of its name, and where the wait names a gate, an
answer or an actor, to one with such tokens (`Wait.BelongsTo`). A command in whose name the wait is
recorded leaves either no wait behind or one of its own, and then it stays where it is. Everything
else that later commands rely on it leaves in order: handles are given out once, paths do no harm
at their end, and the overlay of a gate and the fork variable are the business of one command each.
-/

namespace Cutscene

variable {α σ : Type}

/-- The wait is one that the command of this name records, given these tokens and this cast. -/
def Wait.BelongsTo (name : String) (a : Args) (c : Cast α) : Wait α → Prop
  | .dialogue => name = "speak" ∨ name = "message"
  | .answer fork => (name = "question" ∧ ∃ tag, a.get? 1 = some tag ∧
      Commands.forkTag? tag = some fork) ∨ (name = "quickQuestion" ∧ fork = none)
  | .pause _ => name = "pause"
  | .fade => name = "globalFade" ∨ name = "globalFadeToClear"
  | .emote h => name = "emote" ∧ ∃ token, a.get? 1 = some token ∧
      c.resolve? (ActorRef.parse token) = some h
  | .menu => name = "showItemsLost"
  | .gate g => name = "waitForOtherPlayers" ∧ a.get? 1 = some g

/-- The gate that is waited at. -/
def Wait.gate? : Wait α → Option String
  | .gate g => some g
  | _ => none

/-- What the request makes of the overlay that says for whom the player waits. -/
def Call.overlay? : Call α → Option (Option String)
  | .waitingForPlayers gate => some gate
  | _ => none

lemma Wait.BelongsTo.isOf {name : String} {a : Args} {c : Cast α} {w : Wait α}
    (h : w.BelongsTo name a c) : w.IsOf name a := by
  cases w with
  | answer fork => exact h.imp And.left And.left
  | emote handle => exact h.1
  | _ => exact h

namespace Scene

/-- The gate that the overlay shows: that of the last request for it. -/
def overlay (s : Scene α σ) : Option String := (s.calls.filterMap Call.overlay?).getLast?.join

/-- A recorded wait is one of the command of this name and these tokens. -/
def Owned (name : String) (a : Args) (s : Scene α σ) : Prop :=
  ∀ w, s.wait = some w → w.BelongsTo name a s.cast

lemma overlay_eq {s t : Scene α σ} (h : t.calls = s.calls) : t.overlay = s.overlay := by
  unfold overlay
  rw [h]

lemma overlay_append {s t : Scene α σ} {l : List (Call α)} (hc : t.calls = s.calls ++ l)
    (hl : l.filterMap Call.overlay? = []) : t.overlay = s.overlay := by
  unfold overlay
  rw [hc, List.filterMap_append, hl, List.append_nil]

lemma overlay_call [Stage α σ] (s : Scene α σ) {c : Call α} (hc : c.overlay? = none) :
    (s.call c).overlay = s.overlay :=
  overlay_append rfl (by simp [hc])

lemma overlay_waitingForPlayers [Stage α σ] (s : Scene α σ) (gate : Option String) :
    (s.call (.waitingForPlayers gate)).overlay = gate := by
  simp [overlay, Scene.call, Call.overlay?]

lemma Owned.held {name : String} {a : Args} {s : Scene α σ} (h : s.Owned name a) {w : Wait α}
    (hw : s.wait = some w) : Held name a s.wait :=
  ⟨w, hw, (h w hw).isOf⟩

/-- Most commands never wait. -/
lemma Owned.wait_eq_none {name : String} {a : Args} {s : Scene α σ} (h : s.Owned name a)
    (hn : name ∉ waiting) : s.wait = none := by
  cases hw : s.wait with
  | none => rfl
  | some w => exact absurd (h.held hw) (not_held hn a _)

end Scene

/-- A token means the same actor after a change that leaves names and kinds alone. -/
lemma Cast.resolve?_of_bare [Scalar α] {c d : Cast α} (h : d.bare = c.bare) (r : ActorRef) :
    d.resolve? r = c.resolve? r := by
  unfold resolve?
  rw [← find?_bare, h, find?_bare]

lemma Wait.BelongsTo.of_bare [Scalar α] {name : String} {a : Args} {c d : Cast α} {w : Wait α}
    (hw : w.BelongsTo name a c) (h : d.bare = c.bare) : w.BelongsTo name a d := by
  cases w with
  | emote handle =>
    obtain ⟨hname, token, hget, hresolve⟩ := hw
    exact ⟨hname, token, hget, (Cast.resolve?_of_bare h _).trans hresolve⟩
  | _ => exact hw

namespace Scene

variable [Scalar α]

/-! ### Tidy work -/

/-- Every handle is given out once, and no path ends in another name or kind for its actor. -/
structure Kempt (s : Scene α σ) : Prop where
  cast : s.cast.Orderly
  paths : ∀ p ∈ s.paths, p.Tame

/-- The cast and the paths are left in order, and the settings, the overlay and the fork variable
alone. -/
structure Tidy (s t : Scene α σ) : Prop where
  kempt : s.Kempt → t.Kempt
  settings : t.settings = s.settings
  overlay : t.overlay = s.overlay
  forkVariable : t.forkVariable = s.forkVariable

variable {s t u : Scene α σ}

lemma Kempt.of_eq (h : s.Kempt) (hcast : t.cast = s.cast) (hpaths : t.paths = s.paths) :
    t.Kempt :=
  ⟨hcast ▸ h.cast, hpaths ▸ h.paths⟩

namespace Tidy

lemma refl (s : Scene α σ) : s.Tidy s := ⟨id, rfl, rfl, rfl⟩

lemma trans (h : s.Tidy t) (h' : t.Tidy u) : s.Tidy u where
  kempt := h'.kempt ∘ h.kempt
  settings := h'.settings.trans h.settings
  overlay := h'.overlay.trans h.overlay
  forkVariable := h'.forkVariable.trans h.forkVariable

lemma of_eq (hcast : t.cast = s.cast) (hpaths : t.paths = s.paths)
    (hsettings : t.settings = s.settings) (hcalls : t.calls = s.calls)
    (hfork : t.forkVariable = s.forkVariable) : s.Tidy t where
  kempt := fun h => h.of_eq hcast hpaths
  settings := hsettings
  overlay := overlay_eq hcalls
  forkVariable := hfork

lemma call [Stage α σ] (h : s.Tidy t) {c : Call α} (hc : c.overlay? = none) : s.Tidy (t.call c) :=
  h.trans ⟨fun hs => ⟨hs.cast, hs.paths⟩, rfl, overlay_call t hc, rfl⟩

lemma note (h : s.Tidy t) (fault : Fault) : s.Tidy (t.note fault) :=
  h.trans (.of_eq rfl rfl rfl rfl rfl)

lemma advance (h : s.Tidy t) (n : Nat) : s.Tidy (t.advance n) :=
  h.trans (.of_eq rfl rfl rfl rfl rfl)

/-- The cast is another one that is in order, too. -/
lemma recast (h : s.Tidy t) {c : Cast α} (hc : t.cast.Orderly → c.Orderly) :
    s.Tidy { t with cast := c } :=
  h.trans ⟨fun hs => ⟨hc hs.cast, hs.paths⟩, rfl, rfl, rfl⟩

lemma putActor (h : s.Tidy t) (handle : Handle) (actor : Actor α) :
    s.Tidy (t.putActor handle actor) :=
  h.recast fun hc => hc.modify handle fun _ => actor

lemma addPath (h : s.Tidy t) {p : Path α} (hp : p.Tame) :
    s.Tidy (t.onEvent (·.addPath p)) := by
  refine h.trans ⟨fun hs => ⟨hs.cast, fun q hq => ?_⟩, rfl, rfl, rfl⟩
  rcases List.mem_append.mp hq with hq | hq
  · exact hs.paths q (List.mem_filter.mp hq).1
  · rwa [List.mem_singleton.mp hq]

/-- Nobody is on a path any more. -/
lemma dropPaths (h : s.Tidy t) : s.Tidy { t with paths := [] } :=
  h.trans ⟨fun hs => ⟨hs.cast, fun _ hp => absurd hp List.not_mem_nil⟩, rfl, rfl, rfl⟩

lemma removeActor (h : s.Tidy t) (handle : Handle) : s.Tidy (t.onEvent (·.removeActor handle)) :=
  h.trans ⟨fun hs => ⟨hs.cast.remove handle,
    fun p hp => hs.paths p (List.mem_filter.mp hp).1⟩, rfl, rfl, rfl⟩

lemma foldl {β : Type} {f : Scene α σ → β → Scene α σ}
    (hf : ∀ (v : Scene α σ) x, v.Tidy (f v x)) (h : s.Tidy u) (l : List β) :
    s.Tidy (l.foldl f u) := by
  induction l generalizing u with
  | nil => exact h
  | cons x l ih => exact ih (h.trans (hf u x))

/-- Everybody stops, and nobody is on a path any more. -/
lemma still (h : s.Tidy t) (f : Actor α → Actor α) :
    s.Tidy { t with cast := t.cast.modifyAll f, paths := [] } :=
  (h.recast fun hc => hc.modifyAll f).dropPaths

variable [Stage α σ]

lemma conclude (h : s.Tidy t) (phase : Phase) (o : Outcome) : s.Tidy (t.conclude phase o) := by
  have hphase : s.Tidy { t with phase := phase } := h.trans (.of_eq rfl rfl rfl rfl rfl)
  exact (hphase.call (c := .endEvent o) rfl).trans (.of_eq rfl rfl rfl rfl rfl)

lemma finish (h : s.Tidy t) (ending : Ending) : s.Tidy (t.finish ending) := by
  unfold Scene.finish
  split
  · exact h
  · refine conclude ?_ _ _
    exact (h.still Actor.halt).trans (.of_eq rfl rfl rfl rfl rfl)

lemma skipAction (s : Scene α σ) (action : String) : s.Tidy (s.runSkipAction action) := by
  have htold : s.Tidy (s.call (.triggerAction action)) := (Tidy.refl s).call rfl
  unfold runSkipAction
  dsimp only
  split
  · exact htold
  · exact htold.trans (.of_eq rfl rfl rfl rfl rfl)

lemma clearAway (h : s.Tidy t) (given : Option Outcome) : s.Tidy (t.clearAway given) := by
  have hcleared : s.Tidy t.cleared :=
    (h.still fun a => a.halt.clearOverrides).trans (.of_eq rfl rfl rfl rfl rfl)
  have hmenus : s.Tidy (t.cleared.call .closeMenus) := hcleared.call rfl
  exact conclude (.foldl skipAction hmenus t.skipActions) _ _

lemma skip (h : s.Tidy t) : s.Tidy t.skip := by
  unfold Scene.skip
  split_ifs
  · exact h
  · exact h.trans (.of_eq rfl rfl rfl rfl rfl)
  · exact h.clearAway none

end Tidy

/-! ### Conduct -/

/-- What a command of this name and these tokens leaves of a scene. -/
structure Conduct (name : String) (a : Args) (s t : Scene α σ) : Prop where
  kempt : s.Kempt → t.Kempt
  settings : t.settings = s.settings
  overlay : name ≠ "waitForOtherPlayers" → t.overlay = s.overlay
  forkVariable : name ≠ "question" → t.forkVariable = s.forkVariable
  wait : s.Kempt → s.Owned name a → t.wait = none ∨
    t.stand = { s.stand with wait := t.wait } ∧ t.edits = s.edits ∧ t.Owned name a

namespace Conduct

variable {name : String} {a : Args}

lemma of_tidy (h : s.Tidy t) (hw : s.Kempt → s.Owned name a → t.wait = none ∨
    t.stand = { s.stand with wait := t.wait } ∧ t.edits = s.edits ∧ t.Owned name a) :
    Conduct name a s t :=
  ⟨h.kempt, h.settings, fun _ => h.overlay, fun _ => h.forkVariable, hw⟩

/-- The command is done. -/
lemma drops (h : s.Tidy t) (hw : t.wait = none) : Conduct name a s t :=
  of_tidy h fun _ _ => .inl hw

lemma passes (h : s.Tidy u) : Conduct name a s (u.advance 1) := .drops (h.advance 1) rfl

lemma passOver (h : s.Tidy u) (fault : Fault) : Conduct name a s (u.passOver fault) :=
  .passes (h.note fault)

lemma chains (h : s.Tidy u) (chain : Bool) : Conduct name a s (u.advanceChained chain) := by
  cases chain with
  | false => exact .passes h
  | true => exact .drops (h.trans (.of_eq rfl rfl rfl rfl rfl)) rfl

/-- The command does not wait, and it is not the one that does away with a wait. -/
lemma leaves (hn : name ∉ waiting) (h : s.Tidy t) (hw : t.wait = s.wait) :
    Conduct name a s t :=
  of_tidy h fun _ howned => .inl (hw.trans (howned.wait_eq_none hn))

/-- The scene after a command is changed by something else, which leaves the wait or drops it. -/
lemma followed (h : Conduct name a s t) (h' : t.Tidy u) (hw : u.wait = none ∨
    u.stand = t.stand ∧ u.edits = t.edits ∧ u.cast = t.cast) : Conduct name a s u where
  kempt := h'.kempt ∘ h.kempt
  settings := h'.settings.trans h.settings
  overlay := fun hn => h'.overlay.trans (h.overlay hn)
  forkVariable := fun hn => h'.forkVariable.trans (h.forkVariable hn)
  wait := by
    intro hs howned
    rcases hw with hnone | ⟨hstand, hedits, hcast⟩
    · exact .inl hnone
    · have hwait : u.wait = t.wait := congrArg Stand.wait hstand
      rcases h.wait hs howned with hnone | ⟨hstay, hkept, hown⟩
      · exact .inl (hwait.trans hnone)
      · refine .inr ⟨?_, hedits.trans hkept, fun w hw => ?_⟩
        · rw [hstand, hwait, hstay]
        · rw [hcast]
          exact hown w (hwait ▸ hw)

/-- The command is to run again, and the wait is as it was. -/
lemma stays (s : Scene α σ) : Conduct name a s s :=
  of_tidy (.refl s) fun _ howned => .inr ⟨rfl, rfl, howned⟩

lemma holds (h : s.Tidy t) (hstand : t.stand = s.stand) (hedits : t.edits = s.edits)
    (hcast : t.cast = s.cast) : Conduct name a s t :=
  (stays s).followed h (.inr ⟨hstand, hedits, hcast⟩)

/-- The command is to run again and records what it waits for. -/
lemma awaits {w : Wait α} (h : s.Tidy u) (hstand : u.stand = s.stand) (hedits : u.edits = s.edits)
    (hw : s.Kempt → w.BelongsTo name a u.cast) : Conduct name a s (u.await w) := by
  refine of_tidy (h.trans (.of_eq rfl rfl rfl rfl rfl))
    fun hs _ => .inr ⟨?_, hedits, fun v hv => ?_⟩
  · exact congrArg (fun p : Stand α => { p with wait := some w }) hstand
  · rw [← Option.some.inj (show some w = some v from hv)]
    exact hw hs

lemma reading {β : Type} {read : Args.Read β} {next : β → Reply α σ}
    (h : ∀ v, read = .ok v → Conduct name a s (next v).scene) :
    Conduct name a s (s.reading read next).scene := by
  cases read with
  | error e => exact passOver (.refl s) _
  | ok v => exact h v rfl

lemma withActor (q : s.Tidy u) {token : String} {next : Handle → Actor α → Reply α σ}
    (h : ∀ handle actor, u.cast.resolve? (ActorRef.parse token) = some handle →
      u.cast.get? handle = some actor → Conduct name a s (next handle actor).scene) :
    Conduct name a s (u.withActor token next).scene := by
  unfold Scene.withActor
  dsimp only
  split
  · split
    · exact .passes q
    · exact .passOver q _
  · rename_i handle hr
    obtain ⟨actor, ha⟩ := Option.isSome_iff_exists.mp (Cast.get?_isSome_of_resolve? hr)
    rw [ha]
    exact h handle actor hr ha

end Conduct

end Scene

end Cutscene
