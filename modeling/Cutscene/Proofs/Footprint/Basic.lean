import Cutscene.Commands.Table
import Mathlib.Tactic.Common

/-!
# What a Command Can Do

A command steers the event by a few fields only: the pointer, the recorded wait and the queued
edits. These and the fields that no command touches make up the helm of a scene. Whatever else a
command does to the cast, the flags or the stage is quiet: it leaves the helm alone, ends nothing
and asks nothing of the stage that a player would notice twice (`Scene.Quiet`). A command does
some quiet work and then makes one of six moves with the helm (`Scene.Goes`), which together is
its footprint (`Scene.Footprint`).
-/

namespace Cutscene

/-- The stage is told that the event is over. -/
def Call.isEnd {α : Type} : Call α → Bool
  | .endEvent _ => true
  | _ => false

/-- The requests that a player would notice if they were made twice. -/
def Call.isOneTime {α : Type} : Call α → Bool
  | .pushDialogue _ _ | .askQuestion _ _ | .beginFade _ _ _ | .emote _ _ | .requestReady _
  | .showLostItems | .deathPenalty _ | .awardPrize _ | .addItem _ _ | .friendship _ _
  | .playSound _ | .effect _ => true
  | _ => false

/-- The wait is of the kind that the command of this name records, given these tokens. -/
def Wait.IsOf {α : Type} (name : String) (a : Args) : Wait α → Prop
  | .dialogue => name = "speak" ∨ name = "message"
  | .answer _ => name = "question" ∨ name = "quickQuestion"
  | .pause _ => name = "pause"
  | .fade => name = "globalFade" ∨ name = "globalFadeToClear"
  | .emote _ => name = "emote"
  | .menu => name = "showItemsLost"
  | .gate g => name = "waitForOtherPlayers" ∧ a.get? 1 = some g

/-- A wait is recorded, and it is one of this command's. -/
def Held {α : Type} (name : String) (a : Args) (w : Option (Wait α)) : Prop :=
  ∃ v, w = some v ∧ v.IsOf name a

lemma Args.get?_of_get {a : Args} {index : Nat} {field token : String}
    (h : a.get index field = .ok token) : a.get? index = some token := by
  unfold Args.get at h
  cases hg : a.get? index <;> simp_all

/-- The commands that record waits. -/
def waiting : List String :=
  ["speak", "message", "question", "quickQuestion", "pause", "globalFade", "globalFadeToClear",
   "emote", "showItemsLost", "waitForOtherPlayers"]

lemma not_held {α : Type} {name : String} (h : name ∉ waiting) (a : Args)
    (w : Option (Wait α)) : ¬ Held name a w := by
  rintro ⟨v, -, hv⟩
  cases v <;> simp_all [Wait.IsOf, waiting]

namespace Commands

/-- The script is to run on beside the move. -/
def moveContinues (a : Args) : Bool := 1 < a.size && a.wantsContinue (a.size - 1)

/-- The number of tokens of a move apart from the one that tells it to go on. -/
def moveStop (a : Args) : Nat := if moveContinues a then a.size - 1 else a.size

/-- The groups of a move, unless it is malformed. -/
def moveGroups? (a : Args) : Option (List MoveGroup) :=
  if moveStop a < 5 ∨ (moveStop a - 1) % 4 ≠ 0 then none
  else (((List.range ((moveStop a - 1) / 4)).map fun k => 1 + 4 * k).mapM
    (MoveGroup.read a)).toOption

/-- The command is a well-formed move that is not told to go on. -/
structure Stops (name : String) (a : Args) : Prop where
  named : name = "move"
  formed : (moveGroups? a).isSome
  halts : moveContinues a = false

end Commands

/-- Where the script stands: the commands, the pointer and the wait of the command under it. -/
structure Stand (α : Type) where
  working : Working
  pointer : Nat
  wait : Option (Wait α)

/-- The pointer moves on, at most to the end of the list, and the wait is dropped. -/
def Stand.advance {α : Type} (p : Stand α) (n : Nat) : Stand α :=
  { p with pointer := min (p.pointer + n) p.working.size, wait := none }

/-- What steers an event. -/
structure Helm (α : Type) extends Stand α where
  phase : Phase
  edits : List Edit
  dispatching : Option Nat
  skipRequested : Bool
  outcome : Option Outcome

def Helm.advance {α : Type} (h : Helm α) (n : Nat) : Helm α :=
  { h with toStand := h.toStand.advance n }

namespace Scene

variable {α σ : Type}

def stand (s : Scene α σ) : Stand α := ⟨s.working, s.pointer, s.wait⟩

def helm (s : Scene α σ) : Helm α :=
  ⟨s.stand, s.phase, s.edits, s.dispatching, s.skipRequested, s.outcome⟩

/-- The number of times that the stage was told that the event is over. -/
def endings (s : Scene α σ) : Nat := s.calls.countP Call.isEnd

/-- The number of one-time requests so far. -/
def oneTimes (s : Scene α σ) : Nat := s.calls.countP Call.isOneTime

/-- Nobody is on the way, or the script runs on beside those who are. -/
def Free (s : Scene α σ) : Prop := s.barrier.isClosed ∨ s.flags.continueAfterMove

lemma Free.of_eq {s t : Scene α σ} (hb : t.barrier = s.barrier)
    (hc : t.flags.continueAfterMove = s.flags.continueAfterMove) (h : s.Free) : t.Free := by
  rwa [Free, hb, hc]

/-! ### Quiet work -/

/-- The helm stays, the event goes on, and no one-time request is made. -/
structure Quiet (s t : Scene α σ) : Prop where
  helm : t.helm = s.helm
  calls : s.calls <+: t.calls
  endings : t.endings = s.endings
  oneTimes : t.oneTimes = s.oneTimes
  free : s.Free → t.Free

namespace Quiet

variable {s t u : Scene α σ}

lemma refl (s : Scene α σ) : s.Quiet s := ⟨rfl, List.prefix_rfl, rfl, rfl, id⟩

lemma stand (h : s.Quiet t) : t.stand = s.stand := congrArg Helm.toStand h.helm

lemma working (h : s.Quiet t) : t.working = s.working := congrArg Stand.working h.stand

lemma pointer (h : s.Quiet t) : t.pointer = s.pointer := congrArg Stand.pointer h.stand

lemma phase (h : s.Quiet t) : t.phase = s.phase := congrArg Helm.phase h.helm

lemma edits (h : s.Quiet t) : t.edits = s.edits := congrArg Helm.edits h.helm

lemma dispatching (h : s.Quiet t) : t.dispatching = s.dispatching :=
  congrArg Helm.dispatching h.helm

lemma skipRequested (h : s.Quiet t) : t.skipRequested = s.skipRequested :=
  congrArg Helm.skipRequested h.helm

lemma outcome (h : s.Quiet t) : t.outcome = s.outcome := congrArg Helm.outcome h.helm

lemma trans (h : s.Quiet t) (h' : t.Quiet u) : s.Quiet u where
  helm := h'.helm.trans h.helm
  calls := h.calls.trans h'.calls
  endings := h'.endings.trans h.endings
  oneTimes := h'.oneTimes.trans h.oneTimes
  free := h'.free ∘ h.free

lemma of_eq (hh : t.helm = s.helm) (hc : t.calls = s.calls) (hf : s.Free → t.Free) :
    s.Quiet t where
  helm := hh
  calls := by simp [hc]
  endings := congrArg (List.countP Call.isEnd) hc
  oneTimes := congrArg (List.countP Call.isOneTime) hc
  free := hf

lemma call [Stage α σ] (h : s.Quiet t) {c : Call α} (he : c.isEnd = false)
    (ho : c.isOneTime = false) : s.Quiet (t.call c) :=
  h.trans
    { helm := rfl
      calls := List.prefix_append _ _
      endings := by simp [Scene.endings, Scene.call, he]
      oneTimes := by simp [Scene.oneTimes, Scene.call, ho]
      free := id }

lemma note (h : s.Quiet t) (fault : Fault) : s.Quiet (t.note fault) := h.trans (of_eq rfl rfl id)

lemma putActor (h : s.Quiet t) (handle : Handle) (actor : Actor α) :
    s.Quiet (t.putActor handle actor) :=
  h.trans (of_eq rfl rfl id)

end Quiet

/-! ### Footprints -/

variable [Stage α σ]

/-- What a command of a name and tokens does with the helm. -/
inductive Goes (name : String) (a : Args) (s t : Scene α σ) : Prop
  /-- It is to run again. A one-time request leaves a wait of the command behind. -/
  | holds (w : Option (Wait α)) (helm : t.helm = { s.helm with wait := w })
      (begun : s.oneTimes < t.oneTimes → Held name a w)
      (kept : Held name a s.wait → Held name a w)
  /-- It is done. -/
  | passes (helm : t.helm = s.helm.advance 1)
  /-- It is done, and commands of its own come next. -/
  | splices (commands : List String)
      (helm : t.helm = { s.helm.advance 1 with
        edits := s.edits ++ [.insertAfter (s.advance 1).current commands] })
  /-- It becomes another command. -/
  | rewrites (command : String)
      (helm : t.helm = { s.helm with edits := s.edits ++ [.replaceAt s.current command] })
  /-- The event goes on with another script. -/
  | redirects (named : name = "fork" ∨ name = "switchEvent") (text : String) (swap : Swap)
      (helm : t.helm = { s.helm with
        edits := s.edits ++ [.replaceAll (Script.split text) swap] })
  /-- It is done, and the command after it falls away. -/
  | leaps (named : name = "awardFestivalPrize") (unnamed : a.get? 1 = none)
      (lost : Stage.festivalWinner α s.stage = false) (helm : t.helm = s.helm.advance 2)

/-- What a command leaves of a scene, apart from an `end` that ends it. -/
structure Footprint (name : String) (a : Args) (s t : Scene α σ) : Prop where
  calls : s.calls <+: t.calls
  endings : t.endings = s.endings
  once : t.oneTimes ≤ s.oneTimes + 1
  silent : Held name a s.wait → t.oneTimes = s.oneTimes
  goes : Goes name a s t
  free : s.Free → t.Free ∨ Commands.Stops name a ∧ t.helm = s.helm

/-- The command does not give up, and leaves its footprint. -/
structure Obeys (name : String) (a : Args) (s : Scene α σ) (r : Reply α σ) : Prop where
  fault : r.fault = none
  footprint : Footprint name a s r.scene

namespace Obeys

variable {name : String} {a : Args} {s t u : Scene α σ}

/-- Some calls are made, among them at most one one-time request, and none where the command holds
a wait. -/
lemma of_calls {l : List (Call α)} (hc : t.calls = s.calls ++ l) (he : l.countP Call.isEnd = 0)
    (ho : l.countP Call.isOneTime ≤ 1)
    (hs : Held name a s.wait → l.countP Call.isOneTime = 0)
    (hf : s.Free → t.Free ∨ Commands.Stops name a ∧ t.helm = s.helm) (g : Goes name a s t) :
    Obeys name a s t.done where
  fault := rfl
  footprint :=
    { calls := by rw [Scene.done, hc]; exact List.prefix_append _ _
      endings := by rw [Scene.done, Scene.endings, hc, List.countP_append, he]; rfl
      once := by
        rw [Scene.done, Scene.oneTimes, hc, List.countP_append]
        exact Nat.add_le_add_left ho _
      silent := fun h => by
        rw [Scene.done, Scene.oneTimes, hc, List.countP_append, hs h]; rfl
      goes := g
      free := hf }

lemma uncalled (hc : t.calls = s.calls) (hf : s.Free → t.Free) (g : Goes name a s t) :
    Obeys name a s t.done :=
  of_calls (hc.trans (List.append_nil _).symm) rfl (Nat.zero_le _) (fun _ => rfl)
    (.inl ∘ hf) g

/-- One call is made, and a one-time request only where the command holds no wait. -/
lemma called {c : Call α} (hc : t.calls = s.calls ++ [c]) (he : c.isEnd = false)
    (hs : c.isOneTime → ¬ Held name a s.wait) (hf : s.Free → t.Free) (g : Goes name a s t) :
    Obeys name a s t.done := by
  refine of_calls hc (by simp [he]) (List.countP_le_length (l := [c])) ?_ (.inl ∘ hf) g
  intro hheld
  simpa using fun h => hs h hheld

/-- Quiet work, and the command is to run again. -/
lemma holds (h : s.Quiet u) : Obeys name a s u.done where
  fault := rfl
  footprint :=
    { calls := h.calls
      endings := h.endings
      once := Nat.le_succ_of_le (Nat.le_of_eq h.oneTimes)
      silent := fun _ => h.oneTimes
      goes := .holds s.wait h.helm (fun hlt => absurd h.oneTimes (Nat.ne_of_gt hlt)) id
      free := fun hf => .inl (h.free hf) }

/-- Quiet work, and the command is done and may ask for the next one. -/
lemma chains (h : s.Quiet u) (chain : Bool) :
    Obeys name a s (u.advanceChained chain).done := by
  have hq : Footprint name a s u := (holds h).footprint
  refine ⟨rfl, ?_⟩
  cases chain with
  | false =>
    exact ⟨hq.calls, hq.endings, hq.once, hq.silent,
      .passes (congrArg (Helm.advance · 1) h.helm), fun hf => .inl (h.free hf)⟩
  | true =>
    exact ⟨hq.calls, hq.endings, hq.once, hq.silent,
      .passes (congrArg (Helm.advance · 1) h.helm), fun hf => .inl (h.free hf)⟩

lemma passes (h : s.Quiet u) : Obeys name a s (u.advance 1).done := chains h false

lemma passOver (h : s.Quiet u) (fault : Fault) : Obeys name a s (u.passOver fault).done :=
  passes (h.note fault)

lemma reading {β : Type} {read : Args.Read β} {next : β → Reply α σ}
    (h : ∀ v, read = .ok v → Obeys name a s (next v)) : Obeys name a s (s.reading read next) := by
  cases read with
  | error e => exact passOver (.refl s) _
  | ok v => exact h v rfl

end Obeys

end Scene

/-- An actor that a reference means is live. -/
lemma Cast.get?_isSome_of_resolve? {α : Type} {c : Cast α} {r : ActorRef} {h : Handle}
    (hr : c.resolve? r = some h) : (c.get? h).isSome := by
  have hof : ∀ test : Actor α → Bool, c.handleOf? test = some h → (c.get? h).isSome := by
    intro test ht
    obtain ⟨m, hm, rfl⟩ := Option.map_eq_some_iff.mp ht
    rw [Cast.get?, List.lookup_isSome_iff]
    exact ⟨m, List.mem_of_find?_eq_some hm, by simp⟩
  cases hid : r.id with
  | localPlayer => exact hof _ (by simpa [resolve?, find?, hid, findPlayer?] using hr)
  | player n => exact hof _ (by simpa [resolve?, find?, hid, findPlayer?] using hr)
  | named name =>
    simp only [resolve?, find?, hid, findNamed?, Option.or_eq_some_iff] at hr
    rcases hr with hr | ⟨-, hr⟩
    · exact hof _ hr
    · exact hof _ hr

namespace Scene

variable {α σ : Type} [Stage α σ] {name : String} {a : Args} {s u : Scene α σ}

/-- Since a resolved actor is live, a command never finds that its actor has vanished. -/
lemma Obeys.withActor (q : s.Quiet u) {token : String} {next : Handle → Actor α → Reply α σ}
    (h : ∀ handle actor, u.cast.get? handle = some actor → Obeys name a s (next handle actor)) :
    Obeys name a s (u.withActor token next) := by
  unfold Scene.withActor
  dsimp only
  split
  · split
    · exact .passes q
    · exact .passOver q _
  · rename_i handle hr
    obtain ⟨actor, ha⟩ := Option.isSome_iff_exists.mp (Cast.get?_isSome_of_resolve? hr)
    rw [ha]
    exact h handle actor ha

omit [Stage α σ] in
lemma Quiet.foldl {β : Type} {f : Scene α σ → β → Scene α σ}
    (hf : ∀ (v : Scene α σ) x, v.Quiet (f v x)) (h : s.Quiet u) (l : List β) :
    s.Quiet (l.foldl f u) := by
  induction l generalizing u with
  | nil => exact h
  | cons x l ih => exact ih (h.trans (hf u x))

end Scene

end Cutscene
