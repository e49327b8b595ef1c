import Cutscene.Proofs.Footprint.Basic
import Mathlib.Logic.Relation

/-!
# Those on the Stage and What Moves Them

The live actors, the targets of those on the way and the paths make up the troupe of a scene. A
command changes it by acts (`Troupe.Act`), one for each thing that a script can do with an actor, so
that what is to be said of the whole table of commands is said act by act. All that a command does
to the troupe and queues for the list are its deeds (`Scene.Deeds`).
-/

namespace Cutscene

variable {α : Type}

/-! ### Handles -/

namespace Cast

/-- The handles of the live actors. -/
def handles (c : Cast α) : List Handle := c.members.map Prod.fst

lemma get?_isSome_iff {c : Cast α} {h : Handle} : (c.get? h).isSome ↔ h ∈ c.handles := by
  rw [get?, List.lookup_isSome_iff, handles, List.mem_map]
  constructor
  · rintro ⟨m, hm, heq⟩
    exact ⟨m, hm, (beq_iff_eq.mp heq).symm⟩
  · rintro ⟨m, hm, rfl⟩
    exact ⟨m, hm, BEq.rfl⟩

lemma mem_handles_of_get? {c : Cast α} {h : Handle} {a : Actor α} (ha : c.get? h = some a) :
    h ∈ c.handles :=
  get?_isSome_iff.mp (by simp [ha])

lemma mem_members_of_get? {c : Cast α} {h : Handle} {a : Actor α} (ha : c.get? h = some a) :
    (h, a) ∈ c.members := by
  obtain ⟨before, after, hsplit, -⟩ := List.lookup_eq_some_iff.mp ha
  rw [hsplit]
  exact List.mem_append_right before List.mem_cons_self

lemma mem_modify {c : Cast α} {h : Handle} {f : Actor α → Actor α} {m : Handle × Actor α}
    (hm : m ∈ (c.modify h f).members) :
    (∃ a, (h, a) ∈ c.members ∧ m = (h, f a)) ∨ m ∈ c.members ∧ m.1 ≠ h := by
  obtain ⟨n, hn, rfl⟩ := List.mem_map.mp hm
  by_cases heq : n.1 = h
  · subst heq
    exact .inl ⟨n.2, hn, if_pos rfl⟩
  · rw [if_neg heq]
    exact .inr ⟨hn, heq⟩

@[simp] lemma handles_modify (c : Cast α) (h : Handle) (f : Actor α → Actor α) :
    (c.modify h f).handles = c.handles := by
  have hfst : ∀ m : Handle × Actor α, (if m.1 = h then (m.1, f m.2) else m).1 = m.1 := by
    intro m
    split <;> rfl
  simp [handles, modify, hfst]

@[simp] lemma handles_modifyAll (c : Cast α) (f : Actor α → Actor α) :
    (c.modifyAll f).handles = c.handles := by
  simp [handles, modifyAll]

@[simp] lemma handles_haltAll (c : Cast α) : c.haltAll.handles = c.handles :=
  handles_modifyAll c _

lemma mem_handles_remove {c : Cast α} {h k : Handle} :
    k ∈ (c.remove h).handles ↔ k ∈ c.handles ∧ k ≠ h := by
  have hfilter : (c.remove h).handles = c.handles.filter fun k => k ≠ h := by
    rw [handles, handles, List.filter_map]
    rfl
  simp [hfilter]

/-- Nobody goes off when somebody comes on, and whoever is live then was so before or has come. -/
lemma handles_subset_spawn (c : Cast α) (a : Actor α) : c.handles ⊆ (c.spawn a).2.handles := by
  unfold spawn
  split
  · simp
  · intro h hh
    simp only [handles, List.map_append]
    exact List.mem_append_left _ hh

lemma mem_spawn {c : Cast α} {a : Actor α} {m : Handle × Actor α}
    (hm : m ∈ (c.spawn a).2.members) : m.2 = a ∨ m ∈ c.members := by
  unfold spawn at hm
  split at hm
  · rcases mem_modify hm with ⟨_, -, rfl⟩ | ⟨hm, -⟩
    · exact .inl rfl
    · exact .inr hm
  · rcases List.mem_append.mp hm with hm | hm
    · exact .inr hm
    · exact .inl (by rw [List.mem_singleton.mp hm])

end Cast

namespace Barrier

/-- Those who are on the way. -/
def movers (b : Barrier) : List Handle := b.pending.map Prod.fst

@[simp] lemma movers_closed : closed.movers = [] := rfl

lemma mem_insertInto {h : Handle} {t : Target} {l : List (Handle × Target)} {m : Handle × Target} :
    m ∈ insertInto h t l → m = (h, t) ∨ m ∈ l := by
  induction l with
  | nil => simp [insertInto]
  | cons n rest ih =>
    unfold insertInto
    split_ifs with hlt heq
    · simp
    · simp only [List.mem_cons]
      exact Or.imp_right .inr
    · simp only [List.mem_cons]
      rintro (rfl | hm)
      · exact .inr (.inl rfl)
      · exact (ih hm).imp_right .inr

lemma mem_movers_insert {b : Barrier} {h k : Handle} {t : Target} :
    k ∈ (b.insert h t).movers ↔ k = h ∨ k ∈ b.movers := by
  unfold movers insert
  dsimp only
  induction b.pending with
  | nil => simp [insertInto]
  | cons m rest ih =>
    unfold insertInto
    split_ifs with hlt heq
    · simp
    · simp [heq]
    · rw [List.map_cons, List.mem_cons, ih, List.map_cons, List.mem_cons]
      exact or_left_comm

lemma mem_movers_remove {b : Barrier} {h k : Handle} :
    k ∈ (b.remove h).movers ↔ k ∈ b.movers ∧ k ≠ h := by
  have hfilter : (b.remove h).movers = b.movers.filter fun k => k ≠ h := by
    rw [movers, movers, List.filter_map]
    rfl
  simp [hfilter]

end Barrier

/-! ### Acts -/

/-- An actor that the script lets go again. -/
def Actor.freed (a : Actor α) : Actor α := { a with scripted := false }

/-- An actor that has walked: who it is, how fast it walks and whether a script moves it are the
same. -/
structure Actor.Walks (a b : Actor α) : Prop where
  name : b.name = a.name
  kind : b.kind = a.kind
  speedOverride : b.speedOverride = a.speedOverride
  scripted : b.scripted = a.scripted

/-- An actor in another pose, where it stood. -/
structure Actor.Poses (a b : Actor α) : Prop extends a.Walks b where
  position : b.position = a.position

/-- The live actors, their targets and their paths. -/
structure Troupe (α : Type) where
  cast : Cast α
  barrier : Barrier
  paths : List (Path α)

namespace Troupe

/-- Puts an actor in the place of the one under a handle. -/
def put (T : Troupe α) (h : Handle) (a : Actor α) : Troupe α :=
  { T with cast := T.cast.modify h fun _ => a }

/-- Puts a path under way, in place of any other of its actor. -/
def follow (T : Troupe α) (p : Path α) : Troupe α :=
  { T with paths := T.paths.filter (fun q => q.actor ≠ p.actor) ++ [p] }

/-- Those who follow a path. -/
def walkers (T : Troupe α) : List Handle := T.paths.map Path.actor

/-- All paths end where their actors stand. -/
def released (T : Troupe α) : Troupe α where
  cast := T.walkers.foldl (fun c h => c.modify h fun a => a.halt.freed) T.cast
  barrier := T.barrier
  paths := []

/-- Somebody goes off with all that was to happen to him. -/
def without (T : Troupe α) (h : Handle) : Troupe α :=
  ⟨T.cast.remove h, T.barrier.remove h, T.paths.filter fun p => p.actor ≠ h⟩

variable [Scalar α]

/-- What a command of this name does with one actor, or with all of them at once. -/
inductive Act (g : Settings α) (name : String) (T : Troupe α) : Troupe α → Prop
  /-- Somebody turns, or shows a frame or an emote. -/
  | poses {h : Handle} {a b : Actor α} (live : T.cast.get? h = some a) (pose : a.Poses b) :
      Act g name T (T.put h b)
  | shifts (named : name = "positionOffset") {h : Handle} {a : Actor α}
      (live : T.cast.get? h = some a) (offset : Vec α) :
      Act g name T (T.put h { a with position := a.position + offset })
  | paces (named : name = "speed") {h : Handle} {a : Actor α} (live : T.cast.get? h = some a)
      {v : α} (positive : ¬ v ≤ 0) : Act g name T (T.put h { a with speedOverride := some v })
  | sends (named : name = "move") {h : Handle} {a : Actor α} (live : T.cast.get? h = some a)
      (offset : Tile) (facing : Direction) :
      Act g name T { T.put h { a with scripted := true } with
        barrier := T.barrier.insert h ⟨a.tile g.tileSize + offset, facing⟩ }
  | follows (named : name = "advancedMove") {h : Handle} {a : Actor α}
      (live : T.cast.get? h = some a) (steps : List (PathStep α)) (looping : Bool) :
      Act g name T ((T.put h { a with scripted := true }).follow
        { Path.start h steps looping with atEnd := some Actor.freed })
  | circles (named : name = "walkInSquare") {h : Handle} {a : Actor α}
      (live : T.cast.get? h = some a) (width height : Int) (pause : α) :
      Act g name T ((T.put h { a with scripted := true }).follow (.square h width height pause))
  | warps (named : name = "warp") {h : Handle} {a : Actor α} (live : T.cast.get? h = some a)
      (tile : Tile) :
      Act g name T { T.put h (a.setTile tile g.tileSize).halt with barrier := T.barrier.remove h }
  | halts (named : name = "halt") :
      Act g name T { T with cast := T.cast.haltAll, barrier := .closed }
  | releases (named : name = "stopAdvancedMoves") : Act g name T T.released
  | comes (named : name = "addActor") (actor : String) (kind : ActorKind) (tile : Tile)
      (facing : Direction) :
      Act g name T
        { T with cast := (T.cast.spawn (.place actor kind tile facing g.tileSize)).2 }
  | leaves (named : name = "removeActor") (h : Handle) : Act g name T (T.without h)

end Troupe

/-! ### Deeds -/

namespace Scene

variable {σ : Type}

/-- Those on the stage and what moves them. -/
def troupe (s : Scene α σ) : Troupe α := ⟨s.cast, s.barrier, s.paths⟩

/-- The edits that a command of this name queues, and where their texts come from. -/
inductive Queues (name : String) (s : Scene α σ) : Edit → Prop
  | branch (named : name = "quickQuestion") (index : Nat) {branch : String}
      (picked : branch ∈ (Commands.splitQuickQuestion (s.currentCommand?.getD "")).2) :
      Queues name s (.insertAfter index (Commands.partsBetween '\\' branch))
  | lost (named : name = "loseItems") (index : Nat) :
      Queues name s (.insertAfter index ["showItemsLost"])
  | line (named : name = "speakFromState") (index : Nat) (actor text : String) :
      Queues name s (.replaceAt index (Commands.speakCommand actor text))
  | script (named : name = "fork" ∨ name = "switchEvent") (commands : List String) (swap : Swap) :
      Queues name s (.replaceAll commands swap)

variable [Scalar α]

/-- What a command of this name does with the troupe, and what it queues. -/
structure Deeds (name : String) (s t : Scene α σ) : Prop where
  troupe : Relation.ReflTransGen (Troupe.Act s.settings name) s.troupe t.troupe
  edits : ∀ e ∈ t.edits, e ∈ s.edits ∨ Queues name s e

namespace Deeds

variable {name : String} {s t u : Scene α σ}

lemma refl (s : Scene α σ) : Deeds name s s := ⟨.refl, fun _ => .inl⟩

/-- Nothing more is done. -/
lemma rests (h : Deeds name s t) (htroupe : u.troupe = t.troupe) (hedits : u.edits = t.edits) :
    Deeds name s u :=
  ⟨htroupe ▸ h.troupe, hedits ▸ h.edits⟩

lemma of_eq (htroupe : t.troupe = s.troupe) (hedits : t.edits = s.edits) : Deeds name s t :=
  (refl s).rests htroupe hedits

/-- One act more. -/
lemma acts (h : Deeds name s t) (act : Troupe.Act s.settings name t.troupe u.troupe)
    (hedits : u.edits = t.edits) : Deeds name s u :=
  ⟨h.troupe.tail act, hedits ▸ h.edits⟩

lemma of_act (act : Troupe.Act s.settings name s.troupe t.troupe) (hedits : t.edits = s.edits) :
    Deeds name s t :=
  (refl s).acts act hedits

/-- An edit is queued. -/
lemma queues {e : Edit} (q : Queues name s e) (htroupe : t.troupe = s.troupe)
    (hedits : t.edits = s.edits ++ [e]) : Deeds name s t where
  troupe := (of_eq (t := { t with edits := s.edits }) htroupe rfl).troupe
  edits := by
    intro d hd
    rw [hedits, List.mem_append, List.mem_singleton] at hd
    rcases hd with hd | rfl
    · exact .inl hd
    · exact .inr q

lemma passOver (h : Deeds name s u) (fault : Fault) : Deeds name s (u.passOver fault) :=
  h.rests rfl rfl

lemma chains (h : Deeds name s u) (chain : Bool) : Deeds name s (u.advanceChained chain) := by
  cases chain with
  | false => exact h.rests rfl rfl
  | true => exact h.rests rfl rfl

lemma reading {β : Type} {read : Args.Read β} {next : β → Reply α σ}
    (h : ∀ v, read = .ok v → Deeds name s (next v).scene) :
    Deeds name s (s.reading read next).scene := by
  cases read with
  | error e => exact passOver (refl s) _
  | ok v => exact h v rfl

lemma withActor (q : Deeds name s u) {token : String} {next : Handle → Actor α → Reply α σ}
    (h : ∀ handle actor, u.cast.get? handle = some actor → Deeds name s (next handle actor).scene) :
    Deeds name s (u.withActor token next).scene := by
  unfold Scene.withActor
  dsimp only
  split
  · split
    · exact q.rests rfl rfl
    · exact q.passOver _
  · rename_i handle hr
    obtain ⟨actor, ha⟩ := Option.isSome_iff_exists.mp (Cast.get?_isSome_of_resolve? hr)
    rw [ha]
    exact h handle actor ha

/-- Most commands that act do so with the one actor that they name. -/
lemma withOne {token : String} {next : Handle → Actor α → Reply α σ}
    (h : ∀ handle actor, s.cast.get? handle = some actor →
      Troupe.Act s.settings name s.troupe (next handle actor).scene.troupe ∧
        (next handle actor).scene.edits = s.edits) :
    Deeds name s (s.withActor token next).scene :=
  (refl s).withActor fun handle actor ha => of_act (h handle actor ha).1 (h handle actor ha).2

end Deeds

end Scene

end Cutscene
