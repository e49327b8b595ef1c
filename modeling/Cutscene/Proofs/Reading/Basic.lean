import Cutscene.Proofs.Footprint.Table

/-!
# What a Command Reads

A command reads its tokens before it does anything, and a command for one actor looks that actor
up next. Both are said here apart from the command: a reader tells of a scene which tokens the
command reads, and whom it then looks up (`Scene.Cue`). A command follows its reader
(`Scene.Follows`) if a read that fails, or an actor who is not there, costs one report and one
step of the pointer and nothing else, and if no such report comes from anything else.
-/

namespace Cutscene

/-- The faults of a reference that nobody answers to. -/
def ActorRef.faults (ref : ActorRef) : List Fault :=
  if ref.optional then [] else [.unknownActor ref]

/-- A token that a command looks an actor up by, and what it has noted by then. -/
structure Cue where
  token : String
  noted : List Fault := []
  deriving DecidableEq

/-- Whom a cue means. -/
def Cue.ref (cue : Cue) : ActorRef := ActorRef.parse cue.token

lemma bind_eq_ok {ε β γ : Type} {read : Except ε β} {next : β → Except ε γ} {c : γ} :
    (read >>= next) = .ok c ↔ ∃ b, read = .ok b ∧ next b = .ok c := by
  cases read <;> simp [bind, Except.bind]

/-- What a command reads in a scene. It may look an actor up then. -/
abbrev Reader (α σ : Type) := Args → Scene α σ → Args.Read (Option Cue)

instance Wait.IsOf.decidable {α : Type} (name : String) (a : Args) :
    ∀ w : Wait α, Decidable (w.IsOf name a)
  | .dialogue => inferInstanceAs (Decidable (_ ∨ _))
  | .answer _ => inferInstanceAs (Decidable (_ ∨ _))
  | .pause _ => inferInstanceAs (Decidable (_ = _))
  | .fade => inferInstanceAs (Decidable (_ ∨ _))
  | .emote _ => inferInstanceAs (Decidable (_ = _))
  | .menu => inferInstanceAs (Decidable (_ = _))
  | .gate _ => inferInstanceAs (Decidable (_ ∧ _))

instance Held.decidable {α : Type} (name : String) (a : Args) :
    ∀ w : Option (Wait α), Decidable (Held name a w)
  | none => isFalse fun ⟨_, h, _⟩ => nomatch h
  | some v => decidable_of_iff (v.IsOf name a)
    ⟨fun h => ⟨v, rfl, h⟩, fun ⟨_, h, hof⟩ => Option.some.inj h ▸ hof⟩

namespace Reader

variable {α σ β : Type}

/-- Reads tokens and looks nobody up. -/
def plain (read : Args → Args.Read β) : Reader α σ := fun a _ => do
  let _ ← read a
  return none

/-- Reads nothing. -/
def silent : Reader α σ := fun _ _ => .ok none

/-- Reads the token of an actor, then more, and looks the actor up. -/
def actor (more : Args → Args.Read β) : Reader α σ := fun a _ => do
  let token ← a.get 1 "actor"
  let _ ← more a
  return some ⟨token, []⟩

/-- Reads only where the command of this name holds no wait. -/
def unheld (name : String) (read : Reader α σ) : Reader α σ := fun a s =>
  if Held name a s.wait then .ok none else read a s

/-- Reads only where no dialogue is open. -/
def whenClosed [Stage α σ] (read : Reader α σ) : Reader α σ := fun a s =>
  if Stage.dialogueOpen α s.stage then .ok none else read a s

/-- Nothing is noted before an actor is looked up. -/
def Clear (read : Reader α σ) : Prop :=
  ∀ a s cue, read a s = .ok (some cue) → cue.noted = []

lemma silent_clear : (silent : Reader α σ).Clear := by
  rintro a s cue ⟨⟩

lemma plain_clear (read : Args → Args.Read β) : (plain read : Reader α σ).Clear := by
  intro a s cue h
  simp [plain, bind_eq_ok, pure, Except.pure] at h

lemma actor_clear (more : Args → Args.Read β) : (actor more : Reader α σ).Clear := by
  intro a s cue h
  simp only [actor, bind_eq_ok, pure, Except.pure, Except.ok.injEq, Option.some.injEq] at h
  obtain ⟨_, -, _, -, rfl⟩ := h
  rfl

lemma Clear.unheld {read : Reader α σ} (h : read.Clear) (name : String) :
    (read.unheld name).Clear := by
  intro a s cue hcue
  unfold Reader.unheld at hcue
  split at hcue
  · cases hcue
  · exact h a s cue hcue

lemma Clear.whenClosed [Stage α σ] {read : Reader α σ} (h : read.Clear) :
    (read.whenClosed).Clear := by
  intro a s cue hcue
  unfold Reader.whenClosed at hcue
  split at hcue
  · cases hcue
  · exact h a s cue hcue

end Reader

namespace Scene

variable {α σ : Type}

/-- The report of a fault of the current command. -/
def noteOf (s : Scene α σ) (fault : Fault) : Report :=
  ⟨s.id, s.current, s.working.getD s.current, fault, .recoverable⟩

/-- Some faults are reported, and the command runs on. -/
def noteAll (s : Scene α σ) (faults : List Fault) : Scene α σ :=
  { s with reports := s.reports ++ faults.map s.noteOf }

@[simp] lemma noteAll_nil (s : Scene α σ) : s.noteAll [] = s := by
  simp [noteAll]

lemma noteAll_noteAll (s : Scene α σ) (before after : List Fault) :
    (s.noteAll before).noteAll after = s.noteAll (before ++ after) := by
  simp only [noteAll, List.map_append, ← List.append_assoc]
  rfl

lemma note_eq (s : Scene α σ) (fault : Fault) : s.note fault = s.noteAll [fault] := rfl

lemma reports_advanceChained (s : Scene α σ) (chain : Bool) :
    (s.advanceChained chain).reports = s.reports := by
  cases chain <;> rfl

/-- The fault is none of reading, or it is the one that the read comes to. -/
def Fits (read : Args.Read (Option Cue)) (s : Scene α σ) : Fault → Prop
  | .malformed cause => ∃ e, cause = .argument e ∧ read = .error e
  | .unknownActor ref => ∃ cue, read = .ok (some cue) ∧ s.cast.resolve? cue.ref = none ∧
      ref = cue.ref
  | _ => True

/-- The command reports faults of its own, and those of reading only where they belong. -/
def Notes (read : Args.Read (Option Cue)) (s : Scene α σ) (r : Reply α σ) : Prop :=
  ∃ faults : List Fault, r.scene.reports = s.reports ++ faults.map s.noteOf ∧
    ∀ f ∈ faults, Fits read s f

/-- The command does with a scene what its reader tells. -/
structure Follows (read : Args.Read (Option Cue)) (s : Scene α σ) (r : Reply α σ) : Prop where
  refused : ∀ e, read = .error e → r = ((s.noteAll [.argument e]).advance 1).done
  missed : ∀ cue, read = .ok (some cue) → s.cast.resolve? cue.ref = none →
    r = ((s.noteAll (cue.noted ++ cue.ref.faults)).advance 1).done
  strays : ∀ cue, read = .ok (some cue) → ∀ f ∈ cue.noted, ∃ x y, f = .badPathPair x y
  notes : Notes read s r

variable {β : Type} {read : Args.Read (Option Cue)} {s u : Scene α σ} {r : Reply α σ}

lemma fits_argument (e : ArgError) : Fits (.error e) s (.argument e) :=
  Exists.intro e ⟨rfl, rfl⟩

lemma fits_unknownActor {cue : Cue} (h : s.cast.resolve? cue.ref = none) :
    Fits (.ok (some cue)) s (.unknownActor cue.ref) :=
  Exists.intro cue ⟨rfl, h, rfl⟩

lemma Notes.silent (h : r.scene.reports = s.reports) : Notes read s r :=
  ⟨[], by simp [h], by simp⟩

lemma Notes.one {fault : Fault} (hfits : Fits read s fault)
    (h : r.scene.reports = s.reports ++ [s.noteOf fault]) : Notes read s r :=
  ⟨[fault], h, by simpa using hfits⟩

namespace Follows

/-- Where nothing is read, only faults of other kinds can be reported. -/
lemma unread (h : Notes (.ok none) s r) : Follows (.ok none) s r where
  refused := by simp
  missed := by simp
  strays := by simp
  notes := h

lemma silent (h : r.scene.reports = s.reports) : Follows (.ok none) s r :=
  unread (.silent h)

lemma passOver {fault : Fault} (hfits : Fits (.ok none) s fault) :
    Follows (.ok none) s (s.passOver fault).done :=
  unread (.one hfits rfl)

lemma refuse (e : ArgError) : Follows (.error e) s (s.passOver (.argument e)).done where
  refused := by
    rintro _ ⟨⟩
    rfl
  missed := by simp
  strays := by simp
  notes := .one (fits_argument e) rfl

/-- A failed read is the command's first and last deed. -/
lemma reading {value : Args.Read β} (cue : β → Option Cue) {next : β → Reply α σ}
    (hread : read = cue <$> value)
    (h : ∀ v, value = .ok v → Follows (.ok (cue v)) s (next v)) :
    Follows read s (s.reading value next) := by
  subst hread
  cases value with
  | error e => exact refuse e
  | ok v => exact h v rfl

/-- An actor who is missing is noted, and so is what was found before. -/
lemma withActor {cue : Cue} {next : Handle → Actor α → Reply α σ} (hu : u = s.noteAll cue.noted)
    (hstrays : ∀ f ∈ cue.noted, ∃ x y, f = .badPathPair x y)
    (h : ∀ handle actor, Notes (.ok (some cue)) s (next handle actor)) :
    Follows (.ok (some cue)) s (u.withActor cue.token next) := by
  subst hu
  have hfits : ∀ f ∈ cue.noted, Fits (.ok (some cue)) s f := by
    intro f hf
    obtain ⟨x, y, rfl⟩ := hstrays f hf
    trivial
  have hsame : ∀ other, (.ok (some cue) : Args.Read (Option Cue)) = .ok (some other) →
      other = cue := by
    rintro _ ⟨⟩
    rfl
  unfold Scene.withActor
  dsimp only
  split
  · rename_i hmissing
    have hcast : s.cast.resolve? cue.ref = none := hmissing
    have hreply : (if (ActorRef.parse cue.token).optional then
          ((s.noteAll cue.noted).advance 1).done
        else ((s.noteAll cue.noted).passOver (.unknownActor (ActorRef.parse cue.token))).done) =
        ((s.noteAll (cue.noted ++ cue.ref.faults)).advance 1).done := by
      rw [Scene.passOver, note_eq, noteAll_noteAll, ActorRef.faults, Cue.ref]
      split <;> simp
    rw [hreply]
    refine ⟨by simp, ?_, fun other h => hsame other h ▸ hstrays, _, rfl, fun f hf => ?_⟩
    · rintro other h -
      rw [hsame other h]
    · rcases List.mem_append.mp hf with hf | hf
      · exact hfits f hf
      · unfold ActorRef.faults at hf
        split at hf
        · cases hf
        · obtain rfl := List.mem_singleton.mp hf
          exact fits_unknownActor hcast
  · rename_i handle hfound
    have hfound : s.cast.resolve? cue.ref = some handle := hfound
    obtain ⟨actor, hactor⟩ := Option.isSome_iff_exists.mp (Cast.get?_isSome_of_resolve? hfound)
    have hactor : (s.noteAll cue.noted).cast.get? handle = some actor := hactor
    rw [hactor]
    refine ⟨by simp, ?_, fun other h => hsame other h ▸ hstrays, h handle actor⟩
    intro other h hmissing
    rw [hsame other h, hfound] at hmissing
    cases hmissing

lemma actor {token : String} {next : Handle → Actor α → Reply α σ}
    (h : ∀ handle actor, Notes (.ok (some ⟨token, []⟩)) s (next handle actor)) :
    Follows (.ok (some ⟨token, []⟩)) s (s.withActor token next) :=
  withActor (s.noteAll_nil).symm (by simp) h

end Follows

/-- Wherever it runs, the command does what its reader tells. -/
def Reads (handler : Handler α σ) (reader : Reader α σ) : Prop :=
  ∀ a s, Follows (reader a s) s (handler a s)

namespace Reads

variable {γ : Type} {handler : Handler α σ}

lemma silent (h : ∀ a s, (handler a s).scene.reports = s.reports) : Reads handler .silent :=
  fun a s => .silent (h a s)

/-- A command that reads its tokens and looks nobody up. -/
lemma plain {more : Args → Args.Read β} {next : Args → Scene α σ → β → Reply α σ}
    (heq : handler = fun a s => s.reading (more a) (next a s))
    (h : ∀ a s v, Notes (.ok none) s (next a s v)) : Reads handler (.plain more) := by
  subst heq
  intro a s
  refine .reading (fun _ => none) (by simp [Reader.plain]) fun v _ => .unread (h a s v)

/-- A command that reads the token of an actor, then more, and looks the actor up. -/
lemma actor {more : Args → Args.Read β} {value : Args → Args.Read (String × γ)}
    {next : Args → Scene α σ → String × γ → Handle → Actor α → Reply α σ}
    (heq : handler = fun a s => s.reading (value a) fun v => s.withActor v.1 (next a s v))
    (hread : ∀ a (s : Scene α σ), Reader.actor more a s = (fun v => some ⟨v.1, []⟩) <$> value a)
    (h : ∀ a s v handle actor, Notes (.ok (some ⟨v.1, []⟩)) s (next a s v handle actor)) :
    Reads handler (.actor more) := by
  subst heq
  intro a s
  exact .reading _ (hread a s) fun v _ => .actor (h a s v)

end Reads

end Scene

end Cutscene
