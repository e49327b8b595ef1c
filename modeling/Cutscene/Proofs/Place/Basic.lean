import Cutscene.Commands.Table
import Cutscene.Proofs.Reading.Basic

/-!
# The Place of a Command

A command sees nothing of the list of commands but its own text. So it does at any place of any
list what it does where it stands alone: it leaves the same scene, moves the pointer on from its
place and queues its edits there (`Local`). What it reports names its place and is left out.
-/

namespace Cutscene

/-- Where a command is run: the list, the index of the command in it, and whether the list is that
of a fork or of a switch. -/
structure Place where
  working : Working
  pointer : Nat
  forked : Bool
  switched : Bool

/-- The place of a command that stands alone, with room behind it. -/
def Place.alone (raw : String) : Place := ⟨⟨[raw, "", ""], 0⟩, 0, false, false⟩

/-- The edit of a list that begins some commands earlier. -/
def Edit.shift (n : Nat) : Edit → Edit
  | .insertAfter index new => .insertAfter (n + index) new
  | .replaceAt index new => .replaceAt (n + index) new
  | .replaceAll new swap => .replaceAll new swap

variable {α σ : Type}

namespace Scene

/-- The scene with a command under way at a place. -/
def atPlace (s : Scene α σ) (q : Place) : Scene α σ :=
  { s with
    working := q.working
    pointer := q.pointer
    flags := { s.flags with forked := q.forked, switched := q.switched }
    edits := []
    dispatching := some q.pointer }

/-- The scene with nothing in its list but the command that is under way, and no reports. -/
def alone (s : Scene α σ) (raw : String) : Scene α σ :=
  { s.atPlace (.alone raw) with reports := [] }

lemma wait_atPlace (s : Scene α σ) (q : Place) : (s.atPlace q).wait = s.wait := rfl

lemma wait_alone (s : Scene α σ) (raw : String) : (s.alone raw).wait = s.wait := rfl

lemma stage_atPlace (s : Scene α σ) (q : Place) : (s.atPlace q).stage = s.stage := rfl

lemma stage_alone (s : Scene α σ) (raw : String) : (s.alone raw).stage = s.stage := rfl

/-- What a command that stood alone has left, brought to a place, without reports. -/
def putBack (q : Place) (t : Scene α σ) : Scene α σ :=
  { t with
    working := q.working
    pointer := if t.pointer = 0 then q.pointer else min (q.pointer + t.pointer) q.working.size
    flags := { t.flags with forked := q.forked, switched := q.switched }
    edits := t.edits.map (Edit.shift q.pointer)
    dispatching := some q.pointer
    reports := [] }

/-- The scene without its reports. -/
def hush (s : Scene α σ) : Scene α σ := { s with reports := [] }

/-- A command left the one reply at a place and the other where it stood alone. -/
def Agrees (q : Place) (r r' : Reply α σ) : Prop := r.scene.hush = r'.scene.putBack q

end Scene

open Scene

/-- The command does at every place what it does alone. -/
def Local (handler : Handler α σ) : Prop :=
  ∀ (a : Args) (s : Scene α σ) (q : Place) (raw : String),
    q.working.get? q.pointer = some raw →
      Agrees q (handler a (s.atPlace q)) (handler a (s.alone raw))

namespace Scene

variable {s : Scene α σ} {q : Place} {raw : String}

namespace Agrees

lemma reading {β : Type} {read : Args.Read β} {next next' : β → Reply α σ}
    (h : ∀ v, read = .ok v → Agrees q (next v) (next' v)) :
    Agrees q ((s.atPlace q).reading read next) ((s.alone raw).reading read next') := by
  cases read with
  | error e => rfl
  | ok v => exact h v rfl

/-- Whatever has been reported, the token means the same actor. -/
lemma withActor {reports reports' : List Report} {token : String}
    {next next' : Handle → Actor α → Reply α σ}
    (h : ∀ handle actor, Agrees q (next handle actor) (next' handle actor)) :
    Agrees q (({ s.atPlace q with reports := reports } : Scene α σ).withActor token next)
      (({ s.alone raw with reports := reports' } : Scene α σ).withActor token
        next') := by
  unfold Scene.withActor
  dsimp only [atPlace, alone]
  cases s.cast.resolve? (ActorRef.parse token) with
  | none =>
    dsimp only
    split <;> rfl
  | some handle =>
    dsimp only
    cases s.cast.get? handle with
    | none => rfl
    | some actor => exact h handle actor

lemma either {c : Prop} [Decidable c] {r r' u u' : Reply α σ} (h : c → Agrees q r r')
    (h' : ¬ c → Agrees q u u') : Agrees q (if c then r else u) (if c then r' else u') := by
  split
  · exact h ‹_›
  · exact h' ‹_›

lemma choice {c : Prop} [Decidable c] {t t' u u' : Scene α σ} (h : c → Agrees q t.done t'.done)
    (h' : ¬ c → Agrees q u.done u'.done) :
    Agrees q (if c then t else u).done (if c then t' else u').done := by
  split
  · exact h ‹_›
  · exact h' ‹_›

/-- The command is done and may ask for the next one. -/
lemma chained {t t' : Scene α σ} (chain : Bool)
    (h : Agrees q (t.advance 1).done (t'.advance 1).done) :
    Agrees q (t.advanceChained chain).done (t'.advanceChained chain).done := by
  cases chain with
  | false => exact h
  | true => exact congrArg (fun v : Scene α σ => ({ v with chainRequested := true } : Scene α σ)) h

end Agrees

end Scene

end Cutscene
