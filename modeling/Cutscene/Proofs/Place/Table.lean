import Cutscene.Proofs.Footprint.Turn
import Cutscene.Proofs.Place.Acting
import Cutscene.Proofs.Place.Steering
import Cutscene.Proofs.Reading.Table

/-!
# Commands at Their Places

Every command of the table does at any place what it does alone, so there is one way in which a
text moves on from wherever it stands (`Motion`), and what else it leaves of the scene is the same
everywhere (`Scene.exists_motion`).
-/

namespace Cutscene

/-- How a command moves on from its place. -/
inductive Motion
  /-- It is to run again. -/
  | hold
  | pass (n : Nat)
  /-- It is done, and commands of its own come next. -/
  | splice (new : List String)
  | rewrite (new : String)
  /-- The event goes on with another script. -/
  | redirect (new : List String) (swap : Swap)

namespace Motion

/-- The place after the motion. -/
def apply (q : Place) : Motion → Place
  | hold => q
  | pass n => { q with pointer := min (q.pointer + n) q.working.size }
  | splice new =>
    { q with
      working := q.working.apply (.insertAfter q.pointer new)
      pointer := q.pointer + 1 }
  | rewrite new => { q with working := q.working.apply (.replaceAt q.pointer new) }
  | redirect new .fork =>
    { q with working := q.working.apply (.replaceAll new .fork), pointer := 0, forked := true }
  | redirect new .switch =>
    { q with working := q.working.apply (.replaceAll new .switch), pointer := 0, switched := true }

/-- The command is done, and the one after it is next. -/
def GoesOn : Motion → Prop
  | pass _ | splice _ => True
  | _ => False

end Motion

variable {α σ : Type}

namespace Scene

/-- Where the event stands. -/
def place (s : Scene α σ) : Place := ⟨s.working, s.pointer, s.flags.forked, s.flags.switched⟩

/-- The same event at another place, with other reports. -/
def placed (s : Scene α σ) (q : Place) (reports : List Report) : Scene α σ :=
  { s with
    working := q.working
    pointer := q.pointer
    flags := { s.flags with forked := q.forked, switched := q.switched }
    reports := reports }

/-- What a command that stood alone has left tells how it moves on. -/
inductive Leaves (t : Scene α σ) : Motion → Prop
  | holds (pointer : t.pointer = 0) (edits : t.edits = []) : Leaves t .hold
  | passes (n : Nat) (some : 0 < n) (pointer : t.pointer = n) (wait : t.wait = none)
      (edits : t.edits = []) : Leaves t (.pass n)
  | splices (new : List String) (pointer : t.pointer = 1) (wait : t.wait = none)
      (edits : t.edits = [.insertAfter 0 new]) : Leaves t (.splice new)
  | rewrites (new : String) (pointer : t.pointer = 0) (edits : t.edits = [.replaceAt 0 new]) :
      Leaves t (.rewrite new)
  | redirects (new : List String) (swap : Swap) (pointer : t.pointer = 0)
      (edits : t.edits = [.replaceAll new swap]) : Leaves t (.redirect new swap)

/-- The scene that a command has left, when it is done and its edits are made. -/
def settled (t : Scene α σ) : Motion → Scene α σ
  | .redirect _ _ => { t with wait := none, edits := [], dispatching := none, reports := [] }
  | _ => { t with edits := [], dispatching := none, reports := [] }

lemma Leaves.settles {t : Scene α σ} {m : Motion} (h : Leaves t m) {q : Place}
    (hq : q.pointer < q.working.size) :
    ((t.putBack q).onEvent Event.applyEdits).atEase = (t.settled m).placed (m.apply q) [] := by
  cases h with
  | holds pointer edits =>
    simp [putBack, onEvent, Event.applyEdits, atEase, settled, placed, Motion.apply, pointer, edits,
      hq.le]
  | passes n some pointer wait edits =>
    simp [putBack, onEvent, Event.applyEdits, atEase, settled, placed, Motion.apply, pointer, edits,
      some.ne']
  | splices new pointer wait edits =>
    have hnext : min (q.pointer + 1) q.working.size = q.pointer + 1 := Nat.min_eq_left hq
    have hroom : q.pointer + 1 ≤ (q.working.apply (.insertAfter q.pointer new)).size := by
      rw [Working.size, Working.apply_commands, Working.length_edited_insertAfter]
      exact Nat.le_add_right_of_le hq
    simp [putBack, onEvent, Event.applyEdits, atEase, settled, placed, Motion.apply, pointer, edits,
      Edit.shift, Event.applyEdit, hnext, hroom]
  | rewrites new pointer edits =>
    have hroom : q.pointer ≤ (q.working.apply (.replaceAt q.pointer new)).size := by
      have hin : q.pointer < q.working.commands.length := hq
      simp [Working.size, Working.edited, hin, hin.le]
    simp [putBack, onEvent, Event.applyEdits, atEase, settled, placed, Motion.apply, pointer, edits,
      Edit.shift, Event.applyEdit, hroom]
  | redirects new swap pointer edits =>
    cases swap <;>
      simp [putBack, onEvent, Event.applyEdits, atEase, settled, placed, Motion.apply, pointer,
        edits, Edit.shift, Event.applyEdit, Event.Flags.swapped]

variable [Scalar α] [Stage α σ]

end Scene

namespace Commands

open Scene

variable [Scalar α] [Stage α σ]

theorem builtIn_local : ∀ m ∈ (builtIn : List (String × Handler α σ)), Local m.2 := by
  simp only [builtIn, List.forall_mem_cons]
  exact ⟨skippable_local, pause_local, end_local, fork_local, switchEvent_local,
    beginSimultaneous_local, endSimultaneous_local, setSkipActions_local,
    waitForOtherPlayers_local, speak_local, message_local, question_local, quickQuestion_local,
    speakFromState_local, move_local, advancedMove_local, stopAdvancedMoves_local,
    walkInSquare_local, warp_local, faceDirection_local, showFrame_local, animate_local,
    stopAnimation_local, positionOffset_local, jump_local, shake_local, emote_local, speed_local,
    halt_local, addActor_local, removeActor_local, playSound_local, playMusic_local,
    stopMusic_local, viewport_local, globalFade_local, globalFadeToClear_local,
    spawnEffect_local, screenFlash_local, mail_local, friendship_local, addItem_local,
    loseItems_local, showItemsLost_local, awardFestivalPrize_local, by simp⟩

lemma table_local {name : String} {m : String × Handler α σ}
    (h : (table : CommandTable (Handler α σ)).resolve? name = some m) : Local m.2 :=
  builtIn_local m (CommandTable.mem_of_resolve? h)

end Commands

namespace Scene

variable [Scalar α] [Stage α σ] {s : Scene α σ} {q : Place} {raw : String}

/-- A command without a prize that the player has not won. -/
structure LosesPrize (s : Scene α σ) (name : String) (a : Args) : Prop where
  named : name = "awardFestivalPrize"
  unnamed : a.get? 1 = none
  lost : Stage.festivalWinner α s.stage = false

/-- A command of this name and these tokens, alone in the scene `s`, has left `t` and moves on. -/
structure Departs (name : String) (a : Args) (s t : Scene α σ) (m : Motion) : Prop where
  leaves : t.Leaves m
  free : s.Free → t.Free ∨ m = .hold
  leap : ∀ n, m = .pass n → n = 1 ∨ n = 2 ∧ s.LosesPrize name a

omit [Scalar α] in
lemma Footprint.departs {name : String} {a : Args} {t : Scene α σ}
    (h : Footprint name a (s.alone raw) t) : ∃ m, Departs name a s t m := by
  have hfree : t.pointer ≠ 0 ∨ t.edits ≠ [] → s.Free → t.Free := by
    intro hmoved hs
    refine (h.free hs).resolve_right fun hheld => ?_
    obtain ⟨-, hhelm⟩ := hheld
    rcases hmoved with hpointer | hedits
    · exact hpointer (congrArg (·.pointer) hhelm)
    · exact hedits (congrArg Helm.edits hhelm)
  have hother : ∀ {m : Motion}, (∀ n, m ≠ .pass n) → ∀ n, m = .pass n →
      n = 1 ∨ n = 2 ∧ s.LosesPrize name a :=
    fun hm n hn => absurd hn (hm n)
  cases h.goes with
  | holds w helm =>
    exact ⟨.hold, .holds (congrArg (·.pointer) helm) (congrArg Helm.edits helm),
      fun _ => .inr rfl, hother nofun⟩
  | passes helm =>
    have hpointer : t.pointer = 1 := congrArg (·.pointer) helm
    exact ⟨.pass 1, .passes 1 Nat.one_pos hpointer (congrArg (·.wait) helm)
      (congrArg Helm.edits helm), fun hs => .inl (hfree (.inl (by simp [hpointer])) hs),
      fun n hn => .inl (Motion.pass.inj hn).symm⟩
  | splices new helm =>
    have hpointer : t.pointer = 1 := congrArg (·.pointer) helm
    exact ⟨.splice new, .splices new hpointer (congrArg (·.wait) helm)
      (congrArg Helm.edits helm), fun hs => .inl (hfree (.inl (by simp [hpointer])) hs),
      hother nofun⟩
  | rewrites new helm =>
    have hedits : t.edits = [.replaceAt 0 new] := congrArg Helm.edits helm
    exact ⟨.rewrite new, .rewrites new (congrArg (·.pointer) helm) hedits,
      fun hs => .inl (hfree (.inr (by simp [hedits])) hs), hother nofun⟩
  | redirects named text swap helm =>
    have hedits : t.edits = [.replaceAll (Script.split text) swap] := congrArg Helm.edits helm
    exact ⟨.redirect (Script.split text) swap, .redirects _ swap (congrArg (·.pointer) helm) hedits,
      fun hs => .inl (hfree (.inr (by simp [hedits])) hs), hother nofun⟩
  | leaps named unnamed lost helm =>
    have hpointer : t.pointer = 2 := congrArg (·.pointer) helm
    exact ⟨.pass 2, .passes 2 Nat.two_pos hpointer (congrArg (·.wait) helm)
      (congrArg Helm.edits helm), fun hs => .inl (hfree (.inl (by simp [hpointer])) hs),
      fun n hn => .inr ⟨(Motion.pass.inj hn).symm, named, unnamed, lost⟩⟩

omit [Scalar α] in
lemma Lawful.departs {name : String} {handler : Handler α σ} (h : Commands.Lawful name handler)
    (s : Scene α σ) (raw : String) (a : Args) :
    ∃ m, Departs name a s (handler a (s.alone raw)).scene m := by
  rcases h a (s.alone raw) with hobeys | ⟨u, ending, hu, heq⟩
  · exact hobeys.footprint.departs
  · obtain ⟨hedits, hpointer, -⟩ := finish_frame u ending
    rw [heq]
    exact ⟨.hold, .holds (hpointer.trans hu.pointer) (hedits.trans hu.edits), fun _ => .inr rfl,
      fun n hn => nomatch hn⟩

omit [Scalar α] in
/-- There is one way in which a text moves on from wherever it stands, and what else it leaves of
the scene is the same everywhere. -/
theorem exists_motion {table : CommandTable (Handler α σ)} (hlaw : Commands.IsLawful table)
    (hlocal : ∀ name m, table.resolve? name = some m → Local m.2)
    (hfault : ∀ name m, table.resolve? name = some m → ∀ a s, (m.2 a s).fault = none)
    (hs : s.edits = []) (raw : String) :
    ∃ m t, Departs (table.commandOf raw).1 (table.commandOf raw).2 s t m ∧
      ∀ (q : Place) (reports : List Report), q.working.get? q.pointer = some raw →
        (runCommand table (s.placed q reports) q.pointer raw).hush =
          (t.settled m).placed (m.apply q) [] := by
  have hunderWay : ∀ q reports, (s.placed q reports).underWay =
      ({ s with reports := reports } : Scene α σ).atPlace q := by
    intro q reports
    unfold atPlace
    rw [← hs]
    rfl
  have hin : ∀ {q : Place}, q.working.get? q.pointer = some raw → q.pointer < q.working.size :=
    fun hq => (List.getElem?_eq_some_iff.mp hq).1
  -- A text that calls no command passes.
  have hpass : ∀ {name : String} {a : Args}, Departs name a s ((s.alone raw).advance 1) (.pass 1) :=
    ⟨.passes 1 Nat.one_pos rfl rfl rfl, .inl, fun n hn => .inl (Motion.pass.inj hn).symm⟩
  have hquiet : ∀ q reports, ((s.placed q reports).underWay.advance 1).atEase.hush =
      (((s.alone raw).advance 1).settled (.pass 1)).placed ((Motion.pass 1).apply q) [] := by
    intro q reports
    rw [hunderWay]
    rfl
  unfold CommandTable.commandOf
  rcases htokens : Script.tokens? raw with _ | _ | ⟨name, args⟩
  · refine ⟨.pass 1, _, hpass, fun q reports _ => ?_⟩
    have hrun : runCommand table (s.placed q reports) q.pointer raw = _ :=
      runCommand_unreadable htokens
    exact (congrArg hush hrun).trans (hquiet q reports)
  · refine ⟨.pass 1, _, hpass, fun q reports _ => ?_⟩
    have hrun := runCommand_eq table (s.placed q reports) raw
    rw [htokens] at hrun
    exact (congrArg hush hrun).trans (hquiet q reports)
  · dsimp only
    rcases hname : table.resolve? name with _ | ⟨name', handler⟩
    · refine ⟨.pass 1, _, hpass, fun q reports _ => ?_⟩
      have hrun := runCommand_unknown (s := s.placed q reports) htokens hname
      exact (congrArg hush hrun).trans (hquiet q reports)
    · obtain ⟨m, hm⟩ := Lawful.departs (hlaw name _ hname) s raw ⟨name :: args⟩
      refine ⟨m, _, hm, fun q reports hq => ?_⟩
      have hlands := hlocal name _ hname ⟨name :: args⟩ { s with reports := reports } q raw hq
      have hrun := runCommand_known (s := s.placed q reports) htokens hname
        (hfault name _ hname _ _)
      rw [hunderWay] at hrun
      have halone : ({ s with reports := reports } : Scene α σ).alone raw = s.alone raw := rfl
      rw [← hm.leaves.settles (hin hq), ← halone, ← hlands]
      exact congrArg hush hrun

end Scene

end Cutscene
