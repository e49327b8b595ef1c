import Cutscene.Proofs.Run.GivingUp

/-!
# A Skip from Within a Command

A command may ask for its event to be skipped while it goes on to move the pointer and to queue
edits. The skip waits until the command has returned and its edits are made, so that the last `end`
of the edited list decides the ending, and then it is the last thing that happens: no other command
runs in the tick, whatever the pointer stands on and whether commands run on or not.
-/

namespace Cutscene

variable {α σ : Type}

namespace Event

lemma applyEdit_working (e : Event α) (edit : Edit) :
    (e.applyEdit edit).working = e.working.apply edit := by
  unfold applyEdit
  cases edit with
  | insertAfter i commands =>
    dsimp only
    split <;> rfl
  | replaceAt i command => rfl
  | replaceAll commands swap => rfl

lemma foldl_applyEdit_working (l : List Edit) (e : Event α) :
    (l.foldl applyEdit e).working = l.foldl Working.apply e.working := by
  induction l generalizing e with
  | nil => rfl
  | cons edit l ih => rw [List.foldl_cons, List.foldl_cons, ih, applyEdit_working]

end Event

namespace Scene

/-! ### What a command tells its event -/

/-- The event has neither ended nor been edited, and nobody has asked for a skip. What else has
become of the scene is open: its cast, its flags, its wait, its skip actions, its reports and all
calls but those that end an event. -/
structure Unsteered (s t : Scene α σ) : Prop where
  working : t.working = s.working
  phase : t.phase = s.phase
  edits : t.edits = s.edits
  dispatching : t.dispatching = s.dispatching
  skipRequested : t.skipRequested = s.skipRequested
  endings : t.endings = s.endings

/-- Whatever else a command does. -/
structure Chore (α σ : Type) where
  work : Scene α σ → Scene α σ
  unsteered : ∀ s : Scene α σ, s.Unsteered (work s)

/-- What a command tells its event to do, short of ending it. -/
inductive Instruction (α σ : Type) where
  | skip
  | requestSkip
  | requestChain
  | advance (n : Nat)
  | insertAfterCurrent (commands : List String)
  | replaceCurrent (command : String)
  | replaceScript (commands : List String) (swap : Swap)
  | other (chore : Chore α σ)

namespace Instruction

def carryOut [Stage α σ] (s : Scene α σ) : Instruction α σ → Scene α σ
  | skip => s.skip
  | requestSkip => s.onEvent Event.requestSkip
  | requestChain => s.onEvent Event.requestChain
  | advance n => s.advance n
  | insertAfterCurrent commands => s.onEvent (·.insertAfterCurrent commands)
  | replaceCurrent command => s.onEvent (·.replaceCurrent command)
  | replaceScript commands swap => s.onEvent (·.replaceScript commands swap)
  | other chore => chore.work s

/-- The instruction asks for a skip. -/
def asksToSkip : Instruction α σ → Bool
  | skip | requestSkip => true
  | _ => false

/-- The edits that the command at an index queues by an instruction. -/
def edits (index : Nat) : Instruction α σ → List Edit
  | insertAfterCurrent commands => [.insertAfter index commands]
  | replaceCurrent command => [.replaceAt index command]
  | replaceScript commands swap => [.replaceAll commands swap]
  | _ => []

end Instruction

/-- All the instructions are carried out in their order. -/
def carryOutAll [Stage α σ] (s : Scene α σ) (l : List (Instruction α σ)) : Scene α σ :=
  l.foldl Instruction.carryOut s

/-- The scene as the command under the pointer finds it. -/
def begun (s : Scene α σ) : Scene α σ := { s with chainRequested := false }.underWay

/-- A command that gives instructions and does not give up. -/
def instructing [Stage α σ] (l : Args → Scene α σ → List (Instruction α σ)) : Handler α σ :=
  fun a s => (s.carryOutAll (l a s)).done

/-- A command has been under way since `s` and has queued some edits. The event goes on as before,
and a skip is no more than asked for. -/
structure Midway (index : Nat) (s t : Scene α σ) (queued : List Edit) (asked : Bool) : Prop where
  dispatching : t.dispatching = some index
  phase : t.phase = s.phase
  working : t.working = s.working
  endings : t.endings = s.endings
  edits : t.edits = s.edits ++ queued
  skipRequested : t.skipRequested = (s.skipRequested || asked)

variable {s t u : Scene α σ} {index : Nat}

lemma Midway.isTerminal {queued : List Edit} {asked : Bool} (h : Midway index s t queued asked) :
    t.isTerminal = s.isTerminal := by
  unfold Event.isTerminal
  rw [h.phase]

lemma Midway.trans {queued queued' : List Edit} {asked asked' : Bool}
    (h : Midway index s t queued asked) (h' : Midway index t u queued' asked') :
    Midway index s u (queued ++ queued') (asked || asked') where
  dispatching := h'.dispatching
  phase := h'.phase.trans h.phase
  working := h'.working.trans h.working
  endings := h'.endings.trans h.endings
  edits := by rw [h'.edits, h.edits, List.append_assoc]
  skipRequested := by rw [h'.skipRequested, h.skipRequested, Bool.or_assoc]

variable [Stage α σ]

/-- While a command is under way, a skip is nothing but a request. -/
lemma skip_of_busy (hbusy : s.dispatching = some index) (hgoes : s.isTerminal = false) :
    s.skip = s.onEvent Event.requestSkip := by
  rw [Scene.skip, hgoes, hbusy]
  rfl

lemma carryOut_midway (hbusy : s.dispatching = some index) (hgoes : s.isTerminal = false)
    (i : Instruction α σ) : Midway index s (i.carryOut s) (i.edits index) i.asksToSkip := by
  have hnone : s.edits = s.edits ++ [] := (List.append_nil _).symm
  have hunasked : s.skipRequested = (s.skipRequested || false) := (Bool.or_false _).symm
  have hasked : true = (s.skipRequested || true) := (Bool.or_true _).symm
  have hcurrent : s.current = index := by rw [Event.current, hbusy, Option.getD_some]
  cases i with
  | skip =>
    rw [Instruction.carryOut, skip_of_busy hbusy hgoes]
    exact ⟨hbusy, rfl, rfl, rfl, hnone, hasked⟩
  | requestSkip => exact ⟨hbusy, rfl, rfl, rfl, hnone, hasked⟩
  | requestChain => exact ⟨hbusy, rfl, rfl, rfl, hnone, hunasked⟩
  | advance n => exact ⟨hbusy, rfl, rfl, rfl, hnone, hunasked⟩
  | insertAfterCurrent commands => exact ⟨hbusy, rfl, rfl, rfl, hcurrent ▸ rfl, hunasked⟩
  | replaceCurrent command => exact ⟨hbusy, rfl, rfl, rfl, hcurrent ▸ rfl, hunasked⟩
  | replaceScript commands swap => exact ⟨hbusy, rfl, rfl, rfl, rfl, hunasked⟩
  | other chore =>
    have h := chore.unsteered s
    exact ⟨h.dispatching.trans hbusy, h.phase, h.working, h.endings, h.edits.trans hnone,
      h.skipRequested.trans hunasked⟩

/-- However many instructions a command gives, they are nothing but queued edits and requests. -/
theorem carryOutAll_midway (hbusy : s.dispatching = some index) (hgoes : s.isTerminal = false)
    (l : List (Instruction α σ)) :
    Midway index s (s.carryOutAll l) (l.flatMap (·.edits index)) (l.any (·.asksToSkip)) := by
  induction l generalizing s with
  | nil => exact ⟨hbusy, rfl, rfl, rfl, (List.append_nil _).symm, (Bool.or_false _).symm⟩
  | cons i l ih =>
    have hfirst := carryOut_midway hbusy hgoes i
    have hrest := ih hfirst.dispatching (hfirst.isTerminal.trans hgoes)
    exact hfirst.trans hrest

/-- The same, from the round in which the command is run. -/
lemma begun_midway (hgoes : s.isTerminal = false) (l : List (Instruction α σ)) :
    Midway s.pointer s (s.begun.carryOutAll l) (l.flatMap (·.edits s.pointer))
      (l.any (·.asksToSkip)) := by
  have hgoes' : s.begun.isTerminal = false := hgoes
  have h := carryOutAll_midway rfl hgoes' l
  exact ⟨h.dispatching, h.phase, h.working, h.endings, h.edits, h.skipRequested⟩

/-! ### The round of such a command -/

omit [Stage α σ] in
lemma edited_working (s : Scene α σ) :
    s.edited.working = s.edits.foldl Working.apply s.working :=
  Event.foldl_applyEdit_working s.edits { s.toEvent with edits := [] }

variable {table : CommandTable (Handler α σ)} {reply : Reply α σ}

/-- A skip that a command has asked for is made once its edits are, and ends the tick. -/
lemma round_of_asked (h : s.reply? table = some reply) (hfault : reply.fault = none)
    (hgoes : reply.scene.isTerminal = false) (hasked : reply.scene.skipRequested = true) :
    s.round table = (reply.scene.edited.skip, false) := by
  obtain ⟨raw, hget, hcomment, hrun⟩ := runCommand_of_reply h hfault
  have hgoes' : reply.scene.edited.isTerminal = false := (edited_isTerminal _).trans hgoes
  have hasked' : reply.scene.edited.skipRequested = true :=
    (Event.applyEdits_frame reply.scene.toEvent).skipRequested.trans hasked
  unfold round
  rw [hget]
  dsimp only
  rw [hcomment, if_neg Bool.false_ne_true, hrun, if_neg (by simp [hgoes']), if_pos hasked']

/-! ### Every round of a tick -/

variable [Scalar α]

lemma openEvent_isTerminal (hgoes : s.isTerminal = false) (hopen : s.openEvent = (t, none)) :
    t.isTerminal = false := by
  unfold openEvent at hopen
  split at hopen
  · obtain ⟨rfl, -⟩ := Prod.mk.inj hopen
    exact hgoes
  · split at hopen
    rename_i u fault hread
    cases fault with
    | some cause => cases (Prod.mk.inj hopen).2
    | none =>
      obtain ⟨rfl, -⟩ := Prod.mk.inj hopen
      rfl

lemma resume_isTerminal (hgoes : s.isTerminal = false) :
    s.resume.1.isTerminal = false := by
  have hgoes' : s.elapse.isTerminal = false := hgoes
  unfold resume
  dsimp only
  split
  · exact hgoes'
  · split
    · exact hgoes'
    · split
      · split
        · exact hgoes'
        · rfl
      · exact hgoes'

/-- No round of a tick starts from an event that is over. -/
lemma isTerminal_of_mem_tickRounds {e : Scene α σ} (he : e ∈ s.tickRounds table) :
    e.isTerminal = false := by
  have hkept : KeptByTick table (fun _ => True) (fun t : Scene α σ => t.isTerminal = false) :=
    { rest_of_ready := fun _ _ => trivial
      overture_rest := fun _ _ _ => trivial
      overture_ready := by
        intro t _ hmore
        unfold overture at hmore ⊢
        split at hmore
        · cases hmore
        · rename_i hgoes
          split at hmore
          · cases hmore
          · rename_i hunasked
            rw [if_neg hgoes, if_neg hunasked]
            rcases hopen : t.openEvent with ⟨o, _ | cause⟩
            · exact resume_isTerminal (openEvent_isTerminal (Bool.eq_false_iff.mpr hgoes) hopen)
            · rw [hopen] at hmore
              cases hmore
      round_rest := fun _ _ _ => trivial
      round_ready := by
        intro t hgoes hmore
        unfold round at hmore ⊢
        split at hmore
        · cases hmore
        · split at hmore
          · rwa [if_pos ‹_›]
          · rw [if_neg ‹_›]
            dsimp only at hmore ⊢
            split at hmore
            · cases hmore
            · rename_i hon
              rw [if_neg hon]
              split at hmore
              · cases hmore
              · rw [if_neg ‹_›]
                split <;> rfl }
  exact (hkept.tick trivial).2 e he

/-! ### A command of a host -/

omit [Scalar α] in
/-- A command gives its instructions in the scene that it finds. -/
lemma reply?_instructing {raw name : String} {args : List String} {canonical : String}
    {l : Args → Scene α σ → List (Instruction α σ)} (hget : s.working.get? s.pointer = some raw)
    (hcomment : s.settings.isComment raw = false)
    (htokens : Script.tokens? raw = some (name :: args))
    (hresolve : table.resolve? name = some (canonical, instructing l)) :
    s.reply? table = some (s.begun.carryOutAll (l ⟨name :: args⟩ s.begun)).done := by
  simp only [reply?, hget, Option.bind_some, hcomment, Bool.false_eq_true, if_false, htokens,
    hresolve, Option.map_some]
  rfl

omit [Scalar α] [Stage α σ] in
/-- What is registered under a name that is no alias is found under it. -/
lemma resolve?_register_self {command : String} {handler : Handler α σ}
    (hname : table.aliases.lookup (Text.lower command) = none) :
    (table.register command handler).resolve? command = some (command, handler) := by
  simp [CommandTable.resolve?, CommandTable.canonicalKey, CommandTable.register,
    CommandTable.put, hname]

end Scene

open Scene

variable [Scalar α] [Stage α σ]

/-- **A skip from within a command is put off and final.** Let a command of any table give
instructions, whichever and in any order, among them one that asks for a skip, and not give up.
While it is under way nothing comes of the skip. Once it has returned, all its edits are made, and
the event is skipped as the edited list would have it, once. This is the last round of the tick,
and no later tick or skip does anything. -/
theorem skip_waits_for_command {table : CommandTable (Handler α σ)} (s : Scene α σ) :
    ∀ e ∈ s.tickRounds table, ∀ (l : List (Instruction α σ)) (t : Scene α σ),
      t = e.begun.carryOutAll l → e.reply? table = some t.done → l.any (·.asksToSkip) = true →
      Midway e.pointer e t (l.flatMap (·.edits e.pointer)) true ∧
      t.edited.working =
        (e.edits ++ l.flatMap (·.edits e.pointer)).foldl Working.apply e.working ∧
      t.edited.Swept (s.tick table) ∧ (s.tick table).endings = e.endings + 1 ∧
      (∃ earlier, s.tickRounds table = earlier ++ [e]) ∧
      ∀ moves : List (HostMove α σ), (∀ move ∈ moves, move = .tick ∨ move = .skip) →
        (s.tick table).play table moves = s.tick table := by
  rintro e he l t rfl hreply hasks
  have hgoes := isTerminal_of_mem_tickRounds he
  have hmidway := begun_midway hgoes l
  rw [hasks] at hmidway
  have hasked : (e.begun.carryOutAll l).skipRequested = true := by
    rw [hmidway.skipRequested, Bool.or_true]
  have hgoes' : (e.begun.carryOutAll l).isTerminal = false := hmidway.isTerminal.trans hgoes
  have hedited : (e.begun.carryOutAll l).edited.isTerminal = false :=
    (edited_isTerminal _).trans hgoes'
  have hround : e.round table = ((e.begun.carryOutAll l).edited.skip, false) :=
    round_of_asked hreply rfl hgoes' hasked
  obtain ⟨hlast, htick⟩ := last_of_mem_tickRounds he (by rw [hround])
  rw [hround] at htick
  rw [htick]
  have hswept := skip_swept rfl hedited
  obtain ⟨o, -, ho⟩ := skip_ends (edited_calm (e.begun.carryOutAll l)) hedited
  refine ⟨hmidway, ?_, hswept, ?_, hlast, fun moves hmoves => play_eq_self hswept.isTerminal hmoves⟩
  · rw [edited_working, hmidway.edits, hmidway.working]
  · rw [ho.endings]
    exact congrArg (· + 1) hmidway.endings

/-- Skips the event, and then has it go on with another script and another end. -/
def changeHeart : Handler Float32 Rehearsal := instructing fun _ _ =>
  [.skip, .advance 1, .replaceScript ["end newDay", "playSound c"] .switch, .requestSkip,
    .insertAfterCurrent ["end position 3 4"]]

/-- The table of a host that may have a change of heart. -/
def wavering : CommandTable (Handler Float32 Rehearsal) := hosted [("changeHeart", changeHeart)]

/-- An event that has a change of heart in the midst of commands that run together. -/
def fickle : Premiere Float32 Rehearsal :=
  rehearsed ["setSkipActions cleanup", "beginSimultaneousCommand", "playSound a", "changeHeart",
    "playSound b", "end warpOut"]

/-- The skip comes after the new script, whose last end it takes, and before any other command. -/
theorem change_of_heart_is_skipped :
    ∃ s, s = fickle.scene.play wavering [.tick] ∧ ∃ e ∈ s.tickRounds wavering,
      ∃ t : Scene Float32 Rehearsal, e.reply? wavering = some t.done ∧ e.flags.simultaneous = true ∧
      t.edited.working.commands = ["end newDay", "playSound c", "end position 3 4"] ∧
      t.edited.Swept (s.tick wavering) ∧
      (s.tick wavering).outcome = some (.skipped (.position ⟨3, 4⟩)) ∧
      (s.tick wavering).endings = 1 := by
  obtain ⟨s, hs⟩ : ∃ s, s = fickle.scene.play wavering [.tick] := ⟨_, rfl⟩
  have hrun : (s.tickRounds wavering).any (fun e =>
      decide (e.working.get? e.pointer = some "changeHeart") &&
      !e.settings.isComment "changeHeart" && e.flags.simultaneous && decide (e.edits = []) &&
      decide (e.pointer = 6) && decide (e.endings = 0)) = true := by
    rw [hs, wavering, hosted, Commands.table_eq_spelled]
    decide +kernel
  obtain ⟨e, he, hdecided⟩ := List.any_eq_true.mp hrun
  simp only [Bool.and_eq_true, decide_eq_true_eq, Bool.not_eq_true'] at hdecided
  obtain ⟨⟨⟨⟨⟨hget, hcomment⟩, hblock⟩, hedits⟩, hpointer⟩, hzero⟩ := hdecided
  have htokens : Script.tokens? "changeHeart" = some ["changeHeart"] := by decide +kernel
  have hresolve : wavering.resolve? "changeHeart" = some ("changeHeart", changeHeart) :=
    resolve?_register_self (by rw [Commands.table_eq_spelled]; decide +kernel)
  have hreply := reply?_instructing hget hcomment htokens hresolve
  obtain ⟨-, hworking, hswept, hendings, -, -⟩ :=
    skip_waits_for_command s e he _ _ rfl hreply (by decide)
  refine ⟨s, hs, e, he, _, hreply, hblock, ?_, hswept, ?_, ?_⟩
  · rw [hworking, hedits, hpointer]
    rfl
  · rw [hs, wavering, hosted, Commands.table_eq_spelled]
    decide +kernel
  · rw [hendings, hzero]

end Cutscene
