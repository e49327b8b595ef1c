import Cutscene.Proofs.Run.Release

/-!
# A Skip Is Total and Clean

Whatever an event is doing between two ticks, a skip is over it at once. The menus close, every
skip action is triggered once and in its order, failing or not, and the stage is told of an ending
that the last `end` of the script decides. Nothing is left that could go on: no wait, no walk, no
path, no edit. A skip that is asked for beforehand does the same in the next tick.
-/

namespace Cutscene

variable {α σ : Type}

/-! ### What decides the ending -/

/-- The command is an `end` with these tokens. -/
def IsEnd (command : String) (a : Args) : Prop :=
  ∃ name args, Script.tokens? command = some (name :: args) ∧ Text.alike name "end" = true ∧
    a = ⟨name :: args⟩

/-- How a script ends that is skipped: as its last `end` says, and plainly if that is malformed or
there is none. -/
inductive EndsLike (commands : List String) : Ending → Prop
  | last (before : List String) (command : String) (after : List String) (a : Args)
      (split : commands = before ++ command :: after) (isEnd : IsEnd command a)
      (final : ∀ c ∈ after, ∀ b, ¬ IsEnd c b) (ending : Ending)
      (decoded : Ending.ofArgs a = .ok ending) : EndsLike commands ending
  | malformed (before : List String) (command : String) (after : List String) (a : Args)
      (split : commands = before ++ command :: after) (isEnd : IsEnd command a)
      (final : ∀ c ∈ after, ∀ b, ¬ IsEnd c b) (e : ArgError)
      (decoded : Ending.ofArgs a = .error e) : EndsLike commands .plain
  | endless (none : ∀ c ∈ commands, ∀ b, ¬ IsEnd c b) : EndsLike commands .plain

namespace Event

lemma endingOf?_eq_none_iff {command : String} :
    endingOf? command = none ↔ ∀ a, ¬ IsEnd command a := by
  unfold endingOf? IsEnd
  rcases Script.tokens? command with _ | _ | ⟨name, args⟩
  · simp
  · simp
  · by_cases hend : Text.alike name "end" = true <;> simp [hend]

lemma endingOf?_eq_some {command : String} {ending : Ending}
    (h : endingOf? command = some ending) :
    ∃ a, IsEnd command a ∧ ending = ((Ending.ofArgs a).toOption).getD .plain := by
  unfold endingOf? at h
  split at h
  · rename_i name args htokens
    split at h
    · rename_i hend
      exact ⟨_, ⟨name, args, htokens, hend, rfl⟩, (Option.some.inj h).symm⟩
    · cases h
  · cases h

/-- The search for an `end` from behind finds the last one. -/
theorem finalEnding_endsLike (e : Event α) : EndsLike e.working.commands e.finalEnding := by
  unfold finalEnding
  cases hfound : e.working.commands.reverse.findSome? endingOf? with
  | none =>
    refine .endless fun c hc => endingOf?_eq_none_iff.mp ?_
    exact List.findSome?_eq_none_iff.mp hfound c (List.mem_reverse.mpr hc)
  | some ending =>
    obtain ⟨later, command, earlier, hsplit, hcommand, hlater⟩ :=
      List.findSome?_eq_some_iff.mp hfound
    obtain ⟨a, ha, rfl⟩ := endingOf?_eq_some hcommand
    have hcommands : e.working.commands = earlier.reverse ++ command :: later.reverse := by
      rw [← List.reverse_reverse e.working.commands, hsplit]
      simp
    have hfinal : ∀ c ∈ later.reverse, ∀ b, ¬ IsEnd c b := fun c hc =>
      endingOf?_eq_none_iff.mp (hlater c (List.mem_reverse.mp hc))
    cases hdecoded : Ending.ofArgs a with
    | ok ending => exact .last _ _ _ a hcommands ha hfinal ending hdecoded
    | error cause => exact .malformed _ _ _ a hcommands ha hfinal cause hdecoded

end Event

namespace Scene

variable [Stage α σ] {s t : Scene α σ}

/-! ### What a skip asks of the stage -/

/-- The calls of a skip. -/
def skipCalls (s : Scene α σ) (ending : Ending) : List (Call α) :=
  .closeMenus :: s.skipActions.map .triggerAction ++ [.endEvent (.skipped ending)]

/-- The stage after some calls. -/
def stageAfter (stage : σ) (calls : List (Call α)) : σ :=
  calls.foldl (fun stage c => Stage.perform c stage) stage

lemma stageAfter_append (stage : σ) (before after : List (Call α)) :
    stageAfter stage (before ++ after) = stageAfter (stageAfter stage before) after :=
  List.foldl_append

/-- The actions of a list that fail, and why, if they are triggered one after the other. -/
def failures (α : Type) {σ : Type} [Stage α σ] (stage : σ) : List String → List (String × String)
  | [] => []
  | action :: rest =>
    ((Stage.actionFailure? α stage action).map (action, ·)).toList ++
      failures α (Stage.perform (.triggerAction action : Call α) stage) rest

/-- The report of an action that fails in a skip. -/
def failureReport (s : Scene α σ) (failure : String × String) : Report :=
  ⟨s.id, s.pointer, failure.1, .skipActionFailed failure.2, .recoverable⟩

/-- What a skip leaves of a scene. -/
structure Swept (s t : Scene α σ) : Prop where
  told : ∃ ending, EndsLike s.working.commands ending ∧ t.outcome = some (.skipped ending) ∧
    t.calls = s.calls ++ s.skipCalls ending ∧ t.stage = stageAfter s.stage (s.skipCalls ending)
  reports : t.reports = s.reports ++
    (failures α (Stage.perform (.closeMenus : Call α) s.stage) s.skipActions).map s.failureReport
  phase : t.phase = .skipped
  working : t.working = s.working
  pointer : t.pointer = s.pointer
  barrier : t.barrier.pending = []
  paths : t.paths = []
  wait : t.wait = none
  edits : t.edits = []
  skipActions : t.skipActions = []
  simultaneous : t.flags.simultaneous = false
  continueAfterMove : t.flags.continueAfterMove = false
  cast : ∀ m ∈ t.cast.members, m.2.walking = false ∧ m.2.animation = none ∧
    m.2.speedOverride = none ∧ m.2.scripted = false

/-- Skip actions touch nothing but the stage and what is kept of it. -/
lemma foldl_runSkipAction (s : Scene α σ) (actions : List String) :
    actions.foldl runSkipAction s =
      { s with
        stage := stageAfter s.stage (actions.map (.triggerAction : String → Call α))
        calls := s.calls ++ actions.map .triggerAction
        reports := s.reports ++ (failures α s.stage actions).map s.failureReport } := by
  induction actions generalizing s with
  | nil => simp [stageAfter, failures]
  | cons action rest ih =>
    rw [List.foldl_cons, ih]
    unfold runSkipAction
    cases hfails : Stage.actionFailure? α s.stage action <;>
      simp [hfails, stageAfter, failures, failureReport, Scene.call, reportAt]

/-- The state of an event that is cleared away, before the stage is told. -/
lemma clearAway_conclude (s : Scene α σ) (given : Option Outcome) : s.clearAway given =
    conclude { s.cleared with
      stage := stageAfter s.stage (.closeMenus :: s.skipActions.map (.triggerAction : _ → Call α))
      calls := s.calls ++ .closeMenus :: s.skipActions.map .triggerAction
      reports := s.reports ++ (failures α (Stage.perform (.closeMenus : Call α) s.stage)
        s.skipActions).map s.failureReport } .skipped (given.getD (.skipped s.finalEnding)) := by
  unfold clearAway
  dsimp only
  rw [foldl_runSkipAction]
  simp only [Scene.call, stageAfter, List.foldl_cons, List.append_assoc, List.singleton_append]
  rfl

lemma skip_of_idle (hidle : s.dispatching = none) (hgoes : s.isTerminal = false) :
    s.skip = s.clearAway none := by
  rw [skip, hgoes, hidle]
  rfl

theorem skip_swept (hidle : s.dispatching = none) (hgoes : s.isTerminal = false) :
    s.Swept s.skip := by
  rw [skip_of_idle hidle hgoes, clearAway_conclude]
  exact
    { told := ⟨s.finalEnding, s.finalEnding_endsLike, rfl,
        List.append_assoc s.calls _ [.endEvent (.skipped s.finalEnding)],
        (stageAfter_append _ _ [.endEvent (.skipped s.finalEnding)]).symm⟩
      reports := rfl
      phase := rfl
      working := rfl
      pointer := rfl
      barrier := rfl
      paths := rfl
      wait := rfl
      edits := rfl
      skipActions := rfl
      simultaneous := rfl
      continueAfterMove := rfl
      cast := by
        intro m hm
        obtain ⟨n, -, rfl⟩ := List.mem_map.mp hm
        exact ⟨rfl, rfl, rfl, rfl⟩ }

lemma Swept.isTerminal (h : s.Swept t) : t.isTerminal = true :=
  (isTerminal_eq_true_iff t).mpr (.inr h.phase)

/-! ### Afterwards and beforehand -/

variable [Scalar α] {table : CommandTable (Handler α σ)}

/-- Once an event is over, ticks and skips do nothing at all. -/
lemma play_eq_self (hover : s.isTerminal = true) {moves : List (HostMove α σ)}
    (hmoves : ∀ move ∈ moves, move = .tick ∨ move = .skip) : s.play table moves = s := by
  induction moves with
  | nil => rfl
  | cons move rest ih =>
    have hself : move.apply table s = s := by
      rcases hmoves move List.mem_cons_self with rfl | rfl
      · exact if_pos hover
      · exact skip_of_isTerminal hover
    rw [play_cons, hself]
    exact ih fun later hlater => hmoves later (List.mem_cons_of_mem _ hlater)

/-- A skip that was asked for is all that the next tick does. -/
lemma tick_requestSkip (hidle : s.dispatching = none) (hgoes : s.isTerminal = false) :
    (s.onEvent Event.requestSkip).tick table = s.skip := by
  have hgoes' : (s.onEvent Event.requestSkip).isTerminal = false := hgoes
  rw [tick, hgoes', skip_of_idle hidle hgoes]
  exact skip_of_idle (s := s.onEvent Event.requestSkip) hidle hgoes

end Scene

/-! ### Every scene between two ticks -/

open Scene Commands

variable [Scalar α] [Stage α σ]

/-- **A skip is total and clean.** Between the ticks of a run no command is under way. And wherever
none is and the event is not over, a skip makes its calls and no others, reports the skip actions
that fail and nothing else, leaves nothing that could go on, and ends the event as its last `end`
says. Whatever the surroundings are then, no tick and no skip changes anything, and to ask for a
skip and let a tick pass is to skip. -/
theorem skip_sweeps :
    (∀ (p : Premiere α σ) (moves : List (HostMove α σ)),
      (p.scene.play table moves).dispatching = none) ∧
    ∀ s : Scene α σ, s.dispatching = none → s.isTerminal = false →
      s.Swept s.skip ∧
      (∀ t : Scene α σ, t.toEvent = s.skip.toEvent → ∀ moves : List (HostMove α σ),
        (∀ move ∈ moves, move = .tick ∨ move = .skip) → t.play table moves = t) ∧
      s.play table [.requestSkip, .tick] = s.skip := by
  refine ⟨fun p moves => (atRest_play p.atRest moves).dispatching, fun s hidle hgoes => ?_⟩
  have hswept := skip_swept hidle hgoes
  refine ⟨hswept, fun t ht moves hmoves => play_eq_self ?_ hmoves, tick_requestSkip hidle hgoes⟩
  rw [ht]
  exact hswept.isTerminal

/-- An event in which Abigail is on her way after two ticks; one of its skip actions fails. -/
def brokenWalk : Premiere Float32 Rehearsal :=
  { rehearsed ["setSkipActions a#b", "move Abigail 5 0 1", "end position 3 4", "END newDay"] with
    stage := { failingActions := ["b"] } }

/-- Her walk is broken off. -/
theorem walk_is_swept :
    ∃ s, s = brokenWalk.scene.play table [.tick, .tick] ∧ s.dispatching = none ∧
      s.isTerminal = false ∧ s.barrier.isClosed = false ∧ s.skipActions = ["a", "b"] ∧
      s.Swept s.skip ∧ s.play table [.requestSkip, .tick] = s.skip := by
  have hstate : (brokenWalk.scene.play table [.tick, .tick]).dispatching = none ∧
      (brokenWalk.scene.play table [.tick, .tick]).isTerminal = false ∧
      (brokenWalk.scene.play table [.tick, .tick]).barrier.isClosed = false ∧
      (brokenWalk.scene.play table [.tick, .tick]).skipActions = ["a", "b"] := by
    decide +kernel
  obtain ⟨hidle, hgoes, hopen, hactions⟩ := hstate
  obtain ⟨hswept, -, hasked⟩ := skip_sweeps.2 _ hidle hgoes
  exact ⟨_, rfl, hidle, hgoes, hopen, hactions, hswept, hasked⟩

end Cutscene
