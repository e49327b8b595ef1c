import Cutscene.Commands.Table
import Cutscene.Event.Tick
import Mathlib.Tactic.Common

/-!
# Runs of an Event

The host of an event calls it frame by frame, and between the calls the world around it does as it
likes. A run is a list of such moves. A tick falls into its overture, which does all that comes
before the commands, and into rounds, each of which takes one command from under the pointer
(`tick_eq`, `dispatch_succ`). Laws of runs are then proved move by move and round by round
(`Kept`).
-/

namespace Cutscene

/-- What befalls an event from outside: its host calls it, or its surroundings change. -/
inductive HostMove (α σ : Type) where
  | tick
  | skip
  | requestSkip
  | finish (ending : Ending)
  /-- The stage is in another state, and the calls to come bring another library and time. -/
  | surround (stage : σ) (library : Option Library) (elapsed : α)

/-- All that an event begins with. -/
structure Premiere (α σ : Type) where
  id : String
  key : Option ScriptKey
  commands : List String
  settings : Settings α
  sceneData : List (String × String)
  stage : σ
  library : Option Library
  elapsed : α

/-- The scene of an event that is about to begin. -/
def Premiere.scene {α σ : Type} (p : Premiere α σ) : Scene α σ :=
  { Event.ofCommands p.id p.commands p.settings with
    key := p.key
    sceneData := p.sceneData
    stage := p.stage
    calls := []
    reports := []
    library := p.library
    elapsed := p.elapsed }

namespace Scene

variable {α σ : Type} [Scalar α] [Stage α σ]

/-! ### A tick in rounds -/

/-- What a tick does between the header and the commands, and whether any are to follow. -/
def resume (s : Scene α σ) : Scene α σ × Bool :=
  let s := s.elapse
  if Stage.worldFrozen α s.stage then (s, false)
  else if s.barrier.isClosed then (s, true)
  else
    let (barrier, cast, closed) := s.barrier.resolve s.settings s.cast
    let s := { s with barrier := barrier, cast := cast }
    if closed then
      if s.flags.continueAfterMove then
        ({ s with flags := { s.flags with continueAfterMove := false } }, true)
      else ({ s.advance 1 with phase := .running }, false)
    else (s, s.flags.continueAfterMove)

/-- What a tick does ahead of its commands, and whether any are to follow. -/
def overture (s : Scene α σ) : Scene α σ × Bool :=
  if s.isTerminal then (s, false)
  else if s.skipRequested then (s.skip, false)
  else
    match s.openEvent with
    | (s, some cause) =>
      (s.abort cause.index (s.working.getD cause.index) (.header cause), false)
    | (s, none) => s.resume

/-- One round: the command under the pointer is run or, as a comment, passed over. The second part
tells whether the tick goes on with another round. -/
def round (table : CommandTable (Handler α σ)) (s : Scene α σ) : Scene α σ × Bool :=
  match s.working.get? s.pointer with
  | none => (s.finish .plain, false)
  | some raw =>
    if s.settings.isComment raw then (s.advance 1, s.flags.simultaneous)
    else
      let t := runCommand table { s with chainRequested := false } s.pointer raw
      if t.isTerminal then (t, false)
      else if t.skipRequested then (t.skip, false)
      else
        let progressed := (t.pointer, t.working.version) ≠ (s.pointer, s.working.version)
        ({ t with
            phase := if progressed then .running else .suspended
            chainRequested := t.flags.simultaneous && t.chainRequested },
          decide progressed && (t.flags.simultaneous || t.chainRequested))

omit [Scalar α] in
theorem dispatch_succ (table : CommandTable (Handler α σ)) (fuel : Nat) (s : Scene α σ) :
    dispatch table (fuel + 1) s =
      if (s.round table).2 then dispatch table fuel (s.round table).1
      else (s.round table).1 := by
  rw [dispatch, round]
  cases s.working.get? s.pointer with
  | none => rfl
  | some raw =>
    dsimp only
    split
    · rfl
    · split
      · rfl
      · split
        · rfl
        · simp only [Bool.and_eq_true, decide_eq_true_eq]

theorem tick_eq (table : CommandTable (Handler α σ)) (s : Scene α σ) :
    s.tick table =
      if s.overture.2 then dispatch table dispatchLimit s.overture.1 else s.overture.1 := by
  rw [tick, overture]
  split
  · rfl
  · split
    · rfl
    · rcases s.openEvent with ⟨o, _ | cause⟩
      · dsimp only [resume, proceed]
        split
        · rfl
        · split
          · rfl
          · split
            · split <;> rfl
            · rfl
      · rfl

/-- Where a skip was asked for, a tick skips the event and does nothing else. -/
lemma tick_of_skipRequested (table : CommandTable (Handler α σ)) {s : Scene α σ}
    (hgoes : s.isTerminal = false) (hskip : s.skipRequested = true) : s.tick table = s.skip := by
  rw [tick, if_neg (by simp [hgoes]), if_pos hskip]

/-! ### Runs and their rounds -/

/-- The scenes from which the rounds of a tick start, one after the other. -/
def roundsFrom (table : CommandTable (Handler α σ)) : Nat → Scene α σ → List (Scene α σ)
  | 0, _ => []
  | fuel + 1, s =>
    s :: if (s.round table).2 then roundsFrom table fuel (s.round table).1 else []

/-- The rounds of the next tick. -/
def tickRounds (table : CommandTable (Handler α σ)) (s : Scene α σ) : List (Scene α σ) :=
  if s.overture.2 then roundsFrom table dispatchLimit s.overture.1 else []

end Scene

namespace HostMove

variable {α σ : Type} [Scalar α] [Stage α σ]

/-- The scene after a move. -/
def apply (table : CommandTable (Handler α σ)) (s : Scene α σ) : HostMove α σ → Scene α σ
  | .tick => s.tick table
  | .skip => s.skip
  | .requestSkip => s.onEvent Event.requestSkip
  | .finish ending => s.finish ending
  | .surround stage library elapsed =>
    { s with stage := stage, library := library, elapsed := elapsed }

/-- The rounds of a move: only a tick has any. -/
def rounds (table : CommandTable (Handler α σ)) (s : Scene α σ) :
    HostMove α σ → List (Scene α σ)
  | .tick => s.tickRounds table
  | _ => []

end HostMove

namespace Scene

variable {α σ : Type} [Scalar α] [Stage α σ]

/-- The scene after a run. -/
def play (table : CommandTable (Handler α σ)) (s : Scene α σ) (moves : List (HostMove α σ)) :
    Scene α σ :=
  moves.foldl (HostMove.apply table) s

/-- The scenes from which the rounds of a run start, in their order. -/
def rounds (table : CommandTable (Handler α σ)) (s : Scene α σ) :
    List (HostMove α σ) → List (Scene α σ)
  | [] => []
  | move :: rest => move.rounds table s ++ (move.apply table s).rounds table rest

/-- All the scenes that a run passes through: before and after every move, and before every round
of a tick. -/
def course (table : CommandTable (Handler α σ)) (s : Scene α σ) :
    List (HostMove α σ) → List (Scene α σ)
  | [] => [s]
  | move :: rest => s :: move.rounds table s ++ (move.apply table s).course table rest

variable {table : CommandTable (Handler α σ)}

@[simp] lemma play_nil (s : Scene α σ) : s.play table [] = s := rfl

@[simp] lemma play_cons (s : Scene α σ) (move : HostMove α σ) (rest : List (HostMove α σ)) :
    s.play table (move :: rest) = (move.apply table s).play table rest := rfl

lemma play_append (s : Scene α σ) (before after : List (HostMove α σ)) :
    s.play table (before ++ after) = (s.play table before).play table after := by
  simp [play]

lemma rounds_append (s : Scene α σ) (before after : List (HostMove α σ)) :
    s.rounds table (before ++ after) =
      s.rounds table before ++ (s.play table before).rounds table after := by
  induction before generalizing s with
  | nil => rfl
  | cons move rest ih => rw [List.cons_append, rounds, rounds, ih, List.append_assoc, play_cons]

variable (table) in
/-- A run ends in a scene that it passes through. -/
lemma play_mem_course (s : Scene α σ) (moves : List (HostMove α σ)) :
    s.play table moves ∈ s.course table moves := by
  induction moves generalizing s with
  | nil => exact List.mem_cons_self
  | cons move rest ih => exact List.mem_append_right _ (ih _)

omit [Scalar α] in
lemma last_of_mem_roundsFrom {s d : Scene α σ} {fuel : Nat} (hd : d ∈ s.roundsFrom table fuel)
    (hstop : (d.round table).2 = false) :
    (∃ earlier, s.roundsFrom table fuel = earlier ++ [d]) ∧
      s.dispatch table fuel = (d.round table).1 := by
  induction fuel generalizing s with
  | zero => simp [roundsFrom] at hd
  | succ fuel ih =>
    rw [roundsFrom] at hd
    rw [dispatch_succ, roundsFrom]
    cases hmore : (s.round table).2 with
    | false =>
      rw [hmore] at hd
      obtain rfl : d = s := by simpa using hd
      exact ⟨⟨[], rfl⟩, rfl⟩
    | true =>
      rw [hmore] at hd
      rcases List.mem_cons.mp hd with rfl | hd
      · rw [hstop] at hmore
        cases hmore
      · obtain ⟨⟨earlier, hearlier⟩, hlast⟩ := ih hd
        exact ⟨⟨s :: earlier, congrArg (s :: ·) hearlier⟩, hlast⟩

/-- The round after which a tick does not go on is its last, and leaves what the tick leaves. -/
lemma last_of_mem_tickRounds {s d : Scene α σ} (hd : d ∈ s.tickRounds table)
    (hstop : (d.round table).2 = false) :
    (∃ earlier, s.tickRounds table = earlier ++ [d]) ∧ s.tick table = (d.round table).1 := by
  rw [tick_eq]
  rw [tickRounds] at hd ⊢
  cases hmore : s.overture.2 with
  | false =>
    rw [hmore] at hd
    simp at hd
  | true =>
    rw [hmore] at hd
    exact last_of_mem_roundsFrom hd hstop

/-! ### Laws of runs -/

/-- `rest` holds before and after every tick that begins with it, and `ready` before every round:
each follows from the other over an overture and over a round. -/
structure KeptByTick (table : CommandTable (Handler α σ)) (rest ready : Scene α σ → Prop) :
    Prop where
  rest_of_ready : ∀ s, ready s → rest s
  overture_rest : ∀ s, rest s → s.overture.2 = false → rest s.overture.1
  overture_ready : ∀ s, rest s → s.overture.2 = true → ready s.overture.1
  round_rest : ∀ s, ready s → (s.round table).2 = false → rest (s.round table).1
  round_ready : ∀ s, ready s → (s.round table).2 = true → ready (s.round table).1

/-- The other moves keep `rest` as well. -/
structure Kept (table : CommandTable (Handler α σ)) (rest ready : Scene α σ → Prop) : Prop
    extends KeptByTick table rest ready where
  skip : ∀ s, rest s → rest s.skip
  requestSkip : ∀ s, rest s → rest (s.onEvent Event.requestSkip)
  finish : ∀ s ending, rest s → rest (s.finish ending)
  surround : ∀ (s : Scene α σ) stage library elapsed, rest s →
    rest { s with stage := stage, library := library, elapsed := elapsed }

variable {rest ready : Scene α σ → Prop}

namespace KeptByTick

lemma dispatch (k : KeptByTick table rest ready) (fuel : Nat) {s : Scene α σ} (h : ready s) :
    rest (s.dispatch table fuel) ∧ ∀ d ∈ s.roundsFrom table fuel, ready d := by
  induction fuel generalizing s with
  | zero => exact ⟨k.rest_of_ready s h, by simp [roundsFrom]⟩
  | succ fuel ih =>
    rw [dispatch_succ, roundsFrom]
    cases hgo : (s.round table).2 with
    | false => exact ⟨k.round_rest s h hgo, by simpa using h⟩
    | true =>
      obtain ⟨hrest, hrounds⟩ := ih (k.round_ready s h hgo)
      refine ⟨hrest, ?_⟩
      simpa using ⟨h, hrounds⟩

lemma tick (k : KeptByTick table rest ready) {s : Scene α σ} (h : rest s) :
    rest (s.tick table) ∧ ∀ d ∈ s.tickRounds table, ready d := by
  rw [tick_eq, tickRounds]
  cases hgo : s.overture.2 with
  | false => exact ⟨k.overture_rest s h hgo, by simp⟩
  | true => exact k.dispatch dispatchLimit (k.overture_ready s h hgo)

end KeptByTick

namespace Kept

lemma apply (k : Kept table rest ready) {s : Scene α σ} (h : rest s) (move : HostMove α σ) :
    rest (move.apply table s) ∧ ∀ d ∈ move.rounds table s, ready d := by
  cases move with
  | tick => exact k.tick h
  | skip => exact ⟨k.skip s h, by simp [HostMove.rounds]⟩
  | requestSkip => exact ⟨k.requestSkip s h, by simp [HostMove.rounds]⟩
  | finish ending => exact ⟨k.finish s ending h, by simp [HostMove.rounds]⟩
  | surround stage library elapsed =>
    exact ⟨k.surround s stage library elapsed h, by simp [HostMove.rounds]⟩

theorem play (k : Kept table rest ready) {s : Scene α σ} (h : rest s)
    (moves : List (HostMove α σ)) : rest (s.play table moves) := by
  induction moves generalizing s with
  | nil => exact h
  | cons move moves ih => exact ih (k.apply h move).1

theorem course (k : Kept table rest ready) {s : Scene α σ} (h : rest s)
    (moves : List (HostMove α σ)) : ∀ t ∈ s.course table moves, rest t := by
  induction moves generalizing s with
  | nil => simpa [Scene.course] using h
  | cons move moves ih =>
    intro t ht
    rcases List.mem_append.mp ht with ht | ht
    · rcases List.mem_cons.mp ht with rfl | ht
      · exact h
      · exact k.rest_of_ready t ((k.apply h move).2 t ht)
    · exact ih (k.apply h move).1 t ht

theorem rounds (k : Kept table rest ready) {s : Scene α σ} (h : rest s)
    (moves : List (HostMove α σ)) : ∀ d ∈ s.rounds table moves, ready d := by
  induction moves generalizing s with
  | nil => simp [Scene.rounds]
  | cons move moves ih =>
    intro d hd
    rcases List.mem_append.mp hd with hd | hd
    · exact (k.apply h move).2 d hd
    · exact ih (k.apply h move).1 d hd

end Kept

/-! ### What rounds turn on -/

/-- In each of the scenes, `on` holds exactly if it held at first or some scene before sets it. -/
def Logged (on sets : Scene α σ → Prop) : Prop → List (Scene α σ) → Prop
  | _, [] => True
  | first, d :: later => (on d ↔ first) ∧ Logged on sets (first ∨ sets d) later

section Logged

variable {on sets : Scene α σ → Prop} {first : Prop} {earlier later : List (Scene α σ)}
  {s : Scene α σ}

omit [Scalar α] [Stage α σ] in
lemma logged_append (h : Logged on sets first earlier)
    (h' : Logged on sets (first ∨ ∃ q ∈ earlier, sets q) later) :
    Logged on sets first (earlier ++ later) := by
  induction earlier generalizing first with
  | nil => simpa using h'
  | cons d earlier ih =>
    refine ⟨h.1, ih h.2 ?_⟩
    simpa [or_assoc] using h'

omit [Scalar α] [Stage α σ] in
lemma Logged.at (h : Logged on sets first (earlier ++ s :: later)) :
    on s ↔ first ∨ ∃ q ∈ earlier, sets q := by
  induction earlier generalizing first with
  | nil => simpa using h.1
  | cons d earlier ih =>
    refine (ih h.2).trans ?_
    simp [or_assoc]

end Logged

/-- Rounds may turn `on` on, and nothing turns it off. -/
structure Latch (table : CommandTable (Handler α σ)) (rest ready on sets : Scene α σ → Prop) :
    Prop extends Kept table rest ready where
  overture_on : ∀ s, rest s → (on s.overture.1 ↔ on s)
  round_on : ∀ s, ready s → (on (s.round table).1 ↔ on s ∨ sets s)
  move_on : ∀ s (move : HostMove α σ), move ≠ .tick → (on (move.apply table s) ↔ on s)

namespace Latch

variable {on sets : Scene α σ → Prop} {s : Scene α σ}

lemma dispatch (l : Latch table rest ready on sets) (fuel : Nat) (h : ready s) :
    (on (s.dispatch table fuel) ↔ on s ∨ ∃ q ∈ s.roundsFrom table fuel, sets q) ∧
      Logged on sets (on s) (s.roundsFrom table fuel) := by
  induction fuel generalizing s with
  | zero => simp [Scene.dispatch, roundsFrom, Logged]
  | succ fuel ih =>
    have hround := l.round_on s h
    rw [dispatch_succ, roundsFrom]
    cases hgo : (s.round table).2 with
    | false => simp [Logged, hround]
    | true =>
      obtain ⟨hon, hlog⟩ := ih (l.round_ready s h hgo)
      rw [hround, or_assoc] at hon
      rw [propext hround] at hlog
      exact ⟨by simpa using hon, Iff.rfl, hlog⟩

lemma apply (l : Latch table rest ready on sets) (h : rest s) (move : HostMove α σ) :
    (on (move.apply table s) ↔ on s ∨ ∃ q ∈ move.rounds table s, sets q) ∧
      Logged on sets (on s) (move.rounds table s) := by
  by_cases htick : move = .tick
  · subst htick
    have hopen := l.overture_on s h
    rw [HostMove.apply, HostMove.rounds, tick_eq, tickRounds]
    cases hgo : s.overture.2 with
    | false => simp [Logged, hopen]
    | true =>
      have hrun := l.dispatch dispatchLimit (l.overture_ready s h hgo)
      rwa [propext hopen] at hrun
  · have hidle : move.rounds table s = [] := by
      cases move <;> first | rfl | exact absurd rfl htick
    rw [hidle]
    simp [Logged, l.move_on s move htick]

theorem rounds (l : Latch table rest ready on sets) (h : rest s) (moves : List (HostMove α σ)) :
    Logged on sets (on s) (s.rounds table moves) := by
  induction moves generalizing s with
  | nil => exact trivial
  | cons move moves ih =>
    obtain ⟨hon, hlog⟩ := l.apply h move
    have hlater := ih (l.toKept.apply h move).1
    rw [propext hon] at hlater
    exact logged_append hlog hlater

end Latch

end Scene

end Cutscene
