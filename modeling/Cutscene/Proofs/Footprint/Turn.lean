import Cutscene.Event.Tick
import Cutscene.Proofs.Footprint.Table

/-!
# One Command Run

A text that is run calls a command of the table, or none at all: text without tokens, text that
cannot be read and an unknown name are passed over. Either way the run leaves a turn
(`Scene.Turn`): the footprint of the command after its edits are made. The exception is an `end`
that is over the event (`Scene.runCommand_cases`).
-/

namespace Cutscene

namespace Scene

variable {α σ : Type} [Stage α σ]

/-- Where a command of a name and tokens leaves the script once its edits are made. -/
inductive Steers (name : String) (a : Args) (s t : Scene α σ) : Prop
  | holds (w : Option (Wait α)) (stand : t.stand = { s.stand with wait := w })
      (begun : s.oneTimes < t.oneTimes → Held name a w)
      (kept : Held name a s.wait → Held name a w)
  | passes (stand : t.stand = s.stand.advance 1)
  | splices (commands : List String)
      (stand : t.stand = { s.stand.advance 1 with
        working := s.working.apply (.insertAfter s.pointer commands) })
  | rewrites (command : String)
      (stand : t.stand = { s.stand with
        working := s.working.apply (.replaceAt s.pointer command) })
  | redirects (named : name = "fork" ∨ name = "switchEvent") (text : String) (swap : Swap)
      (stand : t.stand = ⟨s.working.apply (.replaceAll (Script.split text) swap), 0, none⟩)
  | leaps (named : name = "awardFestivalPrize") (unnamed : a.get? 1 = none)
      (lost : Stage.festivalWinner α s.stage = false) (stand : t.stand = s.stand.advance 2)

/-- The command under the pointer is under way. -/
def underWay (s : Scene α σ) : Scene α σ := { s with dispatching := some s.pointer }

/-- No command is under way. -/
def atEase (s : Scene α σ) : Scene α σ := { s with dispatching := none }

/-- No command is under way, and the pointer is in the list or at its end. -/
structure Calm (s : Scene α σ) : Prop where
  dispatching : s.dispatching = none
  edits : s.edits = []
  pointer : s.pointer ≤ s.working.size

/-- What a command that was run leaves of a scene, apart from an `end` that ends it. -/
structure Turn (name : String) (a : Args) (s t : Scene α σ) : Prop where
  calm : t.Calm
  skipRequested : t.skipRequested = s.skipRequested
  outcome : t.outcome = s.outcome
  calls : s.calls <+: t.calls
  endings : t.endings = s.endings
  once : t.oneTimes ≤ s.oneTimes + 1
  silent : Held name a s.wait → t.oneTimes = s.oneTimes
  steers : Steers name a s t
  free : s.Free → t.Free ∨ Commands.Stops name a ∧ t.stand = s.stand

end Scene

/-! ### Edits -/

namespace Event

variable {α : Type}

/-- What edits of the list leave alone. -/
structure Frame (e d : Event α) : Prop where
  edits : d.edits = e.edits
  barrier : d.barrier = e.barrier
  continueAfterMove : d.flags.continueAfterMove = e.flags.continueAfterMove
  skipRequested : d.skipRequested = e.skipRequested
  outcome : d.outcome = e.outcome
  phase : d.phase = e.phase
  cast : d.cast = e.cast
  paths : d.paths = e.paths

lemma applyEdit_frame (e : Event α) (edit : Edit) : e.Frame (e.applyEdit edit) := by
  rcases edit with ⟨i, new⟩ | ⟨i, new⟩ | ⟨new, _ | _⟩
  · unfold applyEdit
    dsimp only
    split <;> exact ⟨rfl, rfl, rfl, rfl, rfl, rfl, rfl, rfl⟩
  all_goals exact ⟨rfl, rfl, rfl, rfl, rfl, rfl, rfl, rfl⟩

lemma foldl_applyEdit_frame (e : Event α) (edits : List Edit) :
    e.Frame (edits.foldl applyEdit e) := by
  induction edits generalizing e with
  | nil => exact ⟨rfl, rfl, rfl, rfl, rfl, rfl, rfl, rfl⟩
  | cons edit edits ih =>
    have h := applyEdit_frame e edit
    have h' := ih (e.applyEdit edit)
    exact ⟨h'.edits.trans h.edits, h'.barrier.trans h.barrier,
      h'.continueAfterMove.trans h.continueAfterMove, h'.skipRequested.trans h.skipRequested,
      h'.outcome.trans h.outcome, h'.phase.trans h.phase, h'.cast.trans h.cast,
      h'.paths.trans h.paths⟩

lemma applyEdits_frame (e : Event α) : { e with edits := [] }.Frame e.applyEdits := by
  have h := foldl_applyEdit_frame { e with edits := [] } e.edits
  exact ⟨h.edits, h.barrier, h.continueAfterMove, h.skipRequested, h.outcome, h.phase, h.cast,
    h.paths⟩

lemma pointer_applyEdits_le (e : Event α) : e.applyEdits.pointer ≤ e.applyEdits.working.size :=
  Nat.min_le_right _ _

lemma applyEdits_of_nil {e : Event α} (he : e.edits = []) (hp : e.pointer ≤ e.working.size) :
    e.applyEdits = e := by
  cases e
  simp_all [applyEdits]

end Event

namespace Scene

variable {α σ : Type}

lemma stand_applyEdits_of_nil {s : Scene α σ} (he : s.edits = [])
    (hp : s.pointer ≤ s.working.size) : (s.onEvent Event.applyEdits).stand = s.stand := by
  rw [onEvent, Event.applyEdits_of_nil he hp]

lemma stand_applyEdits_insertAfter {s : Scene α σ} {index : Nat} {commands : List String}
    (he : s.edits = [.insertAfter index commands]) (hi : s.pointer ≤ index + 1)
    (hp : s.pointer ≤ s.working.size) :
    (s.onEvent Event.applyEdits).stand =
      { s.stand with working := s.working.apply (.insertAfter index commands) } := by
  have hlen := Working.length_edited_insertAfter s.working.commands commands index
  have hmin : min s.pointer (s.working.apply (.insertAfter index commands)).size = s.pointer := by
    rw [Working.size, Working.apply_commands, hlen]
    exact Nat.min_eq_left (Nat.le_add_right_of_le hp)
  simp only [stand, onEvent, Event.applyEdits, he, List.foldl_cons, List.foldl_nil,
    Event.applyEdit, if_neg (Nat.not_lt.mpr hi), hmin]

lemma stand_applyEdits_replaceAt {s : Scene α σ} {index : Nat} {command : String}
    (he : s.edits = [.replaceAt index command]) (hp : s.pointer ≤ s.working.size) :
    (s.onEvent Event.applyEdits).stand =
      { s.stand with working := s.working.apply (.replaceAt index command) } := by
  have hmin : min s.pointer (s.working.apply (.replaceAt index command)).size = s.pointer := by
    refine Nat.min_eq_left (Nat.le_trans hp ?_)
    simp only [Working.size, Working.apply_commands, Working.edited]
    split <;> simp
  simp only [stand, onEvent, Event.applyEdits, he, List.foldl_cons, List.foldl_nil,
    Event.applyEdit, hmin]

lemma stand_applyEdits_replaceAll {s : Scene α σ} {commands : List String} {swap : Swap}
    (he : s.edits = [.replaceAll commands swap]) :
    (s.onEvent Event.applyEdits).stand =
      ⟨s.working.apply (.replaceAll commands swap), 0, none⟩ := by
  simp only [stand, onEvent, Event.applyEdits, he, List.foldl_cons, List.foldl_nil,
    Event.applyEdit, Nat.zero_min]

variable [Stage α σ] {name : String} {a : Args} {s r : Scene α σ}

lemma Goes.phase_eq (h : Goes name a s r) : r.phase = s.phase := by
  cases h <;> exact congrArg Helm.phase ‹r.helm = _›

lemma Goes.skipRequested_eq (h : Goes name a s r) : r.skipRequested = s.skipRequested := by
  cases h <;> exact congrArg Helm.skipRequested ‹r.helm = _›

lemma Goes.outcome_eq (h : Goes name a s r) : r.outcome = s.outcome := by
  cases h <;> exact congrArg Helm.outcome ‹r.helm = _›

section Edits

/-! A command that is under way has queued one edit at most. -/

variable {commands : List String} {command : String} {swap : Swap}

omit [Stage α σ] in
/-- Without an edit, the stand is the one that the command left. -/
lemma Calm.stand_of_nil (hs : s.Calm) {p : Stand α} (hstand : r.stand = p)
    (hp : p.pointer ≤ p.working.size) (hedits : r.edits = s.edits) :
    (r.onEvent Event.applyEdits).atEase.stand = p := by
  subst hstand
  exact stand_applyEdits_of_nil (hedits.trans hs.edits) hp

omit [Stage α σ] in
lemma Calm.edits_eq (hs : s.Calm) {edit : Edit} (hedits : r.edits = s.edits ++ [edit]) :
    r.edits = [edit] := by
  rw [hedits, hs.edits, List.nil_append]

omit [Stage α σ] in
lemma Calm.stand_of_insertAfter (hs : s.Calm)
    (helm : r.helm = { s.underWay.helm.advance 1 with
      edits := s.underWay.edits ++ [.insertAfter (s.underWay.advance 1).current commands] }) :
    (r.onEvent Event.applyEdits).atEase.stand = { s.stand.advance 1 with
      working := s.working.apply (.insertAfter s.pointer commands) } := by
  have hstand : r.stand = s.stand.advance 1 := congrArg Helm.toStand helm
  have hp : r.pointer = min (s.pointer + 1) s.working.size := congrArg Stand.pointer hstand
  have hw : r.working = s.working := congrArg Stand.working hstand
  refine (stand_applyEdits_insertAfter (hs.edits_eq (congrArg Helm.edits helm)) ?_ ?_).trans ?_
  · rw [hp]
    exact Nat.min_le_left _ _
  · rw [hp, hw]
    exact Nat.min_le_right _ _
  · rw [hstand, hw]
    rfl

omit [Stage α σ] in
lemma Calm.stand_of_replaceAt (hs : s.Calm)
    (helm : r.helm = { s.underWay.helm with
      edits := s.underWay.edits ++ [.replaceAt s.underWay.current command] }) :
    (r.onEvent Event.applyEdits).atEase.stand = { s.stand with
      working := s.working.apply (.replaceAt s.pointer command) } := by
  have hstand : r.stand = s.stand := congrArg Helm.toStand helm
  have hp : r.pointer = s.pointer := congrArg Stand.pointer hstand
  have hw : r.working = s.working := congrArg Stand.working hstand
  refine (stand_applyEdits_replaceAt (hs.edits_eq (congrArg Helm.edits helm)) ?_).trans ?_
  · rw [hp, hw]
    exact hs.pointer
  · rw [hstand, hw]
    rfl

omit [Stage α σ] in
lemma Calm.stand_of_replaceAll (hs : s.Calm)
    (helm : r.helm = { s.underWay.helm with
      edits := s.underWay.edits ++ [.replaceAll commands swap] }) :
    (r.onEvent Event.applyEdits).atEase.stand =
      ⟨s.working.apply (.replaceAll commands swap), 0, none⟩ := by
  have hw : r.working = s.working := congrArg (·.toStand.working) helm
  refine (stand_applyEdits_replaceAll (hs.edits_eq (congrArg Helm.edits helm))).trans ?_
  rw [hw]

end Edits

lemma Goes.steers (hs : s.Calm) (h : Goes name a s.underWay r) :
    Steers name a s (r.onEvent Event.applyEdits).atEase := by
  cases h with
  | holds w helm begun kept =>
    exact .holds w (hs.stand_of_nil (congrArg Helm.toStand helm) hs.pointer
      (congrArg Helm.edits helm)) begun kept
  | passes helm =>
    exact .passes (hs.stand_of_nil (congrArg Helm.toStand helm) (Nat.min_le_right _ _)
      (congrArg Helm.edits helm))
  | leaps named unnamed lost helm =>
    exact .leaps named unnamed lost (hs.stand_of_nil (congrArg Helm.toStand helm)
      (Nat.min_le_right _ _) (congrArg Helm.edits helm))
  | splices commands helm => exact .splices commands (hs.stand_of_insertAfter helm)
  | rewrites command helm => exact .rewrites command (hs.stand_of_replaceAt helm)
  | redirects named text swap helm =>
    exact .redirects named text swap (hs.stand_of_replaceAll helm)

/-- The command under the pointer, from its footprint to its turn. -/
lemma Footprint.turn (hs : s.Calm) (f : Footprint name a s.underWay r) :
    Turn name a s (r.onEvent Event.applyEdits).atEase := by
  have hframe := r.applyEdits_frame
  have hfree : s.Free → (r.onEvent Event.applyEdits).atEase.Free ∨ Commands.Stops name a ∧
      (r.onEvent Event.applyEdits).atEase.stand = s.stand := by
    intro hs'
    rcases f.free hs' with hr | ⟨hstops, hhelm⟩
    · exact .inl (hr.of_eq hframe.barrier hframe.continueAfterMove)
    · have hedits : r.edits = [] := (congrArg Helm.edits hhelm).trans hs.edits
      have hstand : r.stand = s.stand := congrArg Helm.toStand hhelm
      have hp : r.stand.pointer ≤ r.stand.working.size := by
        rw [hstand]
        exact hs.pointer
      exact .inr ⟨hstops, (stand_applyEdits_of_nil hedits hp).trans hstand⟩
  exact
    { calm := ⟨rfl, hframe.edits, r.pointer_applyEdits_le⟩
      skipRequested := hframe.skipRequested.trans f.goes.skipRequested_eq
      outcome := hframe.outcome.trans f.goes.outcome_eq
      calls := f.calls
      endings := f.endings
      once := f.once
      silent := f.silent
      steers := f.goes.steers hs
      free := hfree }

/-! ### The command under the pointer -/

lemma Turn.passes (hs : s.Calm) {u : Scene α σ} (hu : s.Quiet u) :
    Turn name a s (u.advance 1) where
  calm := ⟨hu.dispatching.trans hs.dispatching, hu.edits.trans hs.edits, Nat.min_le_right _ _⟩
  skipRequested := hu.skipRequested
  outcome := hu.outcome
  calls := hu.calls
  endings := hu.endings
  once := Nat.le_succ_of_le (Nat.le_of_eq hu.oneTimes)
  silent := fun _ => hu.oneTimes
  steers := .passes (congrArg (Stand.advance · 1) hu.stand)
  free := fun hf => .inl (hu.free hf)

omit [Stage α σ] in
lemma Quiet.atEase (hs : s.Calm) {u : Scene α σ} (hu : s.underWay.Quiet u) :
    s.Quiet u.atEase where
  helm := by
    have hidle : u.atEase.helm = { s.underWay.helm with dispatching := s.dispatching } := by
      rw [hs.dispatching, ← hu.helm]
      rfl
    exact hidle
  calls := hu.calls
  endings := hu.endings
  oneTimes := hu.oneTimes
  free := hu.free

lemma finish_frame (u : Scene α σ) (ending : Ending) :
    (u.finish ending).edits = u.edits ∧ (u.finish ending).pointer = u.pointer ∧
      (u.finish ending).working = u.working := by
  unfold finish
  split <;> exact ⟨rfl, rfl, rfl⟩

lemma atEase_finish (u : Scene α σ) (ending : Ending) :
    (u.finish ending).atEase = u.atEase.finish ending := by
  have hover : u.atEase.isTerminal = u.isTerminal := rfl
  unfold finish
  rw [hover]
  split <;> rfl

/-- The command that is over the event leaves it without edits. -/
lemma applyEdits_finish (hs : s.Calm) {u : Scene α σ} (hu : s.underWay.Quiet u)
    (ending : Ending) : (u.finish ending).onEvent Event.applyEdits = u.finish ending := by
  obtain ⟨hedits, hp, hw⟩ := finish_frame u ending
  rw [onEvent, Event.applyEdits_of_nil]
  · rw [hedits, hu.edits]
    exact hs.edits
  · rw [hp, hw, hu.pointer, hu.working]
    exact hs.pointer

lemma runCommand_eq (table : CommandTable (Handler α σ)) (s : Scene α σ) (raw : String) :
    runCommand table s s.pointer raw =
      match Script.tokens? raw with
      | none => (s.underWay.passOver (.malformed (.unclosedQuote raw))).atEase
      | some [] => (s.underWay.advance 1).atEase
      | some (name :: args) =>
        match table.resolve? name with
        | none =>
          ((s.underWay.report .unknownCommand (.unknownCommand name)).advance 1).atEase
        | some (_, handler) =>
          let reply := handler ⟨name :: args⟩ s.underWay
          match reply.fault with
          | none => (reply.scene.onEvent Event.applyEdits).atEase
          | some fault =>
            (reply.scene.onEvent Event.applyEdits).atEase.abort s.pointer raw fault := rfl

section Run

variable {table : CommandTable (Handler α σ)} {raw name : String} {args : List String}

lemma runCommand_unreadable (htokens : Script.tokens? raw = none) :
    runCommand table s s.pointer raw =
      (s.underWay.passOver (.malformed (.unclosedQuote raw))).atEase := by
  rw [runCommand_eq, htokens]

lemma runCommand_unknown (htokens : Script.tokens? raw = some (name :: args))
    (hname : table.resolve? name = none) :
    runCommand table s s.pointer raw =
      ((s.underWay.report .unknownCommand (.unknownCommand name)).advance 1).atEase := by
  rw [runCommand_eq, htokens]
  dsimp only
  rw [hname]

/-- The edits that a known command has queued are made, unless it gives up. -/
lemma runCommand_known {m : String × Handler α σ}
    (htokens : Script.tokens? raw = some (name :: args)) (hname : table.resolve? name = some m)
    (hfault : (m.2 ⟨name :: args⟩ s.underWay).fault = none) :
    runCommand table s s.pointer raw =
      ((m.2 ⟨name :: args⟩ s.underWay).scene.onEvent Event.applyEdits).atEase := by
  rw [runCommand_eq, htokens]
  dsimp only
  rw [hname]
  dsimp only
  rw [hfault]

/-- A text that calls a command by its name is run by the handler of this name. -/
lemma runCommand_of_name {command : String} {handler : Handler α σ}
    (htable : ∀ name h, table.resolve? name = some (command, h) → h = handler)
    (hfault : ∀ a s, (handler a s).fault = none) (hne : command ≠ "")
    (hname : (table.commandOf raw).1 = command) :
    runCommand table s s.pointer raw =
      ((handler (table.commandOf raw).2 s.underWay).scene.onEvent Event.applyEdits).atEase := by
  obtain ⟨name, args, h, htokens, hresolve, hargs⟩ :=
    CommandTable.resolve?_of_commandOf (by rwa [hname])
  rw [hname] at hresolve
  obtain rfl := htable name h hresolve
  rw [hargs, runCommand_known htokens hresolve (hfault _ _)]

end Run

/-- The command under the pointer takes its turn, or it is over the event. -/
theorem runCommand_cases {table : CommandTable (Handler α σ)} (ht : Commands.IsLawful table)
    (hs : s.Calm) (raw : String) :
    (Turn (table.commandOf raw).1 (table.commandOf raw).2 s (runCommand table s s.pointer raw) ∧
      (runCommand table s s.pointer raw).phase = s.phase) ∨
    ∃ u ending, s.Quiet u ∧ runCommand table s s.pointer raw = u.finish ending := by
  have hpass : ∀ {name : String} {a : Args} {t u : Scene α σ}, s.underWay.Quiet u →
      t = (u.advance 1).atEase → Turn name a s t ∧ t.phase = s.phase := by
    rintro name a t u hu rfl
    exact ⟨.passes hs (hu.atEase hs), hu.phase⟩
  rw [runCommand_eq]
  unfold CommandTable.commandOf
  rcases Script.tokens? raw with _ | _ | ⟨name, args⟩
  · exact .inl (hpass ((Quiet.refl s.underWay).note _) rfl)
  · exact .inl (hpass (.refl s.underWay) rfl)
  · dsimp only
    rcases hr : table.resolve? name with _ | ⟨name', handler⟩
    · refine .inl (hpass (u := s.underWay.report .unknownCommand _) (.of_eq rfl rfl id) rfl)
    · dsimp only
      rcases ht _ _ hr ⟨name :: args⟩ s.underWay with ⟨hfault, hprint⟩ | ⟨u, ending, hu, heq⟩
      · dsimp only at hfault hprint
        rw [hfault]
        exact .inl ⟨hprint.turn hs, (Event.applyEdits_frame _).phase.trans hprint.goes.phase_eq⟩
      · dsimp only at heq
        rw [heq]
        refine .inr ⟨u.atEase, ending, hu.atEase hs, ?_⟩
        rw [← atEase_finish]
        exact congrArg Scene.atEase (applyEdits_finish hs hu ending)

end Scene

end Cutscene
