import Cutscene.Proofs.Run.Cases

/-!
# Laws of Runs

A law speaks of scenes: an ending, an opening and a round that goes on keep it. Then every tick
keeps it (`Scene.Law.keptByTick`), and a run does if the surroundings keep it as well
(`Scene.Law.Lasting.kept`). What is to be said of the rounds of a run is proved along passages, in
which rounds and intervals follow each other as they come (`Scene.play_passage`).
-/

namespace Cutscene

variable {α σ : Type} [Scalar α] [Stage α σ]

namespace Scene

variable {s t : Scene α σ}

/-! ### Rest and work -/

omit [Scalar α] in
lemma Ends.atRest {o : Outcome} (hs : s.AtRest) (h : s.Ends t o) : t.AtRest where
  toCalm := h.calm hs.toCalm
  fresh hfresh := by
    rw [h.phase] at hfresh
    cases o <;> cases hfresh

omit [Scalar α] [Stage α σ] in
lemma Opening.atRest {more : Bool} (h : Opening s t more) : t.AtRest where
  toCalm := h.calm
  fresh hfresh := absurd hfresh (ne_uninitialized_of_phase h.phase)

omit [Scalar α] [Stage α σ] in
lemma Opening.atWork (h : Opening s t true) : t.AtWork where
  toCalm := h.calm
  phase := h.phase
  skipRequested := h.skipRequested
  free := by
    cases h.opened with
    | stays stand free goes => exact goes rfl
    | reads fresh n len stand free => exact free
    | lands held stop => cases stop

omit [Scalar α] [Stage α σ] in
lemma AtWork.atRest (h : s.AtWork) : s.AtRest where
  toCalm := h.toCalm
  fresh hfresh := absurd hfresh (ne_uninitialized_of_phase h.phase)

lemma Onward.atRest {more : Bool} (h : Onward s t more) : t.AtRest where
  toCalm := h.turn.calm
  fresh hfresh := absurd hfresh (ne_uninitialized_of_phase h.phase)

lemma Onward.atWork (hs : s.AtWork) (h : Onward s t true) : t.AtWork where
  toCalm := h.turn.calm
  phase := h.phase
  skipRequested := h.turn.skipRequested.trans hs.skipRequested
  free := by
    rcases h.turn.free hs.free with hfree | ⟨-, hstand⟩
    · exact hfree
    · exact absurd (congrArg Stand.mark hstand) (h.moved rfl)

/-! ### Moves between the ticks -/

/-- The event is the same apart from a request to skip, and no call or report was made. -/
structure Untouched (s t : Scene α σ) : Prop where
  event : t.toEvent = { s.toEvent with skipRequested := t.skipRequested }
  calls : t.calls = s.calls
  reports : t.reports = s.reports

omit [Scalar α] [Stage α σ] in
lemma Untouched.refl (s : Scene α σ) : s.Untouched s := ⟨rfl, rfl, rfl⟩

omit [Scalar α] [Stage α σ] in
lemma Untouched.trans {u : Scene α σ} (h : s.Untouched t) (h' : t.Untouched u) :
    s.Untouched u where
  event := by rw [h'.event, h.event]
  calls := h'.calls.trans h.calls
  reports := h'.reports.trans h.reports

omit [Scalar α] [Stage α σ] in
lemma Untouched.stand (h : s.Untouched t) : t.stand = s.stand := by
  rw [Scene.stand, h.event]
  rfl

omit [Scalar α] [Stage α σ] in
lemma Untouched.phase (h : s.Untouched t) : t.phase = s.phase := by rw [h.event]

omit [Scalar α] [Stage α σ] in
lemma Untouched.isTerminal (h : s.Untouched t) : t.isTerminal = s.isTerminal := by
  unfold Event.isTerminal
  rw [h.phase]

/-- Between the ticks an event may be skipped or finished, and is left alone otherwise. -/
lemma apply_of_ne_tick (hs : s.Calm) {move : HostMove α σ} (hmove : move ≠ .tick)
    (table : CommandTable (Handler α σ)) : move.rounds table s = [] ∧
      (s.Untouched (move.apply table s) ∨
        s.isTerminal = false ∧ ∃ o, s.Ends (move.apply table s) o ∧
          (o.phase = .skipped ∨ ∃ ending, move = .finish ending)) := by
  cases hover : s.isTerminal with
  | true =>
    cases move with
    | tick => exact absurd rfl hmove
    | skip =>
      rw [HostMove.apply, skip_of_isTerminal hover]
      exact ⟨rfl, .inl (.refl s)⟩
    | requestSkip => exact ⟨rfl, .inl ⟨rfl, rfl, rfl⟩⟩
    | finish ending =>
      rw [HostMove.apply, finish_of_isTerminal hover]
      exact ⟨rfl, .inl (.refl s)⟩
    | surround stage library elapsed => exact ⟨rfl, .inl ⟨rfl, rfl, rfl⟩⟩
  | false =>
    cases move with
    | tick => exact absurd rfl hmove
    | skip =>
      obtain ⟨o, hphase, ho⟩ := skip_ends hs hover
      exact ⟨rfl, .inr ⟨rfl, o, ho, .inl hphase⟩⟩
    | requestSkip => exact ⟨rfl, .inl ⟨rfl, rfl, rfl⟩⟩
    | finish ending => exact ⟨rfl, .inr ⟨rfl, _, finish_ends hover ending, .inr ⟨ending, rfl⟩⟩⟩
    | surround stage library elapsed => exact ⟨rfl, .inl ⟨rfl, rfl, rfl⟩⟩

/-! ### Laws -/

/-- What an ending, an opening and a round keep. -/
structure Law (law : Scene α σ → Prop) : Prop where
  ends : ∀ {s t : Scene α σ} {o : Outcome}, s.AtRest → s.isTerminal = false → law s →
    s.Ends t o → law t
  opening : ∀ {s t : Scene α σ} {more : Bool}, s.AtRest → s.isTerminal = false → law s →
    Opening s t more → law t
  onward : ∀ {s t : Scene α σ} {more : Bool}, s.AtWork → law s → Onward s t more → law t

/-- What the surroundings keep too. -/
structure Law.Lasting (law : Scene α σ → Prop) : Prop extends Law law where
  requestSkip : ∀ s : Scene α σ, law s → law (s.onEvent Event.requestSkip)
  surround : ∀ (s : Scene α σ) stage library elapsed, law s →
    law { s with stage := stage, library := library, elapsed := elapsed }

variable {law : Scene α σ → Prop}

theorem Law.keptByTick (l : Law law) : KeptByTick Commands.table
    (fun s => s.AtRest ∧ law s) (fun s => s.AtWork ∧ law s) where
  rest_of_ready := fun s ⟨hs, h⟩ => ⟨hs.atRest, h⟩
  overture_rest := by
    rintro s ⟨hs, h⟩ -
    rcases overture_cases hs with ⟨-, heq⟩ | ⟨hgoes, -, o, -, ho⟩ | ⟨hgoes, -, ho⟩
    · rw [heq]
      exact ⟨hs, h⟩
    · exact ⟨ho.atRest hs, l.ends hs hgoes h ho⟩
    · exact ⟨ho.atRest, l.opening hs hgoes h ho⟩
  overture_ready := by
    rintro s ⟨hs, h⟩ hmore
    rcases overture_cases hs with ⟨-, heq⟩ | ⟨-, hstop, -⟩ | ⟨hgoes, -, ho⟩
    · rw [heq] at hmore
      cases hmore
    · rw [hstop] at hmore
      cases hmore
    · rw [hmore] at ho
      exact ⟨ho.atWork, l.opening hs hgoes h ho⟩
  round_rest := by
    rintro s ⟨hs, h⟩ -
    rcases round_cases hs with ⟨-, o, ho⟩ | ho
    · exact ⟨ho.atRest hs.atRest, l.ends hs.atRest hs.isTerminal h ho⟩
    · exact ⟨ho.atRest, l.onward hs h ho⟩
  round_ready := by
    rintro s ⟨hs, h⟩ hmore
    rcases round_cases hs with ⟨hstop, -⟩ | ho
    · rw [hstop] at hmore
      cases hmore
    · rw [hmore] at ho
      exact ⟨ho.atWork hs, l.onward hs h ho⟩

lemma Law.skip (l : Law law) (hs : s.AtRest) (h : law s) : law s.skip := by
  cases hover : s.isTerminal with
  | true => rwa [skip_of_isTerminal hover]
  | false =>
    obtain ⟨o, -, ho⟩ := skip_ends hs.toCalm hover
    exact l.ends hs hover h ho

lemma Law.finish (l : Law law) (hs : s.AtRest) (h : law s) (ending : Ending) :
    law (s.finish ending) := by
  cases hover : s.isTerminal with
  | true => rwa [finish_of_isTerminal hover]
  | false => exact l.ends hs hover h (finish_ends hover ending)

lemma atRest_law : Law (AtRest : Scene α σ → Prop) :=
  ⟨fun hs _ _ h => h.atRest hs, fun _ _ _ h => h.atRest, fun _ _ h => h.atRest⟩

theorem Law.Lasting.kept (l : Law.Lasting law) : Kept Commands.table
    (fun s => s.AtRest ∧ law s) (fun s => s.AtWork ∧ law s) where
  toKeptByTick := l.toLaw.keptByTick
  skip := fun _ ⟨hs, h⟩ => ⟨atRest_law.skip hs hs, l.skip hs h⟩
  requestSkip := fun _ ⟨hs, h⟩ =>
    ⟨⟨⟨hs.dispatching, hs.edits, hs.pointer⟩, hs.fresh⟩, l.requestSkip _ h⟩
  finish := fun _ ending ⟨hs, h⟩ => ⟨atRest_law.finish hs hs ending, l.finish hs h ending⟩
  surround := fun _ stage library elapsed ⟨hs, h⟩ =>
    ⟨⟨⟨hs.dispatching, hs.edits, hs.pointer⟩, hs.fresh⟩, l.surround _ stage library elapsed h⟩

lemma atRest_lasting : Law.Lasting (AtRest : Scene α σ → Prop) where
  toLaw := atRest_law
  requestSkip := fun _ hs => ⟨⟨hs.dispatching, hs.edits, hs.pointer⟩, hs.fresh⟩
  surround := fun _ _ _ _ hs => ⟨⟨hs.dispatching, hs.edits, hs.pointer⟩, hs.fresh⟩

/-- What every overture, every round and every other move keep. -/
structure Habit (law : Scene α σ → Prop) : Prop where
  overture : ∀ s : Scene α σ, s.AtRest → law s → law s.overture.1
  round : ∀ s : Scene α σ, s.AtWork → law s → law (s.round Commands.table).1
  skip : ∀ s : Scene α σ, s.AtRest → law s → law s.skip
  finish : ∀ (s : Scene α σ) ending, s.AtRest → law s → law (s.finish ending)
  requestSkip : ∀ s : Scene α σ, law s → law (s.onEvent Event.requestSkip)
  surround : ∀ (s : Scene α σ) stage library elapsed, law s →
    law { s with stage := stage, library := library, elapsed := elapsed }

theorem Habit.kept (l : Habit law) : Kept Commands.table
    (fun s => s.AtRest ∧ law s) (fun s => s.AtWork ∧ law s) :=
  have k := atRest_lasting.kept (α := α) (σ := σ)
  { rest_of_ready := fun _ ⟨hs, h⟩ => ⟨hs.atRest, h⟩
    overture_rest := fun s ⟨hs, h⟩ hstop =>
      ⟨(k.overture_rest s ⟨hs, hs⟩ hstop).1, l.overture s hs h⟩
    overture_ready := fun s ⟨hs, h⟩ hmore =>
      ⟨(k.overture_ready s ⟨hs, hs⟩ hmore).1, l.overture s hs h⟩
    round_rest := fun s ⟨hs, h⟩ hstop =>
      ⟨(k.round_rest s ⟨hs, hs.atRest⟩ hstop).1, l.round s hs h⟩
    round_ready := fun s ⟨hs, h⟩ hmore =>
      ⟨(k.round_ready s ⟨hs, hs.atRest⟩ hmore).1, l.round s hs h⟩
    skip := fun s ⟨hs, h⟩ => ⟨(k.skip s ⟨hs, hs⟩).1, l.skip s hs h⟩
    requestSkip := fun s ⟨hs, h⟩ => ⟨(k.requestSkip s ⟨hs, hs⟩).1, l.requestSkip s h⟩
    finish := fun s ending ⟨hs, h⟩ => ⟨(k.finish s ending ⟨hs, hs⟩).1, l.finish s ending hs h⟩
    surround := fun s stage library elapsed ⟨hs, h⟩ =>
      ⟨(k.surround s stage library elapsed ⟨hs, hs⟩).1, l.surround s stage library elapsed h⟩ }

lemma AtWork.next (hs : s.AtWork) (hmore : (s.round Commands.table).2 = true) :
    (s.round Commands.table).1.AtWork :=
  (atRest_law.keptByTick.round_ready s ⟨hs, hs.atRest⟩ hmore).1

lemma AtRest.work (hs : s.AtRest) (hmore : s.overture.2 = true) : s.overture.1.AtWork :=
  (atRest_law.keptByTick.overture_ready s ⟨hs, hs⟩ hmore).1

lemma AtRest.apply (hs : s.AtRest) (move : HostMove α σ) :
    (move.apply Commands.table s).AtRest :=
  (atRest_lasting.kept.apply ⟨hs, hs⟩ move).1.1

theorem atRest_play (hs : s.AtRest) (moves : List (HostMove α σ)) :
    (s.play Commands.table moves).AtRest :=
  (atRest_lasting.kept.play ⟨hs, hs⟩ moves).1

/-! ### Laws that look back -/

/-- Each of the scenes keeps to a law of the scene and of all that come before it. -/
def Recounted (law : List (Scene α σ) → Scene α σ → Prop) :
    List (Scene α σ) → List (Scene α σ) → Prop
  | _, [] => True
  | past, d :: later => law past d ∧ Recounted law (past ++ [d]) later

section Recounted

variable {law : List (Scene α σ) → Scene α σ → Prop} {past earlier later : List (Scene α σ)}

omit [Scalar α] [Stage α σ] in
lemma Recounted.append (h : Recounted law past earlier)
    (h' : Recounted law (past ++ earlier) later) : Recounted law past (earlier ++ later) := by
  induction earlier generalizing past with
  | nil => simpa using h'
  | cons d earlier ih => exact ⟨h.1, ih h.2 (by simpa using h')⟩

omit [Scalar α] [Stage α σ] in
lemma Recounted.at (h : Recounted law past (earlier ++ s :: later)) : law (past ++ earlier) s := by
  induction earlier generalizing past with
  | nil => simpa using h.1
  | cons d earlier ih => simpa using ih h.2

end Recounted

/-- What overtures, rounds and other moves keep of a scene and of the rounds before it. -/
structure Chronicle (law : List (Scene α σ) → Scene α σ → Prop) : Prop where
  overture : ∀ {past} {s : Scene α σ}, s.AtRest → law past s → law past s.overture.1
  round : ∀ {past} {s : Scene α σ}, s.AtWork → law past s →
    law (past ++ [s]) (s.round Commands.table).1
  move : ∀ {past} {s : Scene α σ} (move : HostMove α σ), move ≠ .tick → s.AtRest → law past s →
    law past (move.apply Commands.table s)

namespace Chronicle

variable {law : List (Scene α σ) → Scene α σ → Prop} {past : List (Scene α σ)}

lemma dispatch (c : Chronicle law) (hs : s.AtWork) (h : law past s) (fuel : Nat) :
    law (past ++ s.roundsFrom Commands.table fuel) (s.dispatch Commands.table fuel) ∧
      Recounted law past (s.roundsFrom Commands.table fuel) := by
  induction fuel generalizing s past with
  | zero => exact ⟨by simpa [roundsFrom, Scene.dispatch] using h, trivial⟩
  | succ fuel ih =>
    have hround := c.round hs h
    rw [dispatch_succ, roundsFrom]
    cases hmore : (s.round Commands.table).2 with
    | false => exact ⟨hround, h, trivial⟩
    | true =>
      obtain ⟨hlast, hlater⟩ := ih (hs.next hmore) hround
      exact ⟨by simpa using hlast, h, hlater⟩

lemma apply (c : Chronicle law) (hs : s.AtRest) (h : law past s) (move : HostMove α σ) :
    law (past ++ move.rounds Commands.table s) (move.apply Commands.table s) ∧
      Recounted law past (move.rounds Commands.table s) := by
  by_cases htick : move = .tick
  · subst htick
    have hopen := c.overture hs h
    rw [HostMove.rounds, HostMove.apply, tick_eq, tickRounds]
    cases hmore : s.overture.2 with
    | false => exact ⟨by simpa using hopen, trivial⟩
    | true => exact c.dispatch (hs.work hmore) hopen dispatchLimit
  · rw [(apply_of_ne_tick hs.toCalm htick Commands.table).1]
    exact ⟨by simpa using c.move move htick hs h, trivial⟩

/-- A law that looks back holds before every round of a run and at its end. -/
theorem play (c : Chronicle law) (hs : s.AtRest) (h : law past s) (moves : List (HostMove α σ)) :
    law (past ++ s.rounds Commands.table moves) (s.play Commands.table moves) ∧
      Recounted law past (s.rounds Commands.table moves) := by
  induction moves generalizing s past with
  | nil => exact ⟨by simpa [rounds] using h, trivial⟩
  | cons move rest ih =>
    obtain ⟨hnext, hfirst⟩ := c.apply hs h move
    obtain ⟨hlast, hlater⟩ := ih (hs.apply move) hnext
    rw [rounds, play_cons, ← List.append_assoc]
    exact ⟨hlast, hfirst.append hlater⟩

end Chronicle

/-! ### Passages -/

/-- What comes to pass where no round does: in an overture, or in a move other than a tick. -/
inductive Interval (s t : Scene α σ) : Prop
  | untouched (same : s.Untouched t)
  | ends (goes : s.isTerminal = false) (o : Outcome) (ends : s.Ends t o)
  | opens (goes : s.isTerminal = false) (more : Bool) (opening : Opening s t more)

lemma overture_interval (hs : s.AtRest) : s.Interval s.overture.1 := by
  rcases overture_cases hs with ⟨-, heq⟩ | ⟨hgoes, -, o, -, ho⟩ | ⟨hgoes, -, ho⟩
  · rw [heq]
    exact .untouched (.refl s)
  · exact .ends hgoes o ho
  · exact .opens hgoes _ ho

lemma apply_interval (hs : s.AtRest) {move : HostMove α σ} (hmove : move ≠ .tick) :
    s.Interval (move.apply Commands.table s) := by
  rcases (apply_of_ne_tick hs.toCalm hmove Commands.table).2 with hsame | ⟨hgoes, o, ho, -⟩
  · exact .untouched hsame
  · exact .ends hgoes o ho

/-- A passage from scene to scene, and the scenes from which its rounds start. -/
inductive Passage : Scene α σ → List (Scene α σ) → Scene α σ → Prop
  | stays (s : Scene α σ) : Passage s [] s
  | pauses {s t u : Scene α σ} {scenes : List (Scene α σ)} (rest : s.AtRest)
      (interval : s.Interval t) (later : Passage t scenes u) : Passage s scenes u
  | rounds {s u : Scene α σ} {scenes : List (Scene α σ)} (work : s.AtWork)
      (later : Passage (s.round Commands.table).1 scenes u) : Passage s (s :: scenes) u

lemma Passage.append {u : Scene α σ} {scenes scenes' : List (Scene α σ)}
    (h : Passage s scenes t) (h' : Passage t scenes' u) : Passage s (scenes ++ scenes') u := by
  induction h with
  | stays => exact h'
  | pauses rest interval _ ih => exact .pauses rest interval (ih h')
  | rounds work _ ih => exact .rounds work (ih h')

lemma dispatch_passage (hs : s.AtWork) (fuel : Nat) :
    Passage s (s.roundsFrom Commands.table fuel) (s.dispatch Commands.table fuel) := by
  induction fuel generalizing s with
  | zero => exact .stays s
  | succ fuel ih =>
    rw [dispatch_succ, roundsFrom]
    cases hmore : (s.round Commands.table).2 with
    | false => exact .rounds hs (.stays _)
    | true => exact .rounds hs (ih (hs.next hmore))

lemma apply_passage (hs : s.AtRest) (move : HostMove α σ) :
    Passage s (move.rounds Commands.table s) (move.apply Commands.table s) := by
  by_cases htick : move = .tick
  · subst htick
    rw [HostMove.rounds, HostMove.apply, tick_eq, tickRounds]
    have hopen := overture_interval hs
    cases hmore : s.overture.2 with
    | false => exact .pauses hs hopen (.stays _)
    | true => exact .pauses hs hopen (dispatch_passage (hs.work hmore) dispatchLimit)
  · rw [(apply_of_ne_tick hs.toCalm htick Commands.table).1]
    exact .pauses hs (apply_interval hs htick) (.stays _)

/-- Every run is a passage through its rounds. -/
theorem play_passage (hs : s.AtRest) (moves : List (HostMove α σ)) :
    Passage s (s.rounds Commands.table moves) (s.play Commands.table moves) := by
  induction moves generalizing s with
  | nil => exact .stays s
  | cons move rest ih => exact (apply_passage hs move).append (ih (hs.apply move))

end Scene

omit [Scalar α] [Stage α σ] in
lemma Premiere.atRest (p : Premiere α σ) : p.scene.AtRest :=
  ⟨⟨rfl, rfl, Nat.zero_le _⟩, fun _ => ⟨rfl, rfl⟩⟩

end Cutscene
