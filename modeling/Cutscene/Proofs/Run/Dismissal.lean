import Cutscene.Proofs.Run.Arrival
import Cutscene.Proofs.Run.Release
import Cutscene.Proofs.Troupe.Bound
import Mathlib.Algebra.Order.BigOperators.Group.List

/-!
# Taking Those on the Way off the Stage

The host may take actors off the stage while a move holds the script. If others are still on the
way then, the barrier does not care: the last of them lands, the pointer goes past the move, and
those who are left stand where they were sent. But taking off the very last closes the barrier
behind the back of the script, and the move is dispatched once more.
-/

namespace Cutscene

open Commands

variable {α σ : Type} [Scalar α] [Stage α σ]

/-- What befalls an event: a move of its host, or somebody is taken off the stage. -/
inductive Incident (α σ : Type) where
  | host (move : HostMove α σ)
  | dismiss (h : Handle)

namespace Incident

def apply (table : CommandTable (Handler α σ)) (s : Scene α σ) : Incident α σ → Scene α σ
  | .host move => move.apply table s
  | .dismiss h => s.onEvent (·.removeActor h)

def rounds (table : CommandTable (Handler α σ)) (s : Scene α σ) :
    Incident α σ → List (Scene α σ)
  | .host move => move.rounds table s
  | .dismiss _ => []

/-- A tick goes by. -/
def isTick : Incident α σ → Bool
  | .host move => move.isTick
  | .dismiss _ => false

/-- Those who are taken off. -/
def gone : Incident α σ → List Handle
  | .host _ => []
  | .dismiss h => [h]

end Incident

namespace Scene

/-- The scene after some incidents. -/
def undergo (table : CommandTable (Handler α σ)) (s : Scene α σ)
    (incidents : List (Incident α σ)) : Scene α σ :=
  incidents.foldl (Incident.apply table) s

/-- The scenes from which rounds start among some incidents. -/
def roundsAmid (table : CommandTable (Handler α σ)) (s : Scene α σ) :
    List (Incident α σ) → List (Scene α σ)
  | [] => []
  | incident :: rest => incident.rounds table s ++ (incident.apply table s).roundsAmid table rest

variable {s t d : Scene α σ}

/-! ### What incidents keep -/

omit [Scalar α] [Stage α σ] in
lemma dismiss_closes (hs : s.barrier.isClosed) (h : Handle) :
    (s.onEvent (·.removeActor h)).barrier.isClosed := by
  have hpending : s.barrier.pending = [] := by simpa [Barrier.isClosed] using hs
  have hfilter : (s.barrier.remove h).pending = [] := by simp [Barrier.remove, hpending]
  simpa [Barrier.isClosed, Event.removeActor] using hfilter

omit [Scalar α] [Stage α σ] in
lemma dismiss_free (hs : s.Free) (h : Handle) : (s.onEvent (·.removeActor h)).Free :=
  hs.imp (fun hclosed => dismiss_closes hclosed h) id

lemma AtRest.incident (hs : s.AtRest) (incident : Incident α σ) :
    (incident.apply table s).AtRest := by
  cases incident with
  | host move => exact hs.apply move
  | dismiss h =>
    exact ⟨⟨hs.dispatching, hs.edits, hs.pointer⟩,
      fun hfresh => ⟨(hs.fresh hfresh).1, dismiss_closes (hs.fresh hfresh).2 h⟩⟩

/-- Those who are taken off leave as by a command. -/
lemma Ruled.incident {rule : Settings α → Troupe α → Prop} (r : Troupe.Rule rule) (hrest : s.AtRest)
    (hs : s.Ruled rule) (incident : Incident α σ) : (incident.apply table s).Ruled rule := by
  cases incident with
  | host move => exact ((Ruled.habit r).kept.apply ⟨hrest, hs⟩ move).1.2
  | dismiss h =>
    have hact : Troupe.Act s.settings "removeActor" s.troupe (s.troupe.without h) := .leaves rfl h
    refine ⟨fun hfresh => ?_, r.act hs.rule hact⟩
    obtain ⟨hidle, hpathless⟩ := hs.unopened hfresh
    exact ⟨congrArg (Barrier.remove · h) hidle, congrArg (List.filter _) hpathless⟩

lemma Ruled.undergo {rule : Settings α → Troupe α → Prop} (r : Troupe.Rule rule)
    (hrest : s.AtRest) (hs : s.Ruled rule) (incidents : List (Incident α σ)) :
    (s.undergo table incidents).Ruled rule := by
  induction incidents generalizing s with
  | nil => exact hs
  | cons incident rest ih => exact ih (hrest.incident incident) (hs.incident r hrest incident)

lemma Cleared.incident (hrest : s.AtRest) (hs : s.Cleared) (incident : Incident α σ) :
    (incident.apply table s).Cleared := by
  cases incident with
  | host move => exact (cleared_habit.kept.apply ⟨hrest, hs⟩ move).1.2
  | dismiss h => exact fun hover => dismiss_closes (hs hover) h

/-- What every scene that an event comes to is like. -/
structure Regular (s : Scene α σ) : Prop where
  rest : s.AtRest
  ruled : s.Ruled fun _ T => T.Sound
  cleared : s.Cleared

lemma Regular.incident (hs : s.Regular) (incident : Incident α σ) :
    (incident.apply table s).Regular :=
  ⟨hs.rest.incident incident, hs.ruled.incident Troupe.sound_rule hs.rest incident,
    hs.cleared.incident hs.rest incident⟩

lemma Regular.undergo (hs : s.Regular) (incidents : List (Incident α σ)) :
    (s.undergo table incidents).Regular := by
  induction incidents generalizing s with
  | nil => exact hs
  | cons incident rest ih => exact ih (hs.incident incident)

omit [Scalar α] [Stage α σ] in
lemma Regular.awaits (hs : s.Regular) (hheld : ¬ s.Free) : s.Awaits where
  rest := hs.rest
  goes := by
    by_contra hover
    exact hheld (.inl (hs.cleared (by simpa using hover)))
  held := hheld

lemma incident_isTerminal (hs : s.isTerminal = true) (incident : Incident α σ) :
    (incident.apply table s).isTerminal = true ∧ incident.rounds table s = [] := by
  cases incident with
  | host move =>
    obtain ⟨hsame, hnone, -⟩ : s.Untouched (move.apply table s) ∧ _ := apply_of_isTerminal hs move
    exact ⟨hsame.isTerminal.trans hs, hnone⟩
  | dismiss h => exact ⟨hs, rfl⟩

lemma roundsAmid_of_isTerminal (hs : s.isTerminal = true) (incidents : List (Incident α σ)) :
    s.roundsAmid table incidents = [] := by
  induction incidents generalizing s with
  | nil => rfl
  | cons incident rest ih =>
    obtain ⟨hover, hnone⟩ := incident_isTerminal hs incident
    rw [roundsAmid, hnone, ih hover]
    rfl

/-- The marks of later rounds lie no lower. -/
lemma mark_le_roundsAmid (hs : s.AtRest) (incidents : List (Incident α σ)) :
    ∀ e ∈ s.roundsAmid table incidents, s.mark ≤ e.mark := by
  induction incidents generalizing s with
  | nil => simp [roundsAmid]
  | cons incident rest ih =>
    have hstep : (∀ e ∈ incident.rounds table s, s.mark ≤ e.mark) ∧
        s.mark ≤ (incident.apply table s).mark := by
      cases incident with
      | host move =>
        obtain ⟨hge, -⟩ := apply_rises hs move
        exact ⟨fun e he => hge e (List.mem_append_left _ he), hge _ (by simp [Incident.apply])⟩
      | dismiss h => exact ⟨by simp [Incident.rounds], le_rfl⟩
    intro e he
    rcases List.mem_append.mp he with he | he
    · exact hstep.1 e he
    · exact hstep.2.trans (ih (hs.incident incident) e he)

/-! ### While the script is stopped -/

/-- The script is stopped all along these incidents, and nothing is dispatched. -/
def Holds (d t : Scene α σ) (incidents : List (Incident α σ)) : Prop :=
  ∀ earlier, earlier <+: incidents →
    d.Barred (t.undergo table earlier) ∧ t.roundsAmid table earlier = []

lemma Barred.holds_nil (h : d.Barred t) : d.Holds t [] := by
  intro earlier hpre
  rw [List.prefix_nil.mp hpre]
  exact ⟨h, rfl⟩

lemma Holds.cons {incident : Incident α σ} {rest : List (Incident α σ)} (h : d.Barred t)
    (hnone : incident.rounds table t = []) (hrest : d.Holds (incident.apply table t) rest) :
    d.Holds t (incident :: rest) := by
  intro earlier hpre
  rcases List.prefix_cons_iff.mp hpre with rfl | ⟨later, rfl, hlater⟩
  · exact ⟨h, rfl⟩
  · obtain ⟨hbarred, hrounds⟩ := hrest later hlater
    refine ⟨hbarred, ?_⟩
    rw [roundsAmid, hnone, hrounds]
    rfl

/-- Nothing holds the script, and it stands where it was when it was held. -/
structure Reopened (d t : Scene α σ) : Prop where
  stand : t.stand = d.stand
  phase : t.phase = .running ∨ t.phase = .suspended
  free : t.Free

/-- One incident where nothing holds the script: the next round starts, or things stay as they are,
or the event is over. -/
lemma Reopened.incident (ht : t.AtRest) (h : d.Reopened t) (incident : Incident α σ) :
    (∃ e more, incident.rounds table t = e :: more ∧ e.stand = d.stand) ∨
      incident.rounds table t = [] ∧
        (d.Reopened (incident.apply table t) ∨ (incident.apply table t).isTerminal = true) := by
  cases incident with
  | dismiss k => exact .inr ⟨rfl, .inl ⟨h.stand, h.phase, dismiss_free h.free k⟩⟩
  | host move =>
    by_cases htick : move = .tick
    · subst htick
      rw [Incident.rounds, Incident.apply, HostMove.rounds, HostMove.apply, tick_eq, tickRounds]
      rcases overture_cases ht with ⟨hover, -⟩ | ⟨-, hstop, o, -, ho⟩ | ⟨-, -, ho⟩
      · rw [isTerminal_of_phase h.phase] at hover
        cases hover
      · rw [hstop]
        exact .inr ⟨rfl, .inr ho.isTerminal⟩
      · have hback : t.overture.1.stand = d.stand ∧ t.overture.1.Free := by
          cases ho.opened with
          | stays stand free => exact ⟨stand.trans h.stand, free.mp h.free⟩
          | reads fresh => exact absurd fresh (ne_uninitialized_of_phase h.phase)
          | lands held => exact absurd h.free held
        cases hmore : t.overture.2 with
        | true => exact .inl ⟨_, _, rfl, hback.1⟩
        | false => exact .inr ⟨rfl, .inl ⟨hback.1, ho.phase, hback.2⟩⟩
    · obtain ⟨hnone, hmove⟩ := apply_of_ne_tick ht.toCalm htick table
      refine .inr ⟨hnone, ?_⟩
      rcases hmove with hsame | ⟨-, o, ho, -⟩
      · refine .inl ⟨hsame.stand.trans h.stand, ?_, hsame.free.mp h.free⟩
        rw [Incident.apply, hsame.phase]
        exact h.phase
      · exact .inr ho.isTerminal

/-- Where nothing holds the script, the next round is that of the command that it stands at. -/
lemma Reopened.head (ht : t.AtRest) (h : d.Reopened t) (incidents : List (Incident α σ)) :
    ∀ e ∈ (t.roundsAmid table incidents).head?, e.stand = d.stand := by
  induction incidents generalizing t with
  | nil => simp [roundsAmid]
  | cons incident rest ih =>
    rw [roundsAmid]
    rcases h.incident ht incident with ⟨e, more, hrounds, hstand⟩ | ⟨hnone, hreopened | hover⟩
    · simpa [hrounds] using hstand
    · rw [hnone]
      exact ih (ht.incident incident) hreopened
    · simp [hnone, roundsAmid_of_isTerminal hover rest]

/-- How things go on from where a move has stopped the script. It is stopped to the end, or up to
the tick in which the last of those on the way lands, or up to the move of the host that skips or
finishes the event. Or else the last of those on the way is taken off, and then the next round is
that of the same move once more. -/
inductive Watch (d t : Scene α σ) (after : List (Incident α σ)) : Prop
  | waits (holds : d.Holds t after)
  | lands (wait rest : List (Incident α σ)) (split : after = wait ++ .host .tick :: rest)
      (holds : d.Holds t wait) (idle : (t.undergo table wait).tickRounds table = [])
      (released : d.Released ((t.undergo table wait).tick table))
      (later : ∀ e ∈ ((t.undergo table wait).tick table).roundsAmid table rest, d.mark < e.mark)
  | ends (wait : List (Incident α σ)) (move : HostMove α σ) (rest : List (Incident α σ))
      (split : after = wait ++ .host move :: rest) (holds : d.Holds t wait)
      (idle : move.rounds table (t.undergo table wait) = [])
      (ended : (move.apply table (t.undergo table wait)).isTerminal = true)
      (how : (move.apply table (t.undergo table wait)).phase = .skipped ∨
        ∃ ending, move = .finish ending)
      (later : (move.apply table (t.undergo table wait)).roundsAmid table rest = [])
  | emptied (wait : List (Incident α σ)) (h : Handle) (rest : List (Incident α σ))
      (split : after = wait ++ .dismiss h :: rest) (holds : d.Holds t wait)
      (last : ∀ k ∈ (t.undergo table wait).barrier.movers, k = h)
      (reopened : d.Reopened ((Incident.dismiss h).apply table (t.undergo table wait)))
      (again : ∀ e ∈ (((Incident.dismiss h).apply table (t.undergo table wait)).roundsAmid table
        rest).head?, e.stand = d.stand)

lemma Watch.cons {incident : Incident α σ} {rest : List (Incident α σ)} (h : d.Barred t)
    (hnone : incident.rounds table t = []) (hrest : d.Watch (incident.apply table t) rest) :
    d.Watch t (incident :: rest) := by
  cases hrest with
  | waits holds => exact .waits (holds.cons h hnone)
  | lands wait rest' split holds idle released later =>
    exact .lands (incident :: wait) rest' (congrArg (incident :: ·) split) (holds.cons h hnone) idle
      released later
  | ends wait move rest' split holds idle ended how later =>
    exact .ends (incident :: wait) move rest' (congrArg (incident :: ·) split)
      (holds.cons h hnone) idle ended how later
  | emptied wait k rest' split holds last reopened again =>
    exact .emptied (incident :: wait) k rest' (congrArg (incident :: ·) split)
      (holds.cons h hnone) last reopened again

omit [Scalar α] [Stage α σ] in
/-- Taking somebody off leaves the script stopped, unless he was the last on the way. -/
lemma Barred.dismiss (h : d.Barred t) (k : Handle) :
    d.Barred (t.onEvent (·.removeActor k)) ∨
      d.Reopened (t.onEvent (·.removeActor k)) ∧ ∀ i ∈ t.barrier.movers, i = k := by
  by_cases hfree : (t.onEvent (·.removeActor k)).Free
  · refine .inr ⟨⟨h.stand, h.phase, hfree⟩, fun i hi => ?_⟩
    have hclosed := hfree.resolve_right fun hon => h.held (.inr hon)
    have hnobody : (t.barrier.remove k).movers = [] := by
      rw [Barrier.movers, List.map_eq_nil_iff]
      exact List.isEmpty_iff.mp hclosed
    by_contra hne
    have hleft : i ∈ (t.barrier.remove k).movers := Barrier.mem_movers_remove.mpr ⟨hi, hne⟩
    simp [hnobody] at hleft
  · exact .inl ⟨h.stand, h.phase, hfree⟩

theorem Barred.watch (hin : d.pointer < d.working.size) (ht : t.AtRest) (h : d.Barred t)
    (after : List (Incident α σ)) : d.Watch t after := by
  induction after generalizing t with
  | nil => exact .waits h.holds_nil
  | cons incident rest ih =>
    have hnext := ht.incident incident
    cases incident with
    | host move =>
      obtain ⟨hnone, hmove⟩ := h.apply hin ht move
      rcases hmove with hbarred | ⟨rfl, hfree⟩ | ⟨hover, how⟩
      · exact .cons h hnone (ih hnext hbarred)
      · refine .lands [] rest rfl h.holds_nil hnone hfree fun e he => ?_
        exact hfree.mark_lt.trans_le (mark_le_roundsAmid hnext rest e he)
      · exact .ends [] move rest rfl h.holds_nil hnone hover how
          (roundsAmid_of_isTerminal hover rest)
    | dismiss k =>
      rcases h.dismiss k with hbarred | ⟨hreopened, hlast⟩
      · exact .cons h rfl (ih hnext hbarred)
      · exact .emptied [] k rest rfl h.holds_nil hlast hreopened (hreopened.head hnext rest)

/-! ### Where those who are left stand -/

/-- Nobody is sent anywhere while the script is stopped. -/
lemma Barred.bound (hs : t.Regular) (h : d.Barred t) (incident : Incident α σ)
    (hgoes : (incident.apply table t).isTerminal = false) :
    (incident.apply table t).settings = t.settings ∧
      Troupe.Bound t.settings incident.gone t.troupe (incident.apply table t).troupe := by
  cases incident with
  | dismiss k => exact ⟨rfl, .without t.troupe k⟩
  | host move =>
    by_cases htick : move = .tick
    · subst htick
      have hawaits : t.Awaits := ⟨hs.rest, isTerminal_of_phase h.phase, h.held⟩
      have hskip : t.skipRequested = false := by
        by_contra hskip
        obtain ⟨o, -, ho⟩ := skip_ends hs.rest.toCalm hawaits.goes
        rw [Incident.apply, HostMove.apply,
          tick_of_skipRequested table hawaits.goes (by simpa using hskip), ho.isTerminal] at hgoes
        cases hgoes
      rw [Incident.apply, HostMove.apply, hawaits.tick_eq hskip, resume_troupe]
      have helapsed := Troupe.Bound.elapse (g := t.settings) hs.ruled.rule t.elapsed
      refine ⟨(resume_tidy t).settings, ?_⟩
      split
      · exact helapsed
      · exact helapsed.trans hs.ruled.rule.sorted.movers_nodup
          (.resolve (hs.ruled.rule.elapse t.elapsed t.settings))
    · rcases (apply_of_ne_tick hs.rest.toCalm htick table).2 with hsame | ⟨-, o, ho, -⟩
      · have htroupe : ((Incident.host move).apply table t).troupe = t.troupe := by
          rw [Incident.apply, troupe, hsame.event]
          rfl
        refine ⟨by rw [Incident.apply, hsame.event], ?_⟩
        rw [htroupe]
        exact .refl t.troupe
      · rw [Incident.apply, ho.isTerminal] at hgoes
        cases hgoes

lemma Holds.bound {wait : List (Incident α σ)} (hs : t.Regular) (h : d.Holds t wait) :
    (t.undergo table wait).settings = t.settings ∧
      Troupe.Bound t.settings (wait.flatMap Incident.gone) t.troupe
        (t.undergo table wait).troupe := by
  induction wait generalizing t with
  | nil => exact ⟨rfl, .refl t.troupe⟩
  | cons incident rest ih =>
    have hnext : d.Barred (incident.apply table t) := (h [incident] ⟨rest, rfl⟩).1
    obtain ⟨hsettings, hfirst⟩ := (h [] List.nil_prefix).1.bound hs incident
      (isTerminal_of_phase hnext.phase)
    have hrest : d.Holds (incident.apply table t) rest := by
      intro earlier hpre
      obtain ⟨hbarred, hnone⟩ := h (incident :: earlier) (List.cons_prefix_cons.mpr ⟨rfl, hpre⟩)
      exact ⟨hbarred, (List.append_eq_nil_iff.mp hnone).2⟩
    obtain ⟨hsettings', hlater⟩ := ih (hs.incident incident) hrest
    rw [hsettings] at hsettings' hlater
    exact ⟨hsettings', hfirst.trans hs.ruled.rule.sorted.movers_nodup hlater⟩

/-- Everybody who was on the way and has not gone off stands on the tile that he was sent to, unless
a path may have walked him from there, and without a path he faces as he was told. -/
def Arrived (s t : Scene α σ) (gone : List Handle) : Prop :=
  ∀ m ∈ s.barrier.pending, m.1 ∉ gone → s.troupe.Unled m.1 →
    ∃ a, t.cast.get? m.1 = some a ∧ a.position = tileOrigin s.settings.tileSize m.2.tile ∧
      (m.1 ∉ s.troupe.walkers → a.facing = m.2.facing)

lemma Holds.arrived {wait : List (Incident α σ)} (hs : t.Regular) (h : d.Holds t wait)
    (hreleased : d.Released ((t.undergo table wait).tick table)) :
    t.Arrived ((t.undergo table wait).tick table) (wait.flatMap Incident.gone) := by
  obtain ⟨hsettings, hwaited⟩ := h.bound hs
  obtain ⟨-, hlanded⟩ := (h wait List.prefix_rfl).1.bound (hs.undergo wait) (.host .tick)
    (isTerminal_of_phase (.inl hreleased.phase))
  rw [hsettings] at hlanded
  have hbound := hwaited.trans hs.ruled.rule.sorted.movers_nodup hlanded
  rw [Incident.gone, List.append_nil] at hbound
  intro m hm hgone hled
  have hlive := hbound.live m.1 (hs.ruled.rule.pending (List.mem_map_of_mem hm)) hgone
  obtain ⟨a, ha⟩ := Option.isSome_iff_exists.mp (Cast.get?_isSome_iff.mpr hlive)
  have hleft : m ∉ ((t.undergo table wait).tick table).troupe.barrier.pending := by
    have hnobody : ((t.undergo table wait).tick table).barrier.pending = [] :=
      List.isEmpty_iff.mp hreleased.closed
    rw [troupe, hnobody]
    exact List.not_mem_nil
  exact ⟨a, ha, hbound.arrives m hm hleft hled a ha⟩

/-! ### Those who are left arrive -/

/-- At no tick among the incidents is the world frozen. -/
def ThawedAmid (s : Scene α σ) : List (Incident α σ) → Prop
  | [] => True
  | incident :: rest =>
    (incident.isTick = true → Stage.worldFrozen α s.elapse.stage = false) ∧
      ThawedAmid (incident.apply table s) rest

section March

variable {σ : Type} [Stage ℚ σ] {s : Scene ℚ σ}

omit [Stage ℚ σ] in
/-- Nobody has farther to go because somebody else goes off. -/
lemma Troupe.without_march (g : Settings ℚ) (T : Troupe ℚ) (h : Handle) :
    (T.without h).march g ≤ T.march g := by
  have hfound : ∀ m ∈ (T.barrier.remove h).pending,
      Troupe.ticksTo g m ((T.cast.remove h).get? m.1) = Troupe.ticksTo g m (T.cast.get? m.1) := by
    intro m hm
    have hne : m.1 ≠ h := by simpa using (List.mem_filter.mp hm).2
    rw [Cast.get?_remove, if_neg hne]
  calc (T.without h).march g
      = Cast.purse (Troupe.ticksTo g) Prod.fst (T.barrier.remove h).pending T.cast :=
        Cast.purse_congr hfound
    _ ≤ T.march g := (List.filter_sublist.map _).sum_le_sum fun _ _ => Nat.zero_le _

/-- Taking somebody off closes the barrier, or it takes no longer. -/
lemma Marching.dismiss (hs : s.Marching) (h : Handle) :
    (s.onEvent (·.removeActor h)).barrier.isClosed = true ∨
      (s.onEvent (·.removeActor h)).Marching ∧
        (s.onEvent (·.removeActor h)).troupe.march s.settings ≤ s.troupe.march s.settings := by
  cases hopen : (s.onEvent (·.removeActor h)).barrier.isClosed with
  | true => exact .inl rfl
  | false =>
    have hrest : (s.onEvent (·.removeActor h)).AtRest := hs.rest.incident (.dismiss h)
    have hruled : (s.onEvent (·.removeActor h)).Ruled fun _ T => T.Sound ∧ T.Brisk :=
      hs.ruled.incident Troupe.fit_rule hs.rest (.dismiss h)
    have hheld : ¬ (s.onEvent (·.removeActor h)).Free := by
      rintro (hclosed | hon)
      · rw [hclosed] at hopen
        cases hopen
      · exact hs.held (.inr hon)
    have hundisturbed : (s.troupe.without h).Undisturbed := fun q hq hwanders hmover =>
      hs.undisturbed q (List.mem_filter.mp hq).1 hwanders (Barrier.mem_movers_remove.mp hmover).1
    exact .inr ⟨⟨⟨hrest, hs.goes, hheld⟩, hruled, hs.walkable, hundisturbed⟩,
      Troupe.without_march s.settings s.troupe h⟩

/-- An incident closes the barrier, or it takes a tick off those that are left if it is one. -/
lemma Marching.incident (hs : s.Marching) {incident : Incident ℚ σ}
    (hthaw : incident.isTick = true → Stage.worldFrozen ℚ s.elapse.stage = false) :
    (incident.apply table s).barrier.isClosed = true ∨ (incident.apply table s).Marching ∧
      (incident.apply table s).troupe.march (incident.apply table s).settings +
        (if incident.isTick then 1 else 0) ≤ s.troupe.march s.settings := by
  cases incident with
  | host move => exact hs.step hthaw
  | dismiss h => exact hs.dismiss h

/-- After so many ticks as the barrier may still take it has closed, whoever is taken off. -/
theorem Marching.closes (hs : s.Marching) {after : List (Incident ℚ σ)} (hthaw : s.ThawedAmid after)
    (hticks : s.troupe.march s.settings ≤ after.countP Incident.isTick) :
    ∃ first, first <+: after ∧ (s.undergo table first).barrier.isClosed = true := by
  refine exists_prefix_of_descent (p := Marching) (q := fun t => t.barrier.isClosed = true)
    (r := ThawedAmid) (fun _ => Marching.march_pos) (fun t incident rest ht hthaw => ?_) hs hthaw
    hticks
  rcases ht.incident hthaw.1 with hclosed | ⟨hmarching, hless⟩
  · exact .inl hclosed
  · exact .inr ⟨hmarching, hthaw.2, hless⟩

end March

end Scene

/-! ### Every run -/

open Scene

omit [Scalar α] [Stage α σ] in
lemma Premiere.regular [Scalar α] [Stage α σ] (p : Premiere α σ) : p.scene.Regular where
  rest := p.atRest
  ruled := p.ruled (.of_idle rfl rfl)
  cleared := nofun

/-- **The barrier closes also while actors are taken off**, in exact arithmetic, if tiles have a
size and everybody gets on: wherever a run has come to be held by those on the way, and no path
walks any of them, so many ticks without a frozen world as they have strides to go, and one more
for each of them, see the barrier closed, whoever is taken off meanwhile. -/
theorem barrier_closes_amid_dismissals {σ : Type} [Stage ℚ σ] (p : Premiere ℚ σ)
    (hwalkable : p.settings.Walkable) (before after : List (Incident ℚ σ)) {s : Scene ℚ σ}
    (hs : s = p.scene.undergo table before) (hheld : ¬ s.Free)
    (hundisturbed : s.troupe.Undisturbed) (hthawed : s.ThawedAmid after)
    (hticks : s.troupe.march p.settings ≤ after.countP Incident.isTick) :
    ∃ first, first <+: after ∧ (s.undergo table first).barrier.isClosed = true := by
  have hregular : s.Regular := hs ▸ p.regular.undergo before
  have hruled := Ruled.undergo (Troupe.fit_rule.pinned p.settings) p.atRest
    (p.ruled ⟨rfl, .of_idle rfl rfl, fun m hm => absurd hm List.not_mem_nil⟩) before
  rw [← hs] at hruled
  obtain ⟨hsettings, hfit⟩ := hruled.rule
  have hmarching : s.Marching :=
    ⟨hregular.awaits hheld, ⟨hruled.unopened, hfit⟩, hsettings ▸ hwalkable, hundisturbed⟩
  exact hmarching.closes hthawed (hsettings ▸ hticks)

/-- **Taking somebody off spares the release**, unless he is the last on the way. Wherever a run has
come to be held by a move, it is held, and dispatches nothing, up to the tick in which the last of
those who are left has landed. This tick moves the pointer past the move, and the move is not run
again; all who were on the way and have not been taken off stand where they were sent. But where the
last of them is taken off, the pointer stays, and the move is the next command to be run. -/
theorem dismissal_spares_release (p : Premiere α σ) (before : List (Incident α σ))
    {s : Scene α σ} (hs : s = p.scene.undergo table before) (hheld : ¬ s.Free) (hstop : s.AtStop)
    (after : List (Incident α σ)) :
    s.Watch s after ∧
    ∀ wait, s.Holds s wait → s.Released ((s.undergo table wait).tick table) →
      s.Arrived ((s.undergo table wait).tick table) (wait.flatMap Incident.gone) := by
  have hregular : s.Regular := hs ▸ p.regular.undergo before
  have hbarred : s.Barred s := ⟨rfl, (hregular.awaits hheld).phase, hheld⟩
  have hin : s.pointer < s.working.size := by
    obtain ⟨raw, hget, -⟩ := hstop
    exact (List.getElem?_eq_some_iff.mp hget).1
  exact ⟨hbarred.watch hin hregular.rest after,
    fun wait hholds hreleased => hholds.arrived hregular hreleased⟩

/-- Abigail and Lewis are sent off together. Lewis has the longer way. -/
def paired : Premiere Float32 Rehearsal :=
  { rehearsed [] with
    commands := ["none", "follow", "Abigail 0 0 1 Lewis 5 5 2", "beginSimultaneousCommand",
      "speed Abigail 32", "speed Lewis 32", "move Abigail 1 0 1 Lewis 3 0 1", "pause 1000"] }

lemma paired_held {s : Scene Float32 Rehearsal}
    (hs : s = paired.scene.undergo table [.host .tick]) : ¬ s.Free ∧ s.AtStop := by
  have hrun : s.barrier.isClosed = false ∧ s.flags.continueAfterMove = false ∧
      s.working.get? s.pointer = some "move Abigail 1 0 1 Lewis 3 0 1" ∧
      s.settings.isComment "move Abigail 1 0 1 Lewis 3 0 1" = false := by
    rw [hs, table_eq_spelled]
    decide +kernel
  have hstops : Stops
      ((table : CommandTable (Handler Float32 Rehearsal)).commandOf
        "move Abigail 1 0 1 Lewis 3 0 1").1
      ((table : CommandTable (Handler Float32 Rehearsal)).commandOf
        "move Abigail 1 0 1 Lewis 3 0 1").2 := by
    rw [table_eq_spelled]
    exact ⟨by decide +kernel, by decide +kernel, by decide +kernel⟩
  obtain ⟨hopen, hwaits, hget, hcomment⟩ := hrun
  refine ⟨?_, _, hget, hcomment, hstops⟩
  rintro (hclosed | hon)
  · rw [hopen] at hclosed
    cases hclosed
  · rw [hwaits] at hon
    cases hon

/-- Lewis is taken off on his way, and Abigail walks on. -/
theorem dismissal_spares_walk : ∃ s, s = paired.scene.undergo table [.host .tick] ∧
    ¬ s.Free ∧ s.AtStop ∧
    s.Watch s [.dismiss ⟨1⟩, .host .tick, .host .tick, .host .tick, .host .tick] := by
  obtain ⟨s, hs⟩ : ∃ s, s = paired.scene.undergo table [.host .tick] := ⟨_, rfl⟩
  obtain ⟨hheld, hstop⟩ := paired_held hs
  exact ⟨s, hs, hheld, hstop, (dismissal_spares_release paired _ hs hheld hstop _).1⟩

/-- Abigail has landed when Lewis is taken off, and is sent off once more: it is not the case that a
move which holds the script is run but once, whoever is taken off. -/
theorem dismissal_repeats_move :
    ¬ ∀ (p : Premiere Float32 Rehearsal) (before after : List (Incident Float32 Rehearsal))
      (s : Scene Float32 Rehearsal), s = p.scene.undergo table before → ¬ s.Free → s.AtStop →
        ∀ e ∈ s.roundsAmid table after, s.mark < e.mark := by
  intro h
  obtain ⟨s, hs⟩ : ∃ s, s = paired.scene.undergo table [.host .tick] := ⟨_, rfl⟩
  obtain ⟨hheld, hstop⟩ := paired_held hs
  have hrun : (s.roundsAmid table
      [.host .tick, .host .tick, .host .tick, .dismiss ⟨1⟩, .host .tick]).any (fun e =>
        decide (e.working.version = s.working.version ∧ e.pointer = s.pointer)) = true := by
    rw [hs, table_eq_spelled]
    decide +kernel
  obtain ⟨e, he, hsame⟩ := List.any_eq_true.mp hrun
  obtain ⟨hversion, hpointer⟩ := of_decide_eq_true hsame
  have hmark : e.mark = s.mark := congrArg₂ (fun v p => toLex (v, p)) hversion hpointer
  exact (h paired _ _ s hs hheld hstop e he).ne hmark.symm

end Cutscene
