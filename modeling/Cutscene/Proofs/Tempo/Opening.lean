import Cutscene.Proofs.Run.Laws
import Cutscene.Proofs.Tempo.Clock

/-!
# The First Tick Is Timeless

The header is read at once, and what it brings on, what it asks of the stage and its faults do not
depend on the clock (`Scene.opening_timed`).
-/

namespace Cutscene.Scene

variable {α : Type} [Scalar α] {s u : Scene α Rehearsal}

/-! ### The header -/

/-- What two readings of the header leave: twins, and the same fault if there is one. -/
structure Matched {ε : Type} (x y : Scene α Rehearsal × Option ε) : Prop where
  twin : x.1.Twin y.1
  fault : x.2 = y.2

lemma openMusic_twin (h : s.Twin u) (music : String) :
    (s.openMusic music).Twin (u.openMusic music) := by
  unfold openMusic
  dsimp only
  split_ifs
  · exact h
  · exact h.call
  · exact h.call

lemma openGroup_cases (h : s.Twin u) (group : List String) :
    (∃ e, s.openGroup group = .error e ∧ u.openGroup group = .error e) ∨
      ∃ v w, s.openGroup group = .ok v ∧ u.openGroup group = .ok w ∧ v.Twin w := by
  have hactor : ∀ name tile facing,
      s.layoutActor? name tile facing = u.layoutActor? name tile facing := by
    intro name tile facing
    refine h.alike.same (f := fun v => v.layoutActor? name tile facing) fun v => ?_
    -- The name is set aside first, or Lean computes what it refers to.
    delta layoutActor?
    generalize (ActorRef.parse name).id = id
    cases id <;> rfl
  unfold openGroup
  simp only [hactor]
  split
  · exact .inl ⟨_, rfl, rfl⟩
  · rename_i tile facing _
    cases u.layoutActor? _ tile facing with
    | none => exact .inr ⟨s, u, rfl, rfl, h⟩
    | some actor => exact .inr ⟨_, _, rfl, rfl, h.spawn (Eq.refl actor.bare)⟩

lemma openGroups_matched (h : s.Twin u) (groups : List (List String)) :
    Matched (s.openGroups groups) (u.openGroups groups) := by
  induction groups generalizing s u with
  | nil => exact ⟨h, rfl⟩
  | cons group rest ih =>
    unfold openGroups
    rcases openGroup_cases h group with ⟨e, hs, hu⟩ | ⟨v, w, hs, hu, hvw⟩
    · rw [hs, hu]
      exact ⟨h, rfl⟩
    · rw [hs, hu]
      exact ih hvw

lemma openLayout_matched (h : s.Twin u) (layout : String) :
    Matched (s.openLayout layout) (u.openLayout layout) := by
  unfold openLayout
  cases Script.tokens? layout with
  | none => exact ⟨h, rfl⟩
  | some tokens =>
    dsimp only
    split
    · exact ⟨h, rfl⟩
    · exact openGroups_matched h _

lemma openCamera_matched (h : s.Twin u) (camera : String) :
    Matched (s.openCamera camera) (u.openCamera camera) := by
  unfold openCamera
  cases Camera.ofHeader camera with
  | ok camera => exact ⟨h.call, rfl⟩
  | error e => exact ⟨h, rfl⟩

/-- The header from the layout on. -/
def readLayout (length : Nat) (layout : Option String) (s : Scene α Rehearsal) :
    Scene α Rehearsal × Option HeaderFault :=
  let (s, fault) := match layout with
    | some layout => s.openLayout layout
    | none => (s, none)
  match fault with
  | some cause => (s, some (.layout cause))
  | none => ({ s with pointer := length }, none)

/-- The header from the camera on. -/
def readCamera (length : Nat) (camera layout : Option String) (s : Scene α Rehearsal) :
    Scene α Rehearsal × Option HeaderFault :=
  let (s, fault) := match camera with
    | some camera => s.openCamera camera
    | none => (s, none)
  match fault with
  | some cause => (s, some (.camera cause))
  | none => s.readLayout length layout

lemma openHeader_eq (s : Scene α Rehearsal) : s.openHeader =
    if s.working.size < s.settings.headerLength then
      (s, some (.tooShort s.settings.headerLength s.working.size))
    else
      let header := s.working.commands.take (min s.settings.headerLength 3)
      let t : Scene α Rehearsal := { s with cast := .empty (Stage.localPlayer α s.stage) }
      readCamera s.settings.headerLength header[1]? header[2]?
        (match header[0]? with
          | some music => t.openMusic music
          | none => t) := rfl

lemma readLayout_matched (h : s.Twin u) (length : Nat) (layout : Option String) :
    Matched (s.readLayout length layout) (u.readLayout length layout) := by
  have hread : ∀ {v w : Scene α Rehearsal}, v.Twin w →
      Twin ({ v with pointer := length } : Scene α Rehearsal) { w with pointer := length } :=
    fun h => h.map (f := fun v => ({ v with pointer := length } : Scene α Rehearsal))
      (fun _ => rfl) (fun _ => rfl) fun _ => rfl
  cases layout with
  | none => exact ⟨hread h, rfl⟩
  | some layout =>
    have hlayout := openLayout_matched h layout
    unfold readLayout
    dsimp only
    generalize s.openLayout layout = x at hlayout ⊢
    generalize u.openLayout layout = y at hlayout ⊢
    rw [hlayout.fault]
    cases y.2 with
    | none => exact ⟨hread hlayout.twin, rfl⟩
    | some cause => exact ⟨hlayout.twin, rfl⟩

lemma readCamera_matched (h : s.Twin u) (length : Nat) (camera layout : Option String) :
    Matched (s.readCamera length camera layout) (u.readCamera length camera layout) := by
  cases camera with
  | none => exact readLayout_matched h length layout
  | some camera =>
    have hcamera := openCamera_matched h camera
    unfold readCamera
    dsimp only
    generalize s.openCamera camera = x at hcamera ⊢
    generalize u.openCamera camera = y at hcamera ⊢
    rw [hcamera.fault]
    cases y.2 with
    | none => exact readLayout_matched hcamera.twin length layout
    | some cause => exact ⟨hcamera.twin, rfl⟩

lemma openHeader_matched (hs : s.Tame) : Matched s.openHeader s.bare.openHeader := by
  have hempty : ∀ player, Cast.Orderly (.empty player : Cast α) :=
    fun player => ⟨List.nodup_nil, fun m hm => absurd hm List.not_mem_nil⟩
  have hstart : Twin ({ s with cast := .empty (Stage.localPlayer α s.stage) } : Scene α Rehearsal)
      { s.bare with cast := .empty (Stage.localPlayer α s.stage) } :=
    ⟨⟨hempty _, hs.paths⟩, ⟨hempty _, hs.bare.paths⟩, congrArg (fun v : Scene α Rehearsal =>
      ({ v with cast := .empty (Stage.localPlayer α s.stage) } : Scene α Rehearsal))
      s.bare_bare.symm⟩
  have hworking : s.bare.working = s.working := rfl
  have hlength : s.bare.settings.headerLength = s.settings.headerLength := rfl
  have hplayer : Stage.localPlayer α s.bare.stage = Stage.localPlayer α s.stage := rfl
  rw [openHeader_eq, openHeader_eq, hworking, hlength, hplayer]
  split
  · exact ⟨.of_tame hs, rfl⟩
  · refine readCamera_matched ?_ _ _ _
    split
    · exact openMusic_twin hstart _
    · exact hstart

/-! ### The first overture -/

lemma openEvent_matched (hs : s.Tame) (hfresh : s.phase = .uninitialized) :
    Matched s.openEvent s.bare.openEvent := by
  have hfresh' : s.bare.phase = .uninitialized := congrArg Phase.bare hfresh
  have hrun : ∀ {v w : Scene α Rehearsal}, v.Twin w →
      Twin ({ v with phase := .running } : Scene α Rehearsal) { w with phase := .running } :=
    fun h => h.map (f := fun v => ({ v with phase := .running } : Scene α Rehearsal))
      (fun _ => rfl) (fun _ => rfl) fun _ => rfl
  have hflags : (s.bare.flags.forked || s.bare.flags.switched) =
      (s.flags.forked || s.flags.switched) := rfl
  unfold openEvent
  rw [if_neg (not_not.mpr hfresh), if_neg (not_not.mpr hfresh'), hflags]
  cases s.flags.forked || s.flags.switched with
  | true => exact ⟨hrun (.of_tame hs), rfl⟩
  | false =>
    have hheader := openHeader_matched hs
    dsimp only [Bool.false_eq_true, if_false]
    generalize s.openHeader = x at hheader ⊢
    generalize s.bare.openHeader = y at hheader ⊢
    obtain ⟨v, fault⟩ := x
    obtain ⟨w, fault'⟩ := y
    obtain ⟨htwin, rfl⟩ : v.Twin w ∧ fault = fault' := ⟨hheader.twin, hheader.fault⟩
    cases fault with
    | none => exact ⟨hrun htwin, rfl⟩
    | some cause => exact ⟨htwin, rfl⟩

lemma openEvent_running (hs : s.AtRest) (hfresh : s.phase = .uninitialized)
    (h : s.openEvent = (u, none)) : u.phase = .running ∧ u.Free := by
  rcases openEvent_cases hs.toCalm h with ⟨hsome, -⟩ | ⟨-, hbegun, -⟩ | ⟨-, -, v, n, hv, -, rfl⟩
  · cases hsome
  · exact absurd hfresh hbegun
  · exact ⟨rfl, hv.free (.inl (hs.fresh hfresh).2)⟩

omit [Scalar α] in
lemma abort_free (s : Scene α Rehearsal) (index : Nat) (command : String) (fault : Fault) :
    (s.abort index command fault).Free := by
  obtain ⟨q, hq, heq⟩ := clearAway_eq (s.reportAt index command .fatal fault)
    (some (.aborted index fault))
  rw [abort, heq]
  exact hq.free (.inl rfl)

lemma overture_of_opened {v : Scene α Rehearsal} (hfresh : s.phase = .uninitialized)
    (hskip : s.skipRequested = false) (hopen : s.openEvent = (v, none)) :
    s.overture = v.resume := by
  unfold overture
  rw [hopen, hskip, Event.isTerminal, hfresh]
  rfl

lemma overture_of_malformed {v : Scene α Rehearsal} {cause : HeaderFault}
    (hfresh : s.phase = .uninitialized) (hskip : s.skipRequested = false)
    (hopen : s.openEvent = (v, some cause)) :
    s.overture.1 = v.abort cause.index (v.working.getD cause.index) (.header cause) := by
  unfold overture
  rw [hopen, hskip, Event.isTerminal, hfresh]
  rfl

/-- The first overture does what it would do without the clock. -/
theorem opening_timed (hs : s.Tame) (hrest : s.AtRest) (hfresh : s.phase = .uninitialized)
    (hskip : s.skipRequested = false) :
    s.overture.1.Tame ∧ s.overture.1.untimed = s.bare.overture.1.untimed := by
  have hfresh' : s.bare.phase = .uninitialized := congrArg Phase.bare hfresh
  have hrest' : s.bare.AtRest :=
    ⟨⟨hrest.dispatching, hrest.edits, hrest.pointer⟩, fun _ => ⟨(hrest.fresh hfresh).1, rfl⟩⟩
  have hopen := openEvent_matched hs hfresh
  rcases hx : s.openEvent with ⟨v, fault⟩
  rcases hy : s.bare.openEvent with ⟨w, fault'⟩
  rw [hx, hy] at hopen
  obtain ⟨htwin, rfl⟩ : v.Twin w ∧ fault = fault' := ⟨hopen.twin, hopen.fault⟩
  cases fault with
  | some cause =>
    have hcommand : v.working.getD cause.index = w.working.getD cause.index :=
      htwin.alike.same (f := fun t => t.working.getD cause.index) fun _ => rfl
    have habort : (v.abort cause.index (v.working.getD cause.index) (.header cause)).Twin
        (w.abort cause.index (w.working.getD cause.index) (.header cause)) :=
      hcommand ▸ htwin.abort
    rw [overture_of_malformed hfresh hskip hx, overture_of_malformed hfresh' hskip hy]
    refine ⟨habort.left, ?_⟩
    rw [untimed_of_free (abort_free v _ _ _), untimed_of_free (abort_free w _ _ _)]
    exact habort.alike
  | none =>
    obtain ⟨hv, hvfree⟩ := openEvent_running hrest hfresh hx
    obtain ⟨hw, hwfree⟩ := openEvent_running hrest' hfresh' hy
    obtain ⟨htame, huntimed⟩ := resume_timed htwin.left (.inl hv)
    obtain ⟨-, huntimed'⟩ := resume_timed htwin.right (.inl hw)
    rw [overture_of_opened hfresh hskip hx, overture_of_opened hfresh' hskip hy]
    refine ⟨htame, ?_⟩
    rw [huntimed, huntimed', untimed_of_free hvfree, untimed_of_free hwfree]
    exact htwin.alike

end Cutscene.Scene
