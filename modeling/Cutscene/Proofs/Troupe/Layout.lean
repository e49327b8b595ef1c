import Cutscene.Event.Header
import Cutscene.Proofs.Troupe.Arrivals
import Cutscene.Scalar.Single
import Cutscene.Stage.Rehearsal

/-!
# Whom a Layout Stages

A layout is a list of entrances (`Entrance.layout?`). Names in it may mean the same actor, a player
may be elsewhere, and a later entrance takes the place of an earlier one. In the end those are on
the stage whom the layout names and who can come, each once and where the last entrance of his has
put him. What is no layout is a fault of the header, whoever of the players is there.
-/

namespace Cutscene

/-! ### Reading without reasons -/

lemma toOption_bind {ε β γ : Type} (read : Except ε β) (next : β → Except ε γ) :
    (read >>= next).toOption = read.toOption.bind fun b => (next b).toOption := by
  cases read <;> rfl

lemma toOption_pure {ε β : Type} (b : β) : (pure b : Except ε β).toOption = some b := rfl

/-- What a token is read as, if it can be. -/
lemma Args.toOption_parsed {β : Type} (a : Args) (index : Nat) (field : String)
    (expected : Expected) (reader : String → Option β) :
    (a.parsed index field expected reader).toOption = (a.get? index).bind reader := by
  unfold Args.parsed Args.get
  cases a.get? index with
  | none => rfl
  | some token =>
    dsimp only [bind, Except.bind, Option.bind]
    cases reader token <;> rfl

/-! ### Entrances -/

/-- One group of a layout: a name, and where its actor comes on. -/
structure Entrance where
  name : String
  tile : Tile
  facing : Direction
  deriving DecidableEq, Repr

namespace Entrance

/-- A group of four tokens, if it can be read. -/
def ofGroup? : List String → Option Entrance
  | [name, x, y, facing] => do
    let x ← Numeral.int32? x
    let y ← Numeral.int32? y
    let facing ← Direction.ofToken? facing
    return ⟨name, ⟨x, y⟩, facing⟩
  | _ => none

/-- The entrances of a layout: its tokens come in groups of four, and each group can be read. -/
def layout? (header : String) : Option (List Entrance) := do
  let tokens ← Script.tokens? header
  if tokens.length % 4 = 0 then (Script.fours tokens).mapM ofGroup? else none

-- Irreducible, or Lean reads the name character by character wherever it compares two of these.
/-- Whom the name of an entrance means. -/
@[irreducible] def whom (localPlayer : Nat) (e : Entrance) : ActorId :=
  (ActorRef.parse e.name).id.whom localPlayer

lemma whom_eq (localPlayer : Nat) (e : Entrance) :
    e.whom localPlayer = (ActorRef.parse e.name).id.whom localPlayer := by
  delta whom
  rfl

/-- The last of the entrances that mean somebody. -/
def last? (localPlayer : Nat) (entrances : List Entrance) (w : ActorId) : Option Entrance :=
  entrances.reverse.find? fun e => e.whom localPlayer = w

lemma exists_last? (localPlayer : Nat) {entrances : List Entrance} {e : Entrance}
    (he : e ∈ entrances) : ∃ last, last? localPlayer entrances (e.whom localPlayer) = some last ∧
      last.whom localPlayer = e.whom localPlayer := by
  have hsome : (last? localPlayer entrances (e.whom localPlayer)).isSome := by
    rw [last?, List.find?_isSome]
    exact ⟨e, List.mem_reverse.mpr he, decide_eq_true rfl⟩
  obtain ⟨last, hlast⟩ := Option.isSome_iff_exists.mp hsome
  refine ⟨last, hlast, ?_⟩
  rw [last?] at hlast
  simpa using List.find?_some hlast

/-- What of a group is read before its name is looked at. -/
def read (group : List String) : Args.Read (Tile × Direction) := do
  let tile ← Args.point ⟨group⟩ 1 "tile"
  let facing ← Args.direction ⟨group⟩ 3 "facing"
  return (tile, facing)

lemma ofGroup?_eq {group : List String} (hfour : group.length = 4) : ofGroup? group =
    (read group).toOption.map fun place => ⟨Args.name ⟨group⟩, place.1, place.2⟩ := by
  match group, hfour with
  | [name, x, y, facing], _ =>
    simp only [read, Args.point, Args.int, Args.direction, toOption_bind, Args.toOption_parsed,
      toOption_pure, Option.bind_assoc, Option.map_bind, Function.comp_def, Option.map_some]
    rfl

end Entrance

namespace Scene

variable {α σ : Type} [Scalar α] [Stage α σ] {s : Scene α σ} {e : Entrance}

/-! ### Those who come on -/

/-- Nobody who is elsewhere is meant: the players who can come on are those online and the local
one. -/
def Expects (s : Scene α σ) (e : Entrance) : Prop :=
  ∀ n, e.whom (Stage.localPlayer α s.stage) = .player n →
    n ∈ Stage.onlinePlayers α s.stage ∨ n = Stage.localPlayer α s.stage

instance (s : Scene α σ) (e : Entrance) : Decidable (s.Expects e) :=
  match h : e.whom (Stage.localPlayer α s.stage) with
  | .player n => decidable_of_iff
      (n ∈ Stage.onlinePlayers α s.stage ∨ n = Stage.localPlayer α s.stage) (by simp [Expects, h])
  | .localPlayer => isTrue fun _ hn => nomatch h.symm.trans hn
  | .named _ => isTrue fun _ hn => nomatch h.symm.trans hn

/-- Whom an entrance brings on. -/
def enters? (s : Scene α σ) (e : Entrance) : Option (Actor α) :=
  s.layoutActor? e.name e.tile e.facing

/-- The actor is whom the entrance means, and stands as it tells. -/
structure Stages (s : Scene α σ) (e : Entrance) (a : Actor α) : Prop where
  whom : a.whom (Stage.localPlayer α s.stage) = e.whom (Stage.localPlayer α s.stage)
  position : a.position = tileOrigin s.settings.tileSize e.tile
  facing : a.facing = e.facing

/-- An entrance brings its actor on, or means a player who is elsewhere. -/
lemma enters?_cases (s : Scene α σ) (e : Entrance) :
    (s.Expects e ∧ ∃ a, s.enters? e = some a ∧ s.Stages e a) ∨
      (¬ s.Expects e ∧ s.enters? e = none) := by
  have hwhom := e.whom_eq (Stage.localPlayer α s.stage)
  have hstages : ∀ a : Actor α, a.position = tileOrigin s.settings.tileSize e.tile →
      a.facing = e.facing → a.whom (Stage.localPlayer α s.stage) =
        (ActorRef.parse e.name).id.whom (Stage.localPlayer α s.stage) → s.Stages e a :=
    fun a hposition hfacing hmeant => ⟨hmeant.trans hwhom.symm, hposition, hfacing⟩
  unfold Expects enters?
  rw [hwhom]
  delta layoutActor?
  -- The name is set aside first, or Lean computes whom it means.
  generalize (ActorRef.parse e.name).id = id at hstages ⊢
  cases id with
  | localPlayer =>
    refine .inl ⟨fun n hn => .inr ?_, _, rfl, hstages _ rfl rfl rfl⟩
    exact (ActorId.player.inj hn).symm
  | player n =>
    dsimp only [ActorId.whom] at hstages ⊢
    split
    · refine .inl ⟨fun m hm => ?_, _, rfl, hstages _ rfl rfl rfl⟩
      rwa [← ActorId.player.inj hm]
    · rename_i hgone
      exact .inr ⟨fun h => hgone (h n rfl), rfl⟩
  | named name =>
    exact .inl ⟨fun n hn => (nomatch hn), _, rfl, hstages _ rfl rfl rfl⟩

lemma stages_of_enters? {a : Actor α} (h : s.enters? e = some a) : s.Expects e ∧ s.Stages e a := by
  rcases s.enters?_cases e with ⟨hexpects, b, hb, hstages⟩ | ⟨-, hnone⟩
  · exact ⟨hexpects, Option.some.inj (hb.symm.trans h) ▸ hstages⟩
  · rw [hnone] at h
    cases h

/-- The actor whom a name in the layout brings on is whom the name means. -/
lemma whom_layoutActor? {name : String} {tile : Tile} {facing : Direction} {a : Actor α}
    (h : s.layoutActor? name tile facing = some a) :
    a.whom (Stage.localPlayer α s.stage) =
      (ActorRef.parse name).id.whom (Stage.localPlayer α s.stage) := by
  have hwhom := (stages_of_enters? (e := ⟨name, tile, facing⟩) h).2.whom
  rwa [Entrance.whom_eq] at hwhom

/-! ### The groups, one after the other -/

/-- The actors whom entrances bring on. -/
def entrants (s : Scene α σ) (entrances : List Entrance) : List (Actor α) :=
  entrances.filterMap s.enters?

/-- The scene after those entrances. -/
def staged (s : Scene α σ) (entrances : List Entrance) : Scene α σ :=
  { s with cast := s.cast.after ((s.entrants entrances).map .comesOn) }

/-- Whom an entrance brings on does not depend on who is there. -/
lemma enters?_staged (s : Scene α σ) (before : List Entrance) (e : Entrance) :
    (s.staged before).enters? e = s.enters? e := by
  delta enters? layoutActor?
  -- The name is set aside first, or Lean computes whom it means.
  generalize (ActorRef.parse e.name).id = id
  cases id <;> rfl

lemma staged_singleton (s : Scene α σ) (e : Entrance) : s.staged [e] =
    match s.enters? e with
    | some actor => { s with cast := (s.cast.spawn actor).2 }
    | none => s := by
  rw [staged, entrants, List.filterMap_cons]
  cases s.enters? e <;> rfl

lemma staged_cons (s : Scene α σ) (e : Entrance) (rest : List Entrance) :
    s.staged (e :: rest) = (s.staged [e]).staged rest := by
  have hentrants : (s.staged [e]).entrants rest = s.entrants rest :=
    congrArg (List.filterMap · rest) (funext (s.enters?_staged [e]))
  rw [staged, staged, hentrants, staged_singleton, entrants, List.filterMap_cons]
  cases s.enters? e <;> rfl

/-- A group that can be read brings on whoever can come; any other is a fault, whomever it means. -/
lemma openGroup_of_four (s : Scene α σ) {group : List String} (hfour : group.length = 4) :
    (∃ e, Entrance.ofGroup? group = some e ∧ s.openGroup group = .ok (s.staged [e])) ∨
      Entrance.ofGroup? group = none ∧ ∃ cause, s.openGroup group = .error cause := by
  rw [Entrance.ofGroup?_eq hfour]
  unfold openGroup
  dsimp only
  split
  · rename_i e hread
    have hread : Entrance.read group = .error e := hread
    rw [hread]
    exact .inr ⟨rfl, _, rfl⟩
  · rename_i tile facing hread
    have hread : Entrance.read group = .ok (tile, facing) := hread
    rw [hread]
    refine .inl ⟨⟨_, tile, facing⟩, rfl, ?_⟩
    rw [staged_singleton, enters?]
    cases s.layoutActor? (Args.name ⟨group⟩) tile facing <;> rfl

/-- The groups of a layout bring on those whom they name, up to the first that cannot be read. -/
lemma openGroups_of_fours (s : Scene α σ) {groups : List (List String)}
    (hfour : ∀ group ∈ groups, group.length = 4) :
    (∃ entrances, groups.mapM Entrance.ofGroup? = some entrances ∧
        s.openGroups groups = (s.staged entrances, none)) ∨
      groups.mapM Entrance.ofGroup? = none ∧ ∃ cause, (s.openGroups groups).2 = some cause := by
  induction groups generalizing s with
  | nil => exact .inl ⟨[], rfl, rfl⟩
  | cons group rest ih =>
    obtain ⟨hgroup, hrest⟩ := List.forall_mem_cons.mp hfour
    unfold openGroups
    rw [List.mapM_cons]
    rcases s.openGroup_of_four hgroup with ⟨e, he, hopen⟩ | ⟨he, cause, hopen⟩
    · rw [he, hopen]
      dsimp only
      rcases ih (s.staged [e]) hrest with ⟨entrances, hread, hopened⟩ | ⟨hread, cause, hopened⟩
      · refine .inl ⟨e :: entrances, ?_, ?_⟩
        · rw [hread]
          rfl
        · rw [hopened, ← staged_cons]
      · refine .inr ⟨?_, cause, hopened⟩
        rw [hread]
        rfl
    · rw [he, hopen]
      exact .inr ⟨rfl, cause, rfl⟩

/-- A layout that can be read brings on those whom it names; any other text is a fault. -/
lemma openLayout_cases (s : Scene α σ) (header : String) :
    (∃ entrances, Entrance.layout? header = some entrances ∧
        s.openLayout header = (s.staged entrances, none)) ∨
      Entrance.layout? header = none ∧ ∃ cause, (s.openLayout header).2 = some cause := by
  unfold Entrance.layout? openLayout
  cases Script.tokens? header with
  | none => exact .inr ⟨rfl, _, rfl⟩
  | some tokens =>
    dsimp only [bind, Option.bind]
    by_cases hfours : tokens.length % 4 = 0
    · rw [if_pos hfours, if_neg (not_not.mpr hfours)]
      exact s.openGroups_of_fours fun group => Script.length_of_mem_fours
    · rw [if_neg hfours, if_pos hfours]
      exact .inr ⟨rfl, _, rfl⟩

lemma openLayout_of_layout? {header : String} {entrances : List Entrance}
    (h : Entrance.layout? header = some entrances) (s : Scene α σ) :
    s.openLayout header = (s.staged entrances, none) := by
  rcases s.openLayout_cases header with ⟨entrances', hread, hopen⟩ | ⟨hnone, -⟩
  · rw [hopen, Option.some.inj (hread.symm.trans h)]
  · rw [h] at hnone
    cases hnone

lemma openLayout_of_no_layout {header : String} (h : Entrance.layout? header = none)
    (s : Scene α σ) : ∃ cause, (s.openLayout header).2 = some cause := by
  rcases s.openLayout_cases header with ⟨entrances, hread, -⟩ | ⟨-, hfails⟩
  · rw [h] at hread
    cases hread
  · exact hfails

/-! ### Those who are there in the end -/

omit [Scalar α] in
lemma expects_iff_of_whom {f : Entrance} (h : f.whom (Stage.localPlayer α s.stage) =
    e.whom (Stage.localPlayer α s.stage)) : s.Expects f ↔ s.Expects e := by
  unfold Expects
  rw [h]

/-- Of those who can come, an entrance brings on whomever it means. -/
lemma any_enters? (he : s.Expects e) (f : Entrance) :
    (s.enters? f).any (fun a => a.whom (Stage.localPlayer α s.stage) =
      e.whom (Stage.localPlayer α s.stage)) =
    decide (f.whom (Stage.localPlayer α s.stage) = e.whom (Stage.localPlayer α s.stage)) := by
  rcases s.enters?_cases f with ⟨-, a, ha, hstages⟩ | ⟨hgone, hnone⟩
  · rw [ha, Option.any_some, hstages.whom]
  · rw [hnone, Option.any_none]
    exact (decide_eq_false fun heq => hgone ((expects_iff_of_whom heq).mpr he)).symm

/-- Whoever can come has the last entrance that means him. -/
lemma mem_staged_of_last? (hfresh : s.cast = .empty (Stage.localPlayer α s.stage))
    {entrances : List Entrance} (he : s.Expects e) {last : Entrance}
    (hlast : Entrance.last? (Stage.localPlayer α s.stage) entrances
      (e.whom (Stage.localPlayer α s.stage)) = some last) :
    ∃ a ∈ (s.staged entrances).cast.members.map Prod.snd, s.Stages last a := by
  rw [Entrance.last?] at hlast
  have hmeans : last.whom (Stage.localPlayer α s.stage) = e.whom (Stage.localPlayer α s.stage) := by
    simpa using List.find?_some hlast
  obtain ⟨-, a, ha, hstages⟩ | ⟨hgone, -⟩ := s.enters?_cases last
  · refine ⟨a, ?_, hstages⟩
    rw [staged, hfresh, Cast.mem_after_comesOn_iff, entrants, ← List.filterMap_reverse,
      List.find?_filterMap, hstages.whom, hmeans]
    simp only [any_enters? he, hlast, Option.bind_some, ha]
  · exact absurd ((expects_iff_of_whom hmeans).mpr he) hgone

/-- Nobody is there whom no entrance has brought on. -/
lemma exists_entrance_of_mem (hfresh : s.cast = .empty (Stage.localPlayer α s.stage))
    {entrances : List Entrance} {a : Actor α}
    (ha : a ∈ (s.staged entrances).cast.members.map Prod.snd) :
    ∃ e ∈ entrances, s.enters? e = some a := by
  rw [staged, hfresh, Cast.mem_after_comesOn_iff] at ha
  exact List.mem_filterMap.mp (List.mem_reverse.mp (List.mem_of_find?_eq_some ha))

/-! ### The layout of an event -/

/-- Where the header has a camera, its third command is read as the layout. -/
lemma openHeader_layout {t : Scene α σ} {music camera header : String} {view : Camera}
    (hcommands : t.working.commands.take 3 = [music, camera, header])
    (hlength : 3 ≤ t.settings.headerLength) (hsize : t.settings.headerLength ≤ t.working.size)
    (hcamera : Camera.ofHeader camera = .ok view) :
    ∃ s : Scene α σ, t.openHeader.2 = (s.openLayout header).2.map .layout := by
  unfold openHeader
  rw [if_neg (Nat.not_lt.mpr hsize), Nat.min_eq_right hlength, hcommands]
  dsimp only [List.getElem?_cons_zero, List.getElem?_cons_succ]
  rw [openCamera, hcamera]
  dsimp only
  generalize (openMusic _ music : Scene α σ) = s
  refine ⟨s.call (.viewport view), ?_⟩
  split
  · rename_i hfault
    rw [hfault, Option.map_some]
  · rename_i hfault
    rw [hfault, Option.map_none]

/-- So the header fails at its third command just where that is no layout. -/
lemma openHeader_fails_iff {t : Scene α σ} {music camera header : String} {view : Camera}
    (hcommands : t.working.commands.take 3 = [music, camera, header])
    (hlength : 3 ≤ t.settings.headerLength) (hsize : t.settings.headerLength ≤ t.working.size)
    (hcamera : Camera.ofHeader camera = .ok view) :
    (∃ fault, t.openHeader.2 = some fault ∧ fault.index = 2) ↔
      Entrance.layout? header = none := by
  obtain ⟨s, hopen⟩ := openHeader_layout hcommands hlength hsize hcamera
  rw [hopen]
  cases hread : Entrance.layout? header with
  | some entrances =>
    rw [openLayout_of_layout? hread]
    exact iff_of_false (fun ⟨_, hfault, _⟩ => nomatch hfault) nofun
  | none =>
    obtain ⟨cause, hcause⟩ := openLayout_of_no_layout hread s
    rw [hcause]
    exact iff_of_true ⟨_, rfl, rfl⟩ rfl

end Scene

/-- **A layout stages whom it names.** Where nobody is there yet, every entrance of a layout whose
name means no player who is elsewhere comes to pass: in the end its name finds a live actor, who
stands where the last of the entrances that mean him puts him and faces as that one tells. There is
one actor for each whom such entrances mean, and nobody else. A text that is no layout is a fault,
and the header of an event fails at its third command just where that one is no layout. -/
theorem layout_stages_whom_it_names {α σ : Type} [Scalar α] [Stage α σ] (s : Scene α σ)
    (header : String) (hfresh : s.cast = .empty (Stage.localPlayer α s.stage)) :
    let here := Stage.localPlayer α s.stage
    let cast := (s.openLayout header).1.cast
    let there := (cast.members.map Prod.snd).map (Actor.whom here)
    (∀ entrances, Entrance.layout? header = some entrances →
      (s.openLayout header).2 = none ∧
      (∀ e ∈ entrances, s.Expects e → ∃ last h a,
        Entrance.last? here entrances (e.whom here) = some last ∧
        cast.resolve? (ActorRef.parse e.name) = some h ∧ cast.get? h = some a ∧
        a.position = tileOrigin s.settings.tileSize last.tile ∧ a.facing = last.facing) ∧
      there.Nodup ∧ ∀ w, w ∈ there ↔ ∃ e ∈ entrances, s.Expects e ∧ e.whom here = w) ∧
    (Entrance.layout? header = none → ∃ cause, (s.openLayout header).2 = some cause) ∧
    ∀ t : Scene α σ, ∀ music camera view,
      t.working.commands.take 3 = [music, camera, header] → 3 ≤ t.settings.headerLength →
      t.settings.headerLength ≤ t.working.size → Camera.ofHeader camera = .ok view →
      ((∃ fault, t.openHeader.2 = some fault ∧ fault.index = 2) ↔
        Entrance.layout? header = none) := by
  intro here cast there
  refine ⟨fun entrances hread => ?_, fun hnone => Scene.openLayout_of_no_layout hnone s,
    fun t music camera view => Scene.openHeader_fails_iff⟩
  have hopen := Scene.openLayout_of_layout? hread s
  have hcast : cast = (s.staged entrances).cast := congrArg (·.1.cast) hopen
  have hplayer : cast.localPlayer = here := by
    rw [hcast, Scene.staged, hfresh]
    exact Cast.localPlayer_after _ _
  have hsingular : cast.Singular := by
    rw [hcast, Scene.staged, hfresh]
    exact (Cast.Singular.empty here).after _
  have hnodup := hsingular.whoms_nodup
  rw [hplayer] at hnodup
  have hstaged : ∀ e ∈ entrances, s.Expects e → ∃ last a,
      Entrance.last? here entrances (e.whom here) = some last ∧
      a ∈ cast.members.map Prod.snd ∧ s.Stages last a ∧ a.whom here = e.whom here := by
    intro e he hexpected
    obtain ⟨last, hlast, hmeans⟩ := Entrance.exists_last? here he
    obtain ⟨a, ha, hstages⟩ := Scene.mem_staged_of_last? hfresh hexpected hlast
    exact ⟨last, a, hlast, hcast ▸ ha, hstages, hstages.whom.trans hmeans⟩
  refine ⟨by rw [hopen], fun e he hexpected => ?_, hnodup, fun w => ?_⟩
  · obtain ⟨last, a, hlast, ha, hstages, hmeant⟩ := hstaged e he hexpected
    obtain ⟨h, hlive⟩ := hsingular.toOrderly.mem_snd_iff.mp ha
    refine ⟨last, h, a, hlast, ?_, hlive, hstages.position, hstages.facing⟩
    rw [Entrance.whom_eq] at hmeant
    rw [Cast.resolve?, hsingular.find?_iff_of_live hlive, hplayer, hmeant]
  · rw [List.mem_map]
    constructor
    · rintro ⟨a, ha, rfl⟩
      obtain ⟨e, he, henters⟩ := Scene.exists_entrance_of_mem hfresh (hcast ▸ ha)
      obtain ⟨hexpected, hstages⟩ := Scene.stages_of_enters? henters
      exact ⟨e, he, hexpected, hstages.whom.symm⟩
    · rintro ⟨e, he, hexpected, rfl⟩
      obtain ⟨-, a, -, ha, -, hmeant⟩ := hstaged e he hexpected
      exact ⟨a, ha, hmeant⟩

/-- An event that is about to read its header, of a stage where the first player is alone. -/
def aboutToOpen (commands : List String) : Scene Float32 Rehearsal :=
  { Event.ofCommands "opening" commands Settings.standard with
    cast := .empty 1, stage := {}, calls := [], reports := [], library := none, elapsed := 0 }

/-- The farmer and Abigail are named twice, and stand as the second names tell. The second player is
elsewhere. -/
theorem farmer_and_abigail_are_staged :
    let s := aboutToOpen ["none", "follow", "farmer 1 x 0"]
    let header := "farmer 1 2 0 Abigail 3 4 1 farmer1 5 6 2 farmer2 7 8 3 abigail 9 9 3"
    let cast := (s.openLayout header).1.cast
    s.cast = .empty (Stage.localPlayer Float32 s.stage) ∧ (s.openLayout header).2 = none ∧
    (∃ h a, cast.resolve? (ActorRef.parse "Abigail") = some h ∧ cast.get? h = some a ∧
      a.position = tileOrigin s.settings.tileSize ⟨9, 9⟩ ∧ a.facing = .left) ∧
    (∃ h a, cast.resolve? (ActorRef.parse "farmer") = some h ∧ cast.get? h = some a ∧
      a.position = tileOrigin s.settings.tileSize ⟨5, 6⟩ ∧ a.facing = .down) ∧
    (∃ cause, (s.openLayout "farmer 1 x 0").2 = some cause) ∧
    ∃ fault, s.openHeader.2 = some fault ∧ fault.index = 2 := by
  intro s header cast
  have hread : Entrance.layout? header = some [⟨"farmer", ⟨1, 2⟩, .up⟩, ⟨"Abigail", ⟨3, 4⟩, .right⟩,
      ⟨"farmer1", ⟨5, 6⟩, .down⟩, ⟨"farmer2", ⟨7, 8⟩, .left⟩, ⟨"abigail", ⟨9, 9⟩, .left⟩] := by
    decide +kernel
  have hfresh : s.cast = .empty (Stage.localPlayer Float32 s.stage) := rfl
  obtain ⟨hopened, -, -⟩ := layout_stages_whom_it_names s header hfresh
  obtain ⟨hfine, hstands, -⟩ := hopened _ hread
  obtain ⟨-, hfaulty, hfails⟩ := layout_stages_whom_it_names s "farmer 1 x 0" hfresh
  have hexpected : s.Expects ⟨"Abigail", ⟨3, 4⟩, .right⟩ ∧ s.Expects ⟨"farmer", ⟨1, 2⟩, .up⟩ := by
    decide +kernel
  have hnone : Entrance.layout? "farmer 1 x 0" = none := by decide +kernel
  refine ⟨hfresh, hfine, ?_, ?_, hfaulty hnone, ?_⟩
  · obtain ⟨last, h, a, hlast, hplace⟩ := hstands ⟨"Abigail", ⟨3, 4⟩, .right⟩ (by simp) hexpected.1
    obtain rfl : (⟨"abigail", ⟨9, 9⟩, .left⟩ : Entrance) = last := by
      refine Option.some.inj (Eq.trans ?_ hlast)
      decide +kernel
    exact ⟨h, a, hplace⟩
  · obtain ⟨last, h, a, hlast, hplace⟩ := hstands ⟨"farmer", ⟨1, 2⟩, .up⟩ (by simp) hexpected.2
    obtain rfl : (⟨"farmer1", ⟨5, 6⟩, .down⟩ : Entrance) = last := by
      refine Option.some.inj (Eq.trans ?_ hlast)
      decide +kernel
    exact ⟨h, a, hplace⟩
  · exact (hfails s "none" "follow" .follow rfl (by decide +kernel) (by decide +kernel)
      (by decide +kernel)).mpr hnone

end Cutscene
