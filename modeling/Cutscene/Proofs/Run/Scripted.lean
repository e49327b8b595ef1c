import Cutscene.Proofs.Run.Handles

/-!
# Who Is Said to Be Moved by a Script

A script says that it moves an actor when it sends it to a target or along a path, and lets it go
when it lands, when the path is over or when all paths are stopped. An actor that is said to be
moved and is not is a stray (`Troupe.Stray`). Only `halt` and `warp`, which drop targets and let
nobody go, and the end of the event make strays; nothing else that happens to a troupe does.
-/

namespace Cutscene

variable {α σ : Type}

namespace Troupe

/-- The actor has a target or a path. -/
def Drives (T : Troupe α) (h : Handle) : Prop := h ∈ T.barrier.movers ∨ h ∈ T.walkers

/-- The actor is said to be moved by a script, and has neither target nor path. -/
def Stray (T : Troupe α) (h : Handle) : Prop :=
  (∃ a, (h, a) ∈ T.cast.members ∧ a.scripted = true) ∧ ¬ T.Drives h

variable {T U : Troupe α} {h k : Handle} {a b : Actor α}

lemma drives_follow {p : Path α} (hk : k ≠ p.actor) :
    (T.follow p).Drives k ↔ T.Drives k := by
  have hwalkers : k ∈ (T.follow p).walkers ↔ k ∈ T.walkers := by
    simp only [walkers, follow, List.map_append, List.mem_append, List.mem_map, List.mem_filter,
      decide_eq_true_eq, List.mem_singleton]
    constructor
    · rintro (⟨q, ⟨hq, -⟩, rfl⟩ | ⟨q, rfl, rfl⟩)
      · exact ⟨q, hq, rfl⟩
      · exact absurd rfl hk
    · rintro ⟨q, hq, rfl⟩
      exact .inl ⟨q, ⟨hq, hk⟩, rfl⟩
  exact or_congr Iff.rfl hwalkers

lemma drives_of_follow {p : Path α} : (T.follow p).Drives p.actor := by
  refine .inr ?_
  simp [walkers, follow]

/-- Who bears the mark once an actor is changed bore it before, unless it is the one changed. -/
lemma scripted_of_put (hb : b.scripted = true → a.scripted = true)
    (live : T.cast.get? h = some a)
    (hk : ∃ a, (k, a) ∈ (T.cast.modify h fun _ => b).members ∧ a.scripted = true) :
    ∃ a, (k, a) ∈ T.cast.members ∧ a.scripted = true := by
  obtain ⟨c, hc, hmark⟩ := hk
  rcases Cast.mem_modify hc with ⟨-, -, heq⟩ | ⟨hmem, -⟩
  · obtain ⟨rfl, rfl⟩ := Prod.mk.inj heq
    exact ⟨a, Cast.mem_members_of_get? live, hb hmark⟩
  · exact ⟨c, hmem, hmark⟩

lemma scripted_of_put_ne (hne : k ≠ h)
    (hk : ∃ a, (k, a) ∈ (T.cast.modify h fun _ => b).members ∧ a.scripted = true) :
    ∃ a, (k, a) ∈ T.cast.members ∧ a.scripted = true := by
  obtain ⟨c, hc, hmark⟩ := hk
  rcases Cast.mem_modify hc with ⟨-, -, heq⟩ | ⟨hmem, -⟩
  · exact absurd (Prod.mk.inj heq).1 hne
  · exact ⟨c, hmem, hmark⟩

/-- Whoever bears the mark once the walkers are let go is none of them. -/
lemma scripted_of_released {l : List Handle} {c : Cast α} {m : Handle × Actor α}
    (hm : m ∈ (l.foldl (fun c h => c.modify h fun a => a.halt.freed) c).members)
    (hmark : m.2.scripted = true) : m ∈ c.members ∧ m.1 ∉ l := by
  induction l generalizing c with
  | nil => exact ⟨hm, List.not_mem_nil⟩
  | cons h rest ih =>
    obtain ⟨hmem, hrest⟩ := ih hm
    rcases Cast.mem_modify hmem with ⟨a, -, rfl⟩ | ⟨hmem, hne⟩
    · cases hmark
    · exact ⟨hmem, by simp [hne, hrest]⟩

lemma scripted_of_spawn {c : Cast α} (ha : a.scripted = false)
    (hk : ∃ b, (k, b) ∈ (c.spawn a).2.members ∧ b.scripted = true) :
    ∃ b, (k, b) ∈ c.members ∧ b.scripted = true := by
  obtain ⟨b, hb, hmark⟩ := hk
  rcases Cast.mem_spawn hb with rfl | hmem
  · rw [ha] at hmark
    cases hmark
  · exact ⟨b, hmem, hmark⟩

lemma scripted_of_modifyAll {c : Cast α} {f : Actor α → Actor α}
    (hf : ∀ a, (f a).scripted = true → a.scripted = true)
    (hk : ∃ b, (k, b) ∈ (c.modifyAll f).members ∧ b.scripted = true) :
    ∃ b, (k, b) ∈ c.members ∧ b.scripted = true := by
  obtain ⟨b, hb, hmark⟩ := hk
  obtain ⟨n, hn, heq⟩ := List.mem_map.mp hb
  obtain ⟨rfl, rfl⟩ := Prod.mk.inj heq
  exact ⟨n.2, hn, hf _ hmark⟩

variable [Scalar α] {g : Settings α} {name : String}

/-! ### Commands -/

/-- The commands that drop targets and let nobody go. -/
def Drops (name : String) : Prop := name = "halt" ∨ name = "warp"

/-- An act makes a stray only of one whose target it drops. -/
lemma stray_of_act (act : Act g name T U) (hU : U.Stray k) :
    T.Stray k ∨ Drops name ∧ T.Drives k := by
  obtain ⟨hmark, hidle⟩ := hU
  cases act with
  | poses live pose =>
    refine .inl ⟨scripted_of_put ?_ live hmark, hidle⟩
    exact fun hon => pose.scripted ▸ hon
  | shifts named live offset =>
    refine .inl ⟨scripted_of_put ?_ live hmark, hidle⟩
    exact id
  | paces named live positive =>
    refine .inl ⟨scripted_of_put ?_ live hmark, hidle⟩
    exact id
  | sends named live offset facing =>
    have hne : k ≠ _ := fun heq => hidle (.inl (Barrier.mem_movers_insert.mpr (.inl heq)))
    refine .inl ⟨scripted_of_put_ne hne hmark, fun hdrives => hidle ?_⟩
    exact hdrives.imp_left fun hk => Barrier.mem_movers_insert.mpr (.inr hk)
  | follows named live steps looping =>
    have hne : k ≠ _ := fun heq => hidle (heq ▸ drives_of_follow)
    refine .inl ⟨scripted_of_put_ne hne hmark, fun hdrives => hidle ?_⟩
    exact (drives_follow hne).mpr hdrives
  | circles named live width height pause =>
    have hne : k ≠ _ := fun heq => hidle (heq ▸ drives_of_follow)
    refine .inl ⟨scripted_of_put_ne hne hmark, fun hdrives => hidle ?_⟩
    exact (drives_follow hne).mpr hdrives
  | warps named live tile =>
    by_cases hdrives : T.Drives k
    · exact .inr ⟨.inr named, hdrives⟩
    · refine .inl ⟨scripted_of_put ?_ live hmark, hdrives⟩
      exact id
  | halts named =>
    by_cases hdrives : T.Drives k
    · exact .inr ⟨.inl named, hdrives⟩
    · refine .inl ⟨scripted_of_modifyAll ?_ hmark, hdrives⟩
      exact fun _ => id
  | releases named =>
    obtain ⟨a, ha, hmarked⟩ := hmark
    obtain ⟨hmem, hnot⟩ := scripted_of_released ha hmarked
    refine .inl ⟨⟨a, hmem, hmarked⟩, fun hdrives => hidle (.inl ?_)⟩
    exact hdrives.resolve_right hnot
  | comes named actor kind tile facing =>
    exact .inl ⟨scripted_of_spawn rfl hmark, hidle⟩
  | leaves named h =>
    obtain ⟨a, ha, hmarked⟩ := hmark
    obtain ⟨ha, hne⟩ := List.mem_filter.mp ha
    have hne : k ≠ h := by simpa using hne
    refine .inl ⟨⟨a, ha, hmarked⟩, fun hdrives => hidle ?_⟩
    refine hdrives.imp (fun hk => Barrier.mem_movers_remove.mpr ⟨hk, hne⟩) fun hk => ?_
    obtain ⟨p, hp, rfl⟩ := List.mem_map.mp hk
    exact List.mem_map_of_mem (List.mem_filter.mpr ⟨hp, by simpa using hne⟩)

/-- The commands that drop targets give out none, and no paths either. -/
lemma drives_of_act (hname : Drops name) (act : Act g name T U) (hU : U.Drives k) :
    T.Drives k := by
  cases act with
  | warps named live tile =>
    exact hU.imp_left fun hk => (Barrier.mem_movers_remove.mp hk).1
  | halts named => exact .inr (hU.resolve_left List.not_mem_nil)
  | poses live pose => exact hU
  | shifts named => exact hU
  | paces named => exact hU
  | comes named => exact hU
  | sends named | follows named | circles named | releases named | leaves named =>
    rcases hname with h | h <;> exact absurd (h.symm.trans named) (by decide)

lemma drives_of_acts (hname : Drops name) (acts : Relation.ReflTransGen (Act g name) T U)
    (hU : U.Drives k) : T.Drives k := by
  induction acts with
  | refl => exact hU
  | tail _ act ih => exact ih (drives_of_act hname act hU)

/-- A command makes a stray only of one whose target it drops. -/
theorem stray_of_acts (acts : Relation.ReflTransGen (Act g name) T U) (hU : U.Stray k) :
    T.Stray k ∨ Drops name ∧ T.Drives k := by
  induction acts with
  | refl => exact .inl hU
  | tail earlier act ih =>
    rcases stray_of_act act hU with hstray | ⟨hname, hdrives⟩
    · exact ih hstray
    · exact .inr ⟨hname, drives_of_acts hname earlier hdrives⟩

/-! ### Between the commands -/

/-- A path that is over lets its actor go. -/
lemma stray_of_elapse (hT : T.Sound) (time : α) (hU : (T.elapse time g).Stray k) : T.Stray k := by
  obtain ⟨⟨a, ha, hmark⟩, hidle⟩ := hU
  simp only [elapse, Path.updateAll_eq_drive] at ha hidle
  have hturn : ∀ p ∈ T.paths, ∀ a, (Path.turn time g p a).2.1.scripted = true →
      (Path.turn time g p a).2.2 = false ∧ a.scripted = true := by
    intro p hp a hon
    have hmoved : p.Moved a (Path.turn time g p a).1 (Path.turn time g p a).2.1
        (Path.turn time g p a).2.2 := Path.update_moved (hT.paths p hp)
    cases hdone : (Path.turn time g p a).2.2 with
    | true =>
      rw [(hmoved.frees hdone).scripted] at hon
      cases hon
    | false => exact ⟨rfl, (hmoved.walks hdone).scripted.symm.trans hon⟩
  obtain ⟨hbefore, hkeeps⟩ := Cast.drive_mark (fun a => a.scripted = true)
    (fun p a => p.update_actor a time g) hturn ha hmark
  refine ⟨scripted_of_modifyAll (fun a hon => ?_) hbefore, fun hdrives => hidle ?_⟩
  · exact (a.update_poses time).scripted ▸ hon
  · exact hdrives.imp_right hkeeps

/-- Whoever lands is let go. -/
lemma stray_of_resolve (hU : (T.resolve g).Stray k) : T.Stray k := by
  obtain ⟨⟨a, ha, hmark⟩, hidle⟩ := hU
  simp only [resolve, Barrier.advance_eq_drive] at ha hidle
  have hturn : ∀ m ∈ T.barrier.pending, ∀ a, (Barrier.turn g m a).2.1.scripted = true →
      (Barrier.turn g m a).2.2 = false ∧ a.scripted = true := by
    intro m _ a hon
    unfold Barrier.turn at hon ⊢
    rcases a.approach_cases g m.2 with ⟨-, heq⟩ | ⟨-, heq⟩
    · rw [heq] at hon
      cases hon
    · rw [heq] at hon ⊢
      exact ⟨rfl, (a.stepToward_walks _ _).scripted.symm.trans hon⟩
  obtain ⟨hbefore, hkeeps⟩ := Cast.drive_mark (fun a => a.scripted = true) (fun _ _ => rfl)
    hturn ha hmark
  exact ⟨hbefore, fun hdrives => hidle (hdrives.imp_left hkeeps)⟩

lemma stray_of_drift (hT : T.Sound) (drift : Drift g T U) (hU : U.Stray k) : T.Stray k := by
  cases drift with
  | assembles player idle pathless =>
    obtain ⟨⟨a, ha, -⟩, -⟩ := hU
    cases ha
  | comes actor kind tile facing => exact ⟨scripted_of_spawn rfl hU.1, hU.2⟩
  | elapses time => exact stray_of_elapse hT time hU
  | resolves => exact stray_of_resolve hU
  | dismisses =>
    obtain ⟨⟨a, ha, hmark⟩, -⟩ := hU
    obtain ⟨n, -, heq⟩ := List.mem_map.mp ha
    obtain ⟨-, rfl⟩ := Prod.mk.inj heq
    cases hmark

theorem stray_of_drifts (hT : T.Sound) (drifts : Relation.ReflTransGen (Drift g) T U)
    (hU : U.Stray k) : T.Stray k := by
  induction drifts with
  | refl => exact hU
  | tail earlier drift ih =>
    exact ih (stray_of_drift (sound_rule.drifts (g := g) hT earlier) drift hU)

end Troupe

/-! ### Every run -/

namespace Scene

open Troupe Commands

variable [Scalar α] [Stage α σ]

/-- The round drops the target of an actor that then has neither target nor path. -/
structure Strands (d : Scene α σ) (h : Handle) : Prop where
  named : d.command.1 = "halt" ∨ d.command.1 = "warp"
  driven : d.troupe.Drives h
  left : ¬ (d.round table).1.troupe.Drives h

/-- One of these rounds has left the actor without target and path, and it has had none since. -/
def Stranded (past : List (Scene α σ)) (h : Handle) : Prop :=
  ∃ earlier d later, past = earlier ++ d :: later ∧ d.Strands h ∧
    ∀ e ∈ later, ¬ e.troupe.Drives h

/-- Whoever is said to be moved by a script has a target or a path, or the event has finished, or
one of these rounds has left him stranded. -/
def Honest (past : List (Scene α σ)) (s : Scene α σ) : Prop :=
  ∀ m ∈ s.cast.members, m.2.scripted = true →
    m.1 ∈ s.barrier.pending.map Prod.fst ∨ m.1 ∈ s.paths.map Path.actor ∨
      s.phase = .finished ∨ Stranded past m.1

variable {s : Scene α σ} {past : List (Scene α σ)} {h : Handle}

lemma Stranded.append (hpast : Stranded past h) (hs : ¬ s.troupe.Drives h) :
    Stranded (past ++ [s]) h := by
  obtain ⟨earlier, d, later, rfl, hd, hlater⟩ := hpast
  refine ⟨earlier, d, later ++ [s], by simp, hd, fun e he => ?_⟩
  rcases List.mem_append.mp he with he | he
  · exact hlater e he
  · rwa [List.mem_singleton.mp he]

lemma Strands.stranded (hs : s.Strands h) : Stranded (past ++ [s]) h :=
  ⟨past, s, [], rfl, hs, fun _ he => absurd he List.not_mem_nil⟩

/-- The troupe is sound, and there are no strays but those that are accounted for. -/
structure Shepherded (past : List (Scene α σ)) (s : Scene α σ) : Prop where
  ruled : s.Ruled fun _ T => T.Sound
  strays : ∀ k, s.troupe.Stray k → s.phase = .finished ∨ Stranded past k

lemma Shepherded.honest (hs : Shepherded past s) : Honest past s := by
  intro m hm hmark
  by_cases hmover : m.1 ∈ s.barrier.movers
  · exact .inl hmover
  · by_cases hwalker : m.1 ∈ s.paths.map Path.actor
    · exact .inr (.inl hwalker)
    · exact .inr (.inr (hs.strays m.1 ⟨⟨m.2, hm, hmark⟩, not_or.mpr ⟨hmover, hwalker⟩⟩))

lemma Shepherded.overture (hrest : s.AtRest) (hs : Shepherded past s) :
    Shepherded past s.overture.1 where
  ruled := hs.ruled.overture Troupe.sound_rule hrest
  strays := by
    intro k hk
    have hdrifts := (overture_drifts hs.ruled.unopened).troupe
    refine (hs.strays k (stray_of_drifts hs.ruled.rule hdrifts hk)).imp_left fun hfinished => ?_
    have hover : s.isTerminal = true := (isTerminal_eq_true_iff s).mpr (.inl hfinished)
    rwa [Scene.overture, if_pos hover]

lemma Shepherded.round (hwork : s.AtWork) (hs : Shepherded past s) :
    Shepherded (past ++ [s]) (s.round table).1 where
  ruled := hs.ruled.round Troupe.sound_rule hwork
  strays := by
    intro k hk
    rcases round_troupe hwork with hacts | ⟨hfinished, -⟩
    · rcases stray_of_acts hacts hk with hstray | ⟨hnamed, hdriven⟩
      · rcases hs.strays k hstray with hfinished | hpast
        · have hgoes := hwork.isTerminal
          rw [(isTerminal_eq_true_iff s).mpr (.inl hfinished)] at hgoes
          cases hgoes
        · exact .inr (hpast.append hstray.2)
      · exact .inr (Strands.stranded ⟨hnamed, hdriven, hk.2⟩)
    · exact .inl hfinished

lemma Shepherded.apply (hrest : s.AtRest) (hs : Shepherded past s) (move : HostMove α σ)
    (hmove : move ≠ .tick) : Shepherded past (move.apply table s) where
  ruled := hs.ruled.apply Troupe.sound_rule hrest move hmove
  strays := by
    intro k hk
    rcases apply_drifts s hmove with hdrifts | ⟨ending, hgoes, heq⟩
    · have hstray := stray_of_drifts hs.ruled.rule hdrifts.troupe hk
      refine (hs.strays k hstray).imp_left fun hfinished => ?_
      rcases (apply_of_ne_tick hrest.toCalm hmove table).2 with hsame | ⟨hgoes, -⟩
      · exact hsame.phase.trans hfinished
      · rw [(isTerminal_eq_true_iff s).mpr (.inl hfinished)] at hgoes
        cases hgoes
    · rw [heq]
      exact .inl (finish_ends hgoes ending).phase

lemma shepherded_chronicle :
    Chronicle (Shepherded : List (Scene α σ) → Scene α σ → Prop) where
  overture hrest hs := hs.overture hrest
  round hwork hs := hs.round hwork
  move move hmove hrest hs := hs.apply hrest move hmove

end Scene

open Scene Commands

/-- **Only actors on their way are said to be moved by a script.** At the end of every run, and
before each of its rounds, an actor that is said to be moved by a script has a target or a path,
unless the event has finished, or a `halt` or a `warp` has dropped its target and it has had neither
target nor path since. -/
theorem scripted_actor_is_driven [Scalar α] [Stage α σ] (p : Premiere α σ)
    (moves : List (HostMove α σ)) :
    Honest (p.scene.rounds table moves) (p.scene.play table moves) ∧
      ∀ earlier d later, p.scene.rounds table moves = earlier ++ d :: later →
        Honest earlier d := by
  have hfirst : Shepherded [] p.scene := by
    refine ⟨p.ruled (.of_idle rfl rfl), fun k hk => ?_⟩
    obtain ⟨⟨a, ha, -⟩, -⟩ := hk
    exact absurd ha List.not_mem_nil
  obtain ⟨hlast, hrounds⟩ := shepherded_chronicle.play p.atRest hfirst moves
  refine ⟨hlast.honest, fun earlier d later hsplit => ?_⟩
  rw [hsplit] at hrounds
  exact hrounds.at.honest

/-- Abigail walks on until a `halt` drops her target. -/
def halted : Premiere Float32 Rehearsal :=
  rehearsed ["move Abigail 5 0 1 continue", "halt", "pause 1000"]

/-- Abigail is on her way when the `halt` comes, which leaves her stranded. -/
theorem halt_strands_walker :
    (∃ d e, halted.scene.rounds table [.tick, .tick] = [d, e] ∧ Honest [d] e) ∧
      ∃ m ∈ (halted.scene.play table [.tick, .tick]).cast.members,
        m.2.scripted = true ∧ Stranded (halted.scene.rounds table [.tick, .tick]) m.1 := by
  obtain ⟨hend, hrounds⟩ := scripted_actor_is_driven halted [.tick, .tick]
  have htwo : (halted.scene.rounds table [.tick, .tick]).length = 2 := by
    rw [table_eq_spelled]
    decide +kernel
  have hrun : (halted.scene.play table [.tick, .tick]).cast.members.any (fun m =>
      decide (m.2.scripted = true ∧
        m.1 ∉ (halted.scene.play table [.tick, .tick]).barrier.pending.map Prod.fst ∧
        m.1 ∉ (halted.scene.play table [.tick, .tick]).paths.map Path.actor ∧
        (halted.scene.play table [.tick, .tick]).phase ≠ .finished)) = true := by
    rw [table_eq_spelled]
    decide +kernel
  generalize halted.scene.rounds table [.tick, .tick] = rounds at hend hrounds htwo ⊢
  generalize halted.scene.play table [.tick, .tick] = s at hend hrun ⊢
  obtain ⟨d, e, rfl⟩ := List.length_eq_two.mp htwo
  obtain ⟨m, hm, hall⟩ := List.any_eq_true.mp hrun
  obtain ⟨hmark, hmover, hwalker, hgoes⟩ := of_decide_eq_true hall
  refine ⟨⟨d, e, rfl, hrounds [d] e [] rfl⟩, m, hm, hmark, ?_⟩
  exact (((hend m hm hmark).resolve_left hmover).resolve_left hwalker).resolve_left hgoes

/-- A `halt` drops targets and lets nobody go: it is not the case that only an actor with a target
or a path is said to be moved by a script. -/
theorem halt_lets_nobody_go :
    ¬ ∀ (p : Premiere Float32 Rehearsal) (moves : List (HostMove Float32 Rehearsal)),
      ∀ t ∈ p.scene.course table moves, ∀ m ∈ t.cast.members, m.2.scripted = true →
        m.1 ∈ t.barrier.pending.map Prod.fst ∨ m.1 ∈ t.paths.map Path.actor := by
  intro h
  have hmem := halted.scene.play_mem_course table [.tick, .tick]
  have hrun : (halted.scene.play table [.tick, .tick]).cast.members.any (fun m =>
      decide (m.2.scripted = true ∧
        m.1 ∉ (halted.scene.play table [.tick, .tick]).barrier.pending.map Prod.fst ∧
        m.1 ∉ (halted.scene.play table [.tick, .tick]).paths.map Path.actor)) = true := by
    rw [table_eq_spelled]
    decide +kernel
  obtain ⟨m, hm, hall⟩ := List.any_eq_true.mp hrun
  obtain ⟨hmark, hmover, hwalker⟩ := of_decide_eq_true hall
  exact (h halted _ _ hmem m hm hmark).elim hmover hwalker

end Cutscene
