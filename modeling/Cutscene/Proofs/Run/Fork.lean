import Cutscene.Proofs.Conduct.Table
import Cutscene.Proofs.Run.Fatal
import Cutscene.Proofs.Run.Refusal
import Cutscene.Proofs.Run.Skip

/-!
# Forks

The fork variable is a latch: a question that is tagged with a number and answered with it turns it
on, and nothing turns it off. A `fork` with a key alone looks at it, one with a flag asks the stage,
and a `switchEvent` asks nobody. What it leads to is the segment of the key, from the first of three
sources that has it. A script that goes on with a segment has begun long ago, so no tick reads a
header for it.
-/

namespace Cutscene

variable {α σ : Type} [Scalar α] [Stage α σ]

namespace Scene

variable {s d q t : Scene α σ} {raw key : String} {swap : Swap}

/-! ### Questions -/

/-- The round that starts here is one of a question that is tagged with a number, and the question
is answered with this number. -/
def PicksTagged (q : Scene α σ) : Prop :=
  (∃ raw, q.At raw) ∧ q.command.1 = "question" ∧ ∃ tag n fork, q.command.2.get? 1 = some tag ∧
    Commands.forkTag? tag = some (some n) ∧ q.wait = some (.answer fork) ∧
    (Stage.takeAnswer α q.stage).1 = some n

omit [Scalar α] in
lemma question_forkVariable (a : Args) (s : Scene α σ) :
    (Commands.question a s).scene.forkVariable = true ↔ s.forkVariable = true ∨
      ∃ n, s.wait = some (.answer (some n)) ∧ (Stage.takeAnswer α s.stage).1 = some n := by
  unfold Commands.question
  split
  · rename_i fork hw
    dsimp only
    split
    · rename_i hnone
      simp [done, hw, hnone]
    · rename_i n hn
      by_cases hfork : fork = some n
      · simp [done, advance, Event.advance, onEvent, hw, hn, hfork]
      · simp [done, advance, Event.advance, onEvent, hw, hn, hfork]
  · rename_i hother
    have hsame : ∀ t : Scene α σ, t.forkVariable = s.forkVariable →
        (t.forkVariable = true ↔ s.forkVariable = true ∨
          ∃ n, s.wait = some (.answer (some n)) ∧ (Stage.takeAnswer α s.stage).1 = some n) := by
      intro t ht
      rw [ht]
      refine ⟨.inl, fun h => h.resolve_right ?_⟩
      rintro ⟨n, hw, -⟩
      exact hother _ hw
    split
    · exact hsame s rfl
    · dsimp only [reading]
      split
      · split <;> exact hsame _ rfl
      · exact hsame _ rfl

omit [Scalar α] in
lemma runCommand_forkVariable {table : CommandTable (Handler α σ)}
    (htable : ∀ name h, table.resolve? name = some ("question", h) → h = Commands.question)
    (hname : (table.commandOf raw).1 = "question") :
    (runCommand table s s.pointer raw).forkVariable = true ↔ s.forkVariable = true ∨
      ∃ n, s.wait = some (.answer (some n)) ∧ (Stage.takeAnswer α s.stage).1 = some n := by
  rw [runCommand_of_name htable (fun a s => (Commands.question_obeys a s).fault) (by decide) hname]
  generalize hr : (Commands.question (table.commandOf raw).2 s.underWay).scene = r
  have hfork : (r.onEvent Event.applyEdits).atEase.forkVariable = r.forkVariable :=
    r.applyEdits_eases.forkVariable
  rw [hfork, ← hr]
  exact question_forkVariable _ s.underWay

/-- A round turns the fork variable on if it is one of a question that is answered as it is
tagged, and nothing turns it off. -/
lemma round_forkVariable (hw : s.AtWork) (hs : s.Attended) :
    (s.round Commands.table).1.forkVariable = true ↔ s.forkVariable = true ∨ s.PicksTagged := by
  by_cases hpicks : (∃ raw, s.At raw) ∧ s.command.1 = "question"
  · obtain ⟨⟨raw, hat⟩, hname⟩ := hpicks
    obtain ⟨phase, chain, heq⟩ := round_at hw hat
    have hcommand := hname
    rw [hat.command_eq] at hcommand
    have hrun := runCommand_forkVariable (s := { s with chainRequested := false })
      (fun _ _ => Commands.handler_of_resolve? (by simp [Commands.builtIn])) hcommand
    rw [heq]
    refine hrun.trans (or_congr_right ⟨?_, ?_⟩)
    · rintro ⟨n, hwait, hanswer⟩
      -- The wait is the question's own, so it has the number of the tag.
      have hown := hs.owned _ hwait
      rw [hname] at hown
      obtain ⟨-, tag, hget, htag⟩ := hown.resolve_right fun h => by simp at h
      exact ⟨⟨raw, hat⟩, hname, tag, n, some n, hget, htag, hwait, hanswer⟩
    · rintro ⟨-, -, tag, n, fork, hget, htag, hwait, hanswer⟩
      have hown := hs.owned _ hwait
      rw [hname] at hown
      obtain ⟨-, tag', hget', htag'⟩ := hown.resolve_right fun h => by simp at h
      obtain rfl := Option.some.inj (hget.symm.trans hget')
      obtain rfl := Option.some.inj (htag.symm.trans htag')
      exact ⟨n, hwait, hanswer⟩
  · have hnot : ¬ s.PicksTagged := fun h => hpicks ⟨h.1, h.2.1⟩
    have hsame : (s.round Commands.table).1.forkVariable = s.forkVariable := by
      rcases round_or_at s with hat | heq | heq
      · exact (round_conduct hw).forkVariable fun hname => hpicks ⟨hat, hname⟩
      · rw [heq]
        exact ((Tidy.refl s).finish .plain).forkVariable
      · rw [heq]
        rfl
    rw [hsame]
    exact ⟨.inl, fun h => h.resolve_right hnot⟩

lemma forkVariable_latch : Latch Commands.table (fun s : Scene α σ => s.AtRest ∧ s.Attended)
    (fun s => s.AtWork ∧ s.Attended) (fun s => s.forkVariable = true) PicksTagged where
  toKept := attended_habit.kept
  overture_on s _ := by rw [(overture_tidy s).forkVariable]
  round_on _ hs := round_forkVariable hs.1 hs.2
  move_on s move hmove := by
    cases move with
    | tick => exact absurd rfl hmove
    | skip => rw [HostMove.apply, (Tidy.skip (.refl s)).forkVariable]
    | requestSkip => rfl
    | finish ending => rw [HostMove.apply, ((Tidy.refl s).finish ending).forkVariable]
    | surround stage library elapsed => rfl

/-! ### Segments -/

/-- The segment of a key: from the scene's own table, or else from the event's own asset in the
library, or else, for a key with a colon, from the translations. -/
inductive Segment (s : Scene α σ) (key : String) : String → Prop
  | own {text : String} (table : s.sceneData.lookup key = some text) : Segment s key text
  | stored {text : String} {k : ScriptKey} {library : Library}
      (table : s.sceneData.lookup key = none) (script : s.key = some k)
      (opened : s.library = some library) (entry : library.entry? k.asset key = some text) :
      Segment s key text
  | translated {text : String} (table : s.sceneData.lookup key = none)
      (entry : ∀ k library, s.key = some k → s.library = some library →
        library.entry? k.asset key = none)
      (colon : ':' ∈ key.toList) (translation : Stage.translate? α s.stage key = some text) :
      Segment s key text

/-- What the event's own asset in the library has under a key. -/
def stored? (s : Scene α σ) (key : String) : Option String :=
  s.key.bind fun k => s.library.bind fun library => library.entry? k.asset key

omit [Scalar α] [Stage α σ] in
lemma stored?_eq_some_iff {text : String} : s.stored? key = some text ↔
    ∃ k library, s.key = some k ∧ s.library = some library ∧
      library.entry? k.asset key = some text := by
  simp [stored?, Option.bind_eq_some_iff]

omit [Scalar α] [Stage α σ] in
lemma stored?_eq_none_iff : s.stored? key = none ↔
    ∀ k library, s.key = some k → s.library = some library →
      library.entry? k.asset key = none := by
  simp only [stored?, Option.bind_eq_none_iff]
  exact ⟨fun h k library hk hl => h k hk library hl, fun h k hk library hl => h k library hk hl⟩

omit [Scalar α] in
theorem segmentText?_eq_some_iff {text : String} :
    Commands.segmentText? s key = some text ↔ s.Segment key text := by
  have hsources : Commands.segmentText? s key = ((s.sceneData.lookup key).or (s.stored? key)).or
      (if key.toList.contains ':' then Stage.translate? α s.stage key else none) := rfl
  rw [hsources, Option.or_eq_some_iff, Option.or_eq_some_iff, Option.or_eq_none_iff,
    stored?_eq_some_iff, stored?_eq_none_iff]
  constructor
  · rintro ((htable | ⟨htable, k, library, hk, hlibrary, hentry⟩) | ⟨⟨htable, hentry⟩, htext⟩)
    · exact .own htable
    · exact .stored htable hk hlibrary hentry
    · by_cases hcolon : key.toList.contains ':'
      · rw [if_pos hcolon] at htext
        exact .translated htable hentry (List.contains_iff_mem.mp hcolon) htext
      · rw [if_neg hcolon] at htext
        cases htext
  · rintro (htable | ⟨htable, hk, hlibrary, hentry⟩ | ⟨htable, hentry, hcolon, htext⟩)
    · exact .inl (.inl htable)
    · exact .inl (.inr ⟨htable, _, _, hk, hlibrary, hentry⟩)
    · refine .inr ⟨⟨htable, hentry⟩, ?_⟩
      rwa [if_pos (List.contains_iff_mem.mpr hcolon)]

omit [Scalar α] in
lemma segmentText?_eq_none (h : ∀ text, ¬ s.Segment key text) :
    Commands.segmentText? s key = none :=
  Option.eq_none_iff_forall_ne_some.mpr fun text htext => h text (segmentText?_eq_some_iff.mp htext)

/-! ### Redirection -/

/-- The scene after a round whose command passes, with some reports. -/
def passedOn (d : Scene α σ) (raw : String) (found : List (Severity × Fault)) : Scene α σ :=
  { d.passed raw found with phase := .running, chainRequested := false }

/-- The scene after a round that goes on with another script. -/
def goneOn (d : Scene α σ) (text : String) (swap : Swap) : Scene α σ :=
  { d with
    working := ⟨Script.split text, d.working.version + 1⟩
    pointer := 0
    wait := none
    flags := Event.Flags.swapped d.flags swap
    phase := .running
    chainRequested := false }

/-- The script goes on with the segment of a key; a key without a segment is reported, and the
command passes. -/
structure Redirected (d : Scene α σ) (raw key : String) (swap : Swap) (t : Scene α σ) : Prop where
  found : ∀ text, d.Segment key text → t = d.goneOn text swap
  lost : (∀ text, ¬ d.Segment key text) →
    t = d.passedOn raw [(.recoverable, .unknownForkKey key)]

/-- A round whose command moves on, by the scene that the command leaves. -/
lemma round_of_moved (hw : d.AtWork) (hat : d.At raw)
    (hrun : runCommand Commands.table { d with chainRequested := false } d.pointer raw = t)
    (hphase : t.phase = d.phase) (hchain : t.chainRequested = false)
    (hmoved : (t.pointer, t.working.version) ≠ (d.pointer, d.working.version)) :
    (d.round Commands.table).1 = { t with phase := .running, chainRequested := false } := by
  rcases round_runs hw hat hrun with ⟨-, heq⟩ | ⟨-, u, ending, hu, hend⟩
  · rw [heq, if_pos hmoved, hchain, Bool.and_false]
  · have hover : t.isTerminal = true := by
      rw [hend]
      exact (finish_ends hu ending).isTerminal
    have hgoes := hw.isTerminal
    unfold Event.isTerminal at hover hgoes
    rw [hphase, hgoes] at hover
    cases hover

lemma round_passedOn (hw : d.AtWork) (hat : d.At raw) {found : List (Severity × Fault)}
    (hrun : runCommand Commands.table { d with chainRequested := false } d.pointer raw =
      ({ d with chainRequested := false } : Scene α σ).passed raw found) :
    (d.round Commands.table).1 = d.passedOn raw found :=
  (round_of_moved hw hat hrun rfl rfl fun h => Nat.succ_ne_self d.pointer (Prod.mk.inj h).1).trans
    rfl

omit [Scalar α] [Stage α σ] in
/-- A command that only notes and passes makes no edits. -/
lemma noteAll_applied (hs : s.Calm) (hraw : s.working.get? s.pointer = some raw)
    (faults : List Fault) :
    (((s.underWay.noteAll faults).advance 1).onEvent Event.applyEdits).atEase =
      s.passed raw (faults.map (.recoverable, ·)) := by
  rw [atEase_applyEdits, noteAll_underWay hraw, applyEdits_passed hraw hs.edits]

omit [Scalar α] in
variable (key swap) in
/-- What a redirection leaves once its edit is made. -/
lemma redirect_applied (hs : s.Calm) (hraw : s.working.get? s.pointer = some raw) :
    (∀ text, s.Segment key text →
      ((Commands.redirect s.underWay key swap).scene.onEvent Event.applyEdits).atEase =
        { s with
          working := ⟨Script.split text, s.working.version + 1⟩
          pointer := 0
          wait := none
          flags := Event.Flags.swapped s.flags swap }) ∧
    ((∀ text, ¬ s.Segment key text) →
      ((Commands.redirect s.underWay key swap).scene.onEvent Event.applyEdits).atEase =
        s.passed raw [(.recoverable, .unknownForkKey key)]) := by
  constructor
  · intro text htext
    have hsegment : Commands.segmentText? s.underWay key = some text :=
      (segmentText?_eq_some_iff (s := s)).mpr htext
    have hidle : s = { s with dispatching := none, edits := [] } := by
      rw [← hs.dispatching, ← hs.edits]
    rw [Commands.redirect, hsegment, hidle]
    simp [done, onEvent, underWay, atEase, Event.applyEdits, Event.replaceScript, Event.queue,
      Event.applyEdit, Working.apply, Working.edited]
  · intro hnone
    have hsegment : Commands.segmentText? s.underWay key = none :=
      segmentText?_eq_none (s := s) hnone
    rw [Commands.redirect, hsegment]
    exact noteAll_applied hs hraw [.unknownForkKey key]

/-- A round whose command redirects the script. -/
lemma round_redirected (hw : d.AtWork) (hat : d.At raw)
    (hrun : runCommand Commands.table { d with chainRequested := false } d.pointer raw =
      ((Commands.redirect ({ d with chainRequested := false } : Scene α σ).underWay key
        swap).scene.onEvent Event.applyEdits).atEase) :
    d.Redirected raw key swap (d.round Commands.table).1 := by
  have hcalm := hw.unchained
  have happlied := redirect_applied key swap hcalm hat.1
  rw [← hrun] at happlied
  have hsame : ∀ text, ({ d with chainRequested := false } : Scene α σ).Segment key text ↔
      d.Segment key text :=
    fun text => segmentText?_eq_some_iff.symm.trans (segmentText?_eq_some_iff (s := d))
  simp only [hsame] at happlied
  constructor
  · intro text htext
    exact (round_of_moved hw hat (happlied.1 text htext) rfl rfl
      fun h => Nat.succ_ne_self d.working.version (Prod.mk.inj h).2).trans rfl
  · exact fun hnone => round_passedOn hw hat (happlied.2 hnone)

/-! ### Rounds of forks -/

omit [Scalar α] in
lemma fork_of_key {a : Args} (hsize : a.size = 2) (hkey : a.get? 1 = some key) :
    Commands.fork a s =
      if s.forkVariable then Commands.redirect s key .fork else (s.advance 1).done := by
  have hread : a.get 1 "fork key" = .ok key := by rw [Args.get, hkey]
  unfold Commands.fork
  rw [if_neg (by simp [hsize]), hread]
  rfl

omit [Scalar α] in
lemma fork_of_flag {a : Args} {flag : String} (hsize : 3 ≤ a.size) (hflag : a.get? 1 = some flag)
    (hkey : a.get? 2 = some key) : Commands.fork a s =
      if Stage.hasFlag α s.stage flag then Commands.redirect s key .fork
      else (s.advance 1).done := by
  have hfirst : a.get 1 "requirement" = .ok flag := by rw [Args.get, hflag]
  have hsecond : a.get 2 "fork key" = .ok key := by rw [Args.get, hkey]
  unfold Commands.fork
  rw [if_pos hsize, hfirst, hsecond]
  rfl

omit [Scalar α] in
lemma switchEvent_of_key {a : Args} (hkey : a.get? 1 = some key) :
    Commands.switchEvent a s = Commands.redirect s key .switch := by
  have hread : a.get 1 "event key" = .ok key := by rw [Args.get, hkey]
  unfold Commands.switchEvent
  rw [hread]
  rfl

/-- A fork that is taken leads to the segment of its key, and one that is not passes. -/
structure Forks (d : Scene α σ) (raw key : String) (taken : Prop) : Prop where
  leads : taken → d.Redirected raw key .fork (d.round Commands.table).1
  passes : ¬ taken → (d.round Commands.table).1 = d.passedOn raw []

lemma round_forks (hw : d.AtWork) (hat : d.At raw) (hname : d.command.1 = "fork") {taken : Bool}
    (hfork : ∀ s : Scene α σ, s.stage = d.stage → s.forkVariable = d.forkVariable →
      Commands.fork d.command.2 s =
        if taken then Commands.redirect s key .fork else (s.advance 1).done) :
    d.Forks raw key (taken = true) := by
  have hrun := hat.runs Commands.fork (by simp [Commands.builtIn]) hname
  have hfork := hfork ({ d with chainRequested := false } : Scene α σ).underWay rfl rfl
  rw [hfork] at hrun
  cases taken with
  | true => exact ⟨fun _ => round_redirected hw hat hrun, fun h => absurd rfl h⟩
  | false =>
    refine ⟨fun h => absurd h Bool.false_ne_true, fun _ => round_passedOn hw hat (hrun.trans ?_)⟩
    have hpass := noteAll_applied hw.unchained hat.1 []
    rwa [noteAll_nil] at hpass

lemma round_switches (hw : d.AtWork) (hat : d.At raw) (hname : d.command.1 = "switchEvent")
    (hkey : d.command.2.get? 1 = some key) :
    d.Redirected raw key .switch (d.round Commands.table).1 := by
  have hrun := hat.runs Commands.switchEvent (by simp [Commands.builtIn]) hname
  rw [switchEvent_of_key hkey] at hrun
  exact round_redirected hw hat hrun

/-! ### Later ticks -/

lemma skip_bare (s : Scene α σ) : s.skip.cast.bare = s.cast.bare := by
  unfold skip
  split_ifs
  · rfl
  · rfl
  · have hcleared : s.cleared.cast.bare = s.cast.bare :=
      Cast.bare_modifyAll (f := fun a => a.halt.clearOverrides) (fun _ => rfl) s.cast
    rw [clearAway_conclude]
    exact hcleared

/-- A tick of an event that has begun reads no header, and ahead of its commands everybody stays
who is there. -/
lemma overture_of_begun (hs : s.Kempt) (hbegun : s.phase ≠ .uninitialized) :
    s.openEvent = (s, none) ∧ s.overture.1.cast.bare = s.cast.bare := by
  have hopen : s.openEvent = (s, none) := if_pos hbegun
  refine ⟨hopen, ?_⟩
  unfold overture
  rw [hopen]
  split
  · rfl
  · split
    · exact skip_bare s
    · exact (resume_bare hs).2

lemma begun_of_tick (hs : s.AtRest) {moves : List (HostMove α σ)} (htick : .tick ∈ moves) :
    (s.play Commands.table moves).phase ≠ .uninitialized := by
  obtain ⟨before, after, rfl⟩ := List.append_of_mem htick
  rw [play_append, play_cons]
  have hrest := atRest_play hs before
  exact (begun_lasting.kept.play ⟨hrest.apply .tick, begun_tick hrest⟩ after).2

end Scene

open Scene Commands

/-- **Forks and switches.** In every run, a `fork` with a key alone is taken exactly if an earlier
round was one of a question that was tagged with a number and answered with it, a `fork` with a flag
exactly if the stage holds the flag, and a `switchEvent` always. The script goes on with the segment
of the key, cut into commands, from its beginning; a key without a segment is reported, and the
command passes. The scene is the same in all else. After the first tick of a run, no tick reads a
header or brings anybody on or off ahead of its commands. -/
theorem forks_lead_to_segments (p : Premiere α σ) (moves : List (HostMove α σ)) :
    (∀ earlier d later raw, p.scene.rounds table moves = earlier ++ d :: later → d.At raw →
      (∀ key, d.command.1 = "fork" → d.command.2.size = 2 → d.command.2.get? 1 = some key →
        d.Forks raw key (∃ q ∈ earlier, q.PicksTagged)) ∧
      (∀ flag key, d.command.1 = "fork" → 3 ≤ d.command.2.size →
        d.command.2.get? 1 = some flag → d.command.2.get? 2 = some key →
        d.Forks raw key (Stage.hasFlag α d.stage flag = true)) ∧
      (∀ key, d.command.1 = "switchEvent" → d.command.2.get? 1 = some key →
        d.Redirected raw key .switch (d.round table).1)) ∧
    ∀ before after, moves = before ++ .tick :: after → .tick ∈ before →
      let s := p.scene.play table before
      s.openEvent = (s, none) ∧ s.overture.1.cast.bare = s.cast.bare := by
  constructor
  · intro earlier d later raw hrounds hat
    have hd : d ∈ p.scene.rounds table moves := hrounds ▸ List.mem_append_right _ List.mem_cons_self
    have hw := (attended_habit.kept.rounds ⟨p.atRest, p.attended⟩ moves d hd).1
    refine ⟨fun key hname hsize hkey => ?_, fun flag key hname hsize hflag hkey => ?_,
      fun key => round_switches hw hat⟩
    · have hlog := forkVariable_latch.rounds ⟨p.atRest, p.attended⟩ moves
      rw [hrounds] at hlog
      have hset : d.forkVariable = true ↔ ∃ q ∈ earlier, q.PicksTagged :=
        hlog.at.trans (or_iff_right Bool.false_ne_true)
      rw [← propext hset]
      exact round_forks hw hat hname fun s _ hfork => hfork ▸ fork_of_key hsize hkey
    · exact round_forks hw hat hname fun s hstage _ => hstage ▸ fork_of_flag hsize hflag hkey
  · rintro before after - htick
    have hs := (attended_habit.kept.play ⟨p.atRest, p.attended⟩ before).2
    exact overture_of_begun hs.toKempt (begun_of_tick p.atRest htick)

/-- A question whose second answer opens the fork. -/
def invited : String := "question fork1 \"Dance?#No#Yes\""

/-- The question, and a fork that goes on with the dance, before a player who says yes. -/
def invitation : Premiere Float32 Rehearsal :=
  { rehearsed [invited, "fork dance", "end"] with
    sceneData := [("dance", "playSound waltz/end")]
    stage := { autoAnswer := some 1 } }

/-- The player says yes, and so the fork leads to the dance. -/
theorem invitation_is_accepted :
    ∃ earlier d later,
      invitation.scene.rounds table [.tick, .tick, .tick] = earlier ++ d :: later ∧
      (∃ q ∈ earlier, q.PicksTagged) ∧
      (d.round table).1 = d.goneOn "playSound waltz/end" .fork := by
  have hscenes : (invitation.scene.rounds table [.tick, .tick, .tick]).map (fun q =>
      (q.working.get? q.pointer, q.command, q.wait, (Stage.takeAnswer Float32 q.stage).1)) =
      [(some invited, ("question", ⟨["question", "fork1", "Dance?#No#Yes"]⟩), none, none),
       (some invited, ("question", ⟨["question", "fork1", "Dance?#No#Yes"]⟩),
         some (.answer (some 1)), some 1),
       (some "fork dance", ("fork", ⟨["fork", "dance"]⟩), none, none)] := by
    decide +kernel
  have hspoken : ∀ q ∈ invitation.scene.rounds table [.tick, .tick, .tick],
      (q.settings.isComment invited = false ∧ q.settings.isComment "fork dance" = false) ∧
        q.sceneData.lookup "dance" = some "playSound waltz/end" := by
    decide +kernel
  have hforks := (forks_lead_to_segments invitation [.tick, .tick, .tick]).1
  generalize invitation.scene.rounds table [.tick, .tick, .tick] = rounds
    at hscenes hspoken hforks ⊢
  have hlength : rounds.length = 3 := by simpa using congrArg List.length hscenes
  obtain ⟨ask, answer, fork, rfl⟩ := List.length_eq_three.mp hlength
  simp only [List.map_cons, List.map_nil, List.cons.injEq, Prod.mk.injEq] at hscenes
  obtain ⟨-, ⟨haskText, haskCommand, haskWait, haskAnswer⟩, ⟨hforkText, hforkCommand, -⟩, -⟩ :=
    hscenes
  obtain ⟨⟨hcomment, -⟩, -⟩ := hspoken answer (by simp)
  obtain ⟨⟨-, hcomment'⟩, hsegment⟩ := hspoken fork (by simp)
  have hpicks : answer.PicksTagged := by
    refine ⟨⟨invited, haskText, hcomment⟩, by rw [haskCommand], "fork1", 1, some 1, ?_, ?_,
      haskWait, haskAnswer⟩
    · rw [haskCommand]
      rfl
    · decide +kernel
  have hearlier : ∃ q ∈ [ask, answer], q.PicksTagged := ⟨answer, by simp, hpicks⟩
  obtain ⟨hfork, -⟩ := hforks [ask, answer] fork [] "fork dance" rfl ⟨hforkText, hcomment'⟩
  have htaken := (hfork "dance" (by rw [hforkCommand]) (by rw [hforkCommand]; rfl)
    (by rw [hforkCommand]; rfl)).leads hearlier
  exact ⟨[ask, answer], fork, [], rfl, hearlier, htaken.found _ (.own hsegment)⟩

end Cutscene
