import Cutscene.Proofs.Footprint.Spelled
import Cutscene.Proofs.Run.Fork
import Cutscene.Proofs.Run.Next
import Cutscene.Proofs.Script.Agreement
import Cutscene.Proofs.Script.Branches
import Cutscene.Proofs.Script.Quoting

/-!
# Branches That Are Picked

The round of a quick question that is answered puts the branch for the answer directly behind the
question, where the next round takes it up. It puts there what comes out of the text of the
question, which is what went in if the commands have neither of the marks at which the text is cut.
Quotes protect neither mark, so that not even a quote in a line can be escaped.
-/

namespace Cutscene

variable {α σ : Type}

/-- The script is past the command, and the others stand directly behind it. -/
def Stand.splice (p : Stand α) (commands : List String) : Stand α :=
  { p.advance 1 with
    working :=
      if commands = [] then p.working else p.working.apply (.insertAfter p.pointer commands) }

lemma Stand.splice_commands (p : Stand α) (commands : List String) :
    (p.splice commands).working.commands = p.working.commands.take (p.pointer + 1) ++ commands ++
      p.working.commands.drop (p.pointer + 1) := by
  unfold splice
  split
  · rename_i hnone
    rw [hnone, List.append_nil, List.take_append_drop]
  · rfl

namespace Scene

variable {s t d : Scene α σ} {raw : String} {n : Nat} {fork : Option Nat} {commands : List String}

/-- In the second scene the commands stand directly behind the one under the pointer of the first,
and are the next to run. -/
structure Spliced (s : Scene α σ) (commands : List String) (t : Scene α σ) : Prop where
  commands : t.working.commands = s.working.commands.take (s.pointer + 1) ++ commands ++
    s.working.commands.drop (s.pointer + 1)
  pointer : t.pointer = s.pointer + 1
  wait : t.wait = none

lemma Spliced.ahead (h : s.Spliced commands t) (hin : s.pointer < s.working.size) :
    t.ahead = commands ++ s.working.commands.drop (s.pointer + 1) := by
  have hfront : (s.working.commands.take (s.pointer + 1)).length = t.pointer := by
    rw [List.length_take, h.pointer]
    exact Nat.min_eq_left hin
  rw [Scene.ahead, h.commands, List.append_assoc, ← hfront, List.drop_left]

lemma spliced_iff (hin : s.pointer < s.working.size) {new : List String}
    (h : t.stand = s.stand.splice new) : s.Spliced commands t ↔ new = commands := by
  have hcommands := congrArg (·.working.commands) h
  have hpointer := congrArg Stand.pointer h
  simp only [Stand.splice_commands] at hcommands
  constructor
  · intro hspliced
    have heq := hcommands.symm.trans hspliced.commands
    rw [List.append_assoc, List.append_assoc] at heq
    exact List.append_cancel_right (List.append_cancel_left heq)
  · rintro rfl
    exact ⟨hcommands, hpointer.trans (Nat.min_eq_left hin), congrArg Stand.wait h⟩

variable [Scalar α] [Stage α σ]

/-- The answer to the quick question under the pointer has come, and the question offers the
commands for it. -/
structure Chooses (s : Scene α σ) (commands : List String) : Prop where
  named : s.command.1 = "quickQuestion"
  offered : ∃ raw n, s.At raw ∧ (∃ fork, s.wait = some (.answer fork)) ∧
    (Stage.takeAnswer α s.stage).1 = some n ∧ Commands.Offers raw n commands

lemma At.chooses (hat : s.At raw)
    (hname : (Script.tokens? raw).bind List.head? = some "quickQuestion")
    (hwait : s.wait = some (.answer fork)) (hanswer : (Stage.takeAnswer α s.stage).1 = some n)
    (hoffers : Commands.Offers raw n commands) : s.Chooses commands := by
  obtain ⟨_ | ⟨token, args⟩, htokens, heq⟩ := Option.bind_eq_some_iff.mp hname
  · cases heq
  obtain rfl := Option.some.inj heq
  refine ⟨?_, raw, n, hat, ⟨fork, hwait⟩, hanswer, hoffers⟩
  rw [hat.command_eq, Commands.commandOf_of_spelled htokens rfl]

omit [Scalar α] in
lemma quickQuestion_of_answer {a : Args} (hraw : s.currentCommand? = some raw)
    (hwait : s.wait = some (.answer fork)) (hanswer : (Stage.takeAnswer α s.stage).1 = some n) :
    Commands.quickQuestion a s =
      let u := { s with stage := (Stage.takeAnswer α s.stage).2 }
      match Commands.branch? raw n with
      | none => (u.passOver (.noBranch n)).done
      | some commands =>
        (if commands.isEmpty then u.advance 1
        else (u.advance 1).onEvent (·.insertAfterCurrent commands)).done := by
  unfold Commands.quickQuestion Commands.branch?
  rw [hraw, hwait, Option.getD_some]
  dsimp only
  rw [hanswer]
  dsimp only
  cases (Commands.splitQuickQuestion raw).2[n]? <;> rfl

/-- Once a quick question is answered, its round puts there what comes out of its text. -/
theorem round_branches (hw : s.AtWork) (hat : s.At raw) (hname : s.command.1 = "quickQuestion")
    (hwait : s.wait = some (.answer fork)) (hanswer : (Stage.takeAnswer α s.stage).1 = some n) :
    (s.round Commands.table).1.stand =
      s.stand.splice ((Commands.branch? raw n).getD []) := by
  have hcalm := hw.unchained
  have hrun := hat.runs Commands.quickQuestion (by simp [Commands.builtIn]) hname
  have hfound := quickQuestion_of_answer (a := s.command.2)
    (s := ({ s with chainRequested := false } : Scene α σ).underWay) hat.1 hwait hanswer
  rw [hfound] at hrun
  obtain ⟨phase, chain, heq⟩ := round_at hw hat
  rw [heq, hrun]
  rcases Commands.branch? raw n with _ | _ | ⟨c, new⟩
  · exact hcalm.stand_of_nil rfl (Nat.min_le_right _ _) rfl
  · exact hcalm.stand_of_nil rfl (Nat.min_le_right _ _) rfl
  · exact hcalm.stand_of_insertAfter rfl

end Scene

open Scene Commands

variable [Scalar α] [Stage α σ]

/-- **A picked branch comes next.** When the answer to a quick question has come, the commands that
its text offers for the answer stand directly behind it, in their order, exactly if none of them
has a backslash or a `(break)` in it, be it in quotes or not. Then the next round finds them. -/
theorem picked_branch_is_next (p : Premiere α σ) (moves : List (HostMove α σ)) :
    ∀ earlier s later commands, p.scene.rounds table moves = earlier ++ s :: later →
      s.Chooses commands → (∀ c ∈ commands, Text.trim c = c ∧ c ≠ "") →
      (s.Spliced commands (s.round table).1 ↔ ∀ c ∈ commands, Unmarked c) ∧
      ((∀ c ∈ commands, Unmarked c) → ∀ d rest, later = d :: rest →
        s.Spliced commands d ∧ d.ahead = commands ++ s.working.commands.drop (s.pointer + 1)) := by
  intro earlier s later commands hrounds hchooses htrimmed
  obtain ⟨raw, n, hat, ⟨fork, hwait⟩, hanswer, hoffers⟩ := hchooses.offered
  have hscenes := attended_habit.kept.rounds ⟨p.atRest, p.attended⟩ moves
  rw [hrounds] at hscenes
  have hround := round_branches (hscenes s (by simp)).1 hat hchooses.named hwait hanswer
  have hin : s.pointer < s.working.size := (List.getElem?_eq_some_iff.mp hat.1).1
  have hintact := branch?_eq_some_iff hoffers htrimmed
  have hspliced : ∀ {t : Scene α σ}, t.stand = (s.round table).1.stand →
      (s.Spliced commands t ↔ ∀ c ∈ commands, Unmarked c) := by
    intro t ht
    rw [spliced_iff hin (ht.trans hround), ← hintact]
    constructor
    · intro hnew
      cases hbranch : branch? raw n with
      | some new => rw [← hnew, hbranch, Option.getD_some]
      | none =>
        -- No commands come out, and if none went in they have no marks.
        rw [hbranch, Option.getD_none] at hnew
        rw [hbranch, ← hnew] at hintact
        exact absurd (hintact.mpr (by simp)) (by simp)
    · intro hbranch
      rw [hbranch, Option.getD_some]
  refine ⟨hspliced rfl, ?_⟩
  rintro hunmarked d rest rfl
  have hpassage := play_passage p.atRest moves
  rw [hrounds] at hpassage
  have hnext := hpassage.next_round (by simp [hchooses.named])
  have hbehind := (hspliced hnext).mpr hunmarked
  exact ⟨hbehind, hbehind.ahead hin⟩

/-- A halt and a line for the one who says yes. -/
def walkQuestion : String := "quickQuestion Go?#Yes(break)halt\\speak Abigail \"Off\""

/-- The branch of the one who says yes. -/
def goodWalk : List String := ["halt", "speak Abigail \"Off\""]

lemma walkQuestion_offers : Offers walkQuestion 0 goodWalk :=
  ⟨"quickQuestion".toList, ["Go?#Yes".toList], [], by decide +kernel, by decide +kernel, rfl,
    by decide +kernel, .inl rfl⟩

/-- The player says yes. -/
def walkOffered : Premiere Float32 Rehearsal :=
  { rehearsed [walkQuestion, "pause 1000"] with stage := { answers := [0] } }

/-- The halt and the line are next, and then the pause. -/
theorem walk_is_next : ∃ ask s d,
    walkOffered.scene.rounds table [.tick, .tick, .tick] = [ask, s, d] ∧
      s.Chooses goodWalk ∧ (∀ c ∈ goodWalk, Text.trim c = c ∧ c ≠ "") ∧
      s.Spliced goodWalk (s.round table).1 ∧ d.ahead = goodWalk ++ ["pause 1000"] := by
  obtain ⟨l, hl⟩ : ∃ l, l = walkOffered.scene.rounds table [.tick, .tick, .tick] := ⟨_, rfl⟩
  have hlength : l.length = 3 := by
    rw [hl, table_eq_spelled]
    decide +kernel
  have hsecond : l.tail.head?.any (fun e =>
      decide (e.working.get? e.pointer = some walkQuestion) &&
      !e.settings.isComment walkQuestion &&
      decide (e.wait = some (.answer none)) &&
      decide ((Stage.takeAnswer Float32 e.stage).1 = some 0) &&
      decide (e.working.commands.drop (e.pointer + 1) = ["pause 1000"])) = true := by
    rw [hl, table_eq_spelled]
    decide +kernel
  obtain ⟨ask, s, d, rfl⟩ := List.length_eq_three.mp hlength
  simp only [List.tail_cons, List.head?_cons, Option.any_some, Bool.and_eq_true, decide_eq_true_eq,
    Bool.not_eq_true'] at hsecond
  obtain ⟨⟨⟨⟨hget, hcomment⟩, hwait⟩, hanswer⟩, hbehind⟩ := hsecond
  have hchooses : s.Chooses goodWalk :=
    At.chooses ⟨hget, hcomment⟩ (by decide +kernel) hwait hanswer walkQuestion_offers
  have htrimmed : ∀ c ∈ goodWalk, Text.trim c = c ∧ c ≠ "" := by decide +kernel
  have hunmarked : ∀ c ∈ goodWalk, Unmarked c := by
    simp only [goodWalk, List.forall_mem_cons]
    exact ⟨⟨by decide +kernel, by decide +kernel⟩, ⟨by decide +kernel, by decide +kernel⟩, by simp⟩
  obtain ⟨hspliced, hnext⟩ := picked_branch_is_next walkOffered [.tick, .tick, .tick] [ask] s [d]
    goodWalk hl.symm hchooses htrimmed
  refine ⟨ask, s, d, hl.symm, hchooses, htrimmed, hspliced.mpr hunmarked, ?_⟩
  rw [← hbehind]
  exact (hnext hunmarked d [] rfl).2

/-- The command may be joined to others: it has tokens and no blanks at its ends, and the marks of a
quick question in quotes only. -/
structure Joinable (c : String) : Prop where
  trimmed : Text.trim c = c
  ne_empty : c ≠ ""
  accepted : (Script.tokens? c).isSome
  slashes : ∀ x y, c.toList = x ++ '\\' :: y → Script.InQuotes x ('\\' :: y)
  marks : ∀ x y, c.toList = x ++ (breakMark ++ y) → Script.InQuotes x (breakMark ++ y)

/-- A line with an inch mark in it. -/
def tallTale : String := "speak Abigail \"6\\\" tall\""

lemma tallTale_joinable : Joinable tallTale where
  trimmed := by decide +kernel
  ne_empty := by decide
  accepted := by decide +kernel
  slashes := by
    intro x y hxy
    have hshape : tallTale.toList = "speak Abigail \"6".toList ++ '\\' :: "\" tall\"".toList := by
      decide +kernel
    obtain ⟨rfl, -, rfl⟩ := (List.append_cons_inj_of_notMem (by decide +kernel)
      (by decide +kernel)).mp (hshape.symm.trans hxy)
    refine ⟨"speak Abigail ".toList, ['6'], '\\' :: '"' :: " tall".toList, [], by decide +kernel,
      by decide +kernel, Script.balanced_of_no_quote (by decide +kernel), ?_⟩
    exact Script.protected_escape "6\" tall".toList
  marks := by
    intro x y hxy
    have hnone : ¬ breakMark <:+: tallTale.toList := by decide +kernel
    exact absurd ⟨x, y, by rw [hxy, List.append_assoc]⟩ hnone

/-- The line is for the one who says yes. -/
def taleQuestion : String := "quickQuestion Go?#Yes(break)speak Abigail \"6\\\" tall\""

/-- The player says yes. -/
def taleOffered : Premiere Float32 Rehearsal :=
  { rehearsed [taleQuestion, "pause 1000"] with stage := { answers := [0] } }

/-- It is not the case that commands with their marks in quotes come next as they are. -/
theorem tall_tale_is_torn :
    ¬ ∀ (p : Premiere Float32 Rehearsal) (moves : List (HostMove Float32 Rehearsal)),
      ∀ s ∈ p.scene.rounds table moves, ∀ commands, s.Chooses commands →
        (∀ c ∈ commands, Joinable c) → s.Spliced commands (s.round table).1 := by
  intro hclaim
  obtain ⟨l, hl⟩ : ∃ l, l = taleOffered.scene.rounds table [.tick, .tick] := ⟨_, rfl⟩
  have hrun : l.any (fun e =>
      decide (e.working.get? e.pointer = some taleQuestion) &&
      !e.settings.isComment taleQuestion &&
      decide (e.wait = some (.answer none)) &&
      decide ((Stage.takeAnswer Float32 e.stage).1 = some 0) &&
      decide ((e.round table).1.working.size = e.working.size + 2)) = true := by
    rw [hl, table_eq_spelled]
    decide +kernel
  obtain ⟨s, hs, hall⟩ := List.any_eq_true.mp hrun
  simp only [Bool.and_eq_true, decide_eq_true_eq, Bool.not_eq_true'] at hall
  obtain ⟨⟨⟨⟨hget, hcomment⟩, hwait⟩, hanswer⟩, hsize⟩ := hall
  have hoffers : Offers taleQuestion 0 [tallTale] :=
    ⟨"quickQuestion".toList, ["Go?#Yes".toList], [], by decide +kernel, by decide +kernel, rfl,
      by decide +kernel, .inl rfl⟩
  have hchooses : s.Chooses [tallTale] :=
    At.chooses ⟨hget, hcomment⟩ (by decide +kernel) hwait hanswer hoffers
  have hspliced := hclaim taleOffered [.tick, .tick] s (hl ▸ hs) [tallTale] hchooses
    (by simpa using tallTale_joinable)
  -- One command was to come in, and two have come.
  have hlength := congrArg List.length hspliced.commands
  rw [← Working.edited, Working.length_edited_insertAfter] at hlength
  exact absurd (hsize.symm.trans hlength) (by simp [Working.size])

end Cutscene
