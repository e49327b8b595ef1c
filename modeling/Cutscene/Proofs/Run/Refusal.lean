import Cutscene.Proofs.Reading.Table
import Cutscene.Proofs.Run.Release

/-!
# A Faulty Command Costs One Step

A text that cannot be read, a name that nobody knows, a token that is absent or malformed and an
actor who is not there have the same price: a report under the pointer, and one step of the
pointer. Nothing else of the scene changes, the stage included.
-/

namespace Cutscene

namespace Event

variable {α : Type}

/-- Edits take no notice of which command is running. -/
lemma applyEdits_dispatching (e : Event α) (d : Option Nat) :
    ({ e with dispatching := d } : Event α).applyEdits =
      { e.applyEdits with dispatching := d } := by
  have hone : ∀ (e : Event α) (edit : Edit), ({ e with dispatching := d } : Event α).applyEdit edit
      = { e.applyEdit edit with dispatching := d } := by
    intro e edit
    unfold applyEdit
    rcases edit with ⟨i, new⟩ | ⟨i, new⟩ | ⟨new, swap⟩
    · dsimp only
      split <;> rfl
    · rfl
    · rfl
  have hall : ∀ (edits : List Edit) (e : Event α),
      edits.foldl applyEdit ({ e with dispatching := d } : Event α)
        = { edits.foldl applyEdit e with dispatching := d } := by
    intro edits
    induction edits with
    | nil => exact fun e => rfl
    | cons edit rest ih =>
      intro e
      rw [List.foldl_cons, List.foldl_cons, hone, ih]
  unfold applyEdits
  dsimp only
  rw [hall e.edits { e with edits := [] }]

end Event

namespace Scene

variable {α σ : Type} {s : Scene α σ} {raw : String}

/-- The command under the pointer, of this text, is passed over with some reports. -/
def passed (s : Scene α σ) (raw : String) (found : List (Severity × Fault)) : Scene α σ :=
  { s with
    pointer := s.pointer + 1
    wait := none
    dispatching := none
    reports := s.reports ++ found.map fun f => ⟨s.id, s.pointer, raw, f.2, f.1⟩ }

lemma passed_eq (hraw : s.working.get? s.pointer = some raw) (found : List (Severity × Fault)) :
    (({ s.underWay with
        reports := s.reports ++ found.map fun f => ⟨s.id, s.pointer, raw, f.2, f.1⟩ } :
      Scene α σ).advance 1).atEase = s.passed raw found := by
  have hin : s.pointer < s.working.size := (List.getElem?_eq_some_iff.mp hraw).1
  have hmin : min (s.pointer + 1) s.working.size = s.pointer + 1 := Nat.min_eq_left hin
  unfold passed advance atEase onEvent Event.advance
  dsimp only [underWay]
  rw [hmin]

lemma noteOf_underWay (hraw : s.working.get? s.pointer = some raw) (fault : Fault) :
    s.underWay.noteOf fault = ⟨s.id, s.pointer, raw, fault, .recoverable⟩ := by
  have htext : s.working.getD s.pointer = raw := by rw [Working.getD, hraw]; rfl
  unfold noteOf
  exact congrArg (Report.mk s.id s.pointer · fault .recoverable) htext

lemma noteAll_underWay (hraw : s.working.get? s.pointer = some raw) (faults : List Fault) :
    ((s.underWay.noteAll faults).advance 1).atEase =
      s.passed raw (faults.map (.recoverable, ·)) := by
  rw [← passed_eq hraw, noteAll, funext (noteOf_underWay hraw), List.map_map]
  rfl

lemma atEase_applyEdits (s : Scene α σ) :
    (s.onEvent Event.applyEdits).atEase = s.atEase.onEvent Event.applyEdits := by
  have h := Event.applyEdits_dispatching s.toEvent none
  unfold onEvent atEase
  rw [h]

/-! ### The price of a fault -/

variable [Stage α σ] {table : CommandTable (Handler α σ)} {name : String} {args : List String}

lemma runCommand_of_unreadable (hraw : s.working.get? s.pointer = some raw)
    (htokens : Script.tokens? raw = none) :
    runCommand table s s.pointer raw =
      s.passed raw [(.recoverable, .malformed (.unclosedQuote raw))] := by
  rw [runCommand_unreadable htokens]
  exact noteAll_underWay hraw [_]

lemma runCommand_of_unknown (hraw : s.working.get? s.pointer = some raw)
    (htokens : Script.tokens? raw = some (name :: args))
    (hname : table.resolve? name = none) :
    runCommand table s s.pointer raw =
      s.passed raw [(.unknownCommand, .unknownCommand name)] := by
  rw [runCommand_unknown htokens hname, ← passed_eq hraw]
  have htext : s.working.getD s.pointer = raw := by rw [Working.getD, hraw]; rfl
  have hreport : s.underWay.report .unknownCommand (.unknownCommand name) = { s.underWay with
      reports := s.reports ++
        [⟨s.id, s.pointer, raw, .unknownCommand name, .unknownCommand⟩] } := by
    rw [← htext]
    rfl
  rw [hreport]
  rfl

/-- A command that reports and passes, and the edits that were queued before. -/
lemma runCommand_of_noted {m : String × Handler α σ} {faults : List Fault}
    (hraw : s.working.get? s.pointer = some raw)
    (htokens : Script.tokens? raw = some (name :: args))
    (hname : table.resolve? name = some m)
    (h : m.2 ⟨name :: args⟩ s.underWay = ((s.underWay.noteAll faults).advance 1).done) :
    runCommand table s s.pointer raw =
      (s.passed raw (faults.map (.recoverable, ·))).onEvent Event.applyEdits := by
  rw [runCommand_known htokens hname (by rw [h]; rfl), h, ← noteAll_underWay hraw,
    ← atEase_applyEdits]
  rfl

omit [Stage α σ] in
lemma applyEdits_passed (hraw : s.working.get? s.pointer = some raw) (hedits : s.edits = [])
    (found : List (Severity × Fault)) :
    (s.passed raw found).onEvent Event.applyEdits = s.passed raw found := by
  have hin : (s.passed raw found).pointer ≤ (s.passed raw found).working.size :=
    (List.getElem?_eq_some_iff.mp hraw).1
  have hsame : (s.passed raw found).toEvent.applyEdits = (s.passed raw found).toEvent :=
    Event.applyEdits_of_nil hedits hin
  rw [onEvent, hsame]

end Scene

open Scene Commands

variable {α σ : Type} [Scalar α] [Stage α σ]

/-- **A faulty command costs one report and one step.** A text that cannot be read and a name that
nobody knows are reported and passed over. Every command but `end` has a reader: a read that fails
costs one report and one step, and so does an actor who is not there, without the report if the
reference is optional; an `advancedMove` has noted its stray pairs by then. Faults of reading are
reported for no other cause. The scene is the same in all else, apart from edits that were queued
before the command ran. -/
theorem faulty_command_passes {s : Scene α σ} {raw : String}
    (hraw : s.working.get? s.pointer = some raw) :
    (Script.tokens? raw = none → runCommand table s s.pointer raw =
      s.passed raw [(.recoverable, .malformed (.unclosedQuote raw))]) ∧
    (∀ name args, Script.tokens? raw = some (name :: args) →
      (table : CommandTable (Handler α σ)).resolve? name = none →
      runCommand table s s.pointer raw =
        s.passed raw [(.unknownCommand, .unknownCommand name)]) ∧
    (∀ name args command handler, Script.tokens? raw = some (name :: args) →
      table.resolve? name = some (command, handler) → command ≠ "end" →
      ∃ r ∈ readings, r.name = command ∧ r.handler = handler ∧
        (∀ e, r.reader ⟨name :: args⟩ s.underWay = .error e →
          runCommand table s s.pointer raw =
            (s.passed raw [(.recoverable, .argument e)]).onEvent Event.applyEdits) ∧
        (∀ cue, r.reader ⟨name :: args⟩ s.underWay = .ok (some cue) →
          (∀ f ∈ cue.noted, command = "advancedMove" ∧ ∃ x y, f = .badPathPair x y) ∧
          (s.cast.resolve? cue.ref = none → runCommand table s s.pointer raw =
            (s.passed raw ((cue.noted ++ cue.ref.faults).map (.recoverable, ·))).onEvent
              Event.applyEdits)) ∧
        Notes (r.reader ⟨name :: args⟩ s.underWay) s.underWay
          (handler ⟨name :: args⟩ s.underWay)) ∧
    (s.edits = [] → ∀ found,
      (s.passed raw found).onEvent Event.applyEdits = s.passed raw found) := by
  refine ⟨runCommand_of_unreadable hraw, fun name args => runCommand_of_unknown hraw, ?_,
    applyEdits_passed hraw⟩
  intro name args command handler htokens hname hend
  rcases resolve?_cases hname with hm | ⟨r, hr, hm⟩
  · exact absurd (Prod.mk.inj hm).1 hend
  · obtain ⟨rfl, rfl⟩ := Prod.mk.inj hm
    have hreads := r.reads ⟨name :: args⟩ s.underWay
    refine ⟨r, hr, rfl, rfl, fun e he => ?_, fun cue hcue => ⟨fun f hf => ?_, ?_⟩, hreads.notes⟩
    · exact runCommand_of_noted hraw htokens hname (hreads.refused e he)
    · refine ⟨by_contra fun hother => ?_, hreads.strays cue hcue f hf⟩
      rw [readings_clear r hr hother _ _ cue hcue] at hf
      cases hf
    · exact fun hmissing =>
        runCommand_of_noted hraw htokens hname (hreads.missed cue hcue hmissing)

/-- The path of somebody who is not there, with two pairs that are no steps. -/
def ghostPath : String := "advancedMove Linus true 9 9 0 3 5 5"

/-- The event stands before that path. -/
def beforeGhostPath : Scene Float32 Rehearsal := (rehearsed [ghostPath]).scene.overture.1

/-- Two pairs and the missing actor are reported, and the script goes on. -/
theorem ghost_path_passes :
    beforeGhostPath.working.get? beforeGhostPath.pointer = some ghostPath ∧
      runCommand table beforeGhostPath beforeGhostPath.pointer ghostPath =
        beforeGhostPath.passed ghostPath
          [(.recoverable, .badPathPair 9 9), (.recoverable, .badPathPair 5 5),
            (.recoverable, .unknownActor ⟨.named "Linus", false⟩)] := by
  have hraw : beforeGhostPath.working.get? beforeGhostPath.pointer = some ghostPath := by
    decide +kernel
  have htokens : Script.tokens? ghostPath =
      some ["advancedMove", "Linus", "true", "9", "9", "0", "3", "5", "5"] := by
    decide +kernel
  have hname : ((table : CommandTable (Handler Float32 Rehearsal)).resolve? "advancedMove").map
      Prod.fst = some "advancedMove" := by
    decide +kernel
  have hmissing : beforeGhostPath.cast.resolve? (Cue.ref ⟨"Linus", []⟩) = none := by
    decide +kernel
  obtain ⟨⟨command, handler⟩, hresolve, rfl⟩ := Option.map_eq_some_iff.mp hname
  obtain ⟨-, -, hknown, hedits⟩ := faulty_command_passes hraw
  obtain ⟨r, hr, hrname, -, -, hmissed, -⟩ :=
    hknown _ _ _ _ htokens hresolve (by decide)
  have hreader : r.reader ⟨["advancedMove", "Linus", "true", "9", "9", "0", "3", "5", "5"]⟩
      beforeGhostPath.underWay = .ok (some ⟨"Linus", [.badPathPair 9 9, .badPathPair 5 5]⟩) := by
    rw [reader_advancedMove r hr hrname]
    decide +kernel
  refine ⟨hraw, ?_⟩
  rw [(hmissed _ hreader).2 hmissing, hedits (by decide +kernel)]
  exact congrArg (beforeGhostPath.passed ghostPath) (by decide +kernel)

/-- A sound without a name is next, and the host has queued an edit. -/
def editBeforeSound : Scene Float32 Rehearsal :=
  (rehearsed ["playSound"]).scene.overture.1.onEvent (·.insertAfterCurrent ["stopMusic"])

/-- An edit that the host queued between two ticks is made after the next command, and this also
where the command is refused: it is not the case that a refused command always leaves the list of
commands as it was. -/
theorem queued_edit_is_made :
    ¬ ∀ (s : Scene Float32 Rehearsal) (raw : String) (e : ArgError),
      s.working.get? s.pointer = some raw →
      ((table : CommandTable (Handler Float32 Rehearsal)).commandOf raw).1 = "playSound" →
      ((table : CommandTable (Handler Float32 Rehearsal)).commandOf raw).2.get 1 "sound" =
        .error e →
      (runCommand table s s.pointer raw).working = s.working := by
  intro h
  have hrun : editBeforeSound.working.get? editBeforeSound.pointer = some "playSound" ∧
      ((table : CommandTable (Handler Float32 Rehearsal)).commandOf "playSound").1 = "playSound" ∧
      ((table : CommandTable (Handler Float32 Rehearsal)).commandOf "playSound").2 =
        ⟨["playSound"]⟩ ∧
      (runCommand table editBeforeSound editBeforeSound.pointer "playSound").working ≠
        editBeforeSound.working := by
    decide +kernel
  obtain ⟨hraw, hname, hargs, hmade⟩ := hrun
  exact hmade (h _ _ (.missing 1 "sound" 0) hraw hname (by rw [hargs]; rfl))

end Cutscene
