import Cutscene.Proofs.Reading.Acting
import Cutscene.Proofs.Reading.Steering

/-!
# What Every Command Reads

Each command of the table, an `end` apart, stands here with its reader and the proof that it
follows it. No command gives up, and all that commands report can be recovered from.
-/

namespace Cutscene.Commands

open Scene

/-- A command that follows its reader. -/
structure Reading (α σ : Type) where
  name : String
  handler : Handler α σ
  reader : Reader α σ
  reads : Reads handler reader

variable {α σ : Type} [Scalar α] [Stage α σ]

/-- The readers of all commands but `end`. -/
def readings : List (Reading α σ) :=
  [⟨"skippable", skippable, _, skippable_reads⟩, ⟨"pause", pause, _, pause_reads⟩,
   ⟨"fork", fork, _, fork_reads⟩, ⟨"switchEvent", switchEvent, _, switchEvent_reads⟩,
   ⟨"beginSimultaneousCommand", beginSimultaneous, _, beginSimultaneous_reads⟩,
   ⟨"endSimultaneousCommand", endSimultaneous, _, endSimultaneous_reads⟩,
   ⟨"setSkipActions", setSkipActions, _, setSkipActions_reads⟩,
   ⟨"waitForOtherPlayers", waitForOtherPlayers, _, waitForOtherPlayers_reads⟩,
   ⟨"speak", speak, _, speak_reads⟩, ⟨"message", message, _, message_reads⟩,
   ⟨"question", question, _, question_reads⟩,
   ⟨"quickQuestion", quickQuestion, _, quickQuestion_reads⟩,
   ⟨"speakFromState", speakFromState, _, speakFromState_reads⟩,
   ⟨"move", move, _, move_reads⟩, ⟨"advancedMove", advancedMove, _, advancedMove_reads⟩,
   ⟨"stopAdvancedMoves", stopAdvancedMoves, _, stopAdvancedMoves_reads⟩,
   ⟨"walkInSquare", walkInSquare, _, walkInSquare_reads⟩, ⟨"warp", warp, _, warp_reads⟩,
   ⟨"faceDirection", faceDirection, _, faceDirection_reads⟩,
   ⟨"showFrame", showFrame, _, showFrame_reads⟩, ⟨"animate", animate, _, animate_reads⟩,
   ⟨"stopAnimation", stopAnimation, _, stopAnimation_reads⟩,
   ⟨"positionOffset", positionOffset, _, positionOffset_reads⟩, ⟨"jump", jump, _, jump_reads⟩,
   ⟨"shake", shake, _, shake_reads⟩, ⟨"emote", emote, _, emote_reads⟩,
   ⟨"speed", speed, _, speed_reads⟩, ⟨"halt", halt, _, halt_reads⟩,
   ⟨"addActor", addActor, _, addActor_reads⟩, ⟨"removeActor", removeActor, _, removeActor_reads⟩,
   ⟨"playSound", playSound, _, playSound_reads⟩, ⟨"playMusic", playMusic, _, playMusic_reads⟩,
   ⟨"stopMusic", stopMusic, _, stopMusic_reads⟩, ⟨"viewport", viewport, _, viewport_reads⟩,
   ⟨"globalFade", globalFade, _, globalFade_reads⟩,
   ⟨"globalFadeToClear", globalFadeToClear, _, globalFadeToClear_reads⟩,
   ⟨"spawnEffect", spawnEffect, _, spawnEffect_reads⟩,
   ⟨"screenFlash", screenFlash, _, screenFlash_reads⟩,
   ⟨"mail", mail, _, mail_reads⟩, ⟨"friendship", friendship, _, friendship_reads⟩,
   ⟨"addItem", addItem, _, addItem_reads⟩, ⟨"loseItems", loseItems, _, loseItems_reads⟩,
   ⟨"showItemsLost", showItemsLost, _, showItemsLost_reads⟩,
   ⟨"awardFestivalPrize", awardFestivalPrize, _, awardFestivalPrize_reads⟩]

/-- No command but `advancedMove` notes anything before it looks an actor up. -/
lemma readings_clear :
    ∀ r ∈ (readings : List (Reading α σ)), r.name ≠ "advancedMove" → r.reader.Clear := by
  simp [readings, Reader.silent_clear, Reader.plain_clear, Reader.actor_clear, Reader.Clear.unheld,
    Reader.Clear.whenClosed, readFrame_clear, readFade_clear]

lemma reader_advancedMove :
    ∀ r ∈ (readings : List (Reading α σ)), r.name = "advancedMove" → r.reader = readPath := by
  simp [readings]

/-- The table holds these commands and `end`. -/
lemma builtIn_eq : (builtIn : List (String × Handler α σ)) =
    (readings.map fun r => (r.name, r.handler)).insertIdx 2 ("end", «end») :=
  rfl

/-- A command that a name calls is `end`, or it has a reader. -/
lemma resolve?_cases {name : String} {m : String × Handler α σ}
    (h : table.resolve? name = some m) :
    m = ("end", «end») ∨ ∃ r ∈ (readings : List (Reading α σ)), (r.name, r.handler) = m := by
  have hm := CommandTable.mem_of_resolve? h
  rw [builtIn_eq, List.mem_insertIdx (by simp [readings])] at hm
  exact hm.imp id List.mem_map.mp

/-- Whatever a command reports can be recovered from. -/
lemma handler_notes {name : String} {m : String × Handler α σ} (h : table.resolve? name = some m)
    (a : Args) (s : Scene α σ) :
    ∃ faults : List Fault, (m.2 a s).scene.reports = s.reports ++ faults.map s.noteOf := by
  rcases resolve?_cases h with rfl | ⟨r, -, rfl⟩
  · exact end_notes a s
  · obtain ⟨faults, hreports, -⟩ := (r.reads a s).notes
    exact ⟨faults, hreports⟩

/-- No command gives up. -/
lemma handler_fault {name : String} {m : String × Handler α σ} (h : table.resolve? name = some m)
    (a : Args) (s : Scene α σ) : (m.2 a s).fault = none :=
  (table_isLawful name m h).fault a s

end Cutscene.Commands
