import Cutscene.Proofs.Footprint.Acting
import Cutscene.Proofs.Footprint.Steering
import Mathlib.Data.List.Nodup

/-!
# The Table of Commands

The handlers of a table are those it was made of, and each built-in one leaves its footprint or,
being an `end`, finishes the event.
-/

namespace Cutscene

/-- Without one key, the others lead to what they led to. -/
lemma lookup_filter_ne {κ β : Type} [DecidableEq κ] {key other : κ} (hne : key ≠ other)
    (l : List (κ × β)) : (l.filter fun m => m.1 ≠ other).lookup key = l.lookup key := by
  induction l with
  | nil => rfl
  | cons m rest ih =>
    by_cases hm : m.1 = other
    · have hkey : (key == m.1) = false := by simpa [hm] using hne
      rw [List.filter_cons_of_neg (by simpa using hm), ih, List.lookup_cons, hkey]
    · rw [List.filter_cons_of_pos (by simpa using hm), List.lookup_cons, List.lookup_cons, ih]

namespace CommandTable

variable {η : Type}

lemma commands_register_foldl {P : String × String × η → Prop} {l : List (String × η)}
    (hl : ∀ m ∈ l, P (Text.lower m.1, m)) {t : CommandTable η} (ht : ∀ e ∈ t.commands, P e) :
    ∀ e ∈ (l.foldl (fun t h => t.register h.1 h.2) t).commands, P e := by
  induction l generalizing t with
  | nil => exact ht
  | cons x l ih =>
    refine ih (fun m hm => hl m (List.mem_cons_of_mem _ hm)) fun e he => ?_
    rcases List.mem_cons.mp he with rfl | he
    · exact hl x List.mem_cons_self
    · exact ht e (List.mem_filter.mp he).1

lemma aliases_register_foldl (l : List (String × η)) (t : CommandTable η) :
    (l.foldl (fun t h => t.register h.1 h.2) t).aliases = t.aliases := by
  induction l generalizing t with
  | nil => rfl
  | cons x l ih => exact ih _

lemma commands_registerAlias_foldl (l : List (String × String)) (t : CommandTable η) :
    (l.foldl (fun t a => ((t.registerAlias a.1 a.2).toOption).getD t) t).commands
      = t.commands := by
  induction l generalizing t with
  | nil => rfl
  | cons x l ih =>
    refine (ih _).trans ?_
    unfold registerAlias
    dsimp only
    split_ifs <;> rfl

lemma aliases_registerAlias_foldl {P : String × String → Prop} {l : List (String × String)}
    (hl : ∀ a ∈ l, P (Text.lower a.1, Text.lower a.2)) {t : CommandTable η}
    (ht : ∀ e ∈ t.aliases, P e) :
    ∀ e ∈ (l.foldl (fun t a => ((t.registerAlias a.1 a.2).toOption).getD t) t).aliases, P e := by
  induction l generalizing t with
  | nil => exact ht
  | cons x l ih =>
    refine ih (fun m hm => hl m (List.mem_cons_of_mem _ hm)) fun e he => ?_
    unfold registerAlias at he
    dsimp only at he
    split_ifs at he
    · exact ht e he
    · exact ht e he
    · exact ht e he
    · rcases List.mem_cons.mp he with rfl | he
      · exact hl x List.mem_cons_self
      · exact ht e (List.mem_filter.mp he).1

/-- A name leads to the handler that was registered last, or to where it led before. -/
lemma resolve?_register {t : CommandTable η} {command name : String} {handler : η}
    {m : String × η} (h : (t.register command handler).resolve? name = some m) :
    m = (command, handler) ∨ t.resolve? name = some m := by
  rw [resolve?, register, put, List.lookup_cons] at h
  split at h
  · exact .inl (Option.some.inj h).symm
  · rename_i hne
    have hother : t.canonicalKey name ≠ Text.lower command := fun heq => by
      have hkey := beq_iff_eq.mpr heq
      exact Bool.false_ne_true (hne.symm.trans hkey)
    exact .inr ((lookup_filter_ne hother t.commands).symm.trans h)

section Resolve

variable {handlers : List (String × η)} {aliases : List (String × String)} {name : String}
  {m : String × η}

lemma of_resolve? {P : String × String × η → Prop} (hP : ∀ m ∈ handlers, P (Text.lower m.1, m))
    (h : (ofLists handlers aliases).resolve? name = some m) :
    P ((ofLists handlers aliases).canonicalKey name, m) := by
  obtain ⟨before, after, hsplit, -⟩ := List.lookup_eq_some_iff.mp h
  have hmem := hsplit ▸ List.mem_append_right before List.mem_cons_self
  rw [ofLists, commands_registerAlias_foldl] at hmem
  exact commands_register_foldl hP (by simp [empty]) _ hmem

lemma mem_of_resolve? (h : (ofLists handlers aliases).resolve? name = some m) : m ∈ handlers :=
  of_resolve? (P := fun e => e.2 ∈ handlers) (fun _ hm => hm) h

/-- A command is called by its name, or by another name for it. -/
lemma lower_of_resolve? (h : (ofLists handlers aliases).resolve? name = some m) :
    Text.lower name = Text.lower m.1 ∨
      ∃ a ∈ aliases, Text.lower name = Text.lower a.1 ∧ Text.lower m.1 = Text.lower a.2 := by
  have hkey := of_resolve? (P := fun e => e.1 = Text.lower e.2.1) (fun _ _ => rfl) h
  unfold canonicalKey at hkey
  dsimp only at hkey
  cases hother : (ofLists handlers aliases).aliases.lookup (Text.lower name) with
  | none =>
    rw [hother] at hkey
    exact .inl hkey
  | some key =>
    rw [hother] at hkey
    obtain ⟨before, after, hsplit, -⟩ := List.lookup_eq_some_iff.mp hother
    have hmem := hsplit ▸ List.mem_append_right before List.mem_cons_self
    obtain ⟨a, ha, hnamed⟩ := aliases_registerAlias_foldl
      (P := fun e => ∃ a ∈ aliases, (Text.lower a.1, Text.lower a.2) = e)
      (fun a ha => ⟨a, ha, rfl⟩) (by simp [aliases_register_foldl, empty]) _ hmem
    obtain ⟨hname, htarget⟩ := Prod.mk.inj hnamed
    exact .inr ⟨a, ha, hname.symm, hkey.symm.trans htarget.symm⟩

end Resolve

/-- The command that a text calls, by the name it was registered with, and its tokens; a command
without a name where the text calls none. -/
def commandOf (table : CommandTable η) (raw : String) : String × Args :=
  match Script.tokens? raw with
  | some (name :: args) =>
    match table.resolve? name with
    | some (name', _) => (name', ⟨name :: args⟩)
    | none => ("", ⟨[]⟩)
  | _ => ("", ⟨[]⟩)

lemma resolve?_of_commandOf {table : CommandTable η} {raw : String}
    (h : (table.commandOf raw).1 ≠ "") :
    ∃ name args handler, Script.tokens? raw = some (name :: args) ∧
      table.resolve? name = some ((table.commandOf raw).1, handler) ∧
      (table.commandOf raw).2 = ⟨name :: args⟩ := by
  unfold commandOf at h ⊢
  rcases ht : Script.tokens? raw with _ | _ | ⟨name, args⟩
  · simp [ht] at h
  · simp [ht] at h
  · rcases hr : table.resolve? name with _ | ⟨name', handler⟩
    · simp [ht, hr] at h
    · exact ⟨name, args, handler, rfl, by simp [hr], by simp [hr]⟩

end CommandTable

namespace Commands

open Scene

variable {α σ : Type} [Scalar α] [Stage α σ]

/-- A handler leaves its footprint, or finishes the event after quiet work. -/
def Lawful (name : String) (handler : Handler α σ) : Prop :=
  ∀ a s, Obeys name a s (handler a s) ∨
    ∃ u ending, s.Quiet u ∧ handler a s = (u.finish ending).done

omit [Scalar α] in
/-- A lawful handler does not give up. -/
lemma Lawful.fault {name : String} {handler : Handler α σ} (h : Lawful name handler) (a : Args)
    (s : Scene α σ) : (handler a s).fault = none := by
  rcases h a s with hobeys | ⟨u, ending, -, heq⟩
  · exact hobeys.fault
  · rw [heq]
    rfl

/-- Whatever command this table gives out is lawful. -/
def IsLawful (table : CommandTable (Handler α σ)) : Prop :=
  ∀ name m, table.resolve? name = some m → Lawful m.1 m.2

theorem builtIn_lawful : ∀ m ∈ (builtIn : List (String × Handler α σ)), Lawful m.1 m.2 := by
  have h : ∀ {name : String} {handler : Handler α σ},
      (∀ a s, Obeys name a s (handler a s)) → Lawful name handler := fun h a s => .inl (h a s)
  simp only [builtIn, List.forall_mem_cons]
  exact ⟨h skippable_obeys, h pause_obeys, end_obeys, h fork_obeys, h switchEvent_obeys,
    h beginSimultaneous_obeys, h endSimultaneous_obeys, h setSkipActions_obeys,
    h waitForOtherPlayers_obeys, h speak_obeys, h message_obeys, h question_obeys,
    h quickQuestion_obeys, h speakFromState_obeys, h move_obeys, h advancedMove_obeys,
    h stopAdvancedMoves_obeys, h walkInSquare_obeys, h warp_obeys, h faceDirection_obeys,
    h showFrame_obeys, h animate_obeys, h stopAnimation_obeys, h positionOffset_obeys,
    h jump_obeys, h shake_obeys, h emote_obeys, h speed_obeys, h halt_obeys, h addActor_obeys,
    h removeActor_obeys, h playSound_obeys, h playMusic_obeys, h stopMusic_obeys,
    h viewport_obeys, h globalFade_obeys, h globalFadeToClear_obeys, h spawnEffect_obeys,
    h screenFlash_obeys, h mail_obeys, h friendship_obeys, h addItem_obeys, h loseItems_obeys,
    h showItemsLost_obeys, h awardFestivalPrize_obeys, by simp⟩

lemma table_isLawful : IsLawful (table : CommandTable (Handler α σ)) :=
  fun _ _ h => builtIn_lawful _ (CommandTable.mem_of_resolve? h)

/-! ### Commands by name -/

lemma names_nodup : ((builtIn : List (String × Handler α σ)).map Prod.fst).Nodup := by
  simp only [builtIn, List.map_cons, List.map_nil]
  decide

lemma name_ne_empty {name : String} {handler : Handler α σ} (hmem : (name, handler) ∈ builtIn) :
    name ≠ "" := by
  have hnames : ∀ m ∈ (builtIn : List (String × Handler α σ)), m.1 ≠ "" := by
    simp [builtIn]
  exact hnames _ hmem

/-- No two commands of the table have the same name. -/
lemma handler_of_resolve? {command name : String} {handler h : Handler α σ}
    (hmem : (command, h) ∈ builtIn) (hr : table.resolve? name = some (command, handler)) :
    handler = h :=
  have hsame := List.inj_on_of_nodup_map names_nodup (CommandTable.mem_of_resolve? hr) hmem rfl
  (Prod.mk.inj hsame).2

end Commands

end Cutscene
