import Cutscene.Proofs.Footprint.Table
import Mathlib.Data.List.Induction

/-!
# Names of Commands

A table is what has been entered into it, one entry after the other: handlers are named, and other
names are asked for and granted or refused. What a name leads to is said here of the entries alone
(`resolve?_tableOf`): other names are looked up first, and only a request for another name is
refused where the name is taken. So a command that is named by another name that was granted before
is out of reach.
-/

namespace Cutscene.CommandTable

variable {η : Type}

/-! ### Entries -/

/-- What is asked of a table: to name a handler, or to grant another name for a command. -/
inductive Entry (η : Type) where
  | command (name : String) (handler : η)
  | other (name target : String)

/-- The table after an entry. A request that is refused changes nothing. -/
def enter (t : CommandTable η) : Entry η → CommandTable η
  | .command name handler => t.register name handler
  | .other name target => ((t.registerAlias name target).toOption).getD t

/-- The table into which all this has been entered. -/
def tableOf (history : List (Entry η)) : CommandTable η := history.foldl enter empty

/-- The command that an entry names, with the name as it is spelled there. -/
def Entry.named? (name : String) : Entry η → Option (String × η)
  | .command spelling handler => if Text.alike spelling name then some (spelling, handler) else none
  | .other _ _ => none

/-- The command that was named last by a name, in whatever letters. -/
def lastNamed? (history : List (Entry η)) (name : String) : Option (String × η) :=
  history.reverse.findSome? (Entry.named? name)

/-- The request of an entry, if the table grants it. -/
def Entry.granted? (t : CommandTable η) : Entry η → Option (String × String)
  | .command _ _ => none
  | .other name target => if (t.registerAlias name target).isOk then some (name, target) else none

/-- The requests that are granted, each by the table of what has been entered before it. -/
def granted (t : CommandTable η) : List (Entry η) → List (String × String)
  | [] => []
  | e :: rest => (e.granted? t).toList ++ granted (t.enter e) rest

/-- The target of the request for a name that was granted last. -/
def lastTarget? (history : List (Entry η)) (name : String) : Option String :=
  ((granted empty history).reverse.find? fun a => Text.alike a.1 name).map Prod.snd

/-! ### One more entry -/

variable {history : List (Entry η)} {e : Entry η} {name target : String}

lemma tableOf_append : tableOf (history ++ [e]) = (tableOf history).enter e := by
  rw [tableOf, List.foldl_append]
  rfl

lemma lastNamed?_append :
    lastNamed? (history ++ [e]) name = (e.named? name).or (lastNamed? history name) := by
  rw [lastNamed?, List.reverse_append, List.reverse_singleton, List.singleton_append,
    List.findSome?_cons]
  cases e.named? name <;> rfl

lemma granted_append (t : CommandTable η) :
    granted t (history ++ [e]) =
      granted t history ++ (e.granted? (history.foldl enter t)).toList := by
  induction history generalizing t with
  | nil => simp [granted]
  | cons first rest ih => rw [List.cons_append, granted, ih, granted, List.append_assoc]; rfl

lemma lastTarget?_append : lastTarget? (history ++ [e]) name =
    (((e.granted? (tableOf history)).filter fun a => Text.alike a.1 name).map Prod.snd).or
      (lastTarget? history name) := by
  rw [lastTarget?, granted_append, List.reverse_append, tableOf]
  cases e.granted? (history.foldl enter empty) with
  | none => rfl
  | some a =>
    rw [Option.toList_some, List.reverse_singleton, List.singleton_append, List.find?_cons,
      Option.filter_some]
    split <;> simp_all [lastTarget?]

lemma lookup_put {β : Type} (key : String) (value : β) (l : List (String × β)) (k : String) :
    (put key value l).lookup k = if key = k then some value else l.lookup k := by
  rw [put, List.lookup_cons]
  by_cases hk : key = k
  · simp [hk]
  · rw [if_neg hk, lookup_filter_ne (Ne.symm hk), beq_false_of_ne (Ne.symm hk)]

/-- A request is granted if the target is no other name itself, but that of a command, and the name
is that of none. -/
lemma registerAlias_eq_ok_iff {t t' : CommandTable η} : t.registerAlias name target = .ok t' ↔
    (t.aliases.lookup (Text.lower target) = none ∧
      t.commands.lookup (Text.lower target) ≠ none ∧
      t.commands.lookup (Text.lower name) = none) ∧
    t' = { t with aliases := put (Text.lower name) (Text.lower target) t.aliases } := by
  unfold registerAlias
  dsimp only
  cases t.aliases.lookup (Text.lower target) with
  | some _ => simp
  | none =>
    cases t.commands.lookup (Text.lower target) with
    | none => simp
    | some _ => cases t.commands.lookup (Text.lower name) <;> simp [eq_comm]

lemma granted?_of_ok {t t' : CommandTable η} (h : t.registerAlias name target = .ok t') :
    t.enter (.other name target) = t' ∧
      Entry.granted? t (.other name target) = some (name, target) := by
  simp [enter, Entry.granted?, h, Except.toOption, Except.isOk, Except.toBool]

lemma granted?_of_error {t : CommandTable η} {cause : AliasError}
    (h : t.registerAlias name target = .error cause) :
    t.enter (.other name target) = t ∧ Entry.granted? t (.other name target) = none := by
  simp [enter, Entry.granted?, h, Except.toOption, Except.isOk, Except.toBool]

/-! ### The table by its entries -/

/-- The commands of the table are those named last, and its other names those granted last. -/
theorem lookup_tableOf (history : List (Entry η)) (name : String) :
    (tableOf history).commands.lookup (Text.lower name) = lastNamed? history name ∧
      (tableOf history).aliases.lookup (Text.lower name) =
        (lastTarget? history name).map Text.lower := by
  induction history using List.reverseRecOn with
  | nil => exact ⟨rfl, rfl⟩
  | append_singleton history e ih =>
    rw [tableOf_append, lastNamed?_append, lastTarget?_append]
    cases e with
    | command spelling handler =>
      rw [enter, register, lookup_put, ih.1, ih.2, Entry.named?, Entry.granted?]
      simp only [Text.alike_iff]
      refine ⟨?_, rfl⟩
      split <;> rfl
    | other spelling target =>
      cases hrequest : (tableOf history).registerAlias spelling target with
      | error cause =>
        rw [(granted?_of_error hrequest).1, (granted?_of_error hrequest).2]
        exact ih
      | ok t' =>
        rw [(granted?_of_ok hrequest).1, (granted?_of_ok hrequest).2]
        obtain ⟨-, rfl⟩ := registerAlias_eq_ok_iff.mp hrequest
        refine ⟨ih.1, ?_⟩
        rw [lookup_put, ih.2, Option.filter_some]
        simp only [Text.alike_iff]
        split <;> rfl

/-- A request is granted if what has been entered before makes the target a command and no other
name, and the name no command. -/
lemma registerAlias_tableOf_iff {other target : String} :
    (∃ t, (tableOf history).registerAlias other target = .ok t) ↔
      lastTarget? history target = none ∧ lastNamed? history target ≠ none ∧
        lastNamed? history other = none := by
  have htarget := lookup_tableOf history target
  simp only [registerAlias_eq_ok_iff, htarget, (lookup_tableOf history other).1, exists_and_left,
    exists_eq, and_true, Option.map_eq_none_iff]

lemma named_of_lastNamed? {m : String × η} (h : lastNamed? history name = some m) :
    Text.lower m.1 = Text.lower name := by
  obtain ⟨e, -, he⟩ := List.exists_of_findSome?_eq_some h
  cases e with
  | command spelling handler =>
    rw [Entry.named?] at he
    split at he
    · exact Option.some.inj he ▸ Text.alike_iff.mp ‹_›
    · cases he
  | other => cases he

/-- Names that differ by letter case only are one name. -/
lemma lastNamed?_congr {other : String} (h : Text.lower name = Text.lower other) :
    lastNamed? history name = lastNamed? history other := by
  rw [← (lookup_tableOf history name).1, h, (lookup_tableOf history other).1]

lemma lastTarget?_congr {other : String} (h : Text.lower name = Text.lower other) :
    lastTarget? history name = lastTarget? history other := by
  have hsame : (fun a : String × String => Text.alike a.1 name) = fun a => Text.alike a.1 other :=
    funext fun a => by simp only [Text.alike, h]
  rw [lastTarget?, hsame, lastTarget?]

/-- The target of another name is a command, and never another name itself. -/
theorem target_named {name target : String} (h : lastTarget? history name = some target) :
    lastNamed? history target ≠ none ∧ lastTarget? history target = none := by
  induction history using List.reverseRecOn generalizing name target with
  | nil => cases h
  | append_singleton history e ih =>
    rw [lastTarget?_append] at h ⊢
    rw [lastNamed?_append]
    cases e with
    | command spelling handler =>
      obtain ⟨hnamed, hother⟩ := ih h
      exact ⟨fun hnone => hnamed (Option.or_eq_none_iff.mp hnone).2, hother⟩
    | other spelling asked =>
      cases hrequest : (tableOf history).registerAlias spelling asked with
      | error cause =>
        rw [(granted?_of_error hrequest).2] at h ⊢
        exact ih h
      | ok t =>
        rw [(granted?_of_ok hrequest).2, Option.filter_some] at h ⊢
        obtain ⟨hasked, hcommand, hfree⟩ := registerAlias_tableOf_iff.mp ⟨t, hrequest⟩
        have htarget : lastNamed? history target ≠ none ∧ lastTarget? history target = none := by
          split at h
          · obtain rfl := Option.some.inj h
            exact ⟨hcommand, hasked⟩
          · exact ih h
        -- What is granted now is no name of a command, and the target is one.
        have hapart : ¬ Text.alike spelling target := fun halike =>
          htarget.1 ((lastNamed?_congr (Text.alike_iff.mp halike)).symm.trans hfree)
        rw [if_neg hapart]
        exact htarget

/-- **Other names are looked up first.** A name leads to the command named last by it, or, if it has
been granted as another name, by the target of the request granted last. -/
theorem resolve?_tableOf (history : List (Entry η)) (name : String) :
    (tableOf history).resolve? name =
      lastNamed? history ((lastTarget? history name).getD name) := by
  have hkey : (tableOf history).canonicalKey name =
      Text.lower ((lastTarget? history name).getD name) := by
    rw [canonicalKey, (lookup_tableOf history name).2]
    cases lastTarget? history name <;> rfl
  rw [resolve?, hkey, (lookup_tableOf history _).1]

/-- What has been entered into the table of the built-in commands. -/
def builtInEntries {α σ : Type} [Scalar α] [Stage α σ] : List (Entry (Handler α σ)) :=
  Commands.builtIn.map (fun m => .command m.1 m.2) ++
    Commands.otherNames.map fun a => .other a.1 a.2

lemma tableOf_builtInEntries {α σ : Type} [Scalar α] [Stage α σ] :
    tableOf builtInEntries = (Commands.table : CommandTable (Handler α σ)) := by
  rw [tableOf, builtInEntries, List.foldl_append, List.foldl_map, List.foldl_map]
  rfl

/-- **A command is out of reach behind another name.** Whatever has been entered into a table, be it
the empty one or that of the built-in commands: a name that has not been granted as another name
leads to the command named last by it, and one that has leads to where the target of the request
granted last leads, which is a command, and never another name. So a name leads to the command that
was named by it whenever there is one, and else to its target, except where both are there: the
command is then hidden. A request is granted just if the target is a command and no other name, and
no command has the name; one that is refused changes nothing. -/
theorem hidden_behind_other_name (history : List (Entry η)) :
    let t := tableOf history
    (∀ name, lastTarget? history name = none → t.resolve? name = lastNamed? history name) ∧
    (∀ name target, lastTarget? history name = some target →
      t.resolve? name = t.resolve? target ∧ lastNamed? history target ≠ none ∧
        lastTarget? history target = none) ∧
    (∀ name, t.resolve? name =
        (lastNamed? history name).or ((lastTarget? history name).bind t.resolve?) ↔
      lastNamed? history name = none ∨ lastTarget? history name = none) ∧
    (∀ name target, (∃ t', t.registerAlias name target = .ok t') ↔
      lastTarget? history target = none ∧ lastNamed? history target ≠ none ∧
        lastNamed? history name = none) ∧
    (∀ name target cause, t.registerAlias name target = .error cause →
      tableOf (history ++ [.other name target]) = t) ∧
    ∀ {α σ : Type} [Scalar α] [Stage α σ] (later : List (Entry (Handler α σ))),
      later.foldl enter Commands.table = tableOf (builtInEntries ++ later) := by
  intro t
  have hresolve (name : String) : t.resolve? name = _ := resolve?_tableOf history name
  have hother {name target : String} (h : lastTarget? history name = some target) :
      t.resolve? name = t.resolve? target := by
    rw [hresolve, hresolve, h, (target_named h).2]
    rfl
  refine ⟨fun name hnone => ?_, fun name target h => ⟨hother h, target_named h⟩, fun name => ?_,
    fun _ _ => registerAlias_tableOf_iff, fun name target cause hrefused => ?_, fun later => ?_⟩
  · rw [hresolve, hnone]
    rfl
  · cases hlast : lastTarget? history name with
    | none => simp [hresolve, hlast]
    | some target =>
      obtain ⟨hcommand, hplain⟩ := target_named hlast
      rw [Option.bind_some, hother hlast, or_iff_left (Option.some_ne_none target)]
      cases hnamed : lastNamed? history name with
      | none => simp
      | some m =>
        -- The command that is found has the name of the target, which is no other name.
        refine iff_of_false (fun heq => ?_) (Option.some_ne_none m)
        rw [hresolve, hplain, Option.getD_none, Option.some_or] at heq
        have hsame : Text.lower name = Text.lower target :=
          (named_of_lastNamed? hnamed).symm.trans (named_of_lastNamed? heq)
        rw [lastTarget?_congr hsame, hplain] at hlast
        exact Option.some_ne_none target hlast.symm
  · rw [tableOf_append, (granted?_of_error hrefused).1]
  · rw [tableOf, List.foldl_append, ← tableOf, tableOf_builtInEntries]

/-- Of the third request only the first is another name: it leads to the command named last. -/
theorem other_name_follows_renaming :
    lastTarget? [.command "pause" 0, .other "wait" "pause", .command "Pause" 1] "WAIT" =
        some "pause" ∧
      (tableOf [.command "pause" 0, .other "wait" "pause", .command "Pause" 1]).resolve? "WAIT" =
        some ("Pause", 1) := by
  have hother : lastTarget? [.command "pause" 0, .other "wait" "pause", .command "Pause" 1]
      "WAIT" = some "pause" := by decide +kernel
  refine ⟨hother, ?_⟩
  rw [((hidden_behind_other_name _).2.1 "WAIT" "pause" hother).1]
  decide +kernel

/-- A command that is named by another name of a command is not found by it. -/
theorem wait_stays_another_name :
    lastNamed? [.command "pause" 0, .other "wait" "pause", .command "wait" 1] "wait" =
        some ("wait", 1) ∧
      (tableOf [.command "pause" 0, .other "wait" "pause", .command "wait" 1]).resolve? "wait" =
        some ("pause", 0) := by
  decide +kernel

end Cutscene.CommandTable
