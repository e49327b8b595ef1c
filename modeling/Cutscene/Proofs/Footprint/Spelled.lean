import Cutscene.Proofs.Footprint.Table

/-!
# The Table Spelled Out

No name of a command is taken twice, so the table of commands holds what was put into it, as it was
put in. A run over given commands is worked out much faster in the table with its keys spelled out
than in the one that has yet to be made.
-/

namespace Cutscene

namespace CommandTable

variable {η : Type}

/-- The keys of the commands. -/
def keys (t : CommandTable η) : List String := t.commands.map Prod.fst

lemma lookup_isSome_iff {β : Type} {l : List (String × β)} {key : String} :
    (l.lookup key).isSome ↔ key ∈ l.map Prod.fst := by
  rw [← not_iff_not, Option.not_isSome_iff_eq_none, List.lookup_eq_none_iff]
  simp only [bne_iff_ne, ne_eq, List.mem_map, not_exists, not_and, eq_comm (a := key)]

/-- Nothing has to make room for what is put under a free key. -/
lemma put_eq {β : Type} {key : String} {value : β} {l : List (String × β)}
    (hkey : key ∉ l.map Prod.fst) : put key value l = (key, value) :: l := by
  have hfresh : ∀ e ∈ l, e.1 ≠ key := fun e he heq => hkey (List.mem_map.mpr ⟨e, he, heq⟩)
  rw [put, List.filter_eq_self.mpr fun e he => decide_eq_true (hfresh e he)]

/-- Commands whose names differ by more than letter case stand in the table as they came. -/
lemma commands_register_foldl_eq {l : List (String × η)} {t : CommandTable η}
    (hl : (l.map fun m => Text.lower m.1).Nodup) (ht : ∀ m ∈ l, Text.lower m.1 ∉ t.keys) :
    (l.foldl (fun t h => t.register h.1 h.2) t).commands =
      (l.map fun m => (Text.lower m.1, m)).reverse ++ t.commands := by
  induction l generalizing t with
  | nil => rfl
  | cons x l ih =>
    obtain ⟨hx, hl⟩ := List.nodup_cons.mp hl
    have hput : (t.register x.1 x.2).commands = (Text.lower x.1, x) :: t.commands :=
      put_eq (ht x List.mem_cons_self)
    rw [List.foldl_cons, ih hl, hput]
    · simp
    · intro m hm hkey
      rw [keys, hput, List.map_cons, List.mem_cons] at hkey
      rcases hkey with hsame | hold
      · exact hx (List.mem_map.mpr ⟨m, hm, hsame⟩)
      · exact ht m (List.mem_cons_of_mem _ hm) hold

/-- Another name that is free, for a command that there is, stands in the table as it came. -/
lemma registerAlias_eq {t : CommandTable η} {other target : String}
    (hother : Text.lower other ∉ t.keys) (htarget : Text.lower target ∈ t.keys)
    (hchain : Text.lower target ∉ t.aliases.map Prod.fst)
    (hfresh : Text.lower other ∉ t.aliases.map Prod.fst) :
    t.registerAlias other target =
      .ok ⟨t.commands, (Text.lower other, Text.lower target) :: t.aliases⟩ := by
  have hunchained : ¬ (t.aliases.lookup (Text.lower target)).isSome := by
    rwa [lookup_isSome_iff]
  have hknown : ¬ (t.commands.lookup (Text.lower target)).isNone := by
    obtain ⟨m, hm⟩ := Option.isSome_iff_exists.mp (lookup_isSome_iff.mpr htarget)
    simp [hm]
  have hfree : ¬ (t.commands.lookup (Text.lower other)).isSome := by
    rwa [lookup_isSome_iff]
  rw [registerAlias, if_neg hunchained, if_neg hknown, if_neg hfree, put_eq hfresh]

/-- Other names that no command has, for commands that there are, stand in the table as they
came. -/
lemma aliases_registerAlias_foldl_eq {l : List (String × String)} {t : CommandTable η}
    (hl : (l.map fun a => Text.lower a.1).Nodup)
    (hnames : ∀ a ∈ l, Text.lower a.1 ∉ t.keys ∧ Text.lower a.2 ∈ t.keys)
    (ht : ∀ key ∈ t.aliases.map Prod.fst, key ∉ t.keys ∧ key ∉ l.map fun a => Text.lower a.1) :
    (l.foldl (fun t a => ((t.registerAlias a.1 a.2).toOption).getD t) t).aliases =
      (l.map fun a => (Text.lower a.1, Text.lower a.2)).reverse ++ t.aliases := by
  induction l generalizing t with
  | nil => rfl
  | cons x l ih =>
    obtain ⟨hx, hl⟩ := List.nodup_cons.mp hl
    obtain ⟨hother, htarget⟩ := hnames x List.mem_cons_self
    have halias := registerAlias_eq hother htarget (fun hmem => (ht _ hmem).1 htarget)
      fun hmem => (ht _ hmem).2 List.mem_cons_self
    have hlater := ih (t := ⟨t.commands, (Text.lower x.1, Text.lower x.2) :: t.aliases⟩) hl
      (fun a ha => hnames a (List.mem_cons_of_mem _ ha)) fun key hkey => by
        rcases List.mem_cons.mp hkey with rfl | hkey
        · exact ⟨hother, hx⟩
        · exact ⟨(ht key hkey).1, fun hmem => (ht key hkey).2 (List.mem_cons_of_mem _ hmem)⟩
    rw [List.foldl_cons, halias]
    refine hlater.trans ?_
    simp

/-- A table into which everything is put under a key that is free. -/
theorem ofLists_eq {handlers : List (String × η)} {aliases : List (String × String)}
    (hnames : (handlers.map fun m => Text.lower m.1).Nodup)
    (hothers : (aliases.map fun a => Text.lower a.1).Nodup)
    (hknown : ∀ a ∈ aliases, Text.lower a.1 ∉ handlers.map (fun m => Text.lower m.1) ∧
      Text.lower a.2 ∈ handlers.map (fun m => Text.lower m.1)) :
    ofLists handlers aliases = ⟨(handlers.map fun m => (Text.lower m.1, m)).reverse,
      (aliases.map fun a => (Text.lower a.1, Text.lower a.2)).reverse⟩ := by
  have hcommands : (handlers.foldl (fun t m => t.register m.1 m.2) empty).commands =
      (handlers.map fun m => (Text.lower m.1, m)).reverse := by
    rw [commands_register_foldl_eq hnames fun m _ => List.not_mem_nil, empty, List.append_nil]
  have haliases : (handlers.foldl (fun t m => t.register m.1 m.2) empty).aliases = [] :=
    aliases_register_foldl handlers empty
  have hkeys : ∀ key, key ∈ (handlers.foldl (fun t m => t.register m.1 m.2) empty).keys ↔
      key ∈ handlers.map fun m => Text.lower m.1 := by
    intro key
    rw [keys, hcommands, List.map_reverse, List.mem_reverse, List.map_map]
    rfl
  have hrest := aliases_registerAlias_foldl_eq hothers
    (fun a ha => by rw [hkeys, hkeys]; exact hknown a ha) (by simp [haliases])
  rw [haliases, List.append_nil] at hrest
  rw [ofLists, ← hrest, ← hcommands, ← commands_registerAlias_foldl aliases]

end CommandTable

namespace Commands

variable {α σ : Type} [Scalar α] [Stage α σ]

/-- The names of the commands in small letters. -/
def builtInKeys : List String :=
  ["skippable", "pause", "end", "fork", "switchevent", "beginsimultaneouscommand",
   "endsimultaneouscommand", "setskipactions", "waitforotherplayers", "speak", "message",
   "question", "quickquestion", "speakfromstate", "move", "advancedmove", "stopadvancedmoves",
   "walkinsquare", "warp", "facedirection", "showframe", "animate", "stopanimation",
   "positionoffset", "jump", "shake", "emote", "speed", "halt", "addactor", "removeactor",
   "playsound", "playmusic", "stopmusic", "viewport", "globalfade", "globalfadetoclear",
   "spawneffect", "screenflash", "mail", "friendship", "additem", "loseitems", "showitemslost",
   "awardfestivalprize"]

/-- The other names of commands, all in small letters, the last one first. -/
def otherKeys : List (String × String) :=
  [("temporarysprite", "spawneffect"), ("music", "playmusic"), ("sound", "playsound"),
   ("wait", "pause"), ("face", "facedirection"), ("addmailreceived", "mail")]

/-- The table with its keys as they are found in it. -/
def spelled : CommandTable (Handler α σ) := ⟨(builtInKeys.zip builtIn).reverse, otherKeys⟩

variable (α σ) in
lemma lower_names :
    (builtIn : List (String × Handler α σ)).map (fun m => Text.lower m.1) = builtInKeys := by
  simp only [builtIn, List.map_cons, List.map_nil]
  decide +kernel

lemma lower_otherNames :
    (otherNames.map fun a => (Text.lower a.1, Text.lower a.2)).reverse = otherKeys := by
  decide +kernel

/-- Everything that is put into the table finds its key free. -/
theorem table_eq_spelled : (table : CommandTable (Handler α σ)) = spelled := by
  have hlower := lower_names α σ
  rw [table, CommandTable.ofLists_eq (by rw [hlower]; decide +kernel) (by decide +kernel)
    (by rw [hlower]; decide +kernel), List.map_prod_right_eq_zip, hlower]
  exact congrArg (CommandTable.mk _) lower_otherNames

/-- The command that a text calls, by what stands under its first token. -/
lemma commandOf_of_spelled {raw token name : String} {args : List String} {handler : Handler α σ}
    (htokens : Script.tokens? raw = some (token :: args))
    (hresolve : spelled.resolve? token = some (name, handler)) :
    (table : CommandTable (Handler α σ)).commandOf raw = (name, ⟨token :: args⟩) := by
  rw [table_eq_spelled, CommandTable.commandOf, htokens]
  dsimp only
  rw [hresolve]

end Commands

end Cutscene
