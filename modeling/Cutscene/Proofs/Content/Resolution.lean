import Cutscene.Content.Library
import Cutscene.Proofs.Script.Cut
import Mathlib.Algebra.Group.Nat.Even

/-!
# Scripts Are Missing Only Where Content Is

A script is looked for under the entries that may stand in for its entry in a year
(`Library.standIns`), and the key of the script tells which of them it was read from
(`ScriptKey.ext_of_resolvedEntry`). Where the asset has one of them there is a script, since the
grammar of scripts reads every text.
-/

namespace Cutscene

namespace ScriptKey

/-- A variant stands behind the entry, with an underscore between them. -/
lemma resolvedEntry_eq (k : ScriptKey) :
    k.resolvedEntry = k.entry ++ (k.variant.map ("_" ++ ·)).getD "" := by
  unfold resolvedEntry
  cases k.variant with
  | none => exact String.append_empty.symm
  | some v => exact String.append_assoc

/-- Of one entry no two keys are read from the same place. -/
lemma ext_of_resolvedEntry {k k' : ScriptKey} (hasset : k.asset = k'.asset)
    (hentry : k.entry = k'.entry) (hresolved : k.resolvedEntry = k'.resolvedEntry) : k = k' := by
  rw [resolvedEntry_eq, resolvedEntry_eq, hentry] at hresolved
  have hbehind := congrArg String.toList hresolved
  obtain ⟨asset, entry, variant⟩ := k
  obtain ⟨asset', entry', variant'⟩ := k'
  dsimp only at hasset hentry hbehind
  have hvariant : variant = variant' := by
    cases variant <;> cases variant' <;> simp at hbehind
    · rfl
    · exact congrArg some (String.toList_inj.mp hbehind)
  rw [hasset, hentry, hvariant]

end ScriptKey

namespace Library

variable {l : Library} {asset entry : String} {year : Nat} {key : ScriptKey}

/-- The entries that may stand in for an entry in a year, the one that is preferred first: that of
the year, in even years that of the second, and the entry itself. -/
def standIns (entry : String) (year : Nat) : List String :=
  [entry ++ "_y" ++ Numeral.ofNat year] ++ (if Even year then [entry ++ "_y2"] else []) ++ [entry]

/-- The asset has a text under an entry. -/
def hasEntry (l : Library) (asset id : String) : Bool := (l.entry? asset id).isSome

/-- The keys under which an entry is looked for. -/
def keys (asset entry : String) (year : Nat) : List ScriptKey :=
  (variants year).map fun v => ⟨asset, entry, v⟩

lemma map_resolvedEntry_keys (asset entry : String) (year : Nat) :
    (keys asset entry year).map ScriptKey.resolvedEntry = standIns entry year := by
  have hyear : entry ++ ("_" ++ s!"y{Numeral.ofNat year}") =
      entry ++ "_y" ++ Numeral.ofNat year := by
    change entry ++ ("_" ++ ("y" ++ Numeral.ofNat year)) = _
    simp [String.ext_iff]
  unfold keys standIns variants
  by_cases heven : Even year
  · rw [if_pos (Nat.even_iff.mp heven), if_pos heven]
    simpa [ScriptKey.resolvedEntry_eq] using hyear
  · rw [if_neg (mt Nat.even_iff.mpr heven), if_neg heven]
    simpa [ScriptKey.resolvedEntry_eq] using hyear

lemma asset_of_mem_keys (h : key ∈ keys asset entry year) :
    key.asset = asset ∧ key.entry = entry := by
  obtain ⟨v, -, rfl⟩ := List.mem_map.mp h
  exact ⟨rfl, rfl⟩

/-- No text is found in an asset that is not there. -/
lemma hasEntry_of_not_hasAsset (h : l.hasAsset asset = false) (id : String) :
    l.hasEntry asset id = false := by
  rw [hasAsset, Option.isSome_eq_false_iff, Option.isNone_iff_eq_none] at h
  rw [hasEntry, entry?, h, Option.bind_none, Option.isSome_none]

lemma resolveKey_of_not_hasAsset (h : l.hasAsset asset = false) :
    l.resolveKey asset entry year = .error (.unknownAsset asset) := by
  rw [hasAsset, Option.isSome_eq_false_iff, Option.isNone_iff_eq_none] at h
  rw [resolveKey, h]

/-- In an asset that is there the keys are tried in their order. -/
lemma resolveKey_of_hasAsset (h : l.hasAsset asset = true) : l.resolveKey asset entry year =
    match (keys asset entry year).find? fun k => l.hasEntry asset k.resolvedEntry with
    | some key => .ok key
    | none => .error (.missingScript asset entry) := by
  obtain ⟨entries, hentries⟩ := Option.isSome_iff_exists.mp h
  have hentry : ∀ id, l.hasEntry asset id = (entries.lookup id).isSome := fun id => by
    rw [hasEntry, entry?, hentries, Option.bind_some]
  simp only [resolveKey, hentries, hentry]
  rfl

/-- The key that is found is that of the first stand-in which the asset has. -/
lemma find?_keys_eq_some_iff :
    ((keys asset entry year).find? fun k => l.hasEntry asset k.resolvedEntry) = some key ↔
      key.asset = asset ∧ key.entry = entry ∧
        (standIns entry year).find? (l.hasEntry asset) = some key.resolvedEntry := by
  rw [← map_resolvedEntry_keys asset entry year, List.find?_map, Option.map_eq_some_iff]
  constructor
  · intro h
    obtain ⟨hasset, hentry⟩ := asset_of_mem_keys (List.mem_of_find?_eq_some h)
    exact ⟨hasset, hentry, key, h, rfl⟩
  · rintro ⟨hasset, hentry, key', h, hresolved⟩
    obtain ⟨hasset', hentry'⟩ := asset_of_mem_keys (List.mem_of_find?_eq_some h)
    obtain rfl : key' = key := ScriptKey.ext_of_resolvedEntry (hasset'.trans hasset.symm)
      (hentry'.trans hentry.symm) hresolved
    exact h

lemma find?_keys_eq_none_iff :
    ((keys asset entry year).find? fun k => l.hasEntry asset k.resolvedEntry) = none ↔
      ∀ id ∈ standIns entry year, l.hasEntry asset id = false := by
  rw [← map_resolvedEntry_keys asset entry year, List.find?_eq_none, List.forall_mem_map]
  simp only [Bool.not_eq_true]

lemma resolveKey_eq_ok_iff : l.resolveKey asset entry year = .ok key ↔
    key.asset = asset ∧ key.entry = entry ∧
      (standIns entry year).find? (l.hasEntry asset) = some key.resolvedEntry := by
  rw [← find?_keys_eq_some_iff]
  by_cases hasset : l.hasAsset asset = true
  · rw [resolveKey_of_hasAsset hasset]
    cases (keys asset entry year).find? fun k => l.hasEntry asset k.resolvedEntry <;> simp
  · rw [Bool.not_eq_true] at hasset
    rw [resolveKey_of_not_hasAsset hasset, find?_keys_eq_some_iff,
      List.find?_eq_none.mpr fun id _ => by simp [hasEntry_of_not_hasAsset hasset id]]
    simp

/-- An asset that is not there is told first. -/
lemma resolveKey_eq_error_iff {e : LookupError} : l.resolveKey asset entry year = .error e ↔
    (l.hasAsset asset = false ∧ e = .unknownAsset asset) ∨
      (l.hasAsset asset = true ∧ (∀ id ∈ standIns entry year, l.hasEntry asset id = false) ∧
        e = .missingScript asset entry) := by
  by_cases hasset : l.hasAsset asset = true
  · rw [resolveKey_of_hasAsset hasset, ← find?_keys_eq_none_iff]
    cases (keys asset entry year).find? fun k => l.hasEntry asset k.resolvedEntry <;>
      simp [hasset, eq_comm (a := e)]
  · rw [Bool.not_eq_true] at hasset
    rw [resolveKey_of_not_hasAsset hasset]
    simp [hasset, eq_comm (a := e)]

/-- A script that has a key is the text under it, cut into commands: the text that was found does
not vanish. -/
lemma resolve_of_resolveKey (h : l.resolveKey asset entry year = .ok key) :
    ∃ text, l.entry? asset key.resolvedEntry = some text ∧
      l.resolve asset entry year = .ok ⟨key, Script.split text⟩ := by
  obtain ⟨hasset, -, hfound⟩ := resolveKey_eq_ok_iff.mp h
  have hhas := List.find?_some hfound
  obtain ⟨text, htext⟩ := Option.isSome_iff_exists.mp hhas
  refine ⟨text, htext, ?_⟩
  rw [← hasset] at htext
  rw [resolve, h]
  dsimp only [bind, Except.bind]
  rw [htext]
  rfl

/-- Looking up fails where looking for the key fails, and for the same reason. -/
lemma resolve_eq_error_iff {e : LookupError} : l.resolve asset entry year = .error e ↔
    l.resolveKey asset entry year = .error e := by
  cases hkey : l.resolveKey asset entry year with
  | error e' =>
    have herror : l.resolve asset entry year = .error e' := by rw [resolve, hkey]; rfl
    rw [herror]
    simp
  | ok key =>
    obtain ⟨text, -, hok⟩ := resolve_of_resolveKey hkey
    rw [hok]
    simp

lemma resolve_eq_ok_iff {script : Script} : l.resolve asset entry year = .ok script ↔
    l.resolveKey asset entry year = .ok script.key ∧ ∃ text,
      l.entry? asset script.key.resolvedEntry = some text ∧
        script.commands = Script.split text := by
  cases hkey : l.resolveKey asset entry year with
  | error e =>
    rw [resolve_eq_error_iff.mpr hkey]
    simp
  | ok key =>
    obtain ⟨text, htext, hok⟩ := resolve_of_resolveKey hkey
    rw [hok]
    constructor
    · rintro ⟨rfl⟩
      exact ⟨rfl, text, htext, rfl⟩
    · rintro ⟨⟨rfl⟩, text', htext', hcommands⟩
      obtain rfl : text = text' := Option.some.inj (htext.symm.trans htext')
      rw [← hcommands]

end Library

open Library in
/-- **A script is missing only where its content is.** Looking up an entry in a year fails just
where the library has no such asset, or the asset has none of the entries that may stand in for it,
and the reason tells which of the two it is; no entry vanishes between the look at its key and the
look at its text. Where there is a script its key is of the asset and the entry and tells the first
stand-in that the asset has, and the commands are what the text of that one is cut into: the
grammar of scripts reads every text that is stored, to its end. -/
theorem scripts_are_missing_only_where_content_is (l : Library) (asset entry : String)
    (year : Nat) :
    ((∃ e, l.resolve asset entry year = .error e) ↔
      l.hasAsset asset = false ∨ ∀ id ∈ standIns entry year, l.entry? asset id = none) ∧
    (∀ e, l.resolve asset entry year = .error e →
      e = if l.hasAsset asset then .missingScript asset entry else .unknownAsset asset) ∧
    (∀ key, l.resolve asset entry year ≠ .error (.vanished key)) ∧
    (∀ script, l.resolve asset entry year = .ok script ↔
      script.key.asset = asset ∧ script.key.entry = entry ∧
      (standIns entry year).find? (fun id => (l.entry? asset id).isSome) =
        some script.key.resolvedEntry ∧
      ∃ text, l.entry? asset script.key.resolvedEntry = some text ∧
        script.commands = Script.split text) ∧
    ∀ id text, l.entry? asset id = some text →
      ∀ r, Script.grammar.Reads text.toList r ↔ r = some (Script.segments text.toList, []) := by
  have hnone : ∀ id, l.hasEntry asset id = false ↔ l.entry? asset id = none := fun id => by
    rw [hasEntry, Option.isSome_eq_false_iff, Option.isNone_iff_eq_none]
  refine ⟨?_, ?_, ?_, ?_, ?_⟩
  · simp only [resolve_eq_error_iff, resolveKey_eq_error_iff, ← hnone]
    constructor
    · rintro ⟨e, ⟨hasset, -⟩ | ⟨-, hentries, -⟩⟩
      · exact .inl hasset
      · exact .inr hentries
    · intro h
      by_cases hasset : l.hasAsset asset = true
      · refine ⟨_, .inr ⟨hasset, h.resolve_left ?_, rfl⟩⟩
        rw [hasset]
        exact Bool.noConfusion
      · exact ⟨_, .inl ⟨Bool.not_eq_true _ ▸ hasset, rfl⟩⟩
  · intro e he
    rcases resolveKey_eq_error_iff.mp (resolve_eq_error_iff.mp he) with
      ⟨hasset, rfl⟩ | ⟨hasset, -, rfl⟩
    · rw [hasset, if_neg Bool.false_ne_true]
    · rw [hasset, if_pos rfl]
  · intro key he
    rcases resolveKey_eq_error_iff.mp (resolve_eq_error_iff.mp he) with ⟨-, h⟩ | ⟨-, -, h⟩
    · cases h
    · cases h
  · intro script
    rw [resolve_eq_ok_iff, resolveKey_eq_ok_iff, and_assoc, and_assoc]
    rfl
  · intro id text _ r
    have hreads := Script.reads_grammar text.toList
    exact ⟨fun h => h.unique hreads, fun h => h ▸ hreads⟩

/-- In the fourth year the script of the second one stands in. -/
example : (Library.empty.insertAsset "fair" [("main", "a/b"), ("main_y2", "c"),
    ("main_y3", "d")]).resolve "fair" "main" 4 = .ok ⟨⟨"fair", "main", some "y2"⟩, ["c"]⟩ := by
  decide +kernel

end Cutscene
