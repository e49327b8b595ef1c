import Mathlib.Data.List.Nodup
import Mathlib.Data.String.Basic
import Cutscene.Content.File

/-!
# Content Is Loaded Whole

A library is made of content that has no fault, and of no other (`ofContent?_eq_ok_iff`). Every
bundle then comes into a library that does not have its asset yet, so that none is put over another
(`assets_ofContent?`), and what the library finds is what the content holds.
-/

namespace Cutscene

/-- Under keys that differ a value is found just if it stands there. -/
lemma lookup_eq_some_iff_mem {β : Type} {l : List (String × β)} (hkeys : (l.map Prod.fst).Nodup)
    {key : String} {value : β} : l.lookup key = some value ↔ (key, value) ∈ l := by
  constructor
  · intro h
    obtain ⟨front, back, rfl, -⟩ := List.lookup_eq_some_iff.mp h
    exact List.mem_append_right front List.mem_cons_self
  · intro h
    obtain ⟨front, back, rfl⟩ := List.append_of_mem h
    refine List.lookup_eq_some_iff.mpr ⟨front, back, rfl, fun m hm => bne_iff_ne.mpr ?_⟩
    rintro rfl
    rw [List.map_append, List.map_cons, List.nodup_append] at hkeys
    exact hkeys.2.2 m.1 (List.mem_map_of_mem hm) m.1 List.mem_cons_self rfl

/-! ### Entries in the order of their names -/

/-- Values in the order of their names, no name twice. -/
def InOrderOfName {β : Type} (l : List (String × β)) : Prop := l.Pairwise fun a b => a.1 < b.1

section Sorted

variable {β : Type} {l : List (String × β)} {name : String} {value : β}

lemma eq_or_mem_of_mem_insertSorted {m : String × β} (hm : m ∈ insertSorted name value l) :
    m = (name, value) ∨ m ∈ l := by
  induction l with
  | nil => exact .inl (List.mem_singleton.mp hm)
  | cons first rest ih =>
    rw [insertSorted] at hm
    split_ifs at hm
    · exact List.mem_cons.mp hm
    · exact (List.mem_cons.mp hm).imp_right (List.mem_cons_of_mem first)
    · rcases List.mem_cons.mp hm with rfl | hm
      · exact .inr List.mem_cons_self
      · exact (ih hm).imp_right (List.mem_cons_of_mem first)

lemma InOrderOfName.insertSorted (h : InOrderOfName l) :
    InOrderOfName (insertSorted name value l) := by
  induction l with
  | nil => exact List.pairwise_singleton _ _
  | cons first rest ih =>
    obtain ⟨hfirst, hrest⟩ := List.pairwise_cons.mp h
    rw [Cutscene.insertSorted]
    split_ifs with hlt heq
    · refine List.pairwise_cons.mpr ⟨List.forall_mem_cons.mpr ⟨hlt, fun m hm => ?_⟩, h⟩
      exact hlt.trans (hfirst m hm)
    · exact List.pairwise_cons.mpr ⟨heq ▸ hfirst, hrest⟩
    · refine List.pairwise_cons.mpr ⟨fun m hm => ?_, ih hrest⟩
      rcases eq_or_mem_of_mem_insertSorted hm with rfl | hm
      · exact lt_of_le_of_ne (not_lt.mp hlt) (Ne.symm heq)
      · exact hfirst m hm

lemma inOrderOfName_sortedByName (pairs : List (String × β)) :
    InOrderOfName (sortedByName pairs) := by
  suffices h : ∀ sorted, InOrderOfName sorted →
      InOrderOfName (pairs.foldl (fun sorted p => Cutscene.insertSorted p.1 p.2 sorted) sorted) from
    h [] List.Pairwise.nil
  induction pairs with
  | nil => exact fun _ hsorted => hsorted
  | cons p rest ih => exact fun _ hsorted => ih _ hsorted.insertSorted

lemma InOrderOfName.nodup (h : InOrderOfName l) : (l.map Prod.fst).Nodup :=
  List.pairwise_map.mpr (h.imp ne_of_lt)

end Sorted

/-- No two entries of a bundle have one name. -/
def Bundle.Keyed (b : Bundle) : Prop := (b.entries.map Prod.fst).Nodup

/-- A bundle from a content file has no two entries of one name. -/
lemma Bundle.keyed_of_ofRon? {d : RonDialect} {r : Ron} {b : Bundle} (h : ofRon? d r = some b) :
    b.Keyed := by
  simp only [ofRon?, Option.bind_eq_bind, Option.bind_eq_some_iff] at h
  obtain ⟨fields, -, found, -, asset, -, written, -, h⟩ := h
  obtain ⟨entries, rfl⟩ : ∃ entries, b = ⟨asset, sortedByName entries⟩ := by
    cases written with
    | none => exact ⟨[], (Option.some.inj h).symm⟩
    | some r =>
      obtain ⟨entries, -, hb⟩ := Option.bind_eq_some_iff.mp h
      exact ⟨entries, (Option.some.inj hb).symm⟩
  exact (inOrderOfName_sortedByName entries).nodup

/-! ### Content without fault -/

namespace Content

/-- Nothing is wrong with content: no asset is given twice or has a blank name, no entry is blank,
and a dance roster has pairs and nobody in it twice. -/
structure IsSound (c : Content) : Prop where
  assets : (c.bundles.map Bundle.asset).Nodup
  named : ∀ b ∈ c.bundles, ¬ Text.allBlank b.asset
  written : ∀ b ∈ c.bundles, ∀ e ∈ b.entries, ¬ Text.allBlank e.2
  dancers : ∀ r ∈ c.danceRoster, r.pairs ≠ [] ∧ (r.leaders ++ r.followers).Nodup

lemma bundleFaults_eq_nil_iff {b : Bundle} : bundleFaults b = [] ↔
    ¬ Text.allBlank b.asset ∧ ∀ e ∈ b.entries, ¬ Text.allBlank e.2 := by
  simp [bundleFaults]

lemma rosterFaults_eq_nil_iff {r : DanceRoster} : rosterFaults r = [] ↔
    r.pairs ≠ [] ∧ (r.leaders ++ r.followers).Nodup := by
  rw [rosterFaults, List.append_eq_nil_iff, List.map_eq_nil_iff, repeated_eq_nil_iff, and_comm]
  simp

/-- Content is without fault just if it is sound. -/
theorem faults_eq_nil_iff {c : Content} : c.faults = [] ↔ c.IsSound := by
  have hassets : repeated [] (c.bundles.map Bundle.asset) = [] ↔
      (c.bundles.map Bundle.asset).Nodup := by
    rw [repeated_eq_nil_iff]
    simp
  have hfaults : c.faults = (repeated [] (c.bundles.map Bundle.asset)).map (.duplicate .asset) ++
      c.bundles.flatMap bundleFaults ++ c.danceRoster.toList.flatMap rosterFaults := by
    rw [faults]
    cases c.danceRoster <;> simp
  rw [hfaults, List.append_eq_nil_iff, List.append_eq_nil_iff, List.map_eq_nil_iff, hassets,
    List.flatMap_eq_nil_iff, List.flatMap_eq_nil_iff]
  simp only [bundleFaults_eq_nil_iff, rosterFaults_eq_nil_iff, Option.mem_toList]
  constructor
  · rintro ⟨⟨hnodup, hbundles⟩, hdancers⟩
    exact ⟨hnodup, fun b hb => (hbundles b hb).1, fun b hb => (hbundles b hb).2, hdancers⟩
  · rintro ⟨hnodup, hnamed, hwritten, hdancers⟩
    exact ⟨⟨hnodup, fun b hb => ⟨hnamed b hb, hwritten b hb⟩⟩, hdancers⟩

end Content

/-! ### The library of content -/

namespace Library

/-- Bundles whose assets are new to a library stand in it as they came, the last of them first. -/
lemma assets_foldl_insertAsset {bundles : List Bundle} {l : Library}
    (hbundles : (bundles.map Bundle.asset).Nodup)
    (hnew : ∀ b ∈ bundles, b.asset ∉ l.assets.map Prod.fst) :
    (bundles.foldl (fun l b => l.insertAsset b.asset b.entries) l).assets =
      (bundles.map fun b => (b.asset, b.entries)).reverse ++ l.assets := by
  induction bundles generalizing l with
  | nil => rfl
  | cons b rest ih =>
    rw [List.map_cons, List.nodup_cons] at hbundles
    have hput : (l.insertAsset b.asset b.entries).assets = (b.asset, b.entries) :: l.assets := by
      have hkept : ∀ a ∈ l.assets, a.1 ≠ b.asset := fun a ha heq =>
        hnew b List.mem_cons_self (heq ▸ List.mem_map_of_mem ha)
      rw [insertAsset, List.filter_eq_self.mpr fun a ha => decide_eq_true (hkept a ha)]
    rw [List.foldl_cons, ih hbundles.2, hput]
    · simp
    · intro b' hb'
      rw [hput, List.map_cons, List.mem_cons, not_or]
      have hother : b'.asset ≠ b.asset := fun heq =>
        hbundles.1 (heq ▸ List.mem_map_of_mem (f := Bundle.asset) hb')
      exact ⟨hother, hnew b' (List.mem_cons_of_mem b hb')⟩

variable {c : Content} {l : Library}

/-- Content is taken if it is sound, and refused with its faults if it is not. -/
lemma ofContent?_eq_ok_iff : (∃ l, ofContent? c = .ok l) ↔ c.IsSound := by
  rw [← Content.faults_eq_nil_iff, ofContent?]
  cases c.faults <;> simp

/-- The library of content has its bundles, each by its asset, and its roster. -/
lemma assets_ofContent? (h : ofContent? c = .ok l) :
    l.assets = (c.bundles.map fun b => (b.asset, b.entries)).reverse ∧
      l.danceRoster = c.danceRoster := by
  have hsound : c.IsSound := ofContent?_eq_ok_iff.mp ⟨l, h⟩
  rw [ofContent?, Content.faults_eq_nil_iff.mpr hsound] at h
  obtain rfl := Except.ok.inj h
  refine ⟨?_, rfl⟩
  dsimp only
  rw [assets_foldl_insertAsset hsound.assets (by simp [empty]), empty, List.append_nil]

/-- The library of content finds the entries of every bundle by its asset, and no others. -/
lemma entries?_eq_some_iff (h : ofContent? c = .ok l) {asset : String}
    {entries : List (String × String)} :
    l.entries? asset = some entries ↔ ∃ b ∈ c.bundles, b.asset = asset ∧ b.entries = entries := by
  have hkeys : (((c.bundles.map fun b => (b.asset, b.entries)).reverse).map Prod.fst).Nodup := by
    rw [List.map_reverse, List.nodup_reverse, List.map_map]
    exact (ofContent?_eq_ok_iff.mp ⟨l, h⟩).assets
  rw [entries?, (assets_ofContent? h).1, lookup_eq_some_iff_mem hkeys]
  simp

end Library

open Library in
/-- **Content is loaded whole or not at all.** It is loaded just if no asset is given twice or has a
blank name, no entry is blank, and a dance roster has pairs and no name in it twice. The library
then has the assets of the content and no others, and for each of them the entries of its bundle as
they are; an entry is found with its text wherever the content has it, and nowhere else; and the
roster is that of the content. -/
theorem content_is_loaded_whole (c : Content) :
    ((∃ l, ofContent? c = .ok l) ↔ c.IsSound) ∧
    ∀ l, ofContent? c = .ok l →
      (∀ asset, l.hasAsset asset ↔ ∃ b ∈ c.bundles, b.asset = asset) ∧
      (∀ asset entries, l.entries? asset = some entries ↔
        ∃ b ∈ c.bundles, b.asset = asset ∧ b.entries = entries) ∧
      (∀ asset entry text, l.entry? asset entry = some text ↔
        ∃ b ∈ c.bundles, b.asset = asset ∧ b.entries.lookup entry = some text) ∧
      (∀ b ∈ c.bundles, b.Keyed → ∀ e ∈ b.entries, l.entry? b.asset e.1 = some e.2) ∧
      l.danceRoster = c.danceRoster := by
  refine ⟨ofContent?_eq_ok_iff, fun l hl => ?_⟩
  have hentries {asset : String} {entries : List (String × String)} :
      l.entries? asset = some entries ↔ _ := entries?_eq_some_iff hl
  have hentry {asset entry text : String} : l.entry? asset entry = some text ↔
      ∃ b ∈ c.bundles, b.asset = asset ∧ b.entries.lookup entry = some text := by
    unfold entry?
    rw [Option.bind_eq_some_iff]
    constructor
    · rintro ⟨entries, hasset, htext⟩
      obtain ⟨b, hb, hname, rfl⟩ := hentries.mp hasset
      exact ⟨b, hb, hname, htext⟩
    · rintro ⟨b, hb, hname, htext⟩
      exact ⟨b.entries, hentries.mpr ⟨b, hb, hname, rfl⟩, htext⟩
  refine ⟨fun asset => ?_, fun _ _ => hentries, fun _ _ _ => hentry, fun b hb hkeyed e he => ?_,
    (assets_ofContent? hl).2⟩
  · rw [hasAsset, Option.isSome_iff_exists]
    simp [hentries]
  · exact hentry.mpr ⟨b, hb, rfl, (lookup_eq_some_iff_mem hkeyed).mpr he⟩

/-- Two bundles with an entry of one name, and a roster; the entry of each is found in its own. -/
theorem two_assets_are_loaded :
    let c : Content := ⟨[⟨"Town", [("fair", "a/b"), ("feast", "c")]⟩, ⟨"Beach", [("fair", "d")]⟩],
      some ⟨[⟨"Sam", "Penny"⟩]⟩⟩
    ∃ l, Library.ofContent? c = .ok l ∧ l.entry? "Town" "fair" = some "a/b" ∧
      l.entry? "Beach" "fair" = some "d" ∧ ¬ l.hasAsset "Farm" := by
  intro c
  obtain ⟨hloads, hholds⟩ := content_is_loaded_whole c
  obtain ⟨l, hl⟩ := hloads.mpr ⟨by decide, by decide, by decide, by decide⟩
  obtain ⟨hassets, -, -, hentry, -⟩ := hholds l hl
  refine ⟨l, hl, ?_, ?_, mt (hassets "Farm").mp (by decide)⟩
  · exact hentry ⟨"Town", [("fair", "a/b"), ("feast", "c")]⟩ (by decide)
      (by unfold Bundle.Keyed; decide) ("fair", "a/b") (by decide)
  · exact hentry ⟨"Beach", [("fair", "d")]⟩ (by decide) (by unfold Bundle.Keyed; decide)
      ("fair", "d") (by decide)

end Cutscene
