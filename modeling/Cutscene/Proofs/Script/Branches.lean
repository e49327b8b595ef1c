import Cutscene.Commands.Dialogue
import Mathlib.Data.List.Infix

/-!
# The Branches of a Quick Question

The text of a quick question is cut at every `(break)`, and a branch of it at every backslash,
inside of quotes as outside. So no command that comes out of a branch has either of them in it, and
a branch of commands that have neither comes out as it went in.
-/

namespace Cutscene

namespace Text

variable {mark m : Char} {word ms cs piece rest : List Char}

/-! ### Cutting at a character -/

lemma grow_eq_modifyHead {c : Char} {ps : List (List Char)} (h : ps ≠ []) :
    grow c ps = ps.modifyHead (c :: ·) := by
  obtain ⟨p, ps, rfl⟩ := List.exists_cons_of_ne_nil h
  rfl

lemma cutChars_eq_splitOn (mark : Char) (cs : List Char) : cutChars mark cs = cs.splitOn mark := by
  induction cs with
  | nil => rfl
  | cons c cs ih =>
    rw [cutChars, List.splitOn_cons_eq_if_modifyHead, ih, grow_eq_modifyHead (by simp)]
    simp only [beq_iff_eq]

/-- No piece has the mark in it. The first piece stands in front of the text, and the others
somewhere in it. -/
lemma cutChars_pieces (mark : Char) (cs : List Char) : ∃ p ps, cutChars mark cs = p :: ps ∧
    p <+: cs ∧ ∀ q ∈ p :: ps, mark ∉ q ∧ q <:+: cs := by
  induction cs with
  | nil => exact ⟨[], [], rfl, List.nil_prefix, by simp⟩
  | cons c cs ih =>
    obtain ⟨p, ps, heq, hfront, hall⟩ := ih
    have hlonger : ∀ q ∈ p :: ps, mark ∉ q ∧ q <:+: c :: cs :=
      fun q hq => ⟨(hall q hq).1, List.infix_cons (hall q hq).2⟩
    rw [cutChars, heq]
    split
    · exact ⟨[], p :: ps, rfl, List.nil_prefix, List.forall_mem_cons.mpr ⟨by simp, hlonger⟩⟩
    · rename_i hc
      have hgrown : c :: p <+: c :: cs := (List.prefix_cons_inj c).mpr hfront
      refine ⟨c :: p, ps, rfl, hgrown, List.forall_mem_cons.mpr ⟨⟨?_, hgrown.isInfix⟩, ?_⟩⟩
      · simpa [Ne.symm hc] using (hall p (by simp)).1
      · exact fun q hq => hlonger q (List.mem_cons_of_mem p hq)

/-! ### Cutting at a word -/

lemma cutWords_dropped (word front rest : List Char) :
    cutWords word front.length (front ++ rest) = cutWords word 0 rest := by
  induction front with
  | nil => rfl
  | cons c front ih => exact ih

lemma cutWords_word (m : Char) (ms rest : List Char) :
    cutWords (m :: ms) 0 (m :: ms ++ rest) = [] :: cutWords (m :: ms) 0 rest := by
  have hprefix : (m :: ms).isPrefixOf (m :: (ms ++ rest)) = true :=
    List.isPrefixOf_iff_prefix.mpr (List.prefix_append (m :: ms) rest)
  rw [List.cons_append, cutWords, if_pos hprefix, List.length_cons, Nat.add_sub_cancel,
    cutWords_dropped]

/-- A word whose first character comes in it but once does not reach into an occurrence of itself
from the front. -/
lemma not_prefix_of_not_infix (hms : m ∉ ms) (hpiece : ¬ m :: ms <:+: piece) (hne : piece ≠ [])
    (hrest : rest = [] ∨ m :: ms <+: rest) : ¬ m :: ms <+: piece ++ rest := by
  intro hword
  rcases List.prefix_or_prefix_of_prefix hword (List.prefix_append piece rest) with hin | hacross
  · exact hpiece hin.isInfix
  · obtain ⟨c, piece, rfl⟩ := List.exists_cons_of_ne_nil hne
    obtain ⟨beyond, hbeyond⟩ := hacross
    obtain ⟨rfl, rfl⟩ : c = m ∧ piece ++ beyond = ms := by simpa using hbeyond
    rw [← hbeyond] at hword
    have hinto : beyond <+: rest := (List.prefix_append_right_inj _).mp hword
    rcases beyond with _ | ⟨d, beyond⟩
    · exact hpiece (by simp)
    · rcases hrest with rfl | hrest
      · simp at hinto
      · obtain ⟨back, rfl⟩ := hrest
        obtain ⟨rfl, -⟩ := List.cons_prefix_cons.mp hinto
        exact hms (by simp)

/-- The text is cut behind a piece that has no mark in it. -/
lemma cutWords_piece (hms : m ∉ ms) (hpiece : ¬ m :: ms <:+: piece)
    (hrest : rest = [] ∨ m :: ms <+: rest) : cutWords (m :: ms) 0 (piece ++ rest) =
      piece :: (cutWords (m :: ms) 0 rest).tail := by
  induction piece with
  | nil =>
    rcases hrest with rfl | ⟨back, rfl⟩
    · rfl
    · rw [List.nil_append, cutWords_word, List.tail_cons]
  | cons c piece ih =>
    have hno : ¬ (m :: ms).isPrefixOf (c :: (piece ++ rest)) = true := fun h =>
      not_prefix_of_not_infix hms hpiece (by simp) hrest (List.isPrefixOf_iff_prefix.mp h)
    rw [List.cons_append, cutWords, if_neg hno, ih fun h => hpiece (List.infix_cons h)]
    rfl

/-- Pieces that have no mark in them, each with a mark behind it, are cut off one by one. -/
lemma cutWords_pieces (hms : m ∉ ms) {front : List (List Char)}
    (hfront : ∀ piece ∈ front, ¬ m :: ms <:+: piece) (rest : List Char) :
    cutWords (m :: ms) 0 (front.flatMap (· ++ m :: ms) ++ rest) =
      front ++ cutWords (m :: ms) 0 rest := by
  induction front with
  | nil => rfl
  | cons piece front ih =>
    obtain ⟨hpiece, hfront⟩ := List.forall_mem_cons.mp hfront
    rw [List.flatMap_cons, List.append_assoc, List.append_assoc,
      cutWords_piece hms hpiece (.inr (List.prefix_append _ _)), cutWords_word, List.tail_cons,
      ih hfront, List.cons_append]

/-- No piece has the word in it, and the first stands in front of the text. -/
lemma cutWords_free (hword : word ≠ []) (k : Nat) (cs : List Char) : ∃ p ps,
    cutWords word k cs = p :: ps ∧ (k = 0 → p <+: cs) ∧ ∀ q ∈ p :: ps, ¬ word <:+: q := by
  fun_induction cutWords word k cs with
  | case1 => exact ⟨[], [], rfl, fun _ => List.nil_prefix, by simpa using hword⟩
  | case2 k c rest ih =>
    obtain ⟨p, ps, heq, -, hall⟩ := ih
    exact ⟨p, ps, heq, by simp, hall⟩
  | case3 c rest _ ih =>
    obtain ⟨p, ps, heq, -, hall⟩ := ih
    exact ⟨[], p :: ps, by rw [heq], fun _ => List.nil_prefix,
      List.forall_mem_cons.mpr ⟨by simpa using hword, hall⟩⟩
  | case4 c rest hno ih =>
    obtain ⟨p, ps, heq, hfront, hall⟩ := ih
    have hgrown : c :: p <+: c :: rest := (List.prefix_cons_inj c).mpr (hfront rfl)
    obtain ⟨hp, hps⟩ := List.forall_mem_cons.mp hall
    refine ⟨c :: p, ps, by rw [heq, grow], fun _ => hgrown, List.forall_mem_cons.mpr ⟨?_, hps⟩⟩
    -- The longer piece has no word at its front, since the text has none there.
    rw [List.infix_cons_iff, not_or]
    exact ⟨fun h => hno (List.isPrefixOf_iff_prefix.mpr (h.trans hgrown)), hp⟩

/-! ### Trimming -/

lemma trimFront_suffix (cs : List Char) : trimFront cs <:+ cs := List.dropWhile_suffix isBlank

lemma trimChars_infix (cs : List Char) : trimChars cs <:+: cs := by
  have hback : trimBack (trimFront cs) <+: trimFront cs := by
    rw [← List.reverse_suffix, trimBack, List.reverse_reverse]
    exact trimFront_suffix _
  exact hback.isInfix.trans (trimFront_suffix cs).isInfix

end Text

namespace Commands

open Text

/-! ### A branch comes out -/

/-- What stands in front of every branch. -/
def breakMark : List Char := '(' :: ['b', 'r', 'e', 'a', 'k', ')']

lemma toList_break : "(break)".toList = breakMark := by simp [breakMark]

/-- The text of a branch: its commands with backslashes between them. -/
def branchText (commands : List String) : List Char :=
  ['\\'].intercalate (commands.map String.toList)

/-- The command has neither of the marks at which the text is cut. -/
structure Unmarked (command : String) : Prop where
  slash : '\\' ∉ command.toList
  mark : ¬ breakMark <:+: command.toList

/-- The text offers the commands as the branch for an answer: behind the name and a space stand the
question and the branches in front of this one, each with a `(break)` behind it, and where the
commands end, the text ends or another `(break)` stands. -/
def Offers (raw : String) (n : Nat) (commands : List String) : Prop :=
  ∃ (name : List Char) (front : List (List Char)) (back : List Char),
    trimFront raw.toList =
      name ++ ' ' :: (front.flatMap (· ++ breakMark) ++ (branchText commands ++ back)) ∧
    ' ' ∉ name ∧ front.length = n + 1 ∧ (∀ piece ∈ front, ¬ breakMark <:+: piece) ∧
    (back = [] ∨ breakMark <+: back)

/-- The commands that come out as the branch for an answer. -/
def branch? (raw : String) (n : Nat) : Option (List String) :=
  (splitQuickQuestion raw).2[n]?.map (partsBetween '\\')

variable {raw : String} {n : Nat} {commands : List String}

/-- No command that comes out has a mark in it. -/
lemma unmarked_of_branch? (h : branch? raw n = some commands) : ∀ c ∈ commands, Unmarked c := by
  obtain ⟨branch, hbranch, rfl⟩ := Option.map_eq_some_iff.mp h
  have hfree : ¬ breakMark <:+: branch.toList := by
    have hmem := List.mem_of_getElem? hbranch
    unfold splitQuickQuestion piecesBetween at hmem
    dsimp only at hmem
    split at hmem
    · rename_i hpieces
      obtain ⟨p, ps, heq, -, hall⟩ := cutWords_free (by decide : breakMark ≠ []) 0 _
      rw [toList_break, heq, List.map_cons] at hpieces
      obtain ⟨-, rfl⟩ := List.cons.inj hpieces
      obtain ⟨q, hq, rfl⟩ := List.mem_map.mp hmem
      rw [String.toList_ofList]
      exact hall q (List.mem_cons_of_mem p hq)
    · exact absurd hmem List.not_mem_nil
  intro c hc
  obtain ⟨hc, -⟩ := List.mem_filter.mp hc
  rw [pieces, List.map_map, List.mem_map] at hc
  obtain ⟨q, hq, rfl⟩ := hc
  obtain ⟨p, ps, heq, -, hall⟩ := cutChars_pieces '\\' branch.toList
  rw [heq] at hq
  obtain ⟨hslash, hin⟩ := hall q hq
  have htrim : (trim (String.ofList q)).toList <:+: q := by
    rw [trim, String.toList_ofList, String.toList_ofList]
    exact trimChars_infix q
  exact ⟨fun h => hslash (htrim.subset h), fun h => hfree (h.trans (htrim.trans hin))⟩

/-! ### A branch goes in -/

lemma infix_of_infix_append_cons {x : Char} {word a b : List Char} (hx : x ∉ word)
    (h : word <:+: a ++ x :: b) : word <:+: a ∨ word <:+: b := by
  have hend : ∀ {beyond : List Char}, beyond ⊆ word → beyond <+: x :: b → beyond = [] := by
    intro beyond hsub hbeyond
    rcases beyond with _ | ⟨y, beyond⟩
    · rfl
    · obtain ⟨rfl, -⟩ := List.cons_prefix_cons.mp hbeyond
      exact absurd (hsub List.mem_cons_self) hx
  rcases List.infix_append_iff.mp h with ha | hb | ⟨front, beyond, rfl, hfront, hbeyond⟩
  · exact .inl ha
  · rcases List.infix_cons_iff.mp hb with hb | hb
    · rw [hend (List.Subset.refl word) hb]
      exact .inl List.nil_infix
    · exact .inr hb
  · rw [hend (List.subset_append_right front beyond) hbeyond, List.append_nil]
    exact .inl hfront.isInfix

lemma branchText_unmarked (h : ∀ c ∈ commands, Unmarked c) :
    ¬ breakMark <:+: branchText commands := by
  induction commands with
  | nil => decide
  | cons c commands ih =>
    obtain ⟨hc, hcommands⟩ := List.forall_mem_cons.mp h
    cases commands with
    | nil => simpa [branchText] using hc.mark
    | cons d commands =>
      have hshape : branchText (c :: d :: commands) =
          c.toList ++ '\\' :: branchText (d :: commands) := by
        simp [branchText]
      rw [hshape]
      intro hin
      exact (infix_of_infix_append_cons (by decide) hin).elim hc.mark (ih hcommands)

lemma partsBetween_branchText (htrimmed : ∀ c ∈ commands, trim c = c ∧ c ≠ "")
    (h : ∀ c ∈ commands, Unmarked c) :
    partsBetween '\\' (String.ofList (branchText commands)) = commands := by
  rcases List.eq_nil_or_concat commands with rfl | ⟨front, last, hne⟩
  · decide
  have hcut : pieces '\\' (String.ofList (branchText commands)) = commands := by
    have hslash : ∀ cs ∈ commands.map String.toList, '\\' ∉ cs := by
      intro cs hcs
      obtain ⟨c, hc, rfl⟩ := List.mem_map.mp hcs
      exact (h c hc).slash
    rw [pieces, String.toList_ofList, cutChars_eq_splitOn, branchText,
      List.splitOn_intercalate _ hslash (by simp [hne]), List.map_map]
    simp
  have htrim : commands.map trim = commands :=
    List.map_congr_left (fun c hc => (htrimmed c hc).1) |>.trans (List.map_id commands)
  rw [partsBetween, hcut, htrim, List.filter_eq_self]
  exact fun c hc => decide_eq_true (htrimmed c hc).2

/-- The question and the branches come apart at the marks. -/
lemma cutWords_offered {front : List (List Char)} {back : List Char}
    (hfront : ∀ piece ∈ front, ¬ breakMark <:+: piece) (hback : back = [] ∨ breakMark <+: back)
    (h : ∀ c ∈ commands, Unmarked c) :
    cutWords breakMark 0 (front.flatMap (· ++ breakMark) ++ (branchText commands ++ back)) =
      front ++ branchText commands :: (cutWords breakMark 0 back).tail := by
  have hothers : cutWords breakMark 0
      (front.flatMap (· ++ breakMark) ++ (branchText commands ++ back)) =
      front ++ cutWords breakMark 0 (branchText commands ++ back) :=
    cutWords_pieces (by decide) hfront _
  have hthis : cutWords breakMark 0 (branchText commands ++ back) =
      branchText commands :: (cutWords breakMark 0 back).tail :=
    cutWords_piece (by decide) (branchText_unmarked h) hback
  rw [hothers, hthis]

/-- **A branch comes out as it went in exactly if it has no marks.** Quotes do not matter. -/
theorem branch?_eq_some_iff (hoffers : Offers raw n commands)
    (htrimmed : ∀ c ∈ commands, trim c = c ∧ c ≠ "") :
    branch? raw n = some commands ↔ ∀ c ∈ commands, Unmarked c := by
  refine ⟨unmarked_of_branch?, fun h => ?_⟩
  obtain ⟨name, front, back, hraw, hname, hlength, hfront, hback⟩ := hoffers
  obtain ⟨question, front, rfl⟩ := List.exists_cons_of_length_eq_add_one hlength
  have hbody : halves? ' ' (String.ofList (trimFront raw.toList)) = some (String.ofList name,
      String.ofList ((question :: front).flatMap (· ++ breakMark) ++
        (branchText commands ++ back))) := by
    have hplain : ∀ c ∈ name, (c ≠ ' ' : Bool) = true := fun c hc =>
      decide_eq_true fun heq => hname (heq ▸ hc)
    rw [halves?, String.toList_ofList, hraw, List.dropWhile_append_of_pos hplain,
      List.takeWhile_append_of_pos hplain]
    simp
  have hpieces : piecesBetween "(break)" (String.ofList
      ((question :: front).flatMap (· ++ breakMark) ++ (branchText commands ++ back))) =
      String.ofList question :: (front.map String.ofList ++ String.ofList (branchText commands) ::
        (cutWords breakMark 0 back).tail.map String.ofList) := by
    have hcut := congrArg (List.map String.ofList) (cutWords_offered hfront hback h)
    rw [piecesBetween, toList_break, String.toList_ofList, hcut]
    simp
  have hbranch : (splitQuickQuestion raw).2[n]? = some (String.ofList (branchText commands)) := by
    have hn : n = (front.map String.ofList).length := by simpa using hlength.symm
    rw [splitQuickQuestion, hbody]
    dsimp only
    rw [hpieces]
    dsimp only
    rw [hn, List.getElem?_append_right (Nat.le_refl _), Nat.sub_self, List.getElem?_cons_zero]
  rw [branch?, hbranch, Option.map_some, partsBetween_branchText htrimmed h]

end Commands

end Cutscene
