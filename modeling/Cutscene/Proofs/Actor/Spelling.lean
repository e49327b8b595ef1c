import Cutscene.Actor.Reference
import Mathlib.Tactic.Lemma

/-!
# One Spelling for Each Reference

However a token refers to an actor, the reference is written in one way, and what is written is read
as the same reference. A token takes one of its question marks off for the mark; whatever is left
and means no player is the name itself, with the letter case and the question marks that it has.
-/

namespace Cutscene

namespace ActorId

lemma parse_text_parse (name : String) : parse (parse name).text = parse name := by
  rcases parse_cases name with h | ⟨n, hn, h⟩ | h
  · rw [h]
    decide
  · rw [h, parse_player hn]
  · rw [h, text, h]

/-- No question mark comes to the end of a token that has none there. -/
lemma text_parse_has_no_mark {name : String} (hname : name.toList.getLast? ≠ some '?') :
    (parse name).text.toList.getLast? ≠ some '?' := by
  rcases parse_cases name with h | ⟨n, -, h⟩ | h
  · rw [h]
    decide
  · rw [h]
    exact player_has_no_mark n
  · rwa [h, text]

end ActorId

namespace ActorRef

lemma splitMark_append_mark (name : String) : splitMark (name ++ "?") = (name, true) := by
  have hmarked : (name ++ "?").toList = name.toList ++ ['?'] := String.toList_append
  rw [splitMark, hmarked, List.getLast?_concat]
  simp

/-- A reference that was read is written as a token that is read as the same reference. -/
theorem reference_reads_back (token : String) : parse (parse token).text = parse token := by
  by_cases hmark : token.toList.getLast? = some '?'
  · -- The mark is taken off and put back on; the name between is read for itself.
    have htext : (parse token).text = (ActorId.parse (splitMark token).1).text ++ "?" := by
      rw [parse_eq, text, splitMark_of_mark hmark, if_pos rfl]
    rw [htext, parse_eq (_ ++ "?"), splitMark_append_mark, ActorId.parse_text_parse, parse_eq,
      splitMark_of_mark hmark]
  · have hparse : parse token = ⟨ActorId.parse token, false⟩ := by
      rw [parse_eq, splitMark_of_no_mark hmark]
    have htext : (parse token).text = (ActorId.parse token).text := by
      rw [hparse, text, if_neg Bool.false_ne_true, String.append_empty]
    rw [htext, parse_eq, splitMark_of_no_mark (ActorId.text_parse_has_no_mark hmark),
      ActorId.parse_text_parse, hparse]

example : (parse "FARMER+007?").text = "farmer7?" ∧ (parse "Dog??").text = "Dog??" := by
  decide +kernel
example : (parse "Farmer4294967296").text = "Farmer4294967296" := by decide +kernel

end ActorRef

end Cutscene
