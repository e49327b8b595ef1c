import Cutscene.Text.Cut
import Cutscene.Text.Letter
import Cutscene.Text.Numeral

/-!
How scripts refer to actors. `farmer` is the local player, `farmerN` the player of that number,
and anything else a name. A question mark at the end makes the reference optional: the command
that uses it passes over a missing actor in silence.
-/

namespace Cutscene

/-- Whom a script means. -/
inductive ActorId where
  | localPlayer
  | player (number : Nat)
  | named (name : String)
  deriving DecidableEq, Repr

/-- A reference as a script writes it. -/
structure ActorRef where
  id : ActorId
  optional : Bool
  deriving DecidableEq, Repr

/-- The token of the local player; with a number behind it, of any player. -/
def playerWord : String := "farmer"

namespace ActorId

/-- Whom a token without its mark means. -/
def parse (name : String) : ActorId :=
  match Text.after? playerWord.toList (Text.lower name).toList with
  | some [] => .localPlayer
  | some number =>
    match Numeral.nat32? (String.ofList number) with
    | some n => .player n
    | none => .named name
  | none => .named name

/-- The token that means an identity. -/
def text : ActorId → String
  | localPlayer => playerWord
  | player n => playerWord ++ Numeral.ofNat n
  | named name => name

/-- A token means the local player, a player of thirty-two bits or somebody of its name. -/
theorem parse_cases (name : String) : parse name = .localPlayer ∨
    (∃ n, n < 0x100000000 ∧ parse name = .player n) ∨ parse name = .named name := by
  unfold parse
  split
  · exact .inl rfl
  · split
    · rename_i n hn
      exact .inr (.inl ⟨n, Numeral.lt_of_below? hn, rfl⟩)
    · exact .inr (.inr rfl)
  · exact .inr (.inr rfl)

/-- The token of a player is read back. -/
theorem parse_player {n : Nat} (h : n < 0x100000000) : parse (player n).text = .player n := by
  have hlower : (Numeral.digits n).map Char.toLower = Numeral.digits n := by
    have hsame : ∀ c ∈ Numeral.digits n, c.toLower = c := fun c hc =>
      Numeral.of_mem_digits (P := fun c => c.toLower = c) (by decide) hc
    rw [List.map_congr_left hsame, List.map_id']
  have hafter : Text.after? playerWord.toList (Text.lower (player n).text).toList =
      some (Numeral.digits n) := by
    rw [Text.after?_eq_some, text, Text.lower, Numeral.ofNat, String.toList_ofList,
      String.toList_append, String.toList_ofList, List.map_append, hlower]
    rfl
  obtain ⟨c, rest, hdigits⟩ := List.exists_cons_of_ne_nil (Numeral.digits_ne_nil n)
  have hnumber : Numeral.nat32? (String.ofList (c :: rest)) = some n :=
    hdigits ▸ Numeral.below?_ofNat h
  simp only [parse, hafter, hdigits, hnumber]

/-- It has no question mark at its end. -/
theorem player_has_no_mark (n : Nat) : (player n).text.toList.getLast? ≠ some '?' := by
  intro hmark
  have hmem := List.mem_of_getLast? hmark
  rw [text, Numeral.ofNat, String.toList_append, String.toList_ofList, List.mem_append] at hmem
  rcases hmem with hword | hdigit
  · exact absurd hword (by decide)
  · exact absurd (Numeral.isDigit_of_mem_digits hdigit) (by decide)

end ActorId

namespace ActorRef

/-- The token without a question mark at its end, and whether there was one. -/
def splitMark (token : String) : String × Bool :=
  match token.toList.getLast? with
  | some '?' => (String.ofList token.toList.dropLast, true)
  | _ => (token, false)

/-- Reads a token. -/
def parse (token : String) : ActorRef :=
  let (name, optional) := splitMark token
  ⟨ActorId.parse name, optional⟩

theorem parse_eq (token : String) :
    parse token = ⟨ActorId.parse (splitMark token).1, (splitMark token).2⟩ := by
  rw [parse]

theorem splitMark_of_no_mark {token : String} (h : token.toList.getLast? ≠ some '?') :
    splitMark token = (token, false) := by
  unfold splitMark
  split
  · exact absurd ‹_› h
  · rfl

theorem splitMark_of_mark {token : String} (h : token.toList.getLast? = some '?') :
    (splitMark token).2 = true := by
  simp only [splitMark, h]

/-- Nothing but the question mark is lost. -/
theorem toList_eq_splitMark (token : String) : token.toList =
    (splitMark token).1.toList ++ if (splitMark token).2 then ['?'] else [] := by
  unfold splitMark
  split
  · rename_i hmark
    have hne : token.toList ≠ [] := fun hnil => by simp [hnil] at hmark
    rw [List.getLast?_eq_some_getLast hne, Option.some.injEq] at hmark
    rw [String.toList_ofList, if_pos rfl, ← hmark, List.dropLast_concat_getLast hne]
  · simp

/-- The token of a player is read back whole. -/
theorem parse_player {n : Nat} (h : n < 0x100000000) :
    parse (ActorId.player n).text = ⟨.player n, false⟩ := by
  rw [parse_eq, splitMark_of_no_mark (ActorId.player_has_no_mark n), ActorId.parse_player h]

/-- Writes a reference as a token. -/
def text (r : ActorRef) : String := r.id.text ++ (if r.optional then "?" else "")

example : parse "Farmer3" = ⟨.player 3, false⟩ ∧ parse "Dog?" = ⟨.named "Dog", true⟩ := by
  decide +kernel
example : parse "farmerJoe" = ⟨.named "farmerJoe", false⟩ := by decide +kernel

end ActorRef

end Cutscene
