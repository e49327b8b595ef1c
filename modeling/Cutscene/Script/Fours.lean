/-!
Groups of four. A layout and a move list their actors in groups of four tokens; what does not fill
a group is left over.
-/

namespace Cutscene.Script

variable {β : Type}

/-- The full groups of four. -/
def fours : List β → List (List β)
  | a :: b :: c :: d :: rest => [a, b, c, d] :: fours rest
  | _ => []

/-- The up to three elements after the last full group. -/
def leftover : List β → List β
  | _ :: _ :: _ :: _ :: rest => leftover rest
  | short => short

/-- Nothing is lost and nothing changes places. -/
theorem flatten_fours_append_leftover (l : List β) : (fours l).flatten ++ leftover l = l := by
  fun_induction fours l with
  | case1 a b c d rest ih => simpa [leftover] using ih
  | case2 l h =>
    rw [leftover.eq_def]
    split
    · exact absurd rfl (h _ _ _ _ _)
    · rfl

theorem length_of_mem_fours {l g : List β} (h : g ∈ fours l) : g.length = 4 := by
  fun_induction fours l with
  | case1 a b c d rest ih =>
    rcases List.mem_cons.1 h with rfl | h
    · rfl
    · exact ih h
  | case2 => cases h

end Cutscene.Script
