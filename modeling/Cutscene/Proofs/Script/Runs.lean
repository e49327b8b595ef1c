import Cutscene.Text.Cut
import Cutscene.Text.Word
import Mathlib.Data.List.SplitBy
import Mathlib.Data.List.TakeWhile

/-!
# Runs of Word Characters

A text is put together from words and from characters that are no word characters
(`wordInduction`), and what is made of a text run by run may be made of its parts, wherever no word
is cut (`flatMap_runs_append`).
-/

namespace Cutscene.Text

/-- The runs of a text are put together to the text. -/
lemma flatten_runs (cs : List Char) : (runs cs).flatten = cs := List.flatten_splitBy _ cs

/-- A run of one kind in front of a text of the other kind is a run of its own. -/
lemma runs_append_run {r cs : List Char} {b : Bool} (hr : r ≠ []) (hb : ∀ c ∈ r, isWord c = b)
    (hcs : ∀ d ∈ cs.head?, isWord d ≠ b) : runs (r ++ cs) = r :: runs cs := by
  have hchain : r.IsChain fun c d => isWord c == isWord d := by
    refine List.Pairwise.isChain (List.pairwise_of_forall_mem_list fun c hc d hd => ?_)
    rw [hb c hc, hb d hd, beq_self_eq_true]
  rw [runs, List.splitBy_append, List.splitBy_of_isChain hr hchain]
  · rfl
  · intro c hc d hd
    rw [hb c (List.mem_of_mem_getLast? hc), beq_eq_false_iff_ne]
    exact (hcs d hd).symm

/-- The run of a kind at the front of a text. -/
lemma exists_run (b : Bool) (cs : List Char) : ∃ r rest, cs = r ++ rest ∧
    (∀ c ∈ r, isWord c = b) ∧ ∀ d ∈ rest.head?, isWord d ≠ b := by
  refine ⟨cs.takeWhile fun c => isWord c == b, cs.dropWhile fun c => isWord c == b,
    List.takeWhile_append_dropWhile.symm, fun c hc => by simpa using List.mem_takeWhile_imp hc,
    fun d hd => ?_⟩
  have hnot := List.head?_dropWhile_not (fun c => isWord c == b) cs
  rw [hd] at hnot
  simpa using hnot

/-- A character that is no word character makes a run or joins the run behind it. -/
lemma runs_cons {c : Char} (hc : ¬ isWord c) (cs : List Char) :
    runs (c :: cs) = [c] :: runs cs ∨
      ∃ r rs, runs cs = r :: rs ∧ (∀ d ∈ r, ¬ isWord d) ∧ runs (c :: cs) = (c :: r) :: rs := by
  obtain ⟨r, rest, rfl, hr, hrest⟩ := exists_run false cs
  have hgrown : runs (c :: r ++ rest) = (c :: r) :: runs rest :=
    runs_append_run (List.cons_ne_nil c r) (by simpa [hc] using hr) hrest
  cases r with
  | nil => exact .inl hgrown
  | cons d r =>
    have hcs := runs_append_run (List.cons_ne_nil d r) hr hrest
    exact .inr ⟨d :: r, runs rest, hcs, by simpa using hr, hgrown⟩

/-- Every text is put together from characters that are no word characters and words, with no two
words side by side. -/
theorem wordInduction {P : List Char → Prop} (nil : P [])
    (other : ∀ c cs, ¬ isWord c → P cs → P (c :: cs))
    (word : ∀ w cs, w ≠ [] → (∀ c ∈ w, isWord c) → (∀ d ∈ cs.head?, ¬ isWord d) → P cs →
      P (w ++ cs)) :
    ∀ cs, P cs := by
  suffices h : ∀ n, ∀ cs : List Char, cs.length < n → P cs from
    fun cs => h (cs.length + 1) cs (Nat.lt_succ_self _)
  intro n
  induction n with
  | zero => exact fun cs h => absurd h (Nat.not_lt_zero _)
  | succ n ih =>
    intro cs hlen
    obtain ⟨w, rest, rfl, hw, hrest⟩ := exists_run true cs
    rw [List.length_append] at hlen
    cases w with
    | cons c w =>
      rw [List.length_cons] at hlen
      exact word _ rest (List.cons_ne_nil c w) hw (by simpa using hrest) (ih rest (by omega))
    | nil =>
      cases rest with
      | nil => exact nil
      | cons c rest =>
        rw [List.length_cons] at hlen
        exact other c rest (by simpa using hrest) (ih rest (by omega))

section FlatMap

variable {β : Type} {g : List Char → List β}

/-- What is made of a run of other characters is put together from what is made of each. -/
def Additive (g : List Char → List β) : Prop :=
  ∀ c r, (∀ d ∈ c :: r, ¬ isWord d) → g (c :: r) = g [c] ++ g r

lemma flatMap_runs_cons (hg : Additive g) {c : Char} (hc : ¬ isWord c) (cs : List Char) :
    (runs (c :: cs)).flatMap g = g [c] ++ (runs cs).flatMap g := by
  rcases runs_cons hc cs with hruns | ⟨r, rs, hcs, hr, hruns⟩
  · rw [hruns, List.flatMap_cons]
  · rw [hruns, hcs, List.flatMap_cons, List.flatMap_cons, hg c r (by simpa [hc] using hr),
      List.append_assoc]

lemma flatMap_runs_word {w cs : List Char} (hw : w ≠ []) (hword : ∀ c ∈ w, isWord c)
    (hcs : ∀ d ∈ cs.head?, ¬ isWord d) :
    (runs (w ++ cs)).flatMap g = g w ++ (runs cs).flatMap g := by
  rw [runs_append_run (b := true) hw hword (by simpa using hcs), List.flatMap_cons]

/-- A text may be taken apart in front of anything but a word character. -/
lemma flatMap_runs_append (hg : Additive g) (as : List Char) {bs : List Char}
    (hbs : ∀ d ∈ bs.head?, ¬ isWord d) :
    (runs (as ++ bs)).flatMap g = (runs as).flatMap g ++ (runs bs).flatMap g := by
  induction as using wordInduction with
  | nil => rfl
  | other c cs hc ih =>
    rw [List.cons_append, flatMap_runs_cons hg hc, flatMap_runs_cons hg hc, ih, List.append_assoc]
  | word w cs hw hword hcs ih =>
    have hhead : ∀ d ∈ (cs ++ bs).head?, ¬ isWord d := by
      cases cs with
      | nil => exact hbs
      | cons c cs => exact hcs
    rw [List.append_assoc, flatMap_runs_word hw hword hhead, flatMap_runs_word hw hword hcs, ih,
      List.append_assoc]

/-- Texts with spaces between them are taken apart at the spaces. -/
lemma flatMap_runs_spaced (hg : Additive g) (ts : List String) :
    (runs (spaced ts).toList).flatMap g =
      (g [' ']).intercalate (ts.map fun t => (runs t.toList).flatMap g) := by
  rw [spaced, String.toList_intercalate]
  induction ts with
  | nil => rfl
  | cons t ts ih =>
    cases ts with
    | nil => simp
    | cons u us =>
      have hspace : " ".toList = [' '] := rfl
      simp only [List.map_cons, List.intercalate_cons_cons, List.append_assoc] at ih ⊢
      rw [← ih, hspace, List.singleton_append, flatMap_runs_append hg _ (by simp [isWord]),
        flatMap_runs_cons hg (by simp [isWord])]

end FlatMap

end Cutscene.Text
