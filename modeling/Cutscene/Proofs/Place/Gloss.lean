import Cutscene.Proofs.Place.Table

/-!
# A Comment in the List

Put a comment into a list, and let two events go through the two lists command by command. As long
as the comment is ahead, both stand at the same index; once it is behind, the same commands are to
come in both (`Abreast`). Every way to move on keeps them abreast or leads them to the comment, save
a leap over it (`Abreast.apply`).
-/

namespace Cutscene

/-- Two places, the second in a list with a comment, from which the same commands are to come. -/
inductive Abreast (comment : String) (after : List String) : Place → Place → Prop
  | ahead (before : List String) (version pointer : Nat) (inside : pointer < before.length) :
    Abreast comment after ⟨⟨before ++ after, version⟩, pointer, false, false⟩
      ⟨⟨before ++ comment :: after, version⟩, pointer, false, false⟩
  | behind (before before' rest : List String) (version index : Nat) (forked switched : Bool) :
    Abreast comment after ⟨⟨before ++ rest, version⟩, before.length + index, forked, switched⟩
      ⟨⟨before' ++ rest, version⟩, before'.length + index, forked, switched⟩

/-- Two places, the second at the comment and the first at what comes after it. -/
inductive AtComment (comment : String) (after : List String) : Place → Place → Prop
  | mk (before : List String) (version : Nat) :
    AtComment comment after ⟨⟨before ++ after, version⟩, before.length, false, false⟩
      ⟨⟨before ++ comment :: after, version⟩, before.length, false, false⟩

/-- The place is in the script of the event, and all of `rest` but nothing else comes after it. -/
structure Place.Before (q : Place) (rest : List String) : Prop where
  own : q.forked = false ∧ q.switched = false
  some : rest ≠ []
  rest : q.working.commands.drop (q.pointer + 1) = rest

/-! ### Edits of a part of a list -/

namespace Working

lemma edited_insertAfter_left {before : List String} {i : Nat} (h : i < before.length)
    (new rest : List String) : edited (before ++ rest) (.insertAfter i new) =
      edited before (.insertAfter i new) ++ rest := by
  simp only [edited, List.take_append_of_le_length h, List.drop_append_of_le_length h,
    List.append_assoc]

lemma edited_insertAfter_right (before new rest : List String) (i : Nat) :
    edited (before ++ rest) (.insertAfter (before.length + i) new) =
      before ++ edited rest (.insertAfter i new) := by
  simp only [edited, Nat.add_assoc, List.take_length_add_append, List.drop_length_add_append,
    List.append_assoc]

lemma edited_replaceAt_left {before : List String} {i : Nat} (h : i < before.length)
    (new : String) (rest : List String) : edited (before ++ rest) (.replaceAt i new) =
      before.set i new ++ rest := by
  have hlong : i < (before ++ rest).length := by
    rw [List.length_append]
    exact Nat.lt_add_right _ h
  simp only [edited, if_pos hlong, List.set_append_left _ _ h]

lemma edited_replaceAt_right (before rest : List String) (i : Nat) (new : String) :
    edited (before ++ rest) (.replaceAt (before.length + i) new) =
      before ++ edited rest (.replaceAt i new) := by
  have hlong : before.length + i < (before ++ rest).length ↔ i < rest.length := by
    rw [List.length_append, Nat.add_lt_add_iff_left]
  simp only [edited, hlong]
  split
  · rw [List.set_append_right _ _ (Nat.le_add_right _ _), Nat.add_sub_cancel_left]
  · exact List.append_assoc _ _ _

end Working

/-! ### Motions -/

variable {comment : String} {after : List String} {q q' : Place}

/-- Up to the comment. -/
lemma abreast_or_atComment (before : List String) (version : Nat) {pointer : Nat}
    (h : pointer ≤ before.length) :
    Abreast comment after ⟨⟨before ++ after, version⟩, pointer, false, false⟩
        ⟨⟨before ++ comment :: after, version⟩, pointer, false, false⟩ ∨
      AtComment comment after ⟨⟨before ++ after, version⟩, pointer, false, false⟩
        ⟨⟨before ++ comment :: after, version⟩, pointer, false, false⟩ := by
  rcases Nat.lt_or_eq_of_le h with hlt | rfl
  · exact .inl (.ahead before version pointer hlt)
  · exact .inr (.mk before version)

/-- The comment is behind. -/
lemma abreast_past (before : List String) (version index : Nat) :
    Abreast comment after ⟨⟨before ++ after, version⟩, before.length + index, false, false⟩
      ⟨⟨before ++ comment :: after, version⟩, before.length + 1 + index, false, false⟩ := by
  have h : Abreast comment after _ _ :=
    .behind before (before ++ [comment]) after version index false false
  simpa using h

lemma AtComment.pass (h : AtComment comment after q q') :
    Abreast comment after q ((Motion.pass 1).apply q') := by
  obtain ⟨before, version⟩ := h
  have hnext : (Motion.pass 1).apply
      ⟨⟨before ++ comment :: after, version⟩, before.length, false, false⟩ =
        ⟨⟨before ++ comment :: after, version⟩, before.length + 1, false, false⟩ := by
    simp [Motion.apply, Working.size]
  rw [hnext]
  exact abreast_past before version 0

lemma AtComment.get? (h : AtComment comment after q q') :
    q'.working.get? q'.pointer = some comment := by
  obtain ⟨before, version⟩ := h
  simp [Working.get?]

lemma Abreast.get? (h : Abreast comment after q q') :
    q'.working.get? q'.pointer = q.working.get? q.pointer := by
  cases h with
  | ahead before version pointer inside =>
    simp only [Working.get?, List.getElem?_append_left inside]
  | behind before before' rest version index forked switched =>
    simp only [Working.get?, List.getElem?_append_right (Nat.le_add_right _ _),
      Nat.add_sub_cancel_left]

lemma Abreast.room (h : Abreast comment after q q') (hq : q.pointer ≤ q.working.size) :
    q'.pointer ≤ q'.working.size := by
  cases h with
  | ahead before version pointer inside =>
    simp only [Working.size, List.length_append]
    exact Nat.le_add_right_of_le inside.le
  | behind before before' rest version index forked switched =>
    simp only [Working.size, List.length_append, Nat.add_le_add_iff_left] at hq ⊢
    exact hq

lemma Abreast.redirect (version : Nat) (new : List String) (forked switched : Bool) :
    Abreast comment after ⟨⟨new, version⟩, 0, forked, switched⟩
      ⟨⟨new, version⟩, 0, forked, switched⟩ :=
  .behind [] [] new version 0 forked switched

lemma Abreast.pass_behind (before before' rest : List String) (version index : Nat)
    (forked switched : Bool) (n : Nat) : Abreast comment after
      ((Motion.pass n).apply
        ⟨⟨before ++ rest, version⟩, before.length + index, forked, switched⟩)
      ((Motion.pass n).apply
        ⟨⟨before' ++ rest, version⟩, before'.length + index, forked, switched⟩) := by
  have hnext : ∀ before : List String, (Motion.pass n).apply
      ⟨⟨before ++ rest, version⟩, before.length + index, forked, switched⟩ =
        ⟨⟨before ++ rest, version⟩, before.length + min (index + n) rest.length, forked,
          switched⟩ := by
    intro before
    simp only [Motion.apply, Working.size, List.length_append, Nat.add_assoc,
      Nat.add_min_add_left]
  rw [hnext, hnext]
  exact .behind before before' rest version _ forked switched

/-- **Two events stay abreast up to the comment.** Only a leap over it sets them apart. -/
theorem Abreast.apply (h : Abreast comment after q q') (m : Motion)
    (hleap : ∀ n, m = .pass n → n = 1 ∨ n = 2 ∧ ¬ q.Before after) :
    Abreast comment after (m.apply q) (m.apply q') ∨
      m.GoesOn ∧ AtComment comment after (m.apply q) (m.apply q') := by
  cases h with
  | ahead before version pointer inside =>
    cases m with
    | hold => exact .inl (.ahead before version pointer inside)
    | pass n =>
      have hnext : ∀ rest, pointer + n ≤ before.length →
          (Motion.pass n).apply ⟨⟨before ++ rest, version⟩, pointer, false, false⟩ =
            ⟨⟨before ++ rest, version⟩, pointer + n, false, false⟩ := by
        intro rest hn
        have hmin : pointer + n ≤ (before ++ rest).length := by
          rw [List.length_append]
          exact Nat.le_add_right_of_le hn
        simp only [Motion.apply, Working.size, Nat.min_eq_left hmin]
      by_cases hn : pointer + n ≤ before.length
      · rw [hnext after hn, hnext (comment :: after) hn]
        exact (abreast_or_atComment before version hn).imp_right (And.intro trivial)
      · -- A leap at the end of the script stops behind the comment.
        obtain ⟨rfl, hbefore⟩ := (hleap n rfl).resolve_left (by omega)
        have hlast : pointer + 1 = before.length := by omega
        have hafter : after = [] := by
          by_contra hne
          exact hbefore ⟨⟨rfl, rfl⟩, hne, by rw [hlast, List.drop_left]⟩
        subst hafter
        have hpast : Abreast comment [] _ _ := abreast_past before version 0
        refine .inl ?_
        simpa [Motion.apply, Working.size, ← hlast] using hpast
    | splice new =>
      have hroom : pointer + 1 ≤ (Working.edited before (.insertAfter pointer new)).length := by
        rw [Working.length_edited_insertAfter]
        exact Nat.le_add_right_of_le inside
      simp only [Motion.apply, Working.apply, Working.edited_insertAfter_left inside]
      exact (abreast_or_atComment _ _ hroom).imp_right (And.intro trivial)
    | rewrite new =>
      simp only [Motion.apply, Working.apply, Working.edited_replaceAt_left inside]
      exact .inl (.ahead (before.set pointer new) _ pointer (by rwa [List.length_set]))
    | redirect new swap => cases swap <;> exact .inl (.redirect _ new _ _)
  | behind before before' rest version index forked switched =>
    refine .inl ?_
    cases m with
    | hold => exact .behind before before' rest version index forked switched
    | pass n => exact .pass_behind before before' rest version index forked switched n
    | splice new =>
      simp only [Motion.apply, Working.apply, Working.edited_insertAfter_right, Nat.add_assoc]
      exact .behind before before' _ _ (index + 1) forked switched
    | rewrite new =>
      simp only [Motion.apply, Working.apply, Working.edited_replaceAt_right]
      exact .behind before before' _ _ index forked switched
    | redirect new swap => cases swap <;> exact .redirect _ new _ _

end Cutscene
