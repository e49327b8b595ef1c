import Cutscene.Proofs.Dance.Parts
import Mathlib.Data.Int.Interval
import Mathlib.Order.Bounds.Basic

/-!
# Rows of Warps

The warps of one role at one height make a row. Its slots stand in their order, each with the tile
of its first warp (`mem_row`), and those that are filled are spread over the width of all of them
(`rows_are_spread_evenly`): from the first tile to the last, with gaps that differ by one at most.
-/

namespace Cutscene.Dance

open Script (tokens?)

variable {pairs : List DancePair}

/-! ### The slots of a row -/

/-- The tile of the first warp of a slot. -/
def firstTile? (warps : List SlotWarp) (n : Nat) : Option Int :=
  (warps.find? (·.slot = n)).map SlotWarp.x

lemma firstTile?_cons (w : SlotWarp) (ws : List SlotWarp) (n : Nat) :
    firstTile? (w :: ws) n = if w.slot = n then some w.x else firstTile? ws n := by
  rw [firstTile?, List.find?_cons]
  by_cases h : w.slot = n <;> simp [h, firstTile?]

lemma isSome_firstTile? {ws : List SlotWarp} {n : Nat} :
    (∃ x, firstTile? ws n = some x) ↔ ∃ w ∈ ws, w.slot = n := by
  rw [← Option.isSome_iff_exists, firstTile?, Option.isSome_map, List.find?_isSome]
  simp

/-- The slots stand in their order, each once. -/
def InOrder (slots : List (Nat × Int)) : Prop := slots.Pairwise fun p q => p.1 < q.1

lemma eq_or_mem_of_mem_insertFirst {n : Nat} {x : Int} {slots : List (Nat × Int)} {p : Nat × Int}
    (h : p ∈ insertFirst n x slots) : p = (n, x) ∨ p ∈ slots := by
  induction slots with
  | nil => exact .inl (List.mem_singleton.mp h)
  | cons m rest ih =>
    rw [insertFirst] at h
    split_ifs at h
    · exact List.mem_cons.mp h
    · exact .inr h
    · rcases List.mem_cons.mp h with rfl | h
      · exact .inr List.mem_cons_self
      · exact (ih h).imp_right (List.mem_cons_of_mem m)

lemma InOrder.insertFirst {n : Nat} {x : Int} {slots : List (Nat × Int)} (h : InOrder slots) :
    InOrder (insertFirst n x slots) := by
  induction slots with
  | nil => exact List.pairwise_singleton _ _
  | cons m rest ih =>
    obtain ⟨hm, hrest⟩ := List.pairwise_cons.mp h
    rw [Dance.insertFirst]
    split_ifs with hlt heq
    · refine List.pairwise_cons.mpr ⟨?_, h⟩
      simpa [hlt] using fun p hp => hlt.trans (hm p hp)
    · exact h
    · refine List.pairwise_cons.mpr ⟨fun p hp => ?_, ih hrest⟩
      rcases eq_or_mem_of_mem_insertFirst hp with rfl | hp
      · exact Nat.lt_of_le_of_ne (Nat.le_of_not_lt hlt) (Ne.symm heq)
      · exact hm p hp

/-- A slot gets a value if it has none. -/
lemma mem_insertFirst {n : Nat} {x : Int} {slots : List (Nat × Int)} (h : InOrder slots)
    {p : Nat × Int} : p ∈ insertFirst n x slots ↔
      p ∈ slots ∨ p = (n, x) ∧ ∀ q ∈ slots, q.1 ≠ n := by
  induction slots with
  | nil => simp [insertFirst]
  | cons m rest ih =>
    obtain ⟨hm, hrest⟩ := List.pairwise_cons.mp h
    rw [insertFirst]
    split_ifs with hlt heq
    · have hnone : ∀ q ∈ m :: rest, q.1 ≠ n :=
        List.forall_mem_cons.mpr ⟨hlt.ne', fun q hq => (hlt.trans (hm q hq)).ne'⟩
      rw [List.mem_cons, or_comm, and_iff_left hnone]
    · exact (or_iff_left fun hp => hp.2 m List.mem_cons_self heq.symm).symm
    · rw [List.mem_cons, ih hrest, List.mem_cons, List.forall_mem_cons, or_assoc,
        and_iff_right (Ne.symm heq)]

/-- After that the slot has a value, and no other slot has got one. -/
lemma no_slot_insertFirst {m n : Nat} {x : Int} {slots : List (Nat × Int)} (h : InOrder slots) :
    (∀ p ∈ insertFirst m x slots, p.1 ≠ n) ↔ m ≠ n ∧ ∀ p ∈ slots, p.1 ≠ n := by
  constructor
  · intro hno
    have hslots : ∀ p ∈ slots, p.1 ≠ n := fun p hp => hno p ((mem_insertFirst h).mpr (.inl hp))
    refine ⟨?_, hslots⟩
    rintro rfl
    exact hno (m, x) ((mem_insertFirst h).mpr (.inr ⟨rfl, hslots⟩)) rfl
  · rintro ⟨hm, hslots⟩ p hp
    rcases eq_or_mem_of_mem_insertFirst hp with rfl | hp
    exacts [hm, hslots p hp]

lemma InOrder.foldl_insertFirst {slots : List (Nat × Int)} (h : InOrder slots)
    (ws : List SlotWarp) :
    InOrder (ws.foldl (fun r w => Dance.insertFirst w.slot w.x r) slots) := by
  induction ws generalizing slots with
  | nil => exact h
  | cons w ws ih => exact ih h.insertFirst

lemma mem_foldl_insertFirst {slots : List (Nat × Int)} (h : InOrder slots) (ws : List SlotWarp)
    {n : Nat} {x : Int} :
    (n, x) ∈ ws.foldl (fun r w => insertFirst w.slot w.x r) slots ↔
      (n, x) ∈ slots ∨ firstTile? ws n = some x ∧ ∀ p ∈ slots, p.1 ≠ n := by
  induction ws generalizing slots with
  | nil => simp [firstTile?]
  | cons w ws ih =>
    rw [List.foldl_cons, ih h.insertFirst, firstTile?_cons, mem_insertFirst h,
      no_slot_insertFirst h, Prod.mk.injEq]
    by_cases hn : w.slot = n
    · simp [hn, eq_comm]
    · simp [hn, Ne.symm hn]

section Row

variable (warps : List SlotWarp) (role : Role) (y : Int)

/-- The warps of one role at one height. -/
def rowWarps : List SlotWarp := warps.filter fun w => w.role = role ∧ w.y = y

lemma inOrder_row : InOrder (row warps role y) :=
  InOrder.foldl_insertFirst List.Pairwise.nil _

/-- A row has its slots, each with the tile of its first warp. -/
lemma mem_row {n : Nat} {x : Int} :
    (n, x) ∈ row warps role y ↔ firstTile? (rowWarps warps role y) n = some x := by
  have hmem : (n, x) ∈ row warps role y ↔ _ := mem_foldl_insertFirst List.Pairwise.nil _
  rw [hmem]
  simp [rowWarps]

/-- The slots of a row that are filled, in their order. -/
def live (filled : Nat) : List Nat :=
  ((row warps role y).map Prod.fst).filter fun n => 1 ≤ n ∧ n ≤ filled

lemma pairwise_live (filled : Nat) : (live warps role y filled).Pairwise (· < ·) :=
  (List.pairwise_map.mpr (inOrder_row warps role y)).filter _

lemma mem_live {filled n : Nat} : n ∈ live warps role y filled ↔
    (1 ≤ n ∧ n ≤ filled) ∧ ∃ w ∈ rowWarps warps role y, w.slot = n := by
  rw [live, List.mem_filter, ← isSome_firstTile?, decide_eq_true_eq, and_comm]
  simp [← mem_row]

end Row

/-! ### Spreading -/

/-- Tiles are spread evenly from one to another: a single one is between them, and more of them go
from the one to the other in order, with gaps that differ by one at most. -/
structure Evenly (lo hi : Int) (xs : List Int) : Prop where
  within : ∀ x ∈ xs, lo ≤ x ∧ x ≤ hi
  ends : 2 ≤ xs.length → xs.head? = some lo ∧ xs.getLast? = some hi
  inOrder : xs.Pairwise (· ≤ ·)
  gaps : ∀ i j a b c d, xs[i]? = some a → xs[i + 1]? = some b → xs[j]? = some c →
    xs[j + 1]? = some d → (b - a) - (d - c) ≤ 1

/-- The tiles of so many dancers. -/
def spreadOut (lo hi : Int) (count : Nat) : List Int :=
  (List.range count).map (spread lo hi count)

section Spread

variable {lo hi : Int} (h : lo ≤ hi)
include h

lemma spread_one (rank : Nat) : lo ≤ spread lo hi 1 rank ∧ spread lo hi 1 rank ≤ hi := by
  have hsign : Int.sign 2 = 1 := rfl
  rw [spread, if_pos rfl, Int.tdiv_eq_ediv]
  split <;> omega

variable {gaps : Nat} (hgaps : 0 < gaps)
include hgaps

/-- The width is divided in the proportion of the rank. -/
lemma spread_eq (rank : Nat) :
    spread lo hi (gaps + 1) rank = lo + (hi - lo) * rank / gaps := by
  have hwidth : 0 ≤ (hi - lo) * rank := Int.mul_nonneg (by omega) (by omega)
  rw [spread, if_neg (by omega), Int.tdiv_eq_ediv_of_nonneg hwidth]
  simp

/-- A gap is the width divided by the number of gaps, or one more. -/
lemma spread_succ (rank : Nat) :
    let gap := spread lo hi (gaps + 1) (rank + 1) - spread lo hi (gaps + 1) rank
    gap = (hi - lo) / gaps ∨ gap = (hi - lo) / gaps + 1 := by
  have hdiv : (hi - lo) * (rank + 1 : Nat) / gaps = (hi - lo) * rank / gaps + (hi - lo) / gaps +
      if (gaps : Int) ≤ (hi - lo) * rank % gaps + (hi - lo) % gaps then 1 else 0 := by
    rw [Nat.cast_succ, Int.mul_add, Int.mul_one, Int.add_ediv_of_pos (by omega)]
  simp only [spread_eq h hgaps, hdiv]
  split <;> omega

lemma spread_le_spread {i j : Nat} (hij : i ≤ j) :
    spread lo hi (gaps + 1) i ≤ spread lo hi (gaps + 1) j := by
  have hgap : 0 ≤ (hi - lo) / gaps := Int.ediv_nonneg (by omega) (by omega)
  induction j, hij using Nat.le_induction with
  | base => exact Int.le_refl _
  | succ j hij ih =>
    have hsucc := spread_succ h hgaps j
    omega

/-- No two ranks share a tile if there are tiles enough. -/
lemma spread_lt_spread (hwide : (gaps : Int) ≤ hi - lo) {i j : Nat} (hij : i < j) :
    spread lo hi (gaps + 1) i < spread lo hi (gaps + 1) j := by
  have hgap : 1 ≤ (hi - lo) / gaps := (Int.le_ediv_iff_mul_le (by omega)).mpr (by omega)
  have hsucc := spread_succ h hgaps i
  have hrest : spread lo hi (gaps + 1) (i + 1) ≤ spread lo hi (gaps + 1) j :=
    spread_le_spread h hgaps hij
  omega

lemma spread_first : spread lo hi (gaps + 1) 0 = lo := by
  rw [spread_eq h hgaps]
  simp

lemma spread_last : spread lo hi (gaps + 1) gaps = hi := by
  rw [spread_eq h hgaps, Int.mul_ediv_cancel _ (by omega)]
  omega

end Spread

lemma getElem?_spreadOut {lo hi : Int} {count i : Nat} {x : Int}
    (h : (spreadOut lo hi count)[i]? = some x) : i < count ∧ x = spread lo hi count i := by
  rw [spreadOut, List.getElem?_map, Option.map_eq_some_iff] at h
  obtain ⟨rank, hrank, rfl⟩ := h
  obtain ⟨hi, rfl⟩ := List.getElem?_eq_some_iff.mp hrank
  rw [List.length_range] at hi
  exact ⟨hi, by rw [List.getElem_range]⟩

lemma pairwise_spreadOut {lo hi : Int} {count : Nat} {R : Int → Int → Prop}
    (h : ∀ i j, i < j → R (spread lo hi count i) (spread lo hi count j)) :
    (spreadOut lo hi count).Pairwise R :=
  List.pairwise_map.mpr (List.pairwise_lt_range.imp fun hij => h _ _ hij)

lemma evenly_spreadOut {lo hi : Int} (h : lo ≤ hi) (count : Nat) :
    Evenly lo hi (spreadOut lo hi count) := by
  obtain _ | _ | gaps := count
  case zero => constructor <;> simp [spreadOut]
  case succ.zero =>
    refine ⟨?_, by simp [spreadOut], by simp [spreadOut], ?_⟩
    · simpa [spreadOut] using spread_one h 0
    · intro i j a b c d _ hb
      have hlt := (getElem?_spreadOut hb).1
      omega
  case succ.succ =>
    have hgaps : 0 < gaps + 1 := gaps.succ_pos
    have hmono {i j : Nat} (hij : i ≤ j) := spread_le_spread h hgaps hij
    have hfirst := spread_first h hgaps
    have hlast := spread_last h hgaps
    refine ⟨?_, fun _ => ?_, ?_, ?_⟩
    · intro x hx
      obtain ⟨rank, hrank, rfl⟩ := List.mem_map.mp hx
      rw [List.mem_range] at hrank
      exact ⟨hfirst.ge.trans (hmono (Nat.zero_le rank)), (hmono (by omega)).trans hlast.le⟩
    · rw [spreadOut, List.head?_map, List.getLast?_map, List.head?_range, List.getLast?_range]
      simp [hfirst, hlast]
    · exact pairwise_spreadOut fun i j hij => hmono hij.le
    · intro i j a b c d ha hb hc hd
      obtain ⟨-, rfl⟩ := getElem?_spreadOut ha
      obtain ⟨-, rfl⟩ := getElem?_spreadOut hb
      obtain ⟨-, rfl⟩ := getElem?_spreadOut hc
      obtain ⟨-, rfl⟩ := getElem?_spreadOut hd
      have hfront := spread_succ h hgaps i
      have hback := spread_succ h hgaps j
      omega

example : spreadOut 3 10 4 = [3, 5, 7, 10] ∧ spreadOut 3 10 1 = [6] := by decide

/-! ### The tiles of a row -/

/-- The tiles of the first warps of all slots. -/
def firstTiles (warps : List SlotWarp) : Set Int := {x | ∃ n, firstTile? warps n = some x}

section Tiles

variable (warps : List SlotWarp) (role : Role) (y : Int) (filled : Nat)

/-- The tiles over which the filled slots of a row are spread. -/
def tiles : List Int :=
  let xs := (row warps role y).map Prod.snd
  match xs.min?, xs.max? with
  | some lo, some hi => spreadOut lo hi (live warps role y filled).length
  | _, _ => []

lemma mem_firstTiles {x : Int} : x ∈ firstTiles (rowWarps warps role y) ↔
    x ∈ (row warps role y).map Prod.snd := by
  constructor
  · rintro ⟨n, hn⟩
    exact List.mem_map.mpr ⟨(n, x), (mem_row warps role y).mpr hn, rfl⟩
  · intro hx
    obtain ⟨⟨n, x⟩, hn, rfl⟩ := List.mem_map.mp hx
    exact ⟨n, (mem_row warps role y).mp hn⟩

lemma isLeast_iff {lo : Int} : IsLeast (firstTiles (rowWarps warps role y)) lo ↔
    ((row warps role y).map Prod.snd).min? = some lo := by
  rw [List.min?_eq_some_iff]
  simp [IsLeast, lowerBounds, mem_firstTiles]

lemma isGreatest_iff {hi : Int} : IsGreatest (firstTiles (rowWarps warps role y)) hi ↔
    ((row warps role y).map Prod.snd).max? = some hi := by
  rw [List.max?_eq_some_iff]
  simp [IsGreatest, upperBounds, mem_firstTiles]

lemma tiles_eq {lo hi : Int} (hlo : IsLeast (firstTiles (rowWarps warps role y)) lo)
    (hhi : IsGreatest (firstTiles (rowWarps warps role y)) hi) :
    tiles warps role y filled = spreadOut lo hi (live warps role y filled).length := by
  rw [tiles, (isLeast_iff warps role y).mp hlo, (isGreatest_iff warps role y).mp hhi]

/-- A row that is not empty has a first tile and a last one. -/
lemma exists_ends (h : row warps role y ≠ []) :
    ∃ lo hi, IsLeast (firstTiles (rowWarps warps role y)) lo ∧
      IsGreatest (firstTiles (rowWarps warps role y)) hi := by
  have hxs : (row warps role y).map Prod.snd ≠ [] := by simpa using h
  obtain ⟨lo, hlo⟩ := Option.ne_none_iff_exists'.mp (mt List.min?_eq_none_iff.mp hxs)
  obtain ⟨hi, hhi⟩ := Option.ne_none_iff_exists'.mp (mt List.max?_eq_none_iff.mp hxs)
  exact ⟨lo, hi, (isLeast_iff warps role y).mpr hlo, (isGreatest_iff warps role y).mpr hhi⟩

lemma length_tiles : (tiles warps role y filled).length = (live warps role y filled).length := by
  by_cases h : row warps role y = []
  · rw [tiles, live, h]
    rfl
  · obtain ⟨lo, hi, hlo, hhi⟩ := exists_ends warps role y h
    rw [tiles_eq warps role y filled hlo hhi, spreadOut, List.length_map, List.length_range]

lemma evenly_tiles {lo hi : Int} (hlo : IsLeast (firstTiles (rowWarps warps role y)) lo)
    (hhi : IsGreatest (firstTiles (rowWarps warps role y)) hi) :
    Evenly lo hi (tiles warps role y filled) := by
  rw [tiles_eq warps role y filled hlo hhi]
  exact evenly_spreadOut (hlo.2 hhi.1) _

/-- Slots whose first warps have tiles of their own are no more than there are tiles. -/
lemma length_live_le {lo hi : Int} (hlo : IsLeast (firstTiles (rowWarps warps role y)) lo)
    (hhi : IsGreatest (firstTiles (rowWarps warps role y)) hi)
    (hapart : ∀ m ∈ live warps role y filled, ∀ n ∈ live warps role y filled,
      firstTile? (rowWarps warps role y) m = firstTile? (rowWarps warps role y) n → m = n) :
    ((live warps role y filled).length : Int) ≤ hi - lo + 1 := by
  set slots := live warps role y filled
  let tile (n : Nat) : Int := (firstTile? (rowWarps warps role y) n).getD 0
  have htile : ∀ n ∈ slots, firstTile? (rowWarps warps role y) n = some (tile n) := by
    intro n hn
    obtain ⟨x, hx⟩ := isSome_firstTile?.mpr ((mem_live warps role y).mp hn).2
    simp only [tile, hx, Option.getD_some]
  have hnodup : (slots.map tile).Nodup := by
    refine List.Nodup.map_on (fun m hm n hn heq => hapart m hm n hn ?_)
      ((pairwise_live warps role y filled).imp Nat.ne_of_lt)
    rw [htile m hm, htile n hn, heq]
  have hwithin : (slots.map tile).toFinset ⊆ Finset.Icc lo hi := by
    intro x hx
    obtain ⟨n, hn, rfl⟩ := List.mem_map.mp (List.mem_toFinset.mp hx)
    exact Finset.mem_Icc.mpr ⟨hlo.2 ⟨n, htile n hn⟩, hhi.2 ⟨n, htile n hn⟩⟩
  have hcard := Finset.card_le_card hwithin
  rw [List.toFinset_card_of_nodup hnodup, List.length_map, Int.card_Icc] at hcard
  have hwidth := hlo.2 hhi.1
  omega

/-- Slots whose first warps have tiles of their own get tiles of their own. -/
lemma nodup_tiles
    (hapart : ∀ m ∈ live warps role y filled, ∀ n ∈ live warps role y filled,
      firstTile? (rowWarps warps role y) m = firstTile? (rowWarps warps role y) n → m = n) :
    (tiles warps role y filled).Nodup := by
  by_cases h : row warps role y = []
  · rw [tiles, h]
    exact List.nodup_nil
  · obtain ⟨lo, hi, hlo, hhi⟩ := exists_ends warps role y h
    have hroom := length_live_le warps role y filled hlo hhi hapart
    rw [tiles_eq warps role y filled hlo hhi]
    generalize (live warps role y filled).length = count at hroom ⊢
    obtain _ | _ | gaps := count
    case zero | succ.zero => simp [spreadOut]
    case succ.succ =>
      exact pairwise_spreadOut fun i j hij =>
        (spread_lt_spread (hlo.2 hhi.1) gaps.succ_pos (by omega) hij).ne

/-- A warp of a filled slot has the tile of the slot. -/
lemma placeInRow_eq {w : SlotWarp} {k : Nat}
    (hk : (live warps w.role w.y filled)[k]? = some w.slot) :
    placeInRow warps filled w = (tiles warps w.role w.y filled)[k]? := by
  obtain ⟨hlt, hslot⟩ := List.getElem?_eq_some_iff.mp hk
  have hfind : (live warps w.role w.y filled).findIdx? (· == w.slot) = some k := by
    refine List.findIdx?_eq_some_iff_getElem.mpr ⟨hlt, by simpa using hslot, fun j hj => ?_⟩
    have hless := List.pairwise_iff_getElem.mp (pairwise_live warps w.role w.y filled) j k
      (hj.trans hlt) hlt hj
    rw [hslot] at hless
    simpa using hless.ne
  rw [live] at hfind
  simp only [placeInRow, hfind, tiles]
  cases ((row warps w.role w.y).map Prod.snd).min? with
  | none => rfl
  | some lo =>
    cases ((row warps w.role w.y).map Prod.snd).max? with
    | none => rfl
    | some hi =>
      dsimp only
      rw [spreadOut, List.getElem?_map, List.getElem?_range hlt, Option.map_some]
      rfl

end Tiles

/-! ### Rows in the script -/

/-- The filled slots of the warps of a row, in their order, and the tiles that they get: between the
least and the greatest of the tiles of first warps, be their slots filled or not. -/
structure SpreadOver (warps : List SlotWarp) (filled : Nat) (slots : List Nat) (xs : List Int) :
    Prop where
  inOrder : slots.Pairwise (· < ·)
  mem_slots : ∀ n, n ∈ slots ↔ (1 ≤ n ∧ n ≤ filled) ∧ ∃ w ∈ warps, w.slot = n
  length_eq : xs.length = slots.length
  evenly : warps ≠ [] → ∃ lo hi, IsLeast (firstTiles warps) lo ∧ IsGreatest (firstTiles warps) hi ∧
    Evenly lo hi xs
  apart : (∀ m ∈ slots, ∀ n ∈ slots, firstTile? warps m = firstTile? warps n → m = n) → xs.Nodup

lemma spreadOver_tiles (warps : List SlotWarp) (role : Role) (y : Int) (filled : Nat) :
    SpreadOver (rowWarps warps role y) filled (live warps role y filled)
      (tiles warps role y filled) := by
  refine ⟨pairwise_live warps role y filled, fun _ => mem_live warps role y,
    length_tiles warps role y filled, fun hwarps => ?_, nodup_tiles warps role y filled⟩
  obtain ⟨w, hw⟩ := List.exists_mem_of_ne_nil _ hwarps
  obtain ⟨x, hx⟩ := isSome_firstTile?.mpr ⟨w, hw, rfl⟩
  have hrow := (mem_row warps role y).mpr hx
  obtain ⟨lo, hi, hlo, hhi⟩ := exists_ends warps role y (List.ne_nil_of_mem hrow)
  exact ⟨lo, hi, hlo, hhi, evenly_tiles warps role y filled hlo hhi⟩

/-- A warp with a place in its row is written anew with it. -/
lemma part_of_placed_warp {template : List String} {index : Nat} {command : String} {w : SlotWarp}
    {x : Int} (hindex : index ≠ layoutIndex) (hw : SlotWarp.ofCommand? command = some w)
    (hplace : placeInRow (warpsAt template index) pairs.length w = some x) :
    ∃ name who old rest, tokens? command = some (name :: who :: old :: rest) ∧
      part template pairs index command = if AllFilled pairs command
        then [Text.spaced (substitute pairs name :: substitute pairs who :: Numeral.ofInt x ::
          rest.map (substitute pairs))]
        else [] := by
  obtain ⟨name, who, old, rest, hts, hwarp⟩ := exists_tokens_of_ofCommand? hw
  refine ⟨name, who, old, rest, hts, ?_⟩
  have hkeeps : ∀ name body, tokens? command = some (name :: body) →
      ¬ Sheds pairs.length name body := by
    rintro name' body hts' ⟨hmove, -⟩
    rw [hts] at hts'
    cases hts'
    exact not_warp_of_move hmove hwarp
  have hrespace : respace (warpsAt template index) pairs.length command =
      Text.spaced (name :: who :: Numeral.ofInt x :: rest) := by
    simp only [respace, hw, Option.bind_some, hplace, hts]
  have hname : name ≠ "" := by
    rintro rfl
    exact absurd hwarp (by decide)
  set respaced := Text.spaced (name :: who :: Numeral.ofInt x :: rest) with hrespaced
  have hreframe : reframe (substitute pairs respaced) = [substitute pairs respaced] :=
    reframe_of_alike hwarp (by decide) fun c hc =>
      .inr (.inr (by rwa [hrespaced, Text.head?_spaced_cons hname] at hc))
  rw [part_of_not_sheds hindex hkeeps, hrespace, hreframe, hrespaced, substitute_spaced,
    List.map_cons, List.map_cons, List.map_cons, substitute_ofInt]

/-- **Rows are spread evenly.** The warps behind the layout to slots of one role at one height make
a row. Its filled slots are spread over the tiles from the least to the greatest of those of first
warps, and every warp of a filled slot gets the tile of its slot, wherever it led before. -/
theorem rows_are_spread_evenly (template : List String) (pairs : List DancePair) (role : Role)
    (y : Int) :
    let warps := rowWarps ((template.drop (layoutIndex + 1)).filterMap SlotWarp.ofCommand?) role y
    assemble template pairs =
      (template.zipIdx.map fun place => part template pairs place.2 place.1).flatten ∧
    ∃ slots xs, SpreadOver warps pairs.length slots xs ∧
      ∀ index command w, layoutIndex < index → template[index]? = some command →
        SlotWarp.ofCommand? command = some w → w.role = role → w.y = y →
        1 ≤ w.slot → w.slot ≤ pairs.length →
        ∃ (k : Nat) (x : Int) (name who old : String) (rest : List String),
          slots[k]? = some w.slot ∧ xs[k]? = some x ∧
          tokens? command = some (name :: who :: old :: rest) ∧
          part template pairs index command = if AllFilled pairs command
            then [Text.spaced (substitute pairs name :: substitute pairs who :: Numeral.ofInt x ::
              rest.map (substitute pairs))]
            else [] := by
  set all := (template.drop (layoutIndex + 1)).filterMap SlotWarp.ofCommand?
  refine ⟨assemble_eq template pairs, live all role y pairs.length, tiles all role y pairs.length,
    spreadOver_tiles all role y pairs.length, ?_⟩
  rintro index command w hindex hcommand hw rfl rfl hlow hhigh
  have hmem : w ∈ rowWarps all w.role w.y := by
    obtain ⟨rank, rfl⟩ := Nat.exists_eq_add_of_lt hindex
    have hbehind : command ∈ template.drop (layoutIndex + 1) :=
      List.mem_of_getElem? (i := rank) (by rw [List.getElem?_drop, Nat.add_right_comm, hcommand])
    exact List.mem_filter.mpr ⟨List.mem_filterMap.mpr ⟨command, hbehind, hw⟩, by simp⟩
  obtain ⟨k, hk⟩ := List.getElem?_of_mem <|
    (mem_live all w.role w.y).mpr ⟨⟨hlow, hhigh⟩, w, hmem, rfl⟩
  obtain ⟨x, hx⟩ : ∃ x, (tiles all w.role w.y pairs.length)[k]? = some x := by
    obtain ⟨hlt, -⟩ := List.getElem?_eq_some_iff.mp hk
    exact ⟨_, List.getElem?_eq_getElem (by rwa [length_tiles])⟩
  have hplace : placeInRow (warpsAt template index) pairs.length w = some x := by
    rw [warpsAt, if_pos hindex, placeInRow_eq all pairs.length hk, hx]
  obtain ⟨name, who, old, rest, hts, hpart⟩ := part_of_placed_warp hindex.ne' hw hplace
  exact ⟨k, x, name, who, old, rest, hk, hx, hts, hpart⟩

example : assemble ["none", "follow", "Lewis 0 0 2", "warp Leader2 7 5", "warp Leader3 10 5",
      "warp Leader1 4 5", "warp Leader1 9 5"]
    [⟨.villager "Alex", .villager "Haley"⟩, ⟨.villager "Sam", .villager "Penny"⟩] =
    ["none", "follow", "Lewis 0 0 2", "warp Sam 10 5", "warp Alex 4 5", "warp Alex 4 5"] := by
  decide +kernel

end Cutscene.Dance
