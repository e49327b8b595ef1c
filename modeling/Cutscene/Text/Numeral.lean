/-!
Whole numbers in text. A numeral is an optional sign and decimal digits, and a reader accepts it
only inside the range of its kind. Writing a number uses the fewest digits.
-/

namespace Cutscene.Numeral

/-- The value of a decimal digit. -/
def digit? (c : Char) : Option Nat :=
  if '0' ≤ c ∧ c ≤ '9' then some (c.toNat - '0'.toNat) else none

/-- The digits continue a number whose first digits are read already. -/
def readFrom (value : Nat) : List Char → Option Nat
  | [] => some value
  | c :: rest => do readFrom (value * 10 + (← digit? c)) rest

/-- The value of a run of at least one digit. -/
def digits? : List Char → Option Nat
  | [] => none
  | c :: rest => readFrom 0 (c :: rest)

/-- A natural number below a bound; it may carry a plus sign. -/
def below? (bound : Nat) (s : String) : Option Nat :=
  let value := match s.toList with
    | '+' :: rest => digits? rest
    | cs => digits? cs
  value.filter (· < bound)

/-- A natural number of thirty-two bits. -/
def nat32? (s : String) : Option Nat := below? 0x100000000 s

/-- A natural number of sixty-four bits. -/
def nat64? (s : String) : Option Nat := below? 0x10000000000000000 s

/-- An integer with an optional sign, at least `lo` and at most `hi`. -/
def between? (lo hi : Int) (s : String) : Option Int :=
  let value : Option Int := match s.toList with
    | '-' :: rest => (digits? rest).map fun n => -(n : Int)
    | '+' :: rest => (digits? rest).map fun n => (n : Int)
    | cs => (digits? cs).map fun n => (n : Int)
  value.filter fun v => lo ≤ v && v ≤ hi

/-- An integer of thirty-two bits. -/
def int32? (s : String) : Option Int := between? (-0x80000000) 0x7fffffff s

/-- The character of a digit below ten. -/
def digitChar (d : Nat) : Char := Char.ofNat ('0'.toNat + d)

/-- The decimal digits of a number, without leading zeros. -/
def digits (n : Nat) : List Char :=
  if n < 10 then [digitChar n] else digits (n / 10) ++ [digitChar (n % 10)]

/-- A natural number as text. -/
def ofNat (n : Nat) : String := String.ofList (digits n)

/-- An integer as text, with a minus sign where it is negative. -/
def ofInt : Int → String
  | .ofNat n => ofNat n
  | .negSucc n => "-" ++ ofNat (n + 1)

theorem digit?_digitChar {d : Nat} (h : d < 10) : digit? (digitChar d) = some d := by
  have : ∀ d : Fin 10, digit? (digitChar d) = some (d : Nat) := by decide
  exact this ⟨d, h⟩

theorem readFrom_append (v : Nat) (a b : List Char) :
    readFrom v (a ++ b) = (readFrom v a).bind fun w => readFrom w b := by
  induction a generalizing v with
  | nil => rfl
  | cons c rest ih => cases h : digit? c <;> simp [readFrom, h, ih]

/-- Reading continues where the written digits end. -/
theorem readFrom_digits (n : Nat) : readFrom 0 (digits n) = some n := by
  induction n using digits.induct with
  | case1 n h => rw [digits, if_pos h]; simp [readFrom, digit?_digitChar h]
  | case2 n h ih =>
    rw [digits, if_neg h, readFrom_append, ih]
    have : n % 10 < 10 := by omega
    simp only [Option.bind_some, readFrom, digit?_digitChar this, Option.bind_eq_bind,
      Option.some.injEq]
    omega

theorem digits_ne_nil (n : Nat) : digits n ≠ [] := by
  rw [digits]; split <;> simp

/-- A written number reads back. -/
theorem digits?_digits (n : Nat) : digits? (digits n) = some n := by
  cases h : digits n with
  | nil => exact absurd h (digits_ne_nil n)
  | cons c rest => rw [digits?, ← h, readFrom_digits]

/-- What holds of all ten digits holds of those of a number. -/
theorem of_mem_digits {P : Char → Prop} (hdigit : ∀ d : Fin 10, P (digitChar d)) {n : Nat} {c : Char}
    (h : c ∈ digits n) : P c := by
  induction n using digits.induct with
  | case1 n hn =>
    rw [digits, if_pos hn, List.mem_singleton] at h
    exact h ▸ hdigit ⟨n, hn⟩
  | case2 n hn ih =>
    rw [digits, if_neg hn] at h
    rcases List.mem_append.mp h with h | h
    · exact ih h
    · exact List.mem_singleton.mp h ▸ hdigit ⟨n % 10, Nat.mod_lt n (by decide)⟩

theorem isDigit_of_mem_digits {n : Nat} {c : Char} (h : c ∈ digits n) : c.isDigit :=
  of_mem_digits (P := fun c => c.isDigit) (by decide) h

/-- A written number below the bound reads back. -/
theorem below?_ofNat {bound n : Nat} (h : n < bound) : below? bound (ofNat n) = some n := by
  have hplus : ∀ rest, digits n ≠ '+' :: rest := fun rest heq =>
    absurd (isDigit_of_mem_digits (n := n) (heq ▸ List.mem_cons_self)) (by decide)
  rw [below?, ofNat, String.toList_ofList]
  split
  · rename_i rest heq
    exact absurd heq (hplus rest)
  · rw [digits?_digits, Option.filter_some, if_pos (by simpa using h)]

/-- What is read is below the bound. -/
theorem lt_of_below? {bound n : Nat} {s : String} (h : below? bound s = some n) : n < bound := by
  rw [below?, Option.filter_eq_some_iff] at h
  exact of_decide_eq_true h.2

example : int32? "-2147483648" = some (-2147483648) ∧ int32? "2147483648" = none := by decide +kernel
example : ofInt (-120) = "-120" ∧ nat32? "+07" = some 7 ∧ nat32? "-0" = none := by decide +kernel

end Cutscene.Numeral
