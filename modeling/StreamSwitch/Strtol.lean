import Mathlib.Algebra.GroupWithZero.Nat
import Mathlib.Algebra.Ring.Int.Defs
import Mathlib.Data.List.Basic

/-!
# Numbers in C strings

`strtol` in base 10 and in base 0, where the text says its base, and `atoi`. A `long` has 64 bits.
-/

namespace StreamSwitch

/-- The characters of `isspace`. -/
def isSpace (c : Char) : Bool := c = ' ' ∨ ('\t' ≤ c ∧ c ≤ '\r')

/-- The value of a digit; 36 for what is none. -/
def digitOf (c : Char) : Nat :=
  if '0' ≤ c ∧ c ≤ '9' then c.toNat - '0'.toNat
  else if 'a' ≤ c ∧ c ≤ 'z' then c.toNat - 'a'.toNat + 10
  else if 'A' ≤ c ∧ c ≤ 'Z' then c.toNat - 'A'.toNat + 10
  else 36

/-- The number that the text begins with. -/
def leadingNumber (base : Nat) (s : List Char) : Nat :=
  (s.takeWhile fun c => digitOf c < base).foldl (fun n c => base * n + digitOf c) 0

/-- The base that the text says, and what is behind its mark. -/
def radix : List Char → Nat × List Char
  | '0' :: c :: s => if c = 'x' ∨ c = 'X' then (16, s) else (8, c :: s)
  | ['0'] => (8, [])
  | s => (10, s)

/-- Whether a minus stands first, and what is behind the sign. -/
def sign : List Char → Bool × List Char
  | '-' :: s => (true, s)
  | '+' :: s => (false, s)
  | s => (false, s)

def strtol (base : Nat) (s : List Char) : Int :=
  let (negative, s) := sign (s.dropWhile isSpace)
  let (base, s) := if base = 0 then radix s else (base, s)
  let n : Int := leadingNumber base s
  if negative then max (-n) (-2 ^ 63) else min n (2 ^ 63 - 1)

def atoi (s : List Char) : Int := (strtol 10 s).bmod (2 ^ 32)

/-! ## Decimal numbers -/

variable {c : Char} {n : Nat} {rest : List Char}

theorem digitOf_of_isDigit (h : c.isDigit) : digitOf c = c.toNat - '0'.toNat := by
  unfold digitOf
  rw [Char.isDigit_iff_toNat] at h
  exact if_pos h

theorem digitOf_lt (h : c.isDigit) : digitOf c < 10 := by
  rw [digitOf_of_isDigit h]
  obtain ⟨hlo, hhi⟩ := Char.isDigit_iff_toNat.1 h
  have : '9'.toNat = '0'.toNat + 9 := rfl
  omega

/-- A number begins with a digit, which is zero for zero only. -/
theorem exists_toDigits (n : Nat) : ∃ c cs, Nat.toDigits 10 n = c :: cs ∧ c.isDigit ∧
    (c = '0' → n = 0) := by
  induction n using Nat.strongRecOn with
  | ind n ih =>
    by_cases hn : n < 10
    · refine ⟨n.digitChar, [], Nat.toDigits_of_lt_base hn, ?_, fun h => ?_⟩
      · rw [Nat.isDigit_digitChar, decide_eq_true_eq]
        exact hn
      · clear ih
        revert n
        decide
    · obtain ⟨c, cs, htext, hdigit, hzero⟩ := ih (n / 10) (by omega)
      rw [Nat.toDigits_of_base_le (by decide) (Nat.le_of_not_lt hn), htext]
      exact ⟨c, cs ++ [(n % 10).digitChar], rfl, hdigit, fun h => by have := hzero h; omega⟩

theorem leadingNumber_toDigits (hrest : ∀ c ∈ rest.head?, 36 ≤ digitOf c) :
    leadingNumber 10 (Nat.toDigits 10 n ++ rest) = n := by
  have hdigit : ∀ c ∈ Nat.toDigits 10 n, c.isDigit := fun c hc =>
    Nat.isDigit_of_mem_toDigits (by decide) (by decide) hc
  have hstop : rest.takeWhile (fun c => digitOf c < 10) = [] := by
    cases rest with
    | nil => rfl
    | cons c cs =>
      have := hrest c rfl
      rw [List.takeWhile_cons_of_neg]
      rw [decide_eq_true_eq]
      omega
  have htake : (Nat.toDigits 10 n ++ rest).takeWhile (fun c => digitOf c < 10) =
      Nat.toDigits 10 n := by
    rw [List.takeWhile_append_of_pos fun c hc => decide_eq_true (digitOf_lt (hdigit c hc)), hstop,
      List.append_nil]
  unfold leadingNumber
  rw [htake]
  refine Eq.trans ?_ (Nat.ofDigitChars_ten_toDigits (n := n))
  rw [Nat.ofDigitChars_eq_foldl]
  exact List.foldl_ext _ _ _ fun m c hc => by rw [digitOf_of_isDigit (hdigit c hc)]

theorem isSpace_of_isDigit (h : c.isDigit) : isSpace c = false := by
  obtain ⟨hlo, -⟩ := Char.isDigit_iff_toNat.1 h
  unfold isSpace
  rw [decide_eq_false_iff_not]
  rintro (rfl | ⟨-, hle⟩)
  · exact absurd hlo (by decide)
  · have : c.toNat ≤ '\r'.toNat := hle
    have : '0'.toNat ≤ '\r'.toNat := Nat.le_trans hlo this
    exact absurd this (by decide)

theorem sign_cons_of_isDigit {cs : List Char} (h : c.isDigit) : sign (c :: cs) = (false, c :: cs) := by
  unfold sign
  split
  · rename_i heq
    cases heq
    cases h
  · rename_i heq
    cases heq
    cases h
  · rfl

theorem radix_cons_of_ne {cs : List Char} (h : c ≠ '0') : radix (c :: cs) = (10, c :: cs) := by
  unfold radix
  split
  · rename_i heq
    cases heq
    exact absurd rfl h
  · rename_i heq
    cases heq
    exact absurd rfl h
  · rfl

/-- Behind a zero, the base is 8, and there is nothing else to read. -/
theorem leadingNumber_zero (hrest : ∀ c ∈ rest.head?, 36 ≤ digitOf c) :
    leadingNumber (radix ('0' :: rest)).1 (radix ('0' :: rest)).2 = 0 := by
  cases rest with
  | nil => rfl
  | cons c cs =>
    have hc := hrest c rfl
    have hx : ¬ (c = 'x' ∨ c = 'X') := by
      rintro (rfl | rfl)
      · exact absurd hc (by decide)
      · exact absurd hc (by decide)
    have hradix : radix ('0' :: c :: cs) = (8, c :: cs) := if_neg hx
    rw [hradix]
    unfold leadingNumber
    rw [List.takeWhile_cons_of_neg]
    · rfl
    · rw [decide_eq_true_eq]
      omega

/-- `strtol` reads a number that is written in decimal, up to what is no digit. -/
theorem strtol_toDigits (hn : n < 2 ^ 63) (hrest : ∀ c ∈ rest.head?, 36 ≤ digitOf c) :
    strtol 0 (Nat.toDigits 10 n ++ rest) = n := by
  obtain ⟨c, cs, htext, hdigit, hzero⟩ := exists_toDigits n
  have hnumber : leadingNumber (radix (Nat.toDigits 10 n ++ rest)).1
      (radix (Nat.toDigits 10 n ++ rest)).2 = n := by
    by_cases hc : c = '0'
    · cases hzero hc
      exact leadingNumber_zero hrest
    · rw [htext, List.cons_append, radix_cons_of_ne hc, ← List.cons_append, ← htext]
      exact leadingNumber_toDigits hrest
  have hsign : sign ((Nat.toDigits 10 n ++ rest).dropWhile isSpace) =
      (false, Nat.toDigits 10 n ++ rest) := by
    rw [htext, List.cons_append, List.dropWhile_cons_of_neg (by simp [isSpace_of_isDigit hdigit]),
      sign_cons_of_isDigit hdigit]
  unfold strtol
  rw [hsign]
  show min ((leadingNumber (radix (Nat.toDigits 10 n ++ rest)).1
    (radix (Nat.toDigits 10 n ++ rest)).2 : Nat) : Int) (2 ^ 63 - 1) = n
  rw [hnumber]
  omega

end StreamSwitch
