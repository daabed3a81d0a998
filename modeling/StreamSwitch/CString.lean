import Mathlib.Data.List.TakeWhile

/-!
# C strings

A C string is the list of its characters, one for each byte; a buffer holds the
string up to its first NUL.
-/

namespace StreamSwitch

/-- The C string in a buffer. -/
def cStr (s : List Char) : List Char := s.takeWhile fun c => c ≠ Char.ofNat 0

/-- The C string that `snprintf` leaves for a formatted text. -/
def snprintf (size : Nat) (text : List Char) : List Char := cStr (text.take (size - 1))

/-- `"%d"`. -/
def decimal (i : Int) : List Char := (toString i).toList

theorem cStr_eq_self {s : List Char} (h : ∀ c ∈ s, c ≠ Char.ofNat 0) : cStr s = s := by
  unfold cStr
  rw [List.takeWhile_eq_self_iff]
  exact fun c hc => decide_eq_true (h c hc)

theorem ne_of_mem_cStr {s : List Char} {c : Char} (h : c ∈ cStr s) : c ≠ Char.ofNat 0 := by
  have hc := List.mem_takeWhile_imp h
  exact of_decide_eq_true hc

theorem decimal_ofNat (i : Nat) : decimal (i : Int) = Nat.toDigits 10 i := Nat.toList_repr

theorem decimal_negSucc (i : Nat) :
    decimal (Int.negSucc i) = '-' :: decimal ((i + 1 : Nat) : Int) := by
  show ("-" ++ toString (Nat.succ i)).toList = _
  rw [String.toList_append]
  rfl

theorem ne_of_mem_decimal {i : Int} {c : Char} (h : c ∈ decimal i) : c ≠ Char.ofNat 0 := by
  have hnat : ∀ n : Nat, c ∈ decimal (n : Int) → c ≠ Char.ofNat 0 := by
    intro n hc
    rw [decimal_ofNat] at hc
    have hd := Nat.isDigit_of_mem_toDigits (by decide) (by decide) hc
    rintro rfl
    exact absurd hd (by decide)
  cases i with
  | ofNat n => exact hnat n h
  | negSucc n =>
    rw [decimal_negSucc] at h
    rcases List.mem_cons.1 h with rfl | h
    · decide
    · exact hnat _ h

/-- A number is written with digits, behind a sign if it is negative. -/
theorem mem_decimal {i : Int} {c : Char} (h : c ∈ decimal i) : c = '-' ∨ c.isDigit = true := by
  have hnat : ∀ n : Nat, c ∈ decimal (n : Int) → c.isDigit = true := fun n hc => by
    rw [decimal_ofNat] at hc
    exact Nat.isDigit_of_mem_toDigits (by decide) (by decide) hc
  cases i with
  | ofNat n => exact .inr (hnat n h)
  | negSucc n =>
    rw [decimal_negSucc] at h
    rcases List.mem_cons.1 h with rfl | h
    · exact .inl rfl
    · exact .inr (hnat _ h)

theorem snprintf_of_fits {size : Nat} {text : List Char} (hl : text.length ≤ size - 1)
    (h : ∀ c ∈ text, c ≠ Char.ofNat 0) : snprintf size text = text := by
  unfold snprintf
  rw [List.take_of_length_le hl]
  exact cStr_eq_self h

end StreamSwitch
