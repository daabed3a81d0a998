import Mathlib.Tactic.Common

/-!
# Cyclic redundancy checks

A register of 32 bits is shifted, and its generator is subtracted where a one falls out. A byte goes in
at the high end. Behind bytes and the register they left, highest byte first, the register is zero if
and only if it started as it did for them (`register_check`).

`swapped_eq` is the same register by a table, with its bytes in the other order.
-/

namespace Crc

variable (poly : BitVec 32)

def shift (r : BitVec 32) : BitVec 32 := if r.msb then r <<< 1 ^^^ poly else r <<< 1

def shifts : Nat → BitVec 32 → BitVec 32
  | 0, r => r
  | n + 1, r => shifts n (shift poly r)

/-- A byte at the high end of a register. -/
def high (b : BitVec 8) : BitVec 32 := b.setWidth 32 <<< 24

/-- The register behind a byte. -/
def byte (r : BitVec 32) (b : UInt8) : BitVec 32 := shifts poly 8 (r ^^^ high b.toBitVec)

def register (r : BitVec 32) (bytes : List UInt8) : BitVec 32 := bytes.foldl (byte poly) r

/-- The byte that falls out next. -/
def top (r : BitVec 32) : BitVec 8 := (r >>> 24).setWidth 8

/-- The bytes of a register, the highest one first. -/
def bytes (r : BitVec 32) : List UInt8 :=
  [.ofBitVec (top r), .ofBitVec (top (r <<< 8)), .ofBitVec (top (r <<< 16)), .ofBitVec (top (r <<< 24))]

/-! ## Shifts -/

variable {poly} {r s : BitVec 32}

theorem shift_xor (r s : BitVec 32) : shift poly (r ^^^ s) = shift poly r ^^^ shift poly s := by
  unfold shift
  rw [BitVec.msb_xor, BitVec.shiftLeft_xor_distrib]
  cases r.msb <;> cases s.msb
  · rfl
  · exact BitVec.xor_assoc ..
  · show r <<< 1 ^^^ s <<< 1 ^^^ poly = r <<< 1 ^^^ poly ^^^ s <<< 1
    ac_rfl
  · show r <<< 1 ^^^ s <<< 1 = (r <<< 1 ^^^ poly) ^^^ (s <<< 1 ^^^ poly)
    rw [BitVec.xor_assoc, BitVec.xor_comm (s <<< 1), ← BitVec.xor_assoc poly, BitVec.xor_self,
      BitVec.zero_xor]

theorem shifts_xor (n : Nat) (r s : BitVec 32) :
    shifts poly n (r ^^^ s) = shifts poly n r ^^^ shifts poly n s := by
  induction n generalizing r s with
  | zero => rfl
  | succ n ih => rw [shifts, shift_xor, ih, shifts, shifts]

/-- Nothing is subtracted while zeros fall out. -/
theorem shifts_low {n : Nat} (h : ∀ i < n, r.getMsbD i = false) : shifts poly n r = r <<< n := by
  induction n generalizing r with
  | zero => rw [shifts, BitVec.shiftLeft_zero]
  | succ n ih =>
    have hmsb : r.msb = false := h 0 (Nat.zero_lt_succ n)
    have hrest : ∀ i < n, (r <<< 1).getMsbD i = false := fun i hi => by
      rw [BitVec.getMsbD_shiftLeft]
      exact h (i + 1) (Nat.succ_lt_succ hi)
    rw [shifts, shift, hmsb, if_neg Bool.false_ne_true, ih hrest, ← BitVec.shiftLeft_add, Nat.add_comm]

/-- A register from its highest byte and the rest. -/
theorem high_xor_rest (r : BitVec 32) : r = high (top r) ^^^ (r <<< 8) >>> 8 := by
  apply BitVec.eq_of_getLsbD_eq
  intro i hi
  simp only [high, top, BitVec.getLsbD_xor, BitVec.getLsbD_shiftLeft, BitVec.getLsbD_setWidth,
    BitVec.getLsbD_ushiftRight]
  by_cases h24 : i < 24
  · have h8 : 8 + i < 32 := by omega
    simp [h24, h8]
  · have hsub : 24 + (i - 24) = i := by omega
    have hlt : i - 24 < 8 := by omega
    have h32 : i - 24 < 32 := by omega
    have h8 : ¬8 + i < 32 := by omega
    simp [h24, hi, hlt, h32, h8, hsub]

theorem high_xor (a b : BitVec 8) : high a ^^^ high b = high (a ^^^ b) := by
  rw [high, high, high, ← BitVec.shiftLeft_xor_distrib, BitVec.setWidth_xor]

/-- **By a table**: what the highest byte and the new one leave, and the other three bytes. -/
theorem byte_eq (r : BitVec 32) (b : UInt8) :
    byte poly r b = shifts poly 8 (high (top r ^^^ b.toBitVec)) ^^^ r <<< 8 := by
  have hlow : shifts poly 8 ((r <<< 8) >>> 8) = r <<< 8 := by
    rw [shifts_low]
    · apply BitVec.eq_of_getLsbD_eq
      intro i hi
      simp only [BitVec.getLsbD_shiftLeft, BitVec.getLsbD_ushiftRight]
      by_cases h8 : i < 8
      · simp [h8]
      · have hadd : 8 + (i - 8) = i := by omega
        simp [h8, hi, hadd]
    · intro i hi
      rw [BitVec.getMsbD_ushiftRight]
      simp [hi]
  conv_lhs => rw [byte, high_xor_rest r]
  rw [BitVec.xor_assoc, BitVec.xor_comm _ (high b.toBitVec), ← BitVec.xor_assoc, high_xor, shifts_xor,
    hlow]

/-! ## The check -/

theorem shifts_zero (n : Nat) : shifts poly n 0 = 0 := by
  induction n with
  | zero => rfl
  | succ n ih => exact ih

/-- The byte that falls out is subtracted. -/
theorem byte_top (r : BitVec 32) : byte poly r (.ofBitVec (top r)) = r <<< 8 := by
  have hzero : high (top r ^^^ top r) = 0 := by
    rw [BitVec.xor_self]
    rfl
  rw [byte_eq]
  show shifts poly 8 (high (top r ^^^ top r)) ^^^ r <<< 8 = r <<< 8
  rw [hzero, shifts_zero]
  exact BitVec.zero_xor

theorem register_append (r : BitVec 32) (a b : List UInt8) :
    register poly r (a ++ b) = register poly (register poly r a) b := List.foldl_append

/-- A register that takes its own bytes is empty. -/
theorem register_bytes (r : BitVec 32) : register poly r (bytes r) = 0 := by
  show byte poly (byte poly (byte poly (byte poly r _) _) _) _ = 0
  rw [byte_top, byte_top, ← BitVec.shiftLeft_add, byte_top, ← BitVec.shiftLeft_add, byte_top,
    ← BitVec.shiftLeft_add]
  exact BitVec.shiftLeft_eq_zero (Nat.le_refl 32)

/-- What falls out can be told from the lowest bit. -/
theorem shift_inj (hpoly : poly.getLsbD 0 = true) (h : shift poly r = shift poly s) : r = s := by
  have hlow : ∀ r : BitVec 32, (shift poly r).getLsbD 0 = r.msb := fun r => by
    unfold shift
    cases hmsb : r.msb
    · simp
    · simp [hpoly]
  have hmsb : r.msb = s.msb := by rw [← hlow, h, hlow]
  have hrest : r <<< 1 = s <<< 1 := by
    unfold shift at h
    rw [hmsb] at h
    split at h
    · exact (BitVec.xor_left_inj poly).1 h
    · exact h
  apply BitVec.eq_of_getLsbD_eq
  intro i hi
  by_cases h31 : i = 31
  · rw [h31]
    exact hmsb
  · have hbit := congrArg (·.getLsbD (i + 1)) hrest
    have hlt : i + 1 < 32 := by omega
    simp only [BitVec.getLsbD_shiftLeft, hlt] at hbit
    simpa using hbit

theorem shifts_inj (hpoly : poly.getLsbD 0 = true) {n : Nat} (h : shifts poly n r = shifts poly n s) :
    r = s := by
  induction n generalizing r s with
  | zero => exact h
  | succ n ih => exact shift_inj hpoly (ih h)

theorem register_inj (hpoly : poly.getLsbD 0 = true) {bs : List UInt8}
    (h : register poly r bs = register poly s bs) : r = s := by
  induction bs generalizing r s with
  | nil => exact h
  | cons b bs ih => exact (BitVec.xor_left_inj _).1 (shifts_inj hpoly (ih h))

/-- **The check succeeds** exactly for those who start with the same register. -/
theorem register_check (hpoly : poly.getLsbD 0 = true) (bs : List UInt8) :
    register poly s (bs ++ bytes (register poly r bs)) = 0 ↔ s = r := by
  have hzero : register poly r (bs ++ bytes (register poly r bs)) = 0 := by
    rw [register_append, register_bytes]
  constructor
  · exact fun h => register_inj hpoly (h.trans hzero.symm)
  · rintro rfl
    exact hzero

/-! ## A register with its bytes in the other order -/

/-- A byte in its place. -/
def place (k : Nat) (b : BitVec 8) : BitVec 32 := b.setWidth 32 <<< (8 * k)

/-- The lowest byte first. -/
def swap (r : BitVec 32) : BitVec 32 :=
  place 0 (top r) ||| place 1 (top (r <<< 8)) ||| place 2 (top (r <<< 16)) ||| place 3 (top (r <<< 24))

/-- A byte at the low end, with a table of what each leaves. -/
def swappedByte (table : BitVec 8 → BitVec 32) (c : BitVec 32) (b : UInt8) : BitVec 32 :=
  table (c.setWidth 8 ^^^ b.toBitVec) ^^^ c >>> 8

theorem getLsbD_top (r : BitVec 32) {k i : Nat} (hk : k ≤ 24) (hi : i < 8) :
    (top (r <<< k)).getLsbD i = r.getLsbD (24 - k + i) := by
  have hadd : 24 + i - k = 24 - k + i := by omega
  have hlt : 24 + i < 32 := by omega
  have hge : ¬24 + i < k := by omega
  simp only [top, BitVec.getLsbD_setWidth, BitVec.getLsbD_ushiftRight, BitVec.getLsbD_shiftLeft, hi,
    hlt, hge, hadd]
  rfl

theorem getLsbD_place (b : BitVec 8) (j : Nat) {k i : Nat} (hk : k < 4) (hi : i < 8) :
    (place j b).getLsbD (8 * k + i) = (decide (k = j) && b.getLsbD i) := by
  have hlt : 8 * k + i < 32 := by omega
  rw [place, BitVec.getLsbD_shiftLeft, BitVec.getLsbD_setWidth, decide_eq_true hlt]
  by_cases hkj : k = j
  · have hsub : 8 * k + i - 8 * k = i := Nat.add_sub_cancel_left ..
    have hge : ¬8 * k + i < 8 * k := by omega
    have hi32 : i < 32 := by omega
    rw [← hkj, hsub, decide_eq_false hge, decide_eq_true hi32, decide_eq_true rfl]
    rfl
  · rw [decide_eq_false hkj]
    by_cases hbelow : 8 * k + i < 8 * j
    · rw [decide_eq_true hbelow]
      rfl
    · rw [BitVec.getLsbD_of_ge b _ (by omega), Bool.and_false, Bool.and_false]
      rfl

theorem getLsbD_swap (r : BitVec 32) {k i : Nat} (hk : k < 4) (hi : i < 8) :
    (swap r).getLsbD (8 * k + i) = r.getLsbD (24 - 8 * k + i) := by
  have hbyte : (swap r).getLsbD (8 * k + i) = (top (r <<< (8 * k))).getLsbD i := by
    simp only [swap, BitVec.getLsbD_or, getLsbD_place _ _ hk hi]
    have hcases : k = 0 ∨ k = 1 ∨ k = 2 ∨ k = 3 := by omega
    rcases hcases with rfl | rfl | rfl | rfl
    · simp
    · simp
    · simp
    · simp
  rw [hbyte, getLsbD_top r (by omega) hi]

/-- Registers whose bits are the same, byte by byte. -/
theorem eq_of_bytes (h : ∀ k < 4, ∀ i < 8, r.getLsbD (8 * k + i) = s.getLsbD (8 * k + i)) : r = s := by
  apply BitVec.eq_of_getLsbD_eq
  intro i hi
  have hbit := h (i / 8) (by omega) (i % 8) (by omega)
  rwa [Nat.div_add_mod] at hbit

theorem swap_xor (r s : BitVec 32) : swap (r ^^^ s) = swap r ^^^ swap s := by
  refine eq_of_bytes fun k hk i hi => ?_
  rw [getLsbD_swap _ hk hi, BitVec.getLsbD_xor, BitVec.getLsbD_xor, getLsbD_swap _ hk hi,
    getLsbD_swap _ hk hi]

theorem swap_shiftLeft (r : BitVec 32) : swap (r <<< 8) = swap r >>> 8 := by
  refine eq_of_bytes fun k hk i hi => ?_
  rw [getLsbD_swap _ hk hi, BitVec.getLsbD_ushiftRight, BitVec.getLsbD_shiftLeft]
  by_cases hlast : k = 3
  · have hout : (swap r).getLsbD (8 + (8 * k + i)) = false := BitVec.getLsbD_of_ge _ _ (by omega)
    have hlow : 24 - 8 * k + i < 8 := by omega
    rw [hout, decide_eq_true hlow]
    simp
  · have hnext : 8 + (8 * k + i) = 8 * (k + 1) + i := by omega
    have hhigh : ¬24 - 8 * k + i < 8 := by omega
    have hlt : 24 - 8 * k + i < 32 := by omega
    have hsub : 24 - 8 * k + i - 8 = 24 - 8 * (k + 1) + i := by omega
    rw [hnext, getLsbD_swap _ (by omega) hi, decide_eq_true hlt, decide_eq_false hhigh, hsub]
    rfl

theorem low_swap (r : BitVec 32) {k : Nat} (hk : k < 4) :
    (swap r >>> (8 * k)).setWidth 8 = top (r <<< (8 * k)) := by
  apply BitVec.eq_of_getLsbD_eq
  intro i hi
  rw [BitVec.getLsbD_setWidth, BitVec.getLsbD_ushiftRight, getLsbD_swap r hk hi,
    getLsbD_top r (by omega) hi, decide_eq_true hi]
  rfl

theorem swappedByte_eq {table : BitVec 8 → BitVec 32}
    (htable : ∀ i, table i = swap (shifts poly 8 (high i))) (r : BitVec 32) (b : UInt8) :
    swappedByte table (swap r) b = swap (byte poly r b) := by
  have hlow : (swap r).setWidth 8 = top r := by simpa using low_swap r (k := 0) (by decide)
  rw [swappedByte, hlow, htable, byte_eq, swap_xor, swap_shiftLeft]

/-- **A register by a table**: the bytes of `poly`'s register, the lowest one first. -/
theorem swapped_eq {table : BitVec 8 → BitVec 32}
    (htable : ∀ i, table i = swap (shifts poly 8 (high i))) (r : BitVec 32) (bs : List UInt8) :
    bs.foldl (swappedByte table) (swap r) = swap (register poly r bs) := by
  induction bs generalizing r with
  | nil => rfl
  | cons b bs ih =>
    rw [List.foldl_cons, swappedByte_eq htable, ih]
    rfl

end Crc
