import StreamSwitch.Lib.Bits

/-!
# The bit reader of the SPS decoder

`GetBitContext` of `dec_sps.cc`: single bits, fixed fields and Exp-Golomb codes. A code is read from
32 bits that begin at a byte, shifted by what is read of that byte already: of the code only the
first 25 to 32 bits are there. Codes of up to nine bits are looked up, longer ones are shifted out,
by an amount that is negative for a code of more than 31 bits.

`getGolomb_reads`: of a code of up to 31 bits the reader goes behind its end, and the bits that are
not among the 32 are read as zeros. `getBits_reads`: a field of fixed width is read as a signed one.
-/

namespace StreamSwitch.DecSps

open Bits

/-! ## The reader -/

/-- The memory from the buffer of the context on. -/
abbrev Memory := Nat → UInt8

/-- The bit at `i`. -/
def bitAt (m : Memory) (i : Nat) : Bool := (m (i / 8)).toBitVec.getMsbD (i % 8)

/-- `H264_unaligned32_be`. -/
def unaligned32be (m : Memory) (p : Nat) : BitVec 32 :=
  (m p).toBitVec ++ (m (p + 1)).toBitVec ++ (m (p + 2)).toBitVec ++ (m (p + 3)).toBitVec

/-- `re_cache` at the index `i`. -/
def reCache (m : Memory) (i : Nat) : BitVec 32 := unaligned32be m (i / 8) <<< (i % 8)

def skipBits (n : Nat) : Get Unit := fun i => some ((), i + n)

def getOneBit (m : Memory) : Get Bool := fun i => some (bitAt m i, i + 1)

/-- `H264_get_bits`: `(unsigned long)re_cache` copies the sign of the `int` into 32 more bits. -/
def getBits (m : Memory) (n : Nat) : Get (BitVec 32) := fun i =>
  some ((((reCache m i).signExtend 64) >>> (32 - n)).setWidth 32, i + n)

def getBitsLong (m : Memory) (n : Nat) : Get (BitVec 32) :=
  if n ≤ 17 then getBits m n
  else do
    let ret ← getBits m 16
    let low ← getBits m (n - 16)
    return (ret <<< (n - 16)) ||| low

/-- `_ff_golomb_vlc_len`. -/
def golombVlcLen : List Nat :=
  [0, 9, 7, 7, 5, 5, 5, 5, 3, 3, 3, 3, 3, 3, 3, 3,
    1, 1, 1, 1, 1, 1, 1, 1, 1, 1, 1, 1, 1, 1, 1, 1]

/-- `_ff_ue_golomb_vlc_code`. -/
def ueGolombVlcCode : List Int :=
  [0, 0, 0, 0, 0, 0, 0, 0, 0, 0, 0, 0, 0, 0, 0, 0, 15, 16, 17, 18, 19, 20, 21, 22, 23, 24, 25, 26, 27, 28, 29, 30,
    7, 7, 7, 7, 8, 8, 8, 8, 9, 9, 9, 9, 10, 10, 10, 10, 11, 11, 11, 11, 12, 12, 12, 12, 13, 13, 13, 13, 14, 14, 14, 14,
    3, 3, 3, 3, 3, 3, 3, 3, 3, 3, 3, 3, 3, 3, 3, 3, 4, 4, 4, 4, 4, 4, 4, 4, 4, 4, 4, 4, 4, 4, 4, 4,
    5, 5, 5, 5, 5, 5, 5, 5, 5, 5, 5, 5, 5, 5, 5, 5, 6, 6, 6, 6, 6, 6, 6, 6, 6, 6, 6, 6, 6, 6, 6, 6,
    1, 1, 1, 1, 1, 1, 1, 1, 1, 1, 1, 1, 1, 1, 1, 1, 1, 1, 1, 1, 1, 1, 1, 1, 1, 1, 1, 1, 1, 1, 1, 1,
    1, 1, 1, 1, 1, 1, 1, 1, 1, 1, 1, 1, 1, 1, 1, 1, 1, 1, 1, 1, 1, 1, 1, 1, 1, 1, 1, 1, 1, 1, 1, 1,
    2, 2, 2, 2, 2, 2, 2, 2, 2, 2, 2, 2, 2, 2, 2, 2, 2, 2, 2, 2, 2, 2, 2, 2, 2, 2, 2, 2, 2, 2, 2, 2,
    2, 2, 2, 2, 2, 2, 2, 2, 2, 2, 2, 2, 2, 2, 2, 2, 2, 2, 2, 2, 2, 2, 2, 2, 2, 2, 2, 2, 2, 2, 2, 2]

/-- `ff_se_golomb_vlc_code_`. -/
def seGolombVlcCode : List Int :=
  [0, 0, 0, 0, 0, 0, 0, 0, 0, 0, 0, 0, 0, 0, 0, 0, 8, -8, 9, -9, 10, -10, 11, -11, 12, -12, 13, -13, 14, -14, 15, -15,
    4, 4, 4, 4, -4, -4, -4, -4, 5, 5, 5, 5, -5, -5, -5, -5, 6, 6, 6, 6, -6, -6, -6, -6, 7, 7, 7, 7, -7, -7, -7, -7,
    2, 2, 2, 2, 2, 2, 2, 2, 2, 2, 2, 2, 2, 2, 2, 2, -2, -2, -2, -2, -2, -2, -2, -2, -2, -2, -2, -2, -2, -2, -2, -2,
    3, 3, 3, 3, 3, 3, 3, 3, 3, 3, 3, 3, 3, 3, 3, 3, -3, -3, -3, -3, -3, -3, -3, -3, -3, -3, -3, -3, -3, -3, -3, -3,
    1, 1, 1, 1, 1, 1, 1, 1, 1, 1, 1, 1, 1, 1, 1, 1, 1, 1, 1, 1, 1, 1, 1, 1, 1, 1, 1, 1, 1, 1, 1, 1,
    1, 1, 1, 1, 1, 1, 1, 1, 1, 1, 1, 1, 1, 1, 1, 1, 1, 1, 1, 1, 1, 1, 1, 1, 1, 1, 1, 1, 1, 1, 1, 1,
    -1, -1, -1, -1, -1, -1, -1, -1, -1, -1, -1, -1, -1, -1, -1, -1, -1, -1, -1, -1, -1, -1, -1, -1, -1, -1, -1, -1, -1, -1, -1, -1,
    -1, -1, -1, -1, -1, -1, -1, -1, -1, -1, -1, -1, -1, -1, -1, -1, -1, -1, -1, -1, -1, -1, -1, -1, -1, -1, -1, -1, -1, -1, -1, -1]

/-- `ff_log2_table`. -/
def log2Table : List Nat :=
  [0, 1, 2, 2, 3, 3, 3, 3, 4, 4, 4, 4, 4, 4, 4, 4, 5, 5, 5, 5, 5, 5, 5, 5, 5, 5, 5, 5, 5, 5, 5, 5,
    6, 6, 6, 6, 6, 6, 6, 6, 6, 6, 6, 6, 6, 6, 6, 6, 6, 6, 6, 6, 6, 6, 6, 6, 6, 6, 6, 6, 6, 6, 6, 6,
    7, 7, 7, 7, 7, 7, 7, 7, 7, 7, 7, 7, 7, 7, 7, 7, 7, 7, 7, 7, 7, 7, 7, 7, 7, 7, 7, 7, 7, 7, 7, 7,
    7, 7, 7, 7, 7, 7, 7, 7, 7, 7, 7, 7, 7, 7, 7, 7, 7, 7, 7, 7, 7, 7, 7, 7, 7, 7, 7, 7, 7, 7, 7, 7]

/-- `H264_av_log2`. -/
def avLog2 (v : Nat) : Nat :=
  if v &&& 0xffff0000 ≠ 0 then
    let v := v >>> 16
    if v &&& 0xff00 ≠ 0 then 24 + log2Table.getD (v >>> 8 >>> 1) 0
    else 16 + log2Table.getD (v >>> 1) 0
  else if v &&& 0xff00 ≠ 0 then 8 + log2Table.getD (v >>> 8 >>> 1) 0
  else log2Table.getD (v >>> 1) 0

/-- The two Exp-Golomb readers: `short` for the codes that are looked up, `long` for the others. -/
def getGolomb (short : List Int) (long : Nat → Int) (m : Memory) : Get Int := fun i =>
  let buf := (reCache m i).toNat
  if 2 ^ 27 ≤ buf then
    let buf := buf >>> (32 - 9)
    some (if buf < 256 then short.getD buf 0 else 0, i + golombVlcLen.getD (buf >>> 4) 0)
  else
    let log : Int := 2 * avLog2 buf - 31
    -- a shift by a negative number is undefined
    if log < 0 then none else some (long (buf >>> log.toNat), i + (32 - log).toNat)

/-- `H264_get_ue_golomb`. -/
def getUeGolomb : Memory → Get Int := getGolomb ueGolombVlcCode fun buf => buf - 1

/-- `H264_get_se_golomb`. -/
def getSeGolomb : Memory → Get Int :=
  getGolomb seGolombVlcCode fun buf => if buf % 2 = 1 then -(buf / 2 : Nat) else (buf / 2 : Nat)

/-! ## What the 32 bits are -/

variable {m : Memory} {i j n v : Nat}

theorem getMsbD_unaligned32be (m : Memory) (p : Nat) (h : j < 32) :
    (unaligned32be m p).getMsbD j = (m (p + j / 8)).toBitVec.getMsbD (j % 8) := by
  unfold unaligned32be
  have hcases : j / 8 = 0 ∨ j / 8 = 1 ∨ j / 8 = 2 ∨ j / 8 = 3 := by omega
  rcases hcases with hq | hq | hq | hq
  · have hj : j % 8 = j := by omega
    rw [hq, hj]
    simp only [BitVec.getMsbD_append]
    rw [if_neg (by omega), if_neg (by omega), if_neg (by omega), Nat.add_zero]
  · have hj : j % 8 = j - 8 := by omega
    rw [hq, hj]
    simp only [BitVec.getMsbD_append]
    rw [if_neg (by omega), if_neg (by omega), if_pos (by omega)]
  · have hj : j % 8 = j - 16 := by omega
    rw [hq, hj]
    simp only [BitVec.getMsbD_append]
    rw [if_neg (by omega), if_pos (by omega)]
  · have hj : j % 8 = j - 24 := by omega
    rw [hq, hj]
    simp only [BitVec.getMsbD_append]
    rw [if_pos (by omega)]

theorem getMsbD_reCache (h : j + i % 8 < 32) : (reCache m i).getMsbD j = bitAt m (i + j) := by
  have hq : i / 8 + (j + i % 8) / 8 = (i + j) / 8 := by omega
  have hr : (j + i % 8) % 8 = (i + j) % 8 := by omega
  rw [reCache, BitVec.getMsbD_shiftLeft, getMsbD_unaligned32be m _ h, hq, hr, bitAt]

/-- The first bits of the 32 are those of the buffer. -/
theorem reCache_top (h : n + i % 8 ≤ 32) :
    (reCache m i).toNat / 2 ^ (32 - n) = value (window (bitAt m) i n) := by
  induction n with
  | zero => exact Nat.div_eq_of_lt (reCache m i).isLt
  | succ n ih =>
    have hbit : bitAt m (i + n) = (reCache m i).toNat.testBit (31 - n) := by
      rw [← getMsbD_reCache (by omega), BitVec.getMsbD, BitVec.getLsbD]
      simp only [decide_eq_true (show n < 32 by omega), Bool.true_and]
    have hhalf : (reCache m i).toNat / 2 ^ (32 - n) = (reCache m i).toNat / 2 ^ (31 - n) / 2 := by
      rw [Nat.div_div_eq_div_mul, ← Nat.pow_succ]
      congr 2
      omega
    have hshift : 32 - (n + 1) = 31 - n := by omega
    rw [window_succ, value_snoc, ← ih (by omega), hbit, Nat.toNat_testBit, hhalf, hshift]
    omega

/-! ## Logarithms -/

theorem mask_ne_zero_iff {a b : Nat} (h : v < 2 ^ (a + b)) :
    v &&& ((2 ^ b - 1) <<< a) ≠ 0 ↔ 2 ^ a ≤ v := by
  have hshift : (v &&& ((2 ^ b - 1) <<< a)) >>> a = v >>> a := by
    rw [Nat.shiftRight_and_distrib, Nat.shiftLeft_shiftRight, Nat.and_two_pow_sub_one_eq_mod,
      Nat.mod_eq_of_lt]
    rw [Nat.shiftRight_eq_div_pow, Nat.div_lt_iff_lt_mul (Nat.two_pow_pos a), ← Nat.pow_add,
      Nat.add_comm b]
    exact h
  constructor
  · intro hne
    by_contra hlt
    apply hne
    apply Nat.eq_of_testBit_eq
    intro j
    rw [Nat.testBit_and, Nat.testBit_shiftLeft, Nat.zero_testBit]
    by_cases hj : a ≤ j
    · have hzero : v.testBit j = false := Nat.testBit_lt_two_pow
        (Nat.lt_of_lt_of_le (Nat.not_le.1 hlt) (Nat.pow_le_pow_right Nat.two_pos hj))
      rw [hzero, Bool.false_and]
    · simp [hj]
  · intro hle hzero
    rw [hzero, Nat.zero_shiftRight] at hshift
    have := Nat.div_pos hle (Nat.two_pow_pos a)
    rw [Nat.shiftRight_eq_div_pow] at hshift
    omega

theorem log2_shiftRight {a : Nat} (h : 2 ^ a ≤ v) : a + (v >>> a).log2 = v.log2 := by
  have hpos : v >>> a ≠ 0 := by
    rw [Nat.shiftRight_eq_div_pow]
    have := Nat.div_pos h (Nat.two_pow_pos a)
    omega
  obtain ⟨hle, hlt⟩ := (Nat.log2_eq_iff hpos).1 rfl
  rw [Nat.shiftRight_eq_div_pow] at hle hlt ⊢
  refine ((Nat.log2_eq_iff (by have := Nat.two_pow_pos a; omega)).2 ⟨?_, ?_⟩).symm
  · rw [Nat.le_div_iff_mul_le (Nat.two_pow_pos a), ← Nat.pow_add, Nat.add_comm] at hle
    exact hle
  · rw [Nat.div_lt_iff_lt_mul (Nat.two_pow_pos a), ← Nat.pow_add] at hlt
    rwa [Nat.add_assoc, Nat.add_comm a]

theorem log2Table_eq : ∀ v < 256, v ≠ 0 → log2Table.getD (v >>> 1) 0 = v.log2 := by
  decide +kernel

/-- The lower half of the search. -/
theorem log2_half (h : v < 2 ^ 16) (hne : v ≠ 0) :
    (if v &&& 0xff00 ≠ 0 then 8 + log2Table.getD (v >>> 8 >>> 1) 0 else log2Table.getD (v >>> 1) 0) =
      v.log2 := by
  have hmid : v &&& 0xff00 ≠ 0 ↔ 2 ^ 8 ≤ v := mask_ne_zero_iff (a := 8) (b := 8) h
  split
  · rename_i hc
    have hle := hmid.1 hc
    have hbyte : v >>> 8 < 256 ∧ v >>> 8 ≠ 0 := by
      rw [Nat.shiftRight_eq_div_pow]
      omega
    rw [← log2_shiftRight hle, log2Table_eq _ hbyte.1 hbyte.2]
  · rename_i hc
    exact log2Table_eq v (Nat.not_le.1 fun hle => hc (hmid.2 hle)) hne

theorem avLog2_eq (h : v < 2 ^ 32) (hne : v ≠ 0) : avLog2 v = v.log2 := by
  have hhigh : v &&& 0xffff0000 ≠ 0 ↔ 2 ^ 16 ≤ v := mask_ne_zero_iff (a := 16) (b := 16) h
  unfold avLog2
  split
  · rename_i hc
    have hle := hhigh.1 hc
    have hword : v >>> 16 < 2 ^ 16 ∧ v >>> 16 ≠ 0 := by
      rw [Nat.shiftRight_eq_div_pow]
      omega
    rw [← log2_shiftRight hle, ← log2_half hword.1 hword.2]
    simp only
    split <;> omega
  · rename_i hc
    exact log2_half (Nat.not_le.1 fun hle => hc (hhigh.2 hle)) hne

/-! ## Exp-Golomb codes -/

/-- The integer that a code number stands for. -/
def seValue (v : Nat) : Int := if v % 2 = 1 then ((v + 1) / 2 : Nat) else -(v / 2 : Nat)

theorem seValue_codeNum (x : Int) : seValue (codeNum x) = x := by
  unfold seValue codeNum
  split <;> split <;> omega

/-- The code number of the code that nine bits begin with, where it lies in them. -/
def nineBits (b : Nat) : Nat := b >>> (2 * b.log2 - 8) - 1

/-- The two ways of a reader give what `dec` makes of a code number. -/
structure Decodes (short : List Int) (long : Nat → Int) (dec : Nat → Int) : Prop where
  table : short.drop 16 = (List.range' 16 240).map fun b => dec (nineBits b)
  zero : dec 0 = 0
  long : ∀ v, long (v + 1) = dec v

theorem Decodes.short {short : List Int} {long dec : Nat → Int} (h : Decodes short long dec)
    {b : Nat} (hb : b < 512) (hle : 16 ≤ b) :
    (if b < 256 then short.getD b 0 else 0) = dec (nineBits b) := by
  split
  · rename_i hlt
    have hget := congrArg (fun l => l[b - 16]?) h.table
    simp only [List.getElem?_drop, List.getElem?_map] at hget
    rw [Nat.add_sub_cancel' hle, List.getElem?_range' (by omega), Nat.one_mul,
      Nat.add_sub_cancel' hle] at hget
    rw [List.getD_eq_getElem?_getD, hget]
    rfl
  · -- the code is its first bit
    have hlog : b.log2 = 8 := (Nat.log2_eq_iff (by omega)).2 (by omega)
    have hone : b >>> 8 = 1 := by
      rw [Nat.shiftRight_eq_div_pow]
      omega
    rw [nineBits, hlog, hone, h.zero]

theorem golombVlcLen_eq : ∀ b < 512, 16 ≤ b →
    golombVlcLen.getD (b >>> 4) 0 = 17 - 2 * b.log2 := by
  decide +kernel

theorem ue_decodes : Decodes ueGolombVlcCode (fun buf => buf - 1) fun v => v :=
  ⟨by decide +kernel, rfl, fun v => by simp⟩

theorem se_decodes : Decodes seGolombVlcCode
    (fun buf => if buf % 2 = 1 then -(buf / 2 : Nat) else (buf / 2 : Nat)) seValue := by
  refine ⟨by decide +kernel, rfl, fun v => ?_⟩
  unfold seValue
  split <;> split <;> omega

/-- The bits of a code of `len` bits at `i` that are not in the 32. -/
def lost (i len : Nat) : Nat := i % 8 + len - 32

/-- The code number that is read at `i`: the bits that are lost are zeros. -/
def readAs (i v : Nat) : Nat :=
  (v + 1) / 2 ^ lost i (ue v).length * 2 ^ lost i (ue v).length - 1

/-- What the 32 bits have behind the end of their bytes is zero. -/
theorem reCache_eq_mul (m : Memory) (i : Nat) :
    (reCache m i).toNat = (reCache m i).toNat / 2 ^ (i % 8) * 2 ^ (i % 8) := by
  have hdvd : 2 ^ (i % 8) ∣ (reCache m i).toNat := by
    rw [reCache, BitVec.toNat_shiftLeft, Nat.shiftLeft_eq]
    exact (Nat.dvd_mod_iff (Nat.pow_dvd_pow 2 (by omega))).2 (Nat.dvd_mul_left ..)
  exact (Nat.div_mul_cancel hdvd).symm

theorem length_ue_le (h : v + 1 < 2 ^ 16) : (ue v).length ≤ 31 := by
  have hk : (v + 1).log2 < 16 := (Nat.log2_lt (by omega)).2 h
  rw [length_ue]
  omega

theorem readAs_succ (h : v + 1 < 2 ^ 16) :
    readAs i v + 1 = (v + 1) / 2 ^ lost i (ue v).length * 2 ^ lost i (ue v).length := by
  have hle : 2 ^ (v + 1).log2 ≤ v + 1 := Nat.log2_self_le (by omega)
  have hlost : lost i (ue v).length ≤ (v + 1).log2 := by
    have := length_ue_le h
    rw [length_ue] at this ⊢
    unfold lost
    omega
  have hpos := Nat.div_pos (Nat.le_trans (Nat.pow_le_pow_right Nat.two_pos hlost) hle)
    (Nat.two_pow_pos (lost i (ue v).length))
  have := Nat.mul_pos hpos (Nat.two_pow_pos (lost i (ue v).length))
  unfold readAs
  omega

theorem reCache_code (h : v + 1 < 2 ^ 16) (hat : At (bitAt m) i (ue v)) :
    (reCache m i).toNat / 2 ^ (32 - (ue v).length) = readAs i v + 1 := by
  have hlen := length_ue_le h
  rw [readAs_succ h]
  by_cases hfit : (ue v).length + i % 8 ≤ 32
  · have hlost : lost i (ue v).length = 0 := by
      unfold lost
      omega
    rw [reCache_top hfit, hat, value_ue, hlost, Nat.pow_zero, Nat.div_one, Nat.mul_one]
  · -- the bits that are there are the whole of the 32 bits before the zeros
    have hn : 32 - i % 8 ≤ (ue v).length := by omega
    have htop : (reCache m i).toNat / 2 ^ (i % 8) = (v + 1) / 2 ^ lost i (ue v).length := by
      have hshift : 32 - (32 - i % 8) = i % 8 := by omega
      have := reCache_top (m := m) (i := i) (n := 32 - i % 8) (by omega)
      rw [hshift, hat.take hn, value_take, value_ue] at this
      rw [this, lost]
      congr 2
      omega
    have hexp : i % 8 = lost i (ue v).length + (32 - (ue v).length) := by
      unfold lost
      omega
    rw [reCache_eq_mul, htop, hexp, Nat.pow_add, ← Nat.mul_assoc,
      Nat.mul_div_cancel _ (Nat.two_pow_pos _)]

theorem log2_reCache (h : v + 1 < 2 ^ 16) (hat : At (bitAt m) i (ue v)) :
    (reCache m i).toNat.log2 = 31 - (v + 1).log2 := by
  have hk : (v + 1).log2 < 16 := (Nat.log2_lt (by omega)).2 h
  have htop := reCache_top (m := m) (i := i) (n := (v + 1).log2 + 1) (by omega)
  have hn : (v + 1).log2 + 1 ≤ (ue v).length := by
    rw [length_ue]
    omega
  have hshift : 32 - ((v + 1).log2 + 1) = 31 - (v + 1).log2 := by omega
  rw [hat.take hn, value_take_ue, hshift] at htop
  have hle : 2 ^ (31 - (v + 1).log2) ≤ (reCache m i).toNat := Nat.le_of_not_lt fun hlt => by
    rw [Nat.div_eq_of_lt hlt] at htop
    omega
  have := log2_shiftRight hle
  rw [Nat.shiftRight_eq_div_pow, htop] at this
  exact this.symm

theorem reCache_ne_zero (h : v + 1 < 2 ^ 16) (hat : At (bitAt m) i (ue v)) :
    (reCache m i).toNat ≠ 0 := by
  have hk : (v + 1).log2 < 16 := (Nat.log2_lt (by omega)).2 h
  have hlog := log2_reCache h hat
  intro hz
  rw [hz, Nat.log2_zero] at hlog
  omega

section Reading

variable {short : List Int} {long dec : Nat → Int}

/-- A code of up to nine bits is looked up. -/
theorem getGolomb_short (hd : Decodes short long dec) (hk : (v + 1).log2 < 5)
    (h : v + 1 < 2 ^ 16) (hat : At (bitAt m) i (ue v)) :
    getGolomb short long m i = some (dec (readAs i v), i + (2 * (v + 1).log2 + 1)) := by
  have hcode := reCache_code h hat
  have hlog := log2_reCache h hat
  obtain ⟨hle, -⟩ := (Nat.log2_eq_iff (reCache_ne_zero h hat)).1 hlog
  have hbig : 2 ^ 27 ≤ (reCache m i).toNat :=
    Nat.le_trans (Nat.pow_le_pow_right Nat.two_pos (by omega)) hle
  have hb : (reCache m i).toNat >>> (32 - 9) < 512 ∧ 16 ≤ (reCache m i).toNat >>> (32 - 9) := by
    rw [Nat.shiftRight_eq_div_pow]
    have := (reCache m i).isLt
    omega
  have hblog : ((reCache m i).toNat >>> (32 - 9)).log2 = 8 - (v + 1).log2 := by
    have : 32 - 9 + ((reCache m i).toNat >>> (32 - 9)).log2 = _ := log2_shiftRight (by omega)
    rw [hlog] at this
    omega
  have hbcode : ((reCache m i).toNat >>> (32 - 9)) >>> (2 * (8 - (v + 1).log2) - 8) =
      readAs i v + 1 := by
    rw [← Nat.shiftRight_add, Nat.shiftRight_eq_div_pow, ← hcode, length_ue]
    congr 2
    omega
  unfold getGolomb
  simp only [if_pos hbig]
  rw [hd.short hb.1 hb.2, golombVlcLen_eq _ hb.1 hb.2, nineBits, hblog, hbcode,
    Nat.add_sub_cancel]
  congr 2
  omega

/-- A longer one is shifted out. -/
theorem getGolomb_long (hd : Decodes short long dec) (hk : 5 ≤ (v + 1).log2)
    (h : v + 1 < 2 ^ 16) (hat : At (bitAt m) i (ue v)) :
    getGolomb short long m i = some (dec (readAs i v), i + (2 * (v + 1).log2 + 1)) := by
  have hk' : (v + 1).log2 < 16 := (Nat.log2_lt (by omega)).2 h
  have hcode := reCache_code h hat
  have hlog := log2_reCache h hat
  have hne := reCache_ne_zero h hat
  obtain ⟨-, hlt⟩ := (Nat.log2_eq_iff hne).1 hlog
  have hsmall : ¬2 ^ 27 ≤ (reCache m i).toNat := by
    refine Nat.not_le.2 (Nat.lt_of_lt_of_le hlt (Nat.pow_le_pow_right Nat.two_pos ?_))
    omega
  have hav : (2 * avLog2 (reCache m i).toNat - 31 : Int) = (31 - 2 * (v + 1).log2 : Nat) := by
    rw [avLog2_eq (reCache m i).isLt hne, hlog]
    omega
  have hshift : (reCache m i).toNat >>> (31 - 2 * (v + 1).log2) = readAs i v + 1 := by
    rw [Nat.shiftRight_eq_div_pow, ← hcode, length_ue]
    congr 2
    omega
  unfold getGolomb
  simp only [if_neg hsmall]
  rw [hav, if_neg (by omega), Int.toNat_natCast, hshift, hd.long]
  congr 2
  omega

theorem getGolomb_reads (hd : Decodes short long dec) (h : v + 1 < 2 ^ 16) :
    Reads (bitAt m) (getGolomb short long m) i (ue v) (dec (readAs i v)) := by
  intro hat
  rw [length_ue]
  by_cases hk : (v + 1).log2 < 5
  · exact getGolomb_short hd hk h hat
  · exact getGolomb_long hd (Nat.le_of_not_lt hk) h hat

/-- What is read is a code: 16 zeros, and the shift is by a negative number. -/
theorem getGolomb_some (hd : Decodes short long dec) {x : Int}
    (h : getGolomb short long m i = some (x, j)) :
    ∃ v, v + 1 < 2 ^ 16 ∧ At (bitAt m) i (ue v) ∧ x = dec (readAs i v) ∧ j = i + (ue v).length := by
  by_cases hone : ∃ k < 16, bitAt m (i + k) = true
  · obtain ⟨v, hlog, hat⟩ := exists_ue hone
    have hlt : v + 1 < 2 ^ 16 := (Nat.log2_lt (by omega)).1 hlog
    rw [getGolomb_reads hd hlt hat] at h
    injection h with h
    obtain ⟨hx, hj⟩ := Prod.mk.inj h
    exact ⟨v, hlt, hat, hx.symm, hj.symm⟩
  · have hzero : ∀ k < 16, bitAt m (i + k) = false := fun k hk =>
      Bool.eq_false_iff.2 fun h => hone ⟨k, hk, h⟩
    have htop := reCache_top (m := m) (i := i) (n := 16) (by omega)
    rw [window_false hzero, value_replicate_false] at htop
    have hlt : (reCache m i).toNat < 2 ^ 16 := Nat.lt_of_div_eq_zero (by decide) htop
    have hlog : avLog2 (reCache m i).toNat ≤ 15 := by
      by_cases hne : (reCache m i).toNat = 0
      · rw [hne]
        decide
      · rw [avLog2_eq (by omega) hne]
        exact Nat.le_of_lt_succ ((Nat.log2_lt hne).2 hlt)
    unfold getGolomb at h
    simp only [if_neg (show ¬2 ^ 27 ≤ (reCache m i).toNat by omega)] at h
    rw [if_pos (by omega)] at h
    cases h

end Reading

/-- A code that is not cut is read. -/
theorem readAs_eq (h : 2 ^ lost i (ue v).length ∣ v + 1) : readAs i v = v := by
  rw [readAs, Nat.div_mul_cancel h, Nat.add_sub_cancel]

theorem lost_of_lt (h : v + 1 < 2 ^ 13) : lost i (ue v).length = 0 := by
  have hk : (v + 1).log2 < 13 := (Nat.log2_lt (by omega)).2 h
  rw [lost, length_ue]
  omega

theorem getUeGolomb_reads (h : v + 1 < 2 ^ 16) :
    Reads (bitAt m) (getUeGolomb m) i (ue v) (readAs i v) :=
  getGolomb_reads ue_decodes h

theorem getUeGolomb_some {x : Int} (h : getUeGolomb m i = some (x, j)) :
    ∃ v, v + 1 < 2 ^ 16 ∧ At (bitAt m) i (ue v) ∧ x = readAs i v ∧ j = i + (ue v).length :=
  getGolomb_some ue_decodes h

theorem getUeGolomb_reads_small (h : v + 1 < 2 ^ 13) :
    Reads (bitAt m) (getUeGolomb m) i (ue v) v := by
  have := getUeGolomb_reads (m := m) (i := i) (v := v) (by omega)
  rwa [readAs_eq (by rw [lost_of_lt h]; exact Nat.one_dvd _)] at this

theorem getSeGolomb_skips {x : Int} (h : codeNum x + 1 < 2 ^ 16) :
    ∃ a, Reads (bitAt m) (getSeGolomb m) i (se x) a :=
  ⟨_, getGolomb_reads se_decodes h⟩

theorem getSeGolomb_reads_small {x : Int} (h : codeNum x + 1 < 2 ^ 13) :
    Reads (bitAt m) (getSeGolomb m) i (se x) x := by
  have := getGolomb_reads (m := m) (i := i) (v := codeNum x) se_decodes (by omega)
  rwa [readAs_eq (by rw [lost_of_lt h]; exact Nat.one_dvd _), seValue_codeNum] at this

theorem length_ue_le_iff (v : Nat) : (ue v).length ≤ 25 ↔ v ≤ 8190 := by
  have hlog : (v + 1).log2 < 13 ↔ v + 1 < 2 ^ 13 := Nat.log2_lt (by omega)
  rw [length_ue]
  omega

/-- **Both readers** go behind a code of up to 25 bits and return what it stands for; these are the codes
of the numbers up to 8190. -/
theorem golomb_reads (m : Memory) (i v : Nat) : ((ue v).length ≤ 25 ↔ v ≤ 8190) ∧
    ((ue v).length ≤ 25 → At (bitAt m) i (ue v) →
      getUeGolomb m i = some ((v : Int), i + (ue v).length) ∧
      getSeGolomb m i = some (seValue v, i + (ue v).length)) := by
  refine ⟨length_ue_le_iff v, fun hlen hat => ?_⟩
  have hv := (length_ue_le_iff v).1 hlen
  have hread : readAs i v = v :=
    readAs_eq (by rw [lost_of_lt (by omega)]; exact Nat.one_dvd _)
  have hue := getGolomb_reads (m := m) (i := i) (v := v) ue_decodes (by omega) hat
  have hse := getGolomb_reads (m := m) (i := i) (v := v) se_decodes (by omega) hat
  rw [hread] at hue hse
  exact ⟨hue, hse⟩

/-- The code of 31, three bits behind the beginning of a byte. -/
theorem golomb_reads_31 :
    getUeGolomb (fun p => if p = 1 then 128 else 0) 3 = some (31, 14) ∧
      getSeGolomb (fun p => if p = 1 then 128 else 0) 3 = some (16, 14) :=
  (golomb_reads (fun p => if p = 1 then 128 else 0) 3 31).2 (by decide) (by unfold At; decide)

/-! ## Fields -/

variable {bs : List Bool}

theorem skipBits_reads (hn : bs.length = n) : Reads (bitAt m) (skipBits n) i bs () := by
  intro _
  rw [skipBits, hn]

theorem getOneBit_reads (b : Bool) : Reads (bitAt m) (getOneBit m) i [b] b := by
  intro hat
  have hbit : bitAt m i = b := by
    simpa [At, window] using hat
  rw [getOneBit, hbit]
  rfl

/-- The highest bits of an `int`, shifted down as those of a `long`, are signed. -/
theorem signExtend_shift (x : BitVec 32) (hpos : 0 < n) (h : n ≤ 32) :
    ((x.signExtend 64) >>> (32 - n)).setWidth 32 =
      (BitVec.ofNat n (x.toNat / 2 ^ (32 - n))).signExtend 32 := by
  have hbit : ∀ j < n, (BitVec.ofNat n (x.toNat / 2 ^ (32 - n))).getLsbD j =
      x.getLsbD (32 - n + j) := by
    intro j hj
    rw [BitVec.getLsbD_ofNat, decide_eq_true hj, Bool.true_and, ← Nat.shiftRight_eq_div_pow,
      Nat.testBit_shiftRight, BitVec.getLsbD]
  apply BitVec.eq_of_getLsbD_eq
  intro j hj
  rw [BitVec.getLsbD_setWidth, BitVec.getLsbD_ushiftRight, BitVec.getLsbD_signExtend,
    BitVec.getLsbD_signExtend, decide_eq_true hj, decide_eq_true (show 32 - n + j < 64 by omega),
    Bool.true_and, Bool.true_and, Bool.true_and]
  by_cases hjn : j < n
  · rw [if_pos (by omega), if_pos hjn, hbit j hjn]
  · have hlast : 32 - n + (n - 1) = 32 - 1 := by omega
    rw [if_neg (by omega), if_neg hjn, BitVec.msb_eq_getLsbD_last, BitVec.msb_eq_getLsbD_last,
      hbit _ (by omega), hlast]

/-- A field is read as a signed one. -/
theorem getBits_reads (hn : bs.length = n) (hpos : 0 < n) (h : n ≤ 24) :
    Reads (bitAt m) (getBits m n) i bs ((BitVec.ofNat n (value bs)).signExtend 32) := by
  intro hat
  have htop : _ = value (window (bitAt m) i n) := reCache_top (by omega)
  rw [← hn, hat, hn] at htop
  rw [getBits, signExtend_shift _ hpos (by omega), htop, hn]

end StreamSwitch.DecSps
