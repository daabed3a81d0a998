import StreamSwitch.FfmpegSender.Golomb

/-!
# Fixed fields

When `H264_get_bits` and `get_bits_long` return the next bits of the buffer, where a `long` has 64
bits and the sign of an `int` is copied into it.
-/

namespace StreamSwitch.DecSps

open Bits

/-- The number that the next `n` bits are. -/
def fieldAt (m : Memory) (i n : Nat) : Nat := value (window (bitAt m) i n)

/-- The reader returns the next `n` bits, as a number without a sign, and is behind them. -/
def ReadsField (read : Memory → Nat → Get (BitVec 32)) (m : Memory) (i n : Nat) : Prop :=
  ∃ x, read m n i = some (x, i + n) ∧ x.toNat = fieldAt m i n

/-- Two fields, one behind the other, are read as they are and as the parts of one. -/
structure ReadsTogether (read : Memory → Nat → Get (BitVec 32)) (m : Memory) (i n k : Nat) :
    Prop where
  first : ReadsField read m i n
  second : ReadsField read m (i + n) k
  whole : ReadsField read m i (n + k)
  split : ∀ x y z, read m n i = some (x, i + n) → read m k (i + n) = some (y, i + n + k) →
    read m (n + k) i = some (z, i + (n + k)) →
    z.toNat = x.toNat * 2 ^ k + y.toNat ∧ y.toNat < 2 ^ k

/-- No sign is copied over what is read: for one `int` of up to 17 bits, for the two that are put
together in a longer field, and for the 32 bits where the sign of the first one is shifted out. -/
def Unsigned (m : Memory) (i n : Nat) : Prop :=
  if n ≤ 17 then bitAt m i = false
  else if n < 32 then bitAt m i = false ∧ bitAt m (i + 16) = false
  else bitAt m (i + 16) = false ∨ fieldAt m i 16 = 2 ^ 16 - 1

/-! ## The values that are read -/

variable {m : Memory} {i n k : Nat}

theorem fieldAt_lt (m : Memory) (i n : Nat) : fieldAt m i n < 2 ^ n := by
  have := value_lt (window (bitAt m) i n)
  rwa [length_window] at this

theorem fieldAt_add (m : Memory) (i n k : Nat) :
    fieldAt m i (n + k) = fieldAt m i n * 2 ^ k + fieldAt m (i + n) k := by
  unfold fieldAt
  rw [window_add, value_append, length_window]

theorem msb_fieldAt (hpos : 0 < n) : (BitVec.ofNat n (fieldAt m i n)).msb = bitAt m i := by
  obtain ⟨k, rfl⟩ : ∃ k, n = 1 + k := ⟨n - 1, by omega⟩
  have hfirst : fieldAt m i 1 = (bitAt m i).toNat := by
    show value [bitAt m (i + 0)] = _
    rw [Nat.add_zero]
    cases bitAt m i <;> rfl
  have hlt := fieldAt_lt m (i + 1) k
  rw [BitVec.msb_eq_decide, BitVec.toNat_ofNat, Nat.mod_eq_of_lt (fieldAt_lt m i (1 + k)), fieldAt_add,
    hfirst, Nat.add_sub_cancel_left]
  cases bitAt m i with
  | false => simpa using hlt
  | true => simp

/-- A field comes back with its first bit copied into the bits above it. -/
theorem getBits_eq (hpos : 0 < n) (h : n ≤ 25) : ∃ x, getBits m n i = some (x, i + n) ∧
    x.toNat = fieldAt m i n + if bitAt m i then 2 ^ 32 - 2 ^ n else 0 := by
  have htop : (reCache m i).toNat / 2 ^ (32 - n) = fieldAt m i n := reCache_top (by omega)
  have hlt : fieldAt m i n < 2 ^ 32 :=
    Nat.lt_of_lt_of_le (fieldAt_lt m i n) (Nat.pow_le_pow_right Nat.two_pos (by omega))
  refine ⟨(BitVec.ofNat n (fieldAt m i n)).signExtend 32, ?_, ?_⟩
  · rw [getBits, signExtend_shift _ hpos (by omega), htop]
  · rw [BitVec.toNat_signExtend, msb_fieldAt hpos, BitVec.toNat_setWidth, BitVec.toNat_ofNat,
      Nat.mod_eq_of_lt (fieldAt_lt m i n), Nat.mod_eq_of_lt hlt]

theorem two_pow_lt (h : n < 32) : 2 ^ n < 2 ^ 32 := Nat.pow_lt_pow_right (by decide) h

theorem getBits_readsField_iff (hpos : 0 < n) (h : n ≤ 25) :
    ReadsField getBits m i n ↔ bitAt m i = false := by
  obtain ⟨x, hx, hvalue⟩ := getBits_eq (m := m) (i := i) hpos h
  have hlt := two_pow_lt (n := n) (by omega)
  constructor
  · rintro ⟨y, hy, hfield⟩
    rw [hx] at hy
    cases hy
    rw [hvalue] at hfield
    cases hbit : bitAt m i with
    | false => rfl
    | true =>
      rw [hbit, if_pos rfl] at hfield
      omega
  · intro hbit
    refine ⟨x, hx, ?_⟩
    rw [hvalue, hbit]
    rfl

/-! ## Longer fields -/

theorem or_eq_add {a b : Nat} (h : b < 2 ^ k) : a * 2 ^ k ||| b = a * 2 ^ k + b := by
  rw [← Nat.shiftLeft_eq, ← Nat.shiftLeft_add_eq_or_of_lt h]

theorem or_ones {a w : Nat} (h : a < 2 ^ w) : a ||| (2 ^ w - 1) = 2 ^ w - 1 := by
  refine Nat.eq_of_testBit_eq fun j => ?_
  rw [Nat.testBit_or, Nat.testBit_two_pow_sub_one]
  by_cases hj : j < w
  · rw [decide_eq_true hj, Bool.or_true]
  · rw [Nat.testBit_lt_two_pow (Nat.lt_of_lt_of_le h (Nat.pow_le_pow_right Nat.two_pos
      (Nat.le_of_not_lt hj))), Bool.false_or]

/-- Ones above the lower part hide the upper one. -/
theorem or_signed {a b : Nat} (hk : k ≤ 32) (ha : a < 2 ^ (32 - k)) (hb : b < 2 ^ k) :
    a * 2 ^ k ||| (b + (2 ^ 32 - 2 ^ k)) = b + (2 ^ 32 - 2 ^ k) := by
  have hpow : 2 ^ (32 - k) * 2 ^ k = 2 ^ 32 := by
    rw [← Nat.pow_add]
    congr 1
    omega
  have hones : b + (2 ^ 32 - 2 ^ k) = (2 ^ (32 - k) - 1) * 2 ^ k + b := by
    rw [Nat.sub_mul, hpow, Nat.one_mul, Nat.add_comm]
  rw [hones, ← or_eq_add hb, ← Nat.or_assoc, ← Nat.shiftLeft_eq, ← Nat.shiftLeft_eq,
    ← Nat.shiftLeft_or_distrib, or_ones ha]

/-- What the sign of the upper 16 bits leaves above them. -/
theorem signed_mod {a : Nat} (ha : a < 2 ^ 16) (hk : k ≤ 16) :
    (a + (2 ^ 32 - 2 ^ 16)) % 2 ^ (32 - k) = a + (2 ^ (32 - k) - 2 ^ 16) := by
  have hle : 2 ^ 16 ≤ 2 ^ (32 - k) := Nat.pow_le_pow_right Nat.two_pos (by omega)
  have hpow : 2 ^ (32 - k) * (2 ^ k - 1) + 2 ^ (32 - k) = 2 ^ 32 := by
    have hmul : 2 ^ (32 - k) * 2 ^ k = 2 ^ 32 := by
      rw [← Nat.pow_add]
      congr 1
      omega
    rw [Nat.mul_sub, Nat.mul_one, hmul, Nat.sub_add_cancel]
    exact Nat.pow_le_pow_right Nat.two_pos (by omega)
  have hsum : a + (2 ^ 32 - 2 ^ 16) =
      a + (2 ^ (32 - k) - 2 ^ 16) + 2 ^ (32 - k) * (2 ^ k - 1) := by omega
  rw [hsum, Nat.add_mul_mod_self_left, Nat.mod_eq_of_lt (by omega)]

/-- A longer field is put together from two, each with its sign. -/
theorem getBitsLong_eq (hpos : 2 ≤ k) (hk : k ≤ 16) : ∃ x,
    getBitsLong m (16 + k) i = some (x, i + (16 + k)) ∧
      x.toNat = (fieldAt m i 16 + if bitAt m i then 2 ^ 32 - 2 ^ 16 else 0) % 2 ^ (32 - k) * 2 ^ k |||
        (fieldAt m (i + 16) k + if bitAt m (i + 16) then 2 ^ 32 - 2 ^ k else 0) := by
  obtain ⟨ret, hret, hhigh⟩ := getBits_eq (m := m) (i := i) (n := 16) (by decide) (by decide)
  obtain ⟨low, hlow, hvalue⟩ := getBits_eq (m := m) (i := i + 16) (n := k) (by omega) (by omega)
  have hpow : 2 ^ (32 - k) * 2 ^ k = 2 ^ 32 := by
    rw [← Nat.pow_add]
    congr 1
    omega
  refine ⟨ret <<< k ||| low, ?_, ?_⟩
  · unfold getBitsLong
    rw [if_neg (by omega), Nat.add_sub_cancel_left]
    show ((getBits m 16 i).bind fun r => (getBits m k r.2).bind fun l =>
      some (r.1 <<< k ||| l.1, l.2)) = _
    rw [hret, Option.bind_some, hlow, Option.bind_some, Nat.add_assoc]
  · have hshift : ret.toNat * 2 ^ k % 2 ^ 32 = ret.toNat % 2 ^ (32 - k) * 2 ^ k := by
      rw [← hpow, Nat.mul_mod_mul_right]
    rw [BitVec.toNat_or, BitVec.toNat_shiftLeft, Nat.shiftLeft_eq, hshift, hhigh, hvalue]

/-- Where the lower part has no sign, the upper one must have none, unless it is shifted out. -/
theorem joined_eq_iff (hk : k ≤ 16) {a b : Nat} {s : Bool} (ha : a < 2 ^ 16) (hb : b < 2 ^ k) :
    (a + if s then 2 ^ 32 - 2 ^ 16 else 0) % 2 ^ (32 - k) * 2 ^ k ||| b = a * 2 ^ k + b ↔
      s = false ∨ k = 16 := by
  have hle : 2 ^ 16 ≤ 2 ^ (32 - k) := Nat.pow_le_pow_right Nat.two_pos (by omega)
  rw [or_eq_add hb, Nat.add_right_cancel_iff, Nat.mul_right_cancel_iff (Nat.two_pow_pos k)]
  cases s with
  | false =>
    rw [if_neg Bool.false_ne_true, Nat.add_zero, Nat.mod_eq_of_lt (Nat.lt_of_lt_of_le ha hle)]
    exact ⟨fun _ => Or.inl rfl, fun _ => rfl⟩
  | true =>
    rw [if_pos rfl, signed_mod ha hk]
    constructor
    · intro h
      have hpow : 2 ^ (32 - k) = 2 ^ 16 := by omega
      have := Nat.pow_right_injective (Nat.le_refl 2) hpow
      exact Or.inr (by omega)
    · rintro (h | rfl)
      · cases h
      · rfl

/-- Where the lower part has a sign, it stands for the upper part. -/
theorem hidden_eq_iff (hk : k ≤ 16) {a b A : Nat} (ha : a < 2 ^ 16) (hA : A < 2 ^ (32 - k))
    (hb : b < 2 ^ k) :
    A * 2 ^ k ||| (b + (2 ^ 32 - 2 ^ k)) = a * 2 ^ k + b ↔ k = 16 ∧ a = 2 ^ 16 - 1 := by
  rw [or_signed (by omega) hA hb, Nat.add_comm b, Nat.add_right_cancel_iff]
  constructor
  · intro h
    have hk16 : k = 16 := by
      by_contra hne
      have hsmall : 2 ^ k ≤ 2 ^ 15 := Nat.pow_le_pow_right Nat.two_pos (by omega)
      have hmul : a * 2 ^ k ≤ (2 ^ 16 - 1) * 2 ^ 15 := Nat.mul_le_mul (by omega) hsmall
      omega
    subst hk16
    exact ⟨rfl, by omega⟩
  · rintro ⟨rfl, rfl⟩
    rfl

theorem getBitsLong_readsField_iff (hpos : 0 < n) (h : n ≤ 32) :
    ReadsField getBitsLong m i n ↔ Unsigned m i n := by
  unfold Unsigned
  by_cases hshort : n ≤ 17
  · have heq : getBitsLong m n = getBits m n := if_pos hshort
    rw [if_pos hshort, ← getBits_readsField_iff hpos (by omega)]
    unfold ReadsField
    rw [heq]
  · obtain ⟨k, rfl⟩ : ∃ k, n = 16 + k := ⟨n - 16, by omega⟩
    obtain ⟨x, hx, hvalue⟩ := getBitsLong_eq (m := m) (i := i) (k := k) (by omega) (by omega)
    have ha := fieldAt_lt m i 16
    have hb := fieldAt_lt m (i + 16) k
    have hfield : ReadsField getBitsLong m i (16 + k) ↔
        x.toNat = fieldAt m i 16 * 2 ^ k + fieldAt m (i + 16) k := by
      rw [← fieldAt_add]
      constructor
      · rintro ⟨y, hy, hyvalue⟩
        rw [hx] at hy
        cases hy
        exact hyvalue
      · intro hxvalue
        exact ⟨x, hx, hxvalue⟩
    rw [if_neg hshort, hfield, hvalue]
    cases hlow : bitAt m (i + 16) with
    | false =>
      rw [if_neg Bool.false_ne_true, Nat.add_zero, joined_eq_iff (by omega) ha hb]
      by_cases hfull : 16 + k < 32
      · rw [if_pos hfull]
        exact ⟨fun hs => ⟨hs.resolve_right (by omega), rfl⟩, fun hs => Or.inl hs.1⟩
      · rw [if_neg hfull]
        exact ⟨fun _ => Or.inl rfl, fun _ => Or.inr (by omega)⟩
    | true =>
      rw [if_pos rfl, hidden_eq_iff (by omega) ha (Nat.mod_lt _ (Nat.two_pow_pos _)) hb]
      by_cases hfull : 16 + k < 32
      · rw [if_pos hfull]
        refine ⟨fun hs => absurd hs.1 (by omega), fun hs => ?_⟩
        cases hs.2
      · rw [if_neg hfull]
        refine ⟨fun hs => Or.inr hs.2, fun hs => ⟨by omega, hs.resolve_left ?_⟩⟩
        rintro ⟨⟩

/-! ## Two fields -/

/-- Parts of a field that are read as they are make up the field. -/
theorem readsTogether_iff {read : Memory → Nat → Get (BitVec 32)} :
    ReadsTogether read m i n k ↔
      ReadsField read m i n ∧ ReadsField read m (i + n) k ∧ ReadsField read m i (n + k) := by
  constructor
  · intro h
    exact ⟨h.first, h.second, h.whole⟩
  · rintro ⟨⟨x, hx, hxvalue⟩, ⟨y, hy, hyvalue⟩, ⟨z, hz, hzvalue⟩⟩
    refine ⟨⟨x, hx, hxvalue⟩, ⟨y, hy, hyvalue⟩, ⟨z, hz, hzvalue⟩, ?_⟩
    intro x' y' z' hx' hy' hz'
    rw [hx] at hx'
    rw [hy] at hy'
    rw [hz] at hz'
    cases hx'
    cases hy'
    cases hz'
    rw [hxvalue, hyvalue, hzvalue]
    exact ⟨fieldAt_add m i n k, fieldAt_lt m (i + n) k⟩

/-- **Fixed fields** are read as they are exactly when no sign is copied over them. -/
theorem fixed_fields_iff (m : Memory) (i : Nat) :
    (∀ n, 0 < n → n ≤ 25 → (ReadsField getBits m i n ↔ bitAt m i = false)) ∧
    (∀ n, 0 < n → n ≤ 32 → (ReadsField getBitsLong m i n ↔ Unsigned m i n)) ∧
    (∀ n k, 0 < n → 0 < k → n + k ≤ 25 → (ReadsTogether getBits m i n k ↔
      bitAt m i = false ∧ bitAt m (i + n) = false)) ∧
    ∀ n k, 0 < n → 0 < k → n + k ≤ 32 → (ReadsTogether getBitsLong m i n k ↔
      Unsigned m i n ∧ Unsigned m (i + n) k ∧ Unsigned m i (n + k)) := by
  refine ⟨fun n hn h => getBits_readsField_iff hn h, fun n hn h => getBitsLong_readsField_iff hn h,
    fun n k hn hk h => ?_, fun n k hn hk h => ?_⟩
  · rw [readsTogether_iff, getBits_readsField_iff hn (by omega),
      getBits_readsField_iff hk (by omega), getBits_readsField_iff (by omega) h]
    exact ⟨fun hs => ⟨hs.1, hs.2.1⟩, fun hs => ⟨hs.1, hs.2, hs.1⟩⟩
  · rw [readsTogether_iff, getBitsLong_readsField_iff hn (by omega),
      getBitsLong_readsField_iff hk (by omega), getBitsLong_readsField_iff (by omega) h]

theorem fixed_fields_of_64 : ReadsTogether getBits (fun _ => 64) 0 8 9 ∧
    ReadsField getBitsLong (fun _ => 64) 0 32 :=
  ⟨((fixed_fields_iff (fun _ => 64) 0).2.2.1 8 9 (by decide) (by decide) (by decide)).2
      ⟨by decide, by decide⟩,
    ((fixed_fields_iff (fun _ => 64) 0).2.1 32 (by decide) (by decide)).2
      (by unfold Unsigned; decide)⟩

/-- A byte of ones is read as 2^32 - 1. -/
theorem ones_not_read : ¬ ∀ (m : Memory) (i n : Nat), 0 < n → n ≤ 25 → ReadsField getBits m i n := by
  intro h
  have hfirst := (getBits_readsField_iff (by decide) (by decide)).1
    (h (fun _ => 255) 0 8 (by decide) (by decide))
  cases hfirst

end StreamSwitch.DecSps
