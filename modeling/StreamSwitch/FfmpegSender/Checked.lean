import StreamSwitch.FfmpegSender.DecSps265
import StreamSwitch.Lib.Sentences

/-!
# The bit reader of the SPS decoder in a buffer that ends

The readers of `GetBitContext` again, now with a fault where a byte is read that is not in the
buffer, or a number is shifted by an amount that is not below 32. A text of the buffer has four kinds
of tokens: bits that are skipped, a single bit, a field, and a code, whose bits behind the four bytes
that are read are zeros.
-/

namespace StreamSwitch.DecSps

open Bits Sentences

namespace Checked

inductive Fault where
  /-- A read outside of what is there. -/
  | read
  /-- A shift by an amount that is not below 32. -/
  | shift
  /-- A size below zero. -/
  | size
  /-- A division by zero. -/
  | division
deriving DecidableEq, Repr

/-- A reader of bits, on the index. -/
abbrev Read := Reader Nat Fault

/-- The memory of a buffer. -/
def memory (w : Bytes) : Memory := fun p => w.getD p 0

/-! ## The readers -/

def skipBits (n : Nat) : Read Unit := fun i => .ok ((), i + n)

def getOneBit (w : Bytes) : Read Bool := fun i =>
  if i / 8 < w.length then .ok (bitAt (memory w) i, i + 1) else .error .read

/-- A reader of the four bytes from that of the index on. -/
def atWord (w : Bytes) {α : Type} (p : Get α) : Read α := fun i =>
  if i / 8 + 4 ≤ w.length then (p i).elim (.error .shift) .ok else .error .read

def getBits (w : Bytes) (n : Nat) : Read (BitVec 32) := atWord w (DecSps.getBits (memory w) n)

def getUeGolomb (w : Bytes) : Read Int := atWord w (DecSps.getUeGolomb (memory w))

def getSeGolomb (w : Bytes) : Read Int := atWord w (DecSps.getSeGolomb (memory w))

/-- `get_bits_long` of 32 bits. -/
def getBitsLong (w : Bytes) : Read (BitVec 32) := do
  let ret ← getBits w 16
  let low ← getBits w 16
  return (ret <<< 16) ||| low

/-! ## Tokens -/

inductive Token where
  /-- Bits that are not looked at. -/
  | skip (n : Nat)
  | bit (b : Bool)
  | field {n : Nat} (v : BitVec n)
  /-- An Exp-Golomb code. -/
  | code (v : Nat)

namespace Token

def size : Token → Nat
  | skip n => n
  | bit _ => 1
  | @field n _ => n
  | code v => (ue v).length

/-- The token stands in the buffer, as far as it is read. -/
def Fits (w : Bytes) (i : Nat) : Token → Prop
  | skip _ => True
  | bit b => i / 8 < w.length ∧ bitAt (memory w) i = b
  | @field n v => i / 8 + 4 ≤ w.length ∧ At (bitAt (memory w)) i (ofNat n v.toNat)
  | code v =>
    i / 8 + 4 ≤ w.length ∧ v + 1 < 2 ^ 16 ∧ At (bitAt (memory (w.take (i / 8 + 4)))) i (ue v)

end Token

/-- The buffer as a text. -/
def text (w : Bytes) : Text Nat Token where
  inside _ := True
  state := id
  fits := Token.Fits w
  size _ := Token.size
  inside_of_fits _ _ := trivial

variable {w : Bytes} {i j v n : Nat}

theorem parses_token {p : Read α} {R : Token → α → Prop}
    (h : ∀ i a j, p i = .ok (a, j) ↔ ∃ t, R t a ∧ t.Fits w i ∧ j = i + t.size) :
    Parses (text w) p fun ts a => ∃ t, R t a ∧ ts = [t] :=
  Parses.token fun i _ => h i

theorem skipBits_parses (n : Nat) :
    Parses (text w) (skipBits n) fun ts _ => ts = [.skip n] := by
  refine (parses_token (R := fun t _ => t = .skip n) fun i a j => ?_).congr fun ts a => by simp
  constructor
  · intro h
    cases h
    exact ⟨_, rfl, trivial, rfl⟩
  · rintro ⟨t, rfl, -, rfl⟩
    rfl

theorem getOneBit_parses : Parses (text w) (getOneBit w) fun ts b => ts = [.bit b] := by
  refine (parses_token (R := fun t b => t = .bit b) fun i b j => ?_).congr fun ts b => by simp
  unfold getOneBit
  split
  · rename_i hlen
    constructor
    · intro h
      cases h
      exact ⟨_, rfl, ⟨hlen, rfl⟩, rfl⟩
    · rintro ⟨t, rfl, ⟨-, rfl⟩, rfl⟩
      rfl
  · rename_i hlen
    refine iff_of_false (fun h => by cases h) ?_
    rintro ⟨t, rfl, ⟨h, -⟩, -⟩
    exact hlen h

/-- A reader of a word succeeds in the buffer, where it is defined. -/
theorem atWord_eq_ok {p : Get α} {a : α} :
    atWord w p i = .ok (a, j) ↔ i / 8 + 4 ≤ w.length ∧ p i = some (a, j) := by
  unfold atWord
  split
  · rename_i hlen
    rw [and_iff_right hlen]
    cases p i with
    | none => exact iff_of_false (fun h => by cases h) fun h => by cases h
    | some r =>
      show Except.ok r = .ok (a, j) ↔ _
      rw [Except.ok.injEq, Option.some.injEq]
  · rename_i hlen
    exact iff_of_false (fun h => by cases h) fun h => hlen h.1

theorem getBits_parses (hpos : 0 < n) (h : n ≤ 24) : Parses (text w) (getBits w n) fun ts a =>
    ∃ v : BitVec n, ts = [.field v] ∧ a = v.signExtend 32 := by
  refine (parses_token (R := fun t a => ∃ v : BitVec n, t = .field v ∧ a = v.signExtend 32)
    fun i a j => ?_).congr fun ts a => ?_
  · rw [getBits, atWord_eq_ok]
    constructor
    · rintro ⟨hlen, hget⟩
      have hread := getBits_reads (length_window (bitAt (memory w)) i n) hpos h (at_window ..)
      rw [hget] at hread
      cases hread
      have hlt := value_lt (window (bitAt (memory w)) i n)
      have hbits := ofNat_value (window (bitAt (memory w)) i n)
      rw [length_window] at hlt hbits ⊢
      refine ⟨_, ⟨_, rfl, rfl⟩, ⟨hlen, ?_⟩, rfl⟩
      rw [BitVec.toNat_ofNat, Nat.mod_eq_of_lt hlt, hbits]
      exact at_window ..
    · rintro ⟨t, ⟨v, rfl, rfl⟩, ⟨hlen, hat⟩, rfl⟩
      refine ⟨hlen, ?_⟩
      have hread := getBits_reads (length_ofNat n v.toNat) hpos h hat
      rwa [value_ofNat, Nat.mod_eq_of_lt v.isLt, BitVec.ofNat_toNat, BitVec.setWidth_eq,
        length_ofNat] at hread
  · constructor
    · rintro ⟨t, ⟨v, rfl, rfl⟩, rfl⟩
      exact ⟨v, rfl, rfl⟩
    · rintro ⟨v, rfl, rfl⟩
      exact ⟨_, ⟨v, rfl, rfl⟩, rfl⟩

theorem exists_ofBool (v : BitVec 1) : ∃ b, v = BitVec.ofBool b := by
  revert v
  decide

/-! ## Codes -/

theorem memory_take (hp : j < n) : memory (w.take n) j = memory w j := by
  rw [memory, memory, List.getD_eq_getElem?_getD, List.getD_eq_getElem?_getD,
    List.getElem?_take_of_lt hp]

theorem bitAt_take (hp : n ≤ j / 8) : bitAt (memory (w.take n)) j = false := by
  have hzero : memory (w.take n) (j / 8) = 0 := by
    rw [memory, List.getD_eq_getElem?_getD, List.getElem?_eq_none (by rw [List.length_take]; omega)]
    rfl
  rw [bitAt, hzero]
  simp

/-- Of the memory only the four bytes matter. -/
theorem reCache_take : reCache (memory (w.take (i / 8 + 4))) i = reCache (memory w) i := by
  unfold reCache unaligned32be
  simp only [memory_take (Nat.lt_add_of_pos_right (show 0 < 4 by decide)),
    memory_take (Nat.add_lt_add_left (show 1 < 4 by decide) _),
    memory_take (Nat.add_lt_add_left (show 2 < 4 by decide) _),
    memory_take (Nat.add_lt_add_left (show 3 < 4 by decide) _)]

/-- With zeros behind the four bytes nothing is cut off a code. -/
theorem readAs_of_take (hv : v + 1 < 2 ^ 16)
    (hat : At (bitAt (memory (w.take (i / 8 + 4)))) i (ue v)) : readAs i v = v := by
  have hlen := length_ue_le hv
  obtain ⟨k, hk⟩ : ∃ k, (ue v).length = k + lost i (ue v).length := by
    refine ⟨(ue v).length - lost i (ue v).length, ?_⟩
    unfold lost
    omega
  have hzero : window (bitAt (memory (w.take (i / 8 + 4)))) (i + k) (lost i (ue v).length) =
      List.replicate (lost i (ue v).length) false := window_false fun j hj => by
    apply bitAt_take
    unfold lost at hk hj
    omega
  have hvalue := value_ue v
  rw [← show window _ i _ = ue v from hat, hk, window_add, hzero, value_append,
    value_replicate_false, List.length_replicate] at hvalue
  apply readAs_eq
  rw [← hvalue]
  exact Nat.dvd_mul_left ..

theorem golomb_parses {short : List Int} {long dec : Nat → Int} (hd : Decodes short long dec) :
    Parses (text w) (atWord w (getGolomb short long (memory w))) fun ts a =>
      ∃ v, ts = [.code v] ∧ a = dec v := by
  have htake (i : Nat) : getGolomb short long (memory w) i =
      getGolomb short long (memory (w.take (i / 8 + 4))) i := by
    unfold getGolomb
    rw [reCache_take]
  refine (parses_token (R := fun t a => ∃ v, t = .code v ∧ a = dec v)
    fun i a j => ?_).congr fun ts a => ?_
  · rw [atWord_eq_ok, htake]
    constructor
    · rintro ⟨hlen, hget⟩
      obtain ⟨v, hv, hat, rfl, rfl⟩ := getGolomb_some hd hget
      exact ⟨_, ⟨v, rfl, by rw [readAs_of_take hv hat]⟩, ⟨hlen, hv, hat⟩, rfl⟩
    · rintro ⟨t, ⟨v, rfl, rfl⟩, ⟨hlen, hv, hat⟩, rfl⟩
      refine ⟨hlen, ?_⟩
      rw [getGolomb_reads hd hv hat, readAs_of_take hv hat]
      rfl
  · constructor
    · rintro ⟨t, ⟨v, rfl, rfl⟩, rfl⟩
      exact ⟨v, rfl, rfl⟩
    · rintro ⟨v, rfl, rfl⟩
      exact ⟨_, ⟨v, rfl, rfl⟩, rfl⟩

theorem getUeGolomb_parses :
    Parses (text w) (getUeGolomb w) fun ts a => ∃ v : Nat, ts = [.code v] ∧ a = v :=
  golomb_parses ue_decodes

theorem getSeGolomb_parses :
    Parses (text w) (getSeGolomb w) fun ts a => ∃ v, ts = [.code v] ∧ a = seValue v :=
  golomb_parses se_decodes

end Checked

end StreamSwitch.DecSps
