import StreamSwitch.FfmpegSender.Checked

/-!
# The bitstream of the MPEG-4 analyser

`Bitstream` of `dec_sps.cc` keeps two words of the buffer and the bits that are gone of the first.
`Skip` reads one word where the first one is used up, and goes back by 32 bits once: after more bits
than that the position is outside the word, and what is shifted next is shifted too far.

The text of a buffer has the bit positions whose two words are in it. `stuck` says that with the
position outside the word nothing is shown any more, and `skipBits_parses` that skipping is safe
as long as neither happens.
-/

namespace StreamSwitch.DecSps

open Bits Sentences

namespace Mpeg4

open Checked (Fault memory exists_ofBool)

/-! ## The code -/

/-- `Bitstream`; `tail` is counted in words from `start`. -/
structure Bitstream where
  bufa : BitVec 32
  bufb : BitVec 32
  pos : Nat
  tail : Nat
deriving DecidableEq, Repr

/-- A computation on the bitstream. -/
abbrev Read := Reader Bitstream Fault

def shiftLeft (x : BitVec 32) (n : Int) : Except Fault (BitVec 32) :=
  if 0 ≤ n ∧ n < 32 then .ok (x <<< n.toNat) else .error .shift

def shiftRight (x : BitVec 32) (n : Int) : Except Fault (BitVec 32) :=
  if 0 ≤ n ∧ n < 32 then .ok (x >>> n.toNat) else .error .shift

section

variable (pBuf : Bytes)

/-- `get_int` of a word and `MPEG4_BSWAP`. -/
def getInt (word : Nat) : Except Fault (BitVec 32) :=
  if 4 * word + 4 ≤ pBuf.length then .ok (unaligned32be (memory pBuf) (4 * word)) else .error .read

/-- `MPEG4_BitstreamInit`. -/
def bitstreamInit : Except Fault Bitstream := do
  let bufa ← getInt pBuf 0
  let bufb ← getInt pBuf 1
  return ⟨bufa, bufb, 0, 0⟩

/-- `MPEG4_BitstreamShowBits`. -/
def showBits (bits : Nat) : Read (BitVec 32) := fun bs => do
  let nbit : Int := bits + bs.pos - 32
  let mask ← shiftRight (BitVec.allOnes 32) bs.pos
  if 0 < nbit then
    let high ← shiftLeft (bs.bufa &&& mask) nbit
    let low ← shiftRight bs.bufb (32 - nbit)
    return (high ||| low, bs)
  else
    let ret ← shiftRight (bs.bufa &&& mask) (32 - bs.pos - bits)
    return (ret, bs)

/-- `MPEG4_BitstreamSkip`. -/
def skipBits (bits : Nat) : Read Unit := fun bs =>
  if 32 ≤ bs.pos + bits then do
    let tmp ← getInt pBuf (bs.tail + 2)
    return ((), ⟨bs.bufb, tmp, bs.pos + bits - 32, bs.tail + 1⟩)
  else .ok ((), { bs with pos := bs.pos + bits })

/-- `MPEG4_BitstreamByteAlign`. -/
def byteAlign : Read Unit := fun bs =>
  if bs.pos % 8 ≠ 0 then skipBits pBuf (8 - bs.pos % 8) bs else .ok ((), bs)

/-- `MPEG4_BitstreamGetBits`. -/
def getBits (n : Nat) : Read (BitVec 32) := do
  let ret ← showBits n
  skipBits pBuf n
  return ret

/-- `MPEG4_BitstreamGetBits` for its side effect. -/
def dropBits (n : Nat) : Read Unit := do
  let _ ← getBits pBuf n
  return ()

/-- `MPEG4_BitstreamGetBit`. -/
def getBit : Read Bool := do
  let bit ← getBits pBuf 1
  return bit ≠ 0

end

/-! ## Tokens -/

inductive Token where
  /-- Bits that are only looked at. -/
  | look {n : Nat} (v : BitVec n)
  | skip (n : Nat)
  /-- Bits that are skipped to the next byte. -/
  | align

/-- The bits of a position that are missing to the next byte. -/
def padding (i : Nat) : Nat := (8 - i % 8) % 8

namespace Token

def size (i : Nat) : Token → Nat
  | look _ => 0
  | skip n => n
  | align => padding i

/-- The two words from that of the position on are in the buffer. -/
def Inside (pBuf : Bytes) (i : Nat) : Prop := 4 * (i / 32) + 8 ≤ pBuf.length

/-- What is skipped goes over one word at most. -/
def Fits (pBuf : Bytes) (i : Nat) : Token → Prop
  | @look n v => At (bitAt (memory pBuf)) i (ofNat n v.toNat)
  | skip n => i % 32 + n < 64 ∧ Inside pBuf (i + n)
  | align => Inside pBuf (i + padding i)

end Token

/-- The bitstream at a position. -/
def load (pBuf : Bytes) (i : Nat) : Bitstream where
  bufa := unaligned32be (memory pBuf) (4 * (i / 32))
  bufb := unaligned32be (memory pBuf) (4 * (i / 32 + 1))
  pos := i % 32
  tail := i / 32

theorem inside_of_fits {pBuf : Bytes} {i : Nat} {t : Token} (hi : Token.Inside pBuf i)
    (h : t.Fits pBuf i) : Token.Inside pBuf (i + t.size i) := by
  cases t with
  | look v => exact hi
  | skip n => exact h.2
  | align => exact h

/-- The buffer as a text. -/
def text (pBuf : Bytes) : Text Bitstream Token where
  inside := Token.Inside pBuf
  state := load pBuf
  fits := Token.Fits pBuf
  size := Token.size
  inside_of_fits := inside_of_fits

variable {pBuf : Bytes} {i n : Nat} {α : Type}

/-! ## What is shown -/

theorem shiftLeft_ok {x : BitVec 32} {n : Nat} (h : n < 32) : shiftLeft x n = .ok (x <<< n) := by
  rw [shiftLeft, if_pos (by omega), Int.toNat_natCast]

theorem shiftRight_ok {x : BitVec 32} {n : Nat} (h : n < 32) : shiftRight x n = .ok (x >>> n) := by
  rw [shiftRight, if_pos (by omega), Int.toNat_natCast]

/-- With the position outside the word there is no mask. -/
theorem stuck {bs : Bitstream} (h : 32 ≤ bs.pos) (bits : Nat) : showBits bits bs = .error .shift := by
  show (shiftRight (BitVec.allOnes 32) bs.pos >>= fun _ => _) = _
  rw [shiftRight, if_neg (by omega)]
  rfl

/-- The words of a position, as numbers. -/
theorem word_div (m : Memory) (word : Nat) (h : n ≤ 32) :
    (unaligned32be m (4 * word)).toNat / 2 ^ (32 - n) = value (window (bitAt m) (32 * word) n) := by
  have htop := reCache_top (m := m) (i := 32 * word) (n := n) (by omega)
  rw [reCache, show 32 * word / 8 = 4 * word by omega, show 32 * word % 8 = 0 by omega,
    BitVec.shiftLeft_zero] at htop
  exact htop

theorem word_mod (m : Memory) (word : Nat) (h : n ≤ 32) :
    (unaligned32be m (4 * word)).toNat % 2 ^ (32 - n) =
      value (window (bitAt m) (32 * word + n) (32 - n)) := by
  have hall := word_div m word (n := 32) le_rfl
  have hlt := value_lt (window (bitAt m) (32 * word + n) (32 - n))
  have hsplit := window_add (bitAt m) (32 * word) n (32 - n)
  rw [Nat.add_sub_cancel' h] at hsplit
  rw [length_window] at hlt
  rw [Nat.sub_self, Nat.pow_zero, Nat.div_one, hsplit, value_append, length_window] at hall
  rw [hall, Nat.mul_comm, Nat.mul_add_mod, Nat.mod_eq_of_lt hlt]

theorem toNat_masked (x : BitVec 32) {pos : Nat} (h : pos ≤ 32) :
    (x &&& BitVec.allOnes 32 >>> pos).toNat = x.toNat % 2 ^ (32 - pos) := by
  have hmask : (2 ^ 32 - 1) >>> pos = 2 ^ (32 - pos) - 1 := by
    apply Nat.eq_of_testBit_eq
    intro j
    rw [Nat.testBit_shiftRight, Nat.testBit_two_pow_sub_one, Nat.testBit_two_pow_sub_one]
    exact decide_eq_decide.2 (by omega)
  rw [BitVec.toNat_and, BitVec.toNat_ushiftRight, BitVec.toNat_allOnes, hmask,
    Nat.and_two_pow_sub_one_eq_mod]

/-- The bits that are left of the first word. -/
theorem load_first (pBuf : Bytes) (i : Nat) : (load pBuf i).bufa.toNat % 2 ^ (32 - i % 32) =
    value (window (bitAt (memory pBuf)) i (32 - i % 32)) := by
  have hmod := word_mod (memory pBuf) (i / 32) (Nat.le_of_lt (Nat.mod_lt i (show 0 < 32 by decide)))
  rwa [Nat.div_add_mod i 32] at hmod

theorem value_window_lt (bits : Nat → Bool) (i : Nat) (h : n ≤ 32) :
    value (window bits i n) < 2 ^ 32 := by
  have hvalue := value_lt (window bits i n)
  rw [length_window] at hvalue
  exact Nat.lt_of_lt_of_le hvalue (Nat.pow_le_pow_right Nat.two_pos h)

/-- What is shown is the number that the next bits are. -/
theorem showBits_load (hpos : 0 < n) (h : n ≤ 32) : showBits n (load pBuf i) =
    .ok (BitVec.ofNat 32 (value (window (bitAt (memory pBuf)) i n)), load pBuf i) := by
  have hlt : i % 32 < 32 := Nat.mod_lt _ (by decide)
  have hfirst := load_first pBuf i
  have hsmall := value_window_lt (bitAt (memory pBuf)) i h
  show (shiftRight (BitVec.allOnes 32) (i % 32 : Nat) >>= fun _ => _) = _
  rw [shiftRight_ok hlt]
  show (if 0 < (n + (i % 32 : Nat) - 32 : Int) then _ else _) = _
  by_cases hbits : 32 < n + i % 32
  · -- the bits of the second word follow those that are left of the first
    obtain ⟨k, hk⟩ : ∃ k, n = 32 - i % 32 + k := ⟨n + i % 32 - 32, by omega⟩
    have hnbit : (n + (load pBuf i).pos - 32 : Int) = k := by
      show (n + (i % 32 : Nat) - 32 : Int) = k
      omega
    have hrest : (32 - k : Int) = (32 - k : Nat) := by omega
    rw [if_pos (by omega), hnbit, shiftLeft_ok (by omega), hrest, shiftRight_ok (by omega)]
    refine congrArg Except.ok (Prod.ext (BitVec.eq_of_toNat_eq ?_) rfl)
    have hwindow : window (bitAt (memory pBuf)) i n =
        window (bitAt (memory pBuf)) i (32 - i % 32) ++
          window (bitAt (memory pBuf)) (32 * (i / 32 + 1)) k := by
      rw [hk, window_add]
      congr 2
      omega
    have hlow := value_lt (window (bitAt (memory pBuf)) (32 * (i / 32 + 1)) k)
    rw [length_window] at hlow
    rw [hwindow, value_append, length_window] at hsmall ⊢
    have hhigh : ((load pBuf i).bufa &&& BitVec.allOnes 32 >>> (i % 32)).toNat <<< k % 2 ^ 32 =
        value (window (bitAt (memory pBuf)) i (32 - i % 32)) <<< k := by
      rw [toNat_masked _ (Nat.le_of_lt hlt), hfirst, Nat.shiftLeft_eq]
      exact Nat.mod_eq_of_lt (by omega)
    have hsecond : (load pBuf i).bufb.toNat >>> (32 - k) =
        value (window (bitAt (memory pBuf)) (32 * (i / 32 + 1)) k) := by
      rw [Nat.shiftRight_eq_div_pow]
      exact word_div (memory pBuf) (i / 32 + 1) (by omega)
    rw [BitVec.toNat_or, BitVec.toNat_shiftLeft, BitVec.toNat_ushiftRight, hhigh, hsecond,
      ← Nat.shiftLeft_add_eq_or_of_lt hlow, Nat.shiftLeft_eq, BitVec.toNat_ofNat,
      Nat.mod_eq_of_lt hsmall]
  · have hamount : (32 - (load pBuf i).pos - n : Int) = (32 - i % 32 - n : Nat) := by
      show (32 - (i % 32 : Nat) - n : Int) = (32 - i % 32 - n : Nat)
      omega
    have hsplit := window_add (bitAt (memory pBuf)) i n (32 - i % 32 - n)
    rw [Nat.add_sub_cancel' (by omega)] at hsplit
    have hlow := value_lt (window (bitAt (memory pBuf)) (i + n) (32 - i % 32 - n))
    rw [length_window] at hlow
    rw [if_neg (by omega), hamount, shiftRight_ok (by omega)]
    refine congrArg Except.ok (Prod.ext (BitVec.eq_of_toNat_eq ?_) rfl)
    rw [BitVec.toNat_ushiftRight, toNat_masked _ (Nat.le_of_lt hlt), hfirst, hsplit, value_append,
      length_window, Nat.shiftRight_eq_div_pow, Nat.mul_comm, Nat.mul_add_div (Nat.two_pow_pos _),
      Nat.div_eq_of_lt hlow, Nat.add_zero, BitVec.toNat_ofNat, Nat.mod_eq_of_lt hsmall]

/-! ## What the readers accept -/

theorem showBits_parses (hpos : 0 < n) (h : n ≤ 32) : Parses (text pBuf) (showBits n) fun ts a =>
    ∃ v : BitVec n, ts = [.look v] ∧ a = v.setWidth 32 := by
  refine (Parses.token (R := fun t a => ∃ v : BitVec n, t = .look v ∧ a = v.setWidth 32)
    fun i _ a s => ?_).congr fun ts a => ?_
  · show showBits n (load pBuf i) = .ok (a, s) ↔ _
    have hvalue := value_lt (window (bitAt (memory pBuf)) i n)
    have hbits := ofNat_value (window (bitAt (memory pBuf)) i n)
    rw [length_window] at hvalue hbits
    rw [showBits_load hpos h]
    constructor
    · intro hok
      cases hok
      refine ⟨_, ⟨BitVec.ofNat n (value (window (bitAt (memory pBuf)) i n)), rfl, ?_⟩, ?_, rfl⟩
      · apply BitVec.eq_of_toNat_eq
        rw [BitVec.toNat_setWidth, BitVec.toNat_ofNat, BitVec.toNat_ofNat, Nat.mod_eq_of_lt hvalue]
      · show window _ i _ = _
        rw [length_ofNat, BitVec.toNat_ofNat, Nat.mod_eq_of_lt hvalue, hbits]
    · rintro ⟨t, ⟨v, rfl, rfl⟩, hat, rfl⟩
      have hv : value (window (bitAt (memory pBuf)) i n) = v.toNat := by
        have hwindow : window (bitAt (memory pBuf)) i (ofNat n v.toNat).length = ofNat n v.toNat := hat
        rw [length_ofNat] at hwindow
        rw [hwindow, value_ofNat, Nat.mod_eq_of_lt v.isLt]
      rw [hv, BitVec.ofNat_toNat]
      rfl
  · constructor
    · rintro ⟨t, ⟨v, rfl, rfl⟩, rfl⟩
      exact ⟨v, rfl, rfl⟩
    · rintro ⟨v, rfl, rfl⟩
      exact ⟨_, ⟨v, rfl, rfl⟩, rfl⟩

theorem getInt_eq_ok {word : Nat} {x : BitVec 32} : getInt pBuf word = .ok x ↔
    4 * word + 4 ≤ pBuf.length ∧ x = unaligned32be (memory pBuf) (4 * word) := by
  unfold getInt
  split
  · rename_i h
    rw [and_iff_right h, Except.ok.injEq]
    exact eq_comm
  · rename_i h
    exact iff_of_false (fun h => by cases h) fun hx => h hx.1

/-- Behind one word the bitstream is that of the new position. -/
theorem skipBits_load (hi : Token.Inside pBuf i) (h : i % 32 + n < 64) {s : Bitstream} :
    skipBits pBuf n (load pBuf i) = .ok ((), s) ↔
      Token.Inside pBuf (i + n) ∧ s = load pBuf (i + n) := by
  unfold skipBits
  by_cases hcross : 32 ≤ i % 32 + n
  · have hdiv : (i + n) / 32 = i / 32 + 1 := by omega
    have hmod : (i + n) % 32 = i % 32 + n - 32 := by omega
    have hload : load pBuf (i + n) = ⟨(load pBuf i).bufb,
        unaligned32be (memory pBuf) (4 * (i / 32 + 2)), i % 32 + n - 32, i / 32 + 1⟩ := by
      rw [load, hdiv, hmod]
      rfl
    rw [if_pos (show 32 ≤ (load pBuf i).pos + n from hcross), hload, Token.Inside, hdiv]
    constructor
    · intro hok
      obtain ⟨tmp, htmp, hok⟩ := except_bind_eq_ok.1 hok
      obtain ⟨hlen, rfl⟩ := getInt_eq_ok.1 htmp
      cases hok
      change 4 * (i / 32 + 2) + 4 ≤ pBuf.length at hlen
      exact ⟨by omega, rfl⟩
    · rintro ⟨hlen, rfl⟩
      refine except_bind_eq_ok.2 ⟨_, getInt_eq_ok.2 ⟨?_, rfl⟩, rfl⟩
      change 4 * (i / 32 + 2) + 4 ≤ pBuf.length
      omega
  · have hdiv : (i + n) / 32 = i / 32 := by omega
    have hmod : (i + n) % 32 = i % 32 + n := by omega
    have hload : load pBuf (i + n) = { load pBuf i with pos := (load pBuf i).pos + n } := by
      rw [load, hdiv, hmod]
      rfl
    have hin : Token.Inside pBuf (i + n) := by
      rw [Token.Inside, hdiv]
      exact hi
    rw [if_neg (show ¬32 ≤ (load pBuf i).pos + n from hcross), hload, and_iff_right hin]
    constructor
    · intro hok
      cases hok
      rfl
    · rintro rfl
      rfl

theorem skipBits_parses (h : n ≤ 32) :
    Parses (text pBuf) (skipBits pBuf n) fun ts _ => ts = [.skip n] := by
  refine (Parses.token (R := fun t _ => t = .skip n) fun i hi a s => ?_).congr fun ts a => by simp
  have hlt : i % 32 + n < 64 := by omega
  refine (skipBits_load hi hlt).trans ?_
  constructor
  · rintro ⟨hin, rfl⟩
    exact ⟨_, rfl, ⟨hlt, hin⟩, rfl⟩
  · rintro ⟨t, rfl, ⟨-, hin⟩, rfl⟩
    exact ⟨hin, rfl⟩

theorem byteAlign_parses : Parses (text pBuf) (byteAlign pBuf) fun ts _ => ts = [.align] := by
  refine (Parses.token (R := fun t _ => t = .align) fun i hi a s => ?_).congr fun ts a => by simp
  have hiff : byteAlign pBuf (load pBuf i) = .ok ((), s) ↔
      Token.Inside pBuf (i + padding i) ∧ s = load pBuf (i + padding i) := by
    unfold byteAlign
    have hpos : (load pBuf i).pos % 8 = i % 8 := by
      show i % 32 % 8 = i % 8
      omega
    rw [hpos]
    by_cases halign : i % 8 = 0
    · have hpad : padding i = 0 := by
        unfold padding
        omega
      rw [if_neg (not_not_intro halign), hpad, Nat.add_zero,
        and_iff_right (show Token.Inside pBuf i from hi)]
      constructor
      · intro hok
        cases hok
        rfl
      · rintro rfl
        rfl
    · have hpad : padding i = 8 - i % 8 := by
        unfold padding
        omega
      rw [if_pos halign, hpad]
      exact skipBits_load hi (by omega)
  refine hiff.trans ?_
  constructor
  · rintro ⟨hin, rfl⟩
    exact ⟨_, rfl, hin, rfl⟩
  · rintro ⟨t, rfl, hin, rfl⟩
    exact ⟨hin, rfl⟩

theorem getBits_parses (hpos : 0 < n) (h : n ≤ 32) :
    Parses (text pBuf) (getBits pBuf n) fun ts a =>
      ∃ v : BitVec n, ts = [.look v, .skip n] ∧ a = v.setWidth 32 := by
  refine ((showBits_parses hpos h).bind fun ret => (skipBits_parses h).bind fun _ =>
    Parses.pure ret).congr fun ts a => ?_
  constructor
  · rintro ⟨_, _, _, ⟨v, rfl, rfl⟩, ⟨_, _, _, rfl, ⟨rfl, rfl⟩, rfl⟩, rfl⟩
    exact ⟨v, rfl, rfl⟩
  · rintro ⟨v, rfl, rfl⟩
    exact ⟨_, _, _, ⟨v, rfl, rfl⟩, ⟨_, _, (), rfl, ⟨rfl, rfl⟩, rfl⟩, rfl⟩

/-- What is not used is not looked at. -/
theorem dropBits_parses (hpos : 0 < n) (h : n ≤ 32) :
    Parses (text pBuf) (dropBits pBuf n) fun ts _ => ts = [.skip n] := by
  refine (skipBits_parses h).of_eq fun i => ?_
  show ((showBits n (load pBuf i) >>= fun r => skipBits pBuf n r.2 >>= fun r' => _) >>= fun _ => _) =
    skipBits pBuf n (load pBuf i)
  rw [showBits_load hpos h]
  show ((skipBits pBuf n (load pBuf i) >>= fun r' => _) >>= fun _ => _) = _
  cases skipBits pBuf n (load pBuf i) with
  | error e => rfl
  | ok r => rfl

theorem getBit_parses : Parses (text pBuf) (getBit pBuf) fun ts b =>
    ts = [.look (BitVec.ofBool b), .skip 1] := by
  refine ((getBits_parses Nat.one_pos (by decide)).bind fun bit =>
    Parses.pure (decide (bit ≠ 0))).congr fun ts b => ?_
  constructor
  · rintro ⟨_, _, _, ⟨v, rfl, rfl⟩, ⟨rfl, rfl⟩, rfl⟩
    obtain ⟨b, rfl⟩ := exists_ofBool v
    cases b <;> rfl
  · rintro rfl
    refine ⟨_, [], _, ⟨BitVec.ofBool b, rfl, rfl⟩, ⟨rfl, ?_⟩, rfl⟩
    cases b <;> decide

/-! ## Far skips -/

/-- The reader fails with the position outside the word. -/
def Stuck (p : Read α) : Prop := ∀ bs : Bitstream, 32 ≤ bs.pos → ∃ e, p bs = .error e

theorem stuck_showBits (bits : Nat) : Stuck (showBits bits) := fun _ h => ⟨_, stuck h bits⟩

theorem Stuck.bind {β : Type} {p : Read α} (h : Stuck p) (q : α → Read β) : Stuck (p >>= q) := by
  intro bs hpos
  obtain ⟨e, he⟩ := h bs hpos
  refine ⟨e, ?_⟩
  show (p bs >>= fun r => q r.1 r.2) = _
  rw [he]
  rfl

theorem stuck_getBits (n : Nat) : Stuck (getBits pBuf n) := (stuck_showBits n).bind _

/-- Behind a skip over more than a word nothing is shown. -/
theorem skipBits_far {p : Read α} (hp : Stuck p) (h : 64 ≤ i % 32 + n) :
    ∃ e, (skipBits pBuf n >>= fun _ => p) (load pBuf i) = .error e := by
  show ∃ e, (skipBits pBuf n (load pBuf i) >>= fun r => p r.2) = _
  unfold skipBits
  rw [if_pos (show 32 ≤ (load pBuf i).pos + n from by show 32 ≤ i % 32 + n; omega)]
  cases hget : getInt pBuf ((load pBuf i).tail + 2) with
  | error e => exact ⟨e, rfl⟩
  | ok tmp =>
    apply hp
    show 32 ≤ i % 32 + n - 32
    omega

theorem skipBits_bind {p : Read α} {L : Language Token α} (hp : Stuck p)
    (h : Parses (text pBuf) p L) : Parses (text pBuf) (skipBits pBuf n >>= fun _ => p) fun ts a =>
      ∃ ys, L ys a ∧ ts = .skip n :: ys := by
  intro i hi a s
  by_cases hlt : i % 32 + n < 64
  · rw [bind_eq_ok]
    constructor
    · rintro ⟨_, t, hskip, hok⟩
      obtain ⟨hin, rfl⟩ := (skipBits_load hi hlt).1 hskip
      obtain ⟨ys, hys, hat, rfl⟩ := (h _ hin a s).1 hok
      exact ⟨_, ⟨ys, hys, rfl⟩, ⟨⟨hlt, hin⟩, hat⟩, rfl⟩
    · rintro ⟨_, ⟨ys, hys, rfl⟩, ⟨⟨-, hin⟩, hat⟩, rfl⟩
      exact ⟨(), _, (skipBits_load hi hlt).2 ⟨hin, rfl⟩, (h _ hin a _).2 ⟨ys, hys, hat, rfl⟩⟩
  · obtain ⟨e, he⟩ := skipBits_far hp (Nat.le_of_not_lt hlt)
    refine iff_of_false (fun hok => ?_) ?_
    · have := he.symm.trans hok
      cases this
    · rintro ⟨_, ⟨ys, -, rfl⟩, ⟨⟨hlt', -⟩, -⟩, -⟩
      exact hlt hlt'

end Mpeg4

end StreamSwitch.DecSps
