import StreamSwitch.FfmpegSender.Bitstream

/-!
# The MPEG-4 analyser

`Mpeg4_Analyse` goes from start code to start code until it comes to a header after which it returns.
That it comes to the end of the buffer is what it looks for too, but the bitstream keeps the eight
bytes from its word on, and a skip that leaves less of them has read outside before.

There is no bound on the steps of its loops: `getBit_decreases` and `header_advances` say that each of
them goes on in the buffer, or fails.
-/

namespace StreamSwitch.DecSps

open Bits Sentences

namespace Mpeg4

open Checked (Fault memory exists_ofBool)

/-! ## The code -/

/-- `MPEG4_log2bin`. -/
def log2bin : Nat → Nat
  | 0 => 0
  | value + 1 => log2bin ((value + 1) / 2) + 1
decreasing_by omega

theorem log2bin_le {k v : Nat} (h : v < 2 ^ k) : log2bin v ≤ k := by
  induction k generalizing v with
  | zero =>
    obtain rfl : v = 0 := by omega
    rw [log2bin]
  | succ k ih =>
    cases v with
    | zero =>
      rw [log2bin]
      exact Nat.zero_le _
    | succ v =>
      rw [Nat.pow_succ] at h
      have := ih (v := (v + 1) / 2) (by omega)
      rw [log2bin]
      omega

/-- `time_inc_bits` of a `time_increment_resolution`. -/
def timeIncBitsOf (resolution : BitVec 16) : Nat :=
  if 0 < resolution.toNat then log2bin (resolution.toNat - 1) else 1

theorem timeIncBitsOf_le (resolution : BitVec 16) : timeIncBitsOf resolution ≤ 16 := by
  have hlt := resolution.isLt
  unfold timeIncBitsOf
  split
  · exact log2bin_le (by omega)
  · decide

/-- The variables of `Mpeg4_Analyse` that outlive a header, and what is stored through the
pointers. -/
structure Locals where
  shape : Nat
  timeIncBits : Nat
  out : Out
  small : timeIncBits ≤ 16

/-- What a header does: the value that is returned, if it is, and the variables. -/
abbrev Step := Option Int × Locals

/-- The start codes as they are told apart. -/
inductive Kind where
  | sequence
  | visualObject
  | layer
  | gop
  | picture
  | userData
  | other
deriving DecidableEq, Repr

def kind (startCode : BitVec 32) : Kind :=
  if startCode = 0x01b0 then .sequence
  else if startCode = 0x01b1 then .other
  else if startCode = 0x01b5 then .visualObject
  else if startCode &&& ~~~0x0000001F = 0x00000100 then .other
  else if startCode &&& ~~~0x0000000F = 0x00000120 then .layer
  else if startCode = 0x01b3 then .gop
  else if startCode = 0x01b6 then .picture
  else if startCode = 0x01b2 then .userData
  else .other

section

variable (pBuf : Bytes)

/-- `p` if the next bit is set. -/
def ifBit (p : Read Unit) : Read Unit := do
  let bit ← getBit pBuf
  if bit then p else pure ()

/-- What is done at `0x01b5`. `vol_ver_id` is set again before it is looked at. -/
def visualObject (l : Locals) : Read Step := do
  skipBits pBuf 32
  ifBit pBuf do
    dropBits pBuf 4
    skipBits pBuf 3
  let type ← showBits 4
  if type ≠ 1 then return (some (-1), l)
  else do
    skipBits pBuf 4
    ifBit pBuf do
      skipBits pBuf 4
      ifBit pBuf (skipBits pBuf 24)
    return (none, l)

def volVerId : Read Nat := do
  let bit ← getBit pBuf
  if bit then do
    let verId ← getBits pBuf 4
    skipBits pBuf 3
    return verId.toNat
  else return 1

def aspectRatio : Read Unit := do
  let aspect ← getBits pBuf 4
  if aspect = 15 then skipBits pBuf 16 else pure ()

def controlParameters : Read Unit :=
  ifBit pBuf do
    skipBits pBuf 3
    ifBit pBuf (skipBits pBuf 81)

def shapeExtension (verId : Nat) (shape : BitVec 32) : Read Unit :=
  if shape = 3 ∧ verId ≠ 1 then skipBits pBuf 4 else pure ()

def volShape (verId : Nat) : Read Nat := do
  controlParameters pBuf
  let shape ← getBits pBuf 2
  shapeExtension pBuf verId shape
  return shape.toNat

/-- The variables behind the time increment. -/
def Locals.timed (l : Locals) (shape : Nat) (resolution : BitVec 16) : Locals where
  shape := shape
  timeIncBits := timeIncBitsOf resolution
  out := { l.out with framerate := resolution.toNat }
  small := timeIncBitsOf_le resolution

def volTime (l : Locals) (shape : Nat) : Read Locals := do
  skipBits pBuf 1
  let resolution ← getBits pBuf 16
  let l := l.timed shape (resolution.setWidth 16)
  skipBits pBuf 1
  ifBit pBuf (skipBits pBuf l.timeIncBits)
  return l

/-- The bit that a layer of binary shape is refused for. -/
def scalability (verId : Nat) : Read Bool := if verId ≠ 1 then getBit pBuf else pure false

def volBinary (verId : Nat) (l : Locals) : Read Step := do
  let refused ← scalability pBuf verId
  if refused then return (some (-1), l)
  else do
    skipBits pBuf 1
    return (none, l)

def volEnd (verId : Nat) (l : Locals) : Read Step :=
  if l.shape ≠ 2 then
    if l.shape = 0 then do
      skipBits pBuf 1
      let width ← getBits pBuf 13
      skipBits pBuf 1
      let height ← getBits pBuf 13
      return (some 0, { l with out := { l.out with width := width.toNat, height := height.toNat } })
    else return (some (-1), l)
  else volBinary pBuf verId l

/-- What is done at a video object layer. The type is looked at four times. -/
def vol (l : Locals) : Read Step := do
  skipBits pBuf 33
  let type ← showBits 8
  if type ≠ 1 ∧ type ≠ 3 ∧ type ≠ 4 ∧ type ≠ 0 then return (some (-1), l)
  else do
    skipBits pBuf 8
    let verId ← volVerId pBuf
    aspectRatio pBuf
    let shape ← volShape pBuf verId
    let l ← volTime pBuf l shape
    volEnd pBuf verId l

end

/-! ## Steps that go on -/

/-- The bytes of the buffer from the word of the bitstream on. -/
def Bitstream.left (pBuf : Bytes) (bs : Bitstream) : Nat := pBuf.length - 4 * bs.tail

/-- The reader goes on, or stays. -/
def Keeps (pBuf : Bytes) {α : Type} (p : Read α) : Prop :=
  ∀ bs a bs', p bs = .ok (a, bs') → bs'.left pBuf ≤ bs.left pBuf

/-- The reader goes on by a word. -/
def Advances (pBuf : Bytes) {α : Type} (p : Read α) : Prop :=
  ∀ bs a bs', p bs = .ok (a, bs') → bs'.left pBuf < bs.left pBuf

variable {pBuf : Bytes} {α β : Type} {n : Nat} {p : Read α} {q : α → Read β}

theorem Keeps.bind (hp : Keeps pBuf p) (hq : ∀ a, Keeps pBuf (q a)) : Keeps pBuf (p >>= q) := by
  intro bs b bs' h
  obtain ⟨a, t, h1, h2⟩ := bind_eq_ok.1 h
  exact Nat.le_trans (hq a t b bs' h2) (hp bs a t h1)

theorem Keeps.pure (a : α) : Keeps pBuf (pure a : Read α) := by
  intro bs b bs' h
  cases h
  exact le_rfl

theorem Keeps.ite {p' : Read α} (c : Prop) [Decidable c] (hp : Keeps pBuf p) (hp' : Keeps pBuf p') :
    Keeps pBuf (if c then p else p') := by
  split
  · exact hp
  · exact hp'

theorem Advances.bind (hp : Advances pBuf p) (hq : ∀ a, Keeps pBuf (q a)) :
    Advances pBuf (p >>= q) := by
  intro bs b bs' h
  obtain ⟨a, t, h1, h2⟩ := bind_eq_ok.1 h
  exact Nat.lt_of_le_of_lt (hq a t b bs' h2) (hp bs a t h1)

theorem Keeps.advances (hp : Keeps pBuf p) (hq : ∀ a, Advances pBuf (q a)) :
    Advances pBuf (p >>= q) := by
  intro bs b bs' h
  obtain ⟨a, t, h1, h2⟩ := bind_eq_ok.1 h
  exact Nat.lt_of_lt_of_le (hq a t b bs' h2) (hp bs a t h1)

/-- A skip stays in the word, or goes on to the next one, whose eight bytes are there. -/
theorem skipBits_ok {bs bs' : Bitstream} {a : Unit} (h : skipBits pBuf n bs = .ok (a, bs')) :
    bs.pos + n < 32 ∧ bs'.pos = bs.pos + n ∧ bs'.tail = bs.tail ∨
      32 ≤ bs.pos + n ∧ bs'.pos = bs.pos + n - 32 ∧ bs'.tail = bs.tail + 1 ∧
        4 * bs'.tail + 8 ≤ pBuf.length := by
  unfold skipBits at h
  split at h
  · rename_i hcross
    obtain ⟨tmp, htmp, hok⟩ := except_bind_eq_ok.1 h
    obtain ⟨hlen, -⟩ := getInt_eq_ok.1 htmp
    cases hok
    exact .inr ⟨hcross, rfl, rfl, by show 4 * (bs.tail + 1) + 8 ≤ _; omega⟩
  · rename_i hstay
    cases h
    exact .inl ⟨Nat.not_le.1 hstay, rfl, rfl⟩

theorem skipBits_keeps (n : Nat) : Keeps pBuf (skipBits pBuf n) := by
  intro bs a bs' h
  unfold Bitstream.left
  obtain ⟨-, -, htail⟩ | ⟨-, -, htail, -⟩ := skipBits_ok h
  · rw [htail]
  · rw [htail]
    omega

theorem skipBits_advances (h : 32 ≤ n) : Advances pBuf (skipBits pBuf n) := by
  intro bs a bs' hok
  unfold Bitstream.left
  obtain ⟨hlt, -⟩ | ⟨-, -, htail, hlen⟩ := skipBits_ok hok
  · omega
  · rw [htail] at hlen ⊢
    omega

theorem byteAlign_keeps : Keeps pBuf (byteAlign pBuf) := by
  intro bs a bs' h
  unfold byteAlign at h
  split at h
  · exact skipBits_keeps _ bs a bs' h
  · cases h
    exact le_rfl

/-- What is shown is shown at a position in the word, and nothing changes. -/
theorem showBits_ok {bs bs' : Bitstream} {a : BitVec 32} (h : showBits n bs = .ok (a, bs')) :
    bs.pos < 32 ∧ bs' = bs := by
  refine ⟨?_, ?_⟩
  · by_contra hpos
    rw [stuck (Nat.not_lt.1 hpos)] at h
    cases h
  · unfold showBits at h
    obtain ⟨mask, -, h⟩ := except_bind_eq_ok.1 h
    split at h
    · obtain ⟨high, -, h⟩ := except_bind_eq_ok.1 h
      obtain ⟨low, -, h⟩ := except_bind_eq_ok.1 h
      cases h
      rfl
    · obtain ⟨ret, -, h⟩ := except_bind_eq_ok.1 h
      cases h
      rfl

theorem showBits_keeps (n : Nat) : Keeps pBuf (showBits n) := by
  intro bs a bs' h
  rw [(showBits_ok h).2]

theorem getBits_keeps (n : Nat) : Keeps pBuf (getBits pBuf n) :=
  (showBits_keeps n).bind fun _ => (skipBits_keeps n).bind fun _ => Keeps.pure _

theorem dropBits_keeps (n : Nat) : Keeps pBuf (dropBits pBuf n) :=
  (getBits_keeps n).bind fun _ => Keeps.pure _

theorem getBit_keeps : Keeps pBuf (getBit pBuf) := (getBits_keeps 1).bind fun _ => Keeps.pure _

theorem ifBit_keeps {p : Read Unit} (hp : Keeps pBuf p) : Keeps pBuf (ifBit pBuf p) :=
  getBit_keeps.bind fun _ => hp.ite _ (Keeps.pure _)

/-- A bit is one bit less of the word, or the next word. -/
theorem getBit_decreases {bs bs' : Bitstream} {b : Bool} (h : getBit pBuf bs = .ok (b, bs')) :
    8 * bs'.left pBuf + (32 - bs'.pos) < 8 * bs.left pBuf + (32 - bs.pos) := by
  obtain ⟨_, t, hget, hok⟩ := bind_eq_ok.1 h
  cases hok
  obtain ⟨_, t, hshow, hok⟩ := bind_eq_ok.1 hget
  obtain ⟨hpos, rfl⟩ := showBits_ok hshow
  obtain ⟨_, t, hskip, hok⟩ := bind_eq_ok.1 hok
  cases hok
  unfold Bitstream.left
  obtain ⟨hlt, hpos', htail⟩ | ⟨hge, hpos', htail, hlen⟩ := skipBits_ok hskip
  · rw [hpos', htail]
    omega
  · rw [hpos', htail]
    rw [htail] at hlen
    omega

/-! ## The loops -/

/-- The bits up to a zero. They are counted, but the count is not used. -/
def moduloTimeBase (pBuf : Bytes) (bs : Bitstream) : Except Fault (Unit × Bitstream) :=
  match _h : getBit pBuf bs with
  | .error e => .error e
  | .ok (true, bs') => moduloTimeBase pBuf bs'
  | .ok (false, bs') => .ok ((), bs')
termination_by 8 * bs.left pBuf + (32 - bs.pos)
decreasing_by exact getBit_decreases _h

theorem moduloTimeBase_eq (bs : Bitstream) : moduloTimeBase pBuf bs = (do
    let r ← getBit pBuf bs
    if r.1 then moduloTimeBase pBuf r.2 else .ok ((), r.2)) := by
  conv_lhs => unfold moduloTimeBase
  split
  · rename_i e he
    rw [he]
    rfl
  · rename_i bs' hget
    rw [hget]
    rfl
  · rename_i bs' hget
    rw [hget]
    rfl

theorem moduloTimeBase_keeps : Keeps pBuf (moduloTimeBase pBuf : Read Unit) := by
  intro bs a bs' h
  fun_induction moduloTimeBase pBuf bs with
  | case1 bs e he => cases h
  | case2 bs t hget ih => exact Nat.le_trans (ih h) (getBit_keeps bs true t hget)
  | case3 bs t hget =>
    cases h
    exact getBit_keeps bs false _ hget

section

variable (pBuf : Bytes)

/-- The time of a picture, if a layer has said how many bits it has. -/
def vopTime (timeIncBits : Nat) : Read Unit :=
  if timeIncBits ≠ 0 then dropBits pBuf timeIncBits else pure ()

/-- `codingType` is that of the picture: for 3 it is set to 1. -/
def vopRounding (shape : Nat) (codingType : BitVec 32) : Read Unit :=
  if shape ≠ 2 ∧ (codingType = 1 ∨ codingType = 3) then skipBits pBuf 1 else pure ()

def vopSize (shape : Nat) : Read Unit :=
  if shape ≠ 0 then do
    dropBits pBuf 13
    skipBits pBuf 1
    dropBits pBuf 13
    skipBits pBuf 1
    dropBits pBuf 13
    skipBits pBuf 1
    dropBits pBuf 13
    skipBits pBuf 2
    ifBit pBuf (skipBits pBuf 8)
  else pure ()

/-- What is done at `0x01b6`. -/
def vop (l : Locals) : Read Step := do
  skipBits pBuf 32
  let codingType ← getBits pBuf 2
  moduloTimeBase pBuf
  skipBits pBuf 1
  vopTime pBuf l.timeIncBits
  skipBits pBuf 1
  ifBit pBuf do
    vopRounding pBuf l.shape codingType
    vopSize pBuf l.shape
  return (some (-1), l)

/-- A header that is passed over. -/
def passed (l : Locals) (bits : Nat) : Read Step := do
  skipBits pBuf bits
  return (none, l)

def gop (l : Locals) : Read Step := do
  skipBits pBuf 32
  skipBits pBuf 18
  skipBits pBuf 2
  return (none, l)

def headerOf (l : Locals) : Kind → Read Step
  | .sequence => passed pBuf l 40
  | .visualObject => visualObject pBuf l
  | .layer => vol pBuf l
  | .gop => gop pBuf l
  | .picture => vop pBuf l
  | .userData => passed pBuf l 48
  | .other => passed pBuf l 32

/-- The body of the loop of `Mpeg4_Analyse`. -/
def header (l : Locals) : Read Step := do
  byteAlign pBuf
  let startCode ← showBits 32
  headerOf pBuf l (kind startCode)

end

theorem volShape_keeps (verId : Nat) : Keeps pBuf (volShape pBuf verId) :=
  (ifBit_keeps ((skipBits_keeps 3).bind fun _ => ifBit_keeps (skipBits_keeps 81))).bind fun _ =>
    (getBits_keeps 2).bind fun _ => ((skipBits_keeps 4).ite _ (Keeps.pure _)).bind fun _ =>
      Keeps.pure _

theorem volTime_keeps (l : Locals) (shape : Nat) : Keeps pBuf (volTime pBuf l shape) :=
  (skipBits_keeps 1).bind fun _ => (getBits_keeps 16).bind fun _ => (skipBits_keeps 1).bind fun _ =>
    (ifBit_keeps (skipBits_keeps _)).bind fun _ => Keeps.pure _

theorem volEnd_keeps (verId : Nat) (l : Locals) : Keeps pBuf (volEnd pBuf verId l) := by
  refine Keeps.ite _ (Keeps.ite _ ?_ (Keeps.pure _)) ?_
  · exact (skipBits_keeps 1).bind fun _ => (getBits_keeps 13).bind fun _ =>
      (skipBits_keeps 1).bind fun _ => (getBits_keeps 13).bind fun _ => Keeps.pure _
  · exact (getBit_keeps.ite _ (Keeps.pure _)).bind fun _ => (Keeps.pure _).ite _
      ((skipBits_keeps 1).bind fun _ => Keeps.pure _)

theorem vol_advances (l : Locals) : Advances pBuf (vol pBuf l) := by
  have hverId : Keeps pBuf (volVerId pBuf) := getBit_keeps.bind fun _ =>
    ((getBits_keeps 4).bind fun _ => (skipBits_keeps 3).bind fun _ => Keeps.pure _).ite _
      (Keeps.pure _)
  have haspect : Keeps pBuf (aspectRatio pBuf) := (getBits_keeps 4).bind fun _ =>
    (skipBits_keeps 16).ite _ (Keeps.pure _)
  exact (skipBits_advances (by decide)).bind fun _ => (showBits_keeps 8).bind fun _ =>
    (Keeps.pure _).ite _ ((skipBits_keeps 8).bind fun _ => hverId.bind fun verId =>
      haspect.bind fun _ => (volShape_keeps verId).bind fun shape =>
        (volTime_keeps l shape).bind fun l => volEnd_keeps verId l)

theorem vop_advances (l : Locals) : Advances pBuf (vop pBuf l) := by
  have hsize : Keeps pBuf (vopSize pBuf l.shape) := Keeps.ite _ ((dropBits_keeps 13).bind fun _ =>
    (skipBits_keeps 1).bind fun _ => (dropBits_keeps 13).bind fun _ => (skipBits_keeps 1).bind fun _ =>
      (dropBits_keeps 13).bind fun _ => (skipBits_keeps 1).bind fun _ =>
        (dropBits_keeps 13).bind fun _ => (skipBits_keeps 2).bind fun _ =>
          ifBit_keeps (skipBits_keeps 8)) (Keeps.pure _)
  exact (skipBits_advances le_rfl).bind fun _ => (getBits_keeps 2).bind fun _ =>
    moduloTimeBase_keeps.bind fun _ => (skipBits_keeps 1).bind fun _ =>
      ((dropBits_keeps _).ite _ (Keeps.pure _)).bind fun _ => (skipBits_keeps 1).bind fun _ =>
        (ifBit_keeps (((skipBits_keeps 1).ite _ (Keeps.pure _)).bind fun _ => hsize)).bind fun _ =>
          Keeps.pure _

theorem headerOf_advances (l : Locals) (k : Kind) : Advances pBuf (headerOf pBuf l k) := by
  have hpassed (bits : Nat) (h : 32 ≤ bits) : Advances pBuf (passed pBuf l bits) :=
    (skipBits_advances h).bind fun _ => Keeps.pure _
  cases k with
  | sequence => exact hpassed 40 (by decide)
  | userData => exact hpassed 48 (by decide)
  | other => exact hpassed 32 le_rfl
  | gop =>
    exact (skipBits_advances le_rfl).bind fun _ => (skipBits_keeps 18).bind fun _ =>
      (skipBits_keeps 2).bind fun _ => Keeps.pure _
  | visualObject =>
    refine (skipBits_advances le_rfl).bind fun _ => (ifBit_keeps ((dropBits_keeps 4).bind fun _ =>
      skipBits_keeps 3)).bind fun _ => (showBits_keeps 4).bind fun _ => (Keeps.pure _).ite _ ?_
    exact (skipBits_keeps 4).bind fun _ => (ifBit_keeps ((skipBits_keeps 4).bind fun _ =>
      ifBit_keeps (skipBits_keeps 24))).bind fun _ => Keeps.pure _
  | layer => exact vol_advances l
  | picture => exact vop_advances l

theorem header_advances (l : Locals) : Advances pBuf (header pBuf l) :=
  byteAlign_keeps.advances fun _ => (showBits_keeps 32).advances fun startCode =>
    headerOf_advances l (kind startCode)

/-- `MPEG4_BitstreamPos`, in bytes, is before the end. -/
def before (length : Nat) (bs : Bitstream) : Bool :=
  decide ((8 * (4 * bs.tail) + bs.pos) % 2 ^ 32 / 8 < length)

/-- The loop of `Mpeg4_Analyse`. -/
def headers (pBuf : Bytes) (length : Nat) (l : Locals) (bs : Bitstream) :
    Except Fault ((Int × Out) × Bitstream) :=
  match _h : header pBuf l bs with
  | .error e => .error e
  | .ok ((some ret, l'), bs') => .ok ((ret, l'.out), bs')
  | .ok ((none, l'), bs') =>
    if before length bs' then headers pBuf length l' bs' else .ok ((-1, l'.out), bs')
termination_by bs.left pBuf
decreasing_by exact header_advances l bs _ _ _h

theorem headers_eq (length : Nat) (l : Locals) (bs : Bitstream) :
    headers pBuf length l bs = (do
      let r ← header pBuf l bs
      r.1.1.elim (if before length r.2 then headers pBuf length r.1.2 r.2
        else .ok ((-1, r.1.2.out), r.2)) fun ret => .ok ((ret, r.1.2.out), r.2)) := by
  conv_lhs => unfold headers
  split
  · rename_i e he
    rw [he]
    rfl
  · rename_i ret l' bs' h
    rw [h]
    rfl
  · rename_i l' bs' h
    rw [h]
    rfl

/-- The variables at the first header. -/
def Locals.start (out : Out) : Locals := ⟨0, 0, out, Nat.zero_le 16⟩

/-- `Mpeg4_Analyse`. -/
def mpeg4Analyse (pBuf : Bytes) (nSize : Int) (out : Out) : Except Fault (Int × Out) := do
  let bs ← bitstreamInit pBuf
  let r ← headers pBuf (nSize % 2 ^ 32).toNat (.start out) bs
  return r.1

end Mpeg4

end StreamSwitch.DecSps
