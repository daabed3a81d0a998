import StreamSwitch.FfmpegSender.Golomb
import StreamSwitch.FfmpegSender.SpsSyntax

/-!
# Decoding a sequence parameter set

`decsps` looks for the first sequence parameter set behind a start code and reads the frame size
out of it. It copies the unit without its emulation prevention bytes into `sps_nal`, 512 bytes on
the stack that nothing clears, and reads on from there.
-/

namespace StreamSwitch.DecSps

open Bits

/-! ## The code -/

/-- `remove_0x03`. It stops two bytes before the end. -/
def remove0x03 : Bytes → Bytes
  | a :: b :: c :: src =>
    if a = 0 ∧ b = 0 ∧ c = 3 then a :: b :: remove0x03 src else a :: remove0x03 (b :: c :: src)
  | _ => []

/-- `sps_nal + 4`, where `stack` is what is there before `dst` is written to `sps_nal`. -/
def spsNal (stack : Memory) (dst : Bytes) : Memory := fun p => dst.getD (p + 4) (stack p)

section Analyse

variable (m : Memory)

/-- `H264_get_ue_golomb` for its side effect. -/
def skipUeGolomb : Get Unit := do
  let _ ← getUeGolomb m
  return ()

/-- `H264_get_se_golomb` for its side effect, `n` times. -/
def skipSeGolombs : (n : Nat) → Get Unit
  | 0 => pure ()
  | n + 1 => do
    let _ ← getSeGolomb m
    skipSeGolombs n

/-- `p` if a flag is set that is read with `H264_get_one_bit`. -/
def ifOneBit (p : Get Unit) : Get Unit := do
  let flag ← getOneBit m
  if flag then p else pure ()

/-- `p` if a flag is set that is read with `H264_get_bits`. -/
def ifBits (p : Get Unit) : Get Unit := do
  let flag ← getBits m 1
  if flag ≠ 0 then p else pure ()

/-- `next` of the next entry of a scaling list. -/
def nextScale (last next : Int) : Get Int :=
  if next ≠ 0 then do
    let delta ← getSeGolomb m
    return (last + delta) % 256
  else return next

def scalingList : (t : Nat) → (last next : Int) → Get Unit
  | 0, _, _ => pure ()
  | t + 1, last, next => do
    let next ← nextScale m last next
    scalingList t (if next ≠ 0 then next else last) next

def scalingLists : Get Unit :=
  (List.range 8).forM fun idx => ifBits m (scalingList m (if 6 ≤ idx then 64 else 16) 8 8)

/-- What `H264_Analyse` reads for `profile>=100`. -/
def profileFields (profile : BitVec 32) : Get Unit :=
  if 100 ≤ profile.toNat then do
    skipUeGolomb m
    skipUeGolomb m
    skipUeGolomb m
    skipBits 1
    ifBits m (scalingLists m)
  else pure ()

def pocFields (pocType : Int) : Get Unit :=
  if pocType = 0 then skipUeGolomb m
  else if pocType = 1 then do
    skipBits 1
    skipSeGolombs m 2
    let pocCycleLength ← getUeGolomb m
    skipSeGolombs m pocCycleLength.toNat
  else pure ()

/-- The cropping offsets: left, right, top and bottom. -/
def cropFields (flagB : Bool) : Get (Int × Int × Int × Int) :=
  if flagB then do
    let cropLeft ← getUeGolomb m
    let cropRight ← getUeGolomb m
    let cropTop ← getUeGolomb m
    let cropBottom ← getUeGolomb m
    return (cropLeft, cropRight, cropTop, cropBottom)
  else return (0, 0, 0, 0)

/-- `*nWidth` and `*nHeight`. -/
def frameSize (mbWidth mbHeight : Int) (flagA : Bool) (crop : Int × Int × Int × Int) : Int × Int :=
  (16 * mbWidth - 2 * (crop.1 + crop.2.1),
    if flagA then 16 * mbHeight - 2 * (crop.2.2.1 + crop.2.2.2)
    else 16 * mbHeight - 4 * (crop.2.2.1 + crop.2.2.2))

def sizeFields : Get (Int × Int) := do
  skipUeGolomb m
  skipBits 1
  let mbWidth ← getUeGolomb m
  let mbHeight ← getUeGolomb m
  let flagA ← getOneBit m
  skipBits (if flagA then 0 else 1)
  skipBits 1
  let flagB ← getOneBit m
  let crop ← cropFields m flagB
  return frameSize (mbWidth + 1) (mbHeight + 1) flagA crop

/-- `H264_Analyse` up to the VUI parameters; there is no size if the parameter set is refused. -/
def h264Size : Get (Option (Int × Int)) := do
  let profile ← getBits m 8
  skipBits 16
  skipUeGolomb m
  profileFields m profile
  skipUeGolomb m
  let pocType ← getUeGolomb m
  pocFields m pocType
  if 2 < pocType then return none
  else do
    let size ← sizeFields m
    return some size

/-- `timeScale/(2*num_units_in_tick)`. -/
def frameRate (num scale : BitVec 32) : Get Int := fun i =>
  if 2 * num = 0 then none else some ((scale.sdiv (2 * num)).toInt, i)

/-- The timing information: the frame rate, if there is one. -/
def timingFields (framerate : Int) : Get Int := do
  let flag ← getOneBit m
  if flag then do
    let numUnitsInTick ← getBitsLong m 32
    let timeScale ← getBitsLong m 32
    if numUnitsInTick ≠ 0 then frameRate numUnitsInTick timeScale else return framerate
  else return framerate

/-- The VUI parameters, as far as `H264_Analyse` reads them. -/
def vuiFields (framerate : Int) : Get Int := do
  let flag ← getOneBit m
  if flag then do
    ifOneBit m do
      let tmp ← getBits m 8
      if tmp = 255 then skipBits 32 else pure ()
    ifOneBit m (skipBits 1)
    ifOneBit m do
      skipBits 3
      skipBits 1
      ifOneBit m do
        skipBits 8
        skipBits 8
        skipBits 8
    ifOneBit m do
      skipUeGolomb m
      skipUeGolomb m
    timingFields m framerate
  else return framerate

end Analyse

/-- `*nWidth`, `*nHeight` and `*framerate`. -/
structure Out where
  width : Int
  height : Int
  framerate : Int
deriving DecidableEq, Repr

/-- `H264_Analyse`. -/
def h264Analyse (stack : Memory) (pBuf : Bytes) (out : Out) : Option (Int × Out) :=
  let m := spsNal stack (remove0x03 (pBuf.take 512))
  match h264Size m 0 with
  | none => none
  | some (none, _) => some (-1, out)
  | some (some size, i) =>
    (vuiFields m out.framerate i).map fun rate => (1, ⟨size.1, size.2, rate.1⟩)

section Decsps

/- `Mpeg4_Analyse`, and the stack when `H264_Analyse` is called with so many bytes. -/
variable (mpeg4Analyse : Bytes → Out → Option (Int × Out)) (stack : Nat → Memory)

/-- What `Stream_Analyse` does at one place; -1 if there is nothing that it analyses. Where
`Mpeg4_Analyse` fails nothing else is tried: `0xB0` is not of type 7. -/
def analyseAt (pBuf : Bytes) (out : Out) : Option (Int × Out) :=
  match pBuf with
  | 0 :: 0 :: 1 :: 0xB0 :: _ => mpeg4Analyse pBuf out
  | 0 :: 0 :: 1 :: naltype :: _ =>
    if naltype &&& 0x1f = 7 then h264Analyse (stack pBuf.length) pBuf out else some (-1, out)
  | _ => some (-1, out)

/-- `Stream_Analyse`. -/
def streamAnalyse : Bytes → Out → Option (Int × Out)
  | a :: pBuf, out =>
    if 4 < (a :: pBuf).length then do
      let r ← analyseAt mpeg4Analyse stack (a :: pBuf) out
      if 0 ≤ r.1 then return r else streamAnalyse pBuf r.2
    else some (-1, out)
  | [], out => some (-1, out)

/-- `decsps`: what it returns, `*width` and `*height`. -/
def decsps (pBuf : Bytes) (width height : Nat) : Option (Int × Nat × Nat) := do
  let r ← streamAnalyse mpeg4Analyse stack (pBuf.take (int32OfSize pBuf.length).toNat)
    ⟨width, height, 0⟩
  return (if 0 < r.1 then 0 else -1, (r.2.width % 2 ^ 32).toNat, (r.2.height % 2 ^ 32).toNat)

end Decsps

/-! ## Reading the fields -/

variable {m : Memory} {i j v : Nat}

theorem skipUeGolomb_reads (h : v + 1 < 2 ^ 16) : Reads (bitAt m) (skipUeGolomb m) i (ue v) () :=
  (getUeGolomb_reads h).map fun _ => ()

theorem skipUeGolomb_some {u : Unit} (h : skipUeGolomb m i = some (u, j)) :
    ∃ v, v + 1 < 2 ^ 16 ∧ At (bitAt m) i (ue v) ∧ j = i + (ue v).length := by
  obtain ⟨x, k, hx, hpure⟩ := bind_some h
  obtain ⟨v, hv, hat, -, hk⟩ := getUeGolomb_some hx
  cases hpure
  exact ⟨v, hv, hat, hk⟩

theorem skipSeGolombs_reads (xs : List Int) (h : ∀ x ∈ xs, codeNum x + 1 < 2 ^ 16) :
    Reads (bitAt m) (skipSeGolombs m xs.length) i (xs.flatMap se) () := by
  induction xs generalizing i with
  | nil => exact Reads.pure ()
  | cons x xs ih =>
    have hx := getSeGolomb_skips (m := m) (i := i) (h x List.mem_cons_self)
    exact Reads.skip hx (ih fun y hy => h y (List.mem_cons_of_mem x hy))

variable {α : Type}

theorem ifOneBit_reads {p : Get Unit} {enc : α → List Bool} {o : Option α}
    (h : ∀ a, o = some a → ∀ i, Reads (bitAt m) p i (enc a) ()) :
    Reads (bitAt m) (ifOneBit m p) i (flagged enc o) () := by
  cases o with
  | none =>
    rw [flagged_none]
    exact (getOneBit_reads false).bind (Reads.pure ())
  | some a => exact (getOneBit_reads true).bind (h a rfl _)

theorem ifBits_reads {p : Get Unit} {enc : α → List Bool} {o : Option α}
    (h : ∀ a, o = some a → ∀ i, Reads (bitAt m) p i (enc a) ()) :
    Reads (bitAt m) (ifBits m p) i (flagged enc o) () := by
  have hbit (b : Bool) : Reads (bitAt m) (getBits m 1) i [b] _ :=
    getBits_reads rfl Nat.one_pos (by omega)
  cases o with
  | none =>
    rw [flagged_none]
    exact (hbit false).bind (Reads.pure ())
  | some a => exact (hbit true).bind (h a rfl _)

/-- `delta_scale` is short. -/
theorem codeNum_delta {x : Int} (h : -128 ≤ x ∧ x ≤ 127) : codeNum x + 1 < 2 ^ 13 := by
  unfold codeNum
  split <;> omega

theorem scalingList_reads (t : Nat) (last next : Int) (deltas : List Int)
    (h : isScalingList t last next deltas = true) :
    Reads (bitAt m) (scalingList m t last next) i (deltas.flatMap se) () := by
  induction t generalizing last next deltas i with
  | zero =>
    rw [isScalingList, List.isEmpty_iff] at h
    subst h
    exact Reads.pure ()
  | succ t ih =>
    unfold isScalingList at h
    by_cases hnext : next = 0
    · -- the rest of the list is the last entry
      rw [if_pos hnext] at h
      have hread : Reads (bitAt m) (nextScale m last next) i [] next := by
        rw [nextScale, if_neg (not_not_intro hnext)]
        exact Reads.pure next
      refine hread.bind (ih _ _ deltas ?_)
      rwa [if_neg (not_not_intro hnext)]
    · rw [if_neg hnext] at h
      match deltas, h with
      | delta :: deltas, h =>
        rw [Bool.and_eq_true, decide_eq_true_eq] at h
        obtain ⟨hdelta, hlist⟩ := h
        have hmod : (last + delta) % 256 = (last + delta + 256) % 256 := by omega
        have hread : Reads (bitAt m) (nextScale m last next) i (se delta)
            ((last + delta) % 256) := by
          rw [nextScale, if_pos hnext]
          exact (getSeGolomb_reads_small (codeNum_delta hdelta)).map _
        refine hread.bind (ih _ _ deltas ?_)
        rw [hmod, ite_not]
        exact hlist

theorem scalingLists_reads {lists : Nat → Option (List Int)}
    (h : ∀ idx < 8, ∀ deltas, lists idx = some deltas →
      isScalingList (if idx < 6 then 16 else 64) 8 8 deltas = true) :
    Reads (bitAt m) (scalingLists m) i ((List.range 8).flatMap (scalingListBits lists)) () := by
  refine Reads.forM _ fun idx hidx i => ifBits_reads fun deltas hdeltas i => ?_
  have hlist := h idx (List.mem_range.1 hidx) deltas hdeltas
  have hsize : (if 6 ≤ idx then 64 else 16) = if idx < 6 then 16 else 64 := by
    split <;> split <;> omega
  rw [hsize]
  exact scalingList_reads _ _ _ _ hlist

/-- The fields of the high profiles are read for the profiles from 100 on. -/
theorem profileFields_reads {h : High} {profile : BitVec 32} (hp : 100 ≤ profile.toNat)
    (hc : h.Conforming) : Reads (bitAt m) (profileFields m profile) i h.bits () := by
  have hluma := hc.luma
  have hchroma := hc.chroma
  rw [profileFields, if_pos hp, High.bits]
  simp only [List.append_assoc]
  refine Reads.bind (skipUeGolomb_reads (by decide)) ?_
  refine Reads.bind (skipUeGolomb_reads (by omega)) ?_
  refine Reads.bind (skipUeGolomb_reads (by omega)) ?_
  refine Reads.bind (skipBits_reads rfl) ?_
  exact ifBits_reads fun lists hlists i => scalingLists_reads (hc.lists lists hlists)

theorem pocFields_reads {p : Poc} (hc : p.Conforming)
    (h : ∀ x ∈ p.offsets, codeNum x + 1 < 2 ^ 16) :
    Reads (bitAt m) (pocFields m p.type) i p.fields () := by
  cases p with
  | lsb n =>
    have := hc.lsb n rfl
    exact skipUeGolomb_reads (by omega)
  | output => exact Reads.pure ()
  | cycle deltaAlwaysZero nonRefPic topToBottom refFrames =>
    have hlen := hc.frames
    rw [Poc.offsets, List.length_cons, List.length_cons] at hlen
    have htwo : [nonRefPic, topToBottom].flatMap se = se nonRefPic ++ se topToBottom := by
      simp
    rw [Poc.fields, List.append_assoc [deltaAlwaysZero], ← htwo]
    simp only [List.append_assoc]
    refine Reads.bind (skipBits_reads rfl) ?_
    refine Reads.bind (skipSeGolombs_reads [nonRefPic, topToBottom] ?_) ?_
    · intro x hx
      exact h x (List.mem_append_left refFrames hx)
    refine Reads.bind (getUeGolomb_reads_small (by omega)) ?_
    refine skipSeGolombs_reads refFrames fun x hx => h x ?_
    exact List.mem_cons_of_mem _ (List.mem_cons_of_mem _ hx)

/-! ## The frame size -/

/-- The codes that begin at `i` are read as they are: they have 31 bits at most, and what is cut
off them is zero. -/
def Whole : Nat → List Nat → Prop
  | _, [] => True
  | i, v :: codes =>
    v + 1 < 2 ^ 16 ∧ 2 ^ lost i (ue v).length ∣ v + 1 ∧ Whole (i + (ue v).length) codes

instance Whole.decidable : (i : Nat) → (codes : List Nat) → Decidable (Whole i codes)
  | _, [] => inferInstanceAs (Decidable True)
  | i, v :: codes =>
    have := Whole.decidable (i + (ue v).length) codes
    inferInstanceAs (Decidable
      (v + 1 < 2 ^ 16 ∧ 2 ^ lost i (ue v).length ∣ v + 1 ∧ Whole (i + (ue v).length) codes))

theorem getUeGolomb_reads_whole {codes : List Nat} (h : Whole i (v :: codes)) :
    Reads (bitAt m) (getUeGolomb m) i (ue v) v := by
  have := getUeGolomb_reads (m := m) (i := i) h.1
  rwa [readAs_eq h.2.1] at this

def Crop.ints (c : Crop) : Int × Int × Int × Int := (c.left, c.right, c.top, c.bottom)

theorem flagged_eq (enc : α → List Bool) (o : Option α) :
    flagged enc o = [o.isSome] ++ o.elim [] enc := by
  cases o <;> rfl

theorem cropFields_reads {o : Option Crop} (h : ∀ c, o = some c → Whole i c.codes) :
    Reads (bitAt m) (cropFields m o.isSome) i (o.elim [] fun c => c.codes.flatMap ue)
      (o.getD ⟨0, 0, 0, 0⟩).ints := by
  cases o with
  | none => exact Reads.pure _
  | some c =>
    have hc := h c rfl
    show Reads _ _ i (ue c.left ++ (ue c.right ++ (ue c.top ++ (ue c.bottom ++ [])))) c.ints
    refine Reads.bind (getUeGolomb_reads_whole hc) ?_
    refine Reads.bind (getUeGolomb_reads_whole hc.2.2) ?_
    refine Reads.bind (getUeGolomb_reads_whole hc.2.2.2.2) ?_
    refine Reads.bind (getUeGolomb_reads_whole hc.2.2.2.2.2.2) ?_
    exact Reads.pure _

/-- What `H264_Analyse` computes of the fields that are there. -/
def Sps.codeSize (s : Sps) : Int × Int :=
  frameSize (s.picWidthInMbsMinus1 + 1) (s.picHeightInMapUnitsMinus1 + 1) s.frameMbsOnly
    s.cropping.ints

theorem sizeFields_reads {s : Sps} (hc : s.Conforming)
    (hs : Whole (i + (ue s.maxNumRefFrames).length + 1) s.sizes)
    (hcrop : ∀ c, s.crop = some c → Whole (i + (ue s.maxNumRefFrames).length + 1 +
      (s.sizes.flatMap ue).length + s.flags.length + 1) c.codes) :
    Reads (bitAt m) (sizeFields m) i
      (ue s.maxNumRefFrames ++ [s.gapsAllowed] ++ s.sizes.flatMap ue ++ s.flags ++ s.cropBits)
      s.codeSize := by
  have href := hc.refFrames
  rw [Sps.cropBits, flagged_eq]
  show Reads _ _ i (_ ++ _ ++
    (ue s.picWidthInMbsMinus1 ++ (ue s.picHeightInMapUnitsMinus1 ++ [])) ++
    ([s.frameMbsOnly] ++ (if s.frameMbsOnly then [] else [s.mbAdaptive]) ++ [s.direct8x8]) ++ _) _
  simp only [List.append_assoc, List.nil_append]
  refine Reads.bind (skipUeGolomb_reads (by omega)) ?_
  refine Reads.bind (skipBits_reads rfl) ?_
  refine Reads.bind (getUeGolomb_reads_whole hs) ?_
  refine Reads.bind (getUeGolomb_reads_whole hs.2.2) ?_
  refine Reads.bind (getOneBit_reads s.frameMbsOnly) ?_
  refine Reads.bind (skipBits_reads (by split <;> rfl)) ?_
  refine Reads.bind (skipBits_reads rfl) ?_
  refine Reads.bind (getOneBit_reads s.crop.isSome) ?_
  refine Reads.map _ (cropFields_reads fun c hcc => ?_)
  convert hcrop c hcc using 1
  simp only [Sps.sizes, Sps.flags, List.flatMap_cons, List.flatMap_nil, List.append_nil,
    List.length_append, List.length_singleton]
  omega

/-- The profiles that are at least 100 are the high ones, but for three. -/
theorem profile_ge_iff : ∀ p ∈ profiles, p ∉ [44, 83, 86] →
    (100 ≤ ((BitVec.ofNat 8 (value (ofNat 8 p))).signExtend 32).toNat ↔ p ∈ highProfiles) := by
  decide

/-- What the code needs of a parameter set to read all of its fields. -/
structure Sps.Readable (s : Sps) : Prop where
  profile : s.profileIdc ∉ [44, 83, 86]
  offsets : ∀ x ∈ s.poc.offsets, codeNum x + 1 < 2 ^ 16
  sizes : Whole s.head.length s.sizes
  crop : ∀ c, s.crop = some c → Whole s.cropStart c.codes

theorem highBits_reads {s : Sps} (hc : s.Conforming) (hr : s.Readable) :
    Reads (bitAt m)
      (profileFields m ((BitVec.ofNat 8 (value (ofNat 8 s.profileIdc))).signExtend 32)) i
      s.highBits () := by
  have hprofile := profile_ge_iff s.profileIdc hc.profile hr.profile
  unfold Sps.highBits
  split
  · rename_i hmem
    exact profileFields_reads (hprofile.2 hmem) (hc.high hmem)
  · rename_i hmem
    rw [profileFields, if_neg fun hle => hmem (hprofile.1 hle)]
    exact Reads.pure ()

theorem h264Size_reads {s : Sps} (hc : s.Conforming) (hr : s.Readable) :
    Reads (bitAt m) (h264Size m) 0 (s.head ++ s.sizes.flatMap ue ++ s.flags ++ s.cropBits)
      (some s.codeSize) := by
  have hid := hc.id
  have hframe := hc.frameNum
  have hpoc : s.poc.type ≤ 2 := by
    cases s.poc <;> simp [Poc.type]
  rw [Sps.head]
  simp only [List.append_assoc]
  rw [← List.append_assoc (ofNat 8 s.constraints)]
  refine Reads.bind (getBits_reads (length_ofNat ..) (by omega) (by omega)) ?_
  refine Reads.bind (skipBits_reads (by simp)) ?_
  refine Reads.bind (skipUeGolomb_reads (by omega)) ?_
  refine Reads.bind (highBits_reads hc hr) ?_
  refine Reads.bind (skipUeGolomb_reads (by omega)) ?_
  refine Reads.bind (getUeGolomb_reads_small (by omega)) ?_
  refine Reads.bind (pocFields_reads hc.poc hr.offsets) ?_
  rw [if_neg (by omega)]
  refine Reads.map _ ?_
  simp only [← List.append_assoc]
  apply sizeFields_reads hc
  · convert hr.sizes using 1
    simp only [Sps.head, List.length_append, List.length_singleton]
    omega
  · intro c hcc
    convert hr.crop c hcc using 1
    simp only [Sps.cropStart, Sps.head, List.length_append, List.length_singleton]
    omega

/-! ## The VUI parameters -/

/-- Two signed halves of 16 bits as `get_bits_long` puts them together. -/
def joined (a b : BitVec 16) : BitVec 32 := (a.signExtend 32 <<< 16) ||| b.signExtend 32

theorem getBitsLong_reads (n : Nat) : Reads (bitAt m) (getBitsLong m 32) i (ofNat 32 n)
    (joined (BitVec.ofNat 16 (n / 2 ^ 16)) (BitVec.ofNat 16 n)) := by
  have hval : ∀ x, BitVec.ofNat 16 (value (ofNat 16 x)) = BitVec.ofNat 16 x := fun x => by
    rw [value_ofNat]
    exact BitVec.eq_of_toNat_eq (by simp)
  rw [getBitsLong, if_neg (by omega), ofNat_add 16 16, joined, ← hval (n / 2 ^ 16), ← hval n]
  refine Reads.bind (getBits_reads (length_ofNat ..) (by omega) (by omega)) ?_
  exact Reads.map _ (getBits_reads (length_ofNat ..) (by omega) (by omega))

theorem getLsbD_joined_low (a b : BitVec 16) {j : Nat} (hj : j < 16) :
    (joined a b).getLsbD j = b.getLsbD j := by
  rw [joined, BitVec.getLsbD_or, BitVec.getLsbD_shiftLeft, BitVec.getLsbD_signExtend (x := b),
    if_pos hj, decide_eq_true hj, decide_eq_true (show j < 32 by omega)]
  simp

theorem getLsbD_joined_high (a : BitVec 16) {j : Nat} (hj : j < 16) :
    (joined a 0).getLsbD (16 + j) = a.getLsbD j := by
  rw [joined, BitVec.getLsbD_or, BitVec.getLsbD_shiftLeft, BitVec.getLsbD_signExtend,
    Nat.add_sub_cancel_left, if_pos hj, decide_eq_true (show 16 + j < 32 by omega),
    decide_eq_false (show ¬16 + j < 16 by omega), decide_eq_true (show j < 32 by omega)]
  simp

theorem joined_eq_min {a b : BitVec 16} (h : joined a b = 0x80000000) : a = 0x8000 ∧ b = 0 := by
  have hlow : ∀ j < 16, (0x80000000 : BitVec 32).getLsbD j = (0 : BitVec 16).getLsbD j := by
    decide
  have hhigh : ∀ j < 16, (0x80000000 : BitVec 32).getLsbD (16 + j) =
      (0x8000 : BitVec 16).getLsbD j := by
    decide
  have hb : b = 0 := by
    apply BitVec.eq_of_getLsbD_eq
    intro j hj
    rw [← getLsbD_joined_low a b hj, h, hlow j hj]
  subst hb
  refine ⟨?_, rfl⟩
  apply BitVec.eq_of_getLsbD_eq
  intro j hj
  rw [← getLsbD_joined_high a hj, h, hhigh j hj]

/-- Twice a number that is not zero is zero for `0x80000000` only. -/
theorem joined_double_ne {n : Nat} (h : n % 2 ^ 32 ≠ 2 ^ 31)
    (hne : joined (BitVec.ofNat 16 (n / 2 ^ 16)) (BitVec.ofNat 16 n) ≠ 0) :
    2 * joined (BitVec.ofNat 16 (n / 2 ^ 16)) (BitVec.ofNat 16 n) ≠ 0 := by
  intro hzero
  have hmin : joined (BitVec.ofNat 16 (n / 2 ^ 16)) (BitVec.ofNat 16 n) = 0x80000000 := by
    generalize joined (BitVec.ofNat 16 (n / 2 ^ 16)) (BitVec.ofNat 16 n) = x at hne hzero ⊢
    bv_omega
  obtain ⟨ha, hb⟩ := joined_eq_min hmin
  have ha : n / 2 ^ 16 % 2 ^ 16 = 0x8000 := congrArg BitVec.toNat ha
  have hb : n % 2 ^ 16 = 0 := congrArg BitVec.toNat hb
  omega

/-- VUI parameters that the code reads as they are and whose frame rate it can compute. -/
structure Vui.Regular (v : Vui) : Prop where
  aspectRatio : ∀ a, v.aspectRatio = some a → a.1 ≠ extendedSar
  timing : ∀ t, v.timing = some t → t.1 % 2 ^ 32 ≠ 2 ^ 31

/-- The VUI parameters as they are read: no sample aspect ratio is read behind `Extended_SAR`. -/
def Vui.codeBits (v : Vui) : List Bool :=
  flagged (fun a => ofNat 8 a.1) v.aspectRatio ++ flagged (fun b => [b]) v.overscan ++
    flagged VideoSignal.bits v.videoSignal ++ flagged (fun c => ue c.1 ++ ue c.2) v.chromaLoc ++
    flagged (fun t => ofNat 32 t.1 ++ ofNat 32 t.2) v.timing

/-- The codes have at most 31 bits, and twice `num_units_in_tick` is not zero unless it is. -/
structure Vui.Defined (v : Vui) : Prop where
  chromaLoc : ∀ c, v.chromaLoc = some c → c.1 + 1 < 2 ^ 16 ∧ c.2 + 1 < 2 ^ 16
  timing : ∀ t, v.timing = some t → t.1 % 2 ^ 32 ≠ 2 ^ 31

theorem rate_reads {num scale : BitVec 32} {rate : Int} (h : num ≠ 0 → 2 * num ≠ 0) :
    ∃ r, Reads (bitAt m) (if num ≠ 0 then frameRate num scale else pure rate) i [] r := by
  by_cases hnum : num = 0
  · rw [if_neg (not_not_intro hnum)]
    exact ⟨rate, Reads.pure rate⟩
  · rw [if_pos hnum]
    refine ⟨(scale.sdiv (2 * num)).toInt, fun _ => ?_⟩
    rw [frameRate, if_neg (h hnum)]
    rfl

theorem timingFields_reads {o : Option (Nat × Nat)} {rate : Int}
    (h : ∀ t, o = some t → t.1 % 2 ^ 32 ≠ 2 ^ 31) :
    ∃ r, Reads (bitAt m) (timingFields m rate) i
      (flagged (fun t => ofNat 32 t.1 ++ ofNat 32 t.2) o) r := by
  cases o with
  | none =>
    rw [flagged_none]
    exact (getOneBit_reads false).bind_exists ⟨rate, Reads.pure rate⟩
  | some t =>
    rw [flagged_some, ← List.append_nil (ofNat 32 t.2)]
    refine (getOneBit_reads true).bind_exists ?_
    refine (getBitsLong_reads t.1).bind_exists ?_
    refine (getBitsLong_reads t.2).bind_exists ?_
    exact rate_reads (joined_double_ne (h t rfl))

/-- `tmp == 255` is never true: the field is read as a signed one. -/
theorem aspectRatio_ne : ∀ b : BitVec 8, b.signExtend 32 ≠ 255 := by
  decide

theorem aspectRatio_reads (n : Nat) :
    Reads (bitAt m) (do let tmp ← getBits m 8; if tmp = 255 then skipBits 32 else pure ()) i
      (ofNat 8 n) () := by
  rw [← List.append_nil (ofNat 8 n)]
  refine Reads.bind (getBits_reads (length_ofNat ..) (by omega) (by omega)) ?_
  rw [if_neg (aspectRatio_ne _)]
  exact Reads.pure ()

theorem videoSignal_reads (v : VideoSignal) :
    Reads (bitAt m) (do
      skipBits 3
      skipBits 1
      ifOneBit m do
        skipBits 8
        skipBits 8
        skipBits 8) i v.bits () := by
  rw [VideoSignal.bits, List.append_assoc]
  refine Reads.bind (skipBits_reads (length_ofNat ..)) ?_
  refine Reads.bind (skipBits_reads rfl) ?_
  refine ifOneBit_reads fun colour _ i => ?_
  rw [ofNat_add 8 16, ofNat_add 8 8]
  refine Reads.bind (skipBits_reads (length_ofNat ..)) ?_
  refine Reads.bind (skipBits_reads (length_ofNat ..)) ?_
  exact skipBits_reads (length_ofNat ..)

theorem vuiFields_reads {o : Option Vui} {rate : Int} (h : ∀ v, o = some v → v.Defined) :
    ∃ r, Reads (bitAt m) (vuiFields m rate) i (flagged Vui.codeBits o) r := by
  cases o with
  | none =>
    rw [flagged_none]
    exact (getOneBit_reads false).bind_exists ⟨rate, Reads.pure rate⟩
  | some v =>
    have hv := h v rfl
    rw [flagged_some, Vui.codeBits]
    simp only [List.append_assoc]
    refine (getOneBit_reads true).bind_exists ?_
    refine Reads.bind_exists (ifOneBit_reads fun a _ i => aspectRatio_reads a.1) ?_
    refine Reads.bind_exists (ifOneBit_reads fun b _ i => skipBits_reads rfl) ?_
    refine Reads.bind_exists (ifOneBit_reads fun x _ i => videoSignal_reads x) ?_
    refine Reads.bind_exists (ifOneBit_reads fun c hc i => ?_) ?_
    · obtain ⟨hfirst, hsecond⟩ := hv.chromaLoc c hc
      exact (skipUeGolomb_reads hfirst).bind (skipUeGolomb_reads hsecond)
    exact timingFields_reads hv.timing

/-- Only codes of at most 31 bits are read. -/
theorem chromaLoc_some {o : Option (Nat × Nat)} {r : Unit × Nat}
    (hat : At (bitAt m) i (flagged (fun c => ue c.1 ++ ue c.2) o))
    (h : ifOneBit m (do skipUeGolomb m; skipUeGolomb m) i = some r) :
    ∀ c, o = some c → c.1 + 1 < 2 ^ 16 ∧ c.2 + 1 < 2 ^ 16 := by
  rintro c rfl
  rw [flagged_some] at hat
  obtain ⟨h, hat⟩ := (getOneBit_reads true).rest hat h
  rw [if_pos rfl] at h
  obtain ⟨hfirst, hsecond⟩ := at_append.1 hat
  obtain ⟨_, _, hskip, h⟩ := bind_some h
  obtain ⟨a, ha, hata, rfl⟩ := skipUeGolomb_some hskip
  obtain rfl := ue_inj hfirst hata
  obtain ⟨b, hb, hatb, -⟩ := skipUeGolomb_some h
  obtain rfl := ue_inj hsecond hatb
  exact ⟨ha, hb⟩

theorem joined_min {n : Nat} (h : n % 2 ^ 32 = 2 ^ 31) :
    joined (BitVec.ofNat 16 (n / 2 ^ 16)) (BitVec.ofNat 16 n) = 0x80000000 := by
  have hhigh : BitVec.ofNat 16 (n / 2 ^ 16) = 0x8000 := by
    apply BitVec.eq_of_toNat_eq
    show n / 2 ^ 16 % 2 ^ 16 = 0x8000
    omega
  have hlow : BitVec.ofNat 16 n = 0 := by
    apply BitVec.eq_of_toNat_eq
    show n % 2 ^ 16 = 0
    omega
  rw [hhigh, hlow]
  decide

/-- The frame rate is computed of no `num_units_in_tick` that is zero when doubled. -/
theorem timingFields_some {o : Option (Nat × Nat)} {rate : Int} {r : Int × Nat}
    (hat : At (bitAt m) i (flagged (fun t => ofNat 32 t.1 ++ ofNat 32 t.2) o))
    (h : timingFields m rate i = some r) : ∀ t, o = some t → t.1 % 2 ^ 32 ≠ 2 ^ 31 := by
  rintro t rfl hmin
  rw [flagged_some] at hat
  obtain ⟨h, hat⟩ := (getOneBit_reads true).rest hat h
  rw [if_pos rfl] at h
  obtain ⟨h, hat⟩ := (getBitsLong_reads t.1).rest hat h
  rw [← List.append_nil (ofNat 32 t.2)] at hat
  obtain ⟨h, -⟩ := (getBitsLong_reads t.2).rest hat h
  rw [joined_min hmin, if_pos (by decide), frameRate, if_pos (by decide)] at h
  cases h

/-- **Only such VUI parameters are read**. -/
theorem defined_of_vuiFields {v : Vui} {rate : Int} {r : Int × Nat}
    (hat : At (bitAt m) i (flagged Vui.codeBits (some v))) (h : vuiFields m rate i = some r) :
    v.Defined := by
  rw [flagged_some, Vui.codeBits] at hat
  simp only [List.append_assoc] at hat
  obtain ⟨h, hat⟩ := (getOneBit_reads true).rest hat h
  rw [if_pos rfl] at h
  obtain ⟨h, hat⟩ := (ifOneBit_reads fun a _ i => aspectRatio_reads a.1).rest hat h
  obtain ⟨h, hat⟩ := (ifOneBit_reads fun b _ i => skipBits_reads (n := 1) rfl).rest hat h
  obtain ⟨h, hat⟩ := (ifOneBit_reads fun x _ i => videoSignal_reads x).rest hat h
  obtain ⟨_, _, hchroma, -⟩ := bind_some h
  have hshort := chromaLoc_some (at_append.1 hat).1 hchroma
  obtain ⟨h, hat⟩ := (ifOneBit_reads fun c hc i => (skipUeGolomb_reads (hshort c hc).1).bind
    (skipUeGolomb_reads (hshort c hc).2)).rest hat h
  exact ⟨hshort, timingFields_some hat h⟩

end StreamSwitch.DecSps
