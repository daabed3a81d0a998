import StreamSwitch.FfmpegSender.Checked
import Mathlib.Data.List.Basic

/-!
# The SPS analysers in a buffer that ends

`H264_Analyse` and `H265_Analyse` again, with the readers that fail outside of the bytes that are
copied. `h264Analyse_iff` and `h265Analyse_iff` say what has to be in the copy that they do not fail:
a sentence of the syntax as these functions know it, of which all that is read is there.
-/

namespace StreamSwitch.DecSps

open Bits Sentences

namespace Checked

/-! ## The code -/

section Fields

variable (w : Bytes)

def skipUeGolomb : Read Unit := do
  let _ ← getUeGolomb w
  return ()

def skipSeGolombs : (n : Nat) → Read Unit
  | 0 => pure ()
  | n + 1 => do
    let _ ← getSeGolomb w
    skipSeGolombs n

/-- `p` if a flag is set that is read with `H264_get_one_bit`. -/
def ifOneBit (p : Read Unit) : Read Unit := do
  let flag ← getOneBit w
  if flag then p else pure ()

/-- `p` if a flag is set that is read with `H264_get_bits`. -/
def ifBits (p : Read Unit) : Read Unit := do
  let flag ← getBits w 1
  if flag ≠ 0 then p else pure ()

/-- `next` of the next entry of a scaling list. -/
def nextScale (last next : Int) : Read Int :=
  if next ≠ 0 then do
    let delta ← getSeGolomb w
    return (last + delta) % 256
  else return next

def scalingList : (t : Nat) → (last next : Int) → Read Unit
  | 0, _, _ => pure ()
  | t + 1, last, next => do
    let next ← nextScale w last next
    scalingList t (if next ≠ 0 then next else last) next

def scalingLists : Read Unit :=
  (List.range 8).forM fun idx => ifBits w (scalingList w (if 6 ≤ idx then 64 else 16) 8 8)

/-- What `H264_Analyse` reads for `profile>=100`. -/
def highFields : Read Unit := do
  skipUeGolomb w
  skipUeGolomb w
  skipUeGolomb w
  skipBits 1
  ifBits w (scalingLists w)

def profileFields (profile : BitVec 32) : Read Unit :=
  if 100 ≤ profile.toNat then highFields w else pure ()

/-- What is read before the picture order count. -/
def frontFields : Read Unit := do
  let profile ← getBits w 8
  skipBits 16
  skipUeGolomb w
  profileFields w profile
  skipUeGolomb w

/-- The fields of the picture order count; its type. -/
def pocFields : Read Int := do
  let pocType ← getUeGolomb w
  if pocType = 0 then do
    skipUeGolomb w
    return pocType
  else if pocType = 1 then do
    skipBits 1
    skipSeGolombs w 2
    let pocCycleLength ← getUeGolomb w
    skipSeGolombs w pocCycleLength.toNat
    return pocType
  else return pocType

/-- The cropping offsets: left, right, top and bottom. -/
def cropFields : Read (Int × Int × Int × Int) := do
  let flagB ← getOneBit w
  if flagB then do
    let cropLeft ← getUeGolomb w
    let cropRight ← getUeGolomb w
    let cropTop ← getUeGolomb w
    let cropBottom ← getUeGolomb w
    return (cropLeft, cropRight, cropTop, cropBottom)
  else return (0, 0, 0, 0)

def sizeFields : Read (Int × Int) := do
  skipUeGolomb w
  skipBits 1
  let mbWidth ← getUeGolomb w
  let mbHeight ← getUeGolomb w
  let flagA ← getOneBit w
  skipBits (if flagA then 0 else 1)
  skipBits 1
  let crop ← cropFields w
  return frameSize (mbWidth + 1) (mbHeight + 1) flagA crop

/-- `timeScale/(2*num_units_in_tick)`. -/
def frameRate (num scale : BitVec 32) : Read Int := fun i =>
  if 2 * num = 0 then .error .division else .ok ((scale.sdiv (2 * num)).toInt, i)

/-- The timing information: the frame rate, if there is one. -/
def timingFields (framerate : Int) : Read Int := do
  let flag ← getOneBit w
  if flag then do
    let numUnitsInTick ← getBitsLong w
    let timeScale ← getBitsLong w
    if numUnitsInTick ≠ 0 then frameRate numUnitsInTick timeScale else return framerate
  else return framerate

def aspectFields : Read Unit := do
  let tmp ← getBits w 8
  if tmp = 255 then skipBits 32 else pure ()

def videoSignalFields : Read Unit := do
  skipBits 3
  skipBits 1
  ifOneBit w do
    skipBits 8
    skipBits 8
    skipBits 8

def chromaLocFields : Read Unit := do
  skipUeGolomb w
  skipUeGolomb w

/-- The VUI parameters, as far as `H264_Analyse` reads them. -/
def vuiFields (framerate : Int) : Read Int := do
  let flag ← getOneBit w
  if flag then do
    ifOneBit w (aspectFields w)
    ifOneBit w (skipBits 1)
    ifOneBit w (videoSignalFields w)
    ifOneBit w (chromaLocFields w)
    timingFields w framerate
  else return framerate

/-- What `H264_Analyse` reads, and what it returns. -/
def h264Fields (out : Out) : Read (Int × Out) := do
  frontFields w
  let pocType ← pocFields w
  if 2 < pocType then return (-1, out)
  else do
    let size ← sizeFields w
    let rate ← vuiFields w out.framerate
    return (1, ⟨size.1, size.2, rate⟩)

/-- What `H265_Analyse` reads, and what it returns. -/
def h265Fields (out : Out) : Read (Int × Out) := do
  skipBits (8 + 8 + 32 + 4 + 32 + 20)
  skipUeGolomb w
  skipUeGolomb w
  let width ← getUeGolomb w
  let height ← getUeGolomb w
  let crop ← cropFields w
  return (2, { out with
    width := width - 2 * (crop.1 + crop.2.1), height := height - 2 * (crop.2.2.1 + crop.2.2.2) })

end Fields

/-- The loop of `remove_0x03` with so many places to go. -/
def removeLoop : (src : Bytes) → (places : Nat) → Except Fault Bytes
  | _, 0 => .ok []
  | a :: b :: c :: src, places + 1 =>
    if a = 0 ∧ b = 0 ∧ c = 3 then do
      let dst ← removeLoop src (places - 2)
      return a :: b :: dst
    else do
      let dst ← removeLoop (b :: c :: src) places
      return a :: dst
  | _, _ => .error .read

/-- `remove_0x03`. The last place is an `int`. -/
def remove (src : Bytes) (size : Int) : Except Fault Bytes :=
  removeLoop src ((size - 2).bmod (2 ^ 32)).toNat

/-- `H264_init_get_bits`: the size of the buffer, of which four bytes are read. -/
def initGetBits (buffer : Bytes) (bitSize : Int) : Except Fault Unit :=
  if (bitSize + 7) / 8 < 0 then .error .size
  else if buffer.length < 4 then .error .read else .ok ()

/-- The two functions: the copy, and the fields behind its header. -/
def analyse (header : Nat) (fields : Bytes → Read (Int × Out)) (pBuf : Bytes) (nSize : Int) :
    Except Fault (Int × Out) := do
  let spsNal ← remove pBuf (min nSize 512)
  initGetBits (spsNal.drop header) (spsNal.length - header)
  let r ← fields (spsNal.drop header) 0
  return r.1

/-- `H264_Analyse`. -/
def h264Analyse (pBuf : Bytes) (nSize : Int) (out : Out) : Except Fault (Int × Out) :=
  analyse 4 (h264Fields · out) pBuf nSize

/-- `H265_Analyse`. -/
def h265Analyse (pBuf : Bytes) (nSize : Int) (out : Out) : Except Fault (Int × Out) :=
  analyse 5 (h265Fields · out) pBuf nSize

/-! ## The syntax -/

/-- A part that is there if a flag is set. -/
def optional {S : Type} (flag : Bool → Token) (toks : S → List Token) : Option S → List Token
  | none => [flag false]
  | some s => flag true :: toks s

/-- A flag that is read as a field. -/
def flagField (b : Bool) : Token := .field (BitVec.ofBool b)

def codes (vs : List Nat) : List Token := vs.map .code

/-- The codes of a scaling list of so many entries: there are none for the entries behind one that
is zero. -/
def IsScalingList : (t : Nat) → (last next : Int) → List Nat → Prop
  | 0, _, _, vs => vs = []
  | t + 1, last, next, vs =>
    if next = 0 then IsScalingList t last next vs
    else ∃ v vs', vs = v :: vs' ∧
      IsScalingList t (if (last + seValue v) % 256 = 0 then last else (last + seValue v) % 256)
        ((last + seValue v) % 256) vs'

/-- The fields that are read for a profile from 100 on. -/
structure HighCodes where
  chromaFormat : Nat
  lumaDepth : Nat
  chromaDepth : Nat
  scalingLists : Option (List (Option (List Nat)))

namespace HighCodes

def tokens (h : HighCodes) : List Token :=
  codes [h.chromaFormat, h.lumaDepth, h.chromaDepth] ++ .skip 1 ::
    optional flagField (fun lists => lists.flatMap (optional flagField codes)) h.scalingLists

/-- There are eight scaling lists, the last two of 64 entries. -/
def Valid (h : HighCodes) : Prop :=
  ∀ lists, h.scalingLists = some lists → List.Forall₂ (fun idx list => ∀ vs, list = some vs →
    IsScalingList (if 6 ≤ idx then 64 else 16) 8 8 vs) (List.range 8) lists

end HighCodes

/-- The fields before the picture order count. -/
structure FrontCodes where
  profile : BitVec 8
  id : Nat
  high : Option HighCodes
  log2MaxFrameNum : Nat

namespace FrontCodes

def tokens (f : FrontCodes) : List Token :=
  [.field f.profile, .skip 16, .code f.id] ++ f.high.elim [] HighCodes.tokens ++
    [.code f.log2MaxFrameNum]

structure Valid (f : FrontCodes) : Prop where
  profile : f.high ≠ none ↔ 100 ≤ f.profile.toNat
  high : ∀ h, f.high = some h → h.Valid

end FrontCodes

inductive PocCodes
  | lsb (v : Nat)
  | cycle (nonRefPic topToBottom : Nat) (refFrames : List Nat)
  /-- A type that has no fields. -/
  | other (type : Nat)

namespace PocCodes

def type : PocCodes → Nat
  | lsb _ => 0
  | cycle .. => 1
  | other type => type

def tokens : PocCodes → List Token
  | lsb v => codes [0, v]
  | cycle nonRefPic topToBottom refFrames =>
    .code 1 :: .skip 1 :: codes (nonRefPic :: topToBottom :: refFrames.length :: refFrames)
  | other type => codes [type]

def Valid (p : PocCodes) : Prop := ∀ type, p = other type → 2 ≤ type

end PocCodes

/-- Four integers, as the cropping offsets are kept. -/
def cropInts : Option Crop → Int × Int × Int × Int
  | none => (0, 0, 0, 0)
  | some c => (c.left, c.right, c.top, c.bottom)

def cropTokens (crop : Option Crop) : List Token := optional .bit (fun c => codes c.codes) crop

structure SizeCodes where
  refFrames : Nat
  mbWidth : Nat
  mbHeight : Nat
  flagA : Bool
  crop : Option Crop

namespace SizeCodes

def tokens (s : SizeCodes) : List Token :=
  [.code s.refFrames, .skip 1, .code s.mbWidth, .code s.mbHeight, .bit s.flagA,
    .skip (if s.flagA then 0 else 1), .skip 1] ++ cropTokens s.crop

def size (s : SizeCodes) : Int × Int :=
  frameSize (s.mbWidth + 1) (s.mbHeight + 1) s.flagA (cropInts s.crop)

end SizeCodes

/-- `num_units_in_tick` and `time_scale`, in halves. -/
structure Timing where
  num : BitVec 16 × BitVec 16
  scale : BitVec 16 × BitVec 16

/-- What `get_bits_long` makes of two halves that are read as signed numbers. -/
def long (halves : BitVec 16 × BitVec 16) : BitVec 32 :=
  halves.1.signExtend 32 <<< 16 ||| halves.2.signExtend 32

namespace Timing

def tokens (t : Timing) : List Token :=
  [.field t.num.1, .field t.num.2, .field t.scale.1, .field t.scale.2]

/-- Twice the number of units is not zero as an `int`. -/
def Valid (t : Timing) : Prop := long t.num ≠ BitVec.intMin 32

/-- `*framerate`, if it was `framerate` before. -/
def rate (t : Timing) (framerate : Int) : Int :=
  if long t.num ≠ 0 then ((long t.scale).sdiv (2 * long t.num)).toInt else framerate

end Timing

structure VuiCodes where
  aspectRatio : Option (BitVec 8)
  /-- Whether there is overscan information. -/
  overscan : Bool
  /-- Whether there is a colour description in the description of the video signal. -/
  videoSignal : Option Bool
  chromaLoc : Option (Nat × Nat)
  timing : Option Timing

/-- A part without a meaning, if a flag is set. -/
def ifSet (toks : List Token) (b : Bool) : List Token := .bit b :: if b then toks else []

namespace VuiCodes

def tokens (v : VuiCodes) : List Token :=
  optional .bit (fun a => [.field a]) v.aspectRatio ++ ifSet [.skip 1] v.overscan ++
    optional .bit (fun colour => [.skip 3, .skip 1] ++ ifSet [.skip 8, .skip 8, .skip 8] colour)
      v.videoSignal ++
    optional .bit (fun c => codes [c.1, c.2]) v.chromaLoc ++ optional .bit Timing.tokens v.timing

def Valid (v : VuiCodes) : Prop := ∀ t, v.timing = some t → t.Valid

def rate (v : VuiCodes) (framerate : Int) : Int :=
  v.timing.elim framerate fun t => t.rate framerate

end VuiCodes

/-- A parameter set as `H264_Analyse` reads it: up to a picture order count that it refuses, or up to
the timing information. -/
inductive SpsCodes
  | refused (front : FrontCodes) (pocType : Nat)
  | sized (front : FrontCodes) (poc : PocCodes) (size : SizeCodes) (vui : Option VuiCodes)

namespace SpsCodes

def tokens : SpsCodes → List Token
  | refused front pocType => front.tokens ++ codes [pocType]
  | sized front poc size vui =>
    front.tokens ++ poc.tokens ++ size.tokens ++ optional .bit VuiCodes.tokens vui

def Valid : SpsCodes → Prop
  | refused front pocType => front.Valid ∧ 2 < pocType
  | sized front poc _ vui => front.Valid ∧ poc.Valid ∧ poc.type ≤ 2 ∧ ∀ v, vui = some v → v.Valid

/-- What `H264_Analyse` returns. -/
def result (out : Out) : SpsCodes → Int × Out
  | refused .. => (-1, out)
  | sized _ _ size vui =>
    (1, ⟨size.size.1, size.size.2, vui.elim out.framerate fun v => v.rate out.framerate⟩)

end SpsCodes

/-- A parameter set as `H265_Analyse` reads it. -/
def h265Tokens (c : Codes) : List Token :=
  .skip 104 :: codes [c.id, c.chromaFormat, c.picWidth, c.picHeight] ++ cropTokens c.window

/-- What `H265_Analyse` returns. -/
def h265Result (out : Out) (c : Codes) : Int × Out :=
  let crop := cropInts c.window
  (2, { out with
    width := c.picWidth - 2 * (crop.1 + crop.2.1)
    height := c.picHeight - 2 * (crop.2.2.1 + crop.2.2.2) })

/-! ## What the readers accept -/

section Parsing

variable {w : Bytes}

theorem skipUeGolomb_parses :
    Parses (text w) (skipUeGolomb w) fun ts _ => ∃ v, ts = codes [v] := by
  refine (getUeGolomb_parses.bind fun _ => Parses.pure ()).congr fun ts a => ?_
  constructor
  · rintro ⟨_, _, _, ⟨v, rfl, rfl⟩, ⟨rfl, -⟩, rfl⟩
    exact ⟨v, rfl⟩
  · rintro ⟨v, rfl⟩
    exact ⟨_, _, _, ⟨v, rfl, rfl⟩, ⟨rfl, rfl⟩, rfl⟩

theorem skipSeGolombs_parses (n : Nat) : Parses (text w) (skipSeGolombs w n) fun ts _ =>
    ∃ vs : List Nat, vs.length = n ∧ ts = codes vs := by
  induction n with
  | zero =>
    refine (Parses.pure ()).congr fun ts a => ?_
    constructor
    · rintro ⟨rfl, -⟩
      exact ⟨[], rfl, rfl⟩
    · rintro ⟨vs, hvs, rfl⟩
      rw [List.length_eq_zero_iff.1 hvs]
      exact ⟨rfl, rfl⟩
  | succ n ih =>
    refine (getSeGolomb_parses.bind fun _ => ih).congr fun ts a => ?_
    constructor
    · rintro ⟨_, _, _, ⟨v, rfl, rfl⟩, ⟨vs, rfl, rfl⟩, rfl⟩
      exact ⟨v :: vs, rfl, rfl⟩
    · rintro ⟨vs, hvs, rfl⟩
      obtain ⟨v, vs, rfl⟩ := List.exists_cons_of_length_eq_add_one hvs
      exact ⟨_, _, _, ⟨v, rfl, rfl⟩, ⟨vs, Nat.succ.inj hvs, rfl⟩, rfl⟩

section Flags

variable {S : Type} {P : S → Prop} {toks : S → List Token} {p : Read Unit}

theorem getOneBit_flag : Parses (text w) (getOneBit w) fun ts a => ∃ b, ts = [.bit b] ∧ a = b := by
  refine getOneBit_parses.congr fun ts a => ?_
  constructor
  · rintro rfl
    exact ⟨a, rfl, rfl⟩
  · rintro ⟨b, rfl, rfl⟩
    rfl

theorem getBits_flag : Parses (text w) (getBits w 1) fun ts a =>
    ∃ b, ts = [flagField b] ∧ a = (BitVec.ofBool b).signExtend 32 := by
  refine (getBits_parses Nat.one_pos (by decide)).congr fun ts a => ?_
  constructor
  · rintro ⟨v, rfl, rfl⟩
    obtain ⟨b, rfl⟩ := exists_ofBool v
    exact ⟨b, rfl, rfl⟩
  · rintro ⟨b, rfl, rfl⟩
    exact ⟨_, rfl, rfl⟩

theorem optional_eq (flag : Bool → Token) (o : Option S) :
    o.elim [flag false] ([flag true] ++ toks ·) = optional flag toks o := by
  cases o with
  | none => rfl
  | some s => rfl

theorem ifOneBit_parses (h : Parses (text w) p fun ts _ => ∃ s, P s ∧ ts = toks s) :
    Parses (text w) (ifOneBit w p) fun ts _ =>
      ∃ o : Option S, (∀ s, o = some s → P s) ∧ ts = optional .bit toks o := by
  simp only [← optional_eq]
  exact Parses.optional getOneBit_flag (fun _ => Iff.rfl) h

theorem ifBits_parses (h : Parses (text w) p fun ts _ => ∃ s, P s ∧ ts = toks s) :
    Parses (text w) (ifBits w p) fun ts _ =>
      ∃ o : Option S, (∀ s, o = some s → P s) ∧ ts = optional flagField toks o := by
  simp only [← optional_eq]
  exact Parses.optional getBits_flag (by decide) h

end Flags

/-! ## The front -/

theorem nextScale_parses (last next : Int) : Parses (text w) (nextScale w last next) fun ts a =>
    if next = 0 then ts = [] ∧ a = 0
    else ∃ v, ts = codes [v] ∧ a = (last + seValue v) % 256 := by
  unfold nextScale
  by_cases hn : next = 0
  · rw [if_neg (not_not_intro hn), hn]
    simpa using Parses.pure (T := text w) (0 : Int)
  · rw [if_pos hn]
    refine (getSeGolomb_parses.bind fun delta => Parses.pure _).congr fun ts a => ?_
    rw [if_neg hn]
    constructor
    · rintro ⟨_, _, _, ⟨v, rfl, rfl⟩, ⟨rfl, rfl⟩, rfl⟩
      exact ⟨v, rfl, rfl⟩
    · rintro ⟨v, rfl, rfl⟩
      exact ⟨_, _, _, ⟨v, rfl, rfl⟩, ⟨rfl, rfl⟩, rfl⟩

theorem scalingList_parses (t : Nat) (last next : Int) :
    Parses (text w) (scalingList w t last next) fun ts _ =>
      ∃ vs, IsScalingList t last next vs ∧ ts = codes vs := by
  induction t generalizing last next with
  | zero =>
    refine (Parses.pure ()).congr fun ts a => ?_
    constructor
    · rintro ⟨rfl, -⟩
      exact ⟨[], rfl, rfl⟩
    · rintro ⟨_, rfl, rfl⟩
      exact ⟨rfl, rfl⟩
  | succ t ih =>
    refine ((nextScale_parses last next).bind fun next => ih _ next).congr fun ts a => ?_
    by_cases hn : next = 0
    · subst hn
      constructor
      · rintro ⟨_, _, _, ⟨rfl, rfl⟩, ⟨vs, hvs, rfl⟩, rfl⟩
        exact ⟨vs, hvs, rfl⟩
      · rintro ⟨vs, hvs, rfl⟩
        exact ⟨[], _, 0, ⟨rfl, rfl⟩, ⟨vs, hvs, rfl⟩, rfl⟩
    · constructor
      · rintro ⟨_, _, _, hv, ⟨vs, hvs, rfl⟩, rfl⟩
        rw [if_neg hn] at hv
        obtain ⟨v, rfl, rfl⟩ := hv
        refine ⟨v :: vs, ?_, rfl⟩
        rw [IsScalingList, if_neg hn]
        rw [ite_not] at hvs
        exact ⟨v, vs, rfl, hvs⟩
      · rintro ⟨vs, hvs, rfl⟩
        rw [IsScalingList, if_neg hn] at hvs
        obtain ⟨v, vs, rfl, hvs⟩ := hvs
        refine ⟨codes [v], codes vs, (last + seValue v) % 256, ?_, ⟨vs, ?_, rfl⟩, rfl⟩
        · simp only [if_neg hn]
          exact ⟨v, rfl, rfl⟩
        · rwa [ite_not]

theorem scalingLists_parses : Parses (text w) (scalingLists w) fun ts _ =>
    ∃ lists : List (Option (List Nat)), List.Forall₂ (fun idx list => ∀ vs, list = some vs →
      IsScalingList (if 6 ≤ idx then 64 else 16) 8 8 vs) (List.range 8) lists ∧
        ts = lists.flatMap (optional flagField codes) :=
  Parses.forM (fun _ => ifBits_parses (scalingList_parses _ 8 8)) _

theorem highFields_parses :
    Parses (text w) (highFields w) fun ts _ => ∃ h : HighCodes, h.Valid ∧ ts = h.tokens := by
  refine (skipUeGolomb_parses.bind fun _ => skipUeGolomb_parses.bind fun _ =>
    skipUeGolomb_parses.bind fun _ => (skipBits_parses 1).bind fun _ =>
      ifBits_parses scalingLists_parses).congr fun ts a => ?_
  constructor
  · rintro ⟨_, _, _, ⟨v₁, rfl⟩, ⟨_, _, _, ⟨v₂, rfl⟩, ⟨_, _, _, ⟨v₃, rfl⟩, ⟨_, _, _, rfl,
      ⟨o, ho, rfl⟩, rfl⟩, rfl⟩, rfl⟩, rfl⟩
    exact ⟨⟨v₁, v₂, v₃, o⟩, ho, rfl⟩
  · rintro ⟨h, hh, rfl⟩
    exact ⟨_, _, (), ⟨_, rfl⟩, ⟨_, _, (), ⟨_, rfl⟩, ⟨_, _, (), ⟨_, rfl⟩, ⟨_, _, (), rfl,
      ⟨_, hh, rfl⟩, rfl⟩, rfl⟩, rfl⟩, rfl⟩

/-- A profile is read as a signed number, and compared as an unsigned one. -/
theorem high_profile (profile : BitVec 8) :
    100 ≤ (profile.signExtend 32).toNat ↔ 100 ≤ profile.toNat := by
  revert profile
  decide +kernel

theorem profileFields_parses (profile : BitVec 32) :
    Parses (text w) (profileFields w profile) fun ts _ =>
      ∃ o : Option HighCodes, (o ≠ none ↔ 100 ≤ profile.toNat) ∧ (∀ h, o = some h → h.Valid) ∧
        ts = o.elim [] HighCodes.tokens := by
  unfold profileFields
  by_cases hp : 100 ≤ profile.toNat
  · rw [if_pos hp]
    refine highFields_parses.congr fun ts _ => ?_
    constructor
    · rintro ⟨h, hh, rfl⟩
      refine ⟨some h, iff_of_true (by simp) hp, ?_, rfl⟩
      rintro _ ⟨⟩
      exact hh
    · rintro ⟨o, ho, hvalid, rfl⟩
      obtain ⟨h, rfl⟩ := Option.ne_none_iff_exists'.1 (ho.2 hp)
      exact ⟨h, hvalid h rfl, rfl⟩
  · rw [if_neg hp]
    refine (Parses.pure ()).congr fun ts _ => ?_
    constructor
    · rintro ⟨rfl, -⟩
      refine ⟨none, iff_of_false (by simp) hp, ?_, rfl⟩
      rintro _ ⟨⟩
    · rintro ⟨o, ho, -, rfl⟩
      obtain rfl : o = none := not_not.1 fun h => hp (ho.1 h)
      exact ⟨rfl, rfl⟩

theorem frontFields_parses :
    Parses (text w) (frontFields w) fun ts _ => ∃ f : FrontCodes, f.Valid ∧ ts = f.tokens := by
  refine ((getBits_parses (n := 8) (by decide) (by decide)).bind fun profile =>
    (skipBits_parses 16).bind fun _ => skipUeGolomb_parses.bind fun _ =>
      (profileFields_parses profile).bind fun _ => skipUeGolomb_parses).congr fun ts a => ?_
  constructor
  · rintro ⟨_, _, _, ⟨profile, rfl, rfl⟩, ⟨_, _, _, rfl, ⟨_, _, _, ⟨id, rfl⟩, ⟨_, _, _,
      ⟨high, hp, hvalid, rfl⟩, ⟨log, rfl⟩, rfl⟩, rfl⟩, rfl⟩, rfl⟩
    exact ⟨⟨profile, id, high, log⟩, ⟨hp.trans (high_profile profile), hvalid⟩, rfl⟩
  · rintro ⟨f, hf, rfl⟩
    exact ⟨_, _, _, ⟨f.profile, rfl, rfl⟩, ⟨_, _, (), rfl, ⟨_, _, (), ⟨f.id, rfl⟩, ⟨_, _, (),
      ⟨f.high, hf.profile.trans (high_profile f.profile).symm, hf.high, rfl⟩,
        ⟨f.log2MaxFrameNum, rfl⟩, rfl⟩, rfl⟩, rfl⟩, rfl⟩

/-! ## The frame size -/

theorem pocFields_parses : Parses (text w) (pocFields w) fun ts a =>
    ∃ p : PocCodes, p.Valid ∧ ts = p.tokens ∧ a = p.type := by
  refine (getUeGolomb_parses.bind fun pocType =>
    (skipUeGolomb_parses.bind fun _ => Parses.pure pocType).ite (pocType = 0)
      (((skipBits_parses 1).bind fun _ => (skipSeGolombs_parses 2).bind fun _ =>
        getUeGolomb_parses.bind fun n => (skipSeGolombs_parses n.toNat).bind fun _ =>
          Parses.pure pocType).ite (pocType = 1) (Parses.pure pocType))).congr fun ts a => ?_
  constructor
  · rintro ⟨_, ys, _, ⟨type, rfl, rfl⟩, hys, rfl⟩
    by_cases h0 : type = 0
    · subst h0
      obtain ⟨_, _, _, ⟨v, rfl⟩, ⟨rfl, rfl⟩, rfl⟩ := hys
      refine ⟨.lsb v, ?_, rfl, rfl⟩
      rintro _ ⟨⟩
    · by_cases h1 : type = 1
      · subst h1
        obtain ⟨_, _, _, rfl, ⟨_, _, _, ⟨offsets, hoffsets, rfl⟩, ⟨_, _, _, ⟨n, rfl, rfl⟩,
          ⟨_, _, _, ⟨refFrames, hframes, rfl⟩, ⟨rfl, rfl⟩, rfl⟩, rfl⟩, rfl⟩, rfl⟩ := hys
        obtain ⟨nonRefPic, topToBottom, rfl⟩ := List.length_eq_two.1 hoffsets
        obtain rfl : refFrames.length = n := hframes
        refine ⟨.cycle nonRefPic topToBottom refFrames, ?_, ?_, rfl⟩
        · rintro _ ⟨⟩
        · simp [PocCodes.tokens, codes]
      · have hlt : (type : Int) ≠ 0 ∧ (type : Int) ≠ 1 := by omega
        simp only [if_neg hlt.1, if_neg hlt.2] at hys
        obtain ⟨rfl, rfl⟩ := hys
        refine ⟨.other type, ?_, rfl, rfl⟩
        rintro _ ⟨⟩
        omega
  · rintro ⟨p, hp, rfl, rfl⟩
    cases p with
    | lsb v =>
      exact ⟨_, _, _, ⟨0, rfl, rfl⟩, ⟨_, _, (), ⟨v, rfl⟩, ⟨rfl, rfl⟩, rfl⟩, rfl⟩
    | cycle nonRefPic topToBottom refFrames =>
      refine ⟨_, _, _, ⟨1, rfl, rfl⟩, ⟨_, _, (), rfl, ⟨_, _, (), ⟨[nonRefPic, topToBottom], rfl, rfl⟩,
        ⟨_, _, _, ⟨refFrames.length, rfl, rfl⟩, ⟨_, _, (), ⟨refFrames, rfl, rfl⟩, ⟨rfl, rfl⟩, rfl⟩,
          rfl⟩, rfl⟩, rfl⟩, ?_⟩
      simp [PocCodes.tokens, codes]
    | other type =>
      have hle := hp type rfl
      have hlt : (type : Int) ≠ 0 ∧ (type : Int) ≠ 1 := by omega
      refine ⟨_, [], _, ⟨type, rfl, rfl⟩, ?_, rfl⟩
      simp only [if_neg hlt.1, if_neg hlt.2]
      trivial

theorem cropFields_parses : Parses (text w) (cropFields w) fun ts a =>
    ∃ c : Option Crop, ts = cropTokens c ∧ a = cropInts c := by
  refine (getOneBit_parses.bind fun b => (getUeGolomb_parses.bind fun l =>
    getUeGolomb_parses.bind fun r => getUeGolomb_parses.bind fun t =>
      getUeGolomb_parses.bind fun bottom => Parses.pure (l, r, t, bottom)).ite (b = true)
        (Parses.pure (0, 0, 0, 0))).congr fun ts a => ?_
  constructor
  · rintro ⟨_, ys, b, rfl, hys, rfl⟩
    cases b with
    | false =>
      obtain ⟨rfl, rfl⟩ := hys
      exact ⟨none, rfl, rfl⟩
    | true =>
      obtain ⟨_, _, _, ⟨l, rfl, rfl⟩, ⟨_, _, _, ⟨r, rfl, rfl⟩, ⟨_, _, _, ⟨t, rfl, rfl⟩, ⟨_, _, _,
        ⟨bottom, rfl, rfl⟩, ⟨rfl, rfl⟩, rfl⟩, rfl⟩, rfl⟩, rfl⟩ := hys
      exact ⟨some ⟨l, r, t, bottom⟩, rfl, rfl⟩
  · rintro ⟨c, rfl, rfl⟩
    cases c with
    | none => exact ⟨_, _, false, rfl, ⟨rfl, rfl⟩, rfl⟩
    | some c =>
      exact ⟨_, _, true, rfl, ⟨_, _, _, ⟨c.left, rfl, rfl⟩, ⟨_, _, _, ⟨c.right, rfl, rfl⟩, ⟨_, _, _,
        ⟨c.top, rfl, rfl⟩, ⟨_, _, _, ⟨c.bottom, rfl, rfl⟩, ⟨rfl, rfl⟩, rfl⟩, rfl⟩, rfl⟩, rfl⟩, rfl⟩

theorem sizeFields_parses : Parses (text w) (sizeFields w) fun ts a =>
    ∃ s : SizeCodes, ts = s.tokens ∧ a = s.size := by
  refine (skipUeGolomb_parses.bind fun _ => (skipBits_parses 1).andThen
    (getUeGolomb_parses.bind fun mbWidth => getUeGolomb_parses.bind fun mbHeight =>
      getOneBit_parses.bind fun flagA => (skipBits_parses (if flagA then 0 else 1)).andThen
        ((skipBits_parses 1).andThen (cropFields_parses.bind fun crop =>
          Parses.pure (frameSize (mbWidth + 1) (mbHeight + 1) flagA crop))))).congr fun ts a => ?_
  constructor
  · rintro ⟨_, _, _, ⟨v, rfl⟩, ⟨_, ⟨_, _, _, ⟨width, rfl, rfl⟩, ⟨_, _, _, ⟨height, rfl, rfl⟩,
      ⟨_, _, flagA, rfl, ⟨_, ⟨_, ⟨_, _, _, ⟨c, rfl, rfl⟩, ⟨rfl, rfl⟩, rfl⟩, rfl⟩, rfl⟩, rfl⟩, rfl⟩, rfl⟩,
        rfl⟩, rfl⟩
    exact ⟨⟨v, width, height, flagA, c⟩, by rw [List.append_nil]; rfl, rfl⟩
  · rintro ⟨s, rfl, rfl⟩
    refine ⟨_, _, (), ⟨s.refFrames, rfl⟩, ⟨_, ⟨_, _, _, ⟨s.mbWidth, rfl, rfl⟩, ⟨_, _, _,
      ⟨s.mbHeight, rfl, rfl⟩, ⟨_, _, s.flagA, rfl, ⟨_, ⟨_, ⟨_, _, _, ⟨s.crop, rfl, rfl⟩, ⟨rfl, rfl⟩,
        rfl⟩, rfl⟩, rfl⟩, rfl⟩, rfl⟩, rfl⟩, rfl⟩, ?_⟩
    rw [List.append_nil]
    rfl

/-! ## The VUI parameters -/

theorem getBitsLong_parses : Parses (text w) (getBitsLong w) fun ts a =>
    ∃ h : BitVec 16 × BitVec 16, ts = [.field h.1, .field h.2] ∧ a = long h := by
  refine ((getBits_parses (n := 16) (by decide) (by decide)).bind fun ret =>
    (getBits_parses (n := 16) (by decide) (by decide)).bind fun low =>
      Parses.pure (ret <<< 16 ||| low)).congr fun ts a => ?_
  constructor
  · rintro ⟨_, _, _, ⟨hi, rfl, rfl⟩, ⟨_, _, _, ⟨lo, rfl, rfl⟩, ⟨rfl, rfl⟩, rfl⟩, rfl⟩
    exact ⟨(hi, lo), rfl, rfl⟩
  · rintro ⟨h, rfl, rfl⟩
    exact ⟨_, _, _, ⟨h.1, rfl, rfl⟩, ⟨_, _, _, ⟨h.2, rfl, rfl⟩, ⟨rfl, rfl⟩, rfl⟩, rfl⟩

theorem two_mul_eq_zero {num : BitVec 32} (h : num ≠ 0) :
    2 * num = 0 ↔ num = BitVec.intMin 32 := by
  have hlt := num.isLt
  have hpos : num.toNat ≠ 0 := fun hz => h (BitVec.eq_of_toNat_eq hz)
  rw [← BitVec.toNat_inj, ← BitVec.toNat_inj, BitVec.toNat_mul, BitVec.toNat_intMin]
  change 2 * num.toNat % 2 ^ 32 = 0 ↔ num.toNat = 2 ^ 31
  omega

theorem frameRate_parses {num scale : BitVec 32} (h : num ≠ 0) :
    Parses (text w) (frameRate num scale) fun ts a =>
      num ≠ BitVec.intMin 32 ∧ ts = [] ∧ a = (scale.sdiv (2 * num)).toInt := by
  unfold frameRate
  by_cases hz : 2 * num = 0
  · simp only [if_pos hz]
    refine (Parses.never fun i => ⟨.division, rfl⟩).congr fun ts a => iff_of_false id fun hn => ?_
    exact hn.1 ((two_mul_eq_zero h).1 hz)
  · simp only [if_neg hz]
    refine (Parses.pure _).congr fun ts a => ?_
    rw [and_iff_right fun hn => hz ((two_mul_eq_zero h).2 hn)]

theorem rateOf_parses (num scale : BitVec 32) (framerate : Int) :
    Parses (text w) (if num ≠ 0 then frameRate num scale else pure framerate) fun ts a =>
      num ≠ BitVec.intMin 32 ∧ ts = [] ∧
        a = if num ≠ 0 then (scale.sdiv (2 * num)).toInt else framerate := by
  by_cases hn : num ≠ 0
  · simp only [if_pos hn]
    exact frameRate_parses hn
  · have hmin : num ≠ BitVec.intMin 32 := by
      rw [not_not.1 hn]
      decide
    simp only [if_neg hn]
    refine (Parses.pure _).congr fun ts a => ?_
    rw [and_iff_right hmin]

theorem timingFields_parses (framerate : Int) :
    Parses (text w) (timingFields w framerate) fun ts a =>
      ∃ o : Option Timing, (∀ t, o = some t → t.Valid) ∧ ts = optional .bit Timing.tokens o ∧
        a = o.elim framerate fun t => t.rate framerate := by
  refine (getOneBit_parses.bind fun b => (getBitsLong_parses.bind fun num =>
    getBitsLong_parses.bind fun scale => rateOf_parses num scale framerate).ite (b = true)
      (Parses.pure framerate)).congr fun ts a => ?_
  constructor
  · rintro ⟨_, ys, b, rfl, hys, rfl⟩
    cases b with
    | false =>
      obtain ⟨rfl, rfl⟩ := hys
      refine ⟨none, ?_, rfl, rfl⟩
      rintro _ ⟨⟩
    | true =>
      obtain ⟨_, _, _, ⟨num, rfl, rfl⟩, ⟨_, _, _, ⟨scale, rfl, rfl⟩, ⟨hn, rfl, rfl⟩, rfl⟩, rfl⟩ := hys
      refine ⟨some ⟨num, scale⟩, ?_, rfl, rfl⟩
      rintro _ ⟨⟩
      exact hn
  · rintro ⟨o, ho, rfl, rfl⟩
    cases o with
    | none => exact ⟨_, _, false, rfl, ⟨rfl, rfl⟩, rfl⟩
    | some t =>
      exact ⟨_, _, true, rfl, ⟨_, _, _, ⟨t.num, rfl, rfl⟩, ⟨_, _, _, ⟨t.scale, rfl, rfl⟩,
        ⟨ho t rfl, rfl, rfl⟩, rfl⟩, rfl⟩, rfl⟩

/-- The sample aspect ratio is never read: an 8-bit field is a signed one. -/
theorem aspectFields_parses : Parses (text w) (aspectFields w) fun ts _ =>
    ∃ a : BitVec 8, True ∧ ts = [.field a] := by
  have hne (a : BitVec 8) : a.signExtend 32 ≠ 255 := by
    intro h
    have hint := congrArg BitVec.toInt h
    have hlt : a.toInt < 2 ^ 7 := BitVec.toInt_lt
    have h255 : (255 : BitVec 32).toInt = 255 := rfl
    rw [BitVec.toInt_signExtend_of_le (by decide), h255] at hint
    omega
  refine ((getBits_parses (n := 8) (by decide) (by decide)).bind fun tmp =>
    (skipBits_parses 32).ite (tmp = 255) (Parses.pure ())).congr fun ts a => ?_
  constructor
  · rintro ⟨_, ys, _, ⟨a, rfl, rfl⟩, hys, rfl⟩
    simp only [if_neg (hne a)] at hys
    obtain ⟨rfl, -⟩ := hys
    exact ⟨a, trivial, rfl⟩
  · rintro ⟨a, -, rfl⟩
    refine ⟨_, [], _, ⟨a, rfl, rfl⟩, ?_, rfl⟩
    simp only [if_neg (hne a)]
    trivial

/-- A part without a meaning. -/
theorem ifSet_parses {p : Read Unit} {toks : List Token}
    (h : Parses (text w) p fun ts _ => ts = toks) :
    Parses (text w) (ifOneBit w p) fun ts _ => ∃ b, ts = ifSet toks b :=
  Parses.whenSet getOneBit_flag (fun _ => Iff.rfl) h

theorem videoSignalFields_parses : Parses (text w) (videoSignalFields w) fun ts _ =>
    ∃ colour : Bool, True ∧
      ts = [.skip 3, .skip 1] ++ ifSet [.skip 8, .skip 8, .skip 8] colour := by
  have hcolour : Parses (text w) (skipBits 8 >>= fun _ => skipBits 8 >>= fun _ => skipBits 8)
      fun ts _ => ts = [.skip 8, .skip 8, .skip 8] :=
    (skipBits_parses 8).both ((skipBits_parses 8).both (skipBits_parses 8))
  refine ((skipBits_parses 3).bind fun _ => (skipBits_parses 1).bind fun _ =>
    ifSet_parses hcolour).congr fun ts a => ?_
  constructor
  · rintro ⟨_, _, _, rfl, ⟨_, _, _, rfl, ⟨colour, rfl⟩, rfl⟩, rfl⟩
    exact ⟨colour, trivial, rfl⟩
  · rintro ⟨colour, -, rfl⟩
    exact ⟨_, _, (), rfl, ⟨_, _, (), rfl, ⟨colour, rfl⟩, rfl⟩, rfl⟩

theorem chromaLocFields_parses : Parses (text w) (chromaLocFields w) fun ts _ =>
    ∃ c : Nat × Nat, True ∧ ts = codes [c.1, c.2] := by
  refine (skipUeGolomb_parses.bind fun _ => skipUeGolomb_parses).congr fun ts a => ?_
  constructor
  · rintro ⟨_, _, _, ⟨top, rfl⟩, ⟨bottom, rfl⟩, rfl⟩
    exact ⟨(top, bottom), trivial, rfl⟩
  · rintro ⟨c, -, rfl⟩
    exact ⟨_, _, (), ⟨c.1, rfl⟩, ⟨c.2, rfl⟩, rfl⟩

theorem vuiFields_parses (framerate : Int) :
    Parses (text w) (vuiFields w framerate) fun ts a =>
      ∃ o : Option VuiCodes, (∀ v, o = some v → v.Valid) ∧ ts = optional .bit VuiCodes.tokens o ∧
        a = o.elim framerate fun v => v.rate framerate := by
  refine (getOneBit_parses.bind fun b => ((ifOneBit_parses aspectFields_parses).bind fun _ =>
    (ifSet_parses (skipBits_parses 1)).bind fun _ =>
      (ifOneBit_parses videoSignalFields_parses).bind fun _ =>
        (ifOneBit_parses chromaLocFields_parses).bind fun _ =>
          timingFields_parses framerate).ite (b = true) (Parses.pure framerate)).congr fun ts a => ?_
  constructor
  · rintro ⟨_, ys, b, rfl, hys, rfl⟩
    cases b with
    | false =>
      obtain ⟨rfl, rfl⟩ := hys
      refine ⟨none, ?_, rfl, rfl⟩
      rintro _ ⟨⟩
    | true =>
      obtain ⟨_, _, _, ⟨aspect, -, rfl⟩, ⟨_, _, _, ⟨overscan, rfl⟩, ⟨_, _, _, ⟨video, -, rfl⟩,
        ⟨_, _, _, ⟨chroma, -, rfl⟩, ⟨timing, ht, rfl, rfl⟩, rfl⟩, rfl⟩, rfl⟩, rfl⟩ := hys
      refine ⟨some ⟨aspect, overscan, video, chroma, timing⟩, ?_, ?_, rfl⟩
      · rintro _ ⟨⟩
        exact ht
      · simp only [optional, VuiCodes.tokens, List.append_assoc]
        rfl
  · rintro ⟨o, ho, rfl, rfl⟩
    cases o with
    | none => exact ⟨_, _, false, rfl, ⟨rfl, rfl⟩, rfl⟩
    | some v =>
      refine ⟨_, _, true, rfl, ⟨_, _, (), ⟨v.aspectRatio, fun _ _ => trivial, rfl⟩, ⟨_, _, (),
        ⟨v.overscan, rfl⟩, ⟨_, _, (), ⟨v.videoSignal, fun _ _ => trivial, rfl⟩, ⟨_, _, (),
          ⟨v.chromaLoc, fun _ _ => trivial, rfl⟩, ⟨v.timing, ho v rfl, rfl, rfl⟩, rfl⟩, rfl⟩, rfl⟩,
            rfl⟩, ?_⟩
      simp only [optional, VuiCodes.tokens, List.append_assoc]
      rfl

/-! ## The parameter sets -/

theorem h264Fields_parses (out : Out) : Parses (text w) (h264Fields w out) fun ts a =>
    ∃ s : SpsCodes, s.Valid ∧ ts = s.tokens ∧ a = s.result out := by
  refine (frontFields_parses.bind fun _ => pocFields_parses.bind fun pocType =>
    (Parses.pure ((-1 : Int), out)).ite (2 < pocType) (sizeFields_parses.bind fun size =>
      (vuiFields_parses out.framerate).bind fun rate =>
        Parses.pure ((1 : Int), (⟨size.1, size.2, rate⟩ : Out)))).congr fun ts a => ?_
  constructor
  · rintro ⟨_, _, _, ⟨front, hfront, rfl⟩, ⟨_, ys, _, ⟨poc, hpoc, rfl, rfl⟩, hys, rfl⟩, rfl⟩
    by_cases hle : poc.type ≤ 2
    · have hle' : ¬2 < (poc.type : Int) := by omega
      simp only [if_neg hle'] at hys
      obtain ⟨_, _, _, ⟨size, rfl, rfl⟩, ⟨_, _, _, ⟨vui, hvui, rfl, rfl⟩, ⟨rfl, rfl⟩, rfl⟩, rfl⟩ := hys
      refine ⟨.sized front poc size vui, ⟨hfront, hpoc, hle, hvui⟩, ?_, rfl⟩
      simp only [SpsCodes.tokens, List.append_assoc, List.append_nil]
    · have hlt : 2 < (poc.type : Int) := by omega
      simp only [if_pos hlt] at hys
      obtain ⟨rfl, rfl⟩ := hys
      refine ⟨.refused front poc.type, ⟨hfront, Nat.not_le.1 hle⟩, ?_, rfl⟩
      cases poc with
      | lsb v => exact absurd (Nat.zero_le 2) hle
      | cycle _ _ _ => exact absurd (Nat.le_succ 1) hle
      | other type => simp only [SpsCodes.tokens, PocCodes.tokens, PocCodes.type, List.append_nil]
  · rintro ⟨s, hs, rfl, rfl⟩
    cases s with
    | refused front pocType =>
      have hlt : 2 < (pocType : Int) := Int.ofNat_lt.2 hs.2
      refine ⟨_, _, (), ⟨front, hs.1, rfl⟩, ⟨_, [], _, ⟨.other pocType, ?_, rfl, rfl⟩, ?_, rfl⟩, ?_⟩
      · rintro _ ⟨⟩
        exact Nat.le_of_lt hs.2
      · simp only [PocCodes.type, if_pos hlt]
        exact ⟨trivial, rfl⟩
      · rw [List.append_nil]
        rfl
    | sized front poc size vui =>
      have hle : ¬2 < (poc.type : Int) := by
        have := hs.2.2.1
        omega
      refine ⟨_, _, (), ⟨front, hs.1, rfl⟩, ⟨_, size.tokens ++ optional .bit VuiCodes.tokens vui, _,
        ⟨poc, hs.2.1, rfl, rfl⟩, ?_, rfl⟩, ?_⟩
      · simp only [if_neg hle]
        exact ⟨_, _, _, ⟨size, rfl, rfl⟩, ⟨_, [], _, ⟨vui, hs.2.2.2, rfl, rfl⟩, ⟨rfl, rfl⟩, rfl⟩,
          by rw [List.append_nil]⟩
      · simp only [SpsCodes.tokens, List.append_assoc]

theorem h265Fields_parses (out : Out) : Parses (text w) (h265Fields w out) fun ts a =>
    ∃ c : Codes, ts = h265Tokens c ∧ a = h265Result out c := by
  refine ((skipBits_parses 104).bind fun _ => skipUeGolomb_parses.bind fun _ =>
    skipUeGolomb_parses.bind fun _ => getUeGolomb_parses.bind fun width =>
      getUeGolomb_parses.bind fun height => cropFields_parses.bind fun crop =>
        Parses.pure _).congr fun ts a => ?_
  constructor
  · rintro ⟨_, _, _, rfl, ⟨_, _, _, ⟨id, rfl⟩, ⟨_, _, _, ⟨format, rfl⟩, ⟨_, _, _, ⟨width, rfl, rfl⟩,
      ⟨_, _, _, ⟨height, rfl, rfl⟩, ⟨_, _, _, ⟨c, rfl, rfl⟩, ⟨rfl, rfl⟩, rfl⟩, rfl⟩, rfl⟩, rfl⟩, rfl⟩,
        rfl⟩
    exact ⟨⟨id, format, width, height, c⟩, by rw [List.append_nil]; rfl, rfl⟩
  · rintro ⟨c, rfl, rfl⟩
    refine ⟨_, _, (), rfl, ⟨_, _, (), ⟨c.id, rfl⟩, ⟨_, _, (), ⟨c.chromaFormat, rfl⟩, ⟨_, _, _,
      ⟨c.picWidth, rfl, rfl⟩, ⟨_, _, _, ⟨c.picHeight, rfl, rfl⟩, ⟨_, _, _, ⟨c.window, rfl, rfl⟩,
        ⟨rfl, rfl⟩, rfl⟩, rfl⟩, rfl⟩, rfl⟩, rfl⟩, ?_⟩
    rw [List.append_nil]
    rfl

end Parsing

/-! ## The copy -/

theorem remove0x03_short {src : Bytes} (h : src.length < 3) : remove0x03 src = [] := by
  rcases src with _ | ⟨a, _ | ⟨b, _ | ⟨c, src⟩⟩⟩
  · rfl
  · rfl
  · rfl
  · simp only [List.length_cons] at h
    omega

/-- A loop that has bytes to go over removes what it finds there. -/
theorem removeLoop_eq {src : Bytes} {places : Nat} (h : places = 0 ∨ places + 2 ≤ src.length) :
    removeLoop src places = .ok (remove0x03 (src.take (places + 2))) := by
  fun_induction removeLoop src places with
  | case1 src =>
    rw [remove0x03_short (by rw [List.length_take]; omega)]
  | case2 a b c src places hz ih =>
    have hlen : places ≤ src.length := by
      simp only [List.length_cons] at h
      omega
    have hrest : remove0x03 (src.take (places - 2 + 2)) = remove0x03 (src.take places) := by
      by_cases hp : places ≤ 2
      · rw [remove0x03_short (by rw [List.length_take]; omega),
          remove0x03_short (by rw [List.length_take]; omega)]
      · rw [Nat.sub_add_cancel (by omega)]
    rw [ih (by omega), hrest]
    show _ = Except.ok (remove0x03 (a :: b :: c :: src.take places))
    rw [remove0x03, if_pos hz]
    rfl
  | case3 a b c src places hz ih =>
    have hlen : places + 2 ≤ (b :: c :: src).length := by
      simp only [List.length_cons] at h ⊢
      omega
    rw [ih (.inr hlen)]
    show _ = Except.ok (remove0x03 (a :: b :: c :: src.take places))
    rw [remove0x03, if_neg hz]
    rfl
  | case4 src places h1 h2 =>
    obtain ⟨places, rfl⟩ := Nat.exists_eq_succ_of_ne_zero h1
    rcases src with _ | ⟨a, _ | ⟨b, _ | ⟨c, src⟩⟩⟩
    · simp at h
    · simp at h
    · simp at h
    · exact absurd rfl (h2 a b c src places rfl)

/-- What the analysers copy of a buffer. -/
def copied (pBuf : Bytes) : Bytes := remove0x03 (pBuf.take 512)

/-- The bytes of a buffer that a caller passes with its size. -/
structure Buffer where
  pBuf : Bytes
  nSize : Int
  int : -2 ^ 31 ≤ nSize ∧ nSize < 2 ^ 31
  size : pBuf.length = nSize.toNat

theorem bmod_eq {x : Int} (h : -2 ^ 31 ≤ x ∧ x < 2 ^ 31) : x.bmod (2 ^ 32) = x := by
  rw [Int.bmod_def]
  omega

/-- Where the size is so low that `size-2` is not, the loop reads a byte. -/
theorem remove_eq_ok (b : Buffer) {w : Bytes} :
    remove b.pBuf (min b.nSize 512) = .ok w ↔ -2 ^ 31 + 2 ≤ b.nSize ∧ w = copied b.pBuf := by
  have hint := b.int
  have hsize := b.size
  unfold remove
  by_cases hlow : -2 ^ 31 + 2 ≤ b.nSize
  · have htake : b.pBuf.take ((min b.nSize 512 - 2).toNat + 2) = b.pBuf.take 512 := by
      by_cases hlarge : 512 ≤ b.nSize
      · congr 1
        omega
      · rw [List.take_of_length_le (by omega), List.take_of_length_le (by omega)]
    rw [bmod_eq (by omega), removeLoop_eq (by omega), htake, and_iff_right hlow, Except.ok.injEq]
    exact eq_comm
  · have hnil : b.pBuf = [] := List.length_eq_zero_iff.1 (by omega)
    have hplaces : ∃ n, ((min b.nSize 512 - 2).bmod (2 ^ 32)).toNat = n + 1 := by
      refine Nat.exists_eq_succ_of_ne_zero ?_
      rw [Int.bmod_def]
      omega
    obtain ⟨n, hn⟩ := hplaces
    rw [hnil, hn]
    exact iff_of_false (fun h => by cases h) fun h => hlow h.1

theorem initGetBits_eq_ok {buffer : Bytes} {bitSize : Int} :
    initGetBits buffer bitSize = .ok () ↔ -7 ≤ bitSize ∧ 4 ≤ buffer.length := by
  unfold initGetBits
  split
  · exact iff_of_false (fun h => by cases h) (by omega)
  · split
    · exact iff_of_false (fun h => by cases h) (by omega)
    · exact iff_of_true rfl (by omega)

theorem analyse_eq_ok {header : Nat} {fields : Bytes → Read (Int × Out)}
    {L : Language Token (Int × Out)} (h : ∀ w, Parses (text w) (fields w) L) (b : Buffer)
    {r : Int × Out} : analyse header fields b.pBuf b.nSize = .ok r ↔
      header + 4 ≤ (copied b.pBuf).length ∧
        ∃ ts, L ts r ∧ (text ((copied b.pBuf).drop header)).Stands 0 ts := by
  have haccepts := (h ((copied b.pBuf).drop header)).accepts 0 trivial r
  rw [← haccepts]
  constructor
  · intro hrun
    obtain ⟨w, hw, hrun⟩ := except_bind_eq_ok.1 hrun
    obtain ⟨-, rfl⟩ := (remove_eq_ok b).1 hw
    obtain ⟨_, hinit, hrun⟩ := except_bind_eq_ok.1 hrun
    obtain ⟨-, hlen⟩ := initGetBits_eq_ok.1 hinit
    obtain ⟨r, hfields, hrun⟩ := except_bind_eq_ok.1 hrun
    cases hrun
    rw [List.length_drop] at hlen
    exact ⟨by omega, r.2, hfields⟩
  · rintro ⟨hlen, i, hfields⟩
    have hlow : -2 ^ 31 + 2 ≤ b.nSize := by
      by_contra hlow
      have hsize := b.size
      have hnil : b.pBuf = [] := List.length_eq_zero_iff.1 (by omega)
      rw [hnil] at hlen
      exact absurd hlen (by simp [copied, remove0x03])
    have hinit := initGetBits_eq_ok.2 ⟨show -7 ≤ ((copied b.pBuf).length - header : Int) by omega,
      show 4 ≤ ((copied b.pBuf).drop header).length by rw [List.length_drop]; omega⟩
    exact except_bind_eq_ok.2 ⟨_, (remove_eq_ok b).2 ⟨hlow, rfl⟩, except_bind_eq_ok.2 ⟨_, hinit,
      except_bind_eq_ok.2 ⟨_, hfields, rfl⟩⟩⟩

/-- The copy is one that `H264_Analyse` does not go out of, and `result` is what it finds there. -/
def H264Found (pBuf : Bytes) (s : SpsCodes) : Prop :=
  8 ≤ (copied pBuf).length ∧ s.Valid ∧ (text ((copied pBuf).drop 4)).Stands 0 s.tokens

/-- The same for `H265_Analyse`. -/
def H265Found (pBuf : Bytes) (c : Codes) : Prop :=
  9 ≤ (copied pBuf).length ∧ (text ((copied pBuf).drop 5)).Stands 0 (h265Tokens c)

theorem h264Analyse_eq_ok (b : Buffer) (out : Out) {r : Int × Out} :
    h264Analyse b.pBuf b.nSize out = .ok r ↔
      ∃ s, H264Found b.pBuf s ∧ r = s.result out := by
  refine (analyse_eq_ok (fun _ => h264Fields_parses out) b).trans ?_
  constructor
  · rintro ⟨hlen, _, ⟨s, hs, rfl, rfl⟩, hat⟩
    exact ⟨s, ⟨hlen, hs, hat⟩, rfl⟩
  · rintro ⟨s, ⟨hlen, hs, hat⟩, rfl⟩
    exact ⟨hlen, _, ⟨s, hs, rfl, rfl⟩, hat⟩

theorem h265Analyse_eq_ok (b : Buffer) (out : Out) {r : Int × Out} :
    h265Analyse b.pBuf b.nSize out = .ok r ↔
      ∃ c, H265Found b.pBuf c ∧ r = h265Result out c := by
  refine (analyse_eq_ok (fun _ => h265Fields_parses out) b).trans ?_
  constructor
  · rintro ⟨hlen, _, ⟨c, rfl, rfl⟩, hat⟩
    exact ⟨c, ⟨hlen, hat⟩, rfl⟩
  · rintro ⟨c, ⟨hlen, hat⟩, rfl⟩
    exact ⟨hlen, _, ⟨c, rfl, rfl⟩, hat⟩

end Checked

end StreamSwitch.DecSps
