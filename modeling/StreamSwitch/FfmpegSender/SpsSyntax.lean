import StreamSwitch.Defs
import StreamSwitch.Lib.Bits

/-!
# Sequence parameter sets of H.264

The syntax of a sequence parameter set of the chroma format 4:2:0 as the standard has it, up to the
timing information, and the frame size that it stands for. `rbsp` takes the emulation prevention
bytes out of a NAL unit.
-/

namespace StreamSwitch.DecSps

open Bits

/-! ## Syntax -/

/-- An element behind the flag that says whether it is there. -/
def flagged {α : Type} (enc : α → List Bool) : Option α → List Bool
  | none => [false]
  | some a => true :: enc a

theorem flagged_none {α : Type} (enc : α → List Bool) : flagged enc none = [false] ++ [] := rfl

theorem flagged_some {α : Type} (enc : α → List Bool) (a : α) :
    flagged enc (some a) = [true] ++ enc a := rfl

/-- The profiles whose parameter sets have the fields of `High`. -/
def highProfiles : List Nat := [100, 110, 122, 244, 44, 83, 86, 118, 128, 138, 139, 134, 135]

def profiles : List Nat := [66, 77, 88] ++ highProfiles

/-- `scaling_list` reads exactly these `delta_scale`s. -/
def isScalingList : Nat → Int → Int → List Int → Bool
  | 0, _, _, deltas => deltas.isEmpty
  | size + 1, last, next, deltas =>
    if next = 0 then isScalingList size last next deltas
    else
      match deltas with
      | [] => false
      | delta :: deltas =>
        let next := (last + delta + 256) % 256
        decide (-128 ≤ delta ∧ delta ≤ 127) &&
          isScalingList size (if next = 0 then last else next) next deltas

/-- The fields of the high profiles; `chroma_format_idc` is 1. A scaling list is given by its
`delta_scale`s. -/
structure High where
  bitDepthLumaMinus8 : Nat
  bitDepthChromaMinus8 : Nat
  transformBypass : Bool
  scalingLists : Option (Nat → Option (List Int))

def scalingListBits (lists : Nat → Option (List Int)) (idx : Nat) : List Bool :=
  flagged (fun deltas => deltas.flatMap se) (lists idx)

def High.bits (h : High) : List Bool :=
  ue 1 ++ ue h.bitDepthLumaMinus8 ++ ue h.bitDepthChromaMinus8 ++ [h.transformBypass] ++
    flagged (fun lists => (List.range 8).flatMap (scalingListBits lists)) h.scalingLists

structure High.Conforming (h : High) : Prop where
  luma : h.bitDepthLumaMinus8 ≤ 6
  chroma : h.bitDepthChromaMinus8 ≤ 6
  lists : ∀ lists, h.scalingLists = some lists → ∀ idx < 8, ∀ deltas, lists idx = some deltas →
    isScalingList (if idx < 6 then 16 else 64) 8 8 deltas = true

/-- The fields of a picture order count type. -/
inductive Poc
  | lsb (log2MaxMinus4 : Nat)
  | cycle (deltaAlwaysZero : Bool) (nonRefPic topToBottom : Int) (refFrames : List Int)
  | output
deriving DecidableEq, Repr

namespace Poc

def type : Poc → Nat
  | lsb _ => 0
  | cycle .. => 1
  | output => 2

def fields : Poc → List Bool
  | lsb log2MaxMinus4 => ue log2MaxMinus4
  | cycle deltaAlwaysZero nonRefPic topToBottom refFrames =>
    [deltaAlwaysZero] ++ se nonRefPic ++ se topToBottom ++ ue refFrames.length ++
      refFrames.flatMap se
  | output => []

/-- The offsets of type 1. -/
def offsets : Poc → List Int
  | cycle _ nonRefPic topToBottom refFrames => nonRefPic :: topToBottom :: refFrames
  | _ => []

structure Conforming (p : Poc) : Prop where
  lsb : ∀ n, p = .lsb n → n ≤ 12
  cycle : ∀ x ∈ p.offsets, -2 ^ 31 < x ∧ x < 2 ^ 31
  frames : p.offsets.length ≤ 257

end Poc

/-- `frame_crop_left_offset` and the others. -/
structure Crop where
  left : Nat
  right : Nat
  top : Nat
  bottom : Nat
deriving DecidableEq, Repr

def Crop.codes (c : Crop) : List Nat := [c.left, c.right, c.top, c.bottom]

/-- `video_format`, `video_full_range_flag` and the three bytes of the colour description. -/
structure VideoSignal where
  format : Nat
  fullRange : Bool
  colour : Option Nat
deriving DecidableEq, Repr

def VideoSignal.bits (v : VideoSignal) : List Bool :=
  ofNat 3 v.format ++ [v.fullRange] ++ flagged (ofNat 24) v.colour

/-- The VUI parameters up to the timing information. -/
structure Vui where
  /-- `aspect_ratio_idc`; for `Extended_SAR` the sample aspect ratio follows. -/
  aspectRatio : Option (Nat × Nat)
  overscan : Option Bool
  videoSignal : Option VideoSignal
  chromaLoc : Option (Nat × Nat)
  /-- `num_units_in_tick` and `time_scale`. -/
  timing : Option (Nat × Nat)
deriving DecidableEq, Repr

def extendedSar : Nat := 255

def Vui.bits (v : Vui) : List Bool :=
  flagged (fun a => ofNat 8 a.1 ++ if a.1 = extendedSar then ofNat 32 a.2 else []) v.aspectRatio ++
    flagged (fun b => [b]) v.overscan ++ flagged VideoSignal.bits v.videoSignal ++
    flagged (fun c => ue c.1 ++ ue c.2) v.chromaLoc ++
    flagged (fun t => ofNat 32 t.1 ++ ofNat 32 t.2) v.timing

/-- A sequence parameter set. The fields of `high` are there for the high profiles, and
`mbAdaptive` is there unless `frameMbsOnly`. -/
structure Sps where
  profileIdc : Nat
  constraints : Nat
  levelIdc : Nat
  id : Nat
  high : High
  log2MaxFrameNumMinus4 : Nat
  poc : Poc
  maxNumRefFrames : Nat
  gapsAllowed : Bool
  picWidthInMbsMinus1 : Nat
  picHeightInMapUnitsMinus1 : Nat
  frameMbsOnly : Bool
  mbAdaptive : Bool
  direct8x8 : Bool
  crop : Option Crop
  vui : Option Vui

namespace Sps

variable (s : Sps)

def highBits : List Bool := if s.profileIdc ∈ highProfiles then s.high.bits else []

/-- What is before the width. -/
def head : List Bool :=
  ofNat 8 s.profileIdc ++ ofNat 8 s.constraints ++ ofNat 8 s.levelIdc ++ ue s.id ++ s.highBits ++
    ue s.log2MaxFrameNumMinus4 ++ ue s.poc.type ++ s.poc.fields ++ ue s.maxNumRefFrames ++
    [s.gapsAllowed]

/-- The width and the height. -/
def sizes : List Nat := [s.picWidthInMbsMinus1, s.picHeightInMapUnitsMinus1]

def flags : List Bool :=
  [s.frameMbsOnly] ++ (if s.frameMbsOnly then [] else [s.mbAdaptive]) ++ [s.direct8x8]

def cropBits : List Bool := flagged (fun c => c.codes.flatMap ue) s.crop

def vuiBits : List Bool := flagged Vui.bits s.vui

def bits : List Bool := s.head ++ s.sizes.flatMap ue ++ s.flags ++ s.cropBits ++ s.vuiBits

/-- The place of the first cropping offset, if there is one. -/
def cropStart : Nat := s.head.length + (s.sizes.flatMap ue).length + s.flags.length + 1

/-! ## The frame size -/

/-- `2 - frame_mbs_only_flag`. -/
def fieldFactor : Int := if s.frameMbsOnly then 1 else 2

def cropping : Crop := s.crop.getD ⟨0, 0, 0, 0⟩

def width : Int :=
  16 * (s.picWidthInMbsMinus1 + 1) - 2 * (s.cropping.left + s.cropping.right)

def height : Int :=
  16 * s.fieldFactor * (s.picHeightInMapUnitsMinus1 + 1) -
    2 * s.fieldFactor * (s.cropping.top + s.cropping.bottom)

structure Conforming : Prop where
  profile : s.profileIdc ∈ profiles
  id : s.id ≤ 31
  high : s.profileIdc ∈ highProfiles → s.high.Conforming
  frameNum : s.log2MaxFrameNumMinus4 ≤ 12
  poc : s.poc.Conforming
  refFrames : s.maxNumRefFrames ≤ 16
  direct : s.frameMbsOnly = false → s.direct8x8 = true
  width : 0 < s.width
  height : 0 < s.height
  chromaLoc : ∀ v, s.vui = some v → ∀ c, v.chromaLoc = some c → c.1 ≤ 5 ∧ c.2 ≤ 5

end Sps

/-! ## NAL units -/

/-- The raw bytes of a NAL unit: the third byte of 00 00 03 is not one of them. -/
def rbsp : Bytes → Bytes
  | a :: b :: c :: bytes =>
    if a = 0 ∧ b = 0 ∧ c = 3 then a :: b :: rbsp bytes else a :: rbsp (b :: c :: bytes)
  | bytes => bytes

/-- Bytes as bits, the highest one first. -/
def bitsOf (bytes : Bytes) : List Bool :=
  bytes.flatMap fun b => (List.range 8).map b.toBitVec.getMsbD

theorem rbsp_cons (a : UInt8) (q : Bytes) : ∃ t, rbsp (a :: q) = a :: t := by
  match q with
  | [] => exact ⟨[], rfl⟩
  | [b] => exact ⟨[b], rfl⟩
  | b :: c :: q =>
    rw [rbsp]
    split
    · exact ⟨_, rfl⟩
    · exact ⟨_, rfl⟩

theorem rbsp_cons_cons (a b : UInt8) (q : Bytes) : ∃ t, rbsp (a :: b :: q) = a :: b :: t := by
  match q with
  | [] => exact ⟨[], rfl⟩
  | c :: q =>
    rw [rbsp]
    split
    · exact ⟨_, rfl⟩
    · obtain ⟨t, ht⟩ := rbsp_cons b (c :: q)
      exact ⟨t, by rw [ht]⟩

/-- The end of the recursion. -/
theorem short_cases {bytes : Bytes} (h : ∀ a b c q, bytes = a :: b :: c :: q → False) :
    bytes = [] ∨ (∃ a, bytes = [a]) ∨ ∃ a b, bytes = [a, b] := by
  match bytes with
  | [] => exact .inl rfl
  | [a] => exact .inr (.inl ⟨a, rfl⟩)
  | [a, b] => exact .inr (.inr ⟨a, b, rfl⟩)
  | a :: b :: c :: q => exact (h a b c q rfl).elim

theorem rbsp_append (p q : Bytes) : rbsp p <+: rbsp (p ++ q) := by
  fun_induction rbsp p with
  | case1 a b c bytes h ih =>
    rw [List.cons_append, List.cons_append, List.cons_append, rbsp, if_pos h]
    exact List.cons_prefix_cons.2 ⟨rfl, List.cons_prefix_cons.2 ⟨rfl, ih⟩⟩
  | case2 a b c bytes h ih =>
    rw [List.cons_append, List.cons_append, List.cons_append, rbsp, if_neg h]
    exact List.cons_prefix_cons.2 ⟨rfl, ih⟩
  | case3 bytes hshort =>
    obtain rfl | ⟨a, rfl⟩ | ⟨a, b, rfl⟩ := short_cases hshort
    · exact List.nil_prefix
    · obtain ⟨t, ht⟩ := rbsp_cons a q
      exact ⟨t, ht.symm⟩
    · obtain ⟨t, ht⟩ := rbsp_cons_cons a b q
      exact ⟨t, ht.symm⟩

end StreamSwitch.DecSps
