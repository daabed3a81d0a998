import StreamSwitch.FfmpegSender.FrameSize

/-!
# The frame size of an H.265 stream

`decsps_265` looks for the first sequence parameter set of H.265 behind a start code and skips 104
bits of it to the fields of the frame size. That is where they are in a stream of one temporal
sub-layer; the flags, profiles and levels of more sub-layers stand before them.

`decsps265_right_iff`: the frame size is right if and only if the bits from there on, as far as
they are copied, are codes of the right size when the bits that the reader cuts off are zeros. Of one
sub-layer these are the fields themselves, and what is cut off them has to cancel out.
-/

namespace StreamSwitch.DecSps

open Bits

/-! ## The code -/

/-- `sps_nal + 5`, where `stack` is what is there before `dst` is written to `sps_nal`. -/
def spsNal265 (stack : Memory) (dst : Bytes) : Memory := fun p => dst.getD (p + 5) (stack p)

/-- `*nWidth` and `*nHeight` of `H265_Analyse`. -/
def h265Size (m : Memory) : Get (Int × Int) := do
  skipBits (8 + 8 + 32 + 4 + 32 + 20)
  skipUeGolomb m
  skipUeGolomb m
  let width ← getUeGolomb m
  let height ← getUeGolomb m
  let flagB ← getOneBit m
  let crop ← cropFields m flagB
  return (width - 2 * (crop.1 + crop.2.1), height - 2 * (crop.2.2.1 + crop.2.2.2))

/-- `H265_Analyse`. -/
def h265Analyse (stack : Memory) (pBuf : Bytes) (out : Out) : Option (Int × Out) :=
  (h265Size (spsNal265 stack (remove0x03 (pBuf.take 512))) 0).map fun r =>
    (2, { out with width := r.1.1, height := r.1.2 })

section Decsps

/- The stack when `H265_Analyse` is called with so many bytes. -/
variable (stack : Nat → Memory)

/-- What `Stream_Analyse_265` does at one place; -1 if there is nothing that it analyses. -/
def analyseAt265 (pBuf : Bytes) (out : Out) : Option (Int × Out) :=
  match pBuf with
  | 0 :: 0 :: 1 :: naltype :: _ =>
    if (naltype &&& 0x7e) >>> 1 = 33 then h265Analyse (stack pBuf.length) pBuf out
    else some (-1, out)
  | _ => some (-1, out)

/-- `Stream_Analyse_265`. -/
def streamAnalyse265 : Bytes → Out → Option (Int × Out)
  | a :: pBuf, out =>
    if 4 < (a :: pBuf).length then do
      let r ← analyseAt265 stack (a :: pBuf) out
      if 0 ≤ r.1 then return r else streamAnalyse265 pBuf r.2
    else some (-1, out)
  | [], out => some (-1, out)

/-- `decsps_265`: what it returns, `*width` and `*height`. -/
def decsps265 (pBuf : Bytes) (width height : Nat) : Option (Int × Nat × Nat) := do
  let r ← streamAnalyse265 stack (pBuf.take (int32OfSize pBuf.length).toNat) ⟨width, height, 0⟩
  return (if 0 < r.1 then 0 else -1, (r.2.width % 2 ^ 32).toNat, (r.2.height % 2 ^ 32).toNat)

end Decsps

/-! ## Syntax -/

/-- What there is of a temporal sub-layer: its profile and its level. -/
structure SubLayer where
  profile : Option (List Bool)
  level : Option Nat

namespace SubLayer

def flags (l : SubLayer) : List Bool := [l.profile.isSome, l.level.isSome]

def bits (l : SubLayer) : List Bool := l.profile.getD [] ++ l.level.elim [] (ofNat 8)

end SubLayer

/-- A sequence parameter set of the chroma format 4:2:0 as the standard has it. `rest` are the fields
behind the conformance window with the trailing bits. -/
structure Sps265 where
  vpsId : Nat
  temporalIdNesting : Bool
  generalProfile : List Bool
  generalLevel : Nat
  /-- As many as `sps_max_sub_layers_minus1` says. -/
  subLayers : List SubLayer
  id : Nat
  picWidth : Nat
  picHeight : Nat
  /-- `conf_win_left_offset` and the others. -/
  window : Option Crop
  rest : List Bool

namespace Sps265

variable (s : Sps265)

/-- Flags for the sub-layers, of which up to seven are reserved where there is one at least. -/
def subLayerBits : List Bool :=
  if s.subLayers = [] then []
  else s.subLayers.flatMap SubLayer.flags ++ List.replicate (2 * (8 - s.subLayers.length)) false ++
    s.subLayers.flatMap SubLayer.bits

def head : List Bool :=
  ofNat 4 s.vpsId ++ ofNat 3 s.subLayers.length ++ [s.temporalIdNesting] ++ s.generalProfile ++
    ofNat 8 s.generalLevel

/-- The chroma format is 1. -/
def bits : List Bool :=
  s.head ++ s.subLayerBits ++ (ue s.id ++ ue 1 ++ ue s.picWidth ++ ue s.picHeight ++
    flagged (fun c => c.codes.flatMap ue) s.window) ++ s.rest

def confWindow : Crop := s.window.getD ⟨0, 0, 0, 0⟩

def width : Int := s.picWidth - 2 * (s.confWindow.left + s.confWindow.right)

def height : Int := s.picHeight - 2 * (s.confWindow.top + s.confWindow.bottom)

/-- At least 24 bits follow the window in any parameter set. -/
structure Conforming : Prop where
  generalProfile : s.generalProfile.length = 88
  subLayers : s.subLayers.length ≤ 6
  profiles : ∀ l ∈ s.subLayers, ∀ p, l.profile = some p → p.length = 88
  id : s.id ≤ 15
  picWidth : s.picWidth ≤ 16888
  picHeight : s.picHeight ≤ 16888
  width : 0 < s.width
  height : 0 < s.height
  rest : 24 ≤ s.rest.length

end Sps265

/-! ## Buffers -/

/-- There is no unit of type 33 at the beginning. -/
def Quiet265 (bytes : Bytes) : Prop := ∀ b ∈ behindStartCode bytes, (b &&& 0x7e) >>> 1 ≠ 33

instance (bytes : Bytes) : Decidable (Quiet265 bytes) :=
  inferInstanceAs (Decidable (∀ b ∈ behindStartCode bytes, (b &&& 0x7e) >>> 1 ≠ 33))

/-- A buffer whose first unit of type 33 is a conforming sequence parameter set of at most 512 bytes.
The length is an `unsigned int`. -/
structure SpsBuffer265 where
  pre : Bytes
  header : UInt8
  /-- The second byte of the header, with `nuh_temporal_id_plus1`. -/
  temporal : UInt8
  body : Bytes
  rest : Bytes
  sps : Sps265
  size : (pre ++ 0 :: 0 :: 1 :: header :: temporal :: (body ++ rest)).length < 2 ^ 32
  unitType : (header &&& 0x7e) >>> 1 = 33
  temporal_ne : temporal ≠ 0
  first : ∀ p < pre.length,
    Quiet265 ((pre ++ 0 :: 0 :: 1 :: header :: temporal :: (body ++ rest)).drop p)
  conforming : sps.Conforming
  coded : bitsOf (rbsp body) = sps.bits
  short : 2 + body.length ≤ 512

/-- Fields of the frame size as they are found somewhere. -/
structure Codes where
  id : Nat
  chromaFormat : Nat
  picWidth : Nat
  picHeight : Nat
  window : Option Crop
deriving DecidableEq

/-- The part of a code number at `i` that the reader does not see. -/
def cutOff (i v : Nat) : Nat := (v + 1) % 2 ^ lost i (ue v).length

/-- What is cut off the codes of a window at `i`. -/
def Crop.cutOff (i : Nat) (c : Crop) : Crop where
  left := DecSps.cutOff i c.left
  right := DecSps.cutOff (i + (ue c.left).length) c.right
  top := DecSps.cutOff (i + (ue c.left).length + (ue c.right).length) c.top
  bottom := DecSps.cutOff (i + (ue c.left).length + (ue c.right).length + (ue c.top).length) c.bottom

namespace Codes

variable (c : Codes)

def bits : List Bool :=
  ue c.id ++ ue c.chromaFormat ++ ue c.picWidth ++ ue c.picHeight ++
    flagged (fun w => w.codes.flatMap ue) c.window

/-- The codes have 31 bits at most. -/
def Short : Prop :=
  c.id + 1 < 2 ^ 16 ∧ c.chromaFormat + 1 < 2 ^ 16 ∧ c.picWidth + 1 < 2 ^ 16 ∧
    c.picHeight + 1 < 2 ^ 16 ∧ ∀ w, c.window = some w → ∀ v ∈ w.codes, v + 1 < 2 ^ 16

/-- Where the width, the height and the window begin, behind 104 bits. -/
def widthAt : Nat := 104 + (ue c.id).length + (ue c.chromaFormat).length

def heightAt : Nat := c.widthAt + (ue c.picWidth).length

def windowAt : Nat := c.heightAt + (ue c.picHeight).length + 1

def confWindow : Crop := c.window.getD ⟨0, 0, 0, 0⟩

/-- What is cut off the window. -/
def windowCut : Crop := c.confWindow.cutOff c.windowAt

/-- The width, with what is cut off the codes. -/
def width : Int :=
  (c.picWidth - cutOff c.widthAt c.picWidth) - 2 * ((c.confWindow.left - c.windowCut.left) +
    (c.confWindow.right - c.windowCut.right))

def height : Int :=
  (c.picHeight - cutOff c.heightAt c.picHeight) - 2 * ((c.confWindow.top - c.windowCut.top) +
    (c.confWindow.bottom - c.windowCut.bottom))

/-- The codes without the bits that are cut off the last one. -/
def seen : List Bool :=
  c.bits.take (c.bits.length - c.window.elim 0 fun w =>
    lost (104 + c.bits.length - (ue w.bottom).length) (ue w.bottom).length)

end Codes

/-- The fields of a parameter set. -/
def Sps265.codes (s : Sps265) : Codes := ⟨s.id, 1, s.picWidth, s.picHeight, s.window⟩

/-- What is cut off the fields cancels out. -/
def Sps265.Exact (s : Sps265) : Prop :=
  cutOff s.codes.widthAt s.picWidth = 2 * (s.codes.windowCut.left + s.codes.windowCut.right) ∧
    cutOff s.codes.heightAt s.picHeight = 2 * (s.codes.windowCut.top + s.codes.windowCut.bottom)

namespace SpsBuffer265

variable (b : SpsBuffer265)

def unit : Bytes := 0 :: 0 :: 1 :: b.header :: b.temporal :: (b.body ++ b.rest)

def bytes : Bytes := b.pre ++ b.unit

/-- `decsps_265` returns 0 and the size of the frames, whatever the stack holds. -/
def Right : Prop :=
  ∀ stack width height, ∃ w h : Nat, decsps265 stack b.bytes width height = some (0, w, h) ∧
    w = b.sps.width ∧ h = b.sps.height

/-- The bits that are copied, behind the header. -/
def kept : List Bool := bitsOf ((remove0x03 (b.unit.take 512)).drop 5)

/-- Codes of the right size are where the reader looks for them. -/
def Found : Prop :=
  ∃ c : Codes, c.Short ∧ c.seen <+: b.kept.drop 104 ∧ c.width = b.sps.width ∧ c.height = b.sps.height

end SpsBuffer265

/-! ## What is read -/

variable {m : Memory} {i j v : Nat}

theorem readAs_add_cutOff (h : v + 1 < 2 ^ 16) : (readAs i v : Int) = v - cutOff i v := by
  have hsucc := readAs_succ (i := i) h
  have hdiv := Nat.div_add_mod' (v + 1) (2 ^ lost i (ue v).length)
  unfold cutOff
  omega

theorem cutOff_of_lt (h : v + 1 < 2 ^ 13) : cutOff i v = 0 := by
  rw [cutOff, lost_of_lt h, Nat.pow_zero, Nat.mod_one]

/-- What is read of a window at `i`. -/
def Crop.readInts (i : Nat) (c : Crop) : Int × Int × Int × Int :=
  (c.left - (c.cutOff i).left, c.right - (c.cutOff i).right, c.top - (c.cutOff i).top,
    c.bottom - (c.cutOff i).bottom)

theorem cropFields_reads_cut {o : Option Crop}
    (h : ∀ c, o = some c → ∀ v ∈ c.codes, v + 1 < 2 ^ 16) :
    Reads (bitAt m) (cropFields m o.isSome) i (o.elim [] fun c => c.codes.flatMap ue)
      ((o.getD ⟨0, 0, 0, 0⟩).readInts i) := by
  cases o with
  | none =>
    have hzero : ∀ k, cutOff k 0 = 0 := fun k => cutOff_of_lt (by decide)
    have hints : (Crop.mk 0 0 0 0).readInts i = (0, 0, 0, 0) := by
      simp [Crop.readInts, Crop.cutOff, hzero]
    show Reads _ _ i [] ((Crop.mk 0 0 0 0).readInts i)
    rw [hints]
    exact Reads.pure _
  | some c =>
    have hc := h c rfl
    simp only [Crop.codes, List.forall_mem_cons] at hc
    obtain ⟨hl, hr, ht, hb, -⟩ := hc
    show Reads _ _ i (ue c.left ++ (ue c.right ++ (ue c.top ++ (ue c.bottom ++ [])))) (c.readInts i)
    simp only [Crop.readInts, Crop.cutOff, ← readAs_add_cutOff hl, ← readAs_add_cutOff hr,
      ← readAs_add_cutOff ht, ← readAs_add_cutOff hb]
    refine Reads.bind (getUeGolomb_reads hl) ?_
    refine Reads.bind (getUeGolomb_reads hr) ?_
    refine Reads.bind (getUeGolomb_reads ht) ?_
    refine Reads.bind (getUeGolomb_reads hb) ?_
    exact Reads.pure _

theorem skipUeGolomb_reads_cut (h : v + 1 < 2 ^ 16) :
    Reads (bitAt m) (skipUeGolomb m) i (ue v) () :=
  (getUeGolomb_reads h).map fun _ => ()

/-- **Codes are read**, but for what is cut off. -/
theorem h265Size_of_at {c : Codes} (h : c.Short) (hat : At (bitAt m) 104 c.bits) :
    ∃ k, h265Size m 0 = some ((c.width, c.height), k) := by
  obtain ⟨hid, hchroma, hw, hh, hwindow⟩ := h
  have hread : Reads (bitAt m) (h265Size m) 0 (window (bitAt m) 0 104 ++ c.bits)
      (c.width, c.height) := by
    have hsize : (c.width, c.height) =
        ((readAs c.widthAt c.picWidth : Int) - 2 * ((c.confWindow.readInts c.windowAt).1 +
            (c.confWindow.readInts c.windowAt).2.1),
          (readAs c.heightAt c.picHeight : Int) - 2 * ((c.confWindow.readInts c.windowAt).2.2.1 +
            (c.confWindow.readInts c.windowAt).2.2.2)) := by
      rw [readAs_add_cutOff hw, readAs_add_cutOff hh]
      rfl
    rw [hsize, Codes.bits, flagged_eq]
    simp only [List.append_assoc]
    refine Reads.bind (skipBits_reads (length_window ..)) ?_
    refine Reads.bind (skipUeGolomb_reads_cut hid) ?_
    refine Reads.bind (skipUeGolomb_reads_cut hchroma) ?_
    have hwidthAt : 0 + (window (bitAt m) 0 104).length + (ue c.id).length +
        (ue c.chromaFormat).length = c.widthAt := by
      rw [length_window, Nat.zero_add]
      rfl
    rw [hwidthAt]
    refine Reads.bind (getUeGolomb_reads hw) ?_
    refine Reads.bind (getUeGolomb_reads hh) ?_
    refine Reads.bind (getOneBit_reads c.window.isSome) ?_
    exact Reads.map _ (cropFields_reads_cut hwindow)
  have hfirst : At (bitAt m) 0 (window (bitAt m) 0 104 ++ c.bits) := by
    refine at_append.2 ⟨at_window .., ?_⟩
    rw [length_window, Nat.zero_add]
    exact hat
  exact ⟨_, hread hfirst⟩

theorem cropFields_some {flag : Bool} {r : Int × Int × Int × Int}
    (h : cropFields m flag i = some (r, j)) :
    ∃ o : Option Crop, o.isSome = flag ∧ (∀ c, o = some c → ∀ v ∈ c.codes, v + 1 < 2 ^ 16) ∧
      At (bitAt m) i (o.elim [] fun c => c.codes.flatMap ue) := by
  cases flag with
  | false => exact ⟨none, rfl, nofun, rfl⟩
  | true =>
    obtain ⟨_, _, hlget, h⟩ := bind_some h
    obtain ⟨l, hl, hatl, -, rfl⟩ := getUeGolomb_some hlget
    obtain ⟨_, _, hrget, h⟩ := bind_some h
    obtain ⟨r, hr, hatr, -, rfl⟩ := getUeGolomb_some hrget
    obtain ⟨_, _, htget, h⟩ := bind_some h
    obtain ⟨t, ht, hatt, -, rfl⟩ := getUeGolomb_some htget
    obtain ⟨_, _, hbget, -⟩ := bind_some h
    obtain ⟨b, hb, hatb, -, -⟩ := getUeGolomb_some hbget
    refine ⟨some ⟨l, r, t, b⟩, rfl, ?_, ?_⟩
    · rintro _ ⟨⟩
      simp only [Crop.codes, List.forall_mem_cons]
      exact ⟨hl, hr, ht, hb, by simp⟩
    · show At (bitAt m) i (ue l ++ (ue r ++ (ue t ++ (ue b ++ []))))
      exact at_append.2 ⟨hatl, at_append.2 ⟨hatr, at_append.2 ⟨hatt, at_append.2 ⟨hatb, rfl⟩⟩⟩⟩

/-- **Only codes are read**. -/
theorem at_of_h265Size {r : Int × Int} {k : Nat} (h : h265Size m 0 = some (r, k)) :
    ∃ c : Codes, c.Short ∧ At (bitAt m) 104 c.bits ∧ r = (c.width, c.height) := by
  have hrun := h
  obtain ⟨_, _, hskip, h⟩ := bind_some h
  cases hskip
  obtain ⟨_, _, hidget, h⟩ := bind_some h
  obtain ⟨id, hid, hatid, rfl⟩ := skipUeGolomb_some hidget
  obtain ⟨_, _, hchromaget, h⟩ := bind_some h
  obtain ⟨chroma, hchroma, hatchroma, rfl⟩ := skipUeGolomb_some hchromaget
  obtain ⟨_, _, hwget, h⟩ := bind_some h
  obtain ⟨w, hw, hatw, -, rfl⟩ := getUeGolomb_some hwget
  obtain ⟨_, _, hhget, h⟩ := bind_some h
  obtain ⟨hgt, hh, hath, -, rfl⟩ := getUeGolomb_some hhget
  obtain ⟨_, _, hflag, h⟩ := bind_some h
  cases hflag
  obtain ⟨_, _, hcrop, -⟩ := bind_some h
  obtain ⟨o, ho, hshort, hato⟩ := cropFields_some hcrop
  have hc : Codes.Short ⟨id, chroma, w, hgt, o⟩ := ⟨hid, hchroma, hw, hh, hshort⟩
  have hat : At (bitAt m) 104 (Codes.bits ⟨id, chroma, w, hgt, o⟩) := by
    rw [Codes.bits, flagged_eq, ho]
    simp only [List.append_assoc]
    exact at_append.2 ⟨hatid, at_append.2 ⟨hatchroma, at_append.2 ⟨hatw, at_append.2 ⟨hath,
      at_append.2 ⟨at_window (bitAt m) _ 1, hato⟩⟩⟩⟩⟩
  obtain ⟨_, hsome⟩ := h265Size_of_at hc hat
  rw [hrun] at hsome
  exact ⟨_, hc, hat, (Prod.mk.inj (Option.some.inj hsome)).1⟩

theorem cutOff_le (h : v + 1 < 2 ^ 16) : cutOff i v ≤ v := by
  have := readAs_add_cutOff (i := i) h
  omega

theorem Codes.Short.confWindow {c : Codes} (h : c.Short) :
    ∀ v ∈ c.confWindow.codes, v + 1 < 2 ^ 16 := by
  have hwindow := h.2.2.2.2
  unfold Codes.confWindow
  cases hw : c.window with
  | none => decide
  | some w => exact hwindow w hw

/-- What is read is far from an overflow. -/
theorem Codes.Short.bounds {c : Codes} (h : c.Short) :
    (-2 ^ 18 < c.width ∧ c.width < 2 ^ 16) ∧ -2 ^ 18 < c.height ∧ c.height < 2 ^ 16 := by
  have hwindow := h.confWindow
  obtain ⟨-, -, hw, hh, -⟩ := h
  simp only [Crop.codes, List.forall_mem_cons] at hwindow
  obtain ⟨hl, hr, ht, hb, -⟩ := hwindow
  have hwcut := cutOff_le (i := c.widthAt) hw
  have hhcut := cutOff_le (i := c.heightAt) hh
  have hlcut : c.windowCut.left ≤ _ := cutOff_le hl
  have hrcut : c.windowCut.right ≤ _ := cutOff_le hr
  have htcut : c.windowCut.top ≤ _ := cutOff_le ht
  have hbcut : c.windowCut.bottom ≤ _ := cutOff_le hb
  unfold Codes.width Codes.height
  omega

/-! ## Memory -/

theorem length_bitsOf (bytes : Bytes) : (bitsOf bytes).length = 8 * bytes.length := by
  induction bytes with
  | nil => rfl
  | cons b bytes ih =>
    rw [bitsOf, List.flatMap_cons, List.length_append, List.length_map, List.length_range]
    show 8 + (bitsOf bytes).length = _
    rw [ih, List.length_cons]
    omega

theorem at_spsNal265 (stack : Memory) (dst : Bytes) :
    At (bitAt (spsNal265 stack dst)) 0 (bitsOf (dst.drop 5)) := by
  refine at_bitsOf (k := 0) _ fun p hp => ?_
  rw [List.length_drop] at hp
  have hlt : p + 5 < dst.length := by omega
  rw [Nat.zero_add, spsNal265, List.getD_eq_getElem?_getD, List.getElem?_eq_getElem hlt,
    List.getElem_drop]
  simp only [Option.getD_some, Nat.add_comm]

/-- Behind what is copied there is the stack. -/
theorem bitAt_stack (stack : Memory) {dst : Bytes} (h : (bitsOf (dst.drop 5)).length ≤ i) :
    bitAt (spsNal265 stack dst) i = bitAt stack i := by
  rw [length_bitsOf, List.length_drop] at h
  have hnone : dst[i / 8 + 5]? = none := List.getElem?_eq_none (by omega)
  rw [bitAt, bitAt, spsNal265, List.getD_eq_getElem?_getD, hnone]
  rfl

theorem bitAt_copied (stack stack' : Memory) {dst : Bytes}
    (h : i < (bitsOf (dst.drop 5)).length) :
    bitAt (spsNal265 stack dst) i = bitAt (spsNal265 stack' dst) i := by
  rw [length_bitsOf, List.length_drop] at h
  have hsome : dst[i / 8 + 5]? = some dst[i / 8 + 5] := List.getElem?_eq_getElem (by omega)
  simp only [bitAt, spsNal265, List.getD_eq_getElem?_getD, hsome, Option.getD_some]

/-- The stack can hold any bits behind what is copied. -/
theorem exists_stack (dst : Bytes) (g : Nat → Bool) : ∃ stack : Memory, ∀ i,
    bitAt (spsNal265 stack dst) i =
      if i < (bitsOf (dst.drop 5)).length then bitAt (spsNal265 (fun _ => 0) dst) i else g i := by
  obtain ⟨stack, hstack⟩ := exists_memory g
  refine ⟨stack, fun i => ?_⟩
  split
  · next h => exact bitAt_copied _ _ h
  · next h => rw [bitAt_stack stack (Nat.le_of_not_lt h), hstack]

theorem bitAt_zero (dst : Bytes) (h : (bitsOf (dst.drop 5)).length ≤ i) :
    bitAt (spsNal265 (fun _ => 0) dst) i = false := by
  rw [bitAt_stack _ h]
  simp [bitAt]

theorem at_kept (stack : Memory) (dst : Bytes) :
    At (bitAt (spsNal265 stack dst)) 104 ((bitsOf (dst.drop 5)).drop 104) := by
  have hat := at_spsNal265 stack dst
  rw [← List.take_append_drop 104 (bitsOf (dst.drop 5))] at hat
  obtain ⟨-, hdrop⟩ := at_append.1 hat
  rcases Nat.lt_or_ge (bitsOf (dst.drop 5)).length 104 with h | h
  · rw [List.drop_eq_nil_of_le (Nat.le_of_lt h)]
    rfl
  · rwa [List.length_take, Nat.min_eq_left h, Nat.zero_add] at hdrop

/-! ## Codes that share what is seen of them -/

theorem lost_le (h : v + 1 < 2 ^ 16) : lost i (ue v).length ≤ (v + 1).log2 := by
  have hk : (v + 1).log2 < 16 := (Nat.log2_lt (by omega)).2 h
  rw [length_ue, lost]
  omega

/-- What is read does not depend on the bits that are cut off. -/
theorem exists_code_of_take {f : Nat → Bool} (h : v + 1 < 2 ^ 16)
    (hat : At f i ((ue v).take ((ue v).length - lost i (ue v).length))) :
    ∃ w, w + 1 < 2 ^ 16 ∧ At f i (ue w) ∧ (w - cutOff i w : Int) = v - cutOff i v := by
  obtain ⟨bs, hbs, -, hue⟩ := ue_eq v
  have hlost := lost_le (i := i) h
  have hlen := length_ue v
  generalize hk : (v + 1).log2 = k at *
  have hseen : ((ue v).take ((ue v).length - lost i (ue v).length)).length =
      (ue v).length - lost i (ue v).length := by
    rw [List.length_take]
    omega
  have hhead : At f i (List.replicate k false ++ [true]) := by
    refine hat.mono (List.prefix_take_iff.2 ⟨⟨bs, ?_⟩, ?_⟩)
    · rw [hue, List.append_assoc]
      rfl
    · rw [List.length_append, List.length_replicate, List.length_singleton]
      omega
  obtain ⟨w, hlog, -, huew⟩ := exists_ue_eq (length_window f (i + (k + 1)) k)
  have hatw : At f i (ue w) := by
    have happ : ue w = (List.replicate k false ++ [true]) ++ window f (i + (k + 1)) k := by
      rw [huew, List.append_assoc]
      rfl
    rw [happ]
    refine at_append.2 ⟨hhead, ?_⟩
    rw [List.length_append, List.length_replicate, List.length_singleton]
    exact at_window ..
  have hlenw : (ue w).length = (ue v).length := by rw [length_ue, hlog, hlen]
  refine ⟨w, ?_, hatw, ?_⟩
  · have hk16 : k < 16 := hk ▸ (Nat.log2_lt (by omega)).2 h
    exact (Nat.log2_lt (by omega)).1 (by omega)
  · have htake := hatw.take (n := (ue v).length - lost i (ue v).length) (by omega)
    have hsame : (ue w).take ((ue v).length - lost i (ue v).length) =
        (ue v).take ((ue v).length - lost i (ue v).length) := by
      rw [← htake, ← hat, hseen]
    have hvalue := congrArg value hsame
    have hback : (ue v).length - ((ue v).length - lost i (ue v).length) = lost i (ue v).length := by
      omega
    rw [value_take, value_take, value_ue, value_ue, hlenw, hback] at hvalue
    have hw := Nat.div_add_mod (w + 1) (2 ^ lost i (ue v).length)
    have hv := Nat.div_add_mod (v + 1) (2 ^ lost i (ue v).length)
    rw [hvalue] at hw
    rw [cutOff, cutOff, hlenw]
    omega

/-- A bit that is seen makes a difference. -/
theorem exists_code_of_flip {f g : Nat → Bool} {e : Nat} (h : v + 1 < 2 ^ 16) (hat : At f i (ue v))
    (he : i + (v + 1).log2 < e) (he' : e + lost i (ue v).length < i + (ue v).length)
    (hf : f e = false) (hg : g e = true) (hfg : ∀ j, j ≠ e → g j = f j) :
    ∃ w, w + 1 < 2 ^ 16 ∧ At g i (ue w) ∧ (w - cutOff i w : Int) ≠ v - cutOff i v := by
  obtain ⟨bs, hbs, hval, hue⟩ := ue_eq v
  have hlen := length_ue v
  generalize hk : (v + 1).log2 = k at *
  have hk16 : k < 16 := hk ▸ (Nat.log2_lt (by omega)).2 h
  -- the bits around the one that differs
  have hbits : At f (i + (k + 1)) bs := by
    have happ : ue v = (List.replicate k false ++ [true]) ++ bs := by
      rw [hue, List.append_assoc]
      rfl
    rw [happ] at hat
    have := (at_append.1 hat).2
    rwa [List.length_append, List.length_replicate, List.length_singleton] at this
  obtain ⟨xs, ys, hsplit, hxs⟩ : ∃ xs ys, bs = xs ++ false :: ys ∧ xs.length = e - (i + (k + 1)) := by
    have hlt : e - (i + (k + 1)) < bs.length := by omega
    refine ⟨bs.take (e - (i + (k + 1))), bs.drop (e - (i + (k + 1)) + 1), ?_, ?_⟩
    · have hget : bs[e - (i + (k + 1))] = false := by
        have hbit := congrArg (fun l : List Bool => l[e - (i + (k + 1))]?) hbits
        simp only [window, List.getElem?_map, List.getElem?_range hlt,
          List.getElem?_eq_getElem hlt, Option.map_some, Option.some.injEq] at hbit
        rw [← hbit, Nat.add_sub_cancel' (by omega), hf]
      rw [← hget, List.getElem_cons_drop, List.take_append_drop]
    · rw [List.length_take]
      omega
  have hys : ys.length + (e + 1) = i + (ue v).length := by
    have := congrArg List.length hsplit
    rw [List.length_append, List.length_cons] at this
    omega
  have hlenbs : (xs ++ true :: ys).length = k := by
    rw [← hbs, hsplit, List.length_append, List.length_append]
    rfl
  obtain ⟨w, hlog, hvalw, huew⟩ := exists_ue_eq hlenbs
  have hsum : w + 1 = v + 1 + 2 ^ ys.length := by
    rw [hvalw, hval, hsplit]
    simp only [value_cons, value_append, List.length_append, List.length_cons, Bool.toNat_true,
      Bool.toNat_false]
    omega
  have hlenw : (ue w).length = (ue v).length := by rw [length_ue, hlog, hlen]
  refine ⟨w, (Nat.log2_lt (by omega)).1 (by omega), ?_, ?_⟩
  · have happ : ue w = (List.replicate k false ++ true :: xs) ++ (true :: ys) := by
      rw [huew, List.append_assoc]
      rfl
    have happv : ue v = (List.replicate k false ++ true :: xs) ++ ([false] ++ ys) := by
      rw [hue, hsplit, List.append_assoc]
      rfl
    rw [happv] at hat
    obtain ⟨hfront, hback⟩ := at_append.1 hat
    obtain ⟨-, hys'⟩ := at_append.1 hback
    have hpos : i + (List.replicate k false ++ true :: xs).length = e := by
      rw [List.length_append, List.length_replicate, List.length_cons]
      omega
    rw [hpos] at hys'
    rw [happ]
    refine at_append.2 ⟨at_congr hfront fun j hj => hfg _ (by omega), ?_⟩
    rw [hpos]
    have hone : At g e [true] := congrArg (· :: []) hg
    have hbehind : At g (e + 1) ys := at_congr hys' fun j hj => hfg _ (by omega)
    rw [← List.singleton_append]
    exact at_append.2 ⟨hone, hbehind⟩
  · -- what is cut off is the same
    have hcut : (w + 1) % 2 ^ lost i (ue v).length = (v + 1) % 2 ^ lost i (ue v).length := by
      rw [hsum]
      obtain ⟨q, hq⟩ := Nat.pow_dvd_pow 2 (by omega : lost i (ue v).length ≤ ys.length)
      rw [hq, Nat.add_mul_mod_self_left]
    have := Nat.two_pow_pos ys.length
    rw [cutOff, cutOff, hlenw, hcut]
    omega

namespace Codes

variable (c : Codes)

/-- The codes up to the flag of the window. -/
def front : List Bool := ue c.id ++ ue c.chromaFormat ++ ue c.picWidth ++ ue c.picHeight

/-- The codes of a window up to the last one. -/
def toBottom (w : Crop) : List Bool :=
  c.front ++ [true] ++ (ue w.left ++ ue w.right ++ ue w.top)

/-- The same codes but for the last one. -/
def setBottom (w : Crop) (v : Nat) : Codes := { c with window := some { w with bottom := v } }

variable {c} {w : Crop}

theorem bits_none (h : c.window = none) : c.bits = c.front ++ [false] := by
  rw [bits, h]
  rfl

theorem bits_some (h : c.window = some w) : c.bits = c.toBottom w ++ ue w.bottom := by
  rw [bits, h, toBottom, front]
  simp [flagged, Crop.codes]

theorem seen_none (h : c.window = none) : c.seen = c.front ++ [false] := by
  rw [seen, h, Option.elim_none, Nat.sub_zero, List.take_length, bits_none h]

theorem seen_some (h : c.window = some w) : c.seen = c.toBottom w ++
    (ue w.bottom).take ((ue w.bottom).length - lost (104 + (c.toBottom w).length)
      (ue w.bottom).length) := by
  have hlost : lost (104 + (c.toBottom w).length) (ue w.bottom).length ≤ (ue w.bottom).length := by
    unfold lost
    omega
  rw [seen, h, Option.elim_some, bits_some h, List.length_append, ← Nat.add_assoc,
    Nat.add_sub_cancel, Nat.add_sub_assoc hlost, List.take_length_add_append]

theorem bottomAt (h : c.window = some w) : c.windowCut.bottom =
    cutOff (104 + (c.toBottom w).length) w.bottom := by
  have hpos : c.windowAt + (ue w.left).length + (ue w.right).length + (ue w.top).length =
      104 + (c.toBottom w).length := by
    simp only [windowAt, heightAt, widthAt, toBottom, front, List.length_append,
      List.length_singleton]
    omega
  rw [windowCut, confWindow, h, ← hpos]
  rfl

theorem setBottom_width (h : c.window = some w) (v : Nat) : (c.setBottom w v).width = c.width := by
  unfold width windowCut confWindow
  rw [h]
  rfl

theorem setBottom_height (h : c.window = some w) (v : Nat) : (c.setBottom w v).height = c.height +
    2 * ((w.bottom - cutOff (104 + (c.toBottom w).length) w.bottom) -
      (v - cutOff (104 + (c.toBottom w).length) v)) := by
  have hold := bottomAt h
  have hnew := bottomAt (c := c.setBottom w v) (w := { w with bottom := v }) rfl
  have htop : (c.setBottom w v).windowCut.top = c.windowCut.top := by
    rw [windowCut, windowCut, confWindow, confWindow, h]
    rfl
  have hwindow : c.confWindow = w := by
    rw [confWindow, h]
    rfl
  unfold height
  rw [hnew, hold, htop, hwindow]
  show _ - 2 * (_ + ((v : Int) - cutOff (104 + (c.toBottom w).length) v)) = _
  show (c.picHeight - cutOff c.heightAt c.picHeight : Int) - 2 * ((w.top - _) + _) = _
  omega

theorem setBottom_short (hc : c.Short) (h : c.window = some w) {v : Nat} (hv : v + 1 < 2 ^ 16) :
    (c.setBottom w v).Short := by
  obtain ⟨hid, hchroma, hw, hh, hwindow⟩ := hc
  have hcodes := hwindow w h
  simp only [Crop.codes, List.forall_mem_cons] at hcodes
  refine ⟨hid, hchroma, hw, hh, ?_⟩
  rintro _ ⟨⟩
  simp only [Crop.codes, List.forall_mem_cons]
  exact ⟨hcodes.1, hcodes.2.1, hcodes.2.2.1, hv, by simp⟩

end Codes

/-! ## Where the reader looks -/

/-- What is seen of codes is enough. -/
theorem h265Size_of_seen {c : Codes} (hc : c.Short) (hat : At (bitAt m) 104 c.seen) :
    ∃ k, h265Size m 0 = some ((c.width, c.height), k) := by
  cases hw : c.window with
  | none =>
    rw [Codes.seen_none hw, ← Codes.bits_none hw] at hat
    exact h265Size_of_at hc hat
  | some w =>
    rw [Codes.seen_some hw] at hat
    obtain ⟨hfront, hlast⟩ := at_append.1 hat
    have hbottom : w.bottom + 1 < 2 ^ 16 := hc.2.2.2.2 w hw _ (by simp [Crop.codes])
    obtain ⟨v, hv, hatv, heq⟩ := exists_code_of_take hbottom hlast
    have hat' : At (bitAt m) 104 (c.setBottom w v).bits := by
      rw [Codes.bits_some (w := { w with bottom := v }) rfl]
      exact at_append.2 ⟨hfront, hatv⟩
    obtain ⟨k, hk⟩ := h265Size_of_at (Codes.setBottom_short hc hw hv) hat'
    rw [Codes.setBottom_width hw, Codes.setBottom_height hw, heq, Int.sub_self, Int.mul_zero,
      Int.add_zero] at hk
    exact ⟨k, hk⟩

/-- A flag that is not copied can be one of a window. -/
theorem flag_copied {dst : Bytes} {size : Int × Int} {c : Codes} (hc : c.Short)
    (hw : c.window = none) (hat : At (bitAt (spsNal265 (fun _ => 0) dst)) 104 c.bits)
    (hwidth : c.width = size.1)
    (hall : ∀ stack, ∃ k, h265Size (spsNal265 stack dst) 0 = some (size, k)) :
    104 + c.seen.length ≤ (bitsOf (dst.drop 5)).length := by
  by_contra hlong
  rw [Codes.seen_none hw, List.length_append, List.length_singleton] at hlong
  let tail : List Bool := [true] ++ (ue 1 ++ ue 0 ++ ue 0 ++ ue 0)
  obtain ⟨stack, hstack⟩ := exists_stack dst fun i =>
    if i < 104 + c.front.length then false else tail.getD (i - (104 + c.front.length)) false
  let c' : Codes := { c with window := some ⟨1, 0, 0, 0⟩ }
  have hc' : c'.Short := by
    obtain ⟨hid, hchroma, hw, hh, -⟩ := hc
    refine ⟨hid, hchroma, hw, hh, ?_⟩
    rintro _ ⟨⟩
    decide
  rw [Codes.bits_none hw] at hat
  have hfront : At (bitAt (spsNal265 stack dst)) 104 c.front := by
    refine at_congr (at_append.1 hat).1 fun j hj => ?_
    rw [hstack]
    split
    · rfl
    · next hout => rw [if_pos (by omega), bitAt_zero dst (Nat.le_of_not_lt hout)]
  have htail : At (bitAt (spsNal265 stack dst)) (104 + c.front.length) tail := by
    refine at_of_getD fun j hj => ?_
    rw [hstack, if_neg (by omega), if_neg (by omega), Nat.add_sub_cancel_left]
  have hat' : At (bitAt (spsNal265 stack dst)) 104 c'.bits := by
    have hbits : c'.bits = c.front ++ tail := by
      rw [Codes.bits_some (c := c') rfl, Codes.toBottom]
      simp only [List.append_assoc, tail]
      rfl
    rw [hbits]
    exact at_append.2 ⟨hfront, htail⟩
  obtain ⟨k, hk⟩ := h265Size_of_at hc' hat'
  obtain ⟨k', hk'⟩ := hall stack
  rw [hk'] at hk
  have hsize : size.1 = c'.width := by
    rw [(Prod.mk.inj (Option.some.inj hk)).1]
  have hone : ∀ i, cutOff i 1 = 0 := fun i => cutOff_of_lt (by decide)
  have hzero : ∀ i, cutOff i 0 = 0 := fun i => cutOff_of_lt (by decide)
  have hwidth' : c'.width = c.width - 2 := by
    simp only [Codes.width, Codes.windowCut, Codes.confWindow, hw, Crop.cutOff, c', hone, hzero,
      Option.getD_none, Option.getD_some, Codes.widthAt]
    omega
  omega

/-- A bit that is seen is copied. -/
theorem bottom_copied {dst : Bytes} {size : Int × Int} {c : Codes} {w : Crop} (hc : c.Short)
    (hw : c.window = some w) (hat : At (bitAt (spsNal265 (fun _ => 0) dst)) 104 c.bits)
    (hheight : c.height = size.2)
    (hall : ∀ stack, ∃ k, h265Size (spsNal265 stack dst) 0 = some (size, k)) :
    104 + c.seen.length ≤ (bitsOf (dst.drop 5)).length := by
  by_contra hlong
  have hbottom : w.bottom + 1 < 2 ^ 16 := hc.2.2.2.2 w hw _ (by simp [Crop.codes])
  have hlost := lost_le (i := 104 + (c.toBottom w).length) hbottom
  have hlen := length_ue w.bottom
  have hseen : c.seen.length = (c.toBottom w).length + ((ue w.bottom).length -
      lost (104 + (c.toBottom w).length) (ue w.bottom).length) := by
    rw [Codes.seen_some hw, List.length_append, List.length_take]
    omega
  rw [Codes.bits_some hw] at hat
  obtain ⟨hfront, hlast⟩ := at_append.1 hat
  -- the first one of the last code is copied: there are zeros behind
  have hfirst : 104 + (c.toBottom w).length + (w.bottom + 1).log2 <
      (bitsOf (dst.drop 5)).length := by
    obtain ⟨bs, -, -, hue⟩ := ue_eq w.bottom
    have happ : ue w.bottom = List.replicate (w.bottom + 1).log2 false ++ ([true] ++ bs) := hue
    have hlast := hlast
    rw [happ] at hlast
    have hone := (at_append.1 (at_append.1 hlast).2).1
    rw [List.length_replicate] at hone
    have hbit : bitAt (spsNal265 (fun _ => 0) dst) (104 + (c.toBottom w).length +
        (w.bottom + 1).log2) = true := by simpa [At, window] using hone
    by_contra hout
    rw [bitAt_zero dst (Nat.le_of_not_lt hout)] at hbit
    cases hbit
  obtain ⟨stack, hstack⟩ := exists_stack dst fun i => decide (i = (bitsOf (dst.drop 5)).length)
  have hother : ∀ j, j ≠ (bitsOf (dst.drop 5)).length →
      bitAt (spsNal265 stack dst) j = bitAt (spsNal265 (fun _ => 0) dst) j := fun j hj => by
    rw [hstack]
    split
    · rfl
    · next hout => rw [decide_eq_false hj, bitAt_zero dst (Nat.le_of_not_lt hout)]
  have hflip : bitAt (spsNal265 stack dst) (bitsOf (dst.drop 5)).length = true := by
    rw [hstack, if_neg (Nat.lt_irrefl _), decide_eq_true rfl]
  obtain ⟨v, hv, hatv, hne⟩ := exists_code_of_flip hbottom hlast hfirst (by omega)
    (bitAt_zero dst le_rfl) hflip hother
  have hat' : At (bitAt (spsNal265 stack dst)) 104 (c.setBottom w v).bits := by
    rw [Codes.bits_some (w := { w with bottom := v }) rfl]
    have hfront' : At (bitAt (spsNal265 stack dst)) 104 (c.toBottom w) :=
      at_congr hfront fun j hj => hother _ (by omega)
    exact at_append.2 ⟨hfront', hatv⟩
  obtain ⟨k, hk⟩ := h265Size_of_at (Codes.setBottom_short hc hw hv) hat'
  obtain ⟨k', hk'⟩ := hall stack
  rw [hk'] at hk
  have hsize : size.2 = (c.setBottom w v).height := by
    rw [(Prod.mk.inj (Option.some.inj hk)).1]
  rw [Codes.setBottom_height hw] at hsize
  omega

/-- **The reader finds the size**, whatever the stack holds, if and only if codes of it are copied. -/
theorem forall_stack_iff (dst : Bytes) (size : Int × Int) :
    (∀ stack, ∃ k, h265Size (spsNal265 stack dst) 0 = some (size, k)) ↔
      ∃ c : Codes, c.Short ∧ c.seen <+: (bitsOf (dst.drop 5)).drop 104 ∧ c.width = size.1 ∧
        c.height = size.2 := by
  constructor
  · intro hall
    obtain ⟨k, hk⟩ := hall fun _ => 0
    obtain ⟨c, hc, hat, rfl⟩ := at_of_h265Size hk
    refine ⟨c, hc, ?_, rfl, rfl⟩
    have hcopied : 104 + c.seen.length ≤ (bitsOf (dst.drop 5)).length := by
      cases hw : c.window with
      | none => exact flag_copied hc hw hat rfl hall
      | some w => exact bottom_copied hc hw hat rfl hall
    refine (hat.mono (List.take_prefix ..)).prefix_of_le (at_kept _ dst) ?_
    rw [List.length_drop]
    exact Nat.le_sub_of_add_le' hcopied
  · rintro ⟨c, hc, hseen, hw, hh⟩ stack
    have hsize := h265Size_of_seen hc ((at_kept stack dst).mono hseen)
    rwa [hw, hh] at hsize

/-! ## The search -/

section Scan

variable {stack : Nat → Memory} {out : Out}

theorem analyseAt265_quiet {bytes : Bytes} (h : Quiet265 bytes) :
    analyseAt265 stack bytes out = some (-1, out) := by
  unfold analyseAt265
  split
  · rename_i naltype _
    rw [if_neg (h naltype rfl)]
  · rfl

/-- Nothing is analysed before the first unit of type 33. -/
theorem streamAnalyse265_skip {pre unit : Bytes} (hunit : 4 < unit.length)
    (h : ∀ p < pre.length, Quiet265 ((pre ++ unit).drop p)) :
    streamAnalyse265 stack (pre ++ unit) out = streamAnalyse265 stack unit out := by
  induction pre with
  | nil => rfl
  | cons a pre ih =>
    have hlen : 4 < (a :: (pre ++ unit)).length := by
      rw [List.length_cons, List.length_append]
      omega
    have hquiet : analyseAt265 stack (a :: (pre ++ unit)) out = some (-1, out) :=
      analyseAt265_quiet (h 0 (by simp))
    rw [List.cons_append, streamAnalyse265, if_pos hlen, hquiet]
    refine ih fun p hp => h (p + 1) ?_
    rw [List.length_cons]
    omega

end Scan

namespace SpsBuffer265

variable (b : SpsBuffer265)

/-- The bytes that are copied. -/
def copied : Bytes := remove0x03 (b.unit.take 512)

/-- `decsps_265` is the analysis of the first unit, if the length is no negative `int`. -/
theorem decsps265_eq (hsize : b.bytes.length < 2 ^ 31) (stack : Nat → Memory) (width height : Nat) :
    decsps265 stack b.bytes width height =
      (h265Size (spsNal265 (stack b.unit.length) b.copied) 0).map fun r =>
        (0, (r.1.1 % 2 ^ 32).toNat, (r.1.2 % 2 ^ 32).toNat) := by
  have hunit : 4 < b.unit.length := by
    simp only [unit, List.length_cons]
    omega
  have hanalyse : analyseAt265 stack b.unit ⟨width, height, 0⟩ =
      (h265Size (spsNal265 (stack b.unit.length) b.copied) 0).map fun r =>
        (2, { width := r.1.1, height := r.1.2, framerate := 0 }) :=
    if_pos b.unitType
  have hstream : streamAnalyse265 stack b.unit ⟨width, height, 0⟩ =
      (h265Size (spsNal265 (stack b.unit.length) b.copied) 0).map fun r =>
        (2, { width := r.1.1, height := r.1.2, framerate := 0 }) := by
    have hcons : b.unit = 0 :: b.unit.drop 1 := rfl
    rw [hcons, streamAnalyse265, ← hcons, if_pos hunit, hanalyse]
    cases h265Size (spsNal265 (stack b.unit.length) b.copied) 0 <;> rfl
  rw [decsps265, int32OfSize_eq hsize, Int.toNat_natCast, List.take_length, bytes,
    streamAnalyse265_skip hunit b.first, hstream]
  cases h265Size (spsNal265 (stack b.unit.length) b.copied) 0 <;> rfl

/-- A length from 2^31 on is negative as an `int`. -/
theorem not_right_of_negative (hsize : 2 ^ 31 ≤ b.bytes.length) : ¬b.Right := by
  have hneg : (int32OfSize b.bytes.length).toNat = 0 := by
    have hlt : b.bytes.length < 2 ^ 32 := b.size
    apply Int.toNat_of_nonpos
    unfold int32OfSize
    simp only [Int.bmod_def]
    split <;> omega
  intro hright
  obtain ⟨w, h, hdec, -⟩ := hright (fun _ _ => 0) 0 0
  rw [decsps265, hneg, List.take_zero, streamAnalyse265] at hdec
  simp at hdec

/-- The size that is read has to be the right one, whatever the stack holds. -/
theorem right_iff_size (hsize : b.bytes.length < 2 ^ 31) :
    b.Right ↔ ∀ stack, ∃ k,
      h265Size (spsNal265 stack b.copied) 0 = some ((b.sps.width, b.sps.height), k) := by
  have hw := b.conforming.width
  have hh := b.conforming.height
  have hwidth : b.sps.width ≤ 16888 := by
    have := b.conforming.picWidth
    unfold Sps265.width
    omega
  have hheight : b.sps.height ≤ 16888 := by
    have := b.conforming.picHeight
    unfold Sps265.height
    omega
  constructor
  · intro hright stack
    obtain ⟨w, h, hdec, hww, hhh⟩ := hright (fun _ => stack) 0 0
    rw [b.decsps265_eq hsize] at hdec
    cases hrun : h265Size (spsNal265 stack b.copied) 0 with
    | none =>
      rw [hrun] at hdec
      cases hdec
    | some r =>
      rw [hrun] at hdec
      obtain ⟨c, hc, -, hr⟩ := at_of_h265Size hrun
      have hbounds := hc.bounds
      simp only [Option.map_some, hr, Option.some.injEq, Prod.mk.injEq, true_and] at hdec
      have hcw : c.width = b.sps.width := by omega
      have hch : c.height = b.sps.height := by omega
      exact ⟨r.2, by rw [← hcw, ← hch, ← hr]⟩
  · intro hall stack width height
    obtain ⟨k, hk⟩ := hall (stack b.unit.length)
    refine ⟨(b.sps.width % 2 ^ 32).toNat, (b.sps.height % 2 ^ 32).toNat, ?_, by omega, by omega⟩
    rw [b.decsps265_eq hsize, hk]
    rfl

end SpsBuffer265

/-! ## One sub-layer -/

theorem length_rbsp_le (p : Bytes) : (rbsp p).length ≤ p.length := by
  fun_induction rbsp p with
  | case1 a b c bytes h ih =>
    simp only [List.length_cons]
    omega
  | case2 a b c bytes h ih =>
    simp only [List.length_cons] at ih ⊢
    omega
  | case3 bytes hshort => exact le_rfl

theorem length_rbsp_append (p q : Bytes) : (rbsp (p ++ q)).length ≤ (rbsp p).length + q.length := by
  fun_induction rbsp p with
  | case1 a b c bytes h ih =>
    rw [List.cons_append, List.cons_append, List.cons_append, rbsp, if_pos h]
    simp only [List.length_cons]
    omega
  | case2 a b c bytes h ih =>
    rw [List.cons_append, List.cons_append, List.cons_append, rbsp, if_neg h]
    simp only [List.length_cons, List.cons_append] at ih ⊢
    omega
  | case3 bytes hshort =>
    have hle := length_rbsp_le (bytes ++ q)
    rwa [List.length_append] at hle

/-- At most every third byte is an emulation prevention byte. -/
theorem two_mul_length_le (p : Bytes) : 2 * p.length ≤ 3 * (rbsp p).length := by
  fun_induction rbsp p with
  | case1 a b c bytes h ih =>
    simp only [List.length_cons]
    omega
  | case2 a b c bytes h ih =>
    simp only [List.length_cons] at ih ⊢
    omega
  | case3 bytes hshort => omega

theorem Codes.Short.length_bits {c : Codes} (h : c.Short) : c.bits.length ≤ 249 := by
  obtain ⟨hid, hchroma, hw, hh, hwindow⟩ := h
  have hid := length_ue_le hid
  have hchroma := length_ue_le hchroma
  have hw := length_ue_le hw
  have hh := length_ue_le hh
  have hlen : (flagged (fun w => w.codes.flatMap ue) c.window).length ≤ 125 := by
    cases hwin : c.window with
    | none => exact Nat.le_of_ble_eq_true rfl
    | some w =>
      have hcodes := hwindow w hwin
      simp only [Crop.codes, List.forall_mem_cons] at hcodes
      have hl := length_ue_le hcodes.1
      have hr := length_ue_le hcodes.2.1
      have ht := length_ue_le hcodes.2.2.1
      have hb := length_ue_le hcodes.2.2.2.1
      rw [flagged_some]
      simp only [Crop.codes, List.flatMap_cons, List.flatMap_nil, List.length_append,
        List.length_singleton, List.length_nil]
      omega
  unfold Codes.bits
  simp only [List.length_append]
  omega

namespace Sps265

variable {s : Sps265}

theorem Conforming.confWindow (h : s.Conforming) :
    2 * (s.confWindow.left + s.confWindow.right) < s.picWidth ∧
      2 * (s.confWindow.top + s.confWindow.bottom) < s.picHeight := by
  have hw := h.width
  have hh := h.height
  unfold Sps265.width at hw
  unfold Sps265.height at hh
  omega

theorem Conforming.short (h : s.Conforming) : s.codes.Short := by
  have hid := h.id
  have hw := h.picWidth
  have hh := h.picHeight
  have hwindow := h.confWindow
  refine ⟨?_, (by decide : 1 + 1 < 2 ^ 16), ?_, ?_, ?_⟩
  · show s.id + 1 < 2 ^ 16
    omega
  · show s.picWidth + 1 < 2 ^ 16
    omega
  · show s.picHeight + 1 < 2 ^ 16
    omega
  · intro w hsome
    have hconf : s.confWindow = w := by
      rw [Sps265.confWindow, show s.window = some w from hsome]
      rfl
    rw [hconf] at hwindow
    simp only [Crop.codes, List.forall_mem_cons]
    exact ⟨by omega, by omega, by omega, by omega, by simp⟩

/-- The fields are read right if what is cut off them cancels out. -/
theorem exact_iff (s : Sps265) :
    s.Exact ↔ s.codes.width = s.width ∧ s.codes.height = s.height := by
  unfold Exact Codes.width Codes.height Sps265.width Sps265.height
  have hconf : s.codes.confWindow = s.confWindow := rfl
  have hw : s.codes.picWidth = s.picWidth := rfl
  have hh : s.codes.picHeight = s.picHeight := rfl
  rw [hconf, hw, hh]
  omega

theorem Conforming.length_head (h : s.Conforming) : s.head.length = 104 := by
  rw [head]
  simp only [List.length_append, length_ofNat, List.length_singleton, h.generalProfile]

end Sps265

namespace SpsBuffer265

variable (b : SpsBuffer265)

/-- Behind the header, what is copied is the beginning of the parameter set. -/
theorem copied_eq {y z : UInt8} {r : Bytes} (h : (b.body ++ b.rest).take 507 = y :: z :: r) :
    b.copied.drop 5 = remove0x03 (y :: z :: r) := by
  have hh : b.header ≠ 0 := by
    intro hzero
    have := b.unitType
    rw [hzero] at this
    exact absurd this (by decide)
  have htake : b.unit.take 512 =
      0 :: 0 :: 1 :: b.header :: b.temporal :: (b.body ++ b.rest).take 507 := rfl
  have htemporal : remove0x03 (b.temporal :: y :: z :: r) = b.temporal :: remove0x03 (y :: z :: r) := by
    rw [remove0x03, if_neg fun hc => b.temporal_ne hc.1]
  rw [copied, htake, h, remove0x03_unit hh, htemporal]
  rfl

/-- **The fields of one sub-layer are copied**: at least two more bytes follow them. -/
theorem codes_kept (h : b.sps.subLayers = []) : b.sps.codes.bits <+: b.kept.drop 104 := by
  have hhead := b.conforming.length_head
  have hshort := b.conforming.short.length_bits
  have hrest := b.conforming.rest
  have hbits : b.sps.bits = b.sps.head ++ b.sps.codes.bits ++ b.sps.rest := by
    rw [Sps265.bits, Sps265.subLayerBits, if_pos h, List.append_nil]
    rfl
  have hbitlen := length_bitsOf (rbsp b.body)
  rw [b.coded, hbits, List.length_append, List.length_append] at hbitlen
  have hlebody := length_rbsp_le b.body
  obtain ⟨n, hn⟩ : ∃ n, n = min b.body.length 507 - 2 := ⟨_, rfl⟩
  have hnbody : (b.body.take n).length = n := by
    rw [List.length_take]
    omega
  -- what is before the last two bytes that are copied
  obtain ⟨r, hr⟩ : b.body.take n <+: (b.body ++ b.rest).take 507 :=
    List.prefix_take_iff.2 ⟨(List.take_prefix ..).trans (List.prefix_append ..), by omega⟩
  have hrlen : 2 ≤ r.length := by
    have := congrArg List.length hr
    rw [List.length_append, List.length_take (l := b.body ++ b.rest), List.length_append] at this
    omega
  have hcopied : b.copied.drop 5 = remove0x03 (b.body.take n ++ r) := by
    obtain ⟨y, z, q, hyz⟩ := exists_two (r := b.body.take n ++ r) (by
      rw [List.length_append]
      omega)
    rw [b.copied_eq (hr.symm.trans hyz), hyz]
  have hkept : bitsOf (rbsp (b.body.take n)) <+: b.kept := by
    show _ <+: bitsOf (b.copied.drop 5)
    rw [hcopied]
    exact bitsOf_mono (rbsp_prefix_remove0x03 _ _ hrlen)
  have henough : b.sps.head.length + b.sps.codes.bits.length ≤
      (bitsOf (rbsp (b.body.take n))).length := by
    have hsplit := length_rbsp_append (b.body.take n) (b.body.drop n)
    have htwo := two_mul_length_le (b.body.take n)
    rw [List.take_append_drop, List.length_drop] at hsplit
    rw [length_bitsOf]
    rcases Nat.lt_or_ge 507 b.body.length with hlong | hfits
    · omega
    · omega
  have hprefix : b.sps.head ++ b.sps.codes.bits <+: bitsOf (rbsp (b.body.take n)) := by
    have hbody := rbsp_append (b.body.take n) (b.body.drop n)
    rw [List.take_append_drop] at hbody
    have hfields : b.sps.head ++ b.sps.codes.bits <+: bitsOf (rbsp b.body) := by
      rw [b.coded, hbits]
      exact List.prefix_append ..
    refine List.prefix_of_prefix_length_le hfields (bitsOf_mono hbody) ?_
    rwa [List.length_append]
  obtain ⟨t, ht⟩ := hprefix.trans hkept
  exact ⟨t, by rw [← ht, List.append_assoc, List.drop_left' hhead]⟩

/-- Of one sub-layer the fields themselves are found. -/
theorem found_iff (h : b.sps.subLayers = []) : b.Found ↔ b.sps.Exact := by
  rw [Sps265.exact_iff]
  have hseen : b.sps.codes.seen <+: b.kept.drop 104 :=
    (List.take_prefix ..).trans (b.codes_kept h)
  constructor
  · rintro ⟨c, hc, hcseen, hw, hh⟩
    obtain ⟨k, hk⟩ := h265Size_of_seen hc ((at_kept (fun _ => 0) b.copied).mono hcseen)
    obtain ⟨k', hk'⟩ :=
      h265Size_of_seen b.conforming.short ((at_kept (fun _ => 0) b.copied).mono hseen)
    rw [hk] at hk'
    simp only [Option.some.injEq, Prod.mk.injEq] at hk'
    rw [← hk'.1.1, ← hk'.1.2]
    exact ⟨hw, hh⟩
  · rintro ⟨hw, hh⟩
    exact ⟨_, b.conforming.short, hseen, hw, hh⟩

theorem right_iff_found : b.Right ↔ b.bytes.length < 2 ^ 31 ∧ b.Found := by
  by_cases hsize : b.bytes.length < 2 ^ 31
  · rw [b.right_iff_size hsize, and_iff_right hsize]
    exact forall_stack_iff b.copied (b.sps.width, b.sps.height)
  · exact iff_of_false (b.not_right_of_negative (Nat.le_of_not_lt hsize)) fun h => hsize h.1

/-- **The frame size is right** of one sub-layer if and only if the length is no negative `int` and
what is cut off cancels out. Of any number of sub-layers codes of the size have to be where the
reader looks; of one these are the fields. -/
theorem decsps265_right_iff (b : SpsBuffer265) :
    (b.sps.subLayers = [] → (b.Right ↔ b.bytes.length < 2 ^ 31 ∧ b.sps.Exact)) ∧
      (b.Right ↔ b.bytes.length < 2 ^ 31 ∧ b.Found) ∧
      (b.sps.subLayers = [] → (b.Found ↔ b.sps.Exact)) := by
  refine ⟨fun hone => ?_, b.right_iff_found, b.found_iff⟩
  rw [b.right_iff_found, b.found_iff hone]

/-- Pictures of 1920x1080 in two temporal sub-layers. -/
def layeredSps : Sps265 where
  vpsId := 0
  temporalIdNesting := true
  generalProfile := ofNat 8 0x01 ++ ofNat 32 0x60000000 ++ ofNat 48 0x900000000000
  generalLevel := 93
  subLayers := [⟨none, some 90⟩]
  id := 0
  picWidth := 1920
  picHeight := 1088
  window := some ⟨0, 0, 0, 4⟩
  rest := ofNat 57 0b110010110010101110010101111001001001001100101011001000000

theorem layeredSps_conforming : layeredSps.Conforming where
  generalProfile := by decide
  subLayers := by decide
  profiles := by
    rintro l hl p hp
    rw [List.eq_of_mem_singleton hl] at hp
    cases hp
  id := by decide
  picWidth := by decide
  picHeight := by decide
  width := by decide
  height := by decide
  rest := by decide

/-- Between a video and a picture parameter set. -/
def layered : SpsBuffer265 where
  pre := [0, 0, 0, 1, 0x40, 0x01, 0x0c, 0x01, 0xff, 0xff, 0]
  header := 0x42
  temporal := 0x01
  body := [3, 1, 96, 0, 0, 3, 0, 144, 0, 0, 3, 0, 0, 3, 0, 93, 64, 0, 90, 160, 3, 192, 128, 17, 7, 203,
    150, 87, 43, 201, 38, 86, 64]
  rest := [0, 0, 0, 1, 0x44, 0x01, 0xc1, 0x72]
  sps := layeredSps
  size := by decide
  unitType := by decide
  temporal_ne := by decide
  first := by decide +kernel
  conforming := layeredSps_conforming
  coded := by decide +kernel
  short := by decide

/-- The size that is returned is 119x7. -/
theorem layered_size : layered.sps.width = 1920 ∧ layered.sps.height = 1080 ∧
    decsps265 (fun _ _ => 0) layered.bytes 0 0 = some (0, 119, 7) ∧ ¬layered.Right := by
  have hdec : decsps265 (fun _ _ => 0) layered.bytes 0 0 = some (0, 119, 7) := by
    decide +kernel
  refine ⟨by decide, by decide, hdec, fun hright => ?_⟩
  obtain ⟨w, h, hsome, hwidth, -⟩ := hright (fun _ _ => 0) 0 0
  rw [hdec] at hsome
  cases hsome
  exact absurd hwidth (by decide)

end SpsBuffer265

end StreamSwitch.DecSps
