import StreamSwitch.FfmpegSender.DecSps

/-!
# The frame size of a buffer

`decsps` on a buffer whose first sequence parameter set is a conforming one.

`decsps_right_iff`: if all of the parameter set is read, the frame size is the right one exactly
for the frames that are not coded as fields. The height of `frame_mbs_only_flag` 0 is that of a
field, of which the cropping of a frame is taken.
-/

namespace StreamSwitch.DecSps

open Bits

variable {m : Memory}

/-! ## The bytes -/

theorem remove0x03_cons (a b c : UInt8) (q : Bytes) :
    ∃ t, remove0x03 (a :: b :: c :: q) = a :: t := by
  rw [remove0x03]
  split
  · exact ⟨_, rfl⟩
  · exact ⟨_, rfl⟩

theorem exists_two {r : Bytes} (h : 2 ≤ r.length) : ∃ x y q, r = x :: y :: q := by
  cases r with
  | nil => cases h
  | cons x r =>
    cases r with
    | nil => simp at h
    | cons y q => exact ⟨x, y, q, rfl⟩

/-- Two bytes behind a unit are enough for all of its raw bytes to be copied. -/
theorem rbsp_prefix_remove0x03 (p r : Bytes) (h : 2 ≤ r.length) :
    rbsp p <+: remove0x03 (p ++ r) := by
  obtain ⟨x, y, q, rfl⟩ := exists_two h
  fun_induction rbsp p with
  | case1 a b c bytes h ih =>
    rw [List.cons_append, List.cons_append, List.cons_append, remove0x03, if_pos h]
    exact List.cons_prefix_cons.2 ⟨rfl, List.cons_prefix_cons.2 ⟨rfl, ih⟩⟩
  | case2 a b c bytes h ih =>
    rw [List.cons_append, List.cons_append, List.cons_append, remove0x03, if_neg h]
    exact List.cons_prefix_cons.2 ⟨rfl, ih⟩
  | case3 bytes hshort =>
    obtain rfl | ⟨a, rfl⟩ | ⟨a, b, rfl⟩ := short_cases hshort
    · exact List.nil_prefix
    · obtain ⟨t, ht⟩ := remove0x03_cons a x y q
      exact ⟨t, ht.symm⟩
    · show [a, b] <+: remove0x03 (a :: b :: x :: y :: q)
      rw [remove0x03]
      split
      · exact ⟨_, rfl⟩
      · obtain ⟨t, ht⟩ := remove0x03_cons b x y q
        exact ⟨t, by rw [ht]; rfl⟩

/-- The start code and the header are copied. -/
theorem remove0x03_unit {header : UInt8} (hh : header ≠ 0) (x y : UInt8) (r : Bytes) :
    remove0x03 (0 :: 0 :: 1 :: header :: x :: y :: r) =
      0 :: 0 :: 1 :: header :: remove0x03 (x :: y :: r) := by
  rw [remove0x03, if_neg (by simp), remove0x03, if_neg (by simp), remove0x03, if_neg (by simp),
    remove0x03, if_neg fun hc => hh hc.1]

theorem window_byte (m : Memory) (k : Nat) :
    window (bitAt m) (8 * k) 8 = (List.range 8).map (m k).toBitVec.getMsbD := by
  refine List.map_congr_left fun j hj => ?_
  have hj := List.mem_range.1 hj
  have hq : (8 * k + j) / 8 = k := by omega
  have hr : (8 * k + j) % 8 = j := by omega
  rw [bitAt, hq, hr]

theorem at_bitsOf {k : Nat} (bytes : Bytes)
    (h : ∀ p (hp : p < bytes.length), m (k + p) = bytes[p]) :
    At (bitAt m) (8 * k) (bitsOf bytes) := by
  induction bytes generalizing k with
  | nil => rfl
  | cons b bytes ih =>
    have hb : m k = b := h 0 (by simp)
    refine at_append.2 ⟨?_, ?_⟩
    · rw [At, List.length_map, List.length_range, window_byte, hb]
    · have hpos : 8 * k + ((List.range 8).map b.toBitVec.getMsbD).length = 8 * (k + 1) := by
        rw [List.length_map, List.length_range]
        omega
      rw [hpos]
      refine ih fun p hp => ?_
      have := h (p + 1) (by simpa using hp)
      rwa [← Nat.add_assoc, Nat.add_right_comm] at this

theorem spsNal_unit (stack : Memory) (a b c d : UInt8) (dst : Bytes) :
    At (bitAt (spsNal stack (a :: b :: c :: d :: dst))) 0 (bitsOf dst) := by
  refine at_bitsOf (k := 0) dst fun p hp => ?_
  simp [spsNal, hp]

/-! ## The VUI parameters -/

/-- The bits of memory are any. -/
theorem exists_memory (g : Nat → Bool) : ∃ m : Memory, ∀ i, bitAt m i = g i := by
  refine ⟨fun p => .ofBitVec ((BitVec.ofBoolListBE (window g (8 * p) 8)).cast (length_window ..)),
    fun i => ?_⟩
  have hlt : i % 8 < 8 := Nat.mod_lt i (by decide)
  show ((BitVec.ofBoolListBE (window g (8 * (i / 8)) 8)).cast (length_window ..)).getMsbD (i % 8) =
    g i
  rw [BitVec.getMsbD_cast, BitVec.getMsbD_ofBoolListBE, List.getD_eq_getElem?_getD, window,
    List.getElem?_map, List.getElem?_range hlt]
  show g (8 * (i / 8) + i % 8) = g i
  rw [Nat.div_add_mod]

/-- What the code takes the VUI parameters for, whatever follows them, has no code of more than 31
bits and no `num_units_in_tick` that is zero when doubled. These are the parameters themselves unless
a sample aspect ratio follows `Extended_SAR`: its beginning is taken for the flags. -/
def Sps.VuiDefined (s : Sps) : Prop :=
  ∀ v : Vui, flagged Vui.codeBits (some v) <+: s.vuiBits ∨
    s.vuiBits <+: flagged Vui.codeBits (some v) → v.Defined

section Vui

variable {g : Nat → Bool} {α : Type} {enc : α → List Bool}

theorem covers_flagged (h : Covers g enc) : Covers g (flagged enc) := fun i => by
  have hbit : At g i [g i] := at_window g i 1
  cases hflag : g i with
  | false =>
    rw [hflag] at hbit
    exact ⟨none, hbit⟩
  | true =>
    rw [hflag] at hbit
    obtain ⟨a, ha⟩ := h (i + 1)
    exact ⟨some a, at_append.2 ⟨hbit, ha⟩⟩

theorem covers_videoSignal (g : Nat → Bool) : Covers g VideoSignal.bits := fun i => by
  obtain ⟨⟨⟨format, fullRange⟩, colour⟩, h⟩ :=
    (((covers_ofNat g 3).append (covers_bit g)).append (covers_flagged (covers_ofNat g 24))) i
  exact ⟨⟨format, fullRange, colour⟩, h⟩

/-- **All bits are VUI parameters**, if they do not end in zeros only. -/
theorem covers_vui (h : ∀ i, ∃ j, g (i + j) = true) : Covers g Vui.codeBits := fun i => by
  have haspect : Covers g fun a : Nat × Nat => ofNat 8 a.1 := fun i => by
    obtain ⟨n, hn⟩ := covers_ofNat g 8 i
    exact ⟨(n, 0), hn⟩
  have hchroma := (covers_ue h).append (covers_ue h)
  have htiming := (covers_ofNat g 32).append (covers_ofNat g 32)
  obtain ⟨⟨⟨⟨⟨aspect, overscan⟩, video⟩, chroma⟩, timing⟩, hat⟩ :=
    ((((covers_flagged haspect).append (covers_flagged (covers_bit g))).append
      (covers_flagged (covers_videoSignal g))).append (covers_flagged hchroma)).append
      (covers_flagged htiming) i
  exact ⟨⟨aspect, overscan, video, chroma, timing⟩, hat⟩

theorem length_flagged_le {n : Nat} {o : Option α} (h : ∀ a, o = some a → (enc a).length ≤ n) :
    (flagged enc o).length ≤ n + 1 := by
  cases o with
  | none => simp [flagged]
  | some a =>
    have := h a rfl
    simpa [flagged] using this

theorem Vui.Defined.length_codeBits {v : Vui} (h : v.Defined) : v.codeBits.length ≤ 169 := by
  have haspect : (flagged (fun a => ofNat 8 a.1) v.aspectRatio).length ≤ 8 + 1 :=
    length_flagged_le fun a _ => by rw [length_ofNat]
  have hoverscan : (flagged (fun b => [b]) v.overscan).length ≤ 1 + 1 :=
    length_flagged_le fun b _ => Nat.le_refl 1
  have hvideo : (flagged VideoSignal.bits v.videoSignal).length ≤ 29 + 1 :=
    length_flagged_le fun x _ => by
      have : (flagged (ofNat 24) x.colour).length ≤ 24 + 1 :=
        length_flagged_le fun c _ => by rw [length_ofNat]
      simp only [VideoSignal.bits, List.length_append, length_ofNat, List.length_singleton]
      omega
  have hchroma : (flagged (fun c => ue c.1 ++ ue c.2) v.chromaLoc).length ≤ 62 + 1 :=
    length_flagged_le fun c hc => by
      have hfirst := length_ue_le (h.chromaLoc c hc).1
      have hsecond := length_ue_le (h.chromaLoc c hc).2
      rw [List.length_append]
      omega
  have htiming : (flagged (fun t => ofNat 32 t.1 ++ ofNat 32 t.2) v.timing).length ≤ 64 + 1 :=
    length_flagged_le fun t _ => by rw [List.length_append, length_ofNat, length_ofNat]
  simp only [Vui.codeBits, List.length_append]
  omega

/-- **The VUI parameters are read**, whatever is behind them. -/
theorem vuiDefined_iff (s : Sps) : s.VuiDefined ↔
    ∀ m i rate, At (bitAt m) i s.vuiBits → ∃ r, vuiFields m rate i = some r := by
  constructor
  · intro h m i rate hat
    -- ones from where neither the parameters nor the reader get
    let g : Nat → Bool := fun k => if k < i + s.vuiBits.length + 170 then bitAt m k else true
    have hones : ∀ i, ∃ j, g (i + j) = true := fun k =>
      ⟨i + s.vuiBits.length + 170, if_neg (by omega)⟩
    obtain ⟨o, ho⟩ := covers_flagged (covers_vui hones) i
    have hvui : At g i s.vuiBits := at_congr hat fun j hj => if_pos (by omega)
    have hdefined : ∀ v, o = some v → v.Defined := by
      rintro v rfl
      refine h v ?_
      rcases Nat.le_total (flagged Vui.codeBits (some v)).length s.vuiBits.length with hle | hle
      · exact .inl (ho.prefix_of_le hvui hle)
      · exact .inr (hvui.prefix_of_le ho hle)
    have hlen : (flagged Vui.codeBits o).length ≤ 169 + 1 :=
      length_flagged_le fun v hv => (hdefined v hv).length_codeBits
    have hm : At (bitAt m) i (flagged Vui.codeBits o) :=
      at_congr ho fun j hj => (if_pos (by omega)).symm
    obtain ⟨r, hr⟩ : ∃ r, Reads (bitAt m) (vuiFields m rate) i (flagged Vui.codeBits o) r :=
      vuiFields_reads hdefined
    exact ⟨_, hr hm⟩
  · intro h v hseen
    obtain ⟨bits, hv, hs⟩ : ∃ bits,
        flagged Vui.codeBits (some v) <+: bits ∧ s.vuiBits <+: bits := by
      rcases hseen with hp | hp
      · exact ⟨_, hp, List.prefix_rfl⟩
      · exact ⟨_, List.prefix_rfl, hp⟩
    obtain ⟨m, hm⟩ := exists_memory fun k => bits.getD k false
    have hat : At (bitAt m) 0 bits := at_of_getD fun j _ => by rw [hm, Nat.zero_add]
    obtain ⟨r, hr⟩ := h m 0 0 (hat.mono hs)
    exact defined_of_vuiFields (hat.mono hv) hr

theorem Vui.Regular.codeBits_eq {v : Vui} (h : v.Regular) : v.codeBits = v.bits := by
  unfold Vui.codeBits Vui.bits
  congr 4
  cases ha : v.aspectRatio with
  | none => rfl
  | some a =>
    rw [flagged, flagged, if_neg (h.aspectRatio a ha), List.append_nil]

theorem vuiDefined_of_regular {s : Sps} (hc : s.Conforming) (h : ∀ v, s.vui = some v → v.Regular) :
    s.VuiDefined := by
  refine (vuiDefined_iff s).2 fun m i rate hat => ?_
  have hdefined : ∀ v, s.vui = some v → v.Defined := fun v hv => by
    refine ⟨fun c hchroma => ?_, (h v hv).timing⟩
    have := hc.chromaLoc v hv c hchroma
    omega
  have hbits : s.vuiBits = flagged Vui.codeBits s.vui := by
    unfold Sps.vuiBits
    cases hv : s.vui with
    | none => rfl
    | some v => rw [flagged, flagged, (h v hv).codeBits_eq]
  rw [hbits] at hat
  obtain ⟨r, hr⟩ : ∃ r, Reads (bitAt m) (vuiFields m rate) i (flagged Vui.codeBits s.vui) r :=
    vuiFields_reads hdefined
  exact ⟨_, hr hat⟩

end Vui

/-! ## The analysis of a unit -/

theorem bitsOf_append (p q : Bytes) : bitsOf (p ++ q) = bitsOf p ++ bitsOf q :=
  List.flatMap_append

theorem bitsOf_mono {p q : Bytes} (h : p <+: q) : bitsOf p <+: bitsOf q := by
  obtain ⟨t, rfl⟩ := h
  exact ⟨bitsOf t, (bitsOf_append p t).symm⟩

/-- `H264_Analyse` on a unit whose parameter set lies in the bytes that are copied. -/
theorem h264Analyse_eq {s : Sps} {header : UInt8} {unit p r : Bytes} {stack : Memory} {out : Out}
    (hc : s.Conforming) (hr : s.Readable) (hv : s.VuiDefined) (hh : header ≠ 0)
    (hunit : unit.take 508 = p ++ r) (hlen : 2 ≤ r.length) (hbits : s.bits <+: bitsOf (rbsp p)) :
    ∃ rate, h264Analyse stack (0 :: 0 :: 1 :: header :: unit) out =
      some (1, ⟨s.codeSize.1, s.codeSize.2, rate⟩) := by
  have hcopy : remove0x03 ((0 :: 0 :: 1 :: header :: unit).take 512) =
      0 :: 0 :: 1 :: header :: remove0x03 (p ++ r) := by
    show remove0x03 (0 :: 0 :: 1 :: header :: unit.take 508) = _
    rw [hunit]
    have htwo : 2 ≤ (p ++ r).length := by
      rw [List.length_append]
      omega
    obtain ⟨x, y, q, hxy⟩ := exists_two htwo
    rw [hxy, remove0x03_unit hh]
  have hat : At (bitAt (spsNal stack (remove0x03 ((0 :: 0 :: 1 :: header :: unit).take 512)))) 0
      s.bits := by
    rw [hcopy]
    refine (spsNal_unit stack 0 0 1 header _).mono (hbits.trans ?_)
    exact bitsOf_mono (rbsp_prefix_remove0x03 p r hlen)
  unfold h264Analyse
  generalize spsNal stack (remove0x03 ((0 :: 0 :: 1 :: header :: unit).take 512)) = m at hat ⊢
  rw [Sps.bits] at hat
  obtain ⟨hsize, hvui⟩ := at_append.1 hat
  obtain ⟨rate, hrate⟩ := (vuiDefined_iff s).1 hv m _ out.framerate hvui
  refine ⟨rate.1, ?_⟩
  simp only [h264Size_reads hc hr hsize, hrate, Option.map_some]

/-! ## Buffers -/

/-- A NAL unit in a buffer, behind a start code. -/
structure NalBuffer where
  pre : Bytes
  header : UInt8
  payload : Bytes
  rest : Bytes

def NalBuffer.unit (b : NalBuffer) : Bytes := 0 :: 0 :: 1 :: b.header :: (b.payload ++ b.rest)

def NalBuffer.bytes (b : NalBuffer) : Bytes := b.pre ++ b.unit

/-- What stands behind a start code at the beginning. -/
def behindStartCode : Bytes → Option UInt8
  | 0 :: 0 :: 1 :: b :: _ => some b
  | _ => none

/-- There is no unit of type 7 and no MPEG-4 start code at the beginning. -/
def Quiet (bytes : Bytes) : Prop :=
  ∀ b ∈ behindStartCode bytes, b &&& 0x1f ≠ 7 ∧ b ≠ 0xB0

instance (bytes : Bytes) : Decidable (Quiet bytes) :=
  inferInstanceAs (Decidable (∀ b ∈ behindStartCode bytes, b &&& 0x1f ≠ 7 ∧ b ≠ 0xB0))

/-- A buffer whose first unit of type 7 is a conforming sequence parameter set of at most 512 bytes,
without an MPEG-4 start code before it. The length is an `unsigned int`. -/
structure SpsBuffer extends NalBuffer where
  sps : Sps
  size : toNalBuffer.bytes.length < 2 ^ 32
  unitType : header &&& 0x1f = 7
  first : ∀ p < pre.length, Quiet (toNalBuffer.bytes.drop p)
  conforming : sps.Conforming
  coded : sps.bits <+: bitsOf (rbsp payload)
  short : 1 + payload.length ≤ 512

namespace SpsBuffer

variable (b : SpsBuffer)

/-- `decsps` returns 0 and the size of the frames, whatever the stack holds. -/
def Right : Prop :=
  ∀ mpeg4Analyse stack width height, ∃ w h : Nat,
    decsps mpeg4Analyse stack b.bytes width height = some (0, w, h) ∧
      w = b.sps.width ∧ h = b.sps.height

/-- All of the parameter set is read: its fields are not in the last two of the first 512 bytes from
the start code on, or of the buffer, nor behind them. -/
structure Reached : Prop where
  readable : b.sps.Readable
  kept : ∃ n, n + 6 ≤ 512 ∧ n + 6 ≤ 4 + b.payload.length + b.rest.length ∧
    b.sps.bits.length ≤ (bitsOf (rbsp (b.payload.take n))).length
  vui : b.sps.VuiDefined

end SpsBuffer

section Scan

variable {mpeg4Analyse : Bytes → Out → Option (Int × Out)} {stack : Nat → Memory} {out : Out}

theorem analyseAt_quiet {bytes : Bytes} (h : Quiet bytes) :
    analyseAt mpeg4Analyse stack bytes out = some (-1, out) := by
  unfold analyseAt
  split
  · exact ((h 0xB0 rfl).2 rfl).elim
  · rename_i naltype _ _
    rw [if_neg (h naltype rfl).1]
  · rfl

/-- Nothing is analysed before the first unit of type 7. -/
theorem streamAnalyse_skip {pre unit : Bytes} (hunit : 4 < unit.length)
    (h : ∀ p < pre.length, Quiet ((pre ++ unit).drop p)) :
    streamAnalyse mpeg4Analyse stack (pre ++ unit) out =
      streamAnalyse mpeg4Analyse stack unit out := by
  induction pre with
  | nil => rfl
  | cons a pre ih =>
    have hlen : 4 < (a :: (pre ++ unit)).length := by
      rw [List.length_cons, List.length_append]
      omega
    have hquiet : analyseAt mpeg4Analyse stack (a :: (pre ++ unit)) out = some (-1, out) :=
      analyseAt_quiet (h 0 (by simp))
    rw [List.cons_append, streamAnalyse, if_pos hlen, hquiet]
    refine ih fun p hp => h (p + 1) ?_
    rw [List.length_cons]
    omega

theorem streamAnalyse_unit {header : UInt8} {unit : Bytes} {r : Int × Out} (hunit : unit ≠ [])
    (hh : header &&& 0x1f = 7)
    (h : h264Analyse (stack (unit.length + 4)) (0 :: 0 :: 1 :: header :: unit) out = some r)
    (hr : 0 ≤ r.1) :
    streamAnalyse mpeg4Analyse stack (0 :: 0 :: 1 :: header :: unit) out = some r := by
  have hlen : 4 < (0 :: 0 :: 1 :: header :: unit : Bytes).length := by
    have := List.length_pos_iff.2 hunit
    simp only [List.length_cons]
    omega
  have hanalyse : analyseAt mpeg4Analyse stack (0 :: 0 :: 1 :: header :: unit) out = some r := by
    unfold analyseAt
    split
    · rename_i heq
      simp only [List.cons.injEq] at heq
      rw [heq.2.2.2.1] at hh
      exact absurd hh (by decide)
    · rename_i heq
      simp only [List.cons.injEq] at heq
      rw [← heq.2.2.2.1, if_pos hh]
      exact h
    · rename_i hne
      exact (hne header unit rfl).elim
  rw [streamAnalyse, if_pos hlen, hanalyse]
  simp only [Option.bind_eq_bind, Option.bind_some, if_pos hr]
  rfl

end Scan

/-! ## The result -/

namespace SpsBuffer

variable {b : SpsBuffer} {mpeg4Analyse : Bytes → Out → Option (Int × Out)} {stack : Nat → Memory}
  {width height : Nat}

theorem header_ne (b : SpsBuffer) : b.header ≠ 0 := by
  intro hzero
  have := b.unitType
  rw [hzero] at this
  exact absurd this (by decide)

/-- The fields are in the bytes that are copied. -/
theorem Reached.split (h : b.Reached) : ∃ p r, (b.payload ++ b.rest).take 508 = p ++ r ∧
    2 ≤ r.length ∧ b.sps.bits <+: bitsOf (rbsp p) := by
  obtain ⟨n, hcopied, hend, hbits⟩ := h.kept
  have htake : (b.payload.take n).length ≤ n := List.length_take_le ..
  have hsub : b.payload.take n <+: (b.payload ++ b.rest).take 508 := by
    refine List.prefix_take_iff.2 ⟨?_, by omega⟩
    exact (List.take_prefix ..).trans (List.prefix_append ..)
  obtain ⟨r, hr⟩ := hsub
  refine ⟨b.payload.take n, r, hr.symm, ?_, ?_⟩
  · have := congrArg List.length hr
    rw [List.length_append, List.length_take (l := b.payload ++ b.rest), List.length_append] at this
    omega
  · have hmono := rbsp_append (b.payload.take n) (b.payload.drop n)
    rw [List.take_append_drop] at hmono
    exact List.prefix_of_prefix_length_le b.coded (bitsOf_mono hmono) hbits

theorem decsps_eq (h : b.Reached) (hsize : b.bytes.length < 2 ^ 31) :
    decsps mpeg4Analyse stack b.bytes width height =
      some (0, (b.sps.codeSize.1 % 2 ^ 32).toNat, (b.sps.codeSize.2 % 2 ^ 32).toNat) := by
  obtain ⟨p, r, hsplit, hlen, hbits⟩ := h.split
  have hne : b.payload ++ b.rest ≠ [] := by
    intro hnil
    rw [hnil, List.take_nil] at hsplit
    rw [(List.append_eq_nil_iff.1 hsplit.symm).2] at hlen
    simp at hlen
  obtain ⟨rate, hrate⟩ : ∃ rate, h264Analyse (stack ((b.payload ++ b.rest).length + 4)) b.unit
      ⟨width, height, 0⟩ = some (1, ⟨b.sps.codeSize.1, b.sps.codeSize.2, rate⟩) :=
    h264Analyse_eq b.conforming h.readable h.vui b.header_ne hsplit hlen hbits
  have hunit : 4 < b.unit.length := by
    have := List.length_pos_iff.2 hne
    simp only [NalBuffer.unit, List.length_cons]
    omega
  have hstream : streamAnalyse mpeg4Analyse stack b.unit ⟨width, height, 0⟩ = _ :=
    streamAnalyse_unit hne b.unitType hrate Int.one_nonneg
  rw [decsps, int32OfSize_eq hsize, Int.toNat_natCast, List.take_length, NalBuffer.bytes,
    streamAnalyse_skip hunit b.first, hstream]
  rfl

/-- A length from 2^31 on is negative as an `int`. -/
theorem decsps_of_negative (hsize : 2 ^ 31 ≤ b.bytes.length) :
    decsps mpeg4Analyse stack b.bytes width height =
      some (-1, ((width : Int) % 2 ^ 32).toNat, ((height : Int) % 2 ^ 32).toNat) := by
  have hneg : (int32OfSize b.bytes.length).toNat = 0 := by
    have hlt := b.size
    apply Int.toNat_of_nonpos
    unfold int32OfSize
    simp only [Int.bmod_def]
    split <;> omega
  rw [decsps, hneg, List.take_zero, streamAnalyse]
  simp

theorem codeSize_width (s : Sps) : s.codeSize.1 = s.width := rfl

/-- The height is too small by that of a field. -/
theorem codeSize_height (s : Sps) : s.codeSize.2 = s.height -
    if s.frameMbsOnly then 0 else 16 * (s.picHeightInMapUnitsMinus1 + 1) := by
  simp only [Sps.codeSize, frameSize, Sps.height, Sps.fieldFactor, Crop.ints]
  split <;> omega

theorem Reached.mapUnits_lt (h : b.Reached) : b.sps.picHeightInMapUnitsMinus1 < 2 ^ 16 := by
  have := h.readable.sizes.2.2.1
  omega

theorem Reached.width_lt (h : b.Reached) : b.sps.width < 2 ^ 32 := by
  have := h.readable.sizes.1
  unfold Sps.width
  omega

theorem Reached.height_lt (h : b.Reached) : b.sps.height < 2 ^ 32 := by
  have := h.mapUnits_lt
  unfold Sps.height Sps.fieldFactor
  split <;> omega

/-- The frame size is right for progressive frames in a buffer of less than 2^31 bytes. -/
theorem decsps_right_iff (b : SpsBuffer) (h : b.Reached) :
    b.Right ↔ b.bytes.length < 2 ^ 31 ∧ b.sps.frameMbsOnly = true := by
  have hwpos := b.conforming.width
  have hwlt := h.width_lt
  have hhpos := b.conforming.height
  have hhlt := h.height_lt
  have hunits := h.mapUnits_lt
  have hcode := codeSize_height b.sps
  constructor
  · intro hright
    obtain ⟨w, h', hdec, -, hh⟩ := hright (fun _ out => some (-1, out)) (fun _ _ => 0) 0 0
    by_cases hsize : b.bytes.length < 2 ^ 31
    · refine ⟨hsize, ?_⟩
      rw [decsps_eq h hsize] at hdec
      by_contra hframe
      rw [if_neg hframe] at hcode
      simp only [Option.some.injEq, Prod.mk.injEq] at hdec
      omega
    · rw [decsps_of_negative (Nat.le_of_not_lt hsize)] at hdec
      simp at hdec
  · rintro ⟨hsize, hframe⟩ mpeg4Analyse stack width height
    rw [if_pos hframe] at hcode
    refine ⟨_, _, decsps_eq h hsize, ?_, ?_⟩
    · rw [codeSize_width]
      omega
    · omega

/-- Progressive frames of 1920x1080, 25 a second. -/
def progressiveSps : Sps where
  profileIdc := 100
  constraints := 0
  levelIdc := 40
  id := 0
  high := ⟨0, 0, false, none⟩
  log2MaxFrameNumMinus4 := 0
  poc := .lsb 2
  maxNumRefFrames := 4
  gapsAllowed := false
  picWidthInMbsMinus1 := 119
  picHeightInMapUnitsMinus1 := 67
  frameMbsOnly := true
  mbAdaptive := false
  direct8x8 := true
  crop := some ⟨0, 0, 0, 4⟩
  vui := some ⟨some (1, 0), none, none, none, some (1, 50)⟩

theorem progressiveSps_conforming : progressiveSps.Conforming where
  profile := by decide
  id := by decide
  high _ := ⟨by decide, by decide, by rintro _ ⟨⟩⟩
  frameNum := by decide
  poc := ⟨fun n h => by cases h; decide, by decide, by decide⟩
  refFrames := by decide
  direct h := by cases h
  width := by decide
  height := by decide
  chromaLoc := by
    rintro _ ⟨⟩ _ ⟨⟩

/-- Behind an access unit delimiter, with two emulation prevention bytes. -/
def progressive : SpsBuffer where
  pre := [0, 0, 0, 1, 0x09, 0xf0, 0]
  header := 0x67
  payload := [100, 0, 40, 172, 217, 64, 120, 2, 39, 229, 192, 68,
    0, 0, 3, 0, 4, 0, 0, 3, 0, 202, 16]
  rest := [0, 0, 1, 0x68, 0xee, 0x3c, 0x80]
  sps := progressiveSps
  size := by decide
  unitType := by decide
  first := by decide +kernel
  conforming := progressiveSps_conforming
  coded := by decide +kernel
  short := by decide

theorem progressive_reached : progressive.Reached where
  readable := ⟨by decide, by decide, by decide +kernel, by rintro _ ⟨⟩; decide +kernel⟩
  kept := ⟨22, by decide, by decide, by decide +kernel⟩
  vui := by
    refine vuiDefined_of_regular progressiveSps_conforming ?_
    rintro _ ⟨⟩
    refine ⟨?_, ?_⟩
    · rintro _ ⟨⟩
      decide
    · rintro _ ⟨⟩
      decide

theorem decsps_right_iff_progressive : progressive.Right :=
  (decsps_right_iff progressive progressive_reached).2 ⟨by decide, rfl⟩

/-- Frames of 1920x1080 coded as fields. -/
def interlacedSps : Sps where
  profileIdc := 100
  constraints := 0
  levelIdc := 40
  id := 0
  high := ⟨0, 0, false, none⟩
  log2MaxFrameNumMinus4 := 0
  poc := .lsb 2
  maxNumRefFrames := 4
  gapsAllowed := false
  picWidthInMbsMinus1 := 119
  picHeightInMapUnitsMinus1 := 33
  frameMbsOnly := false
  mbAdaptive := true
  direct8x8 := true
  crop := some ⟨0, 0, 0, 2⟩
  vui := none

theorem interlacedSps_conforming : interlacedSps.Conforming where
  profile := by decide
  id := by decide
  high _ := ⟨by decide, by decide, by rintro _ ⟨⟩⟩
  frameNum := by decide
  poc := ⟨fun n h => by cases h; decide, by decide, by decide⟩
  refFrames := by decide
  direct _ := rfl
  width := by decide
  height := by decide
  chromaLoc := by rintro _ ⟨⟩

/-- It is followed by a picture parameter set. -/
def interlaced : SpsBuffer where
  pre := []
  header := 0x67
  payload := [100, 0, 40, 172, 217, 64, 120, 4, 79, 218]
  rest := [0, 0, 1, 0x68, 0xee, 0x3c, 0x80]
  sps := interlacedSps
  size := by decide
  unitType := by decide
  first := by decide +kernel
  conforming := interlacedSps_conforming
  coded := by decide +kernel
  short := by decide

/-- The height that is returned is 536. -/
theorem interlaced_height : interlaced.sps.height = 1080 ∧
    decsps (fun _ out => some (-1, out)) (fun _ _ => 0) interlaced.bytes 0 0 =
      some (0, 1920, 536) ∧
    ¬interlaced.Right := by
  have hdec : decsps (fun _ out => some (-1, out)) (fun _ _ => 0) interlaced.bytes 0 0 =
      some (0, 1920, 536) := by
    decide +kernel
  refine ⟨by decide, hdec, fun hright => ?_⟩
  obtain ⟨w, h, hsome, -, hheight⟩ := hright (fun _ out => some (-1, out)) (fun _ _ => 0) 0 0
  rw [hdec] at hsome
  cases hsome
  exact absurd hheight (by decide)

end SpsBuffer

end StreamSwitch.DecSps
