import StreamSwitch.FfmpegSource.Parser

/-!
# Extra data in packets

The `GetExtraDataSize` of the two video parsers: how much of a key frame is the configuration of
the stream, which `DoUpdateMeta` stores.

`extraData_right_iff`: the H.264 and H.265 parser looks for start codes of four bytes only, and
takes the whole packet if it finds no picture behind one. `mpeg4ExtraData_right_iff`: the MPEG-4
parser returns the offset of the last byte of the start code that ends the configuration, not of
its first.
-/

namespace StreamSwitch.Ffmpeg

/-! ## Units behind start codes -/

/-- A NAL unit behind a start code of three or four bytes. -/
structure CodedUnit where
  long : Bool
  nal : Bytes
deriving DecidableEq, Repr

namespace CodedUnit

variable (h : HNumber) (u : CodedUnit)

/-- The last three bytes of the start code and the unit. -/
def body : Bytes := [0, 0, 1] ++ u.nal

def bytes : Bytes := (if u.long then [0] else []) ++ u.body

/-- No start code is emulated in the unit, it does not end in a zero byte, and its header is
there, of one byte for H.264 and of two for H.265. -/
structure Valid : Prop where
  header : (match h with | .h264 => 1 | .h265 => 2) ≤ u.nal.length
  clean : ¬ [0, 0, 1] <:+: u.nal
  last : u.nal.getLast? ≠ some 0

def unitType : UInt8 := nalUnitType h (u.nal.headD 0)

end CodedUnit

open CodedUnit

/-- The packet that `us` make up. -/
def packet (us : List CodedUnit) : Bytes := us.flatMap CodedUnit.bytes

/-- The parameter sets that the stream needs are among the units. -/
structure Complete (h : HNumber) (us : List CodedUnit) : Prop where
  vps : h = .h265 → ∃ u ∈ us, isVPS h (u.unitType h) = true
  sps : ∃ u ∈ us, isSPS h (u.unitType h) = true
  pps : ∃ u ∈ us, isPPS h (u.unitType h) = true

/-- The units before the first picture. -/
def beforeVCL (h : HNumber) (us : List CodedUnit) : List CodedUnit :=
  us.takeWhile fun u => !isVCL h (u.unitType h)

/-- What `GetExtraDataSize` should return for a packet. -/
structure ExtraDataRight (h : HNumber) (us : List CodedUnit) (size : Nat) : Prop where
  /-- A part that ends between two units, has all parameter sets and no picture. -/
  front : size = 0 ∨ ∃ k, size = (packet (us.take k)).length ∧ Complete h (us.take k) ∧
    ∀ u ∈ us.take k, isVCL h (u.unitType h) = false
  found : Complete h (beforeVCL h us) → size ≠ 0
  /-- No picture is stored. -/
  stored : ∃ k, (packet us).take size = packet (us.take k) ∧
    ∀ u ∈ us.take k, isVCL h (u.unitType h) = false

/-! ## The scan -/

variable {h : HNumber} {u : CodedUnit} {us : List CodedUnit} {off : Nat} {seen : ParamSets}

/-- What the scan remembers of a unit that it sees. -/
def note (h : HNumber) (seen : ParamSets) (u : CodedUnit) : ParamSets :=
  let t := u.unitType h
  if isVPS h t then { seen with vps := true }
  else if isSPS h t then { seen with sps := true }
  else if isPPS h t then { seen with pps := true }
  else seen

/-- The units before the first picture that the scan sees. -/
def scanned (h : HNumber) (us : List CodedUnit) : List CodedUnit :=
  us.takeWhile fun u => !(u.long && isVCL h (u.unitType h))

/-- The units that it sees of them. -/
def noticed (h : HNumber) (us : List CodedUnit) : List CodedUnit := (scanned h us).filter (·.long)

theorem CodedUnit.Valid.nal_ne_nil (hu : u.Valid h) : u.nal ≠ [] := by
  intro hnil
  have := hu.header
  rw [hnil] at this
  cases h <;> cases this

theorem CodedUnit.Valid.length_body (hu : u.Valid h) : 4 ≤ u.body.length := by
  have := List.length_pos_of_ne_nil hu.nal_ne_nil
  simp only [body, List.length_append, List.length_cons, List.length_nil]
  omega

/-- Bytes that emulate no start code and do not end in a zero byte begin none of four bytes. -/
theorem take_ne_startCode {s : Bytes} (hne : s ≠ []) (hclean : ¬ [0, 0, 1] <:+: s)
    (hlast : s.getLast? ≠ some 0) (rest : Bytes) : (s ++ rest).take 4 ≠ startCode := by
  intro heq
  match s with
  | [] => exact hne rfl
  | [a] => simp_all [startCode]
  | [a, b] => simp_all [startCode]
  | [a, b, c] => simp_all [startCode]
  | a :: b :: c :: d :: s =>
    simp only [List.cons_append, List.take_succ_cons, startCode, List.cons.injEq] at heq
    obtain ⟨rfl, rfl, rfl, rfl, -⟩ := heq
    exact hclean ⟨[0], s, rfl⟩

/-- There is no start code of four bytes at any byte of the body. -/
theorem CodedUnit.Valid.no_code (hu : u.Valid h) (rest : Bytes) {k : Nat} (hk : k < u.body.length) :
    (u.body.drop k ++ rest).take 4 ≠ startCode := by
  match k with
  | 0 => simp [body, startCode]
  | 1 => simp [body, startCode]
  | 2 => simp [body, startCode]
  | k + 3 =>
    have hdrop : u.body.drop (k + 3) = u.nal.drop k := rfl
    have hlt : k < u.nal.length := by
      simp only [body, List.length_append, List.length_cons, List.length_nil] at hk
      omega
    rw [hdrop]
    refine take_ne_startCode (fun hnil => ?_) (fun hsub => ?_) ?_ rest
    · rw [List.drop_eq_nil_iff] at hnil
      omega
    · exact hu.clean (hsub.trans (List.drop_suffix k u.nal).isInfix)
    · rw [List.getLast?_drop, if_neg (by omega)]
      exact hu.last

/-- The scan goes over bytes that no start code begins at. -/
theorem scanExtraData_skip {xs rest : Bytes} (hrest : 4 ≤ rest.length)
    (hskip : ∀ k < xs.length, (xs.drop k ++ rest).take 4 ≠ startCode) (off : Nat) :
    scanExtraData h off (xs ++ rest) seen = scanExtraData h (off + xs.length) rest seen := by
  induction xs generalizing off with
  | nil => rfl
  | cons x xs ih =>
    have hlong : ¬ (xs ++ rest).length < 4 := by
      rw [List.length_append]
      omega
    have hfirst : (x :: (xs ++ rest)).take 4 ≠ startCode := hskip 0 (by simp)
    rw [List.cons_append, scanExtraData, if_neg hlong, if_neg hfirst,
      ih (fun k hk => hskip (k + 1) (by simpa using hk))]
    rw [List.length_cons, Nat.add_assoc, Nat.add_comm 1]

/-- At the end of the packet it takes all of it. -/
theorem scanExtraData_end {xs : Bytes} (hlong : 4 ≤ xs.length)
    (hskip : ∀ k < xs.length, (xs.drop k ++ []).take 4 ≠ startCode) (off : Nat) :
    scanExtraData h off xs seen = (off + xs.length, seen) := by
  have hsplit : xs = xs.take (xs.length - 4) ++ xs.drop (xs.length - 4) :=
    (List.take_append_drop ..).symm
  have hlast : (xs.drop (xs.length - 4)).length = 4 := by
    rw [List.length_drop]
    omega
  have hfront : (xs.take (xs.length - 4)).length = xs.length - 4 := by
    rw [List.length_take]
    omega
  have hcode : ∀ k < (xs.take (xs.length - 4)).length,
      ((xs.take (xs.length - 4)).drop k ++ xs.drop (xs.length - 4)).take 4 ≠ startCode := by
    intro k hk
    have hdrop : (xs.take (xs.length - 4)).drop k ++ xs.drop (xs.length - 4) = xs.drop k := by
      have := congrArg (List.drop k) hsplit
      rw [List.drop_append_of_le_length (by omega)] at this
      exact this.symm
    rw [hdrop]
    have := hskip k (by omega)
    rwa [List.append_nil] at this
  have hgoal : scanExtraData h off (xs.take (xs.length - 4) ++ xs.drop (xs.length - 4)) seen = _ :=
    scanExtraData_skip hlast.ge hcode off
  rw [← hsplit, hfront] at hgoal
  rw [hgoal]
  -- the last four bytes
  obtain ⟨b, rest, hb⟩ : ∃ b rest, xs.drop (xs.length - 4) = b :: rest :=
    List.exists_cons_of_length_pos (by omega)
  rw [hb, List.length_cons] at hlast
  rw [hb, scanExtraData, if_pos (by omega), if_pos (by omega)]
  congr 1
  omega

/-- A parameter set is no picture. -/
theorem isVCL_of_paramSet {t : UInt8}
    (ht : isVPS h t = true ∨ isSPS h t = true ∨ isPPS h t = true) : isVCL h t = false := by
  cases h with
  | h264 =>
    rcases ht with ht | ht | ht
    · cases ht
    · rw [of_decide_eq_true ht]
      rfl
    · rw [of_decide_eq_true ht]
      rfl
  | h265 =>
    rcases ht with ht | ht | ht <;> (rw [of_decide_eq_true ht]; rfl)

/-- A parameter set is of one kind. -/
theorem note_eq (h : HNumber) (seen : ParamSets) (u : CodedUnit) :
    note h seen u = ⟨seen.vps || isVPS h (u.unitType h), seen.sps || isSPS h (u.unitType h),
      seen.pps || isPPS h (u.unitType h)⟩ := by
  unfold note
  generalize u.unitType h = t
  cases h with
  | h264 =>
    simp only [isVPS, isSPS, isPPS]
    by_cases h7 : t = 7
    · simp [h7]
    · by_cases h8 : t = 8 <;> simp [h7, h8]
  | h265 =>
    simp only [isVPS, isSPS, isPPS]
    by_cases h32 : t = 32
    · simp [h32]
    · by_cases h33 : t = 33
      · simp [h33]
      · by_cases h34 : t = 34 <;> simp [h32, h33, h34]

theorem foldl_note (h : HNumber) (seen : ParamSets) (us : List CodedUnit) :
    us.foldl (note h) seen = ⟨seen.vps || us.any fun u => isVPS h (u.unitType h),
      seen.sps || us.any fun u => isSPS h (u.unitType h),
      seen.pps || us.any fun u => isPPS h (u.unitType h)⟩ := by
  induction us generalizing seen with
  | nil => simp
  | cons u us ih => simp [ih, note_eq, Bool.or_assoc]

/-- The unit behind a start code that the scan has found. -/
theorem unitTypeAt_bytes (hu : u.Valid h) (rest : Bytes) :
    unitTypeAt h (0 :: (u.body ++ rest)) = u.unitType h := by
  have hheader := hu.header
  unfold unitTypeAt unitType
  cases h with
  | h264 =>
    cases hn : u.nal with
    | nil =>
      rw [hn] at hheader
      cases hheader
    | cons b nal => simp [body, hn]
  | h265 =>
    cases hn : u.nal with
    | nil =>
      rw [hn] at hheader
      cases hheader
    | cons b nal =>
      cases nal with
      | nil =>
        rw [hn] at hheader
        exact absurd hheader (by simp)
      | cons b' nal => simp [body, hn]

/-- The scan at a unit behind a start code of four bytes. -/
theorem scanExtraData_long (hu : u.Valid h) (rest : Bytes) (off : Nat) (seen : ParamSets) :
    scanExtraData h off (0 :: (u.body ++ rest)) seen =
      if isVCL h (u.unitType h) then (off, seen)
      else scanExtraData h (off + 1) (u.body ++ rest) (note h seen u) := by
  have hlong : ¬ (u.body ++ rest).length < 4 := by
    have := hu.length_body
    rw [List.length_append]
    omega
  have hcode : (0 :: (u.body ++ rest)).take 4 = startCode := rfl
  rw [scanExtraData, if_neg hlong, if_pos hcode, unitTypeAt_bytes hu, note]
  simp only
  by_cases hvps : isVPS h (u.unitType h) = true
  · simp [hvps, isVCL_of_paramSet (.inl hvps)]
  · by_cases hsps : isSPS h (u.unitType h) = true
    · simp [hvps, hsps, isVCL_of_paramSet (.inr (.inl hsps))]
    · by_cases hpps : isPPS h (u.unitType h) = true
      · simp [hvps, hsps, hpps, isVCL_of_paramSet (.inr (.inr hpps))]
      · simp [hvps, hsps, hpps]

theorem packet_cons (u : CodedUnit) (us : List CodedUnit) :
    packet (u :: us) = u.bytes ++ packet us := rfl

theorem length_packet_pos (hus : ∀ u ∈ us, u.Valid h) (hne : us ≠ []) :
    4 ≤ (packet us).length := by
  cases us with
  | nil => exact absurd rfl hne
  | cons u us =>
    have := (hus u (.head _)).length_body
    simp only [packet_cons, bytes, List.length_append]
    omega

/-- The scan of a whole packet: it stops at the first picture that it sees. -/
theorem scanExtraData_packet (hus : ∀ u ∈ us, u.Valid h) (hne : us ≠ []) (off : Nat)
    (seen : ParamSets) :
    scanExtraData h off (packet us) seen =
      (off + (packet (scanned h us)).length, (noticed h us).foldl (note h) seen) := by
  induction us generalizing off seen with
  | nil => exact absurd rfl hne
  | cons u us ih =>
    have hu := hus u (.head _)
    have hus' : ∀ u ∈ us, u.Valid h := fun u hu => hus u (.tail _ hu)
    -- the bytes of the unit that are not looked at, and the units behind it
    have hbody : ∀ off seen, scanExtraData h off (u.body ++ packet us) seen =
        (off + (u.body.length + (packet (scanned h us)).length),
          (noticed h us).foldl (note h) seen) := by
      intro off seen
      cases us with
      | nil =>
        have hend : scanExtraData h off u.body seen = _ :=
          scanExtraData_end hu.length_body (fun k hk => hu.no_code [] hk) off
        simpa [packet, scanned, noticed] using hend
      | cons u' us =>
        rw [scanExtraData_skip (length_packet_pos hus' (by simp)) fun k hk => hu.no_code _ hk,
          ih hus' (by simp), Nat.add_assoc]
    cases hl : u.long with
    | false =>
      have hb : u.bytes = u.body := by simp [bytes, hl]
      have hscan : scanned h (u :: us) = u :: scanned h us := by simp [scanned, hl]
      have hnote : noticed h (u :: us) = noticed h us := by simp [noticed, hscan, hl]
      rw [packet_cons, hb, hbody, hscan, hnote, packet_cons, hb, List.length_append]
    | true =>
      have hb : u.bytes = 0 :: u.body := by simp [bytes, hl]
      rw [packet_cons, hb, List.cons_append, scanExtraData_long hu]
      split
      · rename_i hvcl
        simp [scanned, noticed, hl, hvcl, packet]
      · rename_i hvcl
        have hscan : scanned h (u :: us) = u :: scanned h us := by simp [scanned, hl, hvcl]
        have hnote : noticed h (u :: us) = u :: noticed h us := by simp [noticed, hscan, hl]
        rw [hbody, hscan, hnote, packet_cons, hb, List.foldl_cons]
        simp only [List.cons_append, List.length_cons, List.length_append]
        congr 1
        omega

/-- All parameter sets are there, as the code tests it. -/
theorem complete_iff (h : HNumber) (us : List CodedUnit) : Complete h us ↔
    (match h with
      | .h264 => (us.foldl (note h) {}).sps && (us.foldl (note h) {}).pps
      | .h265 => (us.foldl (note h) {}).vps && (us.foldl (note h) {}).sps &&
          (us.foldl (note h) {}).pps) = true := by
  rw [foldl_note]
  cases h with
  | h264 =>
    simp only [Bool.false_or, Bool.and_eq_true, List.any_eq_true]
    exact ⟨fun hc => ⟨hc.sps, hc.pps⟩, fun hc => ⟨nofun, hc.1, hc.2⟩⟩
  | h265 =>
    simp only [Bool.false_or, Bool.and_eq_true, List.any_eq_true]
    exact ⟨fun hc => ⟨⟨hc.vps rfl, hc.sps⟩, hc.pps⟩, fun hc => ⟨fun _ => hc.1.1, hc.1.2, hc.2⟩⟩

theorem not_complete_nil (h : HNumber) : ¬ Complete h [] := by
  intro hc
  obtain ⟨u, hu, -⟩ := hc.sps
  cases hu

open Classical in
/-- `GetExtraDataSize` of a packet. -/
theorem getExtraDataSize_packet (hus : ∀ u ∈ us, u.Valid h) :
    getExtraDataSize h (packet us) =
      if Complete h (noticed h us) then (packet (scanned h us)).length else 0 := by
  by_cases hne : us = []
  · subst hne
    have hnone : ¬ Complete h (noticed h []) := not_complete_nil h
    rw [if_neg hnone]
    cases h <;> rfl
  · unfold getExtraDataSize
    rw [scanExtraData_packet hus hne, complete_iff]
    cases h <;> simp

/-! ## The condition -/

theorem length_bytes_pos (u : CodedUnit) : 0 < u.bytes.length := by
  simp [bytes, body]

/-- Fronts of a packet of one length are the same. -/
theorem take_eq_of_length {k j : Nat}
    (hlen : (packet (us.take k)).length = (packet (us.take j)).length) :
    us.take k = us.take j := by
  induction us generalizing k j with
  | nil => simp
  | cons u us ih =>
    have hpos := length_bytes_pos u
    cases k with
    | zero =>
      cases j with
      | zero => rfl
      | succ j =>
        simp only [List.take_succ_cons, packet_cons, List.length_append] at hlen
        simp only [List.take_zero, packet, List.flatMap_nil, List.length_nil] at hlen
        omega
    | succ k =>
      cases j with
      | zero =>
        simp only [List.take_succ_cons, packet_cons, List.length_append] at hlen
        simp only [List.take_zero, packet, List.flatMap_nil, List.length_nil] at hlen
        omega
      | succ j =>
        simp only [List.take_succ_cons, packet_cons, List.length_append] at hlen
        exact congrArg (u :: ·) (ih (by omega))

theorem take_packet (us : List CodedUnit) (k : Nat) :
    (packet us).take (packet (us.take k)).length = packet (us.take k) := by
  have hsplit : packet us = packet (us.take k) ++ packet (us.drop k) := by
    rw [packet, packet, packet, ← List.flatMap_append, List.take_append_drop]
  rw [hsplit, List.take_left]

theorem scanned_eq_take (h : HNumber) (us : List CodedUnit) :
    scanned h us = us.take (scanned h us).length :=
  List.prefix_iff_eq_take.1 (List.takeWhile_prefix _)

/-- The first picture of the packet, if there is one, is behind a start code of four bytes. -/
def FirstLong (h : HNumber) (us : List CodedUnit) : Prop :=
  ∀ u, us.find? (fun u => isVCL h (u.unitType h)) = some u → u.long = true

/-- The scan stops at the first picture exactly if that is behind a start code of four bytes. -/
theorem firstLong_iff (h : HNumber) (us : List CodedUnit) :
    FirstLong h us ↔ ∀ u ∈ scanned h us, isVCL h (u.unitType h) = false := by
  induction us with
  | nil => simp [FirstLong, scanned]
  | cons u us ih =>
    unfold FirstLong scanned at *
    cases hvcl : isVCL h (u.unitType h) with
    | false => simpa [hvcl] using ih
    | true =>
      cases hl : u.long with
      | false => simp [hvcl, hl]
      | true => simp [hvcl, hl]

theorem Complete.mono {us us' : List CodedUnit} (hc : Complete h us) (hsub : ∀ u ∈ us, u ∈ us') :
    Complete h us' := by
  refine ⟨fun h5 => ?_, ?_, ?_⟩
  · obtain ⟨u, hu, ht⟩ := hc.vps h5
    exact ⟨u, hsub u hu, ht⟩
  · obtain ⟨u, hu, ht⟩ := hc.sps
    exact ⟨u, hsub u hu, ht⟩
  · obtain ⟨u, hu, ht⟩ := hc.pps
    exact ⟨u, hsub u hu, ht⟩

/-- **Parameter sets in a packet.** `GetExtraDataSize` is right about a packet of units behind start
codes of three and four bytes exactly if it finds the parameter sets wherever they precede the
first picture, looking at units behind four bytes only, and where it finds them, the first picture
is behind four bytes. -/
theorem extraData_right_iff (hus : ∀ u ∈ us, u.Valid h) :
    ExtraDataRight h us (getExtraDataSize h (packet us)) ↔
      (Complete h (beforeVCL h us) → Complete h (noticed h us)) ∧
        (Complete h (noticed h us) → FirstLong h us) := by
  rw [getExtraDataSize_packet hus]
  by_cases hc : Complete h (noticed h us)
  · rw [if_pos hc]
    have hall : Complete h (scanned h us) := hc.mono fun u hu => (List.mem_filter.1 hu).1
    have hne : (packet (scanned h us)).length ≠ 0 := by
      obtain ⟨u, hu, -⟩ := hall.sps
      obtain ⟨a, b, hab⟩ := List.append_of_mem hu
      have := length_bytes_pos u
      rw [hab, packet, List.flatMap_append, List.flatMap_cons, List.length_append,
        List.length_append]
      omega
    constructor
    · intro hright
      refine ⟨fun _ => hc, fun _ => (firstLong_iff h us).2 ?_⟩
      rcases hright.front with hzero | ⟨k, hk, -, hclean⟩
      · exact absurd hzero hne
      · rw [scanned_eq_take] at hk ⊢
        rw [take_eq_of_length hk]
        exact hclean
    · rintro ⟨-, hlong⟩
      have hclean := (firstLong_iff h us).1 (hlong hc)
      have htake := scanned_eq_take h us
      refine ⟨.inr ⟨(scanned h us).length, by rw [← htake], by rwa [← htake], by rwa [← htake]⟩,
        fun _ => hne, (scanned h us).length, ?_, by rwa [← htake]⟩
      have hfront := take_packet us (scanned h us).length
      rwa [← htake] at hfront ⊢
  · rw [if_neg hc]
    constructor
    · intro hright
      exact ⟨fun hb => absurd rfl (hright.found hb), fun hn => absurd hn hc⟩
    · rintro ⟨hfound, -⟩
      exact ⟨.inl rfl, fun hb => absurd (hfound hb) hc, 0, rfl, nofun⟩

/-- An H.264 key frame: SPS and PPS behind four bytes, and a slice. -/
def keyUnits264 (long : Bool) : List CodedUnit :=
  [⟨true, [0x67, 1]⟩, ⟨true, [0x68, 1]⟩, ⟨long, [0x65, 1]⟩]

theorem keyUnits264_valid (long : Bool) : ∀ u ∈ keyUnits264 long, u.Valid .h264 := by
  intro u hu
  simp only [keyUnits264, List.mem_cons, List.not_mem_nil, or_false] at hu
  rcases hu with rfl | rfl | rfl
  · exact ⟨by decide, by decide, by decide⟩
  · exact ⟨by decide, by decide, by decide⟩
  · exact ⟨by decide +revert, by decide +revert, by decide +revert⟩

theorem extraData_right_iff_long : getExtraDataSize .h264 (packet (keyUnits264 true)) = 12 ∧
    ExtraDataRight .h264 (keyUnits264 true) (getExtraDataSize .h264 (packet (keyUnits264 true))) := by
  refine ⟨by decide, (extraData_right_iff (keyUnits264_valid true)).2 ⟨fun _ => ?_, fun _ => ?_⟩⟩
  · exact ⟨nofun, ⟨⟨true, [0x67, 1]⟩, by decide, by decide⟩, ⟨true, [0x68, 1]⟩, by decide, by decide⟩
  · intro u hu
    cases hu
    rfl

/-- A slice behind three bytes is taken for extra data. -/
theorem slice_in_extraData : (∀ u ∈ keyUnits264 false, u.Valid .h264) ∧
    getExtraDataSize .h264 (packet (keyUnits264 false)) = (packet (keyUnits264 false)).length ∧
    ¬ ExtraDataRight .h264 (keyUnits264 false)
      (getExtraDataSize .h264 (packet (keyUnits264 false))) := by
  have hsize : getExtraDataSize .h264 (packet (keyUnits264 false)) =
      (packet ((keyUnits264 false).take 3)).length := by decide
  refine ⟨keyUnits264_valid false, hsize, fun hright => ?_⟩
  rw [hsize] at hright
  rcases hright.front with hzero | ⟨k, hk, -, hclean⟩
  · exact absurd hzero (by decide)
  · rw [← take_eq_of_length hk] at hclean
    have hslice := hclean ⟨false, [0x65, 1]⟩ (by decide)
    exact absurd hslice (by decide)

/-! ## MPEG-4 -/

/-- A group-of-VOP or VOP start code at `o`. -/
def vopCodeAt (bytes : Bytes) (o : Nat) : Prop :=
  (bytes.drop o).take 4 = [0, 0, 1, 0xB3] ∨ (bytes.drop o).take 4 = [0, 0, 1, 0xB6]

instance (bytes : Bytes) (o : Nat) : Decidable (vopCodeAt bytes o) :=
  inferInstanceAs (Decidable (_ ∨ _))

/-- What `Mpeg4Parser::GetExtraDataSize` should return for a packet. -/
structure Mpeg4Right (bytes : Bytes) (size : Nat) : Prop where
  /-- The configuration ends at the first byte of the first start code behind it. -/
  first : ∀ o, 4 ≤ o → vopCodeAt bytes o → (∀ o', 4 ≤ o' → o' < o → ¬ vopCodeAt bytes o') →
    size = o
  none : (∀ o, 4 ≤ o → ¬ vopCodeAt bytes o) → size = bytes.length
  /-- What is stored ends at a start code, or is all of the packet. -/
  boundary : vopCodeAt bytes (bytes.take size).length ∨ bytes.take size = bytes

theorem lt_of_vopCodeAt {bytes : Bytes} {o : Nat} (h : vopCodeAt bytes o) :
    o + 3 < bytes.length := by
  have hlen : ((bytes.drop o).take 4).length = 4 := by
    rcases h with h | h <;> rw [h] <;> rfl
  rw [List.length_take, List.length_drop] at hlen
  omega

/-- The loop knows a start code by its last byte. -/
def vopCodeEndsAt (bytes : Bytes) (i : Nat) : Bool :=
  7 ≤ i && ((bytes.drop (i - 3)).take 4 = [0, 0, 1, 0xB3] ||
    (bytes.drop (i - 3)).take 4 = [0, 0, 1, 0xB6])

theorem vopCodeEndsAt_iff (bytes : Bytes) (i : Nat) :
    vopCodeEndsAt bytes i = true ↔ 7 ≤ i ∧ vopCodeAt bytes (i - 3) := by
  simp [vopCodeEndsAt, vopCodeAt]

variable {bytes : Bytes}

theorem mpeg4ExtraDataSize_eq (hstart : [0, 0, 1, 0xB0] <+: bytes) :
    mpeg4ExtraDataSize bytes =
      ((List.range bytes.length).find? (vopCodeEndsAt bytes)).getD bytes.length := by
  obtain ⟨rest, rfl⟩ := hstart
  rfl

theorem mpeg4ExtraDataSize_of_code (hstart : [0, 0, 1, 0xB0] <+: bytes) {o : Nat} (ho : 4 ≤ o)
    (hcode : vopCodeAt bytes o) (hfirst : ∀ o', 4 ≤ o' → o' < o → ¬ vopCodeAt bytes o') :
    mpeg4ExtraDataSize bytes = o + 3 := by
  have hfind : (List.range bytes.length).find? (vopCodeEndsAt bytes) = some (o + 3) := by
    refine List.find?_range_eq_some.2 ⟨?_, ?_, fun j hj => ?_⟩
    · exact (vopCodeEndsAt_iff bytes (o + 3)).2 ⟨by omega, hcode⟩
    · exact List.mem_range.2 (lt_of_vopCodeAt hcode)
    · rw [Bool.not_eq_true', ← Bool.not_eq_true, vopCodeEndsAt_iff]
      rintro ⟨h7, hj'⟩
      exact hfirst (j - 3) (by omega) (by omega) hj'
  rw [mpeg4ExtraDataSize_eq hstart, hfind, Option.getD_some]

theorem mpeg4ExtraDataSize_of_none (hstart : [0, 0, 1, 0xB0] <+: bytes)
    (hnone : ∀ o, 4 ≤ o → ¬ vopCodeAt bytes o) : mpeg4ExtraDataSize bytes = bytes.length := by
  have hfind : (List.range bytes.length).find? (vopCodeEndsAt bytes) = none := by
    refine List.find?_range_eq_none.2 fun i _ => ?_
    rw [Bool.not_eq_true', ← Bool.not_eq_true, vopCodeEndsAt_iff]
    rintro ⟨h7, hcode⟩
    exact hnone (i - 3) (by omega) hcode
  rw [mpeg4ExtraDataSize_eq hstart, hfind, Option.getD_none]

/-- **MPEG-4 configuration.** `GetExtraDataSize` is right about a packet that starts with a visual
object sequence exactly if no group of VOPs and no VOP follows in it. -/
theorem mpeg4ExtraData_right_iff (hstart : [0, 0, 1, 0xB0] <+: bytes) :
    Mpeg4Right bytes (mpeg4ExtraDataSize bytes) ↔ ∀ o, 4 ≤ o → ¬ vopCodeAt bytes o := by
  constructor
  · intro hright o ho hcode
    -- the first start code is where the packet is cut three bytes too late
    have hex : ∃ o, 4 ≤ o ∧ vopCodeAt bytes o := ⟨o, ho, hcode⟩
    obtain ⟨hfour, hat⟩ := Nat.find_spec hex
    have hmin : ∀ o', 4 ≤ o' → o' < Nat.find hex → ¬ vopCodeAt bytes o' :=
      fun o' h4 hlt hc => Nat.find_min hex hlt ⟨h4, hc⟩
    have hsize := hright.first _ hfour hat hmin
    rw [mpeg4ExtraDataSize_of_code hstart hfour hat hmin] at hsize
    omega
  · intro hnone
    rw [mpeg4ExtraDataSize_of_none hstart hnone]
    exact ⟨fun o ho hcode _ => absurd hcode (hnone o ho), fun _ => rfl, .inr List.take_length⟩

/-- A configuration without a picture behind it. -/
theorem mpeg4ExtraData_right_iff_alone :
    Mpeg4Right [0, 0, 1, 0xB0, 1] (mpeg4ExtraDataSize [0, 0, 1, 0xB0, 1]) := by
  refine (mpeg4ExtraData_right_iff ⟨[1], rfl⟩).2 fun o ho hcode => ?_
  have hlt : o + 3 < 5 := lt_of_vopCodeAt hcode
  omega

/-- A picture follows at 5: three bytes of its start code are stored. -/
theorem vop_code_in_extraData :
    vopCodeAt [0, 0, 1, 0xB0, 1, 0, 0, 1, 0xB6, 0x10] 5 ∧
      mpeg4ExtraDataSize [0, 0, 1, 0xB0, 1, 0, 0, 1, 0xB6, 0x10] = 8 ∧
      ¬ Mpeg4Right [0, 0, 1, 0xB0, 1, 0, 0, 1, 0xB6, 0x10]
        (mpeg4ExtraDataSize [0, 0, 1, 0xB0, 1, 0, 0, 1, 0xB6, 0x10]) := by
  have hsize : mpeg4ExtraDataSize [0, 0, 1, 0xB0, 1, 0, 0, 1, 0xB6, 0x10] = 8 := by decide
  refine ⟨by decide, hsize, fun hright => ?_⟩
  rw [hsize] at hright
  have hfive := hright.first 5 (by decide) (by decide) (by decide)
  exact absurd hfive (by decide)

end StreamSwitch.Ffmpeg
