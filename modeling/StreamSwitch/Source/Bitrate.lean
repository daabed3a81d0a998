import StreamSwitch.Source.Clients

/-!
# The bit rate that a stream source publishes

`SendLiveMediaFrame` counts the bytes it sends in a `uint32_t`; `Heartbeat` turns
them into bits per second, with a product that is a `uint32_t` as well, and publishes
the result. A time of 0 stands for a source without an earlier `Heartbeat`.

`bit_rate_iff`: along every run of frames, metadata of the same ssrc and heartbeats
at increasing times, each heartbeat after the first publishes the rate of the bytes
sent since the last one whenever 8000 times their number is below 2 ^ 32, the last one
was not at the time 0 and the difference of the times is an `int64_t`. Of heartbeats at
most 2 ^ 32 ms apart the first condition is also necessary.
-/

namespace StreamSwitch

open Run

/-! ## The arithmetic -/

/-- The bits per second of `b` bytes in `e` milliseconds. -/
def bitsPerSecond (b e : Nat) : Nat := 8000 * b / e

/-- The milliseconds from `t` to `u`. -/
def elapsed (t u : Int64) : Nat := (u.toInt - t.toInt).toNat

theorem toInt_sub_eq_elapsed {t u : Int64} (hlt : t.toInt < u.toInt) (h : elapsed t u < 2 ^ 63) :
    (u - t).toInt = elapsed t u := by
  unfold elapsed at h ⊢
  rw [Int64.toInt_sub, Int.bmod_eq_of_le (by omega) (by omega), Int.toNat_of_nonneg (by omega)]

theorem sub_ne_zero_of_lt {t u : Int64} (hlt : t.toInt < u.toInt) : u - t ≠ 0 := by
  intro h
  have h0 : (u - t).toInt = 0 := by rw [h]; rfl
  rw [Int64.toInt_sub] at h0
  have hu := u.toInt_lt
  have hl := t.le_toInt
  have hd : (2 ^ 64 : Int) ∣ u.toInt - t.toInt := Int.dvd_of_bmod_eq_zero h0
  omega

theorem bytes_mul (b : UInt32) : (b * 8 * 1000).toNat = 8000 * b.toNat % 2 ^ 32 := by
  simp only [UInt32.toNat_mul, UInt32.reduceToNat]
  omega

theorem quotient_toUInt32 {x : Nat} (hx : x < 2 ^ 32) {d : Int64} {e : Nat} (hd : d.toInt = e)
    (he : 0 < e) :
    (Int64.ofNat x / d).toUInt64.toUInt32 = UInt32.ofNat (x / e) := by
  have hx' : (Int64.ofNat x).toInt = x := Int64.toInt_ofNat_of_lt (by omega)
  have hne : d ≠ -1 := by
    rintro rfl
    have h1 : ((-1 : Int64)).toInt = -1 := by decide
    omega
  have hq : (Int64.ofNat x / d).toInt = ((x / e : Nat) : Int) := by
    rw [Int64.toInt_div_of_ne_right _ _ hne, hx', hd]
    rfl
  have hle : x / e ≤ x := Nat.div_le_self _ _
  have hnonneg : 0 ≤ Int64.ofNat x / d := by
    rw [Int64.le_iff_toInt_le, hq]
    exact Int.natCast_nonneg _
  apply UInt32.toNat.inj
  rw [UInt64.toNat_toUInt32, Int64.toNat_toUInt64_of_le hnonneg, Int64.toNatClampNeg, hq,
    Int.toNat_natCast, UInt32.toNat_ofNat']

/-- Below 2^32, the wrapped product has the right quotient only when it does not wrap. -/
theorem wrapped_quotient_iff {b e : Nat} (he : 0 < e) (hle : e ≤ 2 ^ 32) :
    8000 * b % 2 ^ 32 / e = bitsPerSecond b e ↔ 8000 * b < 2 ^ 32 := by
  unfold bitsPerSecond
  constructor
  · intro h
    by_contra hge
    have hstep : 8000 * b % 2 ^ 32 + e ≤ 8000 * b := by omega
    have hlt : (8000 * b % 2 ^ 32) / e + 1 ≤ 8000 * b / e := by
      rw [← Nat.add_div_right _ he]
      exact Nat.div_le_div_right hstep
    omega
  · intro h
    rw [Nat.mod_eq_of_lt h]

/-! ## Runs -/

/-- A source beside which the bytes it sends are counted. -/
structure BitrateSystem where
  source : StreamSource
  /-- The bytes sent since the last `Heartbeat`. -/
  sent : Nat := 0
  /-- The time of the last `Heartbeat`. -/
  last : Option Int64 := none

/-- An initialised source that has not run `Heartbeat` yet. -/
structure NewSource where
  source : StreamSource
  isInit : source.isInit = true
  noBeat : source.user.lastHeartbeatTime = 0

inductive BitrateEvent
  | sendLiveMediaFrame (f : LiveFrame)
  | setStreamMeta (m : StreamMetadata)
  | heartbeat (now : Int64) (c : StreamSource.Clocks)

/-- The time of a `Heartbeat`. -/
def beatTime (now : Int64) (c : StreamSource.Clocks) : Int64 := if now = 0 then c.mono else now

/-- The bit rates in published messages. -/
def publishedBps (pb : Protobuf) (msgs : List PublishMsg) : List (Option UInt32) :=
  msgs.map fun msg => ((pb.commonPacket.decode msg.packetFrame).bind fun packet =>
    pb.streamInfoMsg.decode packet.getBody).bind (·.curBps)

namespace BitrateSystem

open StreamSource

variable (pb : Protobuf)

def bitrateStep (y : BitrateSystem) : BitrateEvent → Option BitrateSystem
  | .sendLiveMediaFrame f =>
    match sendLiveMediaFrame pb y.source f with
    | .ok r => some { y with
        source := r.source
        sent := if r.ret.code = .ok then y.sent + f.frameSize.toNat else y.sent }
    | .error _ => none
  | .setStreamMeta m =>
    -- the ssrc stays
    if m.ssrc = y.source.user.streamMeta.ssrc then
      match setStreamMeta y.source m with
      | .ok s => some { y with source := s }
      | .error _ => none
    else none
  | .heartbeat now c =>
    if y.last.all fun t => t.toInt < (beatTime now c).toInt then
      some { source := (y.source.heartbeat pb now c).1, sent := 0, last := some (beatTime now c) }
    else none

/-- A heartbeat after the first publishes the rate since the last one, if it is a 32-bit
number. -/
def RateRight (y : BitrateSystem) : BitrateEvent → Prop
  | .heartbeat now c => ∀ t, y.last = some t → t.toInt < (beatTime now c).toInt →
    y.sent < 2 ^ 32 → bitsPerSecond y.sent (elapsed t (beatTime now c)) < 2 ^ 32 →
    publishedBps pb (y.source.heartbeat pb now c).2 =
      [some (UInt32.ofNat (bitsPerSecond y.sent (elapsed t (beatTime now c))))]
  | _ => True

/-- The product of a heartbeat after the first does not wrap, the time of the last one is not
0 and the difference of the times does not overflow. -/
def ProductFits (y : BitrateSystem) : BitrateEvent → Prop
  | .heartbeat now c => ∀ t, y.last = some t → t.toInt < (beatTime now c).toInt →
    y.sent < 2 ^ 32 → bitsPerSecond y.sent (elapsed t (beatTime now c)) < 2 ^ 32 →
    8000 * y.sent < 2 ^ 32 ∧ t ≠ 0 ∧ elapsed t (beatTime now c) < 2 ^ 63
  | _ => True

/-- Heartbeats are at most 2 ^ 32 ms apart and not at the time 0. -/
def Regular (y : BitrateSystem) : BitrateEvent → Prop
  | .heartbeat now c => ∀ t, y.last = some t → t ≠ 0 ∧ elapsed t (beatTime now c) ≤ 2 ^ 32
  | _ => True

/-- After a `Heartbeat` the source counts the bytes modulo 2 ^ 32. -/
structure Counts (y : BitrateSystem) : Prop where
  isInit : y.source.isInit = true
  last : y.source.user.lastHeartbeatTime = y.last.getD 0
  bytes : y.last.isSome → y.source.user.curBytes.toNat = y.sent % 2 ^ 32

variable {pb} {y y' : BitrateSystem}

theorem updateBps_first {d : SourceData} (h : d.lastHeartbeatTime = 0) (now : Int64) :
    updateBps d now = { d with lastHeartbeatTime := now, curBytes := 0 } := by
  unfold updateBps
  rw [if_neg (not_not.2 h)]

theorem updateBps_next {d : SourceData} (h : d.lastHeartbeatTime ≠ 0) {now : Int64}
    (hlt : d.lastHeartbeatTime.toInt < now.toInt) :
    updateBps d now = { d with
      lastHeartbeatTime := now
      curBps := (Int64.ofNat (d.curBytes * 8 * 1000).toNat /
        (now - d.lastHeartbeatTime)).toUInt64.toUInt32
      curBytes := 0 } := by
  unfold updateBps
  simp only
  rw [if_pos h, if_pos (sub_ne_zero_of_lt hlt)]

/-- Whichever branch is taken, the count starts again. -/
theorem updateBps_restarts {d : SourceData} {now : Int64}
    (hlt : d.lastHeartbeatTime ≠ 0 → d.lastHeartbeatTime.toInt < now.toInt) :
    (updateBps d now).lastHeartbeatTime = now ∧ (updateBps d now).curBytes = 0 := by
  by_cases h : d.lastHeartbeatTime = 0
  · rw [updateBps_first h]
    exact ⟨rfl, rfl⟩
  · rw [updateBps_next h (hlt h)]
    exact ⟨rfl, rfl⟩

theorem publishedBps_heartbeat {s : StreamSource} (hi : s.isInit = true) (now : Int64)
    (c : Clocks) :
    publishedBps pb (s.heartbeat pb now c).2 =
      [some (updateBps s.user (beatTime now c)).curBps] := by
  have hchannel : infoChannel ≠ "" := by decide
  simp only [heartbeat, sendStreamInfo, sendPublishMsg, hi, Bool.not_true, Bool.false_eq_true,
    if_false, if_neg hchannel, publishedBps, List.map_cons, List.map_nil, Codec.decode_encode,
    Option.bind_some, ProtoCommonPacket.getBody, Option.getD_some]
  rfl

/-- The rate is that of the wrapped product. -/
theorem publishedBps_next (hy : y.Counts) {t : Int64} (ht : y.last = some t) (hne : t ≠ 0)
    {now : Int64} {c : Clocks} (hlt : t.toInt < (beatTime now c).toInt)
    (he : elapsed t (beatTime now c) < 2 ^ 63) :
    publishedBps pb (y.source.heartbeat pb now c).2 =
      [some (UInt32.ofNat (8000 * y.sent % 2 ^ 32 / elapsed t (beatTime now c)))] := by
  have hlast : y.source.user.lastHeartbeatTime = t := by rw [hy.last, ht, Option.getD_some]
  have hbytes : (y.source.user.curBytes * 8 * 1000).toNat = 8000 * y.sent % 2 ^ 32 := by
    rw [bytes_mul, hy.bytes (by rw [ht]; rfl)]
    omega
  have hpos : 0 < elapsed t (beatTime now c) := by
    unfold elapsed
    omega
  rw [publishedBps_heartbeat hy.isInit, updateBps_next (by rw [hlast]; exact hne)
    (by rw [hlast]; exact hlt), hbytes, hlast,
    quotient_toUInt32 (Nat.mod_lt _ (by decide)) (toInt_sub_eq_elapsed hlt he) hpos]

theorem rateRight_of_productFits (hy : y.Counts) (e : BitrateEvent) (h : y.ProductFits e) :
    y.RateRight pb e := by
  cases e with
  | heartbeat now c =>
    intro t ht hlt hsent hrate
    obtain ⟨hprod, hne, he⟩ := h t ht hlt hsent hrate
    rw [publishedBps_next hy ht hne hlt he, Nat.mod_eq_of_lt hprod]
    rfl
  | sendLiveMediaFrame f => trivial
  | setStreamMeta m => trivial

theorem productFits_of_rateRight (hy : y.Counts) (e : BitrateEvent) (hreg : y.Regular e)
    (h : y.RateRight pb e) : y.ProductFits e := by
  cases e with
  | heartbeat now c =>
    intro t ht hlt hsent hrate
    obtain ⟨hne, hle⟩ := hreg t ht
    have he : elapsed t (beatTime now c) < 2 ^ 63 := by omega
    have hpos : 0 < elapsed t (beatTime now c) := by
      unfold elapsed
      omega
    refine ⟨(wrapped_quotient_iff hpos hle).1 ?_, hne, he⟩
    have hright := h t ht hlt hsent hrate
    rw [publishedBps_next hy ht hne hlt he] at hright
    have hquot := congrArg UInt32.toNat (Option.some.inj (List.cons.inj hright).1)
    have hsmall : 8000 * y.sent % 2 ^ 32 / elapsed t (beatTime now c) < 2 ^ 32 :=
      Nat.lt_of_le_of_lt (Nat.div_le_self _ _) (Nat.mod_lt _ (by decide))
    rwa [UInt32.toNat_ofNat', UInt32.toNat_ofNat', Nat.mod_eq_of_lt hsmall,
      Nat.mod_eq_of_lt hrate] at hquot
  | sendLiveMediaFrame f => trivial
  | setStreamMeta m => trivial

/-- Metadata of the same ssrc leaves the count and the times alone. -/
theorem setStreamMeta_counters {s s' : StreamSource} {m : StreamMetadata}
    (hm : m.ssrc = s.user.streamMeta.ssrc) (h : setStreamMeta s m = .ok s') :
    s'.isInit = s.isInit ∧ s'.user.curBytes = s.user.curBytes ∧
      s'.user.lastHeartbeatTime = s.user.lastHeartbeatTime := by
  by_cases hl : s.user.streamMeta.subStreams.length = m.subStreams.length
  · rw [setStreamMeta_of_same hm.symm hl] at h
    cases h
    exact ⟨rfl, rfl, rfl⟩
  · have hc : ¬ (s.user.streamMeta.ssrc = m.ssrc ∧
        s.user.streamMeta.subStreams.length = m.subStreams.length) := fun hc => hl hc.2
    by_cases hn : int32OfSize m.subStreams.length < 0
    · rw [setStreamMeta_of_negative hc hn] at h
      cases h
    · have hok : ∃ d, setStreamMeta s m = .ok { s with user := d } ∧
          d.curBytes = s.user.curBytes ∧ d.lastHeartbeatTime = s.user.lastHeartbeatTime := by
        unfold setStreamMeta
        generalize int32OfSize m.subStreams.length = n at hn ⊢
        simp only
        rw [if_pos (.inr hl), if_neg hn, if_neg (not_not.2 hm.symm)]
        exact ⟨_, rfl, rfl, rfl⟩
      obtain ⟨d, hd, hb, ht⟩ := hok
      rw [hd] at h
      cases h
      exact ⟨rfl, hb, ht⟩

theorem counts_step (hy : y.Counts) {e : BitrateEvent} (h : y.bitrateStep pb e = some y') :
    y'.Counts := by
  cases e with
  | sendLiveMediaFrame f =>
    simp only [bitrateStep] at h
    split at h
    · next r hr =>
      cases h
      rcases sendLiveMediaFrame_cases hy.isInit hr with ⟨-, hret, hsrc, -⟩ | ⟨-, hret, st, -, hsrc, -⟩
      · -- refused: nothing has changed
        refine ⟨by rw [hsrc]; exact hy.isInit, by rw [hsrc]; exact hy.last, fun hs => ?_⟩
        rw [if_neg (by rw [hret]; decide), hsrc]
        exact hy.bytes hs
      · refine ⟨by rw [hsrc]; exact hy.isInit, by rw [hsrc]; exact hy.last, fun hs => ?_⟩
        rw [if_pos hret, hsrc]
        have hb := hy.bytes hs
        show (y.source.user.curBytes + f.frameSize.toUInt32).toNat =
          (y.sent + f.frameSize.toNat) % 2 ^ 32
        rw [UInt32.toNat_add, UInt64.toNat_toUInt32, hb]
        omega
    · cases h
  | setStreamMeta m =>
    simp only [bitrateStep] at h
    split at h
    · next hm =>
      split at h
      · next s hs =>
        cases h
        obtain ⟨hi, hb, ht⟩ := setStreamMeta_counters hm hs
        exact ⟨hi.trans hy.isInit, ht.trans hy.last, fun hl => by rw [hb]; exact hy.bytes hl⟩
      · cases h
    · cases h
  | heartbeat now c =>
    simp only [bitrateStep] at h
    split at h
    · next hall =>
      cases h
      have hlt : y.source.user.lastHeartbeatTime ≠ 0 →
          y.source.user.lastHeartbeatTime.toInt < (beatTime now c).toInt := by
        rw [hy.last]
        intro hne
        cases hl : y.last with
        | none =>
          rw [hl] at hne
          exact absurd rfl hne
        | some t =>
          rw [hl] at hall
          simpa using hall
      obtain ⟨htime, hbytes⟩ := updateBps_restarts hlt
      exact ⟨hy.isInit, htime, fun _ => congrArg UInt32.toNat hbytes⟩
    · cases h

theorem counts_new (s : NewSource) : Counts { source := s.source } :=
  ⟨s.isInit, s.noBeat, fun h => by cases h⟩

/-- **Every heartbeat after the first publishes the rate of the bytes since the last one, as long
as the product fits into 32 bits**; for regular heartbeats, not otherwise. -/
theorem bit_rate_iff (s : NewSource) (es : List BitrateEvent) :
    (Each (bitrateStep pb) ProductFits { source := s.source } es →
      Each (bitrateStep pb) (RateRight pb) { source := s.source } es) ∧
    (Each (bitrateStep pb) Regular { source := s.source } es →
      (Each (bitrateStep pb) (RateRight pb) { source := s.source } es ↔
        Each (bitrateStep pb) ProductFits { source := s.source } es)) := by
  have hfits : Each (bitrateStep pb) ProductFits { source := s.source } es →
      Each (bitrateStep pb) (RateRight pb) { source := s.source } es := fun h =>
    each_of_inv (fun y e y' hy _ => counts_step hy) (fun y e hy hc => rateRight_of_productFits hy e hc)
      h (counts_new s)
  refine ⟨hfits, fun hreg => ⟨fun h => ?_, hfits⟩⟩
  exact each_of_inv (fun y e y' hy _ => counts_step hy)
    (fun y e hy hc => productFits_of_rateRight hy e hc.2 hc.1) (h.and hreg) (counts_new s)

/-- A source of one sub-stream. -/
def demoSource : NewSource where
  source := .afterInit (fun _ => none)
    { streamMeta := { subStreams := [{}] }, statistic := [{}] }
  isInit := rfl
  noBeat := rfl

def demoClocks : Clocks := ⟨1, ⟨0, Int.le_refl 0⟩, 0⟩

/-- The shortest frame whose product wraps. -/
def largeFrame : LiveFrame where
  info := { frameType := .dataFrame }
  frameData := some (List.replicate 536871 0)
  frameSize := 536871

/-- The source after a heartbeat at 1000 ms and the frame. -/
def largeFrameSent : BitrateSystem where
  source := accepted (demoSource.source.heartbeat wireProtobuf 1000 demoClocks).1 largeFrame {}
  sent := 536871
  last := some 1000

/-- A frame of 536871 bytes within a second counts as nothing. -/
theorem large_frame_rate_zero :
    largeFrame.DataOk ∧
    publishedBps wireProtobuf
      (largeFrameSent.source.heartbeat wireProtobuf 2000 demoClocks).2 = [some 0] ∧
    ¬ Each (bitrateStep wireProtobuf) (RateRight wireProtobuf) { source := demoSource.source }
      [.heartbeat 1000 demoClocks, .sendLiveMediaFrame largeFrame, .heartbeat 2000 demoClocks] := by
  have hzero : publishedBps wireProtobuf
      (largeFrameSent.source.heartbeat wireProtobuf 2000 demoClocks).2 = [some 0] := by
    rw [publishedBps_heartbeat rfl]
    rfl
  refine ⟨fun _ => ⟨_, rfl, List.length_replicate ..⟩, hzero, fun h => ?_⟩
  have hlast : RateRight wireProtobuf largeFrameSent (.heartbeat 2000 demoClocks) :=
    (h.2 _ rfl |>.2 _ rfl).1
  have hrate := hlast 1000 rfl (by decide) (by decide) (by decide)
  rw [hzero] at hrate
  exact absurd hrate (by decide)

end BitrateSystem

end StreamSwitch
