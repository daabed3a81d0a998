import Mathlib.Data.Finset.Max
import StreamSwitch.Lib.Binary64
import StreamSwitch.Lib.Run
import StreamSwitch.ProtoWire

/-!
# The status of a stream

`_handle_stream_info` of `stream_mngr.py`. Times are `float` seconds; the send time
of a message is an `int64` of milliseconds. A message is ignored when it is too old, or
older than the last one that was taken with the same ssrc.

`status_of_delivery`: messages of one ssrc whose send times are different numbers of
seconds leave the status of the one sent last, in whatever order and however often
they are delivered to a new stream, and its `update_time` never goes back.
-/

namespace StreamSwitch

open Run Binary64

/-- `float(send_time) / 1000.0`. -/
def secondsOf (sendTime : Int64) : ℚ := round64 (round64 sendTime.toInt / 1000)

/-- `STSW_STREAM_STATE_TIMEOUT_TIME`. -/
def streamStateTimeoutTime : ℚ := 300

/-- The status fields of a `BaseStream`. -/
structure StreamStatus where
  state : SourceStreamState := .connecting
  playType : StreamPlayType := .live
  sourceProtocol : String := ""
  ssrc : UInt32 := 0
  curBps : UInt32 := 0
  lastFrameTime : ℚ := 0
  updateTime : ℚ
  clientNum : Int32 := 0
deriving DecidableEq

structure StreamInfo where
  state : SourceStreamState := .connecting
  playType : StreamPlayType := .live
  sourceProto : String := ""
  ssrc : UInt32 := 0
  curBps : UInt32 := 0
  lastFrameSec : Int64 := 0
  lastFrameUsec : Int32 := 0
  sendTime : Int64 := 0
  streamName : String := ""
  clientNum : Int32 := 0

def StreamInfo.fromPb (pbStreamInfo : ProtoStreamInfoMsg) : StreamInfo where
  state := pbStreamInfo.state.getD .connecting
  playType := pbStreamInfo.playType.getD .live
  sourceProto := pbStreamInfo.sourceProto.getD ""
  ssrc := pbStreamInfo.ssrc.getD 0
  curBps := pbStreamInfo.curBps.getD 0
  lastFrameSec := pbStreamInfo.lastFrameSec.getD 0
  lastFrameUsec := pbStreamInfo.lastFrameUsec.getD 0
  sendTime := pbStreamInfo.sendTime.getD 0
  streamName := pbStreamInfo.streamName.getD ""
  clientNum := pbStreamInfo.clientNum.getD 0

/-- A message, received at the time `now`. -/
structure InfoDelivery where
  now : ℚ
  packet : ProtoCommonPacket

namespace StreamStatus

/-- `BaseStream.__init__` at the time `now`. -/
def created (now : ℚ) : StreamStatus := { updateTime := now }

/-- The values that an accepted message sets. -/
def ofInfo (pbStreamInfo : ProtoStreamInfoMsg) : StreamStatus where
  state := pbStreamInfo.state.getD .connecting
  playType := pbStreamInfo.playType.getD .live
  sourceProtocol := pbStreamInfo.sourceProto.getD ""
  ssrc := pbStreamInfo.ssrc.getD 0
  curBps := pbStreamInfo.curBps.getD 0
  lastFrameTime := round64 (round64 (pbStreamInfo.lastFrameSec.getD 0).toInt +
    round64 (round64 (pbStreamInfo.lastFrameUsec.getD 0).toInt / 1000000))
  updateTime := secondsOf (pbStreamInfo.sendTime.getD 0)
  clientNum := pbStreamInfo.clientNum.getD 0

variable (pb : Protobuf)

/-- The stream and the info of the event it sends; `none` when `FromString` raises. -/
def handleStreamInfo (s : StreamStatus) (now : ℚ) (packet : ProtoCommonPacket) :
    Option (StreamStatus × Option StreamInfo) :=
  (pb.streamInfoMsg.decode packet.getBody).map fun pbStreamInfo =>
    let sendTime := secondsOf (pbStreamInfo.sendTime.getD 0)
    -- ignore the too old info
    if round64 (now - sendTime) ≥ streamStateTimeoutTime then (s, none)
    -- ignore the out-time stream info
    else if pbStreamInfo.ssrc.getD 0 = s.ssrc ∧ sendTime < s.updateTime then (s, none)
    else (.ofInfo pbStreamInfo, some (.fromPb pbStreamInfo))

def infoStep (s : StreamStatus) (d : InfoDelivery) : Option StreamStatus :=
  (s.handleStreamInfo pb d.now d.packet).map Prod.fst

/-- `update_time` does not go back. -/
def TimeGrows (s : StreamStatus) (d : InfoDelivery) : Prop :=
  ∀ s', s.infoStep pb d = some s' → s.updateTime ≤ s'.updateTime

end StreamStatus

/-- Messages of one ssrc, sent at different times. -/
structure InfoMessages where
  msgs : Finset ProtoStreamInfoMsg
  ssrc : UInt32
  ssrc_ne : ssrc ≠ 0
  common : ∀ m ∈ msgs, m.ssrc.getD 0 = ssrc
  distinct : ∀ a ∈ msgs, ∀ b ∈ msgs,
    secondsOf (a.sendTime.getD 0) = secondsOf (b.sendTime.getD 0) → a = b

/-- The packets of `ds` are the messages, each at least once, and none of them is too old. -/
structure InfoMessages.Delivers (pb : Protobuf) (S : InfoMessages) (ds : List InfoDelivery) :
    Prop where
  parsed : ∀ d ∈ ds, ∃ m ∈ S.msgs, pb.streamInfoMsg.decode d.packet.getBody = some m ∧
    round64 (d.now - secondsOf (m.sendTime.getD 0)) < streamStateTimeoutTime
  complete : ∀ m ∈ S.msgs, ∃ d ∈ ds, pb.streamInfoMsg.decode d.packet.getBody = some m

theorem secondsOf_mono {a b : Int64} (h : a.toInt ≤ b.toInt) : secondsOf a ≤ secondsOf b := by
  apply round64_mono
  apply div_le_div_of_nonneg_right _ (by norm_num)
  exact round64_mono (Int.cast_le.2 h)

namespace StreamStatus

variable {pb : Protobuf} {d : InfoDelivery} {m m₀ : ProtoStreamInfoMsg}

/-- What a message that is not too old does. -/
theorem infoStep_eq (s : StreamStatus) (hm : pb.streamInfoMsg.decode d.packet.getBody = some m)
    (hnew : round64 (d.now - secondsOf (m.sendTime.getD 0)) < streamStateTimeoutTime) :
    s.infoStep pb d =
      some (if m.ssrc.getD 0 = s.ssrc ∧ secondsOf (m.sendTime.getD 0) < s.updateTime then s
        else ofInfo m) := by
  unfold infoStep handleStreamInfo
  rw [hm, Option.map_some, Option.map_some]
  dsimp only
  rw [if_neg (not_le.2 hnew)]
  split <;> rfl

/-- The first message is taken whatever the time of the stream. -/
theorem infoStep_created (now : ℚ) (hm : pb.streamInfoMsg.decode d.packet.getBody = some m)
    (hnew : round64 (d.now - secondsOf (m.sendTime.getD 0)) < streamStateTimeoutTime)
    (hssrc : m.ssrc.getD 0 ≠ 0) : (created now).infoStep pb d = some (ofInfo m) := by
  rw [infoStep_eq _ hm hnew, if_neg fun h => hssrc h.1]

/-- From then on the one that was sent later is kept. -/
theorem infoStep_ofInfo (hm : pb.streamInfoMsg.decode d.packet.getBody = some m)
    (hnew : round64 (d.now - secondsOf (m.sendTime.getD 0)) < streamStateTimeoutTime)
    (hssrc : m.ssrc.getD 0 = m₀.ssrc.getD 0) :
    (ofInfo m₀).infoStep pb d = some (ofInfo
      (if secondsOf (m.sendTime.getD 0) < secondsOf (m₀.sendTime.getD 0) then m₀ else m)) := by
  rw [infoStep_eq _ hm hnew]
  by_cases hlt : secondsOf (m.sendTime.getD 0) < secondsOf (m₀.sendTime.getD 0)
  · rw [if_pos hlt, if_pos ⟨hssrc, hlt⟩]
  · rw [if_neg hlt, if_neg fun h => hlt h.2]

variable {S : InfoMessages} {ds ds' : List InfoDelivery}

/-- The packet of `d` is a message of `S` that is not too old. -/
def Carries (pb : Protobuf) (S : InfoMessages) (d : InfoDelivery) (m : ProtoStreamInfoMsg) : Prop :=
  m ∈ S.msgs ∧ pb.streamInfoMsg.decode d.packet.getBody = some m ∧
    round64 (d.now - secondsOf (m.sendTime.getD 0)) < streamStateTimeoutTime

theorem timeGrows_ofInfo (hm₀ : m₀ ∈ S.msgs) (hm : Carries pb S d m) :
    (ofInfo m₀).TimeGrows pb d := by
  obtain ⟨hmem, hdec, hnew⟩ := hm
  intro s' hs
  rw [infoStep_ofInfo hdec hnew ((S.common m hmem).trans (S.common m₀ hm₀).symm)] at hs
  cases hs
  split
  · exact le_rfl
  · next h => exact not_lt.1 h

/-- A run from a message on ends with the one of the messages seen that was sent last. -/
theorem exec_ofInfo (hm₀ : m₀ ∈ S.msgs) (hds : ∀ d ∈ ds, ∃ m, Carries pb S d m) :
    ∃ m ∈ S.msgs, exec (infoStep pb) (ofInfo m₀) ds = some (ofInfo m) ∧
      secondsOf (m₀.sendTime.getD 0) ≤ secondsOf (m.sendTime.getD 0) ∧
      (∀ d ∈ ds, ∀ m', pb.streamInfoMsg.decode d.packet.getBody = some m' →
        secondsOf (m'.sendTime.getD 0) ≤ secondsOf (m.sendTime.getD 0)) ∧
      Each (infoStep pb) (TimeGrows pb) (ofInfo m₀) ds := by
  induction ds generalizing m₀ with
  | nil => exact ⟨m₀, hm₀, rfl, le_rfl, (fun d hd => absurd hd List.not_mem_nil), trivial⟩
  | cons d ds ih =>
    obtain ⟨m₁, hc⟩ := hds d (.head _)
    have hgrows := timeGrows_ofInfo hm₀ hc
    obtain ⟨hmem, hdec, hnew⟩ := hc
    have hstep : (ofInfo m₀).infoStep pb d = some (ofInfo
        (if secondsOf (m₁.sendTime.getD 0) < secondsOf (m₀.sendTime.getD 0) then m₀ else m₁)) :=
      infoStep_ofInfo hdec hnew ((S.common m₁ hmem).trans (S.common m₀ hm₀).symm)
    -- `k` is the message that is kept
    generalize hk : (if secondsOf (m₁.sendTime.getD 0) < secondsOf (m₀.sendTime.getD 0) then m₀
      else m₁) = k at hstep
    have hkept : k ∈ S.msgs ∧ secondsOf (m₀.sendTime.getD 0) ≤ secondsOf (k.sendTime.getD 0) ∧
        secondsOf (m₁.sendTime.getD 0) ≤ secondsOf (k.sendTime.getD 0) := by
      subst hk
      split
      · next h => exact ⟨hm₀, le_rfl, h.le⟩
      · next h => exact ⟨hmem, not_lt.1 h, le_rfl⟩
    obtain ⟨hkmem, hk₀, hk₁⟩ := hkept
    obtain ⟨m, hm, hexec, hle, hall, heach⟩ := ih hkmem fun d' hd => hds d' (.tail _ hd)
    refine ⟨m, hm, ?_, hk₀.trans hle, ?_, hgrows, fun s' hs => ?_⟩
    · rw [exec_cons, hstep, Option.bind_some, hexec]
    · intro d' hd m' hm'
      cases hd with
      | head =>
        rw [hdec] at hm'
        cases hm'
        exact hk₁.trans hle
      | tail _ hd => exact hall d' hd m' hm'
    · rw [hstep] at hs
      cases hs
      exact heach

/-- `m` is the message that was sent last. -/
def Newest (S : InfoMessages) (m : ProtoStreamInfoMsg) : Prop :=
  m ∈ S.msgs ∧ ∀ m' ∈ S.msgs, secondsOf (m'.sendTime.getD 0) ≤ secondsOf (m.sendTime.getD 0)

theorem Newest.unique {a b : ProtoStreamInfoMsg} (ha : Newest S a) (hb : Newest S b) : a = b :=
  S.distinct a ha.1 b hb.1 (le_antisymm (hb.2 a ha.1) (ha.2 b hb.1))

/-- The first message is taken, and the run goes on from there. -/
theorem exec_created (now : ℚ) {rest : List InfoDelivery} (h : S.Delivers pb (d :: rest)) :
    ∃ m, Newest S m ∧ exec (infoStep pb) (created now) (d :: rest) = some (ofInfo m) ∧
      ∀ s, (created now).infoStep pb d = some s → Each (infoStep pb) (TimeGrows pb) s rest := by
  obtain ⟨m₁, hmem, hdec, hnew⟩ := h.parsed d (.head _)
  have hfirst := infoStep_created now hdec hnew (by rw [S.common m₁ hmem]; exact S.ssrc_ne)
  have hrest : ∀ d' ∈ rest, ∃ m, Carries pb S d' m := fun d' hd => h.parsed d' (.tail _ hd)
  obtain ⟨m, hm, hexec, hle, hall, heach⟩ := exec_ofInfo hmem hrest
  refine ⟨m, ⟨hm, fun m' hm' => ?_⟩, ?_, fun s hs => ?_⟩
  · obtain ⟨d', hd', hdec'⟩ := h.complete m' hm'
    cases hd' with
    | head =>
      rw [hdec] at hdec'
      cases hdec'
      exact hle
    | tail _ hd' => exact hall d' hd' m' hdec'
  · rw [exec_cons, hfirst, Option.bind_some, hexec]
  · rw [hfirst] at hs
    cases hs
    exact heach

/-- Nothing is delivered of no messages, and something of any. -/
theorem delivers_nil_iff (h : S.Delivers pb ds) : ds = [] ↔ S.msgs = ∅ := by
  constructor
  · rintro rfl
    refine Finset.eq_empty_of_forall_notMem fun m hm => ?_
    obtain ⟨d, hd, -⟩ := h.complete m hm
    exact absurd hd List.not_mem_nil
  · intro hempty
    cases ds with
    | nil => rfl
    | cons d rest =>
      obtain ⟨m, hm, -⟩ := h.parsed d (.head _)
      rw [hempty] at hm
      exact absurd hm (Finset.notMem_empty m)

/-- **The status does not depend on the order of delivery**: it is that of the message sent last,
and `update_time` grows from the first message on. -/
theorem status_of_delivery (now : ℚ) (h : S.Delivers pb ds) (h' : S.Delivers pb ds') :
    exec (infoStep pb) (created now) ds = exec (infoStep pb) (created now) ds' ∧
    (∀ last ∈ S.msgs,
      (∀ m ∈ S.msgs, (m.sendTime.getD 0).toInt ≤ (last.sendTime.getD 0).toInt) →
      exec (infoStep pb) (created now) ds = some (ofInfo last)) ∧
    (∀ d rest s, ds = d :: rest → (created now).infoStep pb d = some s →
      Each (infoStep pb) (TimeGrows pb) s rest) := by
  cases ds with
  | nil =>
    have hempty := (delivers_nil_iff h).1 rfl
    have hnil := (delivers_nil_iff h').2 hempty
    refine ⟨by rw [hnil], fun last hlast => ?_, fun d rest s he => by cases he⟩
    rw [hempty] at hlast
    exact absurd hlast (Finset.notMem_empty last)
  | cons d rest =>
    cases ds' with
    | nil =>
      have hempty := (delivers_nil_iff h').1 rfl
      cases (delivers_nil_iff h).2 hempty
    | cons d' rest' =>
      obtain ⟨m, hm, hexec, heach⟩ := exec_created now h
      obtain ⟨m', hm', hexec', -⟩ := exec_created now h'
      refine ⟨?_, fun last hlast hmax => ?_, fun d₁ rest₁ s he hs => ?_⟩
      · rw [hexec, hexec', hm.unique hm']
      · have hnewest : Newest S last := ⟨hlast, fun m hm => secondsOf_mono (hmax m hm)⟩
        rw [hexec, hm.unique hnewest]
      · cases he
        exact heach s hs

/-- A message of ssrc 7, with a bit rate of its own for each time. -/
def demoInfo (sendTime : Int64) : ProtoStreamInfoMsg :=
  { ssrc := some 7, curBps := some sendTime.toUInt64.toUInt32, sendTime := some sendTime }

def demoDelivery (sendTime : Int64) : InfoDelivery where
  now := 0
  packet := { body := some (wireProtobuf.streamInfoMsg.encode (demoInfo sendTime)) }

theorem decode_demoDelivery (t : Int64) :
    wireProtobuf.streamInfoMsg.decode (demoDelivery t).packet.getBody = some (demoInfo t) :=
  wireProtobuf.streamInfoMsg.decode_encode _

/-- What is sent after 1970 is not too old in 1970. -/
theorem demoDelivery_new {t : Int64} (h : 0 ≤ t.toInt) :
    round64 ((demoDelivery t).now - secondsOf t) < streamStateTimeoutTime := by
  have hnonneg : 0 ≤ secondsOf t :=
    round64_nonneg (div_nonneg (round64_nonneg (Int.cast_nonneg h)) (by norm_num))
  have hle : (demoDelivery t).now - secondsOf t ≤ 0 := by
    show 0 - secondsOf t ≤ 0
    linarith
  exact (round64_nonpos hle).trans_lt (by norm_num [streamStateTimeoutTime])

theorem demo_seconds : secondsOf 1000 ≠ secondsOf 2000 := by decide +kernel

def demoMessages : InfoMessages where
  msgs := {demoInfo 1000, demoInfo 2000}
  ssrc := 7
  ssrc_ne := by decide
  common m hm := by
    rcases Finset.mem_insert.1 hm with rfl | hm
    · rfl
    · rw [Finset.mem_singleton.1 hm]
      rfl
  distinct a ha b hb hab := by
    rcases Finset.mem_insert.1 ha with rfl | ha
    · rcases Finset.mem_insert.1 hb with rfl | hb
      · rfl
      · cases Finset.mem_singleton.1 hb
        exact absurd hab demo_seconds
    · cases Finset.mem_singleton.1 ha
      rcases Finset.mem_insert.1 hb with rfl | hb
      · exact absurd hab.symm demo_seconds
      · cases Finset.mem_singleton.1 hb
        rfl

/-- The two messages, delivered in any order and with repetitions. -/
theorem demo_delivers {ts : List Int64} (hts : ∀ t ∈ ts, t = 1000 ∨ t = 2000)
    (h1 : 1000 ∈ ts) (h2 : 2000 ∈ ts) : demoMessages.Delivers wireProtobuf (ts.map demoDelivery) where
  parsed d hd := by
    obtain ⟨t, ht, rfl⟩ := List.mem_map.1 hd
    rcases hts t ht with rfl | rfl
    · exact ⟨_, Finset.mem_insert_self _ _, decode_demoDelivery _, demoDelivery_new (by decide)⟩
    · exact ⟨_, Finset.mem_insert_of_mem (Finset.mem_singleton_self _), decode_demoDelivery _,
        demoDelivery_new (by decide)⟩
  complete m hm := by
    rcases Finset.mem_insert.1 hm with rfl | hm
    · exact ⟨_, List.mem_map_of_mem h1, decode_demoDelivery _⟩
    · rw [Finset.mem_singleton.1 hm]
      exact ⟨_, List.mem_map_of_mem h2, decode_demoDelivery _⟩

theorem status_of_two :
    exec (infoStep wireProtobuf) (created 0) ([2000, 1000, 2000].map demoDelivery) =
      some (ofInfo (demoInfo 2000)) := by
  have hmem : ∀ t ∈ [(2000 : Int64), 1000, 2000], t = 1000 ∨ t = 2000 := by simp
  have hds := demo_delivers hmem (by simp) (by simp)
  refine (status_of_delivery 0 hds hds).2.1 _
    (Finset.mem_insert_of_mem (Finset.mem_singleton_self _)) fun m hm => ?_
  rcases Finset.mem_insert.1 hm with rfl | hm
  · decide
  · rw [Finset.mem_singleton.1 hm]

theorem large_seconds : secondsOf 9007199254740992 = secondsOf 9007199254740993 := by
  decide +kernel

/-- Of two messages of the same second the one delivered last is kept. -/
theorem exec_sameSeconds {t u : Int64} (ht : 0 ≤ t.toInt) (hu : 0 ≤ u.toInt)
    (h : secondsOf t = secondsOf u) :
    exec (infoStep wireProtobuf) (created 0) [demoDelivery t, demoDelivery u] =
      some (ofInfo (demoInfo u)) := by
  have hfirst : (created 0).infoStep wireProtobuf (demoDelivery t) = some (ofInfo (demoInfo t)) :=
    infoStep_created 0 (decode_demoDelivery t) (demoDelivery_new ht)
      (show (7 : UInt32) ≠ 0 by decide)
  have hssrc : (demoInfo u).ssrc.getD 0 = (demoInfo t).ssrc.getD 0 := rfl
  have hkept : (if secondsOf ((demoInfo u).sendTime.getD 0) < secondsOf ((demoInfo t).sendTime.getD 0)
      then demoInfo t else demoInfo u) = demoInfo u := if_neg (not_lt.2 h.le)
  rw [exec_cons, hfirst, Option.bind_some, exec_cons,
    infoStep_ofInfo (decode_demoDelivery u) (demoDelivery_new hu) hssrc, hkept]
  rfl

/-- Two messages 1 ms apart, so late that they are sent in the same second. -/
theorem large_times_in_order :
    (∀ t ∈ [(9007199254740992 : Int64), 9007199254740993],
      round64 ((demoDelivery t).now - secondsOf t) < streamStateTimeoutTime) ∧
    (demoInfo 9007199254740992).sendTime ≠ (demoInfo 9007199254740993).sendTime ∧
    exec (infoStep wireProtobuf) (created 0)
      [demoDelivery 9007199254740992, demoDelivery 9007199254740993] ≠
    exec (infoStep wireProtobuf) (created 0)
      [demoDelivery 9007199254740993, demoDelivery 9007199254740992] := by
  refine ⟨fun t ht => ?_, by decide, ?_⟩
  · rcases List.mem_cons.1 ht with rfl | ht
    · exact demoDelivery_new (by decide)
    · rw [List.mem_singleton.1 ht]
      exact demoDelivery_new (by decide)
  · rw [exec_sameSeconds (by decide) (by decide) large_seconds,
      exec_sameSeconds (by decide) (by decide) large_seconds.symm]
    intro h
    have hbps := congrArg StreamStatus.curBps (Option.some.inj h)
    exact absurd hbps (by decide)

end StreamStatus

end StreamSwitch
