import StreamSwitch.Source.Media

/-!
# Media frames at a stream sink

The state of a `StreamSink` and the way a published message takes through it:
`OnSubRead`, `OnSubMsg` and `MediaFrameHandler` of `stsw_stream_sink.cc`. What the
sink tells its listener is collected as `SinkCallback`s.
-/

namespace StreamSwitch

open ReqRep

/-- A subscriber handler: the built-in one, or one of the application. -/
inductive SinkSubHandler | mediaFrame | application (id : Nat)
deriving DecidableEq, Repr

structure SinkSubHandlerEntry where
  handler : SinkSubHandler
  channelName : String
deriving DecidableEq, Repr

/-- The state of a sink. The cached API socket is part of the RPC model. -/
structure StreamSink where
  isInit : Bool := false
  isStarted : Bool := false
  /-- `worker_thread_id_ != 0`. -/
  workerThread : Bool := false
  /-- `subscriber_socket_ != NULL`. -/
  subscriberSocket : Bool := false
  clientHearbeatSocket : Option (ReqSocket Bytes) := none
  nextSeq : UInt32 := 1
  subsriberHandlerMap : Int32 → Option SinkSubHandlerEntry := fun _ => none
  statistic : List SubStreamMediaStatistic := []
  streamMeta : StreamMetadata := {}
  lastSendClientHeartbeatMsec : Int := 0
  nextSendClientHeartbeatMsec : Int := 0
  clientInfo : StreamClientInfo := {}
  /-- `listener_ != NULL`. -/
  hasListener : Bool := false
  lastFrameSsrc : UInt32 := 0

/-- What the sink calls back. -/
inductive SinkCallback
  | onLiveMediaFrame (info : MediaFrameInfo) (frameData : Option Bytes) (frameSize : UInt64)
  | onMetadataMismatch (ssrc : UInt32)
  | subHandler (id : Nat) (msg : ProtoCommonPacket) (extraBlob : Option Bytes)
deriving DecidableEq, Repr

/-- The counters after a received frame with sequence number `seq`. -/
def SubStreamMediaStatistic.receive (st : SubStreamMediaStatistic) (type : MediaFrameType)
    (frameSize seq : UInt64) : SubStreamMediaStatistic :=
  if type = .keyFrame ∨ type = .dataFrame then
    let st := { st with
      dataFrames := st.dataFrames + 1
      dataBytes := st.dataBytes + frameSize }
    let st := if st.lastSeq ≠ 0 ∧ seq > st.lastSeq + 1 then
        { st with lostFrames := st.lostFrames + (seq - (st.lastSeq + 1)) }
      else st
    let st := { st with lastSeq := seq }
    let st := if type = .keyFrame then
        -- start a new gov
        { st with
          keyFrames := st.keyFrames + 1
          keyBytes := st.keyBytes + frameSize
          lastGov := st.curGov
          curGov := 0 }
      else st
    { st with curGov := st.curGov + 1 }
  else st

section receive
variable {st : SubStreamMediaStatistic} {type : MediaFrameType}
  (ht : type = .keyFrame ∨ type = .dataFrame) (frameSize seq : UInt64)
include ht

theorem SubStreamMediaStatistic.receive_dataFrames :
    (st.receive type frameSize seq).dataFrames = st.dataFrames + 1 := by
  simp only [receive, if_pos ht]
  repeat' split
  all_goals rfl

theorem SubStreamMediaStatistic.receive_lastSeq :
    (st.receive type frameSize seq).lastSeq = seq := by
  simp only [receive, if_pos ht]
  repeat' split
  all_goals rfl

/-- Numbers that were skipped are counted as lost, unless this is the first frame. -/
theorem SubStreamMediaStatistic.receive_lostFrames :
    (st.receive type frameSize seq).lostFrames =
      if st.lastSeq ≠ 0 ∧ seq > st.lastSeq + 1 then st.lostFrames + (seq - (st.lastSeq + 1))
      else st.lostFrames := by
  simp only [receive, if_pos ht]
  by_cases hg : st.lastSeq ≠ 0 ∧ seq > st.lastSeq + 1
  · simp only [if_pos hg]
    split <;> rfl
  · simp only [if_neg hg]
    split <;> rfl

end receive

/-- The frame description that a media message carries, with the proto's defaults. -/
def ProtoMediaFrameMsg.frameInfo (m : ProtoMediaFrameMsg) : MediaFrameInfo :=
  { subStreamIndex := m.streamIndex.getD 0
    frameType := m.frameType.getD .keyFrame
    ssrc := m.ssrc.getD 0
    timestamp := { tvSec := m.sec.getD 0, tvUsec := (m.usec.getD 0).toInt64 } }

/-- `blob_size` of a blob pointer. -/
def blobSize (blob : Option Bytes) : UInt64 := UInt64.ofNat (blob.getD []).length

/-- The blob of a received message; an empty frame reads as no blob. -/
def PublishMsg.extraBlob (m : PublishMsg) : Option Bytes :=
  match m.blobFrame with
  | some (b :: bs) => some (b :: bs)
  | _ => none

namespace StreamSink

variable (pb : Protobuf)

/-- What a message handler returns, leaves and calls back. -/
structure Handled where
  ret : ErrorCode := .ok
  sink : StreamSink
  callbacks : List SinkCallback := []

/-- The counters of all sub-streams after an accepted frame; only a frame with media data touches
them. -/
def countFrame (s : StreamSink) (info : MediaFrameInfo) (frameSize seq : UInt64) :
    Except Fault (List SubStreamMediaStatistic) :=
  if info.frameType = .keyFrame ∨ info.frameType = .dataFrame then
    match at? s.statistic info.subStreamIndex with
    | none => .error .outOfRange
    | some st => .ok (s.statistic.set info.subStreamIndex.toInt.toNat
        (st.receive info.frameType frameSize seq))
  else .ok s.statistic

def mediaFrameHandler (s : StreamSink) (msg : ProtoCommonPacket) (extraBlob : Option Bytes) :
    Except Fault Handled :=
  match pb.mediaFrameMsg.decode msg.getBody with
  | none => .ok { ret := .parse, sink := s }
  | some frameMsg =>
    let info := frameMsg.frameInfo
    let frameSize := blobSize extraBlob
    let seq := frameMsg.seq.getD 0
    if s.streamMeta.ssrc ≠ info.ssrc then
      -- tell the listener about each mismatching ssrc only once in a row
      if info.ssrc ≠ s.lastFrameSsrc then
        .ok { sink := { s with lastFrameSsrc := info.ssrc }
              callbacks := if s.hasListener then [.onMetadataMismatch info.ssrc] else [] }
      else .ok { sink := s }
    else if info.subStreamIndex.toInt < 0 ∨
        info.subStreamIndex.toInt ≥ int32OfSize s.streamMeta.subStreams.length then
      .ok { sink := s }
    else
      (s.countFrame info frameSize seq).map fun statistic =>
        { sink := { s with statistic := statistic }
          callbacks := if s.hasListener then [.onLiveMediaFrame info extraBlob frameSize] else [] }

def onSubMsg (s : StreamSink) (channelName : String) (msg : ProtoCommonPacket)
    (extraBlob : Option Bytes) : Except Fault Handled :=
  match s.subsriberHandlerMap msg.code with
  | none => .ok { sink := s }
  | some entry =>
    if entry.channelName = channelName then
      match entry.handler with
      | .mediaFrame => s.mediaFrameHandler pb msg extraBlob
      | .application id => .ok { sink := s, callbacks := [.subHandler id msg extraBlob] }
    else .ok { sink := s }

/-- A message arrives at the subscriber socket. -/
def onSubRead (s : StreamSink) (m : PublishMsg) : Except Fault Handled :=
  match pb.commonPacket.decode m.packetFrame with
  | none => .ok { sink := s }
  | some msg => s.onSubMsg pb m.channelName msg m.extraBlob

/-! ## What the frame handler does -/

variable {pb}

/-- The frame passes the checks of `MediaFrameHandler`. -/
def Accepts (s : StreamSink) (info : MediaFrameInfo) : Prop :=
  s.streamMeta.ssrc = info.ssrc ∧ 0 ≤ info.subStreamIndex.toInt ∧
    info.subStreamIndex.toInt < int32OfSize s.streamMeta.subStreams.length

/-- The sink routes media messages to its frame handler, as `InitBase` sets it up. -/
def RoutesMedia (s : StreamSink) : Prop :=
  s.subsriberHandlerMap codeMedia = some ⟨.mediaFrame, mediaChannel⟩

/-- A frame that is not accepted leaves everything but `last_frame_ssrc_` as it is. -/
theorem mediaFrameHandler_of_not_accepts {s : StreamSink} {msg : ProtoCommonPacket}
    (blob : Option Bytes) {m : ProtoMediaFrameMsg}
    (hm : pb.mediaFrameMsg.decode msg.getBody = some m) (h : ¬ s.Accepts m.frameInfo) :
    ∃ r, s.mediaFrameHandler pb msg blob = .ok r ∧ r.ret = .ok ∧
      ∃ ssrc, r.sink = { s with lastFrameSsrc := ssrc } := by
  simp only [mediaFrameHandler, hm]
  split
  · split
    · exact ⟨_, rfl, rfl, _, rfl⟩
    · exact ⟨_, rfl, rfl, s.lastFrameSsrc, rfl⟩
  · next h1 =>
    rw [if_pos]
    · exact ⟨_, rfl, rfl, s.lastFrameSsrc, rfl⟩
    · by_contra hno
      exact h ⟨by simpa using h1, by omega, by omega⟩

/-- Receiving a frame of any type updates the counters of its sub-stream. -/
theorem countFrame_of_some {s : StreamSink} {info : MediaFrameInfo} (frameSize seq : UInt64)
    (h : 0 ≤ info.subStreamIndex.toInt) {st : SubStreamMediaStatistic}
    (hst : s.statistic[info.subStreamIndex.toInt.toNat]? = some st) :
    s.countFrame info frameSize seq = .ok (s.statistic.set info.subStreamIndex.toInt.toNat
      (st.receive info.frameType frameSize seq)) := by
  unfold countFrame
  rw [at?_of_nonneg h, hst]
  split
  · rfl
  · next ht =>
    rw [SubStreamMediaStatistic.receive, if_neg ht]
    obtain ⟨hlt, he⟩ := List.getElem?_eq_some_iff.1 hst
    rw [← he, List.set_getElem_self]

theorem mediaFrameHandler_of_accepts {s : StreamSink} {msg : ProtoCommonPacket}
    (blob : Option Bytes) {m : ProtoMediaFrameMsg}
    (hm : pb.mediaFrameMsg.decode msg.getBody = some m) (h : s.Accepts m.frameInfo) :
    s.mediaFrameHandler pb msg blob =
      (s.countFrame m.frameInfo (blobSize blob) (m.seq.getD 0)).map fun statistic =>
        { sink := { s with statistic := statistic }
          callbacks := if s.hasListener then
            [.onLiveMediaFrame m.frameInfo blob (blobSize blob)] else [] } := by
  obtain ⟨h1, h2, h3⟩ := h
  simp only [mediaFrameHandler, hm]
  rw [if_neg (by simpa using h1), if_neg (by omega)]

/-- A media message of a source reaches the frame handler. -/
theorem onSubRead_mediaMsg {s : StreamSink} (hr : s.RoutesMedia) {m : PublishMsg}
    {info : MediaFrameInfo} {seq : UInt64} (hc : m.channelName = mediaChannel)
    (hp : m.packetFrame = pb.commonPacket.encode (StreamSource.mediaMsg pb info seq)) :
    s.onSubRead pb m =
      s.mediaFrameHandler pb (StreamSource.mediaMsg pb info seq) m.extraBlob := by
  have hcode : (StreamSource.mediaMsg pb info seq).code = codeMedia := rfl
  unfold RoutesMedia at hr
  simp only [onSubRead, hp, Codec.decode_encode, onSubMsg, hcode, hr, hc, if_true]

/-- What the frame handler can do: refuse the message, note another ssrc, or count the frame and
hand it on. -/
theorem mediaFrameHandler_cases {s : StreamSink} {msg : ProtoCommonPacket} {blob : Option Bytes}
    {r : Handled} (h : s.mediaFrameHandler pb msg blob = .ok r) :
    (∃ ssrc, r.sink = { s with lastFrameSsrc := ssrc } ∧
      ∀ cb ∈ r.callbacks, ∃ ssrc, cb = .onMetadataMismatch ssrc) ∨
    (∃ m statistic, s.Accepts (ProtoMediaFrameMsg.frameInfo m) ∧
      pb.mediaFrameMsg.decode msg.getBody = some m ∧
      s.countFrame m.frameInfo (blobSize blob) (m.seq.getD 0) = .ok statistic ∧
      r.sink = { s with statistic := statistic } ∧
      r.callbacks = if s.hasListener then
        [.onLiveMediaFrame m.frameInfo blob (blobSize blob)] else []) := by
  cases hm : pb.mediaFrameMsg.decode msg.getBody with
  | none =>
    simp only [mediaFrameHandler, hm] at h
    cases h
    exact .inl ⟨s.lastFrameSsrc, rfl, fun cb hcb => by cases hcb⟩
  | some m =>
    by_cases ha : s.Accepts m.frameInfo
    · rw [mediaFrameHandler_of_accepts blob hm ha] at h
      cases hc : s.countFrame m.frameInfo (blobSize blob) (m.seq.getD 0) with
      | error fault => rw [hc] at h; cases h
      | ok statistic =>
        rw [hc] at h
        cases h
        exact .inr ⟨m, statistic, ha, rfl, hc, rfl, rfl⟩
    · refine .inl ?_
      simp only [mediaFrameHandler, hm] at h
      split at h
      · split at h
        · cases h
          refine ⟨_, rfl, fun cb hcb => ?_⟩
          simp only at hcb
          split at hcb
          · exact ⟨_, List.mem_singleton.1 hcb⟩
          · cases hcb
        · cases h
          exact ⟨s.lastFrameSsrc, rfl, fun cb hcb => by cases hcb⟩
      · next h1 =>
        split at h
        · cases h
          exact ⟨s.lastFrameSsrc, rfl, fun cb hcb => by cases hcb⟩
        · next h2 => exact absurd ⟨by simpa using h1, by omega, by omega⟩ ha

/-- A message changes nothing but the counters and the last ssrc. -/
theorem onSubRead_sink {s : StreamSink} {m : PublishMsg} {r : Handled}
    (h : s.onSubRead pb m = .ok r) :
    ∃ statistic ssrc, r.sink = { s with statistic := statistic, lastFrameSsrc := ssrc } := by
  unfold onSubRead at h
  split at h
  · cases h
    exact ⟨s.statistic, s.lastFrameSsrc, rfl⟩
  · unfold onSubMsg at h
    split at h
    · cases h
      exact ⟨s.statistic, s.lastFrameSsrc, rfl⟩
    · split at h
      · split at h
        · rcases mediaFrameHandler_cases h with ⟨ssrc, h1, -⟩ | ⟨-, statistic, -, -, -, h1, -⟩
          · exact ⟨s.statistic, ssrc, h1⟩
          · exact ⟨statistic, s.lastFrameSsrc, h1⟩
        · cases h
          exact ⟨s.statistic, s.lastFrameSsrc, rfl⟩
      · cases h
        exact ⟨s.statistic, s.lastFrameSsrc, rfl⟩

/-- A message makes the sink hand out the frame that it accepted, or no frame at all. -/
theorem onSubRead_callbacks {s : StreamSink} {m : PublishMsg} {r : Handled}
    (h : s.onSubRead pb m = .ok r) :
    (∀ info data size, .onLiveMediaFrame info data size ∉ r.callbacks) ∨
    (∃ msg, s.Accepts (ProtoMediaFrameMsg.frameInfo msg) ∧
      r.callbacks = [.onLiveMediaFrame msg.frameInfo m.extraBlob (blobSize m.extraBlob)]) := by
  unfold onSubRead at h
  split at h
  · cases h
    exact .inl fun _ _ _ hcb => by cases hcb
  · unfold onSubMsg at h
    split at h
    · cases h
      exact .inl fun _ _ _ hcb => by cases hcb
    · split at h
      · split at h
        · rcases mediaFrameHandler_cases h with ⟨-, -, hall⟩ | ⟨msg, -, ha, -, -, -, hcb⟩
          · refine .inl fun info data size hcb => ?_
            obtain ⟨ssrc, he⟩ := hall _ hcb
            cases he
          · split at hcb
            · exact .inr ⟨msg, ha, hcb⟩
            · rw [hcb]
              exact .inl fun _ _ _ hcb => by cases hcb
        · cases h
          refine .inl fun _ _ _ hcb => ?_
          cases List.mem_singleton.1 hcb
      · cases h
        exact .inl fun _ _ _ hcb => by cases hcb

end StreamSink

end StreamSwitch
