import StreamSwitch.Source.Api

/-!
# Metadata and live frames of a stream source

`set_stream_meta`, `SendLiveMediaFrame` and `SendPublishMsg` of
`stsw_stream_source.cc`. The data of a source is the user data of its built-in API
handlers, so a stream source is an `ApiSource` over `SourceData`.

An access of a `std::vector` outside its bounds, or a `resize` to a negative
size, has no result: these calls end in a `Fault`.
-/

namespace StreamSwitch

/-- Ways in which a call does not return: an access outside a vector, `std::length_error`, a
null pointer that is dereferenced. -/
inductive Fault | outOfRange | lengthError | nullPointer
deriving DecidableEq, Repr

/-- `v[i]` for an `int` index. -/
def at? {α : Type} (v : List α) (i : Int32) : Option α :=
  if i.toInt < 0 then none else v[i.toInt.toNat]?

theorem at?_of_nonneg {α : Type} {v : List α} {i : Int32} (h : 0 ≤ i.toInt) :
    at? v i = v[i.toInt.toNat]? := if_neg (by omega)

theorem at?_of_neg {α : Type} {v : List α} {i : Int32} (h : i.toInt < 0) :
    at? v i = none := if_pos h

theorem at?_isSome {α : Type} {v : List α} {i : Int32} :
    (at? v i).isSome ↔ 0 ≤ i.toInt ∧ i.toInt < v.length := by
  by_cases h : i.toInt < 0
  · simp [at?_of_neg h]
    omega
  · rw [at?_of_nonneg (by omega), isSome_getElem?]
    omega

/-- The data of a stream source, beside its API socket. -/
structure SourceData where
  streamName : String := ""
  statistic : List SubStreamMediaStatistic := []
  streamMeta : StreamMetadata := {}
  curBytes : UInt32 := 0
  curBps : UInt32 := 0
  lastFrameSec : Int64 := 0
  lastFrameUsec : Int32 := 0
  streamState : SourceStreamState := .connecting
  receiverList : List ProtoClientHeartbeatReq := []
  lastHeartbeatTime : Int64 := 0
deriving DecidableEq, Repr

abbrev StreamSource := ApiSource SourceData

/-- A message of the publish socket: the channel, the packet and possibly a blob. -/
structure PublishMsg where
  channelName : String
  packetFrame : Bytes
  blobFrame : Option Bytes := none
deriving DecidableEq, Repr

/-- `STSW_PUBLISH_MEDIA_CHANNEL` and `STSW_PUBLISH_INFO_CHANNEL`. -/
def mediaChannel : String := "media"
def infoChannel : String := "info"

/-- A frame handed to `SendLiveMediaFrame`: its description, the memory it points to (`none` for
`NULL`) and the number of bytes to send. -/
structure LiveFrame where
  info : MediaFrameInfo
  frameData : Option Bytes := none
  frameSize : UInt64 := 0
deriving DecidableEq, Repr

/-- `frame_data` points to `frame_size` bytes. -/
def LiveFrame.DataOk (f : LiveFrame) : Prop :=
  f.frameSize ≠ 0 → ∃ b, f.frameData = some b ∧ b.length = f.frameSize.toNat

/-- The counters after one more frame, and the sequence number it is sent with. -/
def SubStreamMediaStatistic.send (st : SubStreamMediaStatistic) (type : MediaFrameType)
    (frameSize : UInt64) : SubStreamMediaStatistic × UInt64 :=
  if type = .keyFrame ∨ type = .dataFrame then
    let st := { st with
      dataFrames := st.dataFrames + 1
      dataBytes := st.dataBytes + frameSize
      lastSeq := st.lastSeq + 1 }
    let seq := st.lastSeq
    let st := if type = .keyFrame then
        -- start a new gov
        { st with
          keyFrames := st.keyFrames + 1
          keyBytes := st.keyBytes + frameSize
          lastGov := st.curGov
          curGov := 0 }
      else st
    ({ st with curGov := st.curGov + 1 }, seq)
  else
    -- no media data: reuse the seq of the previous data frame
    (st, st.lastSeq)

namespace StreamSource

variable (pb : Protobuf)

def sendPublishMsg (s : StreamSource) (channelName : String) (msg : ProtoCommonPacket)
    (extraBlob : Option Bytes) (blobSize : UInt64) : List PublishMsg :=
  if channelName = "" then []
  else if !s.isInit then []
  else
    [{ channelName := channelName
       packetFrame := pb.commonPacket.encode msg
       blobFrame := if blobSize ≠ 0 then extraBlob.map fun b => b.take blobSize.toNat else none }]

def setStreamMeta (s : StreamSource) (m : StreamMetadata) : Except Fault StreamSource :=
  let d := s.user
  if d.streamMeta.ssrc ≠ m.ssrc ∨ d.streamMeta.subStreams.length ≠ m.subStreams.length then
    let subStreamNum := int32OfSize m.subStreams.length
    if subStreamNum < 0 then .error .lengthError
    else
      let d := { d with statistic := resetStatistic m.subStreams subStreamNum.toNat }
      let d := if d.streamMeta.ssrc ≠ m.ssrc then
          { d with curBps := 0, curBytes := 0, lastFrameSec := 0, lastFrameUsec := 0 }
        else d
      .ok { s with user := { d with streamMeta := m } }
  else .ok { s with user := { d with streamMeta := m } }

/-- The media message of a frame that is sent with sequence number `seq`. -/
def mediaMsg (info : MediaFrameInfo) (seq : UInt64) : ProtoCommonPacket :=
  let mediaInfo : ProtoMediaFrameMsg :=
    { streamIndex := some info.subStreamIndex
      sec := some info.timestamp.tvSec
      usec := some info.timestamp.tvUsec.toInt32
      frameType := some info.frameType
      ssrc := some info.ssrc
      seq := some seq }
  { header := some { type := some .message, code := some codeMedia }
    body := some (pb.mediaFrameMsg.encode mediaInfo) }

/-- What `SendLiveMediaFrame` returns, leaves and publishes. -/
structure Sent where
  ret : Ret
  source : StreamSource
  published : List PublishMsg := []

def sendLiveMediaFrame (s : StreamSource) (f : LiveFrame) : Except Fault Sent :=
  let info := f.info
  let d := s.user
  let index := info.subStreamIndex
  if !s.isInit then .ok ⟨⟨.general, "Source not init"⟩, s, []⟩
  -- check metadata
  else if d.streamMeta.ssrc ≠ info.ssrc then .ok ⟨⟨.param, "ssrc not match"⟩, s, []⟩
  -- check sub stream index
  else if index.toInt ≥ int32OfSize d.streamMeta.subStreams.length then
    .ok ⟨⟨.param, s!"Sub Stream({index}) Not Found"⟩, s, []⟩
  else
    match at? d.statistic index with
    | none => .error .outOfRange
    | some st =>
      let r := st.send info.frameType f.frameSize
      let d := { d with
        curBytes := d.curBytes + f.frameSize.toUInt32
        lastFrameSec := info.timestamp.tvSec
        lastFrameUsec := info.timestamp.tvUsec.toInt32
        statistic := d.statistic.set index.toInt.toNat r.1 }
      .ok ⟨⟨.ok, ""⟩, { s with user := d },
        s.sendPublishMsg pb mediaChannel (mediaMsg pb info r.2) f.frameData f.frameSize⟩

/-! ## What one call can do -/

variable {s : StreamSource} {f : LiveFrame}

/-- The frame passes both checks of `SendLiveMediaFrame`. -/
def Passes (s : StreamSource) (f : LiveFrame) : Prop :=
  s.user.streamMeta.ssrc = f.info.ssrc ∧
    f.info.subStreamIndex.toInt < int32OfSize s.user.streamMeta.subStreams.length

instance (s : StreamSource) (f : LiveFrame) : Decidable (Passes s f) :=
  inferInstanceAs (Decidable (_ ∧ _))

/-- The source after a frame of counters `st` was accepted. -/
def accepted (s : StreamSource) (f : LiveFrame) (st : SubStreamMediaStatistic) : StreamSource :=
  { s with user := { s.user with
      curBytes := s.user.curBytes + f.frameSize.toUInt32
      lastFrameSec := f.info.timestamp.tvSec
      lastFrameUsec := f.info.timestamp.tvUsec.toInt32
      statistic := s.user.statistic.set f.info.subStreamIndex.toInt.toNat
        (st.send f.info.frameType f.frameSize).1 } }

/-- The message published for a frame of counters `st`. -/
def publishedMsg (f : LiveFrame) (st : SubStreamMediaStatistic) : PublishMsg :=
  { channelName := mediaChannel
    packetFrame := pb.commonPacket.encode
      (mediaMsg pb f.info (st.send f.info.frameType f.frameSize).2)
    blobFrame := if f.frameSize ≠ 0 then f.frameData.map fun b => b.take f.frameSize.toNat
      else none }

/-- Metadata of the same ssrc and as many sub-streams keeps the counters. -/
theorem setStreamMeta_of_same {m : StreamMetadata} (hs : s.user.streamMeta.ssrc = m.ssrc)
    (hl : s.user.streamMeta.subStreams.length = m.subStreams.length) :
    setStreamMeta s m = .ok { s with user := { s.user with streamMeta := m } } := by
  unfold setStreamMeta
  rw [if_neg]
  rintro (h | h)
  · exact h hs
  · exact h hl

/-- Other metadata resets them. -/
theorem setStreamMeta_of_changed {m : StreamMetadata}
    (h : ¬ (s.user.streamMeta.ssrc = m.ssrc ∧
      s.user.streamMeta.subStreams.length = m.subStreams.length))
    (hn : 0 ≤ int32OfSize m.subStreams.length) :
    ∃ s', setStreamMeta s m = .ok s' ∧ s'.isInit = s.isInit ∧ s'.user.streamMeta = m ∧
      s'.user.statistic = resetStatistic m.subStreams (int32OfSize m.subStreams.length).toNat := by
  unfold setStreamMeta
  generalize int32OfSize m.subStreams.length = n at hn ⊢
  simp only
  rw [if_pos (not_and_or.1 h), if_neg (by omega)]
  refine ⟨_, rfl, rfl, rfl, ?_⟩
  split <;> rfl

theorem setStreamMeta_of_negative {m : StreamMetadata}
    (h : ¬ (s.user.streamMeta.ssrc = m.ssrc ∧
      s.user.streamMeta.subStreams.length = m.subStreams.length))
    (hn : int32OfSize m.subStreams.length < 0) : setStreamMeta s m = .error .lengthError := by
  unfold setStreamMeta
  simp only
  rw [if_pos (not_and_or.1 h), if_pos hn]

theorem setStreamMeta_ok {s' : StreamSource} {m : StreamMetadata}
    (h : setStreamMeta s m = .ok s') : s'.isInit = s.isInit ∧ s'.user.streamMeta = m := by
  by_cases hc : s.user.streamMeta.ssrc = m.ssrc ∧
      s.user.streamMeta.subStreams.length = m.subStreams.length
  · rw [setStreamMeta_of_same hc.1 hc.2] at h
    cases h
    exact ⟨rfl, rfl⟩
  · by_cases hn : int32OfSize m.subStreams.length < 0
    · rw [setStreamMeta_of_negative hc hn] at h
      cases h
    · obtain ⟨s1, h1, h2, h3, -⟩ := setStreamMeta_of_changed hc (by omega)
      rw [h1] at h
      cases h
      exact ⟨h2, h3⟩

/-- Only the data of the source change. -/
theorem setStreamMeta_user {s' : StreamSource} {m : StreamMetadata}
    (h : setStreamMeta s m = .ok s') : s' = { s with user := s'.user } := by
  unfold setStreamMeta at h
  simp only at h
  split at h
  · split at h
    · cases h
    · cases h
      rfl
  · cases h
    rfl

/-- A frame that fails a check is refused and changes nothing. -/
theorem sendLiveMediaFrame_of_not_passes (hi : s.isInit = true) (h : ¬ Passes s f) :
    ∃ info, sendLiveMediaFrame pb s f = .ok ⟨⟨.param, info⟩, s, []⟩ := by
  simp only [sendLiveMediaFrame, hi, Bool.not_true, Bool.false_eq_true, if_false]
  by_cases h1 : s.user.streamMeta.ssrc = f.info.ssrc
  · have h2 : f.info.subStreamIndex.toInt ≥ int32OfSize s.user.streamMeta.subStreams.length := by
      by_contra hlt
      exact h ⟨h1, by omega⟩
    rw [if_neg (by simpa using h1), if_pos h2]
    exact ⟨_, rfl⟩
  · rw [if_pos h1]
    exact ⟨_, rfl⟩

theorem sendLiveMediaFrame_of_passes (hi : s.isInit = true) (h : Passes s f) :
    sendLiveMediaFrame pb s f =
      match at? s.user.statistic f.info.subStreamIndex with
      | none => .error .outOfRange
      | some st => .ok ⟨⟨.ok, ""⟩, accepted s f st, [publishedMsg pb f st]⟩ := by
  obtain ⟨h1, h2⟩ := h
  simp only [sendLiveMediaFrame, hi, Bool.not_true, Bool.false_eq_true, if_false]
  rw [if_neg (by simpa using h1), if_neg (by omega)]
  cases at? s.user.statistic f.info.subStreamIndex with
  | none => rfl
  | some st =>
    simp only [accepted, publishedMsg, sendPublishMsg, hi, Bool.not_true, Bool.false_eq_true,
      if_false, mediaChannel]
    rfl

/-- **Inversion of a call that returns**: it was refused and changed nothing, or it passed the
checks, found the counters of its sub-stream, and published one message. -/
theorem sendLiveMediaFrame_cases {pb : Protobuf} (hi : s.isInit = true) {r : Sent}
    (h : sendLiveMediaFrame pb s f = .ok r) :
    (¬ Passes s f ∧ r.ret.code = .param ∧ r.source = s ∧ r.published = []) ∨
    (Passes s f ∧ r.ret.code = .ok ∧ ∃ st,
      at? s.user.statistic f.info.subStreamIndex = some st ∧ r.source = accepted s f st ∧
      r.published = [publishedMsg pb f st]) := by
  by_cases hp : Passes s f
  · rw [sendLiveMediaFrame_of_passes pb hi hp] at h
    cases hst : at? s.user.statistic f.info.subStreamIndex with
    | none => rw [hst] at h; cases h
    | some st =>
      rw [hst] at h
      cases h
      exact .inr ⟨hp, rfl, st, rfl, rfl, rfl⟩
  · obtain ⟨info, he⟩ := sendLiveMediaFrame_of_not_passes pb hi hp
    rw [he] at h
    cases h
    exact .inl ⟨hp, rfl, rfl, rfl⟩

end StreamSource

end StreamSwitch
