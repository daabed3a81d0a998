import Mathlib.Data.List.Forall2
import StreamSwitch.Rpc.Controller

/-!
# What the two clients read from a reply

`SourceStatistic` of `stsw_stream_sink.cc`, and `get_stream_metadata` and
`get_stream_statistic` of `stream_mngr.py`: the objects that the C++ sink and the
Python controller build from a metadata reply and from a statistics reply.

`replies_alike_iff`: both read the same values from a pair of replies if and only if
no video sub-stream of the metadata has a gov and the entries of the statistics have
as many key frames as key bytes. The controller stores the gov under the name `fov`
and copies `key_bytes` into `key_frames`.
-/

namespace StreamSwitch

/-! ## The sink -/

/-- The counters that an entry of a reply describes. -/
def ProtoSubStreamMediaStatistic.toStatistic (p : ProtoSubStreamMediaStatistic) :
    SubStreamMediaStatistic :=
  { subStreamIndex := p.subStreamIndex.getD 0
    mediaType := p.mediaType.getD .video
    dataBytes := p.dataBytes.getD 0
    keyBytes := p.keyBytes.getD 0
    lostFrames := p.lostFrames.getD 0
    dataFrames := p.dataFrames.getD 0
    keyFrames := p.keyFrames.getD 0
    lastGov := p.lastGov.getD 0 }

/-- The fields of `statistic` are overwritten, the entries are appended to its list. -/
def MediaStatisticInfo.fill (statistic : MediaStatisticInfo) (rep : ProtoMediaStatisticRep) :
    MediaStatisticInfo :=
  { ssrc := rep.ssrc.getD 0
    timestamp := rep.timestamp.getD 0
    sumBytes := rep.sumBytes.getD 0
    subStreams := statistic.subStreams ++
      rep.subStreamStats.map ProtoSubStreamMediaStatistic.toStatistic }

/-- What `SourceStatistic` returns, the sink it leaves and the object behind its pointer. -/
structure StatisticQueried where
  ret : Ret
  sink : StreamSink
  statistic : Option MediaStatisticInfo

def StreamSink.sourceStatistic (statisticRep : Codec ProtoMediaStatisticRep) (s : StreamSink)
    (rpc : RpcOutcome) (statistic : Option MediaStatisticInfo) : Except Fault StatisticQueried :=
  match statistic with
  | none => .ok ⟨⟨.param, "statistic cannot be NULL"⟩, s, none⟩
  | some info =>
    let s := { s with nextSeq := s.nextSeq + 1 }
    match rpc with
    | .failed code _ errInfo => .ok ⟨⟨code, errInfo⟩, s, some info⟩
    | .interrupted => .error .nullPointer
    | .reply reply =>
      let ret := replyStatus2ErrorCode reply
      if ret.code ≠ .ok then .ok ⟨ret, s, some info⟩
      else
        match statisticRep.decode reply.getBody with
        | none => .ok ⟨⟨.parse, "reply body parse to statistic error"⟩, s, some info⟩
        | some rep => .ok ⟨⟨.ok, ""⟩, s, some (info.fill rep)⟩

/-! ## The controller -/

namespace Controller

/-- `SubStreamMetaData`. Attributes can be added by assignment: `fov` is there once it was
assigned. The class gives `font_type` the number 0, the proto message a string. -/
structure SubStreamMetaData where
  index : Int32 := 0
  mediaType : SubStreamMediaType := .video
  codecName : String := "h264"
  direction : SubStreamDirectionType := .outbound
  extraData : Bytes := []
  height : UInt32 := 0
  width : UInt32 := 0
  fps : UInt32 := 0
  gov : UInt32 := 0
  samplesPerSecond : UInt32 := 0
  channels : UInt32 := 0
  bitsPerSample : UInt32 := 0
  samplesPerFrame : UInt32 := 0
  x : UInt32 := 0
  y : UInt32 := 0
  fontSize : UInt32 := 0
  fontType : Nat ⊕ String := .inl 0
  fov : Option UInt32 := none

structure StreamMetaData where
  playType : StreamPlayType := .live
  sourceProtocol : String := ""
  streamLen : Double := ⟨0⟩
  ssrc : UInt32 := 0
  bps : UInt32 := 0
  subStreams : List SubStreamMetaData := []

structure SubStreamStatistic where
  subStreamIndex : Int32 := 0
  mediaType : SubStreamMediaType := .video
  dataBytes : UInt64 := 0
  keyBytes : UInt64 := 0
  lostFrames : UInt64 := 0
  dataFrames : UInt64 := 0
  keyFrames : UInt64 := 0
  lastGov : UInt64 := 0

structure StreamStatistic where
  ssrc : UInt32 := 0
  timestamp : Float := 0.0
  sumBytes : UInt64 := 0
  subStreamStats : List SubStreamStatistic := []

/-- The loop body of `get_stream_metadata`: assignments to a new `SubStreamMetaData()`. -/
def readSubStream (p : ProtoSubStreamInfo) : SubStreamMetaData :=
  { index := p.index.getD 0
    mediaType := p.mediaType.getD .video
    codecName := p.codecName.getD "H264"
    direction := p.direction.getD .outbound
    extraData := p.extraData.getD []
    height := p.height.getD 0
    width := p.width.getD 0
    fps := p.fps.getD 0
    fov := some (p.gov.getD 0)
    samplesPerSecond := p.samplesPerSecond.getD 0
    channels := p.channels.getD 0
    bitsPerSample := p.bitsPerSample.getD 0
    samplesPerFrame := p.sampelePerFrame.getD 0
    x := p.x.getD 0
    y := p.y.getD 0
    fontSize := p.foneSize.getD 0
    fontType := .inr (p.fontType.getD "") }

def readMetadata (rep : ProtoMetaRep) : StreamMetaData :=
  { playType := rep.playType.getD .live
    sourceProtocol := rep.sourceProto.getD ""
    streamLen := rep.streamLen.getD ⟨0⟩
    ssrc := rep.ssrc.getD 0
    bps := rep.bps.getD 0
    subStreams := rep.subStreams.map readSubStream }

/-- The loop body of `get_stream_statistic`. -/
def readSubStreamStatistic (p : ProtoSubStreamMediaStatistic) : SubStreamStatistic :=
  { subStreamIndex := p.subStreamIndex.getD 0
    mediaType := p.mediaType.getD .video
    dataBytes := p.dataBytes.getD 0
    keyBytes := p.keyBytes.getD 0
    lostFrames := p.lostFrames.getD 0
    dataFrames := p.dataFrames.getD 0
    keyFrames := p.keyBytes.getD 0
    lastGov := p.lastGov.getD 0 }

def readStatistic (rep : ProtoMediaStatisticRep) : StreamStatistic :=
  { ssrc := rep.ssrc.getD 0
    sumBytes := rep.sumBytes.getD 0
    timestamp := (rep.timestamp.getD 0).toFloat / 1000.0
    subStreamStats := rep.subStreamStats.map readSubStreamStatistic }

end Controller

namespace BaseStream

/-- An API call that reads its result from the body of the reply: `send_rpc_request` raises or
returns a reply, and `FromString` raises if the body does not parse. -/
def query {α β : Type} (s : BaseStream) (codec : Codec α) (read : α → β)
    (rpc : Except PyError ProtoCommonPacket) : Except PyError β :=
  if s.hasDestroy then .error (.streamSwitchError "stream already destroy" 503)
  else
    match rpc with
    | .error e => .error e
    | .ok reply =>
      match codec.decode reply.getBody with
      | none => .error .other
      | some rep => .ok (read rep)

def getStreamMetadata (pb : Protobuf) (s : BaseStream) (rpc : Except PyError ProtoCommonPacket) :
    Except PyError Controller.StreamMetaData :=
  s.query pb.metaRep Controller.readMetadata rpc

def getStreamStatistic (statisticRep : Codec ProtoMediaStatisticRep) (s : BaseStream)
    (rpc : Except PyError ProtoCommonPacket) : Except PyError Controller.StreamStatistic :=
  s.query statisticRep Controller.readStatistic rpc

end BaseStream

/-! ## Field by field -/

namespace Controller

/-- The parameters of the media type of `m` have the same values. -/
def ParamsAlike (m : SubStreamMetadata) (p : SubStreamMetaData) : Prop :=
  match m.mediaType with
  | .video =>
    p.height = m.mediaParam.video.height ∧ p.width = m.mediaParam.video.width ∧
      p.fps = m.mediaParam.video.fps ∧ p.gov = m.mediaParam.video.gov
  | .audio =>
    p.samplesPerSecond = m.mediaParam.audio.samplesPerSecond ∧
      p.channels = m.mediaParam.audio.channels ∧
      p.bitsPerSample = m.mediaParam.audio.bitsPerSample ∧
      p.samplesPerFrame = m.mediaParam.audio.sampelePerFrame
  | .text =>
    p.x = m.mediaParam.text.x ∧ p.y = m.mediaParam.text.y ∧
      p.fontSize = m.mediaParam.text.foneSize ∧ p.fontType = .inr m.mediaParam.text.fontType
  | .priv => True

structure SubStreamAlike (m : SubStreamMetadata) (p : SubStreamMetaData) : Prop where
  index : p.index = m.subStreamIndex
  mediaType : p.mediaType = m.mediaType
  codecName : p.codecName = m.codecName
  direction : p.direction = m.direction
  extraData : p.extraData = m.extraData
  params : ParamsAlike m p

structure MetadataAlike (m : StreamMetadata) (p : StreamMetaData) : Prop where
  playType : p.playType = m.playType
  sourceProto : p.sourceProtocol = m.sourceProto
  streamLen : p.streamLen = m.streamLen
  ssrc : p.ssrc = m.ssrc
  bps : p.bps = m.bps
  subStreams : List.Forall₂ SubStreamAlike m.subStreams p.subStreams

structure SubStreamStatisticAlike (m : SubStreamMediaStatistic) (p : SubStreamStatistic) :
    Prop where
  index : p.subStreamIndex = m.subStreamIndex
  mediaType : p.mediaType = m.mediaType
  dataBytes : p.dataBytes = m.dataBytes
  keyBytes : p.keyBytes = m.keyBytes
  lostFrames : p.lostFrames = m.lostFrames
  dataFrames : p.dataFrames = m.dataFrames
  keyFrames : p.keyFrames = m.keyFrames
  lastGov : p.lastGov = m.lastGov

/-- The timestamp of the sink counts milliseconds, the one of the controller seconds. -/
structure StatisticAlike (m : MediaStatisticInfo) (p : StreamStatistic) : Prop where
  ssrc : p.ssrc = m.ssrc
  timestamp : p.timestamp = m.timestamp.toFloat / 1000.0
  sumBytes : p.sumBytes = m.sumBytes
  subStreams : List.Forall₂ SubStreamStatisticAlike m.subStreams p.subStreamStats

/-- Only the gov of a video sub-stream is not read back. -/
theorem readSubStream_alike_iff (p : ProtoSubStreamInfo) :
    SubStreamAlike p.toSubStream (readSubStream p) ↔
      (p.mediaType.getD .video = .video → p.gov.getD 0 = 0) := by
  have hparams : ParamsAlike p.toSubStream (readSubStream p) ↔
      (p.mediaType.getD .video = .video → p.gov.getD 0 = 0) := by
    unfold ParamsAlike readSubStream ProtoSubStreamInfo.toSubStream
    cases p.mediaType.getD .video with
    | video => simp [eq_comm]
    | audio => simp
    | text => simp
    | priv => simp
  rw [← hparams]
  exact ⟨fun h => h.params, fun h => ⟨rfl, rfl, rfl, rfl, rfl, h⟩⟩

/-- The controller and a sink without sub-streams read the same metadata exactly when no video
sub-stream has a gov. -/
theorem readMetadata_alike_iff (rep : ProtoMetaRep) :
    MetadataAlike rep.metadata (readMetadata rep) ↔
      ∀ p ∈ rep.subStreams, p.mediaType.getD .video = .video → p.gov.getD 0 = 0 := by
  have hsubs : List.Forall₂ SubStreamAlike rep.metadata.subStreams (readMetadata rep).subStreams ↔
      ∀ p ∈ rep.subStreams, p.mediaType.getD .video = .video → p.gov.getD 0 = 0 := by
    unfold ProtoMetaRep.metadata readMetadata
    rw [List.forall₂_map_left_iff, List.forall₂_map_right_iff, List.forall₂_same]
    simp only [readSubStream_alike_iff]
  rw [← hsubs]
  exact ⟨fun h => h.subStreams, fun h => ⟨rfl, rfl, rfl, rfl, rfl, h⟩⟩

theorem readSubStreamStatistic_alike_iff (p : ProtoSubStreamMediaStatistic) :
    SubStreamStatisticAlike p.toStatistic (readSubStreamStatistic p) ↔
      p.keyFrames.getD 0 = p.keyBytes.getD 0 :=
  ⟨fun h => h.keyFrames.symm, fun h => ⟨rfl, rfl, rfl, rfl, rfl, rfl, h.symm, rfl⟩⟩

/-- The controller and a sink that fills an object without entries read the same statistics
exactly when each entry has as many key frames as key bytes. -/
theorem readStatistic_alike_iff (rep : ProtoMediaStatisticRep) (info : MediaStatisticInfo)
    (hinfo : info.subStreams = []) :
    StatisticAlike (info.fill rep) (readStatistic rep) ↔
      ∀ p ∈ rep.subStreamStats, p.keyFrames.getD 0 = p.keyBytes.getD 0 := by
  have hsubs : List.Forall₂ SubStreamStatisticAlike (info.fill rep).subStreams
      (readStatistic rep).subStreamStats ↔
      ∀ p ∈ rep.subStreamStats, p.keyFrames.getD 0 = p.keyBytes.getD 0 := by
    unfold MediaStatisticInfo.fill readStatistic
    rw [hinfo, List.nil_append, List.forall₂_map_left_iff, List.forall₂_map_right_iff,
      List.forall₂_same]
    simp only [readSubStreamStatistic_alike_iff]
  rw [← hsubs]
  exact ⟨fun h => h.subStreams, fun h => ⟨rfl, rfl, rfl, h⟩⟩

end Controller

/-! ## The calls -/

variable (pb : Protobuf) (statisticRep : Codec ProtoMediaStatisticRep)

/-- From every reply that describes metadata, `UpdateStreamMetaData` of a new sink and
`get_stream_metadata` of a stream that is not destroyed return the same values. -/
def MetadataReadAlike (sink : StreamSink) (stream : BaseStream) (reply : ProtoCommonPacket) :
    Prop :=
  ∀ rep, StreamSink.Describes pb (.reply reply) rep →
    ∃ r m p, sink.updateStreamMetaData pb (.reply reply) = .ok r ∧ r.ret.code = .ok ∧
      r.metadata = some m ∧ stream.getStreamMetadata pb (.ok reply) = .ok p ∧
      Controller.MetadataAlike m p

/-- Likewise for statistics that `SourceStatistic` writes into `info`. -/
def StatisticReadAlike (sink : StreamSink) (info : MediaStatisticInfo) (stream : BaseStream)
    (reply : ProtoCommonPacket) : Prop :=
  ∀ rep, reply.status = statusOk → statisticRep.decode reply.getBody = some rep →
    ∃ r m p, sink.sourceStatistic statisticRep (.reply reply) (some info) = .ok r ∧
      r.ret.code = .ok ∧ r.statistic = some m ∧
      stream.getStreamStatistic statisticRep (.ok reply) = .ok p ∧ Controller.StatisticAlike m p

/-- No video sub-stream of the metadata has a gov. -/
def NoGov (reply : ProtoCommonPacket) : Prop :=
  ∀ rep, StreamSink.Describes pb (.reply reply) rep →
    ∀ p ∈ rep.subStreams, p.mediaType.getD .video = .video → p.gov.getD 0 = 0

/-- Each entry of the statistics has as many key frames as key bytes. -/
def KeyFramesAreBytes (reply : ProtoCommonPacket) : Prop :=
  ∀ rep, reply.status = statusOk → statisticRep.decode reply.getBody = some rep →
    ∀ p ∈ rep.subStreamStats, p.keyFrames.getD 0 = p.keyBytes.getD 0

theorem BaseStream.query_ok {α β : Type} {s : BaseStream} (hs : s.hasDestroy = false)
    {codec : Codec α} (read : α → β) {reply : ProtoCommonPacket} {rep : α}
    (hd : codec.decode reply.getBody = some rep) :
    s.query codec read (.ok reply) = .ok (read rep) := by
  simp only [query, hs, hd, Bool.false_eq_true, if_false]

theorem StreamSink.sourceStatistic_ok (s : StreamSink) (info : MediaStatisticInfo)
    {reply : ProtoCommonPacket} (hst : reply.status = statusOk) {rep : ProtoMediaStatisticRep}
    (hd : statisticRep.decode reply.getBody = some rep) :
    s.sourceStatistic statisticRep (.reply reply) (some info) =
      .ok ⟨⟨.ok, ""⟩, { s with nextSeq := s.nextSeq + 1 }, some (info.fill rep)⟩ := by
  have hok := (replyStatus2ErrorCode_ok reply).2 hst
  simp only [sourceStatistic, hok, hd, ne_eq, not_true_eq_false, if_false]

theorem metadataReadAlike_iff (clientInfo : StreamClientInfo) (listener : Bool)
    {stream : BaseStream} (hs : stream.hasDestroy = false) (reply : ProtoCommonPacket) :
    MetadataReadAlike pb (StreamSink.initBase clientInfo listener) stream reply ↔
      NoGov pb reply := by
  refine forall_congr' fun rep => forall_congr' fun hd => ?_
  have hsink := StreamSink.updateStreamMetaData_of_describes
    (s := StreamSink.initBase clientInfo listener) rfl hd
  obtain ⟨reply', he, -, hdec⟩ := id hd
  cases he
  have hstream := BaseStream.query_ok hs Controller.readMetadata hdec
  rw [← Controller.readMetadata_alike_iff]
  constructor
  · rintro ⟨r, m, p, hr, -, hm, hp, ha⟩
    rw [hsink] at hr
    cases hr
    cases hm
    rw [BaseStream.getStreamMetadata, hstream] at hp
    cases hp
    rw [StreamSink.configure_of_empty rep rfl] at ha
    exact ha
  · intro ha
    refine ⟨_, _, _, hsink, rfl, rfl, hstream, ?_⟩
    rw [StreamSink.configure_of_empty rep rfl]
    exact ha

theorem statisticReadAlike_iff (sink : StreamSink) (info : MediaStatisticInfo)
    (hinfo : info.subStreams = []) {stream : BaseStream} (hs : stream.hasDestroy = false)
    (reply : ProtoCommonPacket) :
    StatisticReadAlike statisticRep sink info stream reply ↔
      KeyFramesAreBytes statisticRep reply := by
  refine forall_congr' fun rep => forall_congr' fun hst => forall_congr' fun hd => ?_
  have hsink := sink.sourceStatistic_ok statisticRep info hst hd
  have hstream := BaseStream.query_ok hs Controller.readStatistic hd
  rw [← Controller.readStatistic_alike_iff rep info hinfo]
  constructor
  · rintro ⟨r, m, p, hr, -, hm, hp, ha⟩
    rw [hsink] at hr
    cases hr
    cases hm
    rw [BaseStream.getStreamStatistic, hstream] at hp
    cases hp
    exact ha
  · exact fun ha => ⟨_, _, _, hsink, rfl, rfl, hstream, ha⟩

/-- **The two clients read a metadata reply and a statistics reply alike** exactly when no video
sub-stream has a gov and key frames and key bytes are equal in every entry. -/
theorem replies_alike_iff (clientInfo : StreamClientInfo) (listener : Bool)
    (ssrc : UInt32) (timestamp : Int64) (sumBytes : UInt64) (stream : BaseStream)
    (hs : stream.hasDestroy = false) (metaReply statisticReply : ProtoCommonPacket) :
    (MetadataReadAlike pb (StreamSink.initBase clientInfo listener) stream metaReply ∧
      StatisticReadAlike statisticRep (StreamSink.initBase clientInfo listener)
        ⟨ssrc, timestamp, sumBytes, []⟩ stream statisticReply) ↔
    NoGov pb metaReply ∧ KeyFramesAreBytes statisticRep statisticReply :=
  and_congr (metadataReadAlike_iff pb clientInfo listener hs metaReply)
    (statisticReadAlike_iff statisticRep _ _ rfl hs statisticReply)

/-- A reply whose body is the given bytes. -/
def okReply (code : Int32) (body : Bytes) : ProtoCommonPacket :=
  { header := some { type := some .reply, code := some code }, body := some body }

/-- One video sub-stream with gov 25, and one entry with 1000 key bytes in 3 key frames. -/
def govReply : ProtoCommonPacket :=
  okReply codeMetadata (wireProtobuf.metaRep.encode { subStreams := [{ gov := some 25 }] })

def keyFramesReply : ProtoCommonPacket :=
  okReply codeMediaStatistic (mediaStatisticRepFormat.codec.encode
    { subStreamStats := [{ keyBytes := some 1000, keyFrames := some 3 }] })

/-- Both kinds of replies are read with a different value in one field. -/
theorem replies_not_alike :
    ¬ MetadataReadAlike wireProtobuf (StreamSink.initBase {} true) { hasStarted := true }
        govReply ∧
      ¬ StatisticReadAlike mediaStatisticRepFormat.codec (StreamSink.initBase {} true)
        ⟨0, 0, 0, []⟩ { hasStarted := true } keyFramesReply := by
  constructor
  · rw [metadataReadAlike_iff wireProtobuf {} true rfl]
    intro h
    have hg := h { subStreams := [{ gov := some 25 }] }
      ⟨govReply, rfl, rfl, wireProtobuf.metaRep.decode_encode _⟩ _ (List.mem_singleton_self _) rfl
    exact absurd hg (by decide)
  · rw [statisticReadAlike_iff _ _ _ rfl rfl]
    intro h
    have hk := h _ rfl (mediaStatisticRepFormat.codec.decode_encode _) _
      (List.mem_singleton_self _)
    exact absurd hk (by decide)

/-- An audio sub-stream, and a sub-stream that received nothing. -/
theorem replies_alike_demo :
    MetadataReadAlike wireProtobuf (StreamSink.initBase {} true) { hasStarted := true }
        (okReply codeMetadata (wireProtobuf.metaRep.encode
          { subStreams := [{ mediaType := some .audio, channels := some 2 }] })) ∧
      StatisticReadAlike mediaStatisticRepFormat.codec (StreamSink.initBase {} true)
        ⟨0, 0, 0, []⟩ { hasStarted := true }
        (okReply codeMediaStatistic (mediaStatisticRepFormat.codec.encode
          { subStreamStats := [{ lostFrames := some 1 }] })) := by
  refine (replies_alike_iff wireProtobuf mediaStatisticRepFormat.codec {} true 0 0 0
    { hasStarted := true } rfl _ _).2 ⟨?_, ?_⟩
  · rintro rep ⟨reply, he, -, hd⟩
    cases he
    cases hd
    intro p hp
    rw [List.mem_singleton.1 hp]
    exact fun h => by cases h
  · intro rep _ hd
    cases hd
    intro p hp
    rw [List.mem_singleton.1 hp]
    rfl

end StreamSwitch
