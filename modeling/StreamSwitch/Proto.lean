import StreamSwitch.Defs
import StreamSwitch.Lib.Codec

/-!
# The protocol messages

The messages of `protocol/*.proto`. An `optional` field is an `Option`; the
getters (`header.getCode` for `header().code()`) give an unset field its declared
default, as the generated accessors do. Enumerations keep the values of the
`.proto` files only: the generated parser drops any other value.

Serialisation is the job of the protobuf runtime, which is not part of this
repository: `Protobuf` holds one `Codec` for each message that crosses a socket.
-/

namespace StreamSwitch

/-! ## Packets -/

inductive ProtoPacketType | request | reply | message
deriving DecidableEq, Repr

structure ProtoCommonHeader where
  version : Option UInt32 := none
  type : Option ProtoPacketType := none
  code : Option Int32 := none
  seq : Option UInt32 := none
  status : Option Int32 := none
  info : Option String := none
deriving DecidableEq, Repr

namespace ProtoCommonHeader

def getType (h : ProtoCommonHeader) : ProtoPacketType := h.type.getD .request
def getCode (h : ProtoCommonHeader) : Int32 := h.code.getD 0
def getSeq (h : ProtoCommonHeader) : UInt32 := h.seq.getD 0
def getStatus (h : ProtoCommonHeader) : Int32 := h.status.getD 200
def getInfo (h : ProtoCommonHeader) : String := h.info.getD ""

end ProtoCommonHeader

structure ProtoCommonPacket where
  header : Option ProtoCommonHeader := none
  body : Option Bytes := none
deriving DecidableEq, Repr

namespace ProtoCommonPacket

/-- `header()`: an absent header reads as the default instance. -/
def getHeader (p : ProtoCommonPacket) : ProtoCommonHeader := p.header.getD {}
def getBody (p : ProtoCommonPacket) : Bytes := p.body.getD []
def type (p : ProtoCommonPacket) : ProtoPacketType := p.getHeader.getType
def code (p : ProtoCommonPacket) : Int32 := p.getHeader.getCode
def seq (p : ProtoCommonPacket) : UInt32 := p.getHeader.getSeq
def status (p : ProtoCommonPacket) : Int32 := p.getHeader.getStatus
def info (p : ProtoCommonPacket) : String := p.getHeader.getInfo

end ProtoCommonPacket

/-- `ProtoPacketStatus`. -/
def statusOk : Int32 := 200
def statusBadRequest : Int32 := 400
def statusInternalErr : Int32 := 500

/-- `ProtoPacketCode`. -/
def codeMetadata : Int32 := 1
def codeMedia : Int32 := 2
def codeStreamInfo : Int32 := 3
def codeKeyFrame : Int32 := 4
def codeClientHeartbeat : Int32 := 5
def codeMediaStatistic : Int32 := 6
def codeClientList : Int32 := 7

/-- The reply every handler starts from: type REPLY, a status and a text, and the code and
seq of the request. -/
def replyTo (request : ProtoCommonPacket) (status : Int32) (info : String) : ProtoCommonPacket :=
  { header := some
      { type := some .reply, status := some status, info := some info,
        code := some request.code, seq := some request.seq } }

section replyTo
variable (request : ProtoCommonPacket) (status : Int32) (info : String)

@[simp] theorem replyTo_type : (replyTo request status info).type = .reply := rfl
@[simp] theorem replyTo_code : (replyTo request status info).code = request.code := rfl
@[simp] theorem replyTo_seq : (replyTo request status info).seq = request.seq := rfl
@[simp] theorem replyTo_status : (replyTo request status info).status = status := rfl

end replyTo

/-! ## Metadata -/

structure ProtoSubStreamInfo where
  index : Option Int32 := none
  mediaType : Option SubStreamMediaType := none
  codecName : Option String := none
  direction : Option SubStreamDirectionType := none
  extraData : Option Bytes := none
  height : Option UInt32 := none
  width : Option UInt32 := none
  fps : Option UInt32 := none
  gov : Option UInt32 := none
  samplesPerSecond : Option UInt32 := none
  channels : Option UInt32 := none
  bitsPerSample : Option UInt32 := none
  sampelePerFrame : Option UInt32 := none
  x : Option UInt32 := none
  y : Option UInt32 := none
  foneSize : Option UInt32 := none
  fontType : Option String := none
deriving DecidableEq, Repr

structure ProtoMetaRep where
  playType : Option StreamPlayType := none
  sourceProto : Option String := none
  streamLen : Option Double := none
  ssrc : Option UInt32 := none
  bps : Option UInt32 := none
  subStreams : List ProtoSubStreamInfo := []
deriving DecidableEq, Repr

/-! ## Media frames -/

structure ProtoMediaFrameMsg where
  streamIndex : Option Int32 := none
  sec : Option Int64 := none
  usec : Option Int32 := none
  frameType : Option MediaFrameType := none
  ssrc : Option UInt32 := none
  seq : Option UInt64 := none
  data : Option Bytes := none
deriving DecidableEq, Repr

/-! ## Stream information -/

structure ProtoStreamInfoMsg where
  state : Option SourceStreamState := none
  playType : Option StreamPlayType := none
  sourceProto : Option String := none
  ssrc : Option UInt32 := none
  curBps : Option UInt32 := none
  lastFrameSec : Option Int64 := none
  lastFrameUsec : Option Int32 := none
  sendTime : Option Int64 := none
  streamName : Option String := none
  clientNum : Option Int32 := none
deriving DecidableEq, Repr

/-! ## Media statistics -/

structure ProtoSubStreamMediaStatistic where
  subStreamIndex : Option Int32 := none
  mediaType : Option SubStreamMediaType := none
  dataBytes : Option UInt64 := none
  keyBytes : Option UInt64 := none
  lostFrames : Option UInt64 := none
  dataFrames : Option UInt64 := none
  keyFrames : Option UInt64 := none
  lastGov : Option UInt64 := none
deriving DecidableEq, Repr

structure ProtoMediaStatisticRep where
  ssrc : Option UInt32 := none
  timestamp : Option Int64 := none
  sumBytes : Option UInt64 := none
  subStreamStats : List ProtoSubStreamMediaStatistic := []
deriving DecidableEq, Repr

/-! ## Client heartbeats -/

structure ProtoClientHeartbeatReq where
  clientIpVersion : Option StreamClientIPVersion := none
  clientIp : Option String := none
  clientPort : Option Int32 := none
  clientToken : Option String := none
  clientProtocol : Option String := none
  clientText : Option String := none
  lastActiveTime : Option Int64 := none
deriving DecidableEq, Repr

structure ProtoClientHeartbeatRep where
  lease : Option Int32 := none
  timestamp : Option Int64 := none
deriving DecidableEq, Repr

/-! ## Client lists -/

structure ProtoClientListReq where
  startIndex : Option UInt32 := none
  clientNum : Option UInt32 := none
deriving DecidableEq, Repr

structure ProtoClientListRep where
  totalNum : Option UInt32 := none
  startIndex : Option UInt32 := none
  clientList : List ProtoClientHeartbeatReq := []
deriving DecidableEq, Repr

/-! ## Serialisation -/

/-- The protobuf runtime: `SerializeToString` and `ParseFromString` of each message. -/
structure Protobuf where
  commonPacket : Codec ProtoCommonPacket
  metaRep : Codec ProtoMetaRep
  mediaFrameMsg : Codec ProtoMediaFrameMsg
  streamInfoMsg : Codec ProtoStreamInfoMsg
  clientHeartbeatReq : Codec ProtoClientHeartbeatReq
  clientHeartbeatRep : Codec ProtoClientHeartbeatRep

/-- With the bodies of the query replies. -/
structure ApiProtobuf extends Protobuf where
  mediaStatisticRep : Codec ProtoMediaStatisticRep
  clientListReq : Codec ProtoClientListReq
  clientListRep : Codec ProtoClientListRep

end StreamSwitch
