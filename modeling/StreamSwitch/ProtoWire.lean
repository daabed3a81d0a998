import StreamSwitch.Proto
import StreamSwitch.Lib.Wire

/-!
# The messages on the wire

One protobuf runtime in the sense of `Protobuf`: the field numbers, wire types and
enumeration values of `protocol/*.proto` over the format of `Lib/Wire.lean`. Every
law of `Protobuf` is met, so the results that assume a runtime assume nothing
impossible; concrete runs are evaluated with this one.
-/

namespace StreamSwitch

open Wire

/-! ## Enumerations -/

def packetTypeScalar : Scalar ProtoPacketType :=
  .enum (fun | .request => 0 | .reply => 1 | .message => 2)
    (fun | 0 => some .request | 1 => some .reply | 2 => some .message | _ => none)
    (fun a => by cases a <;> rfl)

def playTypeScalar : Scalar StreamPlayType :=
  .enum (fun | .live => 0 | .replay => 1)
    (fun | 0 => some .live | 1 => some .replay | _ => none)
    (fun a => by cases a <;> rfl)

def mediaTypeScalar : Scalar SubStreamMediaType :=
  .enum (fun | .video => 0 | .audio => 1 | .text => 2 | .priv => 3)
    (fun | 0 => some .video | 1 => some .audio | 2 => some .text | 3 => some .priv | _ => none)
    (fun a => by cases a <;> rfl)

def directionScalar : Scalar SubStreamDirectionType :=
  .enum (fun | .outbound => 0 | .inbound => 1)
    (fun | 0 => some .outbound | 1 => some .inbound | _ => none)
    (fun a => by cases a <;> rfl)

def frameTypeScalar : Scalar MediaFrameType :=
  .enum (fun | .keyFrame => 0 | .dataFrame => 1 | .paramFrame => 2 | .eofFrame => 256)
    (fun
      | 0 => some .keyFrame
      | 1 => some .dataFrame
      | 2 => some .paramFrame
      | 256 => some .eofFrame
      | _ => none)
    (fun a => by cases a <;> rfl)

def ipVersionScalar : Scalar StreamClientIPVersion :=
  .enum (fun | .v4 => 0 | .v6 => 1)
    (fun | 0 => some .v4 | 1 => some .v6 | _ => none)
    (fun a => by cases a <;> rfl)

/-- Negative values are written as 64-bit two's complement. -/
def streamStateScalar : Scalar SourceStreamState :=
  .enum
    (fun
      | .connecting => 0
      | .ok => 1
      | .err => 2 ^ 64 - 1
      | .errConnectFail => 2 ^ 64 - 2
      | .errMeidaStop => 2 ^ 64 - 3
      | .errTime => 2 ^ 64 - 4
      | .errTimeout => 2 ^ 64 - 255)
    (fun n =>
      if n = 0 then some .connecting
      else if n = 1 then some .ok
      else if n = 2 ^ 64 - 1 then some .err
      else if n = 2 ^ 64 - 2 then some .errConnectFail
      else if n = 2 ^ 64 - 3 then some .errMeidaStop
      else if n = 2 ^ 64 - 4 then some .errTime
      else if n = 2 ^ 64 - 255 then some .errTimeout
      else none)
    (fun a => by cases a <;> rfl)

def doubleScalar : Scalar Double where
  write d := .fixed64 d.bits
  read x := (Scalar.fixed64.read x).map Double.mk
  read_write _ := rfl

/-! ## Packets -/

def headerFormat : Format ProtoCommonHeader where
  fields m :=
    opt 1 .uint32 m.version ++ (opt 2 packetTypeScalar m.type ++ (opt 3 .int32 m.code ++
      (opt 4 .uint32 m.seq ++ (opt 5 .int32 m.status ++ (opt 6 .string m.info ++ [])))))
  empty := {}
  add m f :=
    match f.number with
    | 1 => store .uint32 f.value m fun a => { m with version := some a }
    | 2 => store packetTypeScalar f.value m fun a => { m with type := some a }
    | 3 => store .int32 f.value m fun a => { m with code := some a }
    | 4 => store .uint32 f.value m fun a => { m with seq := some a }
    | 5 => store .int32 f.value m fun a => { m with status := some a }
    | 6 => store .string f.value m fun a => { m with info := some a }
    | _ => some m
  law m := by
    rw [foldlM_opt (fun m o => { m with version := o }) m.version _ rfl (fun _ => store_write ..),
      foldlM_opt (fun m o => { m with type := o }) m.type _ rfl (fun _ => store_write ..),
      foldlM_opt (fun m o => { m with code := o }) m.code _ rfl (fun _ => store_write ..),
      foldlM_opt (fun m o => { m with seq := o }) m.seq _ rfl (fun _ => store_write ..),
      foldlM_opt (fun m o => { m with status := o }) m.status _ rfl (fun _ => store_write ..),
      foldlM_opt (fun m o => { m with info := o }) m.info _ rfl (fun _ => store_write ..)]
    rfl

/-- A header that does not parse makes the packet not parse. -/
def packetFormat : Format ProtoCommonPacket where
  fields m := opt 1 (.message headerFormat.codec) m.header ++ (opt 2 .bytes m.body ++ [])
  empty := {}
  add m f :=
    match f.number with
    | 1 => ((Scalar.message headerFormat.codec).read f.value).map fun a =>
      { m with header := some a }
    | 2 => store .bytes f.value m fun a => { m with body := some a }
    | _ => some m
  law m := by
    rw [foldlM_opt (fun m o => { m with header := o }) m.header _ rfl (fun a => by
        simp only [Scalar.read_write, Option.map_some]),
      foldlM_opt (fun m o => { m with body := o }) m.body _ rfl (fun _ => store_write ..)]
    rfl

/-! ## Metadata -/

def subStreamFormat : Format ProtoSubStreamInfo where
  fields m :=
    opt 1 .int32 m.index ++ (opt 2 mediaTypeScalar m.mediaType ++ (opt 3 .string m.codecName ++
      (opt 4 directionScalar m.direction ++ (opt 10 .bytes m.extraData ++
      (opt 20 .uint32 m.height ++ (opt 21 .uint32 m.width ++ (opt 22 .uint32 m.fps ++
      (opt 23 .uint32 m.gov ++ (opt 30 .uint32 m.samplesPerSecond ++
      (opt 31 .uint32 m.channels ++ (opt 32 .uint32 m.bitsPerSample ++
      (opt 33 .uint32 m.sampelePerFrame ++ (opt 40 .uint32 m.x ++ (opt 41 .uint32 m.y ++
      (opt 42 .uint32 m.foneSize ++ (opt 43 .string m.fontType ++ []))))))))))))))))
  empty := {}
  add m f :=
    match f.number with
    | 1 => store .int32 f.value m fun a => { m with index := some a }
    | 2 => store mediaTypeScalar f.value m fun a => { m with mediaType := some a }
    | 3 => store .string f.value m fun a => { m with codecName := some a }
    | 4 => store directionScalar f.value m fun a => { m with direction := some a }
    | 10 => store .bytes f.value m fun a => { m with extraData := some a }
    | 20 => store .uint32 f.value m fun a => { m with height := some a }
    | 21 => store .uint32 f.value m fun a => { m with width := some a }
    | 22 => store .uint32 f.value m fun a => { m with fps := some a }
    | 23 => store .uint32 f.value m fun a => { m with gov := some a }
    | 30 => store .uint32 f.value m fun a => { m with samplesPerSecond := some a }
    | 31 => store .uint32 f.value m fun a => { m with channels := some a }
    | 32 => store .uint32 f.value m fun a => { m with bitsPerSample := some a }
    | 33 => store .uint32 f.value m fun a => { m with sampelePerFrame := some a }
    | 40 => store .uint32 f.value m fun a => { m with x := some a }
    | 41 => store .uint32 f.value m fun a => { m with y := some a }
    | 42 => store .uint32 f.value m fun a => { m with foneSize := some a }
    | 43 => store .string f.value m fun a => { m with fontType := some a }
    | _ => some m
  law m := by
    rw [foldlM_opt (fun m o => { m with index := o }) m.index _ rfl (fun _ => store_write ..),
      foldlM_opt (fun m o => { m with mediaType := o }) m.mediaType _ rfl
        (fun _ => store_write ..),
      foldlM_opt (fun m o => { m with codecName := o }) m.codecName _ rfl
        (fun _ => store_write ..),
      foldlM_opt (fun m o => { m with direction := o }) m.direction _ rfl
        (fun _ => store_write ..),
      foldlM_opt (fun m o => { m with extraData := o }) m.extraData _ rfl
        (fun _ => store_write ..),
      foldlM_opt (fun m o => { m with height := o }) m.height _ rfl (fun _ => store_write ..),
      foldlM_opt (fun m o => { m with width := o }) m.width _ rfl (fun _ => store_write ..),
      foldlM_opt (fun m o => { m with fps := o }) m.fps _ rfl (fun _ => store_write ..),
      foldlM_opt (fun m o => { m with gov := o }) m.gov _ rfl (fun _ => store_write ..),
      foldlM_opt (fun m o => { m with samplesPerSecond := o }) m.samplesPerSecond _ rfl
        (fun _ => store_write ..),
      foldlM_opt (fun m o => { m with channels := o }) m.channels _ rfl (fun _ => store_write ..),
      foldlM_opt (fun m o => { m with bitsPerSample := o }) m.bitsPerSample _ rfl
        (fun _ => store_write ..),
      foldlM_opt (fun m o => { m with sampelePerFrame := o }) m.sampelePerFrame _ rfl
        (fun _ => store_write ..),
      foldlM_opt (fun m o => { m with x := o }) m.x _ rfl (fun _ => store_write ..),
      foldlM_opt (fun m o => { m with y := o }) m.y _ rfl (fun _ => store_write ..),
      foldlM_opt (fun m o => { m with foneSize := o }) m.foneSize _ rfl (fun _ => store_write ..),
      foldlM_opt (fun m o => { m with fontType := o }) m.fontType _ rfl (fun _ => store_write ..)]
    rfl

/-- A sub-stream entry that does not parse makes the reply not parse. -/
def metaRepFormat : Format ProtoMetaRep where
  fields m :=
    opt 1 playTypeScalar m.playType ++ (opt 2 .string m.sourceProto ++
      (opt 3 doubleScalar m.streamLen ++ (opt 4 .uint32 m.ssrc ++ (opt 5 .uint32 m.bps ++
      rep 64 (.message subStreamFormat.codec) m.subStreams))))
  empty := {}
  add m f :=
    match f.number with
    | 1 => store playTypeScalar f.value m fun a => { m with playType := some a }
    | 2 => store .string f.value m fun a => { m with sourceProto := some a }
    | 3 => store doubleScalar f.value m fun a => { m with streamLen := some a }
    | 4 => store .uint32 f.value m fun a => { m with ssrc := some a }
    | 5 => store .uint32 f.value m fun a => { m with bps := some a }
    | 64 => ((Scalar.message subStreamFormat.codec).read f.value).map fun a =>
      { m with subStreams := m.subStreams ++ [a] }
    | _ => some m
  law m := by
    rw [foldlM_opt (fun m o => { m with playType := o }) m.playType _ rfl
        (fun _ => store_write ..),
      foldlM_opt (fun m o => { m with sourceProto := o }) m.sourceProto _ rfl
        (fun _ => store_write ..),
      foldlM_opt (fun m o => { m with streamLen := o }) m.streamLen _ rfl
        (fun _ => store_write ..),
      foldlM_opt (fun m o => { m with ssrc := o }) m.ssrc _ rfl (fun _ => store_write ..),
      foldlM_opt (fun m o => { m with bps := o }) m.bps _ rfl (fun _ => store_write ..),
      foldlM_rep (fun m l => { m with subStreams := l }) m.subStreams rfl (fun p a => by
        simp only [Scalar.read_write, Option.map_some])]

/-! ## Media frames and heartbeats -/

def mediaFrameFormat : Format ProtoMediaFrameMsg where
  fields m :=
    opt 1 .int32 m.streamIndex ++ (opt 2 .int64 m.sec ++ (opt 3 .int32 m.usec ++
      (opt 4 frameTypeScalar m.frameType ++ (opt 5 .uint32 m.ssrc ++ (opt 6 .uint64 m.seq ++
      (opt 64 .bytes m.data ++ []))))))
  empty := {}
  add m f :=
    match f.number with
    | 1 => store .int32 f.value m fun a => { m with streamIndex := some a }
    | 2 => store .int64 f.value m fun a => { m with sec := some a }
    | 3 => store .int32 f.value m fun a => { m with usec := some a }
    | 4 => store frameTypeScalar f.value m fun a => { m with frameType := some a }
    | 5 => store .uint32 f.value m fun a => { m with ssrc := some a }
    | 6 => store .uint64 f.value m fun a => { m with seq := some a }
    | 64 => store .bytes f.value m fun a => { m with data := some a }
    | _ => some m
  law m := by
    rw [foldlM_opt (fun m o => { m with streamIndex := o }) m.streamIndex _ rfl
        (fun _ => store_write ..),
      foldlM_opt (fun m o => { m with sec := o }) m.sec _ rfl (fun _ => store_write ..),
      foldlM_opt (fun m o => { m with usec := o }) m.usec _ rfl (fun _ => store_write ..),
      foldlM_opt (fun m o => { m with frameType := o }) m.frameType _ rfl
        (fun _ => store_write ..),
      foldlM_opt (fun m o => { m with ssrc := o }) m.ssrc _ rfl (fun _ => store_write ..),
      foldlM_opt (fun m o => { m with seq := o }) m.seq _ rfl (fun _ => store_write ..),
      foldlM_opt (fun m o => { m with data := o }) m.data _ rfl (fun _ => store_write ..)]
    rfl

def streamInfoFormat : Format ProtoStreamInfoMsg where
  fields m :=
    opt 1 streamStateScalar m.state ++ (opt 2 playTypeScalar m.playType ++
      (opt 3 .string m.sourceProto ++ (opt 4 .uint32 m.ssrc ++ (opt 5 .uint32 m.curBps ++
      (opt 6 .int64 m.lastFrameSec ++ (opt 7 .int32 m.lastFrameUsec ++
      (opt 8 .int64 m.sendTime ++ (opt 9 .string m.streamName ++
      (opt 10 .int32 m.clientNum ++ [])))))))))
  empty := {}
  add m f :=
    match f.number with
    | 1 => store streamStateScalar f.value m fun a => { m with state := some a }
    | 2 => store playTypeScalar f.value m fun a => { m with playType := some a }
    | 3 => store .string f.value m fun a => { m with sourceProto := some a }
    | 4 => store .uint32 f.value m fun a => { m with ssrc := some a }
    | 5 => store .uint32 f.value m fun a => { m with curBps := some a }
    | 6 => store .int64 f.value m fun a => { m with lastFrameSec := some a }
    | 7 => store .int32 f.value m fun a => { m with lastFrameUsec := some a }
    | 8 => store .int64 f.value m fun a => { m with sendTime := some a }
    | 9 => store .string f.value m fun a => { m with streamName := some a }
    | 10 => store .int32 f.value m fun a => { m with clientNum := some a }
    | _ => some m
  law m := by
    rw [foldlM_opt (fun m o => { m with state := o }) m.state _ rfl (fun _ => store_write ..),
      foldlM_opt (fun m o => { m with playType := o }) m.playType _ rfl
        (fun _ => store_write ..),
      foldlM_opt (fun m o => { m with sourceProto := o }) m.sourceProto _ rfl
        (fun _ => store_write ..),
      foldlM_opt (fun m o => { m with ssrc := o }) m.ssrc _ rfl (fun _ => store_write ..),
      foldlM_opt (fun m o => { m with curBps := o }) m.curBps _ rfl (fun _ => store_write ..),
      foldlM_opt (fun m o => { m with lastFrameSec := o }) m.lastFrameSec _ rfl
        (fun _ => store_write ..),
      foldlM_opt (fun m o => { m with lastFrameUsec := o }) m.lastFrameUsec _ rfl
        (fun _ => store_write ..),
      foldlM_opt (fun m o => { m with sendTime := o }) m.sendTime _ rfl
        (fun _ => store_write ..),
      foldlM_opt (fun m o => { m with streamName := o }) m.streamName _ rfl
        (fun _ => store_write ..),
      foldlM_opt (fun m o => { m with clientNum := o }) m.clientNum _ rfl
        (fun _ => store_write ..)]
    rfl

def heartbeatReqFormat : Format ProtoClientHeartbeatReq where
  fields m :=
    opt 1 ipVersionScalar m.clientIpVersion ++ (opt 2 .string m.clientIp ++
      (opt 3 .int32 m.clientPort ++ (opt 4 .string m.clientToken ++
      (opt 5 .string m.clientProtocol ++ (opt 6 .string m.clientText ++
      (opt 7 .int64 m.lastActiveTime ++ []))))))
  empty := {}
  add m f :=
    match f.number with
    | 1 => store ipVersionScalar f.value m fun a => { m with clientIpVersion := some a }
    | 2 => store .string f.value m fun a => { m with clientIp := some a }
    | 3 => store .int32 f.value m fun a => { m with clientPort := some a }
    | 4 => store .string f.value m fun a => { m with clientToken := some a }
    | 5 => store .string f.value m fun a => { m with clientProtocol := some a }
    | 6 => store .string f.value m fun a => { m with clientText := some a }
    | 7 => store .int64 f.value m fun a => { m with lastActiveTime := some a }
    | _ => some m
  law m := by
    rw [foldlM_opt (fun m o => { m with clientIpVersion := o }) m.clientIpVersion _ rfl
        (fun _ => store_write ..),
      foldlM_opt (fun m o => { m with clientIp := o }) m.clientIp _ rfl (fun _ => store_write ..),
      foldlM_opt (fun m o => { m with clientPort := o }) m.clientPort _ rfl
        (fun _ => store_write ..),
      foldlM_opt (fun m o => { m with clientToken := o }) m.clientToken _ rfl
        (fun _ => store_write ..),
      foldlM_opt (fun m o => { m with clientProtocol := o }) m.clientProtocol _ rfl
        (fun _ => store_write ..),
      foldlM_opt (fun m o => { m with clientText := o }) m.clientText _ rfl
        (fun _ => store_write ..),
      foldlM_opt (fun m o => { m with lastActiveTime := o }) m.lastActiveTime _ rfl
        (fun _ => store_write ..)]
    rfl

def heartbeatRepFormat : Format ProtoClientHeartbeatRep where
  fields m := opt 1 .int32 m.lease ++ (opt 2 .int64 m.timestamp ++ [])
  empty := {}
  add m f :=
    match f.number with
    | 1 => store .int32 f.value m fun a => { m with lease := some a }
    | 2 => store .int64 f.value m fun a => { m with timestamp := some a }
    | _ => some m
  law m := by
    rw [foldlM_opt (fun m o => { m with lease := o }) m.lease _ rfl (fun _ => store_write ..),
      foldlM_opt (fun m o => { m with timestamp := o }) m.timestamp _ rfl
        (fun _ => store_write ..)]
    rfl

/-! ## Media statistics -/

def subStreamStatisticFormat : Format ProtoSubStreamMediaStatistic where
  fields m :=
    opt 1 .int32 m.subStreamIndex ++ (opt 2 mediaTypeScalar m.mediaType ++
      (opt 20 .uint64 m.dataBytes ++ (opt 21 .uint64 m.keyBytes ++
      (opt 30 .uint64 m.lostFrames ++ (opt 31 .uint64 m.dataFrames ++
      (opt 32 .uint64 m.keyFrames ++ (opt 33 .uint64 m.lastGov ++ [])))))))
  empty := {}
  add m f :=
    match f.number with
    | 1 => store .int32 f.value m fun a => { m with subStreamIndex := some a }
    | 2 => store mediaTypeScalar f.value m fun a => { m with mediaType := some a }
    | 20 => store .uint64 f.value m fun a => { m with dataBytes := some a }
    | 21 => store .uint64 f.value m fun a => { m with keyBytes := some a }
    | 30 => store .uint64 f.value m fun a => { m with lostFrames := some a }
    | 31 => store .uint64 f.value m fun a => { m with dataFrames := some a }
    | 32 => store .uint64 f.value m fun a => { m with keyFrames := some a }
    | 33 => store .uint64 f.value m fun a => { m with lastGov := some a }
    | _ => some m
  law m := by
    rw [foldlM_opt (fun m o => { m with subStreamIndex := o }) m.subStreamIndex _ rfl
        (fun _ => store_write ..),
      foldlM_opt (fun m o => { m with mediaType := o }) m.mediaType _ rfl
        (fun _ => store_write ..),
      foldlM_opt (fun m o => { m with dataBytes := o }) m.dataBytes _ rfl
        (fun _ => store_write ..),
      foldlM_opt (fun m o => { m with keyBytes := o }) m.keyBytes _ rfl (fun _ => store_write ..),
      foldlM_opt (fun m o => { m with lostFrames := o }) m.lostFrames _ rfl
        (fun _ => store_write ..),
      foldlM_opt (fun m o => { m with dataFrames := o }) m.dataFrames _ rfl
        (fun _ => store_write ..),
      foldlM_opt (fun m o => { m with keyFrames := o }) m.keyFrames _ rfl
        (fun _ => store_write ..),
      foldlM_opt (fun m o => { m with lastGov := o }) m.lastGov _ rfl (fun _ => store_write ..)]
    rfl

/-- An entry that does not parse makes the reply not parse. -/
def mediaStatisticRepFormat : Format ProtoMediaStatisticRep where
  fields m :=
    opt 1 .uint32 m.ssrc ++ (opt 2 .int64 m.timestamp ++ (opt 3 .uint64 m.sumBytes ++
      rep 64 (.message subStreamStatisticFormat.codec) m.subStreamStats))
  empty := {}
  add m f :=
    match f.number with
    | 1 => store .uint32 f.value m fun a => { m with ssrc := some a }
    | 2 => store .int64 f.value m fun a => { m with timestamp := some a }
    | 3 => store .uint64 f.value m fun a => { m with sumBytes := some a }
    | 64 => ((Scalar.message subStreamStatisticFormat.codec).read f.value).map fun a =>
      { m with subStreamStats := m.subStreamStats ++ [a] }
    | _ => some m
  law m := by
    rw [foldlM_opt (fun m o => { m with ssrc := o }) m.ssrc _ rfl (fun _ => store_write ..),
      foldlM_opt (fun m o => { m with timestamp := o }) m.timestamp _ rfl
        (fun _ => store_write ..),
      foldlM_opt (fun m o => { m with sumBytes := o }) m.sumBytes _ rfl (fun _ => store_write ..),
      foldlM_rep (fun m l => { m with subStreamStats := l }) m.subStreamStats rfl (fun p a => by
        simp only [Scalar.read_write, Option.map_some])]

/-! ## Client lists -/

def clientListReqFormat : Format ProtoClientListReq where
  fields m := opt 1 .uint32 m.startIndex ++ (opt 2 .uint32 m.clientNum ++ [])
  empty := {}
  add m f :=
    match f.number with
    | 1 => store .uint32 f.value m fun a => { m with startIndex := some a }
    | 2 => store .uint32 f.value m fun a => { m with clientNum := some a }
    | _ => some m
  law m := by
    rw [foldlM_opt (fun m o => { m with startIndex := o }) m.startIndex _ rfl
        (fun _ => store_write ..),
      foldlM_opt (fun m o => { m with clientNum := o }) m.clientNum _ rfl
        (fun _ => store_write ..)]
    rfl

/-- A client that does not parse makes the reply not parse. -/
def clientListRepFormat : Format ProtoClientListRep where
  fields m :=
    opt 1 .uint32 m.totalNum ++ (opt 2 .uint32 m.startIndex ++
      rep 64 (.message heartbeatReqFormat.codec) m.clientList)
  empty := {}
  add m f :=
    match f.number with
    | 1 => store .uint32 f.value m fun a => { m with totalNum := some a }
    | 2 => store .uint32 f.value m fun a => { m with startIndex := some a }
    | 64 => ((Scalar.message heartbeatReqFormat.codec).read f.value).map fun a =>
      { m with clientList := m.clientList ++ [a] }
    | _ => some m
  law m := by
    rw [foldlM_opt (fun m o => { m with totalNum := o }) m.totalNum _ rfl
        (fun _ => store_write ..),
      foldlM_opt (fun m o => { m with startIndex := o }) m.startIndex _ rfl
        (fun _ => store_write ..),
      foldlM_rep (fun m l => { m with clientList := l }) m.clientList rfl (fun p a => by
        simp only [Scalar.read_write, Option.map_some])]

/-- The runtime built from the formats above. -/
def wireProtobuf : Protobuf where
  commonPacket := packetFormat.codec
  metaRep := metaRepFormat.codec
  mediaFrameMsg := mediaFrameFormat.codec
  streamInfoMsg := streamInfoFormat.codec
  clientHeartbeatReq := heartbeatReqFormat.codec
  clientHeartbeatRep := heartbeatRepFormat.codec

def wireApiProtobuf : ApiProtobuf :=
  { wireProtobuf with
    mediaStatisticRep := mediaStatisticRepFormat.codec
    clientListReq := clientListReqFormat.codec
    clientListRep := clientListRepFormat.codec }

/-- A packet of code 99 and seq 7 as `protoc`-generated code writes it. -/
example : wireProtobuf.commonPacket.encode { header := some { code := some 99, seq := some 7 } } =
    [0x0a, 0x04, 0x18, 0x63, 0x20, 0x07] := by decide

end StreamSwitch
