import StreamSwitch.Source.Media

/-!
# The metadata handler of a stream source

`MetadataHandler` of `stsw_stream_source.cc`: the reply to a metadata request.
-/

namespace StreamSwitch

/-- The description of the sub-stream at position `index`. -/
def ProtoSubStreamInfo.ofSubStream (index : Int32) (sub : SubStreamMetadata) :
    ProtoSubStreamInfo :=
  let info : ProtoSubStreamInfo :=
    { index := some index
      mediaType := some sub.mediaType
      codecName := some sub.codecName
      direction := some sub.direction
      extraData := some sub.extraData }
  match sub.mediaType with
  | .video => { info with
      height := some sub.mediaParam.video.height
      width := some sub.mediaParam.video.width
      fps := some sub.mediaParam.video.fps
      gov := some sub.mediaParam.video.gov }
  | .audio => { info with
      samplesPerSecond := some sub.mediaParam.audio.samplesPerSecond
      channels := some sub.mediaParam.audio.channels
      bitsPerSample := some sub.mediaParam.audio.bitsPerSample
      sampelePerFrame := some sub.mediaParam.audio.sampelePerFrame }
  | .text => { info with
      x := some sub.mediaParam.text.x
      y := some sub.mediaParam.text.y
      foneSize := some sub.mediaParam.text.foneSize
      fontType := some sub.mediaParam.text.fontType }
  | .priv => info

/-- The loop over the sub-streams, from position `index` on. -/
def addSubStreams (index : Int32) : List SubStreamMetadata → List ProtoSubStreamInfo
  | [] => []
  | sub :: subs => .ofSubStream index sub :: addSubStreams (index + 1) subs

def ProtoMetaRep.ofMetadata (m : StreamMetadata) : ProtoMetaRep :=
  { playType := some m.playType
    sourceProto := some m.sourceProto
    ssrc := some m.ssrc
    bps := some m.bps
    streamLen := some m.streamLen
    subStreams := addSubStreams 0 m.subStreams }

namespace StreamSource

variable (pb : Protobuf)

def metadataReply (m : StreamMetadata) (request : ProtoCommonPacket) : ProtoCommonPacket :=
  { replyTo request statusOk "" with body := some (pb.metaRep.encode (.ofMetadata m)) }

def metadataHandler : SourceApiHandler SourceData := fun _ d request _ =>
  .sendRpcReply (metadataReply pb d.streamMeta request) none fun _ => .ret 0 d

end StreamSource

/-- The loop describes each sub-stream at its own position. -/
theorem addSubStreams_getElem? (subs : List SubStreamMetadata) (k i : Nat) :
    (addSubStreams (Int32.ofNat k) subs)[i]? =
      subs[i]?.map (ProtoSubStreamInfo.ofSubStream (Int32.ofNat (k + i))) := by
  induction subs generalizing k i with
  | nil => rfl
  | cons sub subs ih =>
    have hk : Int32.ofNat k + 1 = Int32.ofNat (k + 1) := (Int32.ofNat_add k 1).symm
    cases i with
    | zero => rfl
    | succ i =>
      rw [addSubStreams, List.getElem?_cons_succ, List.getElem?_cons_succ, hk, ih (k + 1) i,
        Nat.add_right_comm, Nat.add_assoc]

end StreamSwitch
