import StreamSwitch.Source.Metadata
import StreamSwitch.Sink.Metadata

/-!
# Metadata from source to sink

`metadata_round_trip`: the reply of `MetadataHandler`, read back from its bytes and
handed to `UpdateStreamMetaData` of a fresh sink, gives the sink the metadata of
the source, up to what the reply does not carry: the index stored in a sub-stream
is replaced by its position, and only the parameters of its own media type cross.
-/

namespace StreamSwitch

/-- The parameters that belong to a media type are the same. -/
def MediaParam.SameFor (a b : MediaParam) : SubStreamMediaType → Prop
  | .video => a.video = b.video
  | .audio => a.audio = b.audio
  | .text => a.text = b.text
  | .priv => True

/-- `b` is what a sink knows about the sub-stream `a` at position `i`. -/
structure SubStreamMetadata.SameAt (i : Nat) (a b : SubStreamMetadata) : Prop where
  subStreamIndex : b.subStreamIndex = Int32.ofNat i
  mediaType : b.mediaType = a.mediaType
  codecName : b.codecName = a.codecName
  direction : b.direction = a.direction
  extraData : b.extraData = a.extraData
  mediaParam : a.mediaParam.SameFor b.mediaParam a.mediaType

/-- `b` is what a sink knows about a source with metadata `a`. -/
structure StreamMetadata.Same (a b : StreamMetadata) : Prop where
  playType : b.playType = a.playType
  ssrc : b.ssrc = a.ssrc
  sourceProto : b.sourceProto = a.sourceProto
  streamLen : b.streamLen = a.streamLen
  bps : b.bps = a.bps
  length : b.subStreams.length = a.subStreams.length
  subStreams : ∀ (i : Nat) x y, a.subStreams[i]? = some x → b.subStreams[i]? = some y →
    x.SameAt i y

/-- One sub-stream through `ProtoSubStreamInfo` and back. -/
theorem toSubStream_ofSubStream (i : Nat) (sub : SubStreamMetadata) :
    sub.SameAt i (ProtoSubStreamInfo.ofSubStream (Int32.ofNat i) sub).toSubStream := by
  -- encoder and decoder each switch on the media type
  cases hm : sub.mediaType with
  | video | audio | text =>
    simp only [ProtoSubStreamInfo.ofSubStream, hm]
    exact ⟨rfl, hm.symm, rfl, rfl, rfl, by rw [hm]; exact rfl⟩
  | priv =>
    simp only [ProtoSubStreamInfo.ofSubStream, hm]
    exact ⟨rfl, hm.symm, rfl, rfl, rfl, by rw [hm]; exact trivial⟩

theorem ofMetadata_subStreams_getElem? (m : StreamMetadata) (i : Nat) :
    (ProtoMetaRep.ofMetadata m).metadata.subStreams[i]? = m.subStreams[i]?.map fun sub =>
      (ProtoSubStreamInfo.ofSubStream (Int32.ofNat i) sub).toSubStream := by
  have h := addSubStreams_getElem? m.subStreams 0 i
  rw [Nat.zero_add] at h
  show ((addSubStreams (Int32.ofNat 0) m.subStreams).map _)[i]? = _
  rw [List.getElem?_map, h, Option.map_map]
  rfl

theorem ofMetadata_subStreams_length (m : StreamMetadata) :
    (ProtoMetaRep.ofMetadata m).metadata.subStreams.length = m.subStreams.length := by
  have h : ∀ (subs : List SubStreamMetadata) k, (addSubStreams k subs).length = subs.length := by
    intro subs
    induction subs with
    | nil => exact fun _ => rfl
    | cons sub subs ih => exact fun k => congrArg (· + 1) (ih (k + 1))
  exact (List.length_map ..).trans (h m.subStreams 0)

/-- The description of metadata, decoded. -/
theorem metadata_ofMetadata (m : StreamMetadata) :
    m.Same (ProtoMetaRep.ofMetadata m).metadata := by
  refine ⟨rfl, rfl, rfl, rfl, rfl, ofMetadata_subStreams_length m, ?_⟩
  intro i x y hx hy
  rw [ofMetadata_subStreams_getElem?, hx] at hy
  cases hy
  exact toSubStream_ofSubStream i x

namespace StreamSource

variable (pb : Protobuf)

/-- The reply of the handler makes an update succeed. -/
theorem describes_metadataReply (m : StreamMetadata) (request : ProtoCommonPacket) :
    StreamSink.Describes pb (.reply (metadataReply pb m request)) (.ofMetadata m) :=
  ⟨_, rfl, rfl, pb.metaRep.decode_encode _⟩

/-- **Metadata round trip**: the handler sends one reply; read back by a fresh sink, it leaves
and returns the metadata of the source. -/
theorem metadata_round_trip (now : Int64) (d : SourceData) (request : ProtoCommonPacket)
    (blob : Option Bytes) (clientInfo : StreamClientInfo) (listener : Bool) :
    ∃ sent received updated,
      metadataHandler pb now d request blob = .sendRpcReply sent none (fun _ => .ret 0 d) ∧
      pb.commonPacket.decode (pb.commonPacket.encode sent) = some received ∧
      (StreamSink.initBase clientInfo listener).updateStreamMetaData pb (.reply received) =
        .ok updated ∧
      updated.ret.code = .ok ∧ d.streamMeta.Same updated.sink.streamMeta ∧
      updated.metadata = some updated.sink.streamMeta := by
  have hdesc := describes_metadataReply pb d.streamMeta request
  refine ⟨_, _, _, rfl, pb.commonPacket.decode_encode _,
    StreamSink.updateStreamMetaData_of_describes rfl hdesc, rfl, ?_, rfl⟩
  rw [StreamSink.configure_of_empty _ rfl]
  exact metadata_ofMetadata d.streamMeta

end StreamSource

end StreamSwitch
