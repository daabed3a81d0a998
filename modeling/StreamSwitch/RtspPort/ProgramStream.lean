import StreamSwitch.Lib.StreamCode
import StreamSwitch.RtspPort.PsHeaders
import StreamSwitch.RtspPort.RtpFrag

/-!
# A program stream from its frames to its receiver

`mp2p_init` and `StreamParser::Parse` of `media/parser/mp2p.cc` on the buffer that is allocated for a
frame: headers and packets are written into it in their places, and what is in use of it is cut into
payloads. `parse_eq` says that the buffer is that of the model without bytes.

A receiver takes the payloads for one stream of bytes. It needs no boundaries of theirs, because every
element of a program stream tells where it ends (`psCode`). `frames_received` is what it finds.
-/

namespace StreamSwitch

namespace ProgramStream

open Bits PutBits
open Mp2p (Priv Track PesPacket PsBuffer ParseError MParserBuffer maxPesSize
  getPesHeaderSize pts2PsTimestamp allocSize encodePesLoop)

/-! ## The streams of a track -/

/-- `mp2p_stream_parsers`: the type of a stream in the map. -/
def createStreamParser (codecName : String) : Option Nat :=
  if codecName = "H264" then some 0x1b
  else if codecName = "MP4V-ES" then some 0x10
  else if codecName = "PCMU" then some 0x90
  else if codecName = "PCMA" then some 0x90
  else none

/-- The loop of `mp2p_init`, with the ids of the next streams of both kinds. -/
def initStreams : (mpaId mpvId : Nat) → List SubStreamMetadata → List (Option Mp2p.StreamInfo)
  | _, _, [] => []
  | mpaId, mpvId, m :: rest =>
    match m.mediaType, createStreamParser m.codecName with
    | .audio, some streamType =>
      some ⟨mpaId, streamType, .audio, 8 * 1024⟩ :: initStreams (mpaId + 1) mpvId rest
    | .video, some streamType =>
      some ⟨mpvId, streamType, .video, 4 * 1024 * 1024⟩ :: initStreams mpaId (mpvId + 1) rest
    | _, _ => none :: initStreams mpaId mpvId rest

/-- `mux_rate` of a bitrate, with something for the headers, as `put_bits` gets it. -/
def muxRate (bitrate : Int) : Nat :=
  ((bitrate + bitrate.tdiv 20 + 10000 + (8 * 50) - 1).tdiv (8 * 50) % 2 ^ 32).toNat

def countOf (mediaType : SubStreamMediaType) (streams : List (Option Mp2p.StreamInfo)) : Nat :=
  streams.reduceOption.countP (·.mediaType = mediaType)

/-- The bitrate announced, else one for each stream that there is a parser for. -/
def bitrateOf (metadata : StreamMetadata) (streams : List (Option Mp2p.StreamInfo)) : Int :=
  let codecRate : Nat := 2 ^ 21 * 8 * 50 / metadata.subStreams.length
  if metadata.bps ≠ 0 then (metadata.bps.toNat : Int).bmod (2 ^ 32)
  else (streams.reduceOption.length * codecRate : Nat)

/-- `mp2p_init`; `none` where it fails. -/
def mp2pInit (metadata : StreamMetadata) : Option Priv :=
  if metadata.subStreams.length > 8 then none
  else
    let streams := initStreams 0xc0 0xe0 metadata.subStreams
    if countOf .video streams = 0 then none
    else some {
      muxRate := muxRate (bitrateOf metadata streams)
      audioBound := countOf .audio streams
      videoBound := countOf .video streams
      streams }

/-! ## Writing -/

/-- A header behind the bytes in use: the buffer, and the bytes in use then. -/
def putAt (buf : Bytes) (bufSize : Nat) (put : Bytes → Except PutBits.Fault (Bytes × Nat)) :
    Except PutBits.Fault (Bytes × Nat) :=
  let room := (int32OfSize (buf.length - bufSize)).toNat
  (put ((buf.drop bufSize).take room)).map fun r =>
    (buf.take bufSize ++ r.1 ++ (buf.drop bufSize).drop room, bufSize + r.2)

/-- `put_pes_header`: the arguments are those of a packet. -/
def putPesHeader (p : PesPacket) (buffer : Bytes) : Except PutBits.Fault (Bytes × Nat) :=
  putRecord buffer (Mp2p.putPesHeader p)

def memcpy (buf : Bytes) (offset : Nat) (data : Bytes) : Except PutBits.Fault Bytes :=
  if offset + data.length ≤ buf.length then .ok (store buf offset data) else .error .outOfBuffer

/-- The loop of `EncodePes` on the buffer; `none` where the source returns -1. -/
def encodeLoop (stream : Mp2p.StreamInfo) (pts dts : Nat) (buf : Bytes) (bufSize ptsDtsFlag : Nat)
    (firstFrag : Bool) (data : Bytes) : Except PutBits.Fault (Option (Bytes × Nat)) :=
  if data = [] then .ok (some (buf, bufSize))
  else
    let header := getPesHeaderSize bufSize ptsDtsFlag firstFrag
    let partialSize :=
      if header.1 + data.length > maxPesSize then maxPesSize - header.1 else data.length
    let pesSize := header.1 + partialSize
    if pesSize + bufSize > buf.length then .ok none
    else
      let packet : PesPacket := {
        streamId := stream.streamId
        length := pesSize - 6
        stuffSize := header.2
        firstFrag
        dataAlignment := decide (stream.mediaType = .video) && firstFrag
        ptsDtsFlag
        pts
        dts
        maxBufferSize := stream.maxBufferSize
        payload := data.take partialSize }
      (putAt buf bufSize (putPesHeader packet)).bind fun r =>
        (memcpy r.1 r.2 packet.payload).bind fun buf =>
          encodeLoop stream pts dts buf (r.2 + partialSize) 0 false (data.drop partialSize)
termination_by data.length
decreasing_by
  rename_i hdata _
  have hlt := Mp2p.getPesHeaderSize_lt bufSize ptsDtsFlag firstFrag
  have hpos := List.length_pos_iff.2 hdata
  rw [List.length_drop]
  split
  · omega
  · omega

/-- A call of `StreamParser::Parse`. -/
structure Frame where
  stream : Mp2p.StreamInfo
  isKeyFrame : Bool
  pts : ℚ
  dts : ℚ
  data : Bytes
deriving DecidableEq

/-- Frames that start with headers. -/
def Frame.isVideo (f : Frame) : Bool := decide (f.stream.mediaType = .video)

/-- `StreamParser::EncodePes`. -/
def encodePes (tr : Track) (f : Frame) (buf : Bytes) (bufSize : Nat) :
    Except PutBits.Fault (Option (Bytes × Nat)) :=
  if !tr.onlyKeyFrame || f.isKeyFrame || decide (f.stream.mediaType = .audio) then
    encodeLoop f.stream (pts2PsTimestamp tr f.pts) (pts2PsTimestamp tr f.dts) buf bufSize 2 true f.data
  else .ok (some (buf, bufSize))

/-- The headers of a key frame. -/
def putMaps (priv : Priv) (buf : Bytes) (bufSize : Nat) : Except PutBits.Fault (Bytes × Nat) :=
  (putAt buf bufSize (putSystemHeader priv)).bind fun r => putAt r.1 r.2 (putSystemMapHeader priv)

/-- The headers of `StreamParser::Parse`. -/
def putHeaders (tr : Track) (priv : Priv) (f : Frame) (buf : Bytes) :
    Except PutBits.Fault (Bytes × Nat) :=
  if f.isVideo then
    (putAt buf 0 fun b => putPackHeader priv b (pts2PsTimestamp tr f.pts)).bind fun r =>
      if f.isKeyFrame then putMaps priv r.1 r.2 else .ok r
  else .ok (buf, 0)

def Frame.startsGov (f : Frame) : Bool := f.isKeyFrame && f.isVideo

/-- The end of `StreamParser::Parse`: the headers alone are not put out. -/
def finish (priv : Priv) (start : Nat) : Option (Bytes × Nat) → ParseError × Priv × Option Bytes
  | none => (.resourceNotParseable, priv, none)
  | some (buf, size) =>
    if 0 < int32OfSize (size - start) ∧ priv.govStart = true then
      (.noError, priv, some (buf.take size))
    else (.noError, priv, none)

/-- `StreamParser::Parse`, with the bytes that `mp2p_rtp_frag` is called with, if it is. -/
def parse (tr : Track) (priv : Priv) (f : Frame) :
    Except PutBits.Fault (ParseError × Priv × Option Bytes) :=
  (putHeaders tr priv f (List.replicate (allocSize f.data.length) 0)).bind fun r =>
    (encodePes tr f r.1 r.2).map
      (finish { priv with govStart := priv.govStart || f.startsGov } r.2)

/-- `mp2p_rtp_frag` on what a frame became. -/
def fragments (f : Frame) : Option Bytes → Except PutBits.Fault (List MParserBuffer)
  | none => .ok []
  | some data =>
    match Mp2p.mp2pRtpFrag ⟨f.pts, f.dts, 0⟩ data with
    | none => .error .outOfBuffer
    | some payloads => .ok payloads

/-- The calls for a track, one after the other: what is put out. -/
def parseAll (tr : Track) : Priv → List Frame → Except PutBits.Fault (Priv × List MParserBuffer)
  | priv, [] => .ok (priv, [])
  | priv, f :: fs =>
    (parse tr priv f).bind fun r =>
      (fragments f r.2.2).bind fun payloads =>
        (parseAll tr r.2.1 fs).map fun rest => (rest.1, payloads ++ rest.2)

/-! ## The streams are sound -/

/-- A stream that the loop makes, if so many are left. -/
structure Made (mpaId mpvId count : Nat) (s : Mp2p.StreamInfo) : Prop where
  streamType : s.streamType < 256
  id : (s.mediaType = .audio ∧ s.maxBufferSize = 8 * 1024 ∧ mpaId ≤ s.streamId ∧
      s.streamId < mpaId + count) ∨
    (s.mediaType = .video ∧ s.maxBufferSize = 4 * 1024 * 1024 ∧ mpvId ≤ s.streamId ∧
      s.streamId < mpvId + count)

theorem Made.mono {mpaId mpvId count mpaId' mpvId' count' : Nat} {s : Mp2p.StreamInfo}
    (h : Made mpaId mpvId count s) (ha : mpaId' ≤ mpaId ∧ mpaId + count ≤ mpaId' + count')
    (hv : mpvId' ≤ mpvId ∧ mpvId + count ≤ mpvId' + count') : Made mpaId' mpvId' count' s := by
  refine ⟨h.streamType, ?_⟩
  rcases h.id with ⟨hmedia, hsize, hge, hlt⟩ | ⟨hmedia, hsize, hge, hlt⟩
  · exact .inl ⟨hmedia, hsize, by omega, by omega⟩
  · exact .inr ⟨hmedia, hsize, by omega, by omega⟩

theorem createStreamParser_lt {codecName : String} {streamType : Nat}
    (h : createStreamParser codecName = some streamType) : streamType < 256 := by
  unfold createStreamParser at h
  split_ifs at h
  all_goals
    injection h with h
    omega

theorem initStreams_made {mpaId mpvId : Nat} {subs : List SubStreamMetadata} {s : Mp2p.StreamInfo}
    (h : some s ∈ initStreams mpaId mpvId subs) : Made mpaId mpvId subs.length s := by
  induction subs generalizing mpaId mpvId with
  | nil => exact absurd h List.not_mem_nil
  | cons m subs ih =>
    have hlength : (m :: subs).length = subs.length + 1 := rfl
    unfold initStreams at h
    split at h
    · next streamType hmedia hparser =>
      rcases List.mem_cons.1 h with h | h
      · cases h
        exact ⟨createStreamParser_lt hparser, .inl ⟨rfl, rfl, Nat.le_refl _, by rw [hlength]; simp⟩⟩
      · exact (ih h).mono (by omega) (by omega)
    · next streamType hmedia hparser =>
      rcases List.mem_cons.1 h with h | h
      · cases h
        exact ⟨createStreamParser_lt hparser, .inr ⟨rfl, rfl, Nat.le_refl _, by rw [hlength]; simp⟩⟩
      · exact (ih h).mono (by omega) (by omega)
    · rcases List.mem_cons.1 h with h | h
      · cases h
      · exact (ih h).mono (by omega) (by omega)

theorem length_initStreams (mpaId mpvId : Nat) (subs : List SubStreamMetadata) :
    (initStreams mpaId mpvId subs).length = subs.length := by
  induction subs generalizing mpaId mpvId with
  | nil => rfl
  | cons m subs ih =>
    unfold initStreams
    split
    · exact congrArg (· + 1) (ih ..)
    · exact congrArg (· + 1) (ih ..)
    · exact congrArg (· + 1) (ih ..)

/-- The largest bitrate whose rate has its place in the headers. -/
def maxBitrate : Nat := 1597820191

theorem muxRate_lt {bitrate : Nat} (h : bitrate ≤ maxBitrate) : muxRate bitrate < 2 ^ 22 := by
  have htwenty : (bitrate : Int).tdiv 20 = bitrate / 20 := Int.tdiv_eq_ediv_of_nonneg (by omega)
  have hdiv := Int.tdiv_eq_ediv_of_nonneg (a := (bitrate + bitrate / 20 + 10000 + 8 * 50 - 1 : Int))
    (b := 8 * 50) (by omega)
  have hrate : (bitrate + bitrate / 20 + 10000 + 8 * 50 - 1 : Int) / (8 * 50) < 2 ^ 22 := by
    unfold maxBitrate at h
    omega
  rw [muxRate, htwenty, hdiv, Int.emod_eq_of_lt (by omega) (by omega)]
  omega

theorem countOf_le (mediaType : SubStreamMediaType) (streams : List (Option Mp2p.StreamInfo)) :
    countOf mediaType streams ≤ streams.length :=
  List.countP_le_length.trans (List.length_filterMap_le id streams)

theorem exists_bitrateOf {metadata : StreamMetadata} {streams : List (Option Mp2p.StreamInfo)}
    (hbps : metadata.bps.toNat ≤ maxBitrate) (hlength : streams.length = metadata.subStreams.length) :
    ∃ n : Nat, bitrateOf metadata streams = n ∧ n ≤ maxBitrate := by
  unfold bitrateOf
  dsimp only
  split
  · exact ⟨_, Mp2p.bmod_length (by unfold maxBitrate at hbps; omega), hbps⟩
  · refine ⟨_, rfl, ?_⟩
    have hle : streams.reduceOption.length ≤ metadata.subStreams.length :=
      (List.length_filterMap_le id streams).trans_eq hlength
    have hrate : metadata.subStreams.length * (2 ^ 21 * 8 * 50 / metadata.subStreams.length) ≤
        2 ^ 21 * 8 * 50 := Nat.mul_div_le ..
    exact ((Nat.mul_le_mul_right _ hle).trans hrate).trans (by decide)

/-- What `mp2p_init` makes meets the assertions of the headers, unless the source announces too high a
bitrate. -/
theorem sound_mp2pInit {metadata : StreamMetadata} {priv : Priv} (h : mp2pInit metadata = some priv)
    (hbps : metadata.bps.toNat ≤ maxBitrate) : Sound priv := by
  unfold mp2pInit at h
  dsimp only at h
  split_ifs at h with hnum hnone
  cases h
  have hlength := length_initStreams 0xc0 0xe0 metadata.subStreams
  have haudio := countOf_le .audio (initStreams 0xc0 0xe0 metadata.subStreams)
  have hvideo := countOf_le .video (initStreams 0xc0 0xe0 metadata.subStreams)
  obtain ⟨n, hbitrate, hn⟩ := exists_bitrateOf hbps hlength
  refine ⟨?_, ?_, ?_, ?_, fun s hs => ?_⟩
  · show muxRate _ < 2 ^ 22
    rw [hbitrate]
    exact muxRate_lt hn
  · show countOf .audio _ < 2 ^ 6
    omega
  · show countOf .video _ < 2 ^ 5
    omega
  · show (initStreams ..).length ≤ 8
    omega
  · obtain ⟨htype, hid⟩ := initStreams_made hs
    rcases hid with ⟨hmedia, hsize, hge, hlt⟩ | ⟨hmedia, hsize, hge, hlt⟩
    · exact ⟨⟨by omega, by rw [hmedia, hsize]; rfl⟩, htype, .inl ⟨hmedia, hge, by omega⟩⟩
    · exact ⟨⟨by omega, by rw [hmedia, hsize]; rfl⟩, htype, .inr ⟨hmedia, hge⟩⟩

/-! ## The buffer -/

/-- A header behind bytes. -/
theorem putAt_ok (done : Bytes) {rest bytes : Bytes} {put : Bytes → Except PutBits.Fault (Bytes × Nat)}
    (hshort : rest.length < 2 ^ 31)
    (hput : put rest = .ok (bytes ++ rest.drop bytes.length, bytes.length)) :
    putAt (done ++ rest) done.length put =
      .ok (done ++ bytes ++ rest.drop bytes.length, (done ++ bytes).length) := by
  have hroom : (int32OfSize ((done ++ rest).length - done.length)).toNat = rest.length := by
    rw [List.length_append, Nat.add_sub_cancel_left, int32OfSize_eq hshort, Int.toNat_natCast]
  unfold putAt
  dsimp only
  rw [hroom, List.drop_left, List.take_length, List.take_left, hput, List.drop_length]
  show Except.ok (done ++ (bytes ++ _) ++ [], done.length + bytes.length) = _
  rw [List.append_nil, List.length_append, List.append_assoc]

theorem puts_putPesHeader {p : PesPacket} (hid : p.streamId < 256) (hsize : p.maxBufferSize < 2 ^ 23) :
    Puts (Mp2p.putPesHeader p) where
  widths := by
    simp only [Mp2p.putPesHeader, List.forall_mem_append]
    refine ⟨⟨⟨by simp [Mp2p.putFixed], ?_⟩, ?_⟩, ?_⟩
    · unfold Mp2p.putTimestamps
      split_ifs <;> simp [Mp2p.putTimestamp]
    · unfold Mp2p.putExtension
      split_ifs <;> simp
    · intro f hf
      rw [List.eq_of_mem_replicate hf]
      decide
  fits := Mp2p.fits_putPesHeader hid hsize
  bytes := by
    rw [Mp2p.width_putPesHeader]
    exact Nat.dvd_mul_right 8 _

theorem putPesHeader_eq {p : PesPacket} (hid : p.streamId < 256) (hsize : p.maxBufferSize < 2 ^ 23)
    {rest : Bytes} (hroom : p.header.length ≤ rest.length) :
    putPesHeader p rest = .ok (p.header ++ rest.drop p.header.length, p.header.length) :=
  (puts_putPesHeader hid hsize).putRecord hroom

section Loop

variable (stream : Mp2p.StreamInfo) (pts dts : Nat)

theorem encodeLoop_step (buf : Bytes) (bufSize : Nat) (firstFrag : Bool) {data : Bytes}
    (hne : data ≠ []) :
    encodeLoop stream pts dts buf bufSize (if firstFrag then 2 else 0) firstFrag data =
      let p := Mp2p.nextPacket stream pts dts bufSize firstFrag data
      if p.length + 6 + bufSize > buf.length then .ok none
      else (putAt buf bufSize (putPesHeader p)).bind fun r =>
        (memcpy r.1 r.2 p.payload).bind fun buf =>
          encodeLoop stream pts dts buf (r.2 + p.payload.length) 0 false
            (data.drop p.payload.length) := by
  have hlength : (Mp2p.nextPacket stream pts dts bufSize firstFrag data).length + 6 =
      (getPesHeaderSize bufSize (if firstFrag then 2 else 0) firstFrag).1 +
        (Mp2p.nextPacket stream pts dts bufSize firstFrag data).payload.length :=
    (Mp2p.nextPacket_at ..).length
  dsimp only
  rw [encodeLoop, if_neg hne, hlength, Mp2p.length_payload]
  rfl

/-- **The packets are in the buffer** as the model without bytes gives them. -/
theorem encodeLoop_eq {stream : Mp2p.StreamInfo} (hc : Mp2p.Created stream) (done rest : Bytes)
    (hshort : rest.length < 2 ^ 31) (firstFrag : Bool) (data : Bytes) :
    encodeLoop stream pts dts (done ++ rest) done.length (if firstFrag then 2 else 0) firstFrag data =
      .ok ((encodePesLoop stream pts dts (done ++ rest).length done.length
        (if firstFrag then 2 else 0) firstFrag data).map fun r =>
          (done ++ r.1.flatMap PesPacket.bytes ++ rest.drop (r.1.flatMap PesPacket.bytes).length,
            r.2)) := by
  induction hn : data.length using Nat.strongRecOn generalizing done rest firstFrag data with
  | ind n ih =>
    subst hn
    by_cases hnil : data = []
    · subst hnil
      rw [encodeLoop, encodePesLoop, if_pos rfl, if_pos rfl]
      simp
    · rw [encodeLoop_step _ _ _ _ _ _ hnil, Mp2p.encodePesLoop_step _ _ _ _ _ _ hnil]
      have hpos := Mp2p.payload_pos stream pts dts done.length firstFrag hnil
      have hat := Mp2p.nextPacket_at stream pts dts done.length firstFrag data
      generalize Mp2p.nextPacket stream pts dts done.length firstFrag data = p at hpos hat ⊢
      have hsized := hat.sized hc
      dsimp only
      by_cases hfull : p.length + 6 + done.length > (done ++ rest).length
      · rw [if_pos hfull, if_pos hfull]
        rfl
      have hbytes : p.header.length + p.payload.length = p.length + 6 := by
        rw [Mp2p.length_header, hsized.length]
      have hroom : p.header.length ≤ rest.length := by
        rw [List.length_append] at hfull
        omega
      have hput := putAt_ok done hshort (putPesHeader_eq hsized.streamId
        (hat.maxBufferSize ▸ hc.maxBufferSize_lt) hroom)
      -- the payload goes behind the header
      have hcopy : memcpy (done ++ p.header ++ rest.drop p.header.length) (done ++ p.header).length
          p.payload = .ok (done ++ p.bytes ++ rest.drop p.bytes.length) := by
        have hfits : (done ++ p.header).length + p.payload.length ≤
            (done ++ p.header ++ rest.drop p.header.length).length := by
          simp only [List.length_append, List.length_drop] at hfull ⊢
          omega
        rw [memcpy, if_pos hfits, store_append, List.drop_drop, PesPacket.bytes, List.length_append,
          List.append_assoc done]
      have hnext : (done ++ p.header).length + p.payload.length = (done ++ p.bytes).length := by
        simp only [PesPacket.bytes, List.length_append]
        omega
      have hsize : (done ++ p.bytes).length = done.length + (p.length + 6) := by
        rw [← hnext, List.length_append]
        omega
      have htotal : (done ++ p.bytes ++ rest.drop p.bytes.length).length = (done ++ rest).length := by
        simp only [PesPacket.bytes, List.length_append, List.length_drop] at hfull ⊢
        omega
      have hdrop : (data.drop p.payload.length).length = data.length - p.payload.length :=
        List.length_drop
      have hdata := List.length_pos_iff.2 hnil
      have hrec := ih _ (by omega) (done ++ p.bytes) (rest.drop p.bytes.length)
        (by rw [List.length_drop]; omega) false (data.drop p.payload.length) rfl
      rw [htotal, hsize] at hrec
      rw [if_neg hfull, if_neg hfull, hput]
      show (memcpy _ _ p.payload).bind _ = _
      rw [hcopy]
      show encodeLoop stream pts dts _ ((done ++ p.header).length + p.payload.length) 0 false _ = _
      rw [hnext, hsize]
      refine hrec.trans ?_
      rw [Option.map_map]
      congr 2
      funext r
      simp [List.drop_drop]

end Loop

/-! ## A frame -/

variable {tr : Track} {priv : Priv} {f : Frame}

/-- The headers of a frame. -/
def headerBytes (tr : Track) (priv : Priv) (f : Frame) : Bytes :=
  if f.isVideo then
    packBytes priv (pts2PsTimestamp tr f.pts) ++
      if f.isKeyFrame then systemBytes priv ++ mapBytes priv else []
  else []

theorem length_headerBytes_le (h : Sound priv) (tr : Track) (f : Frame) :
    (headerBytes tr priv f).length ≤ 256 := by
  have hnum := length_reduceOption_le h
  unfold headerBytes
  split
  · rw [List.length_append, length_packBytes h]
    split
    · rw [List.length_append, length_systemBytes h, length_mapBytes h]
      omega
    · exact Nat.le_of_ble_eq_true rfl
  · exact Nat.zero_le _

theorem putMaps_eq (h : Sound priv) (done : Bytes) {rest : Bytes} (hshort : rest.length < 2 ^ 31)
    (hroom : (systemBytes priv ++ mapBytes priv).length ≤ rest.length) :
    putMaps priv (done ++ rest) done.length =
      .ok (done ++ (systemBytes priv ++ mapBytes priv) ++
          rest.drop (systemBytes priv ++ mapBytes priv).length,
        (done ++ (systemBytes priv ++ mapBytes priv)).length) := by
  rw [List.length_append] at hroom
  have hdrop : (rest.drop (systemBytes priv).length).length =
      rest.length - (systemBytes priv).length := List.length_drop
  have hsystem := putAt_ok done hshort (putSystemHeader_eq h (by omega))
  have hroom' : (mapBytes priv).length ≤ (rest.drop (systemBytes priv).length).length := by omega
  have hmap := putAt_ok (done ++ systemBytes priv) (by omega) (putSystemMapHeader_eq h hroom')
  rw [putMaps, hsystem, Except.bind, hmap, List.drop_drop, List.append_assoc done,
    ← List.length_append]

theorem putHeaders_eq (h : Sound priv) (tr : Track) (f : Frame) {buf : Bytes}
    (hroom : 256 ≤ buf.length) (hshort : buf.length < 2 ^ 31) :
    putHeaders tr priv f buf =
      .ok (headerBytes tr priv f ++ buf.drop (headerBytes tr priv f).length,
        (headerBytes tr priv f).length) := by
  have hlength := (length_headerBytes_le h tr f).trans hroom
  unfold putHeaders
  by_cases hvideo : f.isVideo = true
  · have hpack := length_packBytes h (pts2PsTimestamp tr f.pts)
    have hput := putPackHeader_eq h (pts2PsTimestamp tr f.pts)
      (show 14 ≤ buf.length from Nat.le_trans (by decide) hroom)
    rw [← hpack] at hput
    have hfirst : putAt buf 0 (fun b => putPackHeader priv b (pts2PsTimestamp tr f.pts)) = .ok _ :=
      putAt_ok [] hshort hput
    rw [List.nil_append] at hfirst
    rw [if_pos hvideo, hfirst, Except.bind]
    by_cases hkey : f.isKeyFrame = true
    · rw [headerBytes, if_pos hvideo, if_pos hkey] at hlength ⊢
      rw [List.length_append] at hlength
      have hrest : (buf.drop (packBytes priv (pts2PsTimestamp tr f.pts)).length).length =
          buf.length - (packBytes priv (pts2PsTimestamp tr f.pts)).length := List.length_drop
      have hmaps := putMaps_eq h (packBytes priv (pts2PsTimestamp tr f.pts))
        (Nat.lt_of_le_of_lt (hrest.trans_le (Nat.sub_le ..)) hshort) (by omega)
      rw [if_pos hkey, hmaps, List.drop_drop, ← List.length_append]
    · rw [if_neg hkey, headerBytes, if_pos hvideo, if_neg hkey, List.append_nil]
  · rw [if_neg hvideo, headerBytes, if_neg hvideo]
    rfl

/-- The frame is put out: there is something of it, it is not withheld, and a group of pictures has
begun. -/
def Frame.delivered (tr : Track) (govStart : Bool) (f : Frame) : Bool :=
  decide (f.data ≠ []) && !Mp2p.withheld tr f.stream f.isKeyFrame && govStart

/-- What a frame becomes: headers, and packets that are the frame. -/
structure Encoded (tr : Track) (priv : Priv) (f : Frame) (packets : List PesPacket) (out : Bytes) :
    Prop where
  out : out = headerBytes tr priv f ++ packets.flatMap PesPacket.bytes
  laid : Mp2p.Laid f.stream (pts2PsTimestamp tr f.pts) (headerBytes tr priv f).length true packets
  payload : packets.flatMap PesPacket.payload = f.data
  nil : f.data = [] → packets = []
  /-- They are those of the model without bytes. -/
  loop : encodePesLoop f.stream (pts2PsTimestamp tr f.pts) (pts2PsTimestamp tr f.dts)
    (allocSize f.data.length) (headerBytes tr priv f).length 2 true f.data =
      some (packets, (headerBytes tr priv f ++ packets.flatMap PesPacket.bytes).length)

/-- A frame that can be: it is of a stream of the track, and not too long. -/
structure Frame.Ok (priv : Priv) (f : Frame) : Prop where
  stream : some f.stream ∈ priv.streams
  short : allocSize f.data.length < 2 ^ 31

theorem not_withheld (tr : Track) (stream : Mp2p.StreamInfo) (isKeyFrame : Bool) :
    (!tr.onlyKeyFrame || isKeyFrame || decide (stream.mediaType = .audio)) =
      !Mp2p.withheld tr stream isKeyFrame := by
  unfold Mp2p.withheld
  cases tr.onlyKeyFrame <;> cases isKeyFrame <;> simp

theorem encodePes_eq (tr : Track) (h : Sound priv) (hf : f.Ok priv) (done rest : Bytes)
    (hdone : done.length ≤ 256)
    (hlength : (done ++ rest).length = allocSize f.data.length) :
    ∃ packets, packets.flatMap PesPacket.payload = f.data ∧ (f.data = [] → packets = []) ∧
      encodePesLoop f.stream (pts2PsTimestamp tr f.pts) (pts2PsTimestamp tr f.dts)
        (allocSize f.data.length) done.length 2 true f.data =
          some (packets, (done ++ packets.flatMap PesPacket.bytes).length) ∧
      Mp2p.Laid f.stream (pts2PsTimestamp tr f.pts) done.length true packets ∧
      (done ++ packets.flatMap PesPacket.bytes).length < 2 ^ 31 ∧
      encodePes tr f (done ++ rest) done.length =
        .ok (some (if Mp2p.withheld tr f.stream f.isKeyFrame then (done ++ rest, done.length) else
          (done ++ packets.flatMap PesPacket.bytes ++
              rest.drop (packets.flatMap PesPacket.bytes).length,
            (done ++ packets.flatMap PesPacket.bytes).length))) := by
  have hc := (h.created f.stream hf.stream).toCreated
  have hshort := hf.short
  have halloc := Mp2p.allocSize_eq f.data.length
  have hroom : done.length + Mp2p.pesRoom f.data.length ≤ (done ++ rest).length := by omega
  obtain ⟨packets, hloop, hsum, hlaid, hpayload⟩ := Mp2p.encodePesLoop_room f.stream
    (pts2PsTimestamp tr f.pts) (pts2PsTimestamp tr f.dts) done.length true f.data hroom
  have hbytes := hlaid.length_bytes hc
  refine ⟨packets, hpayload, fun hnil => ?_, ?_, hlaid, ?_, ?_⟩
  · rw [hnil, encodePesLoop, if_pos rfl] at hloop
    exact (congrArg Prod.fst (Option.some.inj hloop)).symm
  · rw [List.length_append, hbytes, ← hlength]
    exact hloop
  · rw [List.length_append]
    omega
  · unfold encodePes
    rw [not_withheld]
    cases hwithheld : Mp2p.withheld tr f.stream f.isKeyFrame
    · have hrest : rest.length < 2 ^ 31 := by
        rw [List.length_append] at hlength
        omega
      have hencode := encodeLoop_eq (pts2PsTimestamp tr f.pts) (pts2PsTimestamp tr f.dts) hc done rest
        hrest true f.data
      rw [hloop, Option.map_some] at hencode
      rw [List.length_append, hbytes]
      refine hencode.trans ?_
      dsimp only
      rw [hbytes]
      rfl
    · rfl

/-- There are packets if there is a frame. -/
theorem pos_iff {packets : List PesPacket} {data : Bytes}
    (hpayload : packets.flatMap PesPacket.payload = data) (hnil : data = [] → packets = []) :
    0 < (packets.flatMap PesPacket.bytes).length ↔ data ≠ [] := by
  cases packets with
  | nil => exact iff_of_false (Nat.lt_irrefl 0) fun hne => hne hpayload.symm
  | cons p ps =>
    have hne : data ≠ [] := fun hdata => List.cons_ne_nil p ps (hnil hdata)
    have hheader := Mp2p.length_header p
    refine iff_of_true ?_ hne
    rw [List.flatMap_cons, PesPacket.bytes, List.length_append, List.length_append]
    omega

/-- **What a frame becomes**: no assertion fails and nothing is stored behind the buffer. -/
theorem parse_out (tr : Track) (h : Sound priv) (hf : f.Ok priv) :
    ∃ packets out, Encoded tr priv f packets out ∧ out.length < 2 ^ 31 ∧
      parse tr priv f = .ok (.noError, { priv with govStart := priv.govStart || f.startsGov },
        if f.delivered tr (priv.govStart || f.startsGov) then some out else none) := by
  have halloc := Mp2p.allocSize_eq f.data.length
  have hheaders := length_headerBytes_le h tr f
  have hbuf : (List.replicate (allocSize f.data.length) (0 : UInt8)).length =
      allocSize f.data.length :=
    List.length_replicate
  have hput := putHeaders_eq h tr f (Nat.le_trans (by omega) hbuf.ge) (hbuf.trans_lt hf.short)
  obtain ⟨packets, hpayload, hnil, hloop, hlaid, hlength, hencode⟩ := encodePes_eq tr h hf
    (headerBytes tr priv f)
    ((List.replicate (allocSize f.data.length) 0).drop (headerBytes tr priv f).length) hheaders
    (by rw [List.length_append, List.length_drop, List.length_replicate]; omega)
  refine ⟨packets, _, ⟨rfl, hlaid, hpayload, hnil, hloop⟩, hlength, ?_⟩
  have hret : int32OfSize ((headerBytes tr priv f ++ packets.flatMap PesPacket.bytes).length -
      (headerBytes tr priv f).length) = (packets.flatMap PesPacket.bytes).length := by
    rw [List.length_append, Nat.add_sub_cancel_left, int32OfSize_eq]
    rw [List.length_append] at hlength
    omega
  have hempty : 0 < ((packets.flatMap PesPacket.bytes).length : Int) ↔ f.data ≠ [] :=
    Int.natCast_pos.trans (pos_iff hpayload hnil)
  rw [parse, hput, Except.bind, hencode, Except.map]
  unfold Frame.delivered
  cases hwithheld : Mp2p.withheld tr f.stream f.isKeyFrame
  · rw [if_neg Bool.false_ne_true, finish, hret]
    by_cases hdata : f.data = []
    · rw [if_neg fun hall => hempty.1 hall.1 hdata]
      simp [hdata]
    · cases hgov : priv.govStart || f.startsGov
      · simp
      · rw [if_pos ⟨hempty.2 hdata, rfl⟩, List.take_left]
        simp [hdata]
  · have hzero : int32OfSize ((headerBytes tr priv f).length - (headerBytes tr priv f).length) =
        0 := by
      rw [Nat.sub_self]
      exact int32OfSize_eq (by decide)
    rw [if_pos rfl, finish, hzero, if_neg fun hall => absurd hall.1 (by decide)]
    simp

/-- The bytes of a buffer of the model without bytes. -/
def bufferBytes (priv : Priv) (b : PsBuffer) : Bytes :=
  b.pack.elim [] (fun header => packBytes priv header.timestamp) ++
    b.system.elim [] (fun _ => systemBytes priv ++ mapBytes priv) ++ b.pes.flatMap PesPacket.bytes

theorem length_systemStreams {streams : List Mp2p.StreamInfo} (h : ∀ s ∈ streams, Created s)
    (privateCoded : Bool) : (Mp2p.systemStreams privateCoded streams).length = streams.length := by
  induction streams with
  | nil => rfl
  | cons s streams ih =>
    obtain ⟨hs, hstreams⟩ := List.forall_mem_cons.1 h
    have hid : ¬s.streamId < 0xc0 := by
      rcases hs.id with ⟨-, hge, -⟩ | ⟨-, hge⟩ <;> omega
    unfold Mp2p.systemStreams
    rw [if_neg hid]
    split
    · exact congrArg (· + 1) (ih hstreams)
    · exact congrArg (· + 1) (ih hstreams)

/-- The headers take what the model without bytes says. -/
theorem length_headerBytes (h : Sound priv) (tr : Track) (f : Frame) :
    (headerBytes tr priv f).length = Mp2p.headersSize priv f.stream f.isKeyFrame := by
  have hsystem : (Mp2p.putSystemHeader priv).size = (systemBytes priv).length := by
    rw [length_systemBytes h, Mp2p.SystemHeader.size, Mp2p.putSystemHeader,
      length_systemStreams fun s hs => h.created s (mem_reduceOption hs)]
  have hmap : (Mp2p.putSystemMapHeader priv).size = (mapBytes priv).length := by
    rw [length_mapBytes h, Mp2p.SystemMapHeader.size, Mp2p.putSystemMapHeader, List.length_map]
  unfold headerBytes Mp2p.headersSize Frame.isVideo
  by_cases hvideo : f.stream.mediaType = .video
  · rw [if_pos (decide_eq_true hvideo), if_pos hvideo, List.length_append, length_packBytes h]
    split
    · rw [List.length_append, hsystem, hmap]
      rfl
    · rfl
  · rw [if_neg (fun hd => hvideo (of_decide_eq_true hd)), if_neg hvideo]
    rfl

/-- The model without bytes, from what its packets are. -/
theorem mp2p_parse_eq {r : List PesPacket × Nat}
    (hpes : Mp2p.encodePes tr f.stream f.pts f.dts f.data f.isKeyFrame
      (Mp2p.headersSize priv f.stream f.isKeyFrame) (allocSize f.data.length) = some r) :
    Mp2p.parse tr priv f.stream f.isKeyFrame f.pts f.dts f.data =
      (.noError, { priv with govStart := priv.govStart || f.startsGov },
        if 0 < r.2 ∧ (priv.govStart || f.startsGov) = true then
          [⟨if f.isVideo then some (Mp2p.putPackHeader priv (pts2PsTimestamp tr f.pts)) else none,
            if f.startsGov then some (Mp2p.putSystemHeader priv, Mp2p.putSystemMapHeader priv)
              else none,
            r.1, f.pts, f.dts⟩]
        else []) := by
  unfold Mp2p.headersSize at hpes
  unfold Mp2p.parse Frame.startsGov Frame.isVideo
  dsimp only
  split
  · next hnone =>
    by_cases hvideo : f.stream.mediaType = .video
    · rw [if_pos hvideo] at hpes
      cases hkey : f.isKeyFrame
      · simp only [hkey, hvideo] at hpes hnone
        cases hnone.symm.trans hpes
      · simp only [hkey, hvideo] at hpes hnone
        cases hnone.symm.trans hpes
    · rw [if_neg hvideo] at hpes
      simp only [hvideo, decide_false, Bool.and_false] at hpes hnone
      cases hnone.symm.trans hpes
  · next pes retSize hsome =>
    suffices hr : some (pes, retSize) = some r by
      cases hr
      rfl
    by_cases hvideo : f.stream.mediaType = .video
    · rw [if_pos hvideo] at hpes
      cases hkey : f.isKeyFrame
      · simp only [hkey, hvideo] at hpes hsome
        exact hsome.symm.trans hpes
      · simp only [hkey, hvideo] at hpes hsome
        exact hsome.symm.trans hpes
    · rw [if_neg hvideo] at hpes
      simp only [hvideo, decide_false, Bool.and_false] at hpes hsome
      exact hsome.symm.trans hpes

/-- The bytes of what `Mp2p.parse` puts out for a frame. -/
theorem bufferBytes_headers (tr : Track) (priv : Priv) (f : Frame) (packets : List PesPacket) :
    bufferBytes priv
        ⟨if f.isVideo then some (Mp2p.putPackHeader priv (pts2PsTimestamp tr f.pts)) else none,
          if f.startsGov then some (Mp2p.putSystemHeader priv, Mp2p.putSystemMapHeader priv) else none,
          packets, f.pts, f.dts⟩ =
      headerBytes tr priv f ++ packets.flatMap PesPacket.bytes := by
  unfold bufferBytes headerBytes Frame.startsGov
  cases f.isVideo
  · cases f.isKeyFrame <;> rfl
  · cases f.isKeyFrame <;> rfl

/-- **The bytes are those of the model without bytes**. -/
theorem parse_eq (h : Sound priv) (hf : f.Ok priv) :
    parse tr priv f = .ok (
      let r := Mp2p.parse tr priv f.stream f.isKeyFrame f.pts f.dts f.data
      (r.1, r.2.1, r.2.2.head?.map (bufferBytes priv))) := by
  obtain ⟨packets, out, hencoded, -, hparse⟩ := parse_out tr h hf
  have hloop := hencoded.loop
  have hlength := length_headerBytes h tr f
  have hpes : Mp2p.encodePes tr f.stream f.pts f.dts f.data f.isKeyFrame
      (Mp2p.headersSize priv f.stream f.isKeyFrame) (allocSize f.data.length) =
        some (if Mp2p.withheld tr f.stream f.isKeyFrame then ([], 0)
          else (packets, (packets.flatMap PesPacket.bytes).length)) := by
    unfold Mp2p.encodePes
    rw [not_withheld, ← hlength]
    cases Mp2p.withheld tr f.stream f.isKeyFrame
    · rw [Bool.not_false, if_pos rfl, hloop, Option.map_some, List.length_append]
      dsimp only
      rw [Nat.add_sub_cancel_left]
      rfl
    · rfl
  have hempty := pos_iff hencoded.payload hencoded.nil
  rw [hparse, mp2p_parse_eq hpes, hencoded.out]
  cases hwithheld : Mp2p.withheld tr f.stream f.isKeyFrame
  · have hiff : (0 < (packets.flatMap PesPacket.bytes).length ∧
        (priv.govStart || f.startsGov) = true) ↔
        f.delivered tr (priv.govStart || f.startsGov) = true := by
      rw [hempty, Frame.delivered, hwithheld, Bool.not_false, Bool.and_true, Bool.and_eq_true,
        decide_eq_true_iff]
    rw [if_neg Bool.false_ne_true]
    dsimp only
    rw [if_congr hiff rfl rfl]
    split
    · rw [List.head?_cons, Option.map_some, bufferBytes_headers]
    · rfl
  · have hnot : f.delivered tr (priv.govStart || f.startsGov) = false := by
      rw [Frame.delivered, hwithheld, Bool.not_true, Bool.and_false, Bool.false_and]
    rw [hnot, if_pos rfl]
    dsimp only
    rw [if_neg fun hpos : 0 < 0 ∧ _ => Nat.lt_irrefl 0 hpos.1]
    rfl

/-! ## Elements of a stream -/

theorem elementSize_append {m : Bytes} {n : Nat} (h : elementSize m = some n) (rest : Bytes) :
    elementSize (m ++ rest) = some n := by
  unfold elementSize at h
  split at h
  · next code tail =>
    show (if code = 0xba then (tail ++ rest)[9]?.map _ else _) = _
    split_ifs at h ⊢ with hpack hcode
    · obtain ⟨b, hb, hn⟩ := Option.map_eq_some_iff.1 h
      obtain ⟨hlt, -⟩ := List.getElem?_eq_some_iff.1 hb
      rw [List.getElem?_append_left hlt, hb, ← hn]
      rfl
    · split at h
      · exact h
      · cases h
  · cases h

/-- Bytes that end where they say. -/
structure RawElement where
  bytes : Bytes
  sized : elementSize bytes = some bytes.length

/-- The element at the head of the bytes, and what is behind it. -/
def readRaw (bs : Bytes) : Option (RawElement × Bytes) :=
  (elementSize bs).bind fun n =>
    if h : elementSize (bs.take n) = some (bs.take n).length ∧ n ≤ bs.length then
      some (⟨bs.take n, h.1⟩, bs.drop n)
    else none

/-- A program stream is read element by element. -/
def psCode : StreamCode UInt8 RawElement where
  Valid _ := True
  write e := e.bytes
  read := readRaw
  write_ne_nil e h := by
    have hsized := e.sized
    rw [h] at hsized
    cases hsized
  read_write e rest _ := by
    have htake : (e.bytes ++ rest).take e.bytes.length = e.bytes := List.take_left
    have hsize : e.bytes.length ≤ (e.bytes ++ rest).length := by
      rw [List.length_append]
      exact Nat.le_add_right ..
    rw [readRaw, elementSize_append e.sized rest, Option.bind_some,
      dif_pos ⟨by rw [htake, e.sized], hsize⟩]
    simp only [htake, List.drop_left]
  read_part e part _ hpart hne := by
    unfold readRaw
    cases hsize : elementSize part with
    | none => rfl
    | some n =>
      obtain ⟨rest, hrest⟩ := hpart
      have hall := elementSize_append hsize rest
      rw [hrest, e.sized] at hall
      cases hall
      have hlt : part.length < e.bytes.length := by
        refine Nat.lt_of_le_of_ne ?_ fun heq => hne ?_
        · rw [← hrest, List.length_append]
          exact Nat.le_add_right ..
        · exact List.IsPrefix.eq_of_length ⟨rest, hrest⟩ heq
      rw [Option.bind_some, dif_neg fun h => Nat.not_le.2 hlt h.2]
  read_nil := rfl

/-- Elements, as a receiver finds them: the checksum of a map is good for a register of zeros only. -/
def Reads (out : Bytes) (es : List Element) : Prop :=
  ∃ raws : List RawElement, psCode.writeAll raws = out ∧
    (raws.map fun e => readElement 0 e.bytes) = es.map some ∧
    ∀ init, init ≠ 0 → ∀ e ∈ raws, ∀ m, readElement init e.bytes ≠ some (.streamMap m)

theorem reads_nil : Reads [] [] := ⟨[], rfl, rfl, fun _ _ _ h => absurd h List.not_mem_nil⟩

theorem Reads.append {out out' : Bytes} {es es' : List Element} (h : Reads out es)
    (h' : Reads out' es') : Reads (out ++ out') (es ++ es') := by
  obtain ⟨raws, rfl, hread, hcheck⟩ := h
  obtain ⟨raws', rfl, hread', hcheck'⟩ := h'
  refine ⟨raws ++ raws', psCode.writeAll_append .., ?_, fun init hinit e he => ?_⟩
  · rw [List.map_append, List.map_append, hread, hread']
  · exact (List.mem_append.1 he).elim (hcheck init hinit e) (hcheck' init hinit e)

theorem reads_one {bytes : Bytes} {e : Element} (hsize : elementSize bytes = some bytes.length)
    (hread : readElement 0 bytes = some e)
    (hcheck : ∀ init, init ≠ 0 → ∀ m, readElement init bytes ≠ some (.streamMap m)) :
    Reads bytes [e] := by
  refine ⟨[⟨bytes, hsize⟩], List.append_nil _, congrArg (· :: []) hread, fun init hinit raw hraw => ?_⟩
  rw [List.mem_singleton.1 hraw]
  exact hcheck init hinit

theorem avWb32_start {id : Nat} (h : id < 256) :
    avWb32 (0x100 ||| id) = [0, 0, 1, UInt8.ofNat id] := by
  have hor : 0x100 ||| id = 0x100 + id := (Nat.two_pow_add_eq_or_of_lt (i := 8) h 1).symm
  have h24 : (0x100 + id) / 2 ^ 24 = 0 := by omega
  have h16 : (0x100 + id) / 2 ^ 16 = 0 := by omega
  have h8 : (0x100 + id) / 2 ^ 8 = 1 := by omega
  have hlow : UInt8.ofNat (0x100 + id) = UInt8.ofNat id := by
    have hmod : (0x100 + id) % 2 ^ 8 = id % 2 ^ 8 := by omega
    rw [← ofNat_toNat_mod, hmod, ofNat_toNat_mod]
  rw [hor, avWb32, h24, h16, h8, hlow]
  rfl

/-- The first bytes of a packet. -/
theorem header_eq {p : PesPacket} (hid : p.streamId < 256) : ∃ rest, p.header = [0, 0, 1,
    UInt8.ofNat p.streamId] ++
      [UInt8.ofNat (p.length % 2 ^ 16 / 2 ^ 8), UInt8.ofNat (p.length % 2 ^ 16)] ++ rest := by
  have hcode : 0x100 ||| p.streamId < 2 ^ 32 := Nat.or_lt_two_pow (by decide) (by omega)
  have hstart : p.header = _ := bytesOf_start hcode ((Mp2p.putPesHeader p).drop 2)
  rw [avWb32_start hid] at hstart
  exact ⟨_, hstart⟩

theorem reads_packet {p : PesPacket} (h : p.Sized) (hid : 0xc0 ≤ p.streamId) :
    Reads p.bytes [.pes p.received] := by
  have hlt := h.streamId
  have hbounded := h.bounded
  unfold maxPesSize at hbounded
  have hmod : p.length % 2 ^ 16 = p.length := Nat.mod_eq_of_lt (by omega)
  obtain ⟨rest, hheader⟩ := header_eq hlt
  rw [hmod] at hheader
  have hval : (UInt8.ofNat p.streamId).toNat = p.streamId := by
    rw [UInt8.toNat_ofNat']
    omega
  have hge : 0xc0 ≤ UInt8.ofNat p.streamId := by
    rw [UInt8.le_iff_toNat_le, hval]
    exact hid
  have hne : ∀ code : UInt8, code < 0xc0 → UInt8.ofNat p.streamId ≠ code := by
    rintro code hcode rfl
    exact absurd hge (UInt8.not_le.2 hcode)
  have hread : ∀ init, readElement init p.bytes = some (.pes p.received) := fun init => by
    have hpes := h.readPes []
    rw [List.append_nil] at hpes
    have hdispatch : readElement init p.bytes = (Mp2p.readPes p.bytes).map fun r => .pes r.1 := by
      rw [PesPacket.bytes, hheader]
      show (if UInt8.ofNat p.streamId = 0xba then _ else if UInt8.ofNat p.streamId = 0xbb then _
        else if UInt8.ofNat p.streamId = 0xbc then _ else _) = _
      rw [if_neg (hne _ (by decide)), if_neg (hne _ (by decide)), if_neg (hne _ (by decide))]
    rw [hdispatch, hpes]
    rfl
  refine reads_one ?_ (hread 0) fun init _ m => ?_
  · rw [h.length_bytes, PesPacket.bytes, hheader, List.append_assoc]
    exact elementSize_start (UInt8.le_trans (by decide) hge) (by omega) _
  · rw [hread]
    intro heq
    cases heq

/-! ## What elements carry -/

namespace Element

/-- What an element carries of a stream. -/
def payloadOn (id : Nat) : Element → Bytes
  | .pes p => if p.streamId = id then p.payload else []
  | _ => []

/-- A time at the beginning of a frame of a stream. -/
def stampOn (id : Nat) : Element → Option Nat
  | .pes p => if p.streamId = id then p.pts else none
  | _ => none

def clock : Element → Option Nat
  | .pack clock _ => some clock
  | _ => none

/-- What the headers say is so. -/
def Describes (priv : Priv) : Element → Prop
  | .pack _ rate => rate = priv.muxRate
  | .system rate audioBound videoBound streams =>
    rate = priv.muxRate ∧ audioBound = priv.audioBound ∧ videoBound = priv.videoBound ∧
      streams = priv.streams.reduceOption.map infoValues
  | .streamMap streams => streams = priv.streams.reduceOption.map fun s => (s.streamType, s.streamId)
  | .pes _ => True

end Element

/-- The frames are in the elements: of every stream the bytes of its frames with their times, a pack
for every frame of a video stream, and headers that are true. -/
structure Carries (tr : Track) (priv : Priv) (fs : List Frame) (es : List Element) : Prop where
  payload : ∀ id, es.flatMap (Element.payloadOn id) =
    (fs.filter (·.stream.streamId = id)).flatMap Frame.data
  stamps : ∀ id, es.filterMap (Element.stampOn id) =
    (fs.filter (·.stream.streamId = id)).map fun f => pts2PsTimestamp tr f.pts % 2 ^ 33
  clocks : es.filterMap Element.clock =
    (fs.filter Frame.isVideo).map fun f => pts2PsTimestamp tr f.pts % 2 ^ 33
  describes : ∀ e ∈ es, e.Describes priv

theorem carries_nil (tr : Track) (priv : Priv) : Carries tr priv [] [] :=
  ⟨fun _ => rfl, fun _ => rfl, rfl, fun _ h => absurd h List.not_mem_nil⟩

theorem Carries.append {fs fs' : List Frame} {es es' : List Element} (h : Carries tr priv fs es)
    (h' : Carries tr priv fs' es') : Carries tr priv (fs ++ fs') (es ++ es') where
  payload id := by
    rw [List.flatMap_append, List.filter_append, List.flatMap_append, h.payload, h'.payload]
  stamps id := by
    rw [List.filterMap_append, List.filter_append, List.map_append, h.stamps, h'.stamps]
  clocks := by
    rw [List.filterMap_append, List.filter_append, List.map_append, h.clocks, h'.clocks]
  describes := List.forall_mem_append.2 ⟨h.describes, h'.describes⟩

/-- The headers do not tell that a group of pictures has begun. -/
theorem Carries.ofGov {govStart : Bool} {fs : List Frame} {es : List Element}
    (h : Carries tr { priv with govStart } fs es) : Carries tr priv fs es := by
  refine ⟨h.payload, h.stamps, h.clocks, fun e he => ?_⟩
  have hd := h.describes e he
  cases e with
  | pack clock rate => exact hd
  | system rate audioBound videoBound streams => exact hd
  | streamMap streams => exact hd
  | pes p => trivial

/-- The elements before the packets of a frame. -/
def headerElements (tr : Track) (priv : Priv) (f : Frame) : List Element :=
  if f.isVideo then
    .pack (pts2PsTimestamp tr f.pts % 2 ^ 33) priv.muxRate ::
      if f.isKeyFrame then
        [.system priv.muxRate priv.audioBound priv.videoBound
          (priv.streams.reduceOption.map infoValues),
          .streamMap (priv.streams.reduceOption.map fun s => (s.streamType, s.streamId))]
      else []
  else []

theorem reads_systemBytes (h : Sound priv) : Reads (systemBytes priv) [.system priv.muxRate
    priv.audioBound priv.videoBound (priv.streams.reduceOption.map infoValues)] := by
  have hsize := elementSize_systemBytes h []
  rw [List.append_nil] at hsize
  refine reads_one hsize (readElement_systemBytes h 0) fun init _ m => ?_
  rw [readElement_systemBytes h]
  intro heq
  cases heq

theorem reads_mapBytes (h : Sound priv) : Reads (mapBytes priv)
    [.streamMap (priv.streams.reduceOption.map fun s => (s.streamType, s.streamId))] := by
  have hsize := elementSize_mapBytes h []
  rw [List.append_nil] at hsize
  refine reads_one hsize ((readElement_mapBytes h 0).trans (if_pos rfl)) fun init hinit m => ?_
  rw [readElement_mapBytes h, if_neg hinit]
  intro heq
  cases heq

theorem reads_headers (h : Sound priv) (tr : Track) (f : Frame) :
    Reads (headerBytes tr priv f) (headerElements tr priv f) := by
  unfold headerBytes headerElements
  split
  · have hpack : Reads (packBytes priv (pts2PsTimestamp tr f.pts))
        [.pack (pts2PsTimestamp tr f.pts % 2 ^ 33) priv.muxRate] := by
      have hsize := elementSize_packBytes h (pts2PsTimestamp tr f.pts) []
      rw [List.append_nil] at hsize
      refine reads_one hsize (readElement_packBytes h 0 _) fun init _ m => ?_
      rw [readElement_packBytes h]
      intro heq
      cases heq
    have hmaps : Reads (if f.isKeyFrame = true then systemBytes priv ++ mapBytes priv else [])
        (if f.isKeyFrame = true then
          [.system priv.muxRate priv.audioBound priv.videoBound
            (priv.streams.reduceOption.map infoValues),
            .streamMap (priv.streams.reduceOption.map fun s => (s.streamType, s.streamId))]
        else []) := by
      split
      · exact (reads_systemBytes h).append (reads_mapBytes h)
      · exact reads_nil
    exact hpack.append hmaps
  · exact reads_nil

theorem reads_packets {stream : Mp2p.StreamInfo} (hc : Created stream) {pts offset : Nat}
    {first : Bool} {ps : List PesPacket} (h : Mp2p.Laid stream pts offset first ps) :
    Reads (ps.flatMap PesPacket.bytes) (ps.map fun p => .pes p.received) := by
  induction ps generalizing offset first with
  | nil => exact reads_nil
  | cons p ps ih =>
    obtain ⟨hat, -, -, hrest⟩ := h
    have hid : 0xc0 ≤ p.streamId := by
      rw [hat.streamId]
      rcases hc.id with ⟨-, hge, -⟩ | ⟨-, hge⟩ <;> omega
    exact (reads_packet (hat.sized hc.toCreated) hid).append (ih hrest)

/-- The elements of a frame. -/
def elements (tr : Track) (priv : Priv) (f : Frame) (packets : List PesPacket) : List Element :=
  headerElements tr priv f ++ packets.map fun p => .pes p.received

theorem Encoded.reads {packets : List PesPacket} {out : Bytes} (he : Encoded tr priv f packets out)
    (h : Sound priv) (hf : f.Ok priv) : Reads out (elements tr priv f packets) := by
  rw [he.out]
  exact (reads_headers h tr f).append (reads_packets (h.created f.stream hf.stream) he.laid)

/-- What packets of one stream carry. -/
theorem packets_carry {stream : Mp2p.StreamInfo} {pts offset : Nat} {first : Bool}
    {ps : List PesPacket}
    (h : Mp2p.Laid stream pts offset first ps) (id : Nat) :
    (ps.map fun p => Element.pes p.received).flatMap (Element.payloadOn id) =
        (if stream.streamId = id then ps.flatMap PesPacket.payload else []) ∧
      (ps.map fun p => Element.pes p.received).filterMap (Element.stampOn id) =
        (if stream.streamId = id ∧ first = true ∧ ps ≠ [] then [pts % 2 ^ 33] else []) := by
  induction ps generalizing offset first with
  | nil => simp
  | cons p ps ih =>
    obtain ⟨hat, hfirst, hpts, hrest⟩ := h
    obtain ⟨hpayload, hstamps⟩ := ih hrest
    have hid : p.received.streamId = stream.streamId := hat.streamId
    have hstamp : p.received.pts = if first then some (pts % 2 ^ 33) else none := by
      rw [← hfirst, ← hpts]
      rfl
    have hpayloadOn : Element.payloadOn id (.pes p.received) =
        if stream.streamId = id then p.payload else [] := by
      show (if p.received.streamId = id then p.payload else []) = _
      rw [hid]
    have hstampOn : Element.stampOn id (.pes p.received) =
        if stream.streamId = id then if first then some (pts % 2 ^ 33) else none else none := by
      show (if p.received.streamId = id then p.received.pts else none) = _
      rw [hid, hstamp]
    rw [List.map_cons, List.flatMap_cons, hpayload, List.filterMap_cons, hstamps, List.flatMap_cons,
      hpayloadOn, hstampOn]
    by_cases hsame : stream.streamId = id
    · cases first <;> simp [hsame]
    · simp [hsame]

theorem Encoded.carries {packets : List PesPacket} {out : Bytes} (he : Encoded tr priv f packets out)
    (hne : f.data ≠ []) : Carries tr priv [f] (elements tr priv f packets) := by
  have hpackets : packets ≠ [] := by
    rintro rfl
    exact hne he.payload.symm
  have hpes : ∀ ps : List PesPacket,
      (ps.map fun p => Element.pes p.received).filterMap Element.clock = [] := fun ps => by
    rw [List.filterMap_map]
    exact List.filterMap_eq_nil_iff.2 fun p _ => rfl
  refine ⟨fun id => ?_, fun id => ?_, ?_, ?_⟩
  · have hheaders : (headerElements tr priv f).flatMap (Element.payloadOn id) = [] := by
      unfold headerElements
      split_ifs <;> rfl
    rw [elements, List.flatMap_append, hheaders, (packets_carry he.laid id).1, he.payload,
      List.filter_singleton]
    by_cases hid : f.stream.streamId = id
    · simp [hid]
    · simp [hid]
  · have hheaders : (headerElements tr priv f).filterMap (Element.stampOn id) = [] := by
      unfold headerElements
      split_ifs <;> rfl
    rw [elements, List.filterMap_append, hheaders, (packets_carry he.laid id).2,
      List.filter_singleton]
    by_cases hid : f.stream.streamId = id
    · simp [hid, hpackets]
    · simp [hid]
  · rw [elements, List.filterMap_append, hpes, List.append_nil, List.filter_singleton]
    unfold headerElements
    cases f.isVideo
    · rfl
    · cases f.isKeyFrame <;> rfl
  · intro e hmem
    rcases List.mem_append.1 hmem with hmem | hmem
    · unfold headerElements at hmem
      split_ifs at hmem
      · rcases List.mem_cons.1 hmem with rfl | hmem
        · rfl
        rcases List.mem_cons.1 hmem with rfl | hmem
        · exact ⟨rfl, rfl, rfl, rfl⟩
        · rw [List.mem_singleton.1 hmem]
          rfl
      · rw [List.mem_singleton.1 hmem]
        rfl
      · cases hmem
    · obtain ⟨p, -, rfl⟩ := List.mem_map.1 hmem
      trivial

/-! ## All frames -/

/-- The frames that are put out, from the first key frame of a video stream on. -/
def deliveredFrames (tr : Track) : Bool → List Frame → List Frame
  | _, [] => []
  | govStart, f :: fs =>
    let govStart := govStart || f.startsGov
    if f.delivered tr govStart then f :: deliveredFrames tr govStart fs
    else deliveredFrames tr govStart fs

theorem Sound.withGov (h : Sound priv) (govStart : Bool) : Sound { priv with govStart } :=
  ⟨h.muxRate, h.audioBound, h.videoBound, h.length, h.created⟩

theorem fragments_ok (f : Frame) {data : Bytes} (hshort : data.length < 2 ^ 31) :
    ∃ payloads, fragments f (some data) = .ok payloads ∧
      (payloads.flatMap fun b => b.data) = data ∧
      ∀ b ∈ payloads, b.data.length ≤ Mp2p.defaultMtu := by
  have hloop := Mp2p.fragLoop_eq ⟨f.pts, f.dts, 0⟩ [] data hshort
  rw [List.nil_append] at hloop
  unfold fragments Mp2p.mp2pRtpFrag
  dsimp only
  by_cases hle : data.length ≤ Mp2p.defaultMtu
  · rw [if_pos hle]
    refine ⟨_, rfl, List.append_nil data, fun b hb => ?_⟩
    rw [List.mem_singleton.1 hb]
    exact hle
  · rw [if_neg hle, Mp2p.bmod_length hshort, hloop]
    exact ⟨_, rfl, Mp2p.frags_whole _ data, Mp2p.frags_size _ data⟩

/-- The payloads of frames are elements that carry the frames put out. -/
theorem parseAll_reads (tr : Track) (h : Sound priv) {fs : List Frame} (hfs : ∀ f ∈ fs, f.Ok priv) :
    ∃ priv' payloads es, parseAll tr priv fs = .ok (priv', payloads) ∧
      (∀ b ∈ payloads, b.data.length ≤ Mp2p.defaultMtu) ∧
      Reads (payloads.flatMap fun b => b.data) es ∧
      Carries tr priv (deliveredFrames tr priv.govStart fs) es := by
  induction fs generalizing priv with
  | nil => exact ⟨priv, [], [], rfl, fun b hb => absurd hb List.not_mem_nil, reads_nil, carries_nil ..⟩
  | cons f fs ih =>
    obtain ⟨hf, hrest⟩ := List.forall_mem_cons.1 hfs
    obtain ⟨packets, out, hencoded, hlength, hparse⟩ := parse_out tr h hf
    obtain ⟨priv', payloads, es, hall, hsize, hreads, hcarries⟩ :=
      ih (h.withGov (priv.govStart || f.startsGov)) fun f' hf' => ⟨(hrest f' hf').1, (hrest f' hf').2⟩
    replace hcarries := hcarries.ofGov
    rw [parseAll, hparse, Except.bind, deliveredFrames]
    cases hdelivered : f.delivered tr (priv.govStart || f.startsGov)
    · refine ⟨priv', payloads, es, ?_, hsize, hreads, hcarries⟩
      show (fragments f none).bind _ = _
      rw [fragments, Except.bind, hall]
      rfl
    · obtain ⟨first, hfirst, hdata, hmtu⟩ := fragments_ok f hlength
      have hne : f.data ≠ [] := by
        rintro hnil
        rw [Frame.delivered, hnil] at hdelivered
        cases hdelivered
      refine ⟨priv', first ++ payloads, _, ?_, List.forall_mem_append.2 ⟨hmtu, hsize⟩, ?_,
        (hencoded.carries hne).append hcarries⟩
      · show (fragments f (some out)).bind _ = _
        rw [hfirst, Except.bind, hall]
        rfl
      · rw [List.flatMap_append, hdata]
        exact (hencoded.reads h hf).append hreads

/-- What a receiver finds in the first part of a stream, and that its register of the checksum has to
start with zeros. -/
structure Received (es : List Element) (whole bytes : Bytes) : Prop where
  found : ((psCode.messages bytes).1.map fun e => readElement 0 e.bytes) <+: es.map some
  all : bytes = whole →
    ((psCode.messages bytes).1.map fun e => readElement 0 e.bytes) = es.map some ∧
      (psCode.messages bytes).2 = []
  check : ∀ init, init ≠ 0 → ∀ e ∈ (psCode.messages bytes).1, ∀ m,
    readElement init e.bytes ≠ some (.streamMap m)

theorem Reads.received {es : List Element} {whole bytes : Bytes} (h : Reads whole es)
    (hbytes : bytes <+: whole) : Received es whole bytes := by
  obtain ⟨raws, rfl, hread, hcheck⟩ := h
  obtain ⟨some, rest, part, rfl, hpart, rfl⟩ :=
    psCode.exists_of_prefix (fun _ _ => trivial) hbytes
  have hmessages := psCode.messages_writeAll hpart (fun e (_ : e ∈ some) => trivial)
  refine ⟨?_, fun hwhole => ?_, fun init hinit e he => ?_⟩
  · rw [hmessages, ← hread, List.map_append]
    exact List.prefix_append ..
  · have hend := psCode.messages_writeAll (.inl rfl) (fun e (_ : e ∈ some ++ rest) => trivial)
    rw [List.append_nil, ← hwhole] at hend
    rw [hend, hread]
    exact ⟨rfl, rfl⟩
  · rw [hmessages] at he
    exact hcheck init hinit e (List.mem_append_left rest he)

def cameraMetadata : StreamMetadata where
  bps := 2000000
  subStreams := [{ mediaType := .video, codecName := "MP4V-ES" },
    { mediaType := .audio, codecName := "PCMU" }]

def cameraVideo : Mp2p.StreamInfo := ⟨0xe0, 0x10, .video, 4 * 1024 * 1024⟩

def cameraAudio : Mp2p.StreamInfo := ⟨0xc0, 0x90, .audio, 8 * 1024⟩

def cameraPriv : Priv := ⟨5275, 1, 1, [some cameraVideo, some cameraAudio], false⟩

def cameraFrames : List Frame :=
  [⟨cameraAudio, true, 0, 0, [1, 2]⟩, ⟨cameraVideo, true, 0, 0, [0, 0, 1, 0xb3]⟩,
    ⟨cameraAudio, true, 1 / 50, 1 / 50, [3, 4]⟩]

end ProgramStream

end StreamSwitch
