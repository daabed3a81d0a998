import StreamSwitch.Defs
import StreamSwitch.Lib.Binary64

/-!
# The MP2P parser of the RTSP port

`media/parser/mp2p.cc`: the frames of one track go into an MPEG-2 program stream. A
buffer of the program stream is given by its headers and PES packets, the values that
`put_bits` writes and not the bits; what `mp2p_rtp_frag` gets is the output of the
parser. Times are `double`s of seconds, rational numbers rounded after each operation.
-/

namespace StreamSwitch

namespace Mp2p

open Binary64

/-- `MP2P_MAX_PES_SIZE`, the `packet_size` of every track. -/
def maxPesSize : Nat := 8192

/-- `MAX_CACHE_SIZE`. -/
def maxCacheSize : Nat := 5 * 1024 * 1024

/-- What the headers say about a `StreamParser`. -/
structure StreamInfo where
  streamId : Nat
  streamType : Nat
  mediaType : SubStreamMediaType
  maxBufferSize : Nat
deriving DecidableEq, Repr

/-- `mp2p_priv`. -/
structure Priv where
  muxRate : Nat
  audioBound : Nat
  videoBound : Nat
  streams : List (Option StreamInfo)
  govStart : Bool := false
deriving DecidableEq, Repr

/-- The properties of a track that the parser reads; `playbackTime` is there for a live source. -/
structure Track where
  clockRate : Nat
  playbackTime : Option ℚ
  /-- `onlyKeyFrame` of the RTSP session. -/
  onlyKeyFrame : Bool
deriving DecidableEq

/-- The conversion of a `double` to `uint64_t`: the low bits of the integral part. -/
def doubleToUInt64 (x : ℚ) : Nat := ((if 0 ≤ x then ⌊x⌋ else -⌊-x⌋) % 2 ^ 64).toNat

/-- `pts2PSTimpstamp`, with the `double`s rounded after each operation. -/
def pts2PsTimestamp (tr : Track) (pts : ℚ) : Nat :=
  match tr.playbackTime with
  | some t => doubleToUInt64 (round64 (round64 (pts + t) * tr.clockRate))
  | none => doubleToUInt64 (round64 (pts * tr.clockRate))

/-! ## The program stream -/

structure PackHeader where
  timestamp : Nat
  muxRate : Nat
deriving DecidableEq, Repr

structure SystemHeader where
  muxRate : Nat
  audioBound : Nat
  videoBound : Nat
  /-- Stream id and buffer bound, in units of 128 bytes for audio and 1024 for video. -/
  streams : List (Nat × Nat)
deriving DecidableEq, Repr

structure SystemMapHeader where
  /-- Stream type and stream id. -/
  streams : List (Nat × Nat)
deriving DecidableEq, Repr

structure PesPacket where
  streamId : Nat
  /-- `PES_packet_length`. -/
  length : Nat
  stuffSize : Nat
  firstFrag : Bool
  dataAlignment : Bool
  ptsDtsFlag : Nat
  pts : Nat
  dts : Nat
  maxBufferSize : Nat
  payload : List UInt8
deriving DecidableEq, Repr

/-- What is handed to `mp2p_rtp_frag`, with the times of the track at that moment. -/
structure PsBuffer where
  pack : Option PackHeader
  system : Option (SystemHeader × SystemMapHeader)
  pes : List PesPacket
  pts : ℚ
  dts : ℚ
deriving DecidableEq

def putPackHeader (priv : Priv) (timestamp : Nat) : PackHeader := ⟨timestamp, priv.muxRate⟩

/-- Bytes of a pack header. -/
def packHeaderSize : Nat := 14

/-- Only the first private stream is listed. -/
def systemStreams : Bool → List StreamInfo → List (Nat × Nat)
  | _, [] => []
  | privateCoded, s :: rest =>
    if s.streamId < 0xc0 then
      if privateCoded then systemStreams privateCoded rest
      else (0xbd, s.maxBufferSize / 128) :: systemStreams true rest
    else if s.streamId < 0xe0 then
      (s.streamId, s.maxBufferSize / 128) :: systemStreams privateCoded rest
    else (s.streamId, s.maxBufferSize / 1024) :: systemStreams privateCoded rest

def putSystemHeader (priv : Priv) : SystemHeader :=
  ⟨priv.muxRate, priv.audioBound, priv.videoBound, systemStreams false priv.streams.reduceOption⟩

def SystemHeader.size (h : SystemHeader) : Nat := 12 + 3 * h.streams.length

def putSystemMapHeader (priv : Priv) : SystemMapHeader :=
  ⟨priv.streams.reduceOption.map fun s => (s.streamType, s.streamId)⟩

/-- With the CRC. -/
def SystemMapHeader.size (h : SystemMapHeader) : Nat := 12 + 4 * h.streams.length + 4

/-- Header size and stuffing of a PES packet that starts at `preSize`: its payload is aligned to 4. -/
def getPesHeaderSize (preSize ptsDtsFlag : Nat) (firstFrag : Bool) : Nat × Nat :=
  let headerSize := 9 + (if ptsDtsFlag = 2 then 5 else if ptsDtsFlag = 3 then 10 else 0) +
    (if firstFrag then 3 else 0)
  let align := (preSize + headerSize + 1 + 3) / 4 * 4
  let stuffSize := align - headerSize - preSize
  (headerSize + stuffSize, stuffSize)

/-- A header leaves room for a payload. -/
theorem getPesHeaderSize_lt (preSize ptsDtsFlag : Nat) (firstFrag : Bool) :
    (getPesHeaderSize preSize ptsDtsFlag firstFrag).1 < maxPesSize := by
  unfold getPesHeaderSize maxPesSize
  dsimp only
  split
  all_goals try split
  all_goals try split
  all_goals omega

/-- The loop of `EncodePes`; `none` where the source returns -1. -/
def encodePesLoop (stream : StreamInfo) (pts dts maxSize : Nat) (bufSize ptsDtsFlag : Nat)
    (firstFrag : Bool) (data : List UInt8) : Option (List PesPacket × Nat) :=
  if data = [] then some ([], bufSize)
  else
    let header := getPesHeaderSize bufSize ptsDtsFlag firstFrag
    let partialSize :=
      if header.1 + data.length > maxPesSize then maxPesSize - header.1 else data.length
    let pesSize := header.1 + partialSize
    if pesSize + bufSize > maxSize then none
    else
      let packet : PesPacket := {
        streamId := stream.streamId
        length := pesSize - 6
        stuffSize := header.2
        firstFrag
        dataAlignment := decide (stream.mediaType = .video) && firstFrag
        ptsDtsFlag
        pts
        dts
        maxBufferSize := stream.maxBufferSize
        payload := data.take partialSize }
      (encodePesLoop stream pts dts maxSize (bufSize + pesSize) 0 false
        (data.drop partialSize)).map fun (packets, size) => (packet :: packets, size)
termination_by data.length
decreasing_by
  rename_i hdata _
  have hlt := getPesHeaderSize_lt bufSize ptsDtsFlag firstFrag
  have hpos := List.length_pos_iff.2 hdata
  rw [List.length_drop]
  split
  · omega
  · omega

/-- `StreamParser::EncodePes`: the packets and the bytes they take. -/
def encodePes (tr : Track) (stream : StreamInfo) (pts dts : ℚ) (data : List UInt8)
    (isKeyFrame : Bool) (bufSize maxSize : Nat) : Option (List PesPacket × Nat) :=
  if !tr.onlyKeyFrame || isKeyFrame || decide (stream.mediaType = .audio) then
    (encodePesLoop stream (pts2PsTimestamp tr pts) (pts2PsTimestamp tr dts) maxSize bufSize 2 true
      data).map fun (packets, size) => (packets, size - bufSize)
  else some ([], 0)

inductive ParseError | noError | alloc | resourceNotParseable
deriving DecidableEq, Repr

/-- `StreamParser::Parse`. -/
def parse (tr : Track) (priv : Priv) (stream : StreamInfo) (isKeyFrame : Bool) (pts dts : ℚ)
    (data : List UInt8) : ParseError × Priv × List PsBuffer :=
  let maxBufSize := 256 + (data.length + maxPesSize - 100 - 1) / (maxPesSize - 100) * 256 +
    data.length + 1024
  let isVideo := decide (stream.mediaType = .video)
  let pack := if isVideo then some (putPackHeader priv (pts2PsTimestamp tr pts)) else none
  let system := if isKeyFrame && isVideo then some (putSystemHeader priv, putSystemMapHeader priv)
    else none
  let bufSize := pack.elim 0 (fun _ => packHeaderSize) +
    system.elim 0 fun (header, map) => header.size + map.size
  -- A key frame starts a new group of pictures.
  let priv := { priv with govStart := priv.govStart || (isKeyFrame && isVideo) }
  match encodePes tr stream pts dts data isKeyFrame bufSize maxBufSize with
  | none => (.resourceNotParseable, priv, [])
  | some (pes, retSize) =>
    (.noError, priv, if 0 < retSize ∧ priv.govStart then [⟨pack, system, pes, pts, dts⟩] else [])

/-! ## H.264 -/

/-- `H264StreamParser`. -/
structure H264StreamParser where
  isKeyFrame : Bool := false
  frameCache : List UInt8 := []
  cachePts : ℚ := 0
  cacheDts : ℚ := 0
deriving DecidableEq

/-- The track of an H.264 stream with what it has handed on since it was reset. -/
structure H264Track where
  track : Track
  stream : StreamInfo
  priv : Priv
  parser : H264StreamParser := {}
  output : List PsBuffer := []
deriving DecidableEq

/-- A frame as `mp2p_parse` is called with it; the times are those of the track. -/
structure TimedFrame where
  data : List UInt8
  pts : ℚ
  dts : ℚ
deriving DecidableEq

def nalUnitType (b : UInt8) : Nat := b.toNat % 32

/-- `IsVCL`: the type is read from the first byte. -/
def isVcl : List UInt8 → Bool
  | [] => false
  | b :: _ => nalUnitType b ≤ 5

/-- `IsIDR`. -/
def isIdr : List UInt8 → Bool
  | [] => false
  | b :: _ => nalUnitType b = 5

/-- `FlushCache`: the cached frames go out with the times of the first of them. -/
def flushCache (t : H264Track) : ParseError × H264Track :=
  if t.parser.frameCache = [] then (.noError, t)
  else
    let (ret, priv, out) := parse t.track t.priv t.stream t.parser.isKeyFrame t.parser.cachePts
      t.parser.cacheDts t.parser.frameCache
    (ret, { t with
      priv
      parser := { t.parser with frameCache := [] }
      output := t.output ++ out })

/-- `AppendCache`; `none` where the cache is full. -/
def appendCache (p : H264StreamParser) (frame : TimedFrame) : Option H264StreamParser :=
  if p.frameCache.length ≥ maxCacheSize then none
  else if p.frameCache = [] then
    some { p with frameCache := frame.data, cachePts := frame.pts, cacheDts := frame.dts }
  else some { p with frameCache := p.frameCache ++ frame.data }

/-- The cached frames belong to another time. -/
def timeMoved (p : H264StreamParser) (frame : TimedFrame) : Bool :=
  decide (|frame.pts - p.cachePts| ≥ 2 / 1000) || decide (|frame.dts - p.cacheDts| ≥ 2 / 1000)

/-- `H264StreamParser::Parse`. -/
def H264Track.parse (t : H264Track) (frame : TimedFrame) : ParseError × H264Track :=
  let t := if t.parser.frameCache ≠ [] ∧ timeMoved t.parser frame then (flushCache t).2 else t
  match appendCache t.parser frame with
  | none => (.alloc, t)
  | some parser =>
    let t := { t with parser := { parser with isKeyFrame := isIdr frame.data } }
    if isVcl frame.data then flushCache t else (.noError, t)

/-- `mp2p_reset`. -/
def H264Track.reset (t : H264Track) : H264Track :=
  { t with
    parser := {}
    priv := { t.priv with govStart := false }
    output := [] }

/-- The track after a sequence of frames. -/
def H264Track.parseAll (t : H264Track) (frames : List TimedFrame) : H264Track :=
  frames.foldl (fun t frame => (t.parse frame).2) t

/-! ## Frames in the documented format -/

/-- A NAL unit. -/
structure Nal where
  header : UInt8
  body : List UInt8
deriving DecidableEq, Repr

def Nal.bytes (n : Nal) : List UInt8 := n.header :: n.body

def Nal.isVcl (n : Nal) : Bool := 1 ≤ nalUnitType n.header ∧ nalUnitType n.header ≤ 5

def Nal.isIdr (n : Nal) : Bool := nalUnitType n.header = 5

def startCode : List UInt8 := [0, 0, 0, 1]

/-- An H.264 frame as a source sends it: one or more NAL units behind start codes, at most one of them
with picture data. -/
structure H264Frame where
  nals : List Nal
  pts : ℚ
  dts : ℚ
  nals_ne_nil : nals ≠ []
  oneVcl : nals.countP Nal.isVcl ≤ 1

namespace H264Frame

def bytes (f : H264Frame) : List UInt8 := f.nals.flatMap fun n => startCode ++ n.bytes

def timed (f : H264Frame) : TimedFrame := ⟨f.bytes, f.pts, f.dts⟩

def HasVcl (f : H264Frame) : Prop := ∃ n ∈ f.nals, n.isVcl

def HasIdr (f : H264Frame) : Prop := ∃ n ∈ f.nals, n.isIdr

end H264Frame

/-- The payload of the PES packets of a buffer. -/
def PsBuffer.payload (b : PsBuffer) : List UInt8 := b.pes.flatMap (·.payload)

/-- The output for a sequence of frames. It begins with the group of the first frame that has an IDR
NAL unit; a group is what was cached, frames without picture data, and the frame it went out with. The
frames at the end may still be cached. -/
structure Delivers (frames : List H264Frame) (output : List PsBuffer) : Prop where
  ex : ∃ (dropped : List H264Frame) (groups : List (List H264Frame)) (cached : List H264Frame),
    frames = dropped ++ groups.flatten ++ cached ∧
    (∀ f ∈ dropped, ¬ f.HasIdr) ∧ (∀ f ∈ cached, ¬ f.HasVcl) ∧
    (∀ g ∈ groups, ∀ f ∈ g.dropLast, ¬ f.HasVcl) ∧
    (∀ g ∈ groups.head?, ∃ f ∈ g, f.HasIdr) ∧
    List.Forall₂ (fun g b => PsBuffer.payload b = g.flatMap H264Frame.bytes ∧
      ((∃ f ∈ g, f.HasIdr) → b.system.isSome)) groups output

theorem H264Frame.HasIdr.hasVcl {f : H264Frame} (h : f.HasIdr) : f.HasVcl := by
  obtain ⟨n, hn, hidr⟩ := h
  refine ⟨n, hn, ?_⟩
  have htype : nalUnitType n.header = 5 := by simpa [Nal.isIdr] using hidr
  simp [Nal.isVcl, htype]

/-! ## What the parser makes of them -/

/-- A frame begins with a zero byte. -/
theorem H264Frame.bytes_eq (f : H264Frame) : ∃ rest, f.bytes = 0 :: rest := by
  obtain ⟨n, nals, hn⟩ := List.exists_cons_of_ne_nil f.nals_ne_nil
  exact ⟨[0, 0, 1] ++ n.bytes ++ nals.flatMap fun n => startCode ++ n.bytes, by
    simp [bytes, hn, startCode]⟩

/-- No group of pictures has begun, and the next frame is none for the parser. -/
structure Silent (t : H264Track) : Prop where
  govStart : t.priv.govStart = false
  isKeyFrame : t.parser.isKeyFrame = false
  output : t.output = []

theorem parse_of_not_started {tr : Track} {priv : Priv} {stream : StreamInfo} {pts dts : ℚ}
    {data : List UInt8} (h : priv.govStart = false) :
    (parse tr priv stream false pts dts data).2.1.govStart = false ∧
      (parse tr priv stream false pts dts data).2.2 = [] := by
  unfold parse
  dsimp only
  split
  · exact ⟨by simp [h], rfl⟩
  · exact ⟨by simp [h], by simp [h]⟩

theorem Silent.flushCache {t : H264Track} (h : Silent t) : Silent (flushCache t).2 := by
  unfold Mp2p.flushCache
  split
  · exact h
  · rw [h.isKeyFrame]
    refine ⟨(parse_of_not_started h.govStart).1, h.isKeyFrame, ?_⟩
    show t.output ++ _ = []
    rw [(parse_of_not_started h.govStart).2, h.output, List.append_nil]

/-- The parser takes the start code for the NAL header, so a frame is never a key frame to it. -/
theorem isIdr_bytes (f : H264Frame) : isIdr f.bytes = false := by
  obtain ⟨rest, hbytes⟩ := f.bytes_eq
  rw [hbytes]
  rfl

theorem Silent.parse {t : H264Track} (h : Silent t) (f : H264Frame) :
    Silent (t.parse f.timed).2 := by
  unfold H264Track.parse
  have ht : Silent (if t.parser.frameCache ≠ [] ∧ timeMoved t.parser f.timed then
      (Mp2p.flushCache t).2 else t) := by
    split
    · exact h.flushCache
    · exact h
  revert ht
  generalize (if t.parser.frameCache ≠ [] ∧ timeMoved t.parser f.timed then
      (Mp2p.flushCache t).2 else t) = t'
  intro ht
  dsimp only
  split
  · exact ht
  · next parser hparser =>
    have hsilent : Silent { t' with parser := { parser with isKeyFrame := isIdr f.timed.data } } :=
      ⟨ht.govStart, isIdr_bytes f, ht.output⟩
    split
    · exact hsilent.flushCache
    · exact hsilent

/-- **Nothing comes out**: whatever frames follow a reset. -/
theorem Silent.parseAll {t : H264Track} (h : Silent t) (frames : List H264Frame) :
    Silent (t.parseAll (frames.map H264Frame.timed)) := by
  induction frames generalizing t with
  | nil => exact h
  | cons f frames ih => exact ih (h.parse f)

theorem silent_reset (t : H264Track) : Silent t.reset := ⟨rfl, rfl, rfl⟩

theorem delivers_nil_iff (frames : List H264Frame) :
    Delivers frames [] ↔ ∀ f ∈ frames, ¬ f.HasIdr := by
  constructor
  · rintro ⟨dropped, groups, cached, rfl, hdropped, hcached, -, -, hout⟩ f hf
    cases hout
    rw [List.flatten_nil, List.append_nil, List.mem_append] at hf
    rcases hf with hf | hf
    · exact hdropped f hf
    · exact fun hidr => hcached f hf hidr.hasVcl
  · intro h
    exact ⟨frames, [], [], by simp, h, by simp, by simp, by simp, .nil⟩

theorem parseAll_output (t : H264Track) (frames : List H264Frame) :
    (t.reset.parseAll (frames.map H264Frame.timed)).output = [] :=
  ((silent_reset t).parseAll frames).output

/-- **MP2P output of H.264**: after a reset, the output is that of the frames exactly when there is
nothing to put out, because no frame has an IDR NAL unit. -/
theorem h264_delivers_iff (t : H264Track) (frames : List H264Frame) :
    Delivers frames (t.reset.parseAll (frames.map H264Frame.timed)).output ↔
      ∀ f ∈ frames, ¬ f.HasIdr := by
  rw [parseAll_output]
  exact delivers_nil_iff frames

/-- An IDR picture. -/
def idrFrame : H264Frame where
  nals := [⟨0x65, [0x88]⟩]
  pts := 0
  dts := 0
  nals_ne_nil := by decide
  oneVcl := by decide

/-- It is not put out. -/
theorem idr_frame_lost : ¬ ∀ (t : H264Track) (frames : List H264Frame),
    Delivers frames (t.reset.parseAll (frames.map H264Frame.timed)).output := by
  intro h
  have hidr : idrFrame.HasIdr := ⟨⟨0x65, [0x88]⟩, by simp [idrFrame], by decide⟩
  have hd := h ⟨⟨90000, none, false⟩, ⟨0xe0, 0x1b, .video, 4 * 1024 * 1024⟩,
    ⟨1, 0, 1, [some ⟨0xe0, 0x1b, .video, 4 * 1024 * 1024⟩], false⟩, {}, []⟩ [idrFrame]
  rw [parseAll_output, delivers_nil_iff] at hd
  exact hd idrFrame (by simp) hidr

end Mp2p

end StreamSwitch
