import Mathlib.Data.UInt
import StreamSwitch.Defs
import StreamSwitch.Lib.Buffer
import StreamSwitch.Lib.Clock

/-!
# Stream parsers of the ffmpeg source

`StreamParser`, `H264or5Parser` and `Mpeg4Parser` of `sources/ffmpeg_demuxer_source`:
what `Init` makes of the extra data that libavformat gives, and what `Parse` does
to a packet, its timestamp and the metadata of its sub-stream. What libavformat
says of a stream or a packet and the time of day are inputs; times and products
are integers without a bound.

`Parse` may leave the packet pointing into the key frame buffer of its parser, so
the payload of a parsed packet is either bytes of its own or such a pointer.
-/

namespace StreamSwitch.Ffmpeg

open Clock Buffer

/-! ## What libavformat describes -/

/-- `AV_NOPTS_VALUE`. -/
def noPts : Int := -2 ^ 63

/-- The unit of a stream's timestamps, in seconds. -/
structure TimeBase where
  num : Int
  den : Int
  num_pos : 0 < num
  den_pos : 0 < den
deriving DecidableEq, Repr

theorem thousand_pos : (0 : Int) < 1000 := by decide

inductive AVMediaType | unknown | video | audio | data | subtitle | attachment
deriving DecidableEq, Repr

/-- The codecs that the table of parsers names; any other with what `avcodec_get_name` says. -/
inductive AVCodecID
  | h264 | h265 | mpeg4 | aac | amrNb | pcmMulaw | pcmAlaw | other (name : String)
deriving DecidableEq, Repr

def codecNameFromId : AVCodecID → String
  | .h264 => "H264"
  | .h265 => "H265"
  | .mpeg4 => "MP4V-ES"
  | .aac => "AAC"
  | .amrNb => "AMR"
  | .pcmMulaw => "PCMU"
  | .pcmAlaw => "PCMA"
  | .other name => name

/-- What a stream says of its pictures. libavformat may change it with every packet. -/
structure Picture where
  width : UInt32 := 0
  height : UInt32 := 0
  avgFrameRateNum : Int := 0
  avgFrameRateDen : Int := 0
deriving DecidableEq, Repr

def Picture.hasFrameRate (pic : Picture) : Bool :=
  pic.avgFrameRateNum ≠ 0 && pic.avgFrameRateDen ≠ 0

/-- The frame rate in whole frames. -/
def Picture.fps (pic : Picture) : UInt32 :=
  UInt32.ofInt (pic.avgFrameRateNum.tdiv pic.avgFrameRateDen)

/-- An `AVStream` with the fields of its codec context. -/
structure AVStream where
  codecId : AVCodecID
  codecType : AVMediaType
  timeBase : TimeBase
  extradata : Bytes := []
  channels : UInt32 := 0
  sampleRate : UInt32 := 0
  bitsPerRawSample : UInt32 := 0
  picture : Picture := {}
deriving DecidableEq, Repr

/-- A packet with the payload `δ`. -/
structure AVPacket (δ : Type) where
  streamIndex : Nat
  pts : Int := noPts
  duration : Int := 0
  key : Bool := false
  corrupt : Bool := false
  data : δ
deriving DecidableEq, Repr

def AVPacket.withData {δ ε : Type} (pkt : AVPacket δ) (data : ε) : AVPacket ε :=
  ⟨pkt.streamIndex, pkt.pts, pkt.duration, pkt.key, pkt.corrupt, data⟩

/-- The payload after `Parse`: the packet's bytes or a part of the key frame buffer. -/
inductive Payload
  | own (bytes : Bytes)
  | keyFrameBuf (p : Ptr)
deriving DecidableEq, Repr

/-- A packet that `av_read_frame` returns, after its side data is split off, with what its
stream says by then and the time of day. -/
structure Packet where
  pkt : AVPacket Bytes
  picture : Picture := {}
  now : Stamp := {}
deriving DecidableEq, Repr

/-- `MediaFrameInfo` with a time that has no bound. -/
structure FrameInfo where
  subStreamIndex : Int32
  frameType : MediaFrameType
  timestamp : Stamp
  ssrc : UInt32 := 0
deriving DecidableEq, Repr

/-! ## NAL units -/

/-- `h_number_`. -/
inductive HNumber | h264 | h265
deriving DecidableEq, Repr

def startCode : Bytes := [0, 0, 0, 1]

def isVPS : HNumber → UInt8 → Bool
  | .h264, _ => false
  | .h265, t => t = 32

def isSPS : HNumber → UInt8 → Bool
  | .h264, t => t = 7
  | .h265, t => t = 33

def isPPS : HNumber → UInt8 → Bool
  | .h264, t => t = 8
  | .h265, t => t = 34

def isVCL : HNumber → UInt8 → Bool
  | .h264, t => t ≤ 5 && 0 < t
  | .h265, t => t ≤ 31

/-- The type in the first byte of a NAL unit. -/
def nalUnitType : HNumber → UInt8 → UInt8
  | .h264, b => b &&& 0x1F
  | .h265, b => (b &&& 0x7E) >>> 1

/-- The type of the unit behind the start code at the front of `rest`; H.265 asks for a byte
more than it reads. -/
def unitTypeAt (h : HNumber) (rest : Bytes) : UInt8 :=
  match h, rest.drop 4 with
  | .h264, b :: _ => nalUnitType .h264 b
  | .h265, b :: _ :: _ => nalUnitType .h265 b
  | _, _ => 0xFF

/-- The parameter sets seen so far. -/
structure ParamSets where
  vps : Bool := false
  sps : Bool := false
  pps : Bool := false
deriving DecidableEq, Repr

/-- The loop of `H264or5Parser::GetExtraDataSize` from the offset `off` on: `extra_size` and the
parameter sets in front of it. -/
def scanExtraData (h : HNumber) (off : Nat) : Bytes → ParamSets → Nat × ParamSets
  | [], seen => (0, seen)
  | b :: rest, seen =>
    if rest.length < 4 then
      -- `p == end - 4` unless the packet is shorter than that
      (if rest.length = 3 then off + 4 else 0, seen)
    else if (b :: rest).take 4 = startCode then
      let t := unitTypeAt h (b :: rest)
      if isVPS h t then scanExtraData h (off + 1) rest { seen with vps := true }
      else if isSPS h t then scanExtraData h (off + 1) rest { seen with sps := true }
      else if isPPS h t then scanExtraData h (off + 1) rest { seen with pps := true }
      else if isVCL h t then (off, seen)
      else scanExtraData h (off + 1) rest seen
    else scanExtraData h (off + 1) rest seen

/-- `H264or5Parser::GetExtraDataSize`. -/
def getExtraDataSize (h : HNumber) (bytes : Bytes) : Nat :=
  let (extraSize, seen) := scanExtraData h 0 bytes {}
  match h with
  | .h264 => if seen.sps && seen.pps then extraSize else 0
  | .h265 => if seen.vps && seen.sps && seen.pps then extraSize else 0

/-- `Mpeg4Parser::GetExtraDataSize`. -/
def mpeg4ExtraDataSize (bytes : Bytes) : Nat :=
  if bytes.take 4 = [0, 0, 1, 0xB0] then
    ((List.range bytes.length).find? fun i =>
      7 ≤ i && ((bytes.drop (i - 3)).take 4 = [0, 0, 1, 0xB3] ||
        (bytes.drop (i - 3)).take 4 = [0, 0, 1, 0xB6])).getD bytes.length
  else 0

/-! ## avcC and avc1 -/

/-- How `AvcCToAnnexB` fails: it returns -1, or it reads outside the string. -/
inductive AvcCError | refused | outside
deriving DecidableEq, Repr

/-- `RB16(p)`. -/
def rb16 (m : Bytes) (p : Nat) : Option Nat := do
  let hi ← m[p]?
  let lo ← m[p + 1]?
  return hi.toNat * 256 + lo.toNat

/-- One of the two loops of `AvcCToAnnexB`, for `cnt` units from `p` on. -/
def copyNals (m : Bytes) : (cnt : Nat) → (p : Nat) → (out : Bytes) →
    Except AvcCError (Nat × Bytes)
  | 0, p, out => .ok (p, out)
  | cnt + 1, p, out =>
    if m.length ≤ p then .error .refused
    else
      match rb16 m p with
      | none => .error .outside
      | some size =>
        if p + 2 + size ≤ m.length then
          copyNals m cnt (p + 2 + size) (out ++ startCode ++ (m.drop (p + 2)).take size)
        else .error .outside

/-- `H264or5Parser::AvcCToAnnexB`. The terminator of the string may be read, nothing behind it. -/
def avcCToAnnexB (extraData : Bytes) : Except AvcCError Bytes :=
  let m := extraData ++ [0]
  match m[5]? with
  | none => .error .outside
  | some cnt =>
    match copyNals m (cnt &&& 0x1F).toNat 6 [] with
    | .error e => .error e
    | .ok (p, out) =>
      match m[p]? with
      | none => .error .outside
      | some cnt => (copyNals m cnt.toNat (p + 1) out).map (·.2)

/-- `FF_INPUT_BUFFER_PADDING_SIZE` zero bytes lie behind every packet. -/
def padding : Bytes := List.replicate 32 0

/-- `(int)ntohl(...)` of the first four bytes. -/
def lengthField : Bytes → Int
  | b0 :: b1 :: b2 :: b3 :: _ =>
    int32OfSize (((b0.toNat * 256 + b1.toNat) * 256 + b2.toNat) * 256 + b3.toNat)
  | _ => 0

/-- The loop that puts a start code in place of every length field of a packet of `size` bytes,
from `p` on; `none` when `p` leaves the memory `mem` of the packet. -/
def addStartCodes (size : Nat) : (fuel : Nat) → (mem : Bytes) → (p : Int) → Option Bytes
  | 0, _, _ => none
  | fuel + 1, mem, p =>
    if 0 ≤ p ∧ p + 4 ≤ mem.length then
      let q := p.toNat
      let len := lengthField (mem.drop q)
      let mem := mem.take q ++ startCode ++ mem.drop (q + 4)
      if size - 4 ≤ p + 4 + len then some mem else addStartCodes size fuel mem (p + 4 + len)
    else none

/-- The packet in Annex-B form. A turn of the loop either goes forwards or overwrites one of the
bytes that make a length negative, so the fuel lasts. -/
def annexB (bytes : Bytes) : Option Bytes :=
  let mem := bytes ++ padding
  if mem.take 4 = startCode then some bytes
  else
    (addStartCodes bytes.length ((bytes.length + 1) * (bytes.length + 1)) mem 0).map
      (·.take bytes.length)

/-! ## Parsers -/

inductive ParserKind
  | plain
  | h264or5 (hNumber : HNumber) (extradataSize : Nat) (keyFrameBuf : Buf UInt8)
  | mpeg4
deriving DecidableEq, Repr

/-- A parser that `Init` has returned 0 for. -/
structure StreamParser where
  kind : ParserKind
  streamIndex : Nat
  stream : AVStream
  isLive : Bool
  gopStarted : Bool := false
  lastPts : Int := noPts
  lastDur : Int := 0
  lastLiveTs : Stamp := {}
deriving DecidableEq, Repr

/-- `base_pts_` and `base_timestamp_` of the demuxer. -/
structure Base where
  pts : Int := noPts
  timestamp : Stamp := {}
deriving DecidableEq, Repr

/-- `StreamParser::Init`. -/
def baseInit (kind : ParserKind) (i : Nat) (st : AVStream) (playType : StreamPlayType) :
    StreamParser :=
  { kind := kind, streamIndex := i, stream := st, isLive := playType = .live }

/-- The extra data of entry `i`. -/
def extraDataOf (subs : List SubStreamMetadata) (i : Nat) : Bytes :=
  (subs[i]?.map (·.extraData)).getD []

/-- Bytes that a `std::string` keeps in the object. -/
def localCapacity : Nat := 15

def setExtraData (subs : List SubStreamMetadata) (i : Nat) (extra : Bytes) :
    List SubStreamMetadata :=
  subs.modify i fun m => { m with extraData := extra }

/-- The extra data in Annex-B form: an avcC record, which starts with a 1, is converted. -/
def annexBExtra (h : HNumber) (extra : Bytes) : Except AvcCError Bytes :=
  if h = .h264 ∧ extra.head? = some 1 then avcCToAnnexB extra else .ok extra

/-- An H.264 or H.265 parser that has buffered the header `extra`. -/
def headerKind (h : HNumber) (extra : Bytes) : ParserKind :=
  .h264or5 h extra.length ((Buf.empty localCapacity).assign extra)

/-- `H264or5Parser::Init`. -/
def h264or5Init (h : HNumber) (i : Nat) (st : AVStream) (playType : StreamPlayType)
    (subs : List SubStreamMetadata) : Except AvcCError (StreamParser × List SubStreamMetadata) :=
  (annexBExtra h (extraDataOf subs i)).map fun extra =>
    (baseInit (headerKind h extra) i st playType, setExtraData subs i extra)

/-- `Mpeg4Parser::Init`. It uses its own `stream_index_`, which is still 0. -/
def mpeg4Init (i : Nat) (st : AVStream) (playType : StreamPlayType)
    (subs : List SubStreamMetadata) : StreamParser × List SubStreamMetadata :=
  (baseInit .mpeg4 i st playType, setExtraData subs 0 [])

/-- `NewStreamParser` and the `Init` of what it returns. -/
def newStreamParser (i : Nat) (st : AVStream) (playType : StreamPlayType)
    (subs : List SubStreamMetadata) : Except AvcCError (StreamParser × List SubStreamMetadata) :=
  match st.codecId with
  | .h264 => h264or5Init .h264 i st playType subs
  | .h265 => h264or5Init .h265 i st playType subs
  | .mpeg4 => .ok (mpeg4Init i st playType subs)
  | _ => .ok (baseInit .plain i st playType, subs)

theorem h264or5Init_ok {h : HNumber} {i : Nat} {st : AVStream} {playType : StreamPlayType}
    {subs subs' : List SubStreamMetadata} {p : StreamParser}
    (hp : h264or5Init h i st playType subs = .ok (p, subs')) :
    ∃ extra, annexBExtra h (extraDataOf subs i) = .ok extra ∧
      p = baseInit (headerKind h extra) i st playType ∧ subs' = setExtraData subs i extra := by
  unfold h264or5Init at hp
  cases hc : annexBExtra h (extraDataOf subs i) with
  | error e =>
    rw [hc] at hp
    cases hp
  | ok extra =>
    rw [hc] at hp
    cases hp
    exact ⟨extra, rfl, rfl, rfl⟩

/-- Every `Init` ends with that of `StreamParser`. -/
theorem newStreamParser_eq {i : Nat} {st : AVStream} {playType : StreamPlayType}
    {subs subs' : List SubStreamMetadata} {p : StreamParser}
    (h : newStreamParser i st playType subs = .ok (p, subs')) :
    p = baseInit p.kind i st playType := by
  unfold newStreamParser at h
  split at h
  · obtain ⟨extra, -, rfl, -⟩ := h264or5Init_ok h
    rfl
  · obtain ⟨extra, -, rfl, -⟩ := h264or5Init_ok h
    rfl
  · cases h
    rfl
  · cases h
    rfl

namespace StreamParser

/-! ## Frame info -/

/-- `ticks` of the time base after `t`. -/
def after (tb : TimeBase) (ticks : Int) (t : Stamp) : Stamp :=
  ((Stamp.ofRatio (ticks * tb.num) tb.den).add t).carry million

/-- The step to the next packet when its `pts` has lost sync. -/
def guessedDelta (p : StreamParser) (pic : Picture) : Int :=
  if 0 < p.lastDur then p.lastDur
  else if p.stream.codecType = .video ∧ pic.hasFrameRate then
    (pic.avgFrameRateDen * p.stream.timeBase.den).tdiv
      (pic.avgFrameRateNum * p.stream.timeBase.num)
  else 0

/-- The step from the last packet to one with the timestamp `pts`. -/
def ptsDelta (p : StreamParser) (pic : Picture) (pts : Int) : Int :=
  if pts < p.lastPts ∨
      60 < ((pts - p.lastPts) * p.stream.timeBase.num).tdiv p.stream.timeBase.den then
    p.guessedDelta pic
  else pts - p.lastPts

/-- The parser after a packet that gets the time `ts`. -/
def stamped (p : StreamParser) (pkt : AVPacket Bytes) (ts : Stamp) : StreamParser :=
  { p with lastPts := pkt.pts, lastDur := pkt.duration, lastLiveTs := ts }

/-- The base for a packet of a live stream. -/
def liveBase (base : Base) (r : Packet) : Base :=
  if base.pts = noPts ∧ r.pkt.pts ≠ noPts then ⟨r.pkt.pts, r.now⟩ else base

/-- The time of a packet of a live stream; `none` when it is dropped. -/
def liveTime (p : StreamParser) (base : Base) (r : Packet) : Option (StreamParser × Stamp) :=
  if p.lastPts = noPts then
    if r.pkt.pts = noPts ∨ r.pkt.pts < base.pts then none
    else
      let ts := after p.stream.timeBase (r.pkt.pts - base.pts) base.timestamp
      some (p.stamped r.pkt ts, ts)
  else if r.pkt.pts = noPts then
    some ({ p with lastDur := p.lastDur + r.pkt.duration }, p.lastLiveTs)
  else
    let ts := after p.stream.timeBase (p.ptsDelta r.picture r.pkt.pts) p.lastLiveTs
    some (p.stamped r.pkt ts, ts)

/-- The time of a packet in replay. -/
def replayTime (p : StreamParser) (r : Packet) : StreamParser × Stamp :=
  let time (pts : Int) := Stamp.ofRatio (pts * p.stream.timeBase.num) p.stream.timeBase.den
  if r.pkt.pts = noPts then (p, time (if p.lastPts ≠ noPts then p.lastPts else 0))
  else
    ({ p with lastPts := r.pkt.pts, lastDur := r.pkt.duration }, time r.pkt.pts)

def frameInfo (p : StreamParser) (r : Packet) (ts : Stamp) : FrameInfo :=
  { subStreamIndex := Int32.ofNat p.streamIndex
    frameType := if r.pkt.key then .keyFrame else .dataFrame
    timestamp := ts }

/-- `DoUpdateFrameInfo`: the base, and the parser and the frame info unless the packet is
dropped. -/
def doUpdateFrameInfo (p : StreamParser) (base : Base) (r : Packet) :
    Base × Option (StreamParser × FrameInfo) :=
  if p.isLive then
    let base := liveBase base r
    (base, (p.liveTime base r).map fun (q, ts) => (q, p.frameInfo r ts))
  else
    let (q, ts) := p.replayTime r
    (base, some (q, p.frameInfo r ts))

/-! ## Metadata -/

/-- What the `DoUpdateMeta` of the two video parsers does on a key frame that brings the extra
data `newExtra`, and whether it changes anything. -/
def videoMeta (m : SubStreamMetadata) (pic : Picture) (newExtra : Bytes) :
    SubStreamMetadata × Bool :=
  let v := m.mediaParam.video
  let resized := pic.width ≠ 0 ∧ pic.height ≠ 0 ∧ (pic.height ≠ v.height ∨ pic.width ≠ v.width)
  let v := if resized then { v with height := pic.height, width := pic.width } else v
  let rated := pic.hasFrameRate ∧ pic.fps ≠ v.fps
  let v := if rated then { v with fps := pic.fps } else v
  let renewed := newExtra ≠ [] ∧ newExtra ≠ m.extraData
  ({ m with
      mediaParam := { m.mediaParam with video := v }
      extraData := if renewed then newExtra else m.extraData },
    resized ∨ rated ∨ renewed)

/-- The extra data that a key frame with this payload brings; a key frame that the header was
inserted into brings none. -/
def newExtra (p : StreamParser) : Payload → Bytes
  | .keyFrameBuf _ => []
  | .own bytes =>
    match p.kind with
    | .plain => []
    | .h264or5 h _ _ => bytes.take (getExtraDataSize h bytes)
    | .mpeg4 => bytes.take (mpeg4ExtraDataSize bytes)

/-- `DoUpdateMeta`. -/
def doUpdateMeta (p : StreamParser) (subs : List SubStreamMetadata) (r : Packet)
    (data : Payload) : List SubStreamMetadata × Bool :=
  if p.kind = .plain ∨ r.pkt.key = false then (subs, false)
  else
    let update (m : SubStreamMetadata) := videoMeta m r.picture (p.newExtra data)
    (subs.modify p.streamIndex fun m => (update m).1,
      (subs[p.streamIndex]?.map fun m => (update m).2).getD false)

/-- `IsMetaReady`. -/
def isMetaReady (p : StreamParser) (subs : List SubStreamMetadata) : Bool :=
  p.kind = .plain || (extraDataOf subs p.streamIndex).length ≠ 0

/-! ## Packets -/

/-- What `Parse` leaves; no frame for `FFMPEG_SOURCE_ERR_DROP`. -/
structure Parsed where
  base : Base
  parser : StreamParser
  subStreams : List SubStreamMetadata
  metaChanged : Bool := false
  frame : Option (FrameInfo × AVPacket Payload) := none
deriving DecidableEq, Repr

/-- The end of `StreamParser::Parse`: nothing is handed on before the first key frame. -/
def startGop (p : StreamParser) (info : FrameInfo) : StreamParser :=
  if info.frameType = .keyFrame then { p with gopStarted := true } else p

/-- `StreamParser::Parse` on a packet with the payload `data`. -/
def baseParse (p : StreamParser) (base : Base) (subs : List SubStreamMetadata) (r : Packet)
    (data : Payload) : Parsed :=
  if r.pkt.corrupt then { base := base, parser := p, subStreams := subs }
  else
    match p.doUpdateFrameInfo base r with
    | (base, none) => { base := base, parser := p, subStreams := subs }
    | (base, some (p, info)) =>
      let (subs, changed) := p.doUpdateMeta subs r data
      let p := p.startGop info
      { base := base, parser := p, subStreams := subs, metaChanged := changed
        frame := if p.gopStarted then some (info, r.pkt.withData data) else none }

/-- A key frame that starts with a picture gets the parameter sets put in front of it. -/
def insertsHeader (h : HNumber) (extradataSize : Nat) (key : Bool) (bytes : Bytes) : Bool :=
  key && extradataSize ≠ 0 && 5 < bytes.length &&
    ((bytes[4]?.map fun b => isVCL h (nalUnitType h b)).getD false)

/-- What `H264or5Parser::Parse` does before it calls `StreamParser::Parse`; `none` when it leaves
the memory of the packet. The other parsers take the packet as it is. -/
def prepare (p : StreamParser) (r : Packet) : Option (StreamParser × Payload) :=
  match p.kind with
  | .h264or5 h extradataSize buf =>
    (annexB r.pkt.data).map fun bytes =>
      if insertsHeader h extradataSize r.pkt.key bytes then
        let buf := (buf.resize extradataSize).append bytes
        ({ p with kind := .h264or5 h extradataSize buf }, .keyFrameBuf buf.ptr)
      else (p, .own bytes)
  | _ => some (p, .own r.pkt.data)

/-- `Parse`. -/
def parse (p : StreamParser) (base : Base) (subs : List SubStreamMetadata) (r : Packet) :
    Option Parsed :=
  (p.prepare r).map fun (p, data) => p.baseParse base subs r data

/-! ## What a parse keeps -/

/-- The part of a parser that `Init` fixes. -/
structure SameStream (p q : StreamParser) : Prop where
  streamIndex : q.streamIndex = p.streamIndex
  stream : q.stream = p.stream
  isLive : q.isLive = p.isLive

theorem SameStream.refl (p : StreamParser) : SameStream p p := ⟨rfl, rfl, rfl⟩

theorem SameStream.trans {p q r : StreamParser} (h : SameStream p q) (h' : SameStream q r) :
    SameStream p r :=
  ⟨h'.streamIndex.trans h.streamIndex, h'.stream.trans h.stream, h'.isLive.trans h.isLive⟩

theorem liveTime_keeps {p q : StreamParser} {base : Base} {r : Packet} {ts : Stamp}
    (h : p.liveTime base r = some (q, ts)) : SameStream p q ∧ q.kind = p.kind := by
  unfold liveTime at h
  split at h
  · split at h
    · cases h
    · cases h
      exact ⟨⟨rfl, rfl, rfl⟩, rfl⟩
  · split at h <;> (cases h; exact ⟨⟨rfl, rfl, rfl⟩, rfl⟩)

theorem replayTime_keeps (p : StreamParser) (r : Packet) :
    SameStream p (p.replayTime r).1 ∧ (p.replayTime r).1.kind = p.kind := by
  unfold replayTime
  split <;> exact ⟨⟨rfl, rfl, rfl⟩, rfl⟩

theorem doUpdateFrameInfo_keeps {p q : StreamParser} {base base' : Base} {r : Packet}
    {info : FrameInfo} (h : p.doUpdateFrameInfo base r = (base', some (q, info))) :
    SameStream p q ∧ q.kind = p.kind := by
  unfold doUpdateFrameInfo at h
  split at h
  · simp only [Prod.mk.injEq, Option.map_eq_some_iff, Prod.exists] at h
    obtain ⟨-, q', ts, ht, rfl, -⟩ := h
    exact liveTime_keeps ht
  · cases h
    exact replayTime_keeps p r

theorem startGop_keeps (p : StreamParser) (info : FrameInfo) :
    SameStream p (p.startGop info) ∧ (p.startGop info).kind = p.kind := by
  unfold startGop
  split <;> exact ⟨⟨rfl, rfl, rfl⟩, rfl⟩

theorem baseParse_keeps (p : StreamParser) (base : Base) (subs : List SubStreamMetadata)
    (r : Packet) (data : Payload) :
    SameStream p (p.baseParse base subs r data).parser ∧
      (p.baseParse base subs r data).parser.kind = p.kind := by
  unfold baseParse
  split
  · exact ⟨.refl p, rfl⟩
  · split
    · exact ⟨.refl p, rfl⟩
    · rename_i h
      obtain ⟨hs, hk⟩ := doUpdateFrameInfo_keeps h
      obtain ⟨hs', hk'⟩ := startGop_keeps _ _
      exact ⟨hs.trans hs', hk'.trans hk⟩

/-- Only the key frame buffer is touched before the packet gets its time. -/
theorem prepare_eq {p q : StreamParser} {r : Packet} {data : Payload}
    (h : p.prepare r = some (q, data)) : q = { p with kind := q.kind } := by
  unfold prepare at h
  split at h
  · obtain ⟨bytes, -, h⟩ := Option.map_eq_some_iff.1 h
    split at h <;> (cases h; rfl)
  · cases h
    rfl

theorem parse_eq_some {p : StreamParser} {base : Base} {subs : List SubStreamMetadata}
    {r : Packet} {out : Parsed} :
    p.parse base subs r = some out ↔
      ∃ q data, p.prepare r = some (q, data) ∧ out = q.baseParse base subs r data := by
  simp [parse, eq_comm]

theorem parse_keeps {p : StreamParser} {base : Base} {subs : List SubStreamMetadata} {r : Packet}
    {out : Parsed} (h : p.parse base subs r = some out) : SameStream p out.parser := by
  obtain ⟨q, data, hq, rfl⟩ := parse_eq_some.1 h
  have hpq : SameStream p q := by
    rw [prepare_eq hq]
    exact ⟨rfl, rfl, rfl⟩
  exact hpq.trans (baseParse_keeps q base subs r data).1

/-- A packet that is not corrupt gets its time from `DoUpdateFrameInfo`. -/
theorem baseParse_base (p : StreamParser) (base : Base) (subs : List SubStreamMetadata)
    (r : Packet) (data : Payload) :
    (p.baseParse base subs r data).base =
      if r.pkt.corrupt then base else (p.doUpdateFrameInfo base r).1 := by
  unfold baseParse
  split
  · rfl
  · split <;> (rename_i hu; rw [hu])

/-- A packet of a live stream that is not corrupt sets the base if there is none. -/
theorem parse_base {p : StreamParser} {base : Base} {subs : List SubStreamMetadata} {r : Packet}
    {out : Parsed} (h : p.parse base subs r = some out) (hl : p.isLive) :
    out.base = if r.pkt.corrupt then base else liveBase base r := by
  obtain ⟨q, data, hq, rfl⟩ := parse_eq_some.1 h
  have hql : q.isLive := by
    rw [prepare_eq hq]
    exact hl
  rw [baseParse_base, doUpdateFrameInfo, if_pos hql]

end StreamParser

end StreamSwitch.Ffmpeg
