import StreamSwitch.FfmpegSource.Parser
import StreamSwitch.Lib.Run

/-!
# The ffmpeg demuxer

`FFmpegDemuxer` of `stsw_ffmpeg_demuxer.cc`: `Open` with all its failures, `Close`,
`ReadMeta`, which parses and caches packets until every parser has the extra data it
needs, and `ReadPacket`, which hands the cached packets on before it reads more. What
libavformat answers is an input; an opened context holds the packets it will deliver.
A call that leaves the memory it may use has no result.
-/

namespace StreamSwitch.Ffmpeg

open Clock Buffer

/-- What a call of `av_read_frame` returns. -/
inductive ReadFrame
  | packet (r : Packet)
  | again
  | eof
  | failed
deriving DecidableEq, Repr

/-- An opened input. Its streams are those that `avformat_find_stream_info` found. -/
structure AVFormatContext where
  streams : List AVStream
  duration : Int := noPts
  /-- `(double)duration / AV_TIME_BASE`. -/
  seconds : Double := ⟨0⟩
  bitRate : UInt32 := 0
  iformatName : Option String := none
  /-- What `av_read_frame` returns, call by call; the end of the input behind it. -/
  frames : List ReadFrame := []
deriving DecidableEq, Repr

inductive DemuxerPlayMode | auto | live | replay
deriving DecidableEq, Repr

inductive FFmpegSourceErrCode | ok | general | timeout | eof | drop | io
deriving DecidableEq, Repr

structure PktNode where
  frameInfo : FrameInfo
  pkt : AVPacket Payload
deriving DecidableEq, Repr

structure FFmpegDemuxer where
  ioEnabled : Bool := true
  fmtCtx : Option AVFormatContext := none
  metadata : StreamMetadata := {}
  streamParsers : List StreamParser := []
  cachedPkts : List PktNode := []
  ssrc : UInt32 := 0
  base : Base := {}
deriving DecidableEq, Repr

/-! ## Open and Close -/

/-- The arguments of an `Open` and what the libraries answer to it. -/
structure OpenCall where
  playMode : DemuxerPlayMode := .auto
  /-- `av_dict_parse_string` reads the options. -/
  optionsParsed : Bool := true
  allocated : Bool := true
  /-- The context, if `avformat_open_input` opens the input. -/
  opened : Option AVFormatContext
  /-- `avformat_find_stream_info` succeeds. -/
  streamInfoFound : Bool := true
  /-- `rand() % 0xffffffff`. -/
  ssrc : UInt32 := 0
  protocolName : Option String := none
deriving DecidableEq, Repr

/-- The metadata of input stream `i`; none for a codec type that is not supported. -/
def subMetadata (i : Nat) (st : AVStream) : Option SubStreamMetadata :=
  let m : SubStreamMetadata :=
    { codecName := codecNameFromId st.codecId
      subStreamIndex := Int32.ofNat i
      direction := .outbound
      extraData := st.extradata }
  match st.codecType with
  | .audio =>
    some { m with
      mediaType := .audio
      mediaParam := { audio :=
        { channels := st.channels
          samplesPerSecond := st.sampleRate
          bitsPerSample := st.bitsPerRawSample } } }
  | .video =>
    let pic := st.picture
    let v : VideoMediaParam := if pic.hasFrameRate then { fps := pic.fps } else {}
    some { m with
      mediaType := .video
      mediaParam := { video :=
        if pic.width ≠ 0 ∧ pic.height ≠ 0 then
          { v with height := pic.height, width := pic.width }
        else v } }
  | _ => none

/-- The first loop over the streams, from stream `i` on: the metadata, and whether all codec
types are supported. -/
def addSubStreams : (i : Nat) → List AVStream → List SubStreamMetadata →
    List SubStreamMetadata × Bool
  | _, [], subs => (subs, true)
  | i, st :: sts, subs =>
    match subMetadata i st with
    | none => (subs, false)
    | some m => addSubStreams (i + 1) sts (subs ++ [m])

/-- The second loop, from stream `i` on: the metadata, and the parsers unless an `Init` fails. -/
def setupParsers (playType : StreamPlayType) : (i : Nat) → List AVStream →
    List SubStreamMetadata → List StreamParser →
    Option (List SubStreamMetadata × Option (List StreamParser))
  | _, [], subs, parsers => some (subs, some parsers)
  | i, st :: sts, subs, parsers =>
    match newStreamParser i st playType subs with
    | .error .outside => none
    | .error .refused => some (subs, none)
    | .ok (parser, subs) => setupParsers playType (i + 1) sts subs (parsers ++ [parser])

/-- The parsers that the second loop adds are as `StreamParser::Init` leaves them. -/
theorem mem_setupParsers {playType : StreamPlayType} {i : Nat} {sts : List AVStream}
    {subs subs' : List SubStreamMetadata} {ps ps' : List StreamParser}
    (h : setupParsers playType i sts subs ps = some (subs', some ps')) :
    ∀ p ∈ ps', p ∈ ps ∨ ∃ k j st, p = baseInit k j st playType := by
  induction sts generalizing i subs ps with
  | nil =>
    cases h
    exact fun p hp => .inl hp
  | cons st sts ih =>
    unfold setupParsers at h
    split at h
    · cases h
    · cases h
    · rename_i q subs' hq
      intro p hp
      rcases ih h p hp with hp | hp
      · rcases List.mem_append.1 hp with hp | hp
        · exact .inl hp
        · rw [List.mem_singleton.1 hp]
          exact .inr ⟨_, _, _, newStreamParser_eq hq⟩
      · exact .inr hp

/-- Whether the input has a length. -/
def AVFormatContext.hasDuration (ctx : AVFormatContext) : Bool :=
  ctx.duration ≠ 0 && ctx.duration ≠ noPts

def OpenCall.playType (c : OpenCall) (ctx : AVFormatContext) : StreamPlayType :=
  match c.playMode with
  | .auto => if ctx.hasDuration then .replay else .live
  | .live => .live
  | .replay => .replay

/-- The metadata of the whole stream, over sub-streams that are there already. -/
def OpenCall.metadata (c : OpenCall) (ctx : AVFormatContext) (subs : List SubStreamMetadata) :
    StreamMetadata :=
  { playType := c.playType ctx
    sourceProto := (c.protocolName.or ctx.iformatName).getD "ffmpeg"
    ssrc := c.ssrc
    streamLen := if c.playType ctx = .replay ∧ ctx.hasDuration then ctx.seconds else ⟨0⟩
    bps := ctx.bitRate
    subStreams := subs }

namespace FFmpegDemuxer

def setSubStreams (d : FFmpegDemuxer) (subs : List SubStreamMetadata) : FFmpegDemuxer :=
  { d with metadata := { d.metadata with subStreams := subs } }

/-- `Open` once the input is open and its streams are known. -/
def openStreams (d : FFmpegDemuxer) (c : OpenCall) (ctx : AVFormatContext) :
    Option (FFmpegDemuxer × FFmpegSourceErrCode) :=
  let (subs, supported) := addSubStreams 0 ctx.streams d.metadata.subStreams
  let d := { d with ssrc := c.ssrc, metadata := c.metadata ctx subs }
  if supported then
    (setupParsers d.metadata.playType 0 ctx.streams subs d.streamParsers).map fun
      | (subs, none) => ({ d.setSubStreams subs with streamParsers := [] }, .general)
      | (subs, some parsers) =>
        ({ d.setSubStreams subs with fmtCtx := some ctx, streamParsers := parsers }, .ok)
  else some (d, .general)

/-- `Open`. -/
def openInput (d : FFmpegDemuxer) (c : OpenCall) : Option (FFmpegDemuxer × FFmpegSourceErrCode) :=
  if d.ioEnabled then
    let d := { d with base := {} }
    if c.optionsParsed then
      -- `fmt_ctx_` is overwritten; every failure from here on leaves it NULL
      let d := { d with fmtCtx := none }
      if c.allocated then
        match c.opened with
        | none => some (d, .io)
        | some ctx => if c.streamInfoFound then d.openStreams c ctx else some (d, .io)
      else some (d, .general)
    else some (d, .general)
  else some (d, .io)

/-- What an `Open` that returns 0 has done. -/
theorem openInput_ok {d d' : FFmpegDemuxer} {c : OpenCall} (h : d.openInput c = some (d', .ok)) :
    ∃ ctx subs subs' parsers, c.opened = some ctx ∧
      addSubStreams 0 ctx.streams d.metadata.subStreams = (subs, true) ∧
      setupParsers (c.playType ctx) 0 ctx.streams subs d.streamParsers =
        some (subs', some parsers) ∧
      d' = { d with
        base := {}, fmtCtx := some ctx, ssrc := c.ssrc
        metadata := c.metadata ctx subs', streamParsers := parsers } := by
  unfold openInput at h
  split at h
  · simp only at h
    split at h
    · split at h
      · split at h
        · cases h
        · rename_i ctx hctx
          split at h
          · unfold openStreams at h
            simp only at h
            split at h
            · rename_i hsup
              obtain ⟨⟨subs', ps⟩, hset, h⟩ := Option.map_eq_some_iff.1 h
              cases ps with
              | none => cases h
              | some parsers =>
                cases h
                exact ⟨ctx, _, subs', parsers, hctx, Prod.ext rfl hsup, hset, rfl⟩
            · cases h
          · cases h
      · cases h
    · cases h
  · cases h

def close (d : FFmpegDemuxer) : FFmpegDemuxer :=
  match d.fmtCtx with
  | none => d
  | some _ => { d with cachedPkts := [], streamParsers := [], fmtCtx := none }

/-! ## Reading -/

/-- `IsMetaReady`. -/
def isMetaReady (d : FFmpegDemuxer) : Bool :=
  d.streamParsers.all fun p => p.isMetaReady d.metadata.subStreams

end FFmpegDemuxer

/-- The first call of `av_read_frame` that does not ask for another, and what is left. -/
def nextFrame : List ReadFrame → ReadFrame × List ReadFrame
  | [] => (.eof, [])
  | .again :: rest => nextFrame rest
  | f :: rest => (f, rest)

namespace FFmpegDemuxer

/-- What one packet leaves: the node for it unless it is dropped, and `is_meta_changed`. -/
structure ParseOutcome where
  demuxer : FFmpegDemuxer
  node : Option PktNode
  isMetaChanged : Bool
deriving DecidableEq, Repr

/-- The demuxer after the parser of its stream has taken the packet. -/
def afterParse (d : FFmpegDemuxer) (r : Packet) (out : StreamParser.Parsed) : ParseOutcome :=
  { demuxer :=
      { d.setSubStreams out.subStreams with
        base := out.base
        streamParsers := d.streamParsers.set r.pkt.streamIndex out.parser }
    node := out.frame.map fun (info, pkt) => ⟨{ info with ssrc := d.ssrc }, pkt⟩
    isMetaChanged := out.metaChanged }

/-- A packet goes through the parser `p` of its stream. -/
def parseWith (d : FFmpegDemuxer) (p : StreamParser) (r : Packet) : Option ParseOutcome :=
  (p.parse d.base d.metadata.subStreams r).map (d.afterParse r)

/-- What a call that reads returns besides the demuxer. -/
structure ReadResult where
  ret : FFmpegSourceErrCode
  node : Option PktNode := none
  isMetaChanged : Bool := false
deriving DecidableEq, Repr

/-- The demuxer after `av_read_frame` was called. -/
def withFrames (d : FFmpegDemuxer) (frames : List ReadFrame) : FFmpegDemuxer :=
  { d with fmtCtx := d.fmtCtx.map fun ctx => { ctx with frames := frames } }

/-- What is still to be read. -/
def frames (d : FFmpegDemuxer) : List ReadFrame :=
  (d.fmtCtx.map (·.frames)).getD []

/-- `ReadPacket`. -/
def readPacket (d : FFmpegDemuxer) : Option (FFmpegDemuxer × ReadResult) :=
  if d.fmtCtx = none then some (d, ⟨.general, none, false⟩)
  else if d.ioEnabled then
    match d.cachedPkts with
    | node :: rest => some ({ d with cachedPkts := rest }, ⟨.ok, some node, false⟩)
    | [] =>
      let (f, rest) := nextFrame d.frames
      let d := d.withFrames rest
      match f with
      | .packet r =>
        match d.streamParsers[r.pkt.streamIndex]? with
        | none => some (d, ⟨.general, none, false⟩)
        | some p =>
          (d.parseWith p r).map fun out =>
            (out.demuxer,
              ⟨if out.node.isSome then .ok else .drop, out.node, out.isMetaChanged⟩)
      | .eof => some (d, ⟨.eof, none, false⟩)
      | _ => some (d, ⟨.io, none, false⟩)
  else some (d, ⟨.io, none, false⟩)

def cache (d : FFmpegDemuxer) (node : Option PktNode) : FFmpegDemuxer :=
  { d with cachedPkts := d.cachedPkts ++ node.toList }

/-- The loop of `ReadMeta`, which times out after `turns` turns. -/
def readMetaLoop : (turns : Nat) → FFmpegDemuxer → Option (FFmpegDemuxer × FFmpegSourceErrCode)
  | turns, d =>
    if d.isMetaReady then some (d, .ok)
    else
      match turns with
      | 0 => some (d, .timeout)
      | turns + 1 =>
        let (f, rest) := nextFrame d.frames
        let d := d.withFrames rest
        match f with
        | .packet r =>
          match d.streamParsers[r.pkt.streamIndex]? with
          | none => some (d, .general)
          | some p =>
            (d.parseWith p r).bind fun out => readMetaLoop turns (out.demuxer.cache out.node)
        | .eof => some (d, .eof)
        | _ => some (d, .io)

/-- What every packet that is parsed and cached keeps, the loop keeps. -/
theorem readMetaLoop_inv (Inv : FFmpegDemuxer → Prop)
    (hframes : ∀ d frames, Inv d → Inv (d.withFrames frames))
    (hparse : ∀ d p r out, Inv d → d.streamParsers[r.pkt.streamIndex]? = some p →
      d.parseWith p r = some out → Inv (out.demuxer.cache out.node))
    {turns : Nat} {d d' : FFmpegDemuxer} {ret : FFmpegSourceErrCode}
    (h : readMetaLoop turns d = some (d', ret)) (hd : Inv d) : Inv d' := by
  induction turns generalizing d with
  | zero =>
    unfold readMetaLoop at h
    split at h <;> (cases h; exact hd)
  | succ turns ih =>
    have hd₁ := hframes d (nextFrame d.frames).2 hd
    unfold readMetaLoop at h
    split at h
    · cases h
      exact hd
    · simp only at h
      split at h
      · split at h
        · cases h
          exact hd₁
        · rename_i p hp
          obtain ⟨out, ho, h⟩ := Option.bind_eq_some_iff.1 h
          exact ih h (hparse _ p _ out hd₁ hp ho)
      · cases h
        exact hd₁
      · cases h
        exact hd₁

/-- `ReadMeta`; the caller gets a copy of `meta_` for `ok`. -/
def readMeta (d : FFmpegDemuxer) (turns : Nat) : Option (FFmpegDemuxer × FFmpegSourceErrCode) :=
  if d.fmtCtx = none then some (d, .general)
  else if d.ioEnabled then readMetaLoop turns d
  else some (d, .io)

end FFmpegDemuxer

/-- What every packet that is handed on or parsed keeps, `ReadPacket` keeps. -/
theorem FFmpegDemuxer.readPacket_inv (Inv : FFmpegDemuxer → Prop)
    (hframes : ∀ d frames, Inv d → Inv (d.withFrames frames))
    (hpop : ∀ d node rest, Inv d → d.cachedPkts = node :: rest →
      Inv { d with cachedPkts := rest })
    (hparse : ∀ d p r out, Inv d → d.streamParsers[r.pkt.streamIndex]? = some p →
      d.parseWith p r = some out → Inv out.demuxer)
    {d d' : FFmpegDemuxer} {res : ReadResult} (h : d.readPacket = some (d', res)) (hd : Inv d) :
    Inv d' := by
  have hd₁ := hframes d (nextFrame d.frames).2 hd
  unfold readPacket at h
  split at h
  · cases h
    exact hd
  · split at h
    · split at h
      · rename_i node rest hc
        cases h
        exact hpop d node rest hd hc
      · simp only at h
        split at h
        · split at h
          · cases h
            exact hd₁
          · rename_i p hp
            obtain ⟨out, ho, h⟩ := Option.map_eq_some_iff.1 h
            cases h
            exact hparse _ p _ out hd₁ hp ho
        · cases h
          exact hd₁
        · cases h
          exact hd₁
    · cases h
      exact hd

/-! ## Runs -/

inductive DemuxerCall
  | setIoEnabled (enabled : Bool)
  | openInput (c : OpenCall)
  | close
  | readMeta (turns : Nat)
  | readPacket
deriving DecidableEq, Repr

/-- The demuxer after a call. -/
def demuxerStep (d : FFmpegDemuxer) : DemuxerCall → Option FFmpegDemuxer
  | .setIoEnabled enabled => some { d with ioEnabled := enabled }
  | .openInput c => (d.openInput c).map (·.1)
  | .close => some d.close
  | .readMeta turns => (d.readMeta turns).map (·.1)
  | .readPacket => d.readPacket.map (·.1)

/-- A new demuxer after an `Open`. -/
def opened (c : OpenCall) : FFmpegDemuxer :=
  ((({} : FFmpegDemuxer).openInput c).map (·.1)).getD {}

end StreamSwitch.Ffmpeg
