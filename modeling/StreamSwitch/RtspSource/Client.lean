import Mathlib.Data.Rat.Floor
import StreamSwitch.Defs
import StreamSwitch.Lib.Alarms
import StreamSwitch.Lib.Run

/-!
# The client of the RTSP source

`LiveRtspClient` of `stsw_rtsp_client.cc`: what it keeps, and its media sessions with their
output sinks and metadata. What live555 makes of an SDP description is data of the session:
for the parameter sets and configurations of a format, the bytes that their parsers return.
Where the source has doubles there are rational numbers here.
-/

namespace StreamSwitch

namespace RtspSource

/-! ## Sessions and sinks -/

inductive SinkKind
  | media
  | h264or5 (hNumber : Nat)
  | mpeg4
deriving DecidableEq, Repr

/-- A `MediaOutputSink` or one of its subclasses; `recvBuf` is what `recv_buf_` holds before the
place of the next frame. -/
structure OutputSink where
  kind : SinkKind
  subStreamIndex : Nat
  lastPts : Timeval := {}
  recvBuf : Bytes := []
  frameQueue : List (MediaFrameType × Timeval × Bytes) := []
deriving DecidableEq, Repr

/-- The least buffer of `createNew`. -/
def SinkKind.minBuffer : SinkKind → Nat
  | .h264or5 _ => 1024
  | .media | .mpeg4 => 100

/-- `createNew` of the three classes. -/
def OutputSink.createNew (kind : SinkKind) (subStreamIndex sinkBufSize : Nat) : Option OutputSink :=
  if sinkBufSize < kind.minBuffer then none else some { kind, subStreamIndex }

def videoSinkBufferSize : Nat := 1048576
def audioSinkBufferSize : Nat := 131072

inductive Framer | h264 | h265 | mpeg4 | mpeg1or2 | dv
deriving DecidableEq, Repr

structure MediaSubsession where
  mediumName : String
  codecName : String
  /-- The client port, when `initiate` creates a receiver. -/
  initiates : Option UInt16 := none
  clientPortNum : UInt16 := 0
  /-- `readSource() != NULL`. -/
  readSource : Bool := false
  /-- The last filter in front of the source, apart from the normaliser. -/
  framer : Option Framer := none
  videoHeight : UInt16 := 0
  videoWidth : UInt16 := 0
  videoFPS : UInt32 := 0
  numChannels : UInt32 := 1
  rtpTimestampFrequency : UInt32 := 0
  bandwidth : UInt32 := 0
  spropParameterSets : List Bytes := []
  spropVps : List Bytes := []
  spropSps : List Bytes := []
  spropPps : List Bytes := []
  config : Option Bytes := none
  sink : Option OutputSink := none
deriving DecidableEq, Repr

/-- `address` tells the session from the others that were created. -/
structure MediaSession where
  address : Nat := 0
  subsessions : List MediaSubsession
  playStartTime : ℚ := 0
  playEndTime : ℚ := 0
deriving DecidableEq, Repr

/-! ## The client -/

inductive RtspClientErrCode
  | connectFail | describeErr | setupErr | playErr | mediasessionCreateFail | noSubsession
  | subsessionInitErr | subsessionBye | interFrameGap | sessionTimer | timeErr
deriving DecidableEq, Repr

/-- The calls of the listener. -/
inductive ListenerCall
  | onMediaFrame (info : MediaFrameInfo) (data : Bytes)
  | onError (code : RtspClientErrCode)
  | onMetaReady (metadata : StreamMetadata)
  | onRtspOK
deriving DecidableEq, Repr

/-- The four fields for delayed tasks, each with a handler of its own. -/
inductive TaskKind | sessionTimer | interFrameGapCheckTimer | rtspKeepAlive | rtspTimeout
deriving DecidableEq, Repr

/-- The `clientData` of a task. -/
inductive ClientData | null | client
deriving DecidableEq, Repr

structure TaskArgument where
  microseconds : Int
  clientData : ClientData
deriving DecidableEq, Repr

/-- `sessions` are those that are not closed, `session` is the address of `session_`; `setupIter` is a
session and a position in it, `curSetupSubsession` a session. `calls` has the last call of the
listener first, and `described` the position of the subsession that each entry of
`metadata_.sub_streams` was made for. -/
structure LiveRtspClient where
  hasListener : Bool := true
  areAlreadyShuttingDown : Bool := true
  enableRtspKeepAlive : Bool := true
  singleMedium : Option String := none
  ignoreSdpSps : Bool := false
  sessions : List MediaSession := []
  session : Option Nat := none
  nextAddress : Nat := 0
  metadata : StreamMetadata := { sourceProto := "RTSP" }
  described : List Nat := []
  isMetadataOk : Bool := false
  tasks : Alarms TaskKind TaskArgument := {}
  duration : ℚ := 0
  endTime : ℚ := 0
  lastFrameTime : Int := 0
  madeProgress : Bool := false
  setupIter : Option (Nat × Nat) := none
  curSetupSubsession : Option Nat := none
  calls : List ListenerCall := []

/-- A client that was just created; `listener` may be `NULL`. -/
def LiveRtspClient.createNew (hasListener enableRtspKeepAlive : Bool) (singleMedium : Option String)
    (ignoreSdpSps : Bool) : LiveRtspClient :=
  { hasListener, enableRtspKeepAlive, singleMedium, ignoreSdpSps }

/-- What a handler follows although it is not there. -/
inductive Fault
  | noClient
  | noSession
  | closedSession
  | noSubStream
deriving DecidableEq, Repr

namespace LiveRtspClient

def call (c : LiveRtspClient) (x : ListenerCall) : LiveRtspClient :=
  if c.hasListener then { c with calls := x :: c.calls } else c

def handleError (c : LiveRtspClient) (code : RtspClientErrCode) : LiveRtspClient := c.call (.onError code)

def findSession (c : LiveRtspClient) (address : Nat) : Option MediaSession :=
  c.sessions.find? fun s => s.address = address

/-- The session at the address gets other subsessions. -/
def setSubsessions (c : LiveRtspClient) (address : Nat) (subs : List MediaSubsession) : LiveRtspClient :=
  { c with
    sessions := c.sessions.map fun s => if s.address = address then { s with subsessions := subs } else s }

/-! ## Metadata -/

/-- The codecs that need extra data. -/
def needsExtraData (codecName : String) : Bool :=
  codecName = "H264" || codecName = "H265" || codecName = "MP4V-ES"

/-- The test of `CheckMetadata`. -/
def metadataComplete (m : StreamMetadata) : Bool :=
  m.ssrc ≠ 0 && m.sourceProto.length ≠ 0 && m.subStreams.length ≠ 0 &&
    m.subStreams.all fun s => s.codecName.length ≠ 0 &&
      !(needsExtraData s.codecName && s.extraData.length = 0)

/-- `CheckMetadata`. -/
def checkMetadata (c : LiveRtspClient) : LiveRtspClient :=
  if c.isMetadataOk then c
  else if metadataComplete c.metadata then
    { c with isMetadataOk := true }.call (.onMetaReady c.metadata)
  else c

end LiveRtspClient

def startCode : Bytes := [0, 0, 0, 1]

/-- A list of parameter sets with a start code before each. -/
def withStartCodes (records : List Bytes) : Bytes := records.flatMap (startCode ++ ·)

/-- What `SetupMetaFromSession` pushes for a subsession. -/
def MediaSubsession.toMetadata (sub : MediaSubsession) (ignoreSdpSps : Bool) (index : Nat) :
    SubStreamMetadata :=
  let m : SubStreamMetadata := { subStreamIndex := Int32.ofNat index, codecName := sub.codecName }
  if sub.mediumName = "video" then
    { m with
      mediaType := .video
      mediaParam := { video :=
        { height := sub.videoHeight.toUInt32, width := sub.videoWidth.toUInt32, fps := sub.videoFPS } }
      extraData :=
        if sub.codecName = "H264" then
          if ignoreSdpSps then [] else withStartCodes sub.spropParameterSets
        else if sub.codecName = "H265" then
          if ignoreSdpSps then []
          else withStartCodes (sub.spropVps ++ sub.spropSps ++ sub.spropPps)
        else if sub.codecName = "MP4V-ES" then sub.config.getD []
        else [] }
  else if sub.mediumName = "audio" then
    let m := { m with
      mediaType := .audio
      mediaParam := { audio :=
        { channels := if sub.numChannels ≠ 0 then sub.numChannels else 1
          samplesPerSecond := sub.rtpTimestampFrequency } } }
    if sub.codecName = "MPEG4-GENERIC" then
      { m with codecName := "AAC", extraData := sub.config.getD [] }
    else m
  else if sub.mediumName = "text" then { m with mediaType := .text }
  else { m with mediaType := .priv }

/-- A stream that is multiplexed: the SDP does not say what is in it. -/
def MediaSubsession.isMux (sub : MediaSubsession) : Bool :=
  sub.codecName = "MP2P" || sub.codecName = "MP2T"

/-- What the loop of `SetupMetaFromSession` has pushed and counted. -/
structure MetaLoop where
  described : List Nat := []
  subStreams : List SubStreamMetadata := []
  bps : UInt32 := 0

/-- The loop of `SetupMetaFromSession`; `none` where it gives up at a multiplexed stream. -/
def metaLoop (ignoreSdpSps : Bool) : List MediaSubsession → Nat → Nat → MetaLoop → Option MetaLoop
  | [], _, _, l => some l
  | sub :: subs, position, index, l =>
    if !sub.readSource then metaLoop ignoreSdpSps subs (position + 1) index l
    else if sub.isMux then none
    else
      metaLoop ignoreSdpSps subs (position + 1) (index + 1)
        { described := l.described ++ [position]
          subStreams := l.subStreams ++ [sub.toMetadata ignoreSdpSps index]
          bps := l.bps + sub.bandwidth * 1000 }

/-- `SetupMetaFromSession`, for the subsessions of the session. -/
def LiveRtspClient.setupMetaFromSession (c : LiveRtspClient) (subs : List MediaSubsession) :
    LiveRtspClient :=
  match metaLoop c.ignoreSdpSps subs 0 0 ⟨c.described, c.metadata.subStreams, 0⟩ with
  | none => { c with metadata := { c.metadata with subStreams := [] }, described := [] }
  | some l =>
    { c with
      metadata := { c.metadata with subStreams := l.subStreams, bps := l.bps }
      described := l.described }.checkMetadata

/-! ## Sinks -/

/-- The framer that `SetupSinks` adds. -/
def framerOf (codecName : String) : Option Framer :=
  if codecName = "H264" then some .h264
  else if codecName = "H265" then some .h265
  else if codecName = "MP4V-ES" then some .mpeg4
  else if codecName = "MPV" then some .mpeg1or2
  else if codecName = "DV" then some .dv
  else none

/-- The output sink of a subsession: where none can be created, a plain one is tried. -/
def createOutputSink (sub : MediaSubsession) (index : Nat) : Option OutputSink :=
  let sink :=
    if sub.mediumName = "video" then
      if sub.codecName = "H264" then OutputSink.createNew (.h264or5 264) index videoSinkBufferSize
      else if sub.codecName = "H265" then OutputSink.createNew (.h264or5 265) index videoSinkBufferSize
      else if sub.codecName = "MP4V-ES" then OutputSink.createNew .mpeg4 index videoSinkBufferSize
      else OutputSink.createNew .media index videoSinkBufferSize
    else if sub.mediumName = "audio" then OutputSink.createNew .media index audioSinkBufferSize
    else none
  sink <|> OutputSink.createNew .media index audioSinkBufferSize

/-- `continuePlaying`: a sink for H.264 or H.265 puts a start code before the next frame. -/
def OutputSink.continuePlaying (sink : OutputSink) : OutputSink :=
  match sink.kind with
  | .h264or5 _ => { sink with recvBuf := sink.recvBuf ++ startCode }
  | _ => sink

/-- `SetupSinks` from a subsession on: the subsessions, and whether there is a sink. -/
def setupSinks : List MediaSubsession → Nat → List MediaSubsession × Bool
  | [], _ => ([], false)
  | sub :: subs, index =>
    if !sub.readSource then
      let (subs, ok) := setupSinks subs index
      (sub :: subs, ok)
    else
      let sub := { sub with framer := framerOf sub.codecName }
      match createOutputSink sub index with
      | none =>
        let (subs, ok) := setupSinks subs index
        ({ sub with sink := none } :: subs, ok)
      | some sink =>
        ({ sub with sink := some sink.continuePlaying } :: (setupSinks subs (index + 1)).1, true)

end RtspSource

end StreamSwitch
