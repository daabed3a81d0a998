import Mathlib.Data.Rat.Defs
import Mathlib.Tactic.SplitIfs
import StreamSwitch.Lib.Run

/-!
# Requests of an RTSP connection

`network/rtsp_state_machine.c`, `rtsp_method_*.c` and `rtsp_utils.c`: what a request does
once its request line and headers are parsed. A `Request` carries the texts of the headers,
and for `Transport`, `Range` and `Scale` what their parsers make of them; an `Environment`
is what the system and the media library answer during the request. Times and scales are
rational numbers where the source has doubles and floats. A handler that follows a pointer
that is not there, or writes behind its buffer, has no result but a `Fault`.
-/

namespace StreamSwitch

namespace Rtsp

/-! ## Texts -/

/-- What is before and behind the first occurrence of a text. -/
def strstr (needle : List Char) : List Char → Option (List Char × List Char)
  | [] => if needle = [] then some ([], []) else none
  | c :: cs =>
    if needle.isPrefixOf (c :: cs) then some ([], (c :: cs).drop needle.length)
    else (strstr needle cs).map fun (before, behind) => (c :: before, behind)

def contains (text : List Char) (needle : String) : Bool := (strstr needle.toList text).isSome

/-- `SDP_TRACK_URI_SEPARATOR`. -/
def trackUriSeparator : List Char := "/TrackID=".toList

/-! ## Sessions and clients -/

inductive ServerState | init | ready | playing
deriving DecidableEq, Repr

inductive ResponseCode
  | ok
  | badRequest
  | forbidden
  | notFound
  | notEnoughBandwidth
  | sessionNotFound
  | invalidMethodInState
  | headerFieldNotValidForResource
  | invalidRange
  | aggregateNotAllowed
  | aggregateOnly
  | unsupportedTransport
  | internalServerError
  | notImplemented
deriving DecidableEq, Repr

inductive Fault
  | noSession
  | noResource
  | badResource
  | noRange
  /-- The assertion of `select_requested_track`. -/
  | uriWithoutResource
  /-- `sscanf` has written behind the end of `param`. -/
  | paramOverrun
deriving DecidableEq, Repr

inductive StreamType | ps | mp2p | raw
deriving DecidableEq, Repr

/-- An opened `Resource`, with the path it was opened for; `serial` is the number of the call of
`r_open` that made it, which tells it from the others of the connection. -/
structure Resource where
  path : Option (List Char)
  serial : Nat := 0
  seekable : Bool
  duration : ℚ
  live : Bool
  /-- `model == MM_PULL`. -/
  pull : Bool
  tracks : List (List Char)
deriving DecidableEq, Repr

structure Range where
  beginTime : ℚ
  endTime : ℚ
  playbackTime : ℚ
  seek : Bool
deriving DecidableEq, Repr

inductive Protocol | udp | tcp
deriving DecidableEq, Repr

/-- `struct ParsedTransport`: a protocol and the two words of the union. -/
structure ParsedTransport where
  protocol : Protocol
  rtp : UInt16
  rtcp : UInt16
deriving DecidableEq, Repr

structure RtpSession where
  uri : List Char
  track : List Char
  transport : ParsedTransport
  multicast : Bool := false
deriving DecidableEq, Repr

structure Session where
  sessionId : List Char
  curState : ServerState := .init
  started : Bool := false
  rtpSessions : List RtpSession := []
  resource : Option Resource := none
  resourceUri : Option (List Char) := none
  scale : ℚ := 1
  scaleReq : ℚ := 1
  onlyKeyFrame : Bool := false
  simpleAudioSkip : Bool := false
  download : Bool := false
  disableRateControl : Bool := false
  playRequests : List Range := []
  fillPool : Bool := false
deriving DecidableEq, Repr

/-- A queued response; `allow` is the header of the same name, `parameters` the body that
GET_PARAMETER gives it. -/
structure Response where
  status : ResponseCode
  allow : Option String := none
  parameters : Option (List Char) := none
deriving DecidableEq, Repr

/-- `outQueue` has the last response first; `opened` are the resources that `r_open` returned, the
last one first, and `closed` those given to `r_close`. -/
structure Client where
  session : Option Session := none
  cachedResource : Option Resource := none
  opened : List Resource := []
  closed : List Resource := []
  interleaved : List (UInt16 × UInt16) := []
  defaultStreamType : StreamType := .mp2p
  outQueue : List Response := []
deriving DecidableEq, Repr

/-! ## Requests -/

inductive Method
  | describe | announce | getParameter | options | pause | play | record | redirect | setup
  | setParameter | teardown
deriving DecidableEq, Repr

/-- A parsed request. For `range` and `scale` the inner `none` is a header that does not parse;
`transport` is the `ParsedTransport` when its fields have been gone through; `body` is the string
behind the headers, up to its first zero. -/
structure Request where
  method : Option Method
  object : List Char
  body : Option (List Char) := none
  cseq : Bool := true
  session : Option (List Char) := none
  require : Option (List Char) := none
  transport : Option ParsedTransport := none
  range : Option (Option Range) := none
  scale : Option (Option ℚ) := none
  download : Option (List Char) := none
  rateControl : Option (List Char) := none
  frames : Option (List Char) := none
  userAgent : Option (List Char) := none
deriving DecidableEq, Repr

/-- What is outside: the URL functions, and what happens during one request. -/
structure Environment where
  /-- `g_uri_unescape_string` of the object. -/
  unescape : List Char → Option (List Char)
  /-- The same for a path, where an escaped slash is refused. -/
  unescapePath : List Char → Option (List Char)
  /-- The path that `Url_init` finds. -/
  urlPath : List Char → Option (List Char)
  /-- What `r_open` opens, its path apart. -/
  rOpen : Option (List Char) → Option Resource
  /-- `r_seek` returns 0. -/
  seekOk : Bool
  /-- `r_start` returns 0. -/
  startOk : Bool
  /-- A UDP port pair, or the two local socket pairs, can be had. -/
  socketsOk : Bool
  /-- `connection_count > max_conns`. -/
  full : Bool
  /-- A new session id. -/
  freshId : List Char
  now : ℚ
  lastTimestamp : ℚ
  maxRate : ℚ

/-- `r_open`. -/
def Environment.openResource (env : Environment) (path : Option (List Char)) : Option Resource :=
  (env.rOpen path).map fun r => { r with path := path }

/-- The path of a resource URI. -/
def Environment.resourcePath (env : Environment) (uri : List Char) : Option (List Char) :=
  (env.urlPath uri).bind env.unescapePath

/-- What `r_pause` is called with in `rtsp_do_pause`: the source has `resource != NULL`. -/
inductive PauseArgument | comparison | resource
deriving DecidableEq, Repr

/-- `rtsp_quick_response`. -/
def Client.respond (c : Client) (status : ResponseCode) : Client :=
  { c with outQueue := { status } :: c.outQueue }

/-! ## Checks -/

/-- `rtsp_request_get_url`: the path, or the code of the response that was sent. -/
def requestGetUrl (env : Environment) (req : Request) : Except ResponseCode (List Char) :=
  match (env.unescape req.object).bind env.urlPath with
  | none => .error .badRequest
  | some path =>
    if contains path "../" || contains path "./" then .error .forbidden else .ok path

def validStates : ServerState → String
  | .init => "OPTIONS, DESCRIBE, SETUP, TEARDOWN"
  | .ready => "OPTIONS, DESCRIBE, SETUP, TEARDOWN, PLAY"
  | .playing => "OPTIONS, DESCRIBE, SETUP, TEARDOWN, PLAY, PAUSE"

/-- `rtsp_check_invalid_state`: the client with the response, if the state is invalid. -/
def checkInvalidState (c : Client) (invalid : ServerState) : Except Fault (Option Client) :=
  match c.session with
  | none => .error .noSession
  | some s =>
    if s.curState ≠ invalid then .ok none
    else .ok (some { c with
      outQueue := { status := .invalidMethodInState, allow := some (validStates invalid) } ::
        c.outQueue })

/-- `parse_require_header`. -/
def parseRequireHeader (c : Client) (req : Request) : Except ResponseCode Client :=
  match req.require with
  | none => .ok c
  | some hdr =>
    if contains hdr "PS" then .ok { c with defaultStreamType := .ps }
    else if contains hdr "MP2P" then .ok { c with defaultStreamType := .mp2p }
    else if contains hdr "RAW" then .ok { c with defaultStreamType := .raw }
    else .error .notImplemented

/-! ## SETUP -/

/-- The channels of a TCP transport: a missing RTCP channel is the one after RTP. -/
def ParsedTransport.channels (t : ParsedTransport) : ParsedTransport :=
  if t.rtp ≠ 0 ∧ t.rtcp = 0 then { t with rtcp := t.rtp + 1 } else t

/-- The end of `ragel_parse_transport_header` and `check_parsed_transport`; `none` when the transport
is refused. -/
def checkParsedTransport (env : Environment) (c : Client) (t : ParsedTransport) :
    Option (Client × ParsedTransport) :=
  if t.rtp = 0 ∧ t.rtcp = 0 then none
  else
    match t.protocol with
    | .udp => if env.socketsOk then some (c, t) else none
    | .tcp =>
      let t := t.channels
      if t.rtp > 255 ∧ t.rtcp > 255 then none
      else if env.socketsOk then
        some ({ c with interleaved := (t.rtp, t.rtcp) :: c.interleaved }, t)
      else none

/-- `select_requested_track` once the session has a resource. -/
def findTrack (c : Client) (r : Resource) (name : List Char) :
    Client × Except ResponseCode (List Char) :=
  if name ∈ r.tracks then (c, .ok name) else (c, .error .notFound)

/-- `select_requested_track`. -/
def selectRequestedTrack (env : Environment) (req : Request) (c : Client) (s : Session) :
    Except Fault (Client × Except ResponseCode (List Char)) :=
  match s.resource, s.resourceUri with
  | none, none =>
    match strstr trackUriSeparator req.object with
    | none => .ok ({ c with session := some s }, .error .aggregateOnly)
    | some (uri, name) =>
      match c.cachedResource with
      | some r =>
        .ok (findTrack { c with
          cachedResource := none
          session := some { s with resource := some r, resourceUri := some uri } } r name)
      | none =>
        match env.openResource (env.resourcePath uri) with
        | none => .ok ({ c with session := some s }, .error .notFound)
        | some r =>
          let r := { r with serial := c.opened.length }
          .ok (findTrack { c with
            opened := r :: c.opened
            session := some { s with resource := some r, resourceUri := some uri } } r name)
  | some r, some uri =>
    let c := { c with session := some s }
    if !uri.isPrefixOf req.object then .ok (c, .error .aggregateNotAllowed)
    else
      let behind := req.object.drop uri.length
      if !trackUriSeparator.isPrefixOf behind then .ok (c, .error .aggregateOnly)
      else .ok (findTrack c r (behind.drop trackUriSeparator.length))
  | _, _ => .error .uriWithoutResource

/-- `rtp_session_new` and the end of `RTSP_setup`. -/
def addRtpSession (req : Request) (t : ParsedTransport) (name : List Char) (s : Session) : Session :=
  { s with
    rtpSessions := s.rtpSessions ++ [{ uri := req.object, track := name, transport := t }]
    curState := if s.curState = .init then .ready else s.curState }

/-- The track of a SETUP, and its RTP session; a client without a session gets one. -/
def setupTrack (env : Environment) (req : Request) (t : ParsedTransport) (c : Client) :
    Except Fault Client :=
  match selectRequestedTrack env req c (c.session.getD { sessionId := env.freshId }) with
  | .error fault => .error fault
  | .ok (c, .error code) => .ok (c.respond code)
  | .ok (c, .ok name) =>
    .ok ({ c with session := c.session.map (addRtpSession req t name) }.respond .ok)

/-- `RTSP_setup`. -/
def setup (env : Environment) (req : Request) (c : Client) : Except Fault Client :=
  match requestGetUrl env req with
  | .error code => .ok (c.respond code)
  | .ok _ =>
    match parseRequireHeader c req with
    | .error code => .ok (c.respond code)
    | .ok c =>
      match req.transport.bind (checkParsedTransport env c) with
      | none => .ok (c.respond .unsupportedTransport)
      | some (c, t) =>
        if env.full then .ok (c.respond .notEnoughBandwidth) else setupTrack env req t c

/-! ## PAUSE -/

/-- What `rtsp_do_pause` does to the session. -/
def Session.pause (env : Environment) (s : Session) (r : Resource) (range : Range)
    (rest : List Range) : Session :=
  let range := if r.seekable then { range with beginTime := env.lastTimestamp, seek := false }
    else range
  { s with
    playRequests := { range with playbackTime := -1 / 10 } :: rest
    started := false
    fillPool := false
    curState := .ready }

/-- `rtsp_do_pause`. -/
def doPause (arg : PauseArgument) (env : Environment) (s : Session) : Except Fault Session :=
  match s.resource, s.playRequests with
  | none, _ => .error .noResource
  | some _, [] => .error .noRange
  | some r, range :: rest =>
    match arg with
    | .comparison => .error .badResource
    | .resource => .ok (s.pause env r range rest)

/-- `RTSP_pause`. -/
def pause (arg : PauseArgument) (env : Environment) (req : Request) (c : Client) :
    Except Fault Client := do
  if let some c' ← checkInvalidState c .init then return c'
  if let some c' ← checkInvalidState c .ready then return c'
  match requestGetUrl env req with
  | .error code => return c.respond code
  | .ok _ =>
    match c.session with
    | none => .error .noSession
    | some s =>
      let s ← doPause arg env s
      return { c with session := some s }.respond .ok

/-! ## PLAY -/

/-- A part of PLAY: the session after it, and the code. -/
abbrev Part := Session → Except Fault (Session × ResponseCode)

/-- The next part, unless this one failed. -/
def Part.andThen (f g : Part) : Part := fun s =>
  match f s with
  | .error fault => .error fault
  | .ok (s, code) => if code = .ok then g s else .ok (s, code)

/-- `defaultrange`. -/
def defaultRange : Range := ⟨0, -1 / 10, -1 / 10, false⟩

/-- The range that is queued for a new `Range`, or the code. -/
def fitRange (env : Environment) (r : Resource) (range : Range) : Except ResponseCode Range :=
  let playbackTime := if range.playbackTime < 0 then env.now else range.playbackTime
  if !r.seekable then .ok ⟨0, -1 / 10, playbackTime, range.seek⟩
  else if range.endTime > r.duration then .error .invalidRange
  else if range.endTime < 0 then .ok { range with endTime := r.duration, playbackTime }
  else .ok { range with playbackTime }

/-- `rtsp_session_editlist_free`, when not playing, and `rtsp_session_editlist_append`. -/
def Session.queueRange (s : Session) (range : Range) : Session :=
  { s with
    playRequests := if s.curState = .playing then s.playRequests ++ [range] else [range] }

/-- `parse_range_header`. -/
def parseRangeHeader (env : Environment) (req : Request) : Part := fun s =>
  match req.range, s.playRequests with
  | none, range :: rest =>
    .ok ({ s with playRequests := { range with seek := false, playbackTime := env.now } :: rest },
      .ok)
  | some none, _ => .ok (s, .notImplemented)
  | none, [] =>
    match s.resource with
    | none => .error .noResource
    | some r =>
      match fitRange env r defaultRange with
      | .error code => .ok (s, code)
      | .ok range => .ok (s.queueRange range, .ok)
  | some (some range), _ =>
    match s.resource with
    | none => .error .noResource
    | some r =>
      if !r.seekable ∧ range.beginTime ≠ 0 ∧ range.endTime ≠ -1 / 10 then
        .ok (s, .headerFieldNotValidForResource)
      else
        match fitRange env r { range with seek := true } with
        | .error code => .ok (s, code)
        | .ok range => .ok (s.queueRange range, .ok)

def scaleTable : List ℚ := [1 / 4, 1 / 2, 1, 2, 4, 8, 101, 102, 104, 108, 116, 255]

/-- The scale and the download flag of the session for a supported value. -/
def Session.setScale (env : Environment) (s : Session) (v : ℚ) : Session :=
  let scale := if 100 ≤ v ∧ v ≤ 132 then if 116 ≤ v then env.maxRate else v - 100
    else if v = 255 then env.maxRate else v
  { s with
    scaleReq := v
    scale := if scale > env.maxRate then env.maxRate else scale
    download := s.download || decide (100 ≤ v ∧ v ≤ 132) }

/-- `parse_scale_header`. -/
def parseScaleHeader (env : Environment) (req : Request) : Part := fun s =>
  match req.scale with
  | none => .ok (s, .ok)
  | some none => .ok (s, .notImplemented)
  | some (some v) =>
    if v ∉ scaleTable then .ok (s, .notImplemented)
    else
      match s.resource with
      | none => .error .noResource
      | some r =>
        if r.live ∧ v ≠ 1 then .ok (s, .notImplemented) else .ok (s.setScale env v, .ok)

/-- A header of one of two words; the first one is looked for first. -/
def wordHeader (hdr : Option (List Char)) (first second : String) (onFirst onSecond : Session → Session) :
    Part := fun s =>
  match hdr with
  | none => .ok (s, .ok)
  | some text =>
    if contains text first then .ok (onFirst s, .ok)
    else if contains text second then .ok (onSecond s, .ok)
    else .ok (s, .notImplemented)

/-- `parse_Download_header`. -/
def parseDownloadHeader (req : Request) : Part :=
  wordHeader req.download "no" "yes" (fun s => { s with download := false })
    fun s => { s with download := true }

/-- `parse_RateControl_header`. -/
def parseRateControlHeader (env : Environment) (req : Request) : Part :=
  wordHeader req.rateControl "no" "yes"
    (fun s => { s with scale := env.maxRate, disableRateControl := true })
    fun s => { s with disableRateControl := false }

/-- `parse_frames_header`. -/
def parseFramesHeader (req : Request) : Part :=
  wordHeader req.frames "intra" "all" (fun s => { s with onlyKeyFrame := true })
    fun s => { s with onlyKeyFrame := false }

def isVlc (req : Request) : Bool :=
  req.userAgent.any fun agent =>
    "VLC media player".toList.isPrefixOf agent || "LibVLC".toList.isPrefixOf agent

/-- The `Frames` header, and what VLC gets without it. -/
def framesPart (req : Request) : Part := fun s =>
  if req.frames.isSome then parseFramesHeader req s
  else .ok (if isVlc req then { s with onlyKeyFrame := decide (s.scale > 1) } else s, .ok)

def audioSkipPart (req : Request) : Part := fun s =>
  .ok (if isVlc req then { s with simpleAudioSkip := decide (s.scale > 1) } else s, .ok)

/-- `do_play`. -/
def doPlay (env : Environment) : Part := fun s =>
  match s.resource with
  | none => .error .noResource
  | some r =>
    if r.seekable ∧ s.playRequests = [] then .error .noRange
    else if r.seekable ∧ s.playRequests.head?.any (·.seek) ∧ !env.seekOk then .ok (s, .invalidRange)
    else
      let s := { s with curState := .playing }
      if s.rtpSessions.head?.any (·.multicast) then .ok (s, .ok)
      else if !env.startOk then .ok (s, .internalServerError)
      -- The range is followed when it is logged.
      else if s.playRequests = [] then .error .noRange
      else .ok ({ s with started := true, fillPool := r.pull || s.fillPool }, .ok)

/-- `send_play_reply` looks at the range. -/
def playReply (s : Session) : Except Fault Unit :=
  if s.playRequests = [] then .error .noRange else .ok ()

/-- The headers of PLAY, and playing. -/
def playParts (env : Environment) (req : Request) : Part :=
  (parseRangeHeader env req).andThen <|
  (parseScaleHeader env req).andThen <|
  (parseDownloadHeader req).andThen <|
  (parseRateControlHeader env req).andThen <|
  (framesPart req).andThen <|
  (audioSkipPart req).andThen fun s => if s.curState ≠ .playing then doPlay env s else .ok (s, .ok)

/-- `RTSP_play`. -/
def play (arg : PauseArgument) (env : Environment) (req : Request) (c : Client) :
    Except Fault Client := do
  if let some c' ← checkInvalidState c .init then return c'
  match requestGetUrl env req with
  | .error code => return c.respond code
  | .ok _ =>
    match c.session with
    | none => .error .noSession
    | some s =>
      let s ← if s.curState = .playing then doPause arg env s else pure s
      let (s, code) ← playParts env req s
      if code ≠ .ok then return { c with session := some s }.respond code
      playReply s
      return { c with session := some s }.respond .ok

/-! ## The other methods -/

/-- `RTSP_describe`: the opened resource goes into the cache of the client. -/
def describe (env : Environment) (req : Request) (c : Client) : Client :=
  match requestGetUrl env req with
  | .error code => c.respond code
  | .ok path =>
    match parseRequireHeader c req with
    | .error code => c.respond code
    | .ok c =>
      match env.openResource (env.unescapePath path) with
      | none => c.respond .notFound
      | some r =>
        let r := { r with serial := c.opened.length }
        { c with
          opened := r :: c.opened
          closed := c.cachedResource.toList ++ c.closed
          cachedResource := some r }.respond .ok

/-- `RTSP_teardown`. -/
def teardown (env : Environment) (req : Request) (c : Client) : Client :=
  match requestGetUrl env req with
  | .error code => c.respond code
  | .ok _ => c.respond .ok

def isLineEnd (ch : Char) : Bool := ch = '\r' || ch = '\n'

/-- `sscanf` with `%[^\r\n]`: what it matches, and the rest; it needs one character. -/
def scanLine (params : List Char) : Option (List Char × List Char) :=
  let line := params.takeWhile fun ch => !isLineEnd ch
  if line = [] then none else some (line, params.dropWhile fun ch => !isLineEnd ch)

/-- What one parameter adds to the description. -/
def describeParam (session : Option Session) (param : List Char) : List Char :=
  match session with
  | none => []
  | some s =>
    if param = "session_ended".toList then
      "session_ended: ".toList ++ (if s.started then "No" else "Yes").toList ++ "\r\n".toList
    else []

theorem scanLine_eq_some {params line rest : List Char} (h : scanLine params = some (line, rest)) :
    params = line ++ rest ∧ line ≠ [] := by
  unfold scanLine at h
  dsimp only at h
  split_ifs at h with hline
  cases h
  exact ⟨List.takeWhile_append_dropWhile.symm, hline⟩

theorem scanLine_length {params line rest : List Char} (h : scanLine params = some (line, rest)) :
    (rest.dropWhile isLineEnd).length < params.length := by
  obtain ⟨rfl, hne⟩ := scanLine_eq_some h
  have hrest := (List.dropWhile_sublist isLineEnd (l := rest)).length_le
  have hline := List.length_pos_iff.2 hne
  rw [List.length_append]
  omega

/-- The size of `param`. -/
def paramSize : Nat := 256

/-- The loop of `parameter_desc`; the line and its zero have to fit into `param`. -/
def parameterLoop (session : Option Session) (params descr : List Char) :
    Except Fault (List Char) :=
  match _h : scanLine params with
  | none => .ok descr
  | some (line, rest) =>
    if line.length + 1 > paramSize then .error .paramOverrun
    else parameterLoop session (rest.dropWhile isLineEnd) (descr ++ describeParam session line)
termination_by params.length
decreasing_by exact scanLine_length ‹_›

/-- `parameter_desc`: an empty description is none. -/
def parameterDesc (req : Request) (c : Client) : Except Fault (Option (List Char)) :=
  match req.body with
  | none => .ok none
  | some params =>
    (parameterLoop c.session params []).map fun descr => if descr = [] then none else some descr

/-- `RTSP_get_parameter`. -/
def getParameter (env : Environment) (req : Request) (c : Client) : Except Fault Client := do
  if let some c' ← checkInvalidState c .init then return c'
  match requestGetUrl env req with
  | .error code => return c.respond code
  | .ok _ =>
    let descr ← parameterDesc req c
    return { c with outQueue := { status := .ok, parameters := descr } :: c.outQueue }

/-- `check_session`. -/
def checkSession (req : Request) (c : Client) : Bool :=
  match req.session with
  | none => true
  | some id => c.session.any fun s => s.sessionId = id

/-- What is answered before a handler is called: the end of `rtsp_parse_request`, and the table of
`rtsp_handle_request`. -/
def refusal (req : Request) (c : Client) : Option ResponseCode :=
  if req.method = none then some .notImplemented
  else if !req.cseq then some .badRequest
  else if !checkSession req c then some .sessionNotFound
  else
    match req.method with
    | some .announce | some .record | some .redirect | some .setParameter => some .notImplemented
    | _ => none

/-- `rtsp_handle_request`. -/
def handleRequest (arg : PauseArgument) (env : Environment) (req : Request) (c : Client) :
    Except Fault Client :=
  match refusal req c with
  | some code => .ok (c.respond code)
  | none =>
    match req.method with
    | some .describe => .ok (describe env req c)
    | some .setup => setup env req c
    | some .teardown => .ok (teardown env req c)
    | some .options => .ok (c.respond .ok)
    | some .play => play arg env req c
    | some .pause => pause arg env req c
    | some .getParameter => getParameter env req c
    | _ => .ok (c.respond .notImplemented)

/-- A request and what happens outside during it. -/
structure Event where
  req : Request
  env : Environment

/-- `none` where the handler faults. -/
def rtspStep (arg : PauseArgument) (c : Client) (e : Event) : Option Client :=
  (handleRequest arg e.env e.req c).toOption

end Rtsp

end StreamSwitch
