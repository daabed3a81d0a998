import StreamSwitch.RtspSource.Frames

/-!
# Responses and timers of the RTSP source

`Start`, `Shutdown`, the `ContinueAfter...` functions and the handlers of the delayed tasks of
`stsw_rtsp_client.cc`. A response, an expiry, a frame or the end of a subsession is an event and
may come at any time; `step` has no result where an event cannot happen or where its
handler follows a pointer that is not there.
-/

namespace StreamSwitch

namespace RtspSource

/-! ## Constants of the source -/

def durationSlop : ℚ := 1
def initialSeekTime : ℚ := 0
def scale : ℚ := 1
def interPacketGapMaxTime : Int := 10

/-- `RTSP_KEEPALIVE_INTERVAL`. -/
def rtspKeepaliveInterval : UInt32 := 60

namespace LiveRtspClient

/-! ## Delayed tasks -/

def scheduleDelayedTask (c : LiveRtspClient) (kind : TaskKind) (microseconds : Int)
    (clientData : ClientData) : LiveRtspClient :=
  { c with tasks := c.tasks.arm kind ⟨microseconds, clientData⟩ }

/-- The field is cleared, after its task was unscheduled. -/
def unscheduleDelayedTask (c : LiveRtspClient) (kind : TaskKind) : LiveRtspClient :=
  { c with tasks := c.tasks.disarm kind }

/-- `CheckInterFrameGaps`. -/
def checkInterFrameGaps (c : LiveRtspClient) (now : Int) : LiveRtspClient :=
  let c := { c with tasks := c.tasks.forget .interFrameGapCheckTimer }
  if now ≥ c.lastFrameTime ∧ now - c.lastFrameTime ≥ interPacketGapMaxTime then
    c.handleError .interFrameGap
  else c.scheduleDelayedTask .interFrameGapCheckTimer 1000000 .client

/-- The handlers of the tasks. `KeepAliveSession` only sends a request. -/
def handleTask (c : LiveRtspClient) (kind : TaskKind) (now : Int) : LiveRtspClient :=
  match kind with
  | .rtspKeepAlive => { c with tasks := c.tasks.forget .rtspKeepAlive }
  | .sessionTimer => { c with tasks := c.tasks.forget .sessionTimer }.handleError .sessionTimer
  | .rtspTimeout => { c with tasks := c.tasks.forget .rtspTimeout }.handleError .connectFail
  | .interFrameGapCheckTimer => c.checkInterFrameGaps now

/-- The scheduler runs a task that is due. -/
def expire (c : LiveRtspClient) (token : Nat) (now : Int) : Option (Except Fault LiveRtspClient) :=
  (c.tasks.fire token).map fun (task, tasks) =>
    match task.argument.clientData with
    | .null => .error .noClient
    | .client => .ok ({ c with tasks := tasks }.handleTask task.kind now)

/-! ## Start and Shutdown -/

/-- `Start`, with the random number for the `ssrc`. -/
def start (c : LiveRtspClient) (ssrc : UInt32) : LiveRtspClient :=
  let c := { c with metadata := { c.metadata with ssrc := ssrc } }
  let c := c.scheduleDelayedTask .rtspTimeout 60000000 .client
  { c with areAlreadyShuttingDown := false }

/-- `ContinueAfterTEARDOWN`: the sinks are closed with the session. -/
def continueAfterTEARDOWN (c : LiveRtspClient) : LiveRtspClient :=
  { c with
    sessions := c.sessions.filter fun s => c.session ≠ some s.address
    session := none }

/-- `Shutdown`. -/
def shutdown (c : LiveRtspClient) : LiveRtspClient :=
  if c.areAlreadyShuttingDown then c
  else
    let c := { c with areAlreadyShuttingDown := true }
    let c := c.unscheduleDelayedTask .sessionTimer
    let c := c.unscheduleDelayedTask .interFrameGapCheckTimer
    let c := c.unscheduleDelayedTask .rtspKeepAlive
    let c := c.unscheduleDelayedTask .rtspTimeout
    c.continueAfterTEARDOWN

/-! ## SETUP -/

/-- The range that is asked for. -/
def setDuration (c : LiveRtspClient) (s : MediaSession) : LiveRtspClient :=
  let duration := if c.duration = 0 then s.playEndTime - initialSeekTime else c.duration
  let duration := if duration < 0 then 0 else duration
  { c with
    duration := duration
    endTime := if duration ≤ 0 then -1 else initialSeekTime + duration }

/-- The end of `SetupStreams`: sinks, metadata, and PLAY is sent. -/
def setupDone (c : LiveRtspClient) : Except Fault LiveRtspClient :=
  if !c.madeProgress then .ok (c.handleError .setupErr)
  else
    match c.session.bind c.findSession with
    | none => .error .noSession
    | some s =>
      let (subs, ok) := setupSinks s.subsessions 0
      let c := c.setSubsessions s.address subs
      if !ok then .ok (c.handleError .subsessionInitErr)
      else .ok ((c.setupMetaFromSession subs).setDuration s)

/-- `SetupStreams`: SETUP is sent for the next subsession that has a port. -/
def setupStreams (c : LiveRtspClient) : Except Fault LiveRtspClient :=
  match c.setupIter <|> c.session.map fun address => (address, 0) with
  | none => .error .noSession
  | some (address, position) =>
    match c.findSession address with
    | none => .error .closedSession
    | some s =>
      match (s.subsessions.drop position).findIdx? fun sub => sub.clientPortNum ≠ 0 with
      | some i =>
        .ok { c with
          setupIter := some (address, position + i + 1)
          curSetupSubsession := some address }
      | none => { c with setupIter := none }.setupDone

/-- `ContinueAfterSETUP`. -/
def continueAfterSETUP (c : LiveRtspClient) (resultCode : Int) : Except Fault LiveRtspClient :=
  match c.curSetupSubsession with
  | none => .error .noSession
  | some address =>
    match c.findSession address with
    | none => .error .closedSession
    | some _ => { c with madeProgress := c.madeProgress || resultCode = 0 }.setupStreams

/-! ## DESCRIBE -/

/-- The subsessions that are asked for are initiated. The first one of a single medium changes the
name that is looked for. -/
def initiateAll : Option String → List MediaSubsession → List MediaSubsession
  | _, [] => []
  | singleMedium, sub :: subs =>
    if singleMedium.any fun medium => sub.mediumName ≠ medium then
      sub :: initiateAll singleMedium subs
    else
      (match sub.initiates with
        | none => sub
        | some port => { sub with readSource := true, clientPortNum := port }) ::
        initiateAll (singleMedium.map fun _ => "xxxxx") subs

/-- `ContinueAfterDESCRIBE`; `sdp` is what `MediaSession::createNew` makes of the description. -/
def continueAfterDESCRIBE (c : LiveRtspClient) (resultCode : Int) (sdp : Option MediaSession) :
    Except Fault LiveRtspClient :=
  if resultCode ≠ 0 then .ok (c.handleError .describeErr)
  else
    match sdp with
    | none => .ok ({ c with session := none }.handleError .mediasessionCreateFail)
    | some s =>
      let subs := initiateAll c.singleMedium s.subsessions
      let c := { c with
        sessions := { s with address := c.nextAddress, subsessions := subs } :: c.sessions
        session := some c.nextAddress
        nextAddress := c.nextAddress + 1 }
      if s.subsessions = [] then .ok (c.handleError .noSubsession)
      else if !subs.any (·.readSource) then .ok (c.handleError .subsessionInitErr)
      else { c with madeProgress := false }.setupStreams

/-! ## PLAY and keep-alive -/

/-- The play range of the session as a PLAY response announces it. -/
def announceRange (c : LiveRtspClient) (range : Option (ℚ × ℚ)) : LiveRtspClient :=
  match range with
  | none => c
  | some (start, stop) =>
    { c with
      sessions := c.sessions.map fun s =>
        if c.session = some s.address then { s with playStartTime := start, playEndTime := stop } else s }

/-- The end of a finite stream is timed. -/
def scheduleSessionTimer (c : LiveRtspClient) (s : MediaSession) : LiveRtspClient :=
  let rangeAdjustment := (s.playEndTime - s.playStartTime) - (c.endTime - initialSeekTime)
  let duration :=
    if c.duration + rangeAdjustment > 0 then c.duration + rangeAdjustment else c.duration
  let secondsToDelay := duration / |scale| + durationSlop
  -- The source passes `(void*)NULL` here.
  { c with duration := duration }.scheduleDelayedTask .sessionTimer ⌊secondsToDelay * 1000000⌋ .null

/-- The end of `ContinueAfterPLAY`: a keep-alive is sent and the gaps are looked at. -/
def playStarted (c : LiveRtspClient) (frameTime now : Int) : Except Fault LiveRtspClient :=
  let c := (c.unscheduleDelayedTask .rtspTimeout).call .onRtspOK
  if c.enableRtspKeepAlive ∧ c.session = none then .error .noSession
  else .ok ({ c with lastFrameTime := frameTime }.checkInterFrameGaps now)

/-- `ContinueAfterPLAY`, with the time of day where it is asked for. -/
def continueAfterPLAY (c : LiveRtspClient) (resultCode : Int) (range : Option (ℚ × ℚ))
    (frameTime now : Int) : Except Fault LiveRtspClient :=
  let c := c.announceRange range
  if resultCode ≠ 0 then .ok (c.handleError .playErr)
  else if c.duration > 0 then
    match c.session.bind c.findSession with
    | none => .error .noSession
    | some s => (c.scheduleSessionTimer s).playStarted frameTime now
  else c.playStarted frameTime now

/-- The delay until the next keep-alive, in microseconds. -/
def keepAliveDelay (sessionTimeoutParameter : UInt32) : UInt32 :=
  let sessionTimeout :=
    if sessionTimeoutParameter = 0 then rtspKeepaliveInterval else sessionTimeoutParameter
  (if sessionTimeout ≤ 5 then 1 else sessionTimeout - 5) * 1000000

/-- `ContinueAfterKeepAlive`. -/
def continueAfterKeepAlive (c : LiveRtspClient) (sessionTimeoutParameter : UInt32) : LiveRtspClient :=
  if c.session ≠ none ∧ c.tasks.slot .rtspKeepAlive = none then
    c.scheduleDelayedTask .rtspKeepAlive (keepAliveDelay sessionTimeoutParameter).toNat .client
  else c

/-- `SubsessionAfterPlaying`: the sink is closed; `none` where there is no such subsession. -/
def subsessionAfterPlaying (c : LiveRtspClient) (address position : Nat) : Option LiveRtspClient := do
  let s ← c.findSession address
  let sub ← s.subsessions[position]?
  let subs := s.subsessions.set position { sub with sink := none }
  let c := c.setSubsessions address subs
  return if subs.any (·.sink.isSome) then c else c.handleError .subsessionBye

end LiveRtspClient

/-! ## Events -/

inductive Event
  | start (ssrc : UInt32)
  | optionsResponse (resultCode : Int)
  | describeResponse (resultCode : Int) (sdp : Option MediaSession)
  | setupResponse (resultCode : Int)
  | playResponse (resultCode : Int) (range : Option (ℚ × ℚ)) (frameTime now : Int)
  | keepAliveResponse (resultCode : Int) (sessionTimeoutParameter : UInt32)
  | expiry (token : Nat) (now : Int)
  | frame (address position : Nat) (f : Frame)
  | subsessionClosed (address position : Nat)
  | bye (address position : Nat)
  | shutdown

/-- After OPTIONS, a DESCRIBE is sent. -/
def step (c : LiveRtspClient) : Event → Option LiveRtspClient
  | .start ssrc => some (c.start ssrc)
  | .optionsResponse _ => some c
  | .describeResponse resultCode sdp => (c.continueAfterDESCRIBE resultCode sdp).toOption
  | .setupResponse resultCode => (c.continueAfterSETUP resultCode).toOption
  | .playResponse resultCode range frameTime now =>
    (c.continueAfterPLAY resultCode range frameTime now).toOption
  | .keepAliveResponse _ sessionTimeoutParameter => some (c.continueAfterKeepAlive sessionTimeoutParameter)
  | .expiry token now => (c.expire token now).bind Except.toOption
  | .frame address position f => (c.frame address position f).bind Except.toOption
  | .subsessionClosed address position | .bye address position =>
    c.subsessionAfterPlaying address position
  | .shutdown => some c.shutdown

end RtspSource

end StreamSwitch
