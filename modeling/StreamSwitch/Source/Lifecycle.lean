import StreamSwitch.Source.Clients
import StreamSwitch.Source.Metadata

/-!
# The life of a stream source

The constructor, `Init`, `Uninit`, `Start`, `Stop` and `set_stream_state` of
`stsw_stream_source.cc`, and the handlers that `Init` registers.

`source_reinit_iff`: whatever was done with a source, `Uninit` and a successful
`Init` leave what the same `Init` leaves of a new one if and only if the fields that
neither of them touches have the values of the constructor: the stream length, the
stream state, the bit rate, the time of the last frame, the time of the last
housekeeping and the list of clients.
-/

namespace StreamSwitch

/-- What the handlers of a source read from outside of it. -/
structure SourceEnv where
  /-- `zclock_time()` when `time(NULL)` has the given value. -/
  zclockTime : Int64 → Int64 := fun t => t * 1000
  /-- `OnMediaStatistic` of the listener, which may overwrite the statistics. -/
  onMediaStatistic : MediaStatisticInfo → MediaStatisticInfo := id

/-- The entry of a statistics reply for the counters `st`. -/
def ProtoSubStreamMediaStatistic.ofStatistic (st : SubStreamMediaStatistic) :
    ProtoSubStreamMediaStatistic :=
  { subStreamIndex := some st.subStreamIndex
    mediaType := some st.mediaType
    dataBytes := some st.dataBytes
    keyBytes := some st.keyBytes
    lostFrames := some st.lostFrames
    dataFrames := some st.dataFrames
    keyFrames := some st.keyFrames
    lastGov := some st.lastGov }

def ProtoMediaStatisticRep.ofStatistic (statistic : MediaStatisticInfo) : ProtoMediaStatisticRep :=
  { timestamp := some statistic.timestamp
    ssrc := some statistic.ssrc
    sumBytes := some statistic.sumBytes
    subStreamStats := statistic.subStreams.map .ofStatistic }

namespace StreamSource

variable (pb : ApiProtobuf) (env : SourceEnv)

/-! ## The handlers of `Init` -/

/-- The listener is told before the reply is sent. -/
def keyFrameHandler : SourceApiHandler SourceData := fun _ d request _ =>
  .sendRpcReply (replyTo request statusOk "") none fun _ => .ret 0 d

def localStatistic (d : SourceData) (timestamp : Int64) : MediaStatisticInfo :=
  { ssrc := d.streamMeta.ssrc
    timestamp := timestamp
    sumBytes := d.statistic.foldl (fun sum sub => sum + sub.dataBytes) 0
    subStreams := d.statistic }

def statisticHandler : SourceApiHandler SourceData := fun now d request _ =>
  let statistic := env.onMediaStatistic (localStatistic d (env.zclockTime now))
  .sendRpcReply
    { replyTo request statusOk "" with
      body := some (pb.mediaStatisticRep.encode (.ofStatistic statistic)) }
    none fun _ => .ret 0 d

/-- The page of the clients that a request asks for. -/
def clientListRep (receiverList : List ProtoClientHeartbeatReq) (req : ProtoClientListReq) :
    ProtoClientListRep :=
  { totalNum := some (UInt32.ofNat receiverList.length)
    startIndex := some (req.startIndex.getD 0)
    clientList :=
      if (req.startIndex.getD 0).toNat < receiverList.length then
        (receiverList.drop (req.startIndex.getD 0).toNat).take (req.clientNum.getD 0).toNat
      else [] }

def clientListHandler : SourceApiHandler SourceData := fun _ d request _ =>
  match pb.clientListReq.decode request.getBody with
  | some req => .sendRpcReply
    { replyTo request statusOk "" with
      body := some (pb.clientListRep.encode (clientListRep d.receiverList req)) }
    none fun _ => .ret 0 d
  | none => .sendRpcReply
    (replyTo request statusBadRequest "ProtoClientHeartbeatReq body Parse Error")
    none fun _ => .ret 0 d

/-- The calls of `RegisterApiHandler` in `Init`. -/
def registerHandlers (s : StreamSource) : StreamSource :=
  let s := s.registerApiHandler codeMetadata (metadataHandler pb.toProtobuf)
  let s := s.registerApiHandler codeKeyFrame keyFrameHandler
  let s := s.registerApiHandler codeMediaStatistic (statisticHandler pb env)
  let s := s.registerApiHandler codeClientHeartbeat (clientHeartbeatHandler pb.toProtobuf)
  s.registerApiHandler codeClientList (clientListHandler pb)

/-! ## `Init` and `Uninit` -/

/-- `StreamSource::StreamSource()`. -/
def constructed : StreamSource := { user := {} }

/-- `failure` is the error of the lock and the sockets, if they cannot be created. -/
def init (s : StreamSource) (streamName : String) (failure : Option String) : Ret × StreamSource :=
  if streamName.utf8ByteSize = 0 then (⟨.param, "stream_name cannot be 0"⟩, s)
  else if streamName.utf8ByteSize ≥ 64 then
    (⟨.param, "stream_name cannot be larger than 64"⟩, s)
  else if s.isInit then (⟨.general, "source already init"⟩, s)
  else
    match failure with
    | some text => (⟨.system, text⟩, s)
    | none =>
      let s := registerHandlers pb env { s with apiSocket := {} }
      let d := { s.user with
        streamMeta := { s.user.streamMeta with
          subStreams := [], bps := 0, playType := .live, ssrc := 0, sourceProto := "" }
        statistic := []
        streamName := streamName }
      (⟨.ok, ""⟩, { s with user := d, isInit := true })

/-- What the system calls of `Start` answer. -/
structure StartEnv where
  /-- Another thread is in `Stop`: `api_thread_id_` is set and STARTED is not. -/
  stopping : Bool := false
  /-- The error of `pthread_create`. -/
  thread : Option String := none

def start (s : StreamSource) (env : StartEnv) : Ret × StreamSource :=
  if !s.isInit then (⟨.general, "Source not init"⟩, s)
  else if s.isStarted then (⟨.ok, ""⟩, s)
  else if env.stopping then (⟨.busy, "An other thread is stopping the source, try later"⟩, s)
  else
    match env.thread with
    | some text => (⟨.general, s!"pthread_create failed:{text}"⟩, s)
    | none => (⟨.ok, ""⟩, { s with isStarted := true })

/-- `Stop`, with the API thread joined. -/
def stop (s : StreamSource) : StreamSource := { s with isStarted := false }

def uninit (s : StreamSource) : StreamSource :=
  if !s.isInit then s else { stop s with isInit := false }.unregisterAllApiHandler

/-- `set_stream_state` sends the stream info at once when the state changed. -/
def setStreamState (pb : Protobuf) (s : StreamSource) (streamState : SourceStreamState)
    (sendTime : Int64) : StreamSource × List PublishMsg :=
  if !s.isInit then (s, [])
  else
    let s' := { s with user := { s.user with streamState := streamState } }
    (s', if s.user.streamState ≠ streamState then s'.sendStreamInfo pb sendTime else [])

/-- The source in another stream state. -/
def withState (s : StreamSource) (streamState : SourceStreamState) : StreamSource :=
  { s with user := { s.user with streamState := streamState } }

theorem setStreamState_cases (pb : Protobuf) (s : StreamSource) (streamState : SourceStreamState)
    (sendTime : Int64) : ∃ st, (setStreamState pb s streamState sendTime).1 = withState s st := by
  unfold setStreamState
  split
  · exact ⟨s.user.streamState, rfl⟩
  · exact ⟨streamState, rfl⟩

/-- `Start` fails and changes nothing, or the source runs. -/
theorem start_cases (s : StreamSource) (startEnv : StartEnv) :
    ((start s startEnv).1.code ≠ .ok ∧ (start s startEnv).2 = s) ∨
    ((start s startEnv).1.code = .ok ∧ (start s startEnv).2 = { s with isStarted := true }) := by
  unfold start
  split
  · exact .inl ⟨nofun, rfl⟩
  · split
    · next hs => exact .inr ⟨rfl, by rw [← hs]⟩
    · split
      · exact .inl ⟨nofun, rfl⟩
      · cases startEnv.thread with
        | some text => exact .inl ⟨nofun, rfl⟩
        | none => exact .inr ⟨rfl, rfl⟩

/-! ## Histories -/

/-- An operation on a source. -/
inductive SourceOp
  | init (streamName : String) (failure : Option String)
  | uninit
  | start (startEnv : StartEnv)
  | stop
  | setStreamMeta (m : StreamMetadata)
  | setStreamState (streamState : SourceStreamState) (sendTime : Int64)
  | sendLiveMediaFrame (f : LiveFrame)
  | register (opCode : Int32) (h : SourceApiHandler SourceData)
  | unregister (opCode : Int32)
  | unregisterAll
  /-- The API thread reads a message. -/
  | read (now : Int64) (msg : ApiMsg)
  /-- Its housekeeping. -/
  | heartbeat (now : Int64) (c : Clocks)

/-- One operation. What takes the lock needs a source that is initialised, the API thread one
that is started. -/
def lifeStep (s : StreamSource) : SourceOp → Option StreamSource
  | .init streamName failure => some (init pb env s streamName failure).2
  | .uninit => some (uninit s)
  | .start startEnv => some (start s startEnv).2
  | .stop => if s.isInit then some (stop s) else none
  | .setStreamMeta m => if s.isInit then (setStreamMeta s m).toOption else none
  | .setStreamState st sendTime => some (setStreamState pb.toProtobuf s st sendTime).1
  | .sendLiveMediaFrame f => (sendLiveMediaFrame pb.toProtobuf s f).toOption.map Sent.source
  | .register opCode h => if s.isInit then some (s.registerApiHandler opCode h) else none
  | .unregister opCode => if s.isInit then some (s.unregisterApiHandler opCode) else none
  | .unregisterAll => if s.isInit then some s.unregisterAllApiHandler else none
  | .read now msg => if s.isStarted then s.apiStep pb.toProtobuf (.read now msg) else none
  | .heartbeat now c => if s.isStarted then some (heartbeat pb.toProtobuf s now c).1 else none

/-- Only an initialised source has handlers and a thread. -/
structure LifeInv (s : StreamSource) : Prop where
  started : s.isStarted = true → s.isInit = true
  handlers : s.isInit = false → s.apiHandlerMap = fun _ => none

theorem lifeInv_of_isInit {s : StreamSource} (h : s.isInit = true) : LifeInv s :=
  ⟨fun _ => h, fun h' => absurd (h.symm.trans h') (by decide)⟩

theorem lifeInv_constructed : LifeInv constructed := by
  refine ⟨fun h => ?_, fun _ => rfl⟩
  cases h

/-- An operation that changes no flag and no handler. -/
theorem LifeInv.of_eq {s t : StreamSource} (h : LifeInv s) (hi : t.isInit = s.isInit)
    (hs : t.isStarted = s.isStarted) (hm : t.apiHandlerMap = s.apiHandlerMap) : LifeInv t := by
  refine ⟨fun h1 => ?_, fun h1 => ?_⟩
  · rw [hi]
    exact h.started (hs ▸ h1)
  · rw [hm]
    exact h.handlers (hi ▸ h1)

/-- What `Init` does: nothing, or all of it. -/
theorem init_cases (s : StreamSource) (streamName : String) (failure : Option String) :
    ((init pb env s streamName failure).1.code ≠ .ok ∧
      (init pb env s streamName failure).2 = s) ∨
    ((init pb env s streamName failure).1.code = .ok ∧ s.isInit = false ∧
      (init pb env s streamName failure).2 =
        { registerHandlers pb env s with
          isInit := true
          apiSocket := {}
          user := { s.user with
            streamMeta := { streamLen := s.user.streamMeta.streamLen }
            statistic := []
            streamName := streamName } }) := by
  unfold init
  split
  · exact .inl ⟨nofun, rfl⟩
  · split
    · exact .inl ⟨nofun, rfl⟩
    · split
      · exact .inl ⟨nofun, rfl⟩
      · next hi =>
        cases failure with
        | some text => exact .inl ⟨nofun, rfl⟩
        | none => exact .inr ⟨rfl, Bool.eq_false_iff.2 hi, rfl⟩

/-- Whether `Init` succeeds does not depend on the history. -/
theorem init_ret_of_not_init {s t : StreamSource} (hs : s.isInit = false) (ht : t.isInit = false)
    (streamName : String) (failure : Option String) :
    (init pb env s streamName failure).1 = (init pb env t streamName failure).1 := by
  unfold init
  rw [hs, ht]
  split
  · rfl
  · split
    · rfl
    · cases failure <;> rfl

theorem uninit_isInit (s : StreamSource) : (uninit s).isInit = false := by
  unfold uninit
  cases h : s.isInit with
  | false => exact h
  | true => rfl

theorem uninit_user (s : StreamSource) : (uninit s).user = s.user := by
  unfold uninit
  split <;> rfl

theorem uninit_handlers {s : StreamSource} (h : LifeInv s) :
    (uninit s).apiHandlerMap = fun _ => none := by
  unfold uninit
  cases hi : s.isInit with
  | false => exact h.handlers hi
  | true => rfl

/-- Serving the API socket changes neither flags nor handlers. -/
theorem sendRpcReply_frame (pb : Protobuf) (s : StreamSource) (reply : ProtoCommonPacket)
    (extraBlob : Option Bytes) :
    (s.sendRpcReply pb reply extraBlob).2.isInit = s.isInit ∧
      (s.sendRpcReply pb reply extraBlob).2.isStarted = s.isStarted ∧
      (s.sendRpcReply pb reply extraBlob).2.apiHandlerMap = s.apiHandlerMap := by
  unfold ApiSource.sendRpcReply
  repeat' split
  all_goals exact ⟨rfl, rfl, rfl⟩

theorem runHandler_frame (pb : Protobuf) (hr : HandlerRun SourceData) (s : StreamSource) :
    (s.runHandler pb hr).2.isInit = s.isInit ∧
      (s.runHandler pb hr).2.isStarted = s.isStarted ∧
      (s.runHandler pb hr).2.apiHandlerMap = s.apiHandlerMap := by
  induction hr generalizing s with
  | ret value user => exact ⟨rfl, rfl, rfl⟩
  | sendRpcReply reply extraBlob k ih =>
    obtain ⟨h1, h2, h3⟩ := ih _ (s.sendRpcReply pb reply extraBlob).2
    obtain ⟨g1, g2, g3⟩ := sendRpcReply_frame pb s reply extraBlob
    exact ⟨h1.trans g1, h2.trans g2, h3.trans g3⟩

theorem onApiSocketRead_isInit (pb : Protobuf) (now : Int64) (s : StreamSource) (msg : ApiMsg) :
    (s.onApiSocketRead pb now msg).isInit = s.isInit := by
  unfold ApiSource.onApiSocketRead
  split
  · next request _ =>
    unfold ApiSource.onRpcRequest
    simp only
    split
    · exact (sendRpcReply_frame pb s _ _).1
    · next handler _ =>
      have h := (runHandler_frame pb (handler now s.user request msg.extraBlob)
        { s with isWaitingReply := true }).1
      split
      · exact (sendRpcReply_frame pb _ _ _).1.trans h
      · exact h
  · exact (sendRpcReply_frame pb s _ _).1

variable {pb env} in
/-- One operation keeps the invariant. -/
theorem lifeInv_step {s s' : StreamSource} {e : SourceOp} (h : LifeInv s)
    (he : lifeStep pb env s e = some s') : LifeInv s' := by
  cases e with
  | init streamName failure =>
    cases he
    rcases init_cases pb env s streamName failure with ⟨-, h1⟩ | ⟨-, -, h1⟩
    · rw [h1]
      exact h
    · rw [h1]
      exact lifeInv_of_isInit rfl
  | uninit =>
    cases he
    refine ⟨fun hs => ?_, fun _ => uninit_handlers h⟩
    unfold uninit at hs ⊢
    split at hs
    · next hi =>
      rw [if_pos hi]
      exact h.started hs
    · cases hs
  | start startEnv =>
    cases he
    unfold start
    split
    · exact h
    · next hi =>
      refine lifeInv_of_isInit ?_
      repeat' split
      all_goals simpa using hi
  | stop =>
    obtain ⟨hi, he⟩ := Option.ite_none_right_eq_some.mp he
    cases he
    exact lifeInv_of_isInit hi
  | setStreamMeta m =>
    obtain ⟨hi, he⟩ := Option.ite_none_right_eq_some.mp he
    cases hm : setStreamMeta s m with
    | error fault => rw [hm] at he; cases he
    | ok t =>
      rw [hm] at he
      cases he
      exact lifeInv_of_isInit ((setStreamMeta_ok hm).1.trans hi)
  | setStreamState st sendTime =>
    cases he
    unfold setStreamState
    split
    · exact h
    · exact h.of_eq rfl rfl rfl
  | sendLiveMediaFrame f =>
    cases hr : sendLiveMediaFrame pb.toProtobuf s f with
    | error fault => rw [lifeStep, hr] at he; cases he
    | ok r =>
      rw [lifeStep, hr] at he
      cases he
      cases hi : s.isInit with
      | true =>
        rcases sendLiveMediaFrame_cases hi hr with ⟨-, -, h3, -⟩ | ⟨-, -, st, -, h3, -⟩
        · rw [h3]
          exact h
        · rw [h3]
          exact h.of_eq rfl rfl rfl
      | false =>
        simp only [sendLiveMediaFrame, hi, Bool.not_false, if_true] at hr
        cases hr
        exact h
  | register opCode hd =>
    obtain ⟨hi, he⟩ := Option.ite_none_right_eq_some.mp he
    cases he
    exact lifeInv_of_isInit hi
  | unregister opCode =>
    obtain ⟨hi, he⟩ := Option.ite_none_right_eq_some.mp he
    cases he
    exact lifeInv_of_isInit hi
  | unregisterAll =>
    obtain ⟨hi, he⟩ := Option.ite_none_right_eq_some.mp he
    cases he
    exact lifeInv_of_isInit hi
  | read now msg =>
    simp only [lifeStep] at he
    split at he
    · next hs =>
      simp only [ApiSource.apiStep, Option.map_eq_some_iff] at he
      obtain ⟨sock, -, rfl⟩ := he
      exact lifeInv_of_isInit ((onApiSocketRead_isInit _ _ _ _).trans (h.started hs))
    · cases he
  | heartbeat now c =>
    simp only [lifeStep] at he
    split at he
    · cases he
      exact h.of_eq rfl rfl rfl
    · cases he

/-! ## Initialising again -/

/-- What an application and the clients can see of a source. -/
structure Observed where
  streamMeta : StreamMetadata
  statistic : List SubStreamMediaStatistic
  streamState : SourceStreamState
  curBps : UInt32
  lastFrameSec : Int64
  lastFrameUsec : Int32
  lastHeartbeatTime : Int64
  apiHandlerMap : Int32 → Option (SourceApiHandler SourceData)
  receiverList : List ProtoClientHeartbeatReq

def observed (s : StreamSource) : Observed :=
  { streamMeta := s.user.streamMeta
    statistic := s.user.statistic
    streamState := s.user.streamState
    curBps := s.user.curBps
    lastFrameSec := s.user.lastFrameSec
    lastFrameUsec := s.user.lastFrameUsec
    lastHeartbeatTime := s.user.lastHeartbeatTime
    apiHandlerMap := s.apiHandlerMap
    receiverList := s.user.receiverList }

/-- The fields that neither `Init` nor `Uninit` resets have the values of the constructor. -/
structure Untouched (s : StreamSource) : Prop where
  streamLen : s.user.streamMeta.streamLen = ⟨0⟩
  streamState : s.user.streamState = .connecting
  curBps : s.user.curBps = 0
  lastFrameSec : s.user.lastFrameSec = 0
  lastFrameUsec : s.user.lastFrameUsec = 0
  lastHeartbeatTime : s.user.lastHeartbeatTime = 0
  receiverList : s.user.receiverList = []

/-- `Uninit` and `Init` have the effect of `Init` on a new source. -/
def ReinitFresh (s : StreamSource) (streamName : String) (failure : Option String) : Prop :=
  (init pb env (uninit s) streamName failure).1 =
      (init pb env constructed streamName failure).1 ∧
    observed (init pb env (uninit s) streamName failure).2 =
      observed (init pb env constructed streamName failure).2

/-- The state after a successful `Init` of a source without handlers. -/
theorem observed_init {s : StreamSource} {streamName : String} {failure : Option String}
    (hm : s.apiHandlerMap = fun _ => none)
    (hok : (init pb env s streamName failure).1.code = .ok) :
    observed (init pb env s streamName failure).2 =
      { observed s with
        streamMeta := { streamLen := s.user.streamMeta.streamLen }
        statistic := []
        apiHandlerMap := (registerHandlers pb env constructed).apiHandlerMap } := by
  rcases init_cases pb env s streamName failure with ⟨h1, -⟩ | ⟨-, -, h1⟩
  · exact absurd hok h1
  · have hreg : (registerHandlers pb env s).apiHandlerMap =
        (registerHandlers pb env constructed).apiHandlerMap := by
      unfold registerHandlers ApiSource.registerApiHandler
      rw [hm]
      rfl
    rw [h1]
    simp only [observed, hreg]

/-- **Initialising a source again**: after every history, `Uninit` and a successful `Init` leave
what `Init` leaves of a new source exactly when the fields they do not reset are untouched. -/
theorem source_reinit_iff {es : List SourceOp} {s : StreamSource}
    (h : Run.exec (lifeStep pb env) constructed es = some s) (streamName : String)
    (failure : Option String)
    (hok : (init pb env (uninit s) streamName failure).1.code = .ok) :
    ReinitFresh pb env s streamName failure ↔ Untouched s := by
  have hinv : LifeInv s :=
    Run.exec_inv (fun _ _ _ hi he => lifeInv_step hi he) h lifeInv_constructed
  have hret := init_ret_of_not_init pb env (uninit_isInit s) (t := constructed) rfl
    streamName failure
  have hagain := observed_init pb env (uninit_handlers hinv) hok
  have hfresh := observed_init pb env (s := constructed) rfl (hret ▸ hok)
  unfold ReinitFresh
  rw [hagain, hfresh]
  constructor
  · rintro ⟨-, he⟩
    simp only [observed, uninit_user, Observed.mk.injEq, StreamMetadata.mk.injEq] at he
    obtain ⟨⟨-, -, -, h1, -⟩, -, h2, h3, h4, h5, h6, -, h7⟩ := he
    exact ⟨h1, h2, h3, h4, h5, h6, h7⟩
  · rintro ⟨h1, h2, h3, h4, h5, h6, h7⟩
    refine ⟨hret, ?_⟩
    simp only [observed, uninit_user, h1, h2, h3, h4, h5, h6, h7]
    rfl

end StreamSource

end StreamSwitch
