import StreamSwitch.Rpc.Sink
import StreamSwitch.Sink.Heartbeat
import StreamSwitch.Source.Lifecycle

/-!
# The life of a stream sink

The constructor, `InitBase`, `Stop` and the handler table of `stsw_stream_sink.cc`;
`Start` and `Uninit` are in `Sink/Metadata.lean` and `Rpc/Sink.lean`.

`sink_reinit_iff`: whatever was done with a sink, `Uninit` and a successful `Init`
leave what the same `Init` leaves of a new one if and only if its metadata, its
counters and the times of its client heartbeats have the values of the constructor.
`reinit_fresh_iff` puts this together with the result for sources.
-/

namespace StreamSwitch

namespace StreamSink

variable (pb : Protobuf)

/-! ## The handler table -/

/-- The table cannot be changed once the sink is started. -/
def registerSubHandler (s : StreamSink) (opCode : Int32) (entry : SinkSubHandlerEntry) :
    StreamSink :=
  if s.isStarted then s
  else { s with
    subsriberHandlerMap := fun c => if c = opCode then some entry else s.subsriberHandlerMap c }

def unregisterSubHandler (s : StreamSink) (opCode : Int32) : StreamSink :=
  if s.isStarted then s
  else { s with
    subsriberHandlerMap := fun c => if c = opCode then none else s.subsriberHandlerMap c }

def unregisterAllSubHandler (s : StreamSink) : StreamSink :=
  if s.isStarted then s else { s with subsriberHandlerMap := fun _ => none }

/-! ## `InitBase` and `Stop` -/

/-- `StreamSink::StreamSink()`. -/
def constructed : StreamSink := {}

/-- What the system calls of `InitBase` answer. -/
structure InitEnv where
  /-- The error of the lock, the heartbeat socket or the notify socket. -/
  failure : Option String := none
  /-- The error of creating the subscriber socket. -/
  subscriber : Option String := none

def init (s : StreamSink) (clientInfo : StreamClientInfo) (listener : Bool) (env : InitEnv) :
    Ret × StreamSink :=
  if s.isInit then (⟨.general, "Receiver already init"⟩, s)
  else
    match env.failure with
    | some text => (⟨.system, text⟩, s)
    | none =>
      let s := { s with clientHearbeatSocket := some {} }
      let s := s.registerSubHandler codeMedia ⟨.mediaFrame, mediaChannel⟩
      let r := s.createSubscriberSocket { subscriber := env.subscriber }
      if r.1.code ≠ .ok then
        (r.1, { r.2.unregisterAllSubHandler with
          subscriberSocket := false
          clientHearbeatSocket := none })
      else
        (⟨.ok, ""⟩, { r.2 with clientInfo := clientInfo, hasListener := listener, isInit := true })

/-- `Stop`, with the worker thread joined. -/
def stop (s : StreamSink) : StreamSink := if s.isStarted then s.stopBegin.stopEnd else s

/-! ## Histories -/

inductive SinkOp
  | init (clientInfo : StreamClientInfo) (listener : Bool) (env : InitEnv)
  | uninit
  | start (env : StartEnv)
  | stop
  | update (rpc : RpcOutcome)
  /-- Another API call takes a sequence number. -/
  | nextSeq
  | register (opCode : Int32) (entry : SinkSubHandlerEntry)
  | unregister (opCode : Int32)
  | unregisterAll
  | setClientInfo (clientInfo : StreamClientInfo)
  | setListener (listener : Bool)
  /-- The worker thread reads a message. -/
  | read (m : PublishMsg)
  /-- Its heartbeat. -/
  | tick (now : Int) (env : TickEnv)

/-- One operation. What takes the lock needs a sink that is initialised, the worker thread one
that is started. -/
def lifeStep (s : StreamSink) : SinkOp → Option StreamSink
  | .init clientInfo listener env => some (s.init clientInfo listener env).2
  | .uninit => some s.uninit
  | .start env => some (s.start env).2
  | .stop => if s.isInit then some s.stop else none
  | .update rpc =>
    if s.isInit then (s.updateStreamMetaData pb rpc).toOption.map Updated.sink else none
  | .nextSeq => if s.isInit then some s.getNextSeq.2 else none
  | .register opCode entry => if s.isInit then some (s.registerSubHandler opCode entry) else none
  | .unregister opCode => if s.isInit then some (s.unregisterSubHandler opCode) else none
  | .unregisterAll => if s.isInit then some s.unregisterAllSubHandler else none
  | .setClientInfo clientInfo =>
    if s.isInit then some { s with clientInfo := clientInfo } else none
  | .setListener listener =>
    if s.isInit then some { s with hasListener := listener } else none
  | .read m => if s.isStarted then (s.onSubRead pb m).toOption.map Handled.sink else none
  | .tick now env =>
    if s.isStarted then some (s.clientHeartbeatHandler pb now env).sink else none

/-- Only an initialised sink has handlers, a subscriber socket and a thread. -/
structure LifeInv (s : StreamSink) : Prop where
  started : s.isStarted = true → s.isInit = true
  handlers : s.isInit = false → s.subsriberHandlerMap = fun _ => none
  socket : s.isInit = false → s.subscriberSocket = false

variable {pb} {s s' : StreamSink}

theorem lifeInv_of_isInit (h : s.isInit = true) : s.LifeInv :=
  have hno : s.isInit ≠ false := by simp [h]
  ⟨fun _ => h, fun h' => absurd h' hno, fun h' => absurd h' hno⟩

theorem lifeInv_constructed : constructed.LifeInv := by
  refine ⟨fun h => ?_, fun _ => rfl, fun _ => rfl⟩
  cases h

/-! ## What is kept -/

theorem stop_isInit (s : StreamSink) : s.stop.isInit = s.isInit := by
  unfold stop stopBegin stopEnd
  repeat' split
  all_goals rfl

theorem stop_streamMeta (s : StreamSink) : s.stop.streamMeta = s.streamMeta := by
  unfold stop
  split
  · exact stopBegin_frame.2
  · rfl

theorem stop_isStarted (s : StreamSink) : s.stop.isStarted = false := by
  unfold stop
  split
  · next hs =>
    unfold stopBegin
    rw [if_neg (by simp [hs])]
    split <;> rfl
  · next hs => exact Bool.eq_false_iff.2 hs

/-- `Start` returns 0 exactly when the sink runs afterwards. -/
theorem start_code (s : StreamSink) (env : StartEnv) (h : s.isInit = true) :
    ((s.start env).1.code ≠ .ok ∧ (s.start env).2.isStarted = false) ∨
    ((s.start env).1.code = .ok ∧ (s.start env).2.isStarted = true) := by
  unfold start
  rw [if_neg (by simp [h])]
  split
  · next hs => exact .inr ⟨rfl, hs⟩
  · next hs =>
    have hs' := Bool.eq_false_iff.2 hs
    split
    · exact .inl ⟨nofun, hs'⟩
    · simp only
      rcases createSubscriberSocket_cases s env with ⟨h1, h2⟩ | ⟨h1, -, b, h2⟩
      · rw [if_pos h1, h2]
        exact .inl ⟨h1, hs'⟩
      · rw [if_neg (not_not.2 h1), h2]
        cases env.thread with
        | some text => exact .inl ⟨nofun, hs'⟩
        | none => exact .inr ⟨rfl, rfl⟩

theorem start_isInit (s : StreamSink) (env : StartEnv) : (s.start env).2.isInit = s.isInit := by
  rcases start_cases s env with h | ⟨-, b, w, v, h⟩
  · rw [h]
  · rw [h]

theorem start_of_not_init (h : s.isInit = false) (env : StartEnv) : (s.start env).2 = s := by
  simp [start, h]

variable (pb) in
/-- A tick changes the heartbeat socket, the sequence number and the times. -/
theorem tick_sink (s : StreamSink) (now : Int) (env : TickEnv) :
    ∃ sock seq last next, (s.clientHeartbeatHandler pb now env).sink =
      { s with
        clientHearbeatSocket := sock
        nextSeq := seq
        lastSendClientHeartbeatMsec := last
        nextSendClientHeartbeatMsec := next } := by
  have hsend : ∀ t : StreamSink, ∃ sock seq last next, (t.sendHeartbeat pb now env).sink =
      { t with
        clientHearbeatSocket := sock
        nextSeq := seq
        lastSendClientHeartbeatMsec := last
        nextSendClientHeartbeatMsec := next } := by
    intro t
    unfold sendHeartbeat
    split
    · split
      · exact ⟨_, _, _, _, rfl⟩
      · exact ⟨_, _, _, _, rfl⟩
    · exact ⟨_, _, _, _, rfl⟩
  unfold clientHeartbeatHandler
  split
  · exact ⟨_, _, _, _, rfl⟩
  · next t ht =>
    obtain ⟨sock, seq, last, next, h⟩ := hsend t
    rw [h]
    unfold checkReply at ht
    split at ht
    · cases ht
      exact ⟨_, _, _, _, rfl⟩
    · split at ht
      · split at ht
        · cases ht
        · rw [Option.map_eq_some_iff] at ht
          obtain ⟨x, -, rfl⟩ := ht
          exact ⟨_, _, _, _, rfl⟩
      · split at ht
        · cases ht
          exact ⟨_, _, _, _, rfl⟩
        · cases ht
          exact ⟨_, _, _, _, rfl⟩

/-- What `Init` does: nothing, or all of it. -/
theorem init_cases (s : StreamSink) (hs : s.isStarted = false) (clientInfo : StreamClientInfo)
    (listener : Bool) (env : InitEnv) :
    ((s.init clientInfo listener env).1.code ≠ .ok ∧
      ((s.init clientInfo listener env).2 = s ∨
        s.isInit = false ∧ (s.init clientInfo listener env).2 = { s with
          subscriberSocket := false
          clientHearbeatSocket := none
          subsriberHandlerMap := fun _ => none })) ∨
    ((s.init clientInfo listener env).1.code = .ok ∧ s.isInit = false ∧
      ∃ b, (s.init clientInfo listener env).2 = { s with
        isInit := true
        clientHearbeatSocket := some {}
        subscriberSocket := b
        clientInfo := clientInfo
        hasListener := listener
        subsriberHandlerMap := fun c =>
          if c = codeMedia then some ⟨.mediaFrame, mediaChannel⟩
          else s.subsriberHandlerMap c }) := by
  unfold init
  split
  · exact .inl ⟨nofun, .inl rfl⟩
  · next hi =>
    have hi' := Bool.eq_false_iff.2 hi
    cases env.failure with
    | some text => exact .inl ⟨nofun, .inl rfl⟩
    | none =>
      simp only
      rcases createSubscriberSocket_cases
        ({ s with clientHearbeatSocket := some {} }.registerSubHandler codeMedia
          ⟨.mediaFrame, mediaChannel⟩) { subscriber := env.subscriber } with
        ⟨h1, h2⟩ | ⟨h1, -, b, h2⟩
      · rw [if_pos h1, h2]
        refine .inl ⟨h1, .inr ⟨hi', ?_⟩⟩
        simp [unregisterAllSubHandler, registerSubHandler, hs]
      · rw [if_neg (not_not.2 h1), h2]
        refine .inr ⟨rfl, hi', b, ?_⟩
        simp [registerSubHandler, hs]

theorem LifeInv.not_started (h : s.LifeInv) (hi : s.isInit = false) : s.isStarted = false := by
  cases hs : s.isStarted with
  | false => rfl
  | true => exact absurd (hi.symm.trans (h.started hs)) (by decide)

theorem uninit_eq (s : StreamSink) (hi : s.isInit = true) :
    ∃ w, s.uninit = { s with
      isInit := false
      isStarted := false
      workerThread := w
      subscriberSocket := false
      subsriberHandlerMap := fun _ => none
      clientHearbeatSocket := none } := by
  unfold uninit
  rw [if_neg (by simp [hi])]
  cases hs : s.isStarted with
  | false =>
    refine ⟨s.workerThread, ?_⟩
    simp [hs]
  | true =>
    refine ⟨false, ?_⟩
    simp only [if_true, stopBegin, hs, Bool.not_true, Bool.false_eq_true, if_false]
    cases s.workerThread <;> rfl

/-- What `Uninit` leaves: no thread, no socket and no handlers. -/
structure Bare (s : StreamSink) : Prop where
  init : s.isInit = false
  started : s.isStarted = false
  socket : s.subscriberSocket = false
  handlers : s.subsriberHandlerMap = fun _ => none

theorem LifeInv.bare (h : s.LifeInv) (hi : s.isInit = false) : s.Bare :=
  ⟨hi, h.not_started hi, h.socket hi, h.handlers hi⟩

theorem LifeInv.uninit (h : s.LifeInv) : s.uninit.Bare := by
  cases hi : s.isInit with
  | false =>
    rw [StreamSink.uninit, if_pos (by simp [hi])]
    exact h.bare hi
  | true =>
    obtain ⟨w, he⟩ := s.uninit_eq hi
    rw [he]
    exact ⟨rfl, rfl, rfl, rfl⟩

theorem registerSubHandler_isInit (opCode : Int32) (entry : SinkSubHandlerEntry) :
    (s.registerSubHandler opCode entry).isInit = s.isInit := by
  unfold registerSubHandler
  split <;> rfl

theorem unregisterSubHandler_isInit (opCode : Int32) :
    (s.unregisterSubHandler opCode).isInit = s.isInit := by
  unfold unregisterSubHandler
  split <;> rfl

theorem unregisterAllSubHandler_isInit : s.unregisterAllSubHandler.isInit = s.isInit := by
  unfold unregisterAllSubHandler
  split <;> rfl

theorem updateStreamMetaData_isInit {rpc : RpcOutcome} {r : Updated}
    (h : s.updateStreamMetaData pb rpc = .ok r) : r.sink.isInit = s.isInit := by
  rcases updateStreamMetaData_cases h with ⟨-, seq, h1⟩ | ⟨hs, rep, hd⟩
  · rw [h1]
  · rw [updateStreamMetaData_of_describes hs hd] at h
    cases h
    rfl

/-- Neither `Init` nor `Uninit`. -/
def SinkOp.isOther : SinkOp → Bool
  | .init .. | .uninit => false
  | _ => true

/-- Everything else leaves an initialised sink initialised, and does nothing to another one. -/
theorem lifeStep_other {e : SinkOp} (ho : e.isOther = true) (h : s.LifeInv)
    (he : s.lifeStep pb e = some s') : s' = s ∨ (s.isInit = true ∧ s'.isInit = true) := by
  cases e with
  | init clientInfo listener env => cases ho
  | uninit => cases ho
  | start env =>
    cases he
    cases hi : s.isInit with
    | true => exact .inr ⟨rfl, (s.start_isInit env).trans hi⟩
    | false => exact .inl (start_of_not_init hi env)
  | stop =>
    obtain ⟨hi, he⟩ := Option.ite_none_right_eq_some.mp he
    cases he
    exact .inr ⟨hi, s.stop_isInit.trans hi⟩
  | update rpc =>
    obtain ⟨hi, he⟩ := Option.ite_none_right_eq_some.mp he
    cases hr : s.updateStreamMetaData pb rpc with
    | error fault => rw [hr] at he; cases he
    | ok r =>
      rw [hr] at he
      cases he
      exact .inr ⟨hi, (updateStreamMetaData_isInit hr).trans hi⟩
  | nextSeq =>
    obtain ⟨hi, he⟩ := Option.ite_none_right_eq_some.mp he
    cases he
    exact .inr ⟨hi, hi⟩
  | register opCode entry =>
    obtain ⟨hi, he⟩ := Option.ite_none_right_eq_some.mp he
    cases he
    exact .inr ⟨hi, (registerSubHandler_isInit ..).trans hi⟩
  | unregister opCode =>
    obtain ⟨hi, he⟩ := Option.ite_none_right_eq_some.mp he
    cases he
    exact .inr ⟨hi, (unregisterSubHandler_isInit ..).trans hi⟩
  | unregisterAll =>
    obtain ⟨hi, he⟩ := Option.ite_none_right_eq_some.mp he
    cases he
    exact .inr ⟨hi, unregisterAllSubHandler_isInit.trans hi⟩
  | setClientInfo clientInfo =>
    obtain ⟨hi, he⟩ := Option.ite_none_right_eq_some.mp he
    cases he
    exact .inr ⟨hi, hi⟩
  | setListener listener =>
    obtain ⟨hi, he⟩ := Option.ite_none_right_eq_some.mp he
    cases he
    exact .inr ⟨hi, hi⟩
  | read m =>
    simp only [lifeStep] at he
    split at he
    · next hs =>
      cases hr : s.onSubRead pb m with
      | error fault => rw [hr] at he; cases he
      | ok r =>
        rw [hr] at he
        cases he
        obtain ⟨statistic, ssrc, h1⟩ := onSubRead_sink hr
        rw [h1]
        exact .inr ⟨h.started hs, h.started hs⟩
    · cases he
  | tick now env =>
    simp only [lifeStep] at he
    split at he
    · next hs =>
      cases he
      obtain ⟨sock, seq, last, next, h1⟩ := tick_sink pb s now env
      rw [h1]
      exact .inr ⟨h.started hs, h.started hs⟩
    · cases he

/-- One operation keeps the invariant. -/
theorem lifeInv_step {e : SinkOp} (h : s.LifeInv) (he : s.lifeStep pb e = some s') :
    s'.LifeInv := by
  cases ho : e.isOther with
  | true =>
    rcases lifeStep_other ho h he with rfl | ⟨-, hi⟩
    · exact h
    · exact lifeInv_of_isInit hi
  | false =>
    cases e with
    | init clientInfo listener env =>
      cases he
      cases hi : s.isInit with
      | true =>
        rw [init, if_pos hi]
        exact h
      | false =>
        have hs := h.not_started hi
        rcases init_cases s hs clientInfo listener env with
          ⟨-, h1 | ⟨-, h1⟩⟩ | ⟨-, -, b, h1⟩
        · rw [h1]
          exact h
        · rw [h1]
          exact ⟨h.started, fun _ => rfl, fun _ => rfl⟩
        · rw [h1]
          exact lifeInv_of_isInit rfl
    | uninit =>
      cases he
      refine ⟨fun hs => ?_, fun _ => h.uninit.handlers, fun _ => h.uninit.socket⟩
      rw [h.uninit.started] at hs
      cases hs
    | _ => cases ho

/-! ## Initialising again -/

/-- What an application can see of a sink, and when it will send its next client heartbeat. -/
structure Observed where
  streamMeta : StreamMetadata
  statistic : List SubStreamMediaStatistic
  lastSendClientHeartbeatMsec : Int
  nextSendClientHeartbeatMsec : Int
  subsriberHandlerMap : Int32 → Option SinkSubHandlerEntry

def observed (s : StreamSink) : Observed :=
  { streamMeta := s.streamMeta
    statistic := s.statistic
    lastSendClientHeartbeatMsec := s.lastSendClientHeartbeatMsec
    nextSendClientHeartbeatMsec := s.nextSendClientHeartbeatMsec
    subsriberHandlerMap := s.subsriberHandlerMap }

/-- The fields that neither `Init` nor `Uninit` resets have the values of the constructor. -/
structure Untouched (s : StreamSink) : Prop where
  streamMeta : s.streamMeta = {}
  statistic : s.statistic = []
  lastSend : s.lastSendClientHeartbeatMsec = 0
  nextSend : s.nextSendClientHeartbeatMsec = 0

/-- `Uninit` and `Init` have the effect of `Init` on a new sink. -/
def ReinitFresh (s : StreamSink) (clientInfo : StreamClientInfo) (listener : Bool)
    (env : InitEnv) : Prop :=
  (s.uninit.init clientInfo listener env).1 = (constructed.init clientInfo listener env).1 ∧
    (s.uninit.init clientInfo listener env).2.observed =
      (constructed.init clientInfo listener env).2.observed

theorem uninit_observed (h : s.LifeInv) :
    s.uninit.observed = { s.observed with subsriberHandlerMap := fun _ => none } := by
  cases hi : s.isInit with
  | false =>
    rw [uninit, if_pos (by simp [hi]), observed, h.handlers hi]
  | true =>
    obtain ⟨w, he⟩ := s.uninit_eq hi
    rw [he]
    rfl

/-- The state after a successful `Init` of a sink without handlers. -/
theorem init_observed (hs : s.isStarted = false) (hm : s.subsriberHandlerMap = fun _ => none)
    {clientInfo : StreamClientInfo} {listener : Bool} {env : InitEnv}
    (hok : (s.init clientInfo listener env).1.code = .ok) :
    (s.init clientInfo listener env).2.observed = { s.observed with
      subsriberHandlerMap := (initBase clientInfo listener).subsriberHandlerMap } := by
  rcases init_cases s hs clientInfo listener env with ⟨h1, -⟩ | ⟨-, -, b, h1⟩
  · exact absurd hok h1
  · rw [h1]
    simp only [observed, hm]
    rfl

/-- Whether `Init` succeeds does not depend on the history. -/
theorem init_ret_of_bare {t : StreamSink} (hs : s.Bare) (ht : t.Bare)
    (clientInfo : StreamClientInfo) (listener : Bool) (env : InitEnv) :
    (s.init clientInfo listener env).1 = (t.init clientInfo listener env).1 := by
  have hret : ∀ u : StreamSink, u.Bare → (u.init clientInfo listener env).1 =
      match env.failure, env.subscriber with
      | some text, _ => ⟨.system, text⟩
      | none, some text => ⟨.system, text⟩
      | none, none => ⟨.ok, ""⟩ := by
    intro u hu
    simp only [init, hu.init, registerSubHandler, hu.started, createSubscriberSocket, hu.socket,
      Bool.false_eq_true, if_false]
    cases env.failure with
    | some text => rfl
    | none => cases env.subscriber <;> rfl
  rw [hret s hs, hret t ht]

/-- **Initialising a sink again**: after every history, `Uninit` and a successful `Init` leave
what `Init` leaves of a new sink exactly when the fields they do not reset are untouched. -/
theorem sink_reinit_iff {es : List SinkOp} (h : Run.exec (lifeStep pb) constructed es = some s)
    (clientInfo : StreamClientInfo) (listener : Bool) (env : InitEnv)
    (hok : (s.uninit.init clientInfo listener env).1.code = .ok) :
    s.ReinitFresh clientInfo listener env ↔ s.Untouched := by
  have hinv : s.LifeInv := Run.exec_inv (fun _ _ _ hi he => lifeInv_step hi he) h
    lifeInv_constructed
  have hbare := lifeInv_constructed.bare rfl
  have hret := init_ret_of_bare hinv.uninit hbare clientInfo listener env
  have hagain := init_observed hinv.uninit.started hinv.uninit.handlers hok
  have hfresh := init_observed hbare.started hbare.handlers (hret ▸ hok)
  unfold ReinitFresh
  rw [hagain, hfresh, uninit_observed hinv]
  constructor
  · rintro ⟨-, he⟩
    simp only [observed, Observed.mk.injEq] at he
    obtain ⟨h1, h2, h3, h4, -⟩ := he
    exact ⟨h1, h2, h3, h4⟩
  · rintro ⟨h1, h2, h3, h4⟩
    refine ⟨hret, ?_⟩
    simp only [observed, h1, h2, h3, h4]
    rfl

end StreamSink

/-! ## Sources and sinks -/

/-- **Initialising again**, for a source and for a sink: the result is that of a new object exactly
when the fields that neither `Init` nor `Uninit` resets are untouched. -/
theorem reinit_fresh_iff (pb : ApiProtobuf) (env : SourceEnv)
    (es : List StreamSource.SourceOp) (s : StreamSource)
    (hs : Run.exec (StreamSource.lifeStep pb env) StreamSource.constructed es = some s)
    (streamName : String) (failure : Option String)
    (hok : (StreamSource.init pb env (StreamSource.uninit s) streamName failure).1.code = .ok)
    (es' : List StreamSink.SinkOp) (k : StreamSink)
    (hk : Run.exec (StreamSink.lifeStep pb.toProtobuf) StreamSink.constructed es' = some k)
    (clientInfo : StreamClientInfo) (listener : Bool) (initEnv : StreamSink.InitEnv)
    (hok' : (k.uninit.init clientInfo listener initEnv).1.code = .ok) :
    (StreamSource.ReinitFresh pb env s streamName failure ↔ StreamSource.Untouched s) ∧
      (k.ReinitFresh clientInfo listener initEnv ↔ k.Untouched) :=
  ⟨StreamSource.source_reinit_iff pb env hs streamName failure hok,
    StreamSink.sink_reinit_iff hk clientInfo listener initEnv hok'⟩

/-- A source and a sink that were only started and stopped. -/
theorem reinit_fresh_iff_unused :
    ∃ s k, Run.exec (StreamSource.lifeStep wireApiProtobuf {}) StreamSource.constructed
        [.init "a" none, .start {}, .stop] = some s ∧
      Run.exec (StreamSink.lifeStep wireProtobuf) StreamSink.constructed
        [.init {} true {}, .start {}, .stop] = some k ∧
      StreamSource.ReinitFresh wireApiProtobuf {} s "b" none ∧ k.ReinitFresh {} true {} := by
  refine ⟨_, _, rfl, rfl, ?_⟩
  have h := reinit_fresh_iff wireApiProtobuf {} [.init "a" none, .start {}, .stop] _ rfl "b" none
    (by decide) [.init {} true {}, .start {}, .stop] _ rfl {} true {} rfl
  exact ⟨h.1.2 ⟨rfl, rfl, rfl, rfl, rfl, rfl, rfl⟩, h.2.2 ⟨rfl, rfl, rfl, rfl⟩⟩

/-- A source whose state was set, and a sink that read metadata: what is left of the old stream is
there after `Init`. -/
theorem reinit_not_fresh :
    (∃ s, Run.exec (StreamSource.lifeStep wireApiProtobuf {}) StreamSource.constructed
        [.init "a" none, .setStreamState .ok 0] = some s ∧
      (StreamSource.init wireApiProtobuf {} (StreamSource.uninit s) "b" none).1.code = .ok ∧
      ¬ StreamSource.ReinitFresh wireApiProtobuf {} s "b" none) ∧
    ∃ k, Run.exec (StreamSink.lifeStep wireProtobuf) StreamSink.constructed
        [.init {} true {}, .update (.reply StreamSink.oneSubStreamReply)] = some k ∧
      (k.uninit.init {} true {}).1.code = .ok ∧ ¬ k.ReinitFresh {} true {} := by
  refine ⟨⟨_, rfl, by decide, fun h => ?_⟩, _, rfl, rfl, fun h => ?_⟩
  · have hstate := congrArg StreamSource.Observed.streamState h.2
    exact absurd hstate (by decide)
  · have hmeta := congrArg (fun o => o.streamMeta.ssrc) h.2
    exact absurd hmeta (by decide)

end StreamSwitch
