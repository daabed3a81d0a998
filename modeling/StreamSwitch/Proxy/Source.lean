import StreamSwitch.Sink.Lifecycle

/-!
# The proxy source

`StreamProxySource` of `stsw_stream_proxy.cc`: a sink that receives from a back-end
source, and a source that publishes again what the sink hands out. The object is the
listener of both. How the inner calls end (replies, threads, sockets) is part of the
arguments, so a call of the proxy is a function.

A received message is handled by the worker thread of the sink; `published` is what
the publish socket of the inner source sends in a call.
-/

namespace StreamSwitch

structure StreamProxySource where
  isInit : Bool := false
  isMetaReady : Bool := false
  isStarted : Bool := false
  source : StreamSource
  sink : StreamSink
  needKeyFrame : Bool := false
  needUpdateMetadata : Bool := false
  /-- A value of `time(NULL)`. -/
  lastFrameRecv : Int := 0

/-- `MAX_FRAME_INTERVAL_SEC`. -/
def maxFrameIntervalSec : Int := 10

namespace StreamProxySource

variable (pb : Protobuf)

/-- What a call returns, leaves and publishes. -/
structure Done where
  ret : ErrorCode := .ok
  proxy : StreamProxySource
  published : List PublishMsg := []

/-- `source_->set_stream_state(streamState)`, and the call returns `ret`. -/
def doneInState (p : StreamProxySource) (streamState : SourceStreamState) (sendTime : Int64)
    (ret : ErrorCode) : Done :=
  let r := StreamSource.setStreamState pb p.source streamState sendTime
  { ret := ret, proxy := { p with source := r.1 }, published := r.2 }

def updateStreamMetaData (p : StreamProxySource) (rpc : RpcOutcome) (sendTime : Int64) :
    Except Fault Done :=
  if !p.isInit then .ok { ret := .general, proxy := p }
  else
    match p.sink.updateStreamMetaData pb rpc with
    | .error fault => .error fault
    | .ok r =>
      let p := { p with sink := r.sink }
      if r.ret.code ≠ .ok then .ok (p.doneInState pb .errConnectFail sendTime r.ret.code)
      else
        let tmpMetadata := r.metadata.getD {}
        if tmpMetadata.playType ≠ .live then .ok (p.doneInState pb .err sendTime .general)
        else
          match StreamSource.setStreamMeta p.source { tmpMetadata with sourceProto := "STSW" } with
          | .error fault => .error fault
          | .ok source => .ok { proxy := { p with source := source, isMetaReady := true } }

/-- How the inner `Start`s end, and the clocks that are read. -/
structure StartEnv where
  now : Int := 0
  sendTime : Int64 := 0
  source : StreamSource.StartEnv := {}
  sink : StreamSink.StartEnv := {}

def start (p : StreamProxySource) (env : StartEnv) : Done :=
  if !p.isInit then { ret := .general, proxy := p }
  else if !p.isMetaReady then { ret := .general, proxy := p }
  else if p.isStarted then { proxy := p }
  else
    let p := { p with lastFrameRecv := env.now }
    let r := StreamSource.start p.source env.source
    let p := { p with source := r.2 }
    if r.1.code ≠ .ok then p.doneInState pb .err env.sendTime r.1.code
    else
      let r := p.sink.start env.sink
      let p := { p with sink := r.2 }
      -- the inner source keeps running
      if r.1.code ≠ .ok then p.doneInState pb .err env.sendTime r.1.code
      else { p with isStarted := true }.doneInState pb .ok env.sendTime .ok

def stop (p : StreamProxySource) : StreamProxySource :=
  if !p.isInit then p
  else if !p.isStarted then p
  else { p with
    isStarted := false
    sink := p.sink.stop
    source := StreamSource.stop p.source }

def uninit (p : StreamProxySource) : StreamProxySource :=
  if !p.isInit then p
  else
    let p := p.stop
    { p with isInit := false, source := StreamSource.uninit p.source, sink := p.sink.uninit }

/-- The outcomes of the requests of `Hearbeat`. -/
structure HearbeatEnv where
  now : Int := 0
  sendTime : Int64 := 0
  keyFrame : RpcOutcome
  metadata : RpcOutcome
  start : StartEnv := {}

/-- `Stop`, `UpdateStreamMetaData` and `Start`, as `Hearbeat` does for new metadata. -/
def restart (p : StreamProxySource) (env : HearbeatEnv) : Except Fault Done :=
  match p.stop.updateStreamMetaData pb env.metadata env.sendTime with
  | .error fault => .error fault
  | .ok r =>
    if r.ret ≠ .ok then .ok r
    else
      let r' := r.proxy.start pb env.start
      .ok { r' with published := r.published ++ r'.published }

def hearbeat (p : StreamProxySource) (env : HearbeatEnv) : Except Fault Done :=
  if !p.isInit then .ok { ret := .general, proxy := p }
  else if !p.isStarted then .ok { ret := .general, proxy := p }
  else
    let q := { p with needKeyFrame := false, needUpdateMetadata := false }
    if env.now - p.lastFrameRecv ≥ maxFrameIntervalSec then
      .ok (q.doneInState pb .errMeidaStop env.sendTime .general)
    else
      match (if p.needKeyFrame then q.sink.keyFrame env.keyFrame else .ok (⟨.ok, ""⟩, q.sink)) with
      | .error fault => .error fault
      | .ok (ret, sink) =>
        let q := { q with sink := sink }
        if ret.code ≠ .ok then .ok (q.doneInState pb .err env.sendTime ret.code)
        else if p.needUpdateMetadata then q.restart pb env
        else .ok { proxy := q }

/-! ## The listener -/

def onKeyFrame (p : StreamProxySource) : StreamProxySource := { p with needKeyFrame := true }

def onMetadataMismatch (p : StreamProxySource) : StreamProxySource :=
  { p with needUpdateMetadata := true }

def onLiveMediaFrame (p : StreamProxySource) (f : LiveFrame) (now : Int) : Except Fault Done :=
  (StreamSource.sendLiveMediaFrame pb p.source f).map fun r =>
    { proxy := { p with source := r.source, lastFrameRecv := now }, published := r.published }

/-- One callback of the sink. The proxy registers no handlers of its own. -/
def callback (p : StreamProxySource) (now : Int) : SinkCallback → Except Fault Done
  | .onLiveMediaFrame info frameData frameSize => p.onLiveMediaFrame pb ⟨info, frameData, frameSize⟩ now
  | .onMetadataMismatch _ => .ok { proxy := p.onMetadataMismatch }
  | .subHandler _ _ _ => .ok { proxy := p }

/-- The callbacks of one message, in order. -/
def callbacks (p : StreamProxySource) (now : Int) : List SinkCallback → Except Fault Done
  | [] => .ok { proxy := p }
  | cb :: cbs =>
    match p.callback pb now cb with
    | .error fault => .error fault
    | .ok r => (r.proxy.callbacks now cbs).map fun r' =>
      { r' with published := r.published ++ r'.published }

/-- The worker thread of the inner sink reads a message. -/
def onSubRead (p : StreamProxySource) (m : PublishMsg) (now : Int) : Except Fault Done :=
  match p.sink.onSubRead pb m with
  | .error fault => .error fault
  | .ok r => { p with sink := r.sink }.callbacks pb now r.callbacks

/-! ## Calls -/

inductive ProxyEvent
  | update (rpc : RpcOutcome) (sendTime : Int64)
  | start (env : StartEnv)
  | stop
  | hearbeat (env : HearbeatEnv)
  | uninit
  /-- A client of the inner source asks for a key frame. -/
  | onKeyFrame
  /-- The inner sink, which is started, receives a message. -/
  | read (m : PublishMsg) (now : Int)

/-- One call; `none` when it cannot happen or does not return. -/
def call (p : StreamProxySource) : ProxyEvent → Option Done
  | .update rpc sendTime => (p.updateStreamMetaData pb rpc sendTime).toOption
  | .start env => some (p.start pb env)
  | .stop => some { proxy := p.stop }
  | .hearbeat env => (p.hearbeat pb env).toOption
  | .uninit => some { proxy := p.uninit }
  | .onKeyFrame => some { proxy := p.onKeyFrame }
  | .read m now => if p.sink.isStarted then (p.onSubRead pb m now).toOption else none

def proxyStep (p : StreamProxySource) (e : ProxyEvent) : Option StreamProxySource :=
  (p.call pb e).map Done.proxy

/-! ## What one call does -/

variable {pb} {p : StreamProxySource} {d : Done}

theorem doneInState_proxy (pb : Protobuf) (p : StreamProxySource)
    (streamState : SourceStreamState) (sendTime : Int64) (ret : ErrorCode) :
    ∃ st, (p.doneInState pb streamState sendTime ret).proxy =
      { p with source := StreamSource.withState p.source st } := by
  obtain ⟨st, h⟩ := StreamSource.setStreamState_cases pb p.source streamState sendTime
  exact ⟨st, by rw [doneInState, h]⟩

/-- **Inversion of an update**: the sink failed; or it took metadata that is not live, which the
source does not get; or both have the live metadata. -/
theorem updateStreamMetaData_cases {rpc : RpcOutcome} {sendTime : Int64}
    (h : p.updateStreamMetaData pb rpc sendTime = .ok d) :
    (d.ret ≠ .ok ∧ ∃ st seq, d.proxy = { p with
      sink := { p.sink with nextSeq := seq }
      source := StreamSource.withState p.source st }) ∨
    (d.ret ≠ .ok ∧ p.sink.isStarted = false ∧ ∃ rep, StreamSink.Describes pb rpc rep ∧
      rep.metadata.playType ≠ .live ∧ ∃ st, d.proxy = { p with
        sink := { p.sink with nextSeq := p.sink.nextSeq + 1 }.configure rep
        source := StreamSource.withState p.source st }) ∨
    (d.ret = .ok ∧ p.isInit = true ∧ p.sink.isStarted = false ∧
      ∃ rep, StreamSink.Describes pb rpc rep ∧ rep.metadata.playType = .live ∧
      ∃ source, StreamSource.setStreamMeta p.source
          { (p.sink.configure rep).streamMeta with sourceProto := "STSW" } = .ok source ∧
        d.proxy = { p with
          sink := { p.sink with nextSeq := p.sink.nextSeq + 1 }.configure rep
          source := source
          isMetaReady := true }) := by
  unfold updateStreamMetaData at h
  split at h
  · cases h
    exact .inl ⟨nofun, p.source.user.streamState, p.sink.nextSeq, rfl⟩
  · next hi =>
    cases hr : p.sink.updateStreamMetaData pb rpc with
    | error fault => rw [hr] at h; cases h
    | ok r =>
      rw [hr] at h
      rcases StreamSink.updateStreamMetaData_cases hr with ⟨hret, seq, hs⟩ | ⟨hs, rep, hd⟩
      · simp only [hret, ne_eq, not_false_eq_true, if_true] at h
        cases h
        obtain ⟨st, he⟩ := doneInState_proxy pb { p with sink := r.sink } .errConnectFail
          sendTime r.ret.code
        exact .inl ⟨hret, st, seq, by rw [he, hs]⟩
      · rw [StreamSink.updateStreamMetaData_of_describes hs hd] at hr
        cases hr
        simp only [ne_eq, not_true_eq_false, if_false, Option.getD_some] at h
        split at h
        · next hlive =>
          cases h
          obtain ⟨st, he⟩ := doneInState_proxy pb
            { p with sink := { p.sink with nextSeq := p.sink.nextSeq + 1 }.configure rep }
            .err sendTime .general
          exact .inr (.inl ⟨nofun, hs, rep, hd, hlive, st, he⟩)
        · next hlive =>
          split at h
          · cases h
          · next source hsrc =>
            cases h
            exact .inr (.inr ⟨rfl, by simpa using hi, hs, rep, hd, not_not.1 hlive, source, hsrc,
              rfl⟩)

/-- `Start` gets past its checks. -/
def Begins (p : StreamProxySource) : Prop :=
  p.isInit = true ∧ p.isMetaReady = true ∧ p.isStarted = false

variable (pb) in
/-- **Inversion of `Start`**: it does not begin; or the source cannot be started, or the sink
cannot and the source is left running; or both run. -/
theorem start_cases (p : StreamProxySource) (env : StartEnv) :
    (¬ p.Begins ∧ (p.start pb env).proxy = p) ∨
    (p.Begins ∧ (StreamSource.start p.source env.source).1.code ≠ .ok ∧
      (p.start pb env).ret ≠ .ok ∧ ∃ st, (p.start pb env).proxy = { p with
        lastFrameRecv := env.now
        source := StreamSource.withState p.source st }) ∨
    (p.Begins ∧ (StreamSource.start p.source env.source).1.code = .ok ∧
      (p.sink.start env.sink).1.code ≠ .ok ∧
      (p.start pb env).ret ≠ .ok ∧ ∃ st, (p.start pb env).proxy = { p with
        lastFrameRecv := env.now
        source := StreamSource.withState { p.source with isStarted := true } st
        sink := (p.sink.start env.sink).2 }) ∨
    (p.Begins ∧ (p.sink.start env.sink).1.code = .ok ∧
      (p.start pb env).ret = .ok ∧ ∃ st, (p.start pb env).proxy = { p with
        lastFrameRecv := env.now
        source := StreamSource.withState { p.source with isStarted := true } st
        sink := (p.sink.start env.sink).2
        isStarted := true }) := by
  unfold start
  split
  · next h => exact .inl ⟨fun hb => by simp [hb.1] at h, rfl⟩
  · next hi =>
    split
    · next h => exact .inl ⟨fun hb => by simp [hb.2.1] at h, rfl⟩
    · next hm =>
      split
      · next h => exact .inl ⟨fun hb => by simp [hb.2.2] at h, rfl⟩
      · next hs =>
        have hb : p.Begins := ⟨by simpa using hi, by simpa using hm, by simpa using hs⟩
        simp only
        rcases StreamSource.start_cases p.source env.source with ⟨h1, h2⟩ | ⟨h1, h2⟩
        · rw [if_pos h1, h2]
          obtain ⟨st, he⟩ := doneInState_proxy pb { p with lastFrameRecv := env.now } .err
            env.sendTime (StreamSource.start p.source env.source).1.code
          exact .inr (.inl ⟨hb, h1, h1, st, he⟩)
        · rw [if_neg (not_not.2 h1), h2]
          by_cases hk : (p.sink.start env.sink).1.code = .ok
          · rw [if_neg (not_not.2 hk)]
            obtain ⟨st, he⟩ := doneInState_proxy pb { p with
              lastFrameRecv := env.now
              source := { p.source with isStarted := true }
              sink := (p.sink.start env.sink).2
              isStarted := true } .ok env.sendTime .ok
            exact .inr (.inr (.inr ⟨hb, hk, rfl, st, he⟩))
          · rw [if_pos hk]
            obtain ⟨st, he⟩ := doneInState_proxy pb { p with
              lastFrameRecv := env.now
              source := { p.source with isStarted := true }
              sink := (p.sink.start env.sink).2 } .err env.sendTime
              (p.sink.start env.sink).1.code
            exact .inr (.inr (.inl ⟨hb, h1, hk, hk, st, he⟩))

/-- The key frame request of `Hearbeat`, if there is one, is answered. -/
def KeyFrameOk (p : StreamProxySource) (env : HearbeatEnv) : Prop :=
  p.needKeyFrame = true → ∃ reply, env.keyFrame = .reply reply ∧ reply.status = statusOk

/-- `Hearbeat` gets to restarting the proxy for new metadata. -/
def Restarts (p : StreamProxySource) (env : HearbeatEnv) : Prop :=
  p.isInit = true ∧ p.isStarted = true ∧ env.now - p.lastFrameRecv < maxFrameIntervalSec ∧
    p.KeyFrameOk env ∧ p.needUpdateMetadata = true

/-- The proxy once `Hearbeat` has taken its flags and asked for a key frame. -/
def polled (p : StreamProxySource) : StreamProxySource :=
  { p with
    needKeyFrame := false
    needUpdateMetadata := false
    sink := if p.needKeyFrame then { p.sink with nextSeq := p.sink.nextSeq + 1 } else p.sink }

theorem keyFrame_ok {s sink : StreamSink} {rpc : RpcOutcome} {ret : Ret}
    (h : s.keyFrame rpc = .ok (ret, sink)) :
    sink = { s with nextSeq := s.nextSeq + 1 } ∧
      (ret.code = .ok ↔ ∃ reply, rpc = .reply reply ∧ reply.status = statusOk) := by
  unfold StreamSink.keyFrame at h
  cases rpc with
  | failed code hc errInfo =>
    cases h
    refine ⟨rfl, fun hok => absurd hok hc, ?_⟩
    rintro ⟨reply, hr, -⟩
    cases hr
  | interrupted => cases h
  | reply reply =>
    cases h
    refine ⟨rfl, fun hok => ⟨reply, rfl, (StreamSink.replyStatus2ErrorCode_ok reply).1 hok⟩, ?_⟩
    rintro ⟨reply', hr, hst⟩
    cases hr
    exact (StreamSink.replyStatus2ErrorCode_ok reply).2 hst

/-- The key frame request of `Hearbeat`, sent or not. -/
theorem keyFrame_polled {env : HearbeatEnv} {ret : Ret} {sink : StreamSink}
    (h : (if p.needKeyFrame then p.sink.keyFrame env.keyFrame else .ok (⟨.ok, ""⟩, p.sink)) =
      .ok (ret, sink)) : sink = p.polled.sink ∧ (ret.code = .ok ↔ p.KeyFrameOk env) := by
  unfold polled KeyFrameOk
  split at h
  · next hn =>
    obtain ⟨h1, h2⟩ := keyFrame_ok h
    simp only [hn, if_true, forall_const]
    exact ⟨h1, h2⟩
  · next hn =>
    cases h
    rw [if_neg hn]
    exact ⟨rfl, fun _ h => absurd h hn, fun _ => rfl⟩

/-- **Inversion of `Hearbeat`**: it changes the state of the source at most, or it restarts the
proxy. -/
theorem hearbeat_cases {env : HearbeatEnv} (h : p.hearbeat pb env = .ok d) :
    (¬ p.Restarts env ∧ ∃ seq st b, d.proxy = { p with
      needKeyFrame := b && p.needKeyFrame
      needUpdateMetadata := b && p.needUpdateMetadata
      sink := { p.sink with nextSeq := seq }
      source := StreamSource.withState p.source st }) ∨
    (p.Restarts env ∧ p.polled.restart pb env = .ok d) := by
  have hseq : ∃ seq, p.polled.sink = { p.sink with nextSeq := seq } := by
    unfold polled
    split
    · exact ⟨_, rfl⟩
    · exact ⟨p.sink.nextSeq, rfl⟩
  unfold hearbeat at h
  split at h
  · next hi =>
    cases h
    exact .inl ⟨fun hr => by simp [hr.1] at hi, p.sink.nextSeq, p.source.user.streamState, true,
      rfl⟩
  · next hi =>
    split at h
    · next hs =>
      cases h
      exact .inl ⟨fun hr => by simp [hr.2.1] at hs, p.sink.nextSeq, p.source.user.streamState,
        true, rfl⟩
    · next hs =>
      simp only at h
      split at h
      · next hstop =>
        cases h
        obtain ⟨st, he⟩ := doneInState_proxy pb
          { p with needKeyFrame := false, needUpdateMetadata := false } .errMeidaStop
          env.sendTime .general
        exact .inl ⟨fun hr => by have := hr.2.2.1; omega, p.sink.nextSeq, st, false, he⟩
      · next hstop =>
        obtain ⟨seq, hseq⟩ := hseq
        split at h
        · cases h
        · next ret sink hk =>
          obtain ⟨hsink, hret⟩ := keyFrame_polled hk
          split at h
          · next hne =>
            cases h
            obtain ⟨st, he⟩ := doneInState_proxy pb
              { p with needKeyFrame := false, needUpdateMetadata := false, sink := sink } .err
              env.sendTime ret.code
            refine .inl ⟨fun hr => hne (hret.2 hr.2.2.2.1), seq, st, false, ?_⟩
            rw [he, hsink, hseq]
            rfl
          · next hok =>
            split at h
            · next hu =>
              rw [hsink] at h
              refine .inr ⟨⟨by simpa using hi, by simpa using hs, by omega, ?_, hu⟩, h⟩
              exact hret.1 (not_not.1 hok)
            · next hu =>
              cases h
              refine .inl ⟨fun hr => hu hr.2.2.2.2, seq, p.source.user.streamState, false, ?_⟩
              rw [hsink, hseq]
              rfl

/-- When `Hearbeat` gets that far, it is a restart. -/
theorem hearbeat_of_restarts {env : HearbeatEnv} (h : p.Restarts env) :
    p.hearbeat pb env = p.polled.restart pb env := by
  obtain ⟨hi, hs, hn, hk, hu⟩ := h
  unfold hearbeat
  rw [if_neg (by simp [hi]), if_neg (by simp [hs])]
  simp only
  rw [if_neg (by omega)]
  unfold polled
  cases hkey : p.needKeyFrame with
  | false => simp [hu]
  | true =>
    obtain ⟨reply, hr, hst⟩ := hk hkey
    have hok := (StreamSink.replyStatus2ErrorCode_ok reply).2 hst
    simp [hr, StreamSink.keyFrame, hok, hu]

/-- **Inversion of a restart**: the update fails, or `Start` is called after it. -/
theorem restart_cases {env : HearbeatEnv} (h : p.restart pb env = .ok d) :
    ∃ r, p.stop.updateStreamMetaData pb env.metadata env.sendTime = .ok r ∧
      ((r.ret ≠ .ok ∧ d = r) ∨
        (r.ret = .ok ∧ d.ret = (r.proxy.start pb env.start).ret ∧
          d.proxy = (r.proxy.start pb env.start).proxy)) := by
  unfold restart at h
  cases hr : p.stop.updateStreamMetaData pb env.metadata env.sendTime with
  | error fault => rw [hr] at h; cases h
  | ok r =>
    rw [hr] at h
    refine ⟨r, rfl, ?_⟩
    simp only at h
    split at h
    · next hne =>
      cases h
      exact .inl ⟨hne, rfl⟩
    · next hok =>
      cases h
      exact .inr ⟨not_not.1 hok, rfl, rfl⟩

/-! ## A new proxy -/

/-- The proxy after `Init`. -/
def initial (handlers : Int32 → Option (SourceApiHandler SourceData)) (streamName : String)
    (clientInfo : StreamClientInfo) : StreamProxySource :=
  { isInit := true
    source := ApiSource.afterInit handlers { streamName := streamName }
    sink := StreamSink.initBase clientInfo true }

end StreamProxySource

end StreamSwitch
