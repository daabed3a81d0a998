import StreamSwitch.Sink.Media

/-!
# Metadata of a stream sink

`InitBase`, `Start`, `Stop` and `UpdateStreamMetaData` of `stsw_stream_sink.cc`.

`update_aligned_iff`: along a run of metadata updates, starts, stops and received
messages, the counters match the metadata entry by entry, each successful update
leaves exactly the decoded metadata, and no frame reaches outside the counters, if
and only if each successful update finds the list of sub-streams empty. The list
is only ever appended to: `sub_streams` is not cleared before the loop that fills
it, while the counters are rebuilt for the new sub-streams alone.
-/

namespace StreamSwitch

open ReqRep

/-! ## Decoding -/

namespace ProtoSubStreamInfo

/-- The sub-stream that a `ProtoSubStreamInfo` describes: only the parameters of its media type
are read. -/
def toSubStream (p : ProtoSubStreamInfo) : SubStreamMetadata :=
  let mediaType := p.mediaType.getD .video
  { subStreamIndex := p.index.getD 0
    mediaType := mediaType
    codecName := p.codecName.getD "H264"
    direction := p.direction.getD .outbound
    extraData := p.extraData.getD []
    mediaParam :=
      match mediaType with
      | .video =>
        { video :=
            { height := p.height.getD 0
              width := p.width.getD 0
              fps := p.fps.getD 0
              gov := p.gov.getD 0 } }
      | .audio =>
        { audio :=
            { samplesPerSecond := p.samplesPerSecond.getD 0
              channels := p.channels.getD 0
              bitsPerSample := p.bitsPerSample.getD 0
              sampelePerFrame := p.sampelePerFrame.getD 0 } }
      | .text =>
        { text :=
            { x := p.x.getD 0
              y := p.y.getD 0
              foneSize := p.foneSize.getD 0
              fontType := p.fontType.getD "" } }
      | .priv => {} }

end ProtoSubStreamInfo

/-- The metadata that a reply describes. -/
def ProtoMetaRep.metadata (rep : ProtoMetaRep) : StreamMetadata :=
  { playType := rep.playType.getD .live
    sourceProto := rep.sourceProto.getD ""
    ssrc := rep.ssrc.getD 0
    bps := rep.bps.getD 0
    streamLen := rep.streamLen.getD ⟨0⟩
    subStreams := rep.subStreams.map ProtoSubStreamInfo.toSubStream }

/-- `ReplyStatus2ErrorCode`. -/
def replyStatus2ErrorCode (reply : ProtoCommonPacket) : Ret :=
  let status := reply.status
  let text := s!"{reply.info} (status:{status})"
  if status = statusOk then ⟨.ok, ""⟩
  else if 400 ≤ status ∧ status ≤ 499 then ⟨.client, text⟩
  else if 500 ≤ status ∧ status ≤ 599 then ⟨.server, text⟩
  else ⟨.general, text⟩

/-- How `SendRpcRequest` ends: with an error, with a reply, or interrupted, in which case it
returns 0 without a result. -/
inductive RpcOutcome
  | failed (code : ErrorCode) (h : code ≠ .ok) (errInfo : String)
  | interrupted
  | reply (packet : ProtoCommonPacket)

namespace StreamSink

variable (pb : Protobuf)

/-! ## Init, Start and Stop -/

/-- A sink after `InitBase`. -/
def initBase (clientInfo : StreamClientInfo) (listener : Bool) : StreamSink :=
  { isInit := true
    clientHearbeatSocket := some {}
    subscriberSocket := true
    subsriberHandlerMap := fun c =>
      if c = codeMedia then some ⟨.mediaFrame, mediaChannel⟩ else none
    clientInfo := clientInfo
    hasListener := listener }

/-- What the system calls of `Start` answer. -/
structure StartEnv where
  /-- The error of creating the subscriber socket. -/
  subscriber : Option String := none
  /-- `strerror` of a failed `pthread_create`. -/
  thread : Option String := none

def createSubscriberSocket (s : StreamSink) (env : StartEnv) : Ret × StreamSink :=
  if s.subscriberSocket then (⟨.ok, ""⟩, s)
  else
    match env.subscriber with
    | some text => (⟨.system, text⟩, s)
    | none => (⟨.ok, ""⟩, { s with subscriberSocket := true })

def start (s : StreamSink) (env : StartEnv) : Ret × StreamSink :=
  if !s.isInit then (⟨.general, "Receiver not init"⟩, s)
  else if s.isStarted then (⟨.ok, ""⟩, s)
  -- not started but the thread is there: another thread is in `Stop`
  else if s.workerThread then
    (⟨.busy, "An other thread is stopping the receiver, try later"⟩, s)
  else
    let r := s.createSubscriberSocket env
    if r.1.code ≠ .ok then r
    else
      let s := { r.2 with
        lastSendClientHeartbeatMsec := 0
        nextSendClientHeartbeatMsec := 0
        lastFrameSsrc := r.2.streamMeta.ssrc }
      match env.thread with
      | some text =>
        (⟨.system, s!"pthread_create failed:{text}"⟩, { s with subscriberSocket := false })
      | none => (⟨.ok, ""⟩, { s with workerThread := true, isStarted := true })

/-- `Stop` until it waits for the worker thread. -/
def stopBegin (s : StreamSink) : StreamSink :=
  if !s.isStarted then s
  else if s.workerThread then { s with isStarted := false }
  else { s with isStarted := false, subscriberSocket := false }

/-- `Stop` once the worker thread has ended. -/
def stopEnd (s : StreamSink) : StreamSink :=
  { s with workerThread := false, subscriberSocket := false }

/-! ## `UpdateStreamMetaData` -/

/-- What `UpdateStreamMetaData` returns, leaves and stores through its `metadata` pointer. -/
structure Updated where
  ret : Ret
  sink : StreamSink
  metadata : Option StreamMetadata := none

/-- The locked part: configure the sink with a decoded reply. -/
def configure (s : StreamSink) (rep : ProtoMetaRep) : StreamSink :=
  let subStreamNum := rep.subStreams.length
  let streamMeta := { rep.metadata with
    -- `push_back` onto the list that is there
    subStreams := s.streamMeta.subStreams ++ rep.metadata.subStreams }
  { s with
    streamMeta := streamMeta
    statistic := resetStatistic streamMeta.subStreams subStreamNum }

def updateStreamMetaData (s : StreamSink) (rpc : RpcOutcome) : Except Fault Updated :=
  if s.isStarted then .ok { ret := ⟨.general, "Cannot Setup MetaData After Start"⟩, sink := s }
  else
    let s := { s with nextSeq := s.nextSeq + 1 }
    match rpc with
    | .failed code _ errInfo => .ok { ret := ⟨code, errInfo⟩, sink := s }
    | .interrupted => .error .nullPointer
    | .reply reply =>
      let ret := replyStatus2ErrorCode reply
      if ret.code ≠ .ok then .ok { ret := ret, sink := s }
      else
        match pb.metaRep.decode reply.getBody with
        | none => .ok { ret := ⟨.parse, "reply body parse to metadata error"⟩, sink := s }
        | some rep =>
          let s := s.configure rep
          .ok { ret := ⟨.ok, ""⟩, sink := s, metadata := some s.streamMeta }

/-- `KeyFrame`. -/
def keyFrame (s : StreamSink) (rpc : RpcOutcome) : Except Fault (Ret × StreamSink) :=
  let s := { s with nextSeq := s.nextSeq + 1 }
  match rpc with
  | .failed code _ errInfo => .ok (⟨code, errInfo⟩, s)
  | .interrupted => .error .nullPointer
  | .reply reply => .ok (replyStatus2ErrorCode reply, s)

/-! ## What one call does -/

/-- `Start` gets past its checks and has a subscriber socket. -/
def Restarts (s : StreamSink) (env : StartEnv) : Prop :=
  s.isInit = true ∧ s.isStarted = false ∧ s.workerThread = false ∧
    (s.subscriberSocket = true ∨ env.subscriber = none)

theorem createSubscriberSocket_cases (s : StreamSink) (env : StartEnv) :
    ((s.createSubscriberSocket env).1.code ≠ .ok ∧ (s.createSubscriberSocket env).2 = s) ∨
    ((s.createSubscriberSocket env).1.code = .ok ∧
      (s.subscriberSocket = true ∨ env.subscriber = none) ∧
      ∃ b, (s.createSubscriberSocket env).2 = { s with subscriberSocket := b }) := by
  unfold createSubscriberSocket
  split
  · next h => exact .inr ⟨rfl, .inl h, s.subscriberSocket, rfl⟩
  · split
    · exact .inl ⟨nofun, rfl⟩
    · next h => exact .inr ⟨rfl, .inr h, true, rfl⟩

/-- **Inversion of `Start`**: it leaves the sink as it is, or it resets the heartbeat times and
the last ssrc, whether or not the thread can be created. -/
theorem start_cases (s : StreamSink) (env : StartEnv) :
    (s.start env).2 = s ∨
    (s.Restarts env ∧ ∃ b w v, (s.start env).2 = { s with
      subscriberSocket := b
      lastSendClientHeartbeatMsec := 0
      nextSendClientHeartbeatMsec := 0
      lastFrameSsrc := s.streamMeta.ssrc
      workerThread := w
      isStarted := v }) := by
  unfold start
  by_cases hi : s.isInit = true
  · by_cases hs : s.isStarted = true
    · simp [hi, hs]
    · by_cases hw : s.workerThread = true
      · simp [hi, hs, hw]
      · rw [if_neg (by simp [hi]), if_neg hs, if_neg hw]
        rcases createSubscriberSocket_cases s env with ⟨h1, h2⟩ | ⟨h1, h3, b, h2⟩
        · exact .inl ((congrArg Prod.snd (if_pos h1)).trans h2)
        · simp only
          rw [if_neg (not_not.2 h1), h2]
          refine .inr ⟨⟨hi, by simpa using hs, by simpa using hw, h3⟩, ?_⟩
          cases env.thread with
          | none => exact ⟨b, true, true, rfl⟩
          | some text => exact ⟨false, s.workerThread, s.isStarted, rfl⟩
  · simp [hi]

theorem replyStatus2ErrorCode_ok (reply : ProtoCommonPacket) :
    (replyStatus2ErrorCode reply).code = .ok ↔ reply.status = statusOk := by
  simp only [replyStatus2ErrorCode]
  by_cases h : reply.status = statusOk
  · rw [if_pos h]
    exact ⟨fun _ => h, fun _ => rfl⟩
  · rw [if_neg h]
    refine ⟨fun hc => ?_, fun hc => absurd hc h⟩
    split at hc
    · cases hc
    · split at hc <;> cases hc

/-- The reply makes an update succeed: its status is OK and its body parses. -/
def Describes (rpc : RpcOutcome) (rep : ProtoMetaRep) : Prop :=
  ∃ reply, rpc = .reply reply ∧ reply.status = statusOk ∧
    pb.metaRep.decode reply.getBody = some rep

variable {pb} {s : StreamSink}

theorem updateStreamMetaData_of_describes (hs : s.isStarted = false) {rpc : RpcOutcome}
    {rep : ProtoMetaRep} (h : Describes pb rpc rep) :
    s.updateStreamMetaData pb rpc = .ok
      { ret := ⟨.ok, ""⟩
        sink := { s with nextSeq := s.nextSeq + 1 }.configure rep
        metadata := some (s.configure rep).streamMeta } := by
  obtain ⟨reply, rfl, hst, hd⟩ := h
  have hok := (replyStatus2ErrorCode_ok reply).2 hst
  simp only [updateStreamMetaData, hs, hok, hd, Bool.false_eq_true, ne_eq, not_true_eq_false,
    if_false]
  rfl

/-- **Inversion of an update that returns**: it failed and only took a sequence number, or it
configured the sink with the decoded reply. -/
theorem updateStreamMetaData_cases {rpc : RpcOutcome} {r : Updated}
    (h : s.updateStreamMetaData pb rpc = .ok r) :
    (r.ret.code ≠ .ok ∧ ∃ seq, r.sink = { s with nextSeq := seq }) ∨
    (s.isStarted = false ∧ ∃ rep, Describes pb rpc rep) := by
  simp only [updateStreamMetaData] at h
  split at h
  · cases h
    exact .inl ⟨nofun, s.nextSeq, rfl⟩
  · next hs =>
    cases rpc with
    | failed code hc errInfo =>
      cases h
      exact .inl ⟨hc, _, rfl⟩
    | interrupted => cases h
    | reply reply =>
      simp only at h
      split at h
      · next hret =>
        cases h
        exact .inl ⟨hret, _, rfl⟩
      · next hret =>
        split at h
        · cases h
          exact .inl ⟨nofun, _, rfl⟩
        · next rep hd =>
          have hst := (replyStatus2ErrorCode_ok reply).1 (not_not.1 hret)
          exact .inr ⟨by simpa using hs, rep, reply, rfl, hst, hd⟩

theorem configure_of_empty (rep : ProtoMetaRep) (h : s.streamMeta.subStreams = []) :
    (s.configure rep).streamMeta = rep.metadata := by
  simp only [configure, h, List.nil_append]

theorem configure_statistic_of_empty (rep : ProtoMetaRep) (h : s.streamMeta.subStreams = []) :
    (s.configure rep).statistic =
      resetStatistic rep.metadata.subStreams rep.metadata.subStreams.length := by
  have hlen : rep.metadata.subStreams.length = rep.subStreams.length := List.length_map ..
  show resetStatistic (s.configure rep).streamMeta.subStreams _ = _
  rw [configure_of_empty rep h, hlen]

/-! ## Runs -/

inductive SinkEvent
  | update (rpc : RpcOutcome)
  | start (env : StartEnv)
  | stopBegin
  | stopEnd
  | read (m : PublishMsg)

variable (pb) in
def sinkStep (s : StreamSink) : SinkEvent → Option StreamSink
  | .update rpc => (s.updateStreamMetaData pb rpc).toOption.map Updated.sink
  | .start env => some (s.start env).2
  | .stopBegin => some s.stopBegin
  | .stopEnd => some s.stopEnd
  | .read m => (s.onSubRead pb m).toOption.map Handled.sink

/-- The counters match the metadata, and what the frame handler accepts is in their range. -/
structure Aligned (s : StreamSink) : Prop where
  size : s.statistic.length = s.streamMeta.subStreams.length
  mediaType : ∀ (i : Nat) st sub, s.statistic[i]? = some st →
    s.streamMeta.subStreams[i]? = some sub → st.mediaType = sub.mediaType
  inRange : ∀ info, s.Accepts info → (at? s.statistic info.subStreamIndex).isSome

variable (pb) in
/-- The step leaves the counters aligned. A successful update leaves and returns exactly the
decoded metadata, and a received message is handled within the range of the counters. -/
def Aligns (s : StreamSink) : SinkEvent → Prop
  | .update rpc => ∀ r, s.updateStreamMetaData pb rpc = .ok r → r.sink.Aligned ∧
    (r.ret.code = .ok → ∃ rep, Describes pb rpc rep ∧
      r.sink.streamMeta = rep.metadata ∧ r.metadata = some rep.metadata)
  | .start env => (s.start env).2.Aligned
  | .stopBegin => s.stopBegin.Aligned
  | .stopEnd => s.stopEnd.Aligned
  | .read m => ∃ r, s.onSubRead pb m = .ok r ∧ r.sink.Aligned

variable (pb) in
/-- An update that succeeds finds no sub-streams in the sink. -/
def FillsEmpty (s : StreamSink) : SinkEvent → Prop
  | .update rpc => s.isStarted = false → (∃ rep, Describes pb rpc rep) →
    s.streamMeta.subStreams = []
  | _ => True

/-- Aligned counters and metadata put every accepted index in range. -/
theorem aligned_mk (size : s.statistic.length = s.streamMeta.subStreams.length)
    (mediaType : ∀ (i : Nat) st sub, s.statistic[i]? = some st →
      s.streamMeta.subStreams[i]? = some sub → st.mediaType = sub.mediaType) : s.Aligned := by
  refine ⟨size, mediaType, ?_⟩
  intro info h
  have hle := int32OfSize_le s.streamMeta.subStreams.length
  have hlt := h.2.2
  exact at?_isSome.2 ⟨h.2.1, by rw [size]; omega⟩

/-- Only the counters and the metadata matter. -/
theorem Aligned.of_eq {t : StreamSink} (h : s.Aligned) (h1 : t.statistic = s.statistic)
    (h2 : t.streamMeta = s.streamMeta) : t.Aligned := by
  refine aligned_mk (by rw [h1, h2]; exact h.size) ?_
  rw [h1, h2]
  exact h.mediaType

/-- Configuring an empty sink aligns it. -/
theorem configure_aligned {rep : ProtoMetaRep} (h : s.streamMeta.subStreams = []) :
    (s.configure rep).Aligned := by
  have hmeta := configure_of_empty rep h
  have hstat := configure_statistic_of_empty rep h
  refine aligned_mk ?_ ?_
  · rw [hstat, hmeta, resetStatistic_length, Nat.min_self]
  · intro i st sub hst hsub
    rw [hmeta] at hsub
    rw [hstat, resetStatistic_getElem?, List.take_length, hsub] at hst
    cases hst
    rfl

/-- Configuring a sink that has sub-streams already leaves too few counters. -/
theorem not_aligned_configure (rep : ProtoMetaRep) (h : s.streamMeta.subStreams ≠ []) :
    ¬ (s.configure rep).Aligned := by
  intro ha
  have hsize := ha.size
  have hpos := List.length_pos_iff.2 h
  simp only [configure, resetStatistic_length, List.length_append, ProtoMetaRep.metadata,
    List.length_map] at hsize
  omega

theorem start_frame (env : StartEnv) :
    (s.start env).2.statistic = s.statistic ∧ (s.start env).2.streamMeta = s.streamMeta := by
  rcases start_cases s env with h | ⟨-, b, w, v, h⟩
  · rw [h]
    exact ⟨rfl, rfl⟩
  · rw [h]
    exact ⟨rfl, rfl⟩

theorem stopBegin_frame :
    s.stopBegin.statistic = s.statistic ∧ s.stopBegin.streamMeta = s.streamMeta := by
  unfold stopBegin
  repeat' split
  all_goals exact ⟨rfl, rfl⟩

/-- Counting a frame keeps the media type of its entry. -/
theorem receive_mediaType (st : SubStreamMediaStatistic) (type : MediaFrameType)
    (frameSize seq : UInt64) : (st.receive type frameSize seq).mediaType = st.mediaType := by
  simp only [SubStreamMediaStatistic.receive]
  repeat' split
  all_goals rfl

theorem Aligned.set (h : s.Aligned) {i : Nat} {st st' : SubStreamMediaStatistic}
    (hst : s.statistic[i]? = some st) (hm : st'.mediaType = st.mediaType) :
    { s with statistic := s.statistic.set i st' }.Aligned := by
  refine aligned_mk ?_ ?_
  · show (s.statistic.set i st').length = _
    rw [List.length_set]
    exact h.size
  · intro j t sub ht hsub
    rw [List.getElem?_set] at ht
    split at ht
    · next hij =>
      subst hij
      split at ht
      · cases ht
        rw [hm]
        exact h.mediaType i st sub hst hsub
      · cases ht
    · exact h.mediaType j t sub ht hsub

variable (pb) in
/-- On aligned counters the frame handler returns, and leaves them aligned. -/
theorem mediaFrameHandler_aligned (h : s.Aligned) (msg : ProtoCommonPacket)
    (blob : Option Bytes) :
    ∃ r, s.mediaFrameHandler pb msg blob = .ok r ∧ r.sink.Aligned := by
  cases hm : pb.mediaFrameMsg.decode msg.getBody with
  | none =>
    refine ⟨{ ret := .parse, sink := s }, ?_, h⟩
    simp only [mediaFrameHandler, hm]
  | some m =>
    by_cases ha : s.Accepts m.frameInfo
    · obtain ⟨st, hst⟩ := Option.isSome_iff_exists.1 (h.inRange _ ha)
      rw [at?_of_nonneg ha.2.1] at hst
      have hcount := countFrame_of_some (blobSize blob) (m.seq.getD 0) ha.2.1 hst
      have he := mediaFrameHandler_of_accepts blob hm ha
      rw [hcount] at he
      exact ⟨_, he, h.set hst (receive_mediaType ..)⟩
    · obtain ⟨r, hr, -, ssrc, hs⟩ := mediaFrameHandler_of_not_accepts blob hm ha
      refine ⟨r, hr, ?_⟩
      rw [hs]
      exact h.of_eq rfl rfl

variable (pb) in
theorem onSubRead_aligned (h : s.Aligned) (m : PublishMsg) :
    ∃ r, s.onSubRead pb m = .ok r ∧ r.sink.Aligned := by
  unfold onSubRead
  cases pb.commonPacket.decode m.packetFrame with
  | none => exact ⟨_, rfl, h⟩
  | some msg =>
    show ∃ r, s.onSubMsg pb m.channelName msg m.extraBlob = .ok r ∧ _
    unfold onSubMsg
    split
    · exact ⟨_, rfl, h⟩
    · split
      · split
        · exact mediaFrameHandler_aligned pb h msg m.extraBlob
        · exact ⟨_, rfl, h⟩
      · exact ⟨_, rfl, h⟩

variable (pb) in
/-- An update of an aligned sink aligns it exactly when it fills an empty list. -/
theorem update_aligns_iff (h : s.Aligned) (rpc : RpcOutcome) :
    s.Aligns pb (.update rpc) ↔ s.FillsEmpty pb (.update rpc) := by
  constructor
  · rintro hq hs ⟨rep, hd⟩
    by_contra hne
    exact not_aligned_configure rep hne
      ((hq _ (updateStreamMetaData_of_describes hs hd)).1.of_eq rfl rfl)
  · intro hc r hr
    rcases updateStreamMetaData_cases hr with ⟨hret, seq, hsink⟩ | ⟨hs, rep, hd⟩
    · refine ⟨?_, fun hok => absurd hok hret⟩
      rw [hsink]
      exact h.of_eq rfl rfl
    · rw [updateStreamMetaData_of_describes hs hd] at hr
      cases hr
      have he := hc hs ⟨rep, hd⟩
      refine ⟨configure_aligned he, fun _ => ⟨rep, hd, configure_of_empty rep he, ?_⟩⟩
      rw [configure_of_empty rep he]

variable (pb) in
theorem aligns_iff_fillsEmpty (h : s.Aligned) (e : SinkEvent) :
    s.Aligns pb e ↔ s.FillsEmpty pb e := by
  cases e with
  | update rpc => exact update_aligns_iff pb h rpc
  | start env =>
    obtain ⟨h1, h2⟩ := start_frame (s := s) env
    exact ⟨fun _ => trivial, fun _ => h.of_eq h1 h2⟩
  | stopBegin =>
    obtain ⟨h1, h2⟩ := stopBegin_frame (s := s)
    exact ⟨fun _ => trivial, fun _ => h.of_eq h1 h2⟩
  | stopEnd => exact ⟨fun _ => trivial, fun _ => h.of_eq rfl rfl⟩
  | read m => exact ⟨fun _ => trivial, fun _ => onSubRead_aligned pb h m⟩

/-- A step that aligns leaves an aligned sink. -/
theorem aligned_of_aligns {s' : StreamSink} {e : SinkEvent} (h : s.Aligns pb e)
    (he : s.sinkStep pb e = some s') : s'.Aligned := by
  cases e with
  | update rpc =>
    cases hr : s.updateStreamMetaData pb rpc with
    | error fault => rw [sinkStep, hr] at he; cases he
    | ok r =>
      rw [sinkStep, hr] at he
      cases he
      exact (h r hr).1
  | read m =>
    obtain ⟨r, hr, ha⟩ := h
    rw [sinkStep, hr] at he
    cases he
    exact ha
  | start env => cases he; exact h
  | stopBegin => cases he; exact h
  | stopEnd => cases he; exact h

theorem initBase_aligned (clientInfo : StreamClientInfo) (listener : Bool) :
    (initBase clientInfo listener).Aligned := by
  apply aligned_mk rfl
  intro i st sub hst
  rw [show (initBase clientInfo listener).statistic = [] from rfl, List.getElem?_nil] at hst
  cases hst

variable (pb) in
/-- **Counters and metadata agree along a run** exactly when every successful update finds the
list of sub-streams empty. -/
theorem update_aligned_iff (clientInfo : StreamClientInfo) (listener : Bool)
    (es : List SinkEvent) :
    Run.Each (sinkStep pb) (Aligns pb) (initBase clientInfo listener) es ↔
      Run.Each (sinkStep pb) (FillsEmpty pb) (initBase clientInfo listener) es :=
  Run.each_iff
    (fun _ e _ h hc he => aligned_of_aligns ((aligns_iff_fillsEmpty pb h e).2 hc) he)
    (fun _ e h => aligns_iff_fillsEmpty pb h e) (initBase_aligned clientInfo listener)

/-- An OK reply with one video sub-stream. -/
def oneSubStreamReply : ProtoCommonPacket :=
  { header := some { type := some .reply, code := some codeMetadata }
    body := some (wireProtobuf.metaRep.encode { ssrc := some 7, subStreams := [{}] }) }

/-- Updating twice from the same reply: the sink then has two sub-streams and one counter. -/
theorem second_update_not_aligned :
    ¬ Run.Each (sinkStep wireProtobuf) (Aligns wireProtobuf) (initBase {} true)
      [.update (.reply oneSubStreamReply), .update (.reply oneSubStreamReply)] := by
  intro h
  have h2 := ((h.2 _ rfl).1 _ rfl).1.size
  exact absurd h2 (by decide)

end StreamSink

end StreamSwitch
