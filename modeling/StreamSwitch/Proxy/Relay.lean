import StreamSwitch.Proxy.Lifecycle
import StreamSwitch.Link.Publish

/-!
# What the proxy relays

The metadata of the stream is held twice, in the sink that checks the received
frames and in the source that checks the frames to send.

`relays_of_liveStart`: along a run of calls and received messages in which every
`Start` that begins finds live metadata in the sink, both hold the same
sub-streams and ssrc whenever the sink runs. So every frame that the sink hands
out is accepted by the source, and the media messages that the proxy publishes
carry exactly these frames, in order.

Metadata that is not live reaches the sink but not the source, and META_READY is
not cleared: `Start` after such an update runs on metadata that differ.
-/

namespace StreamSwitch

namespace StreamSource

/-- There are as many counters as `SendLiveMediaFrame` can index. -/
def CountersFit (s : StreamSource) : Prop :=
  s.user.statistic.length = (int32OfSize s.user.streamMeta.subStreams.length).toNat

theorem setStreamMeta_countersFit {s s' : StreamSource} {m : StreamMetadata}
    (hs : CountersFit s) (h : setStreamMeta s m = .ok s') : CountersFit s' := by
  by_cases hc : s.user.streamMeta.ssrc = m.ssrc ∧
      s.user.streamMeta.subStreams.length = m.subStreams.length
  · rw [setStreamMeta_of_same hc.1 hc.2] at h
    cases h
    unfold CountersFit at hs ⊢
    rw [hc.2] at hs
    exact hs
  · by_cases hn : int32OfSize m.subStreams.length < 0
    · rw [setStreamMeta_of_negative hc hn] at h
      cases h
    · obtain ⟨s1, h1, -, h2, h3⟩ := setStreamMeta_of_changed hc (by omega)
      rw [h1] at h
      cases h
      have hle := int32OfSize_le m.subStreams.length
      unfold CountersFit
      rw [h2, h3, resetStatistic_length]
      omega

/-- A frame that passes the checks with an index that is not negative is sent. -/
theorem sendLiveMediaFrame_of_countersFit (pb : Protobuf) {s : StreamSource} {f : LiveFrame}
    (hi : s.isInit = true) (hc : CountersFit s) (hp : Passes s f)
    (h0 : 0 ≤ f.info.subStreamIndex.toInt) :
    ∃ st, sendLiveMediaFrame pb s f =
      .ok ⟨⟨.ok, ""⟩, accepted s f st, [publishedMsg pb f st]⟩ := by
  have hlt := hp.2
  unfold CountersFit at hc
  obtain ⟨st, hst⟩ := Option.isSome_iff_exists.1
    (at?_isSome (v := s.user.statistic).2 ⟨h0, by omega⟩)
  exact ⟨st, by rw [sendLiveMediaFrame_of_passes pb hi hp, hst]⟩

theorem sendPublishMsg_channelName (pb : Protobuf) {s : StreamSource} {channelName : String}
    {msg : ProtoCommonPacket} {blob : Option Bytes} {size : UInt64} {m : PublishMsg}
    (h : m ∈ s.sendPublishMsg pb channelName msg blob size) : m.channelName = channelName := by
  unfold sendPublishMsg at h
  rw [List.mem_ite_nil_left, List.mem_ite_nil_left] at h
  rw [List.mem_singleton.1 h.2.2]

end StreamSource

/-- The bytes that a frame points to. -/
def LiveFrame.data (f : LiveFrame) : Bytes := (f.frameData.getD []).take f.frameSize.toNat

/-- The message is a media message of this frame: sub-stream, type, timestamp and ssrc as the
receiver reads them, and the data. -/
def Carries (pb : Protobuf) (f : LiveFrame) (m : PublishMsg) : Prop :=
  m.channelName = mediaChannel ∧
    (∃ packet msg, pb.commonPacket.decode m.packetFrame = some packet ∧
      packet.code = codeMedia ∧ pb.mediaFrameMsg.decode packet.getBody = some msg ∧
      msg.frameInfo = f.info) ∧
    m.extraBlob.getD [] = f.data

theorem PublishMsg.extraBlob_getD (m : PublishMsg) : m.extraBlob.getD [] = m.blobFrame.getD [] := by
  unfold extraBlob
  split
  · next h => rw [h]
  · next h =>
    cases hb : m.blobFrame with
    | none => rfl
    | some b =>
      cases b with
      | nil => rfl
      | cons c cs => exact absurd hb (h c cs)

/-- What is published for a frame whose microseconds came from a message carries the frame. -/
theorem carries_publishedMsg (pb : Protobuf) {f : LiveFrame} {usec : Int32}
    (hu : f.info.timestamp.tvUsec = usec.toInt64) (st : SubStreamMediaStatistic) :
    Carries pb f (StreamSource.publishedMsg pb f st) := by
  refine ⟨rfl, ?_, ?_⟩
  · obtain ⟨msg, hmsg, -, hinfo⟩ :=
      StreamSource.decode_mediaMsg pb f.info (st.send f.info.frameType f.frameSize).2
    refine ⟨_, msg, Codec.decode_encode .., rfl, hmsg, ?_⟩
    rw [hinfo, hu, Int32.toInt32_toInt64, ← hu]
  · rw [PublishMsg.extraBlob_getD]
    unfold StreamSource.publishedMsg LiveFrame.data
    simp only
    split
    · cases f.frameData <;> simp
    · next h0 =>
      rw [not_not.1 h0]
      simp

namespace StreamProxySource

/-- Sink and source have the same sub-streams and ssrc. -/
def SameStream (p : StreamProxySource) : Prop :=
  p.sink.streamMeta.subStreams = p.source.user.streamMeta.subStreams ∧
    p.sink.streamMeta.ssrc = p.source.user.streamMeta.ssrc

/-- The frames among the callbacks. -/
def liveFrames (cbs : List SinkCallback) : List LiveFrame :=
  cbs.filterMap fun
    | .onLiveMediaFrame info frameData frameSize => some ⟨info, frameData, frameSize⟩
    | _ => none

variable (pb : Protobuf)

/-- The frames that `MediaFrameHandler` passes to `OnLiveMediaFrame` in a call. -/
def passed (p : StreamProxySource) : ProxyEvent → List LiveFrame
  | .read m _ =>
    if p.sink.isStarted then
      match p.sink.onSubRead pb m with
      | .ok r => liveFrames r.callbacks
      | .error _ => []
    else []
  | _ => []

/-- The media messages that a call publishes. -/
def relayed (p : StreamProxySource) (e : ProxyEvent) : List PublishMsg :=
  ((p.call pb e).elim [] Done.published).filter fun m => m.channelName == mediaChannel

/-- While the sink runs it has the metadata of the source, each frame it passes on is accepted,
and these frames are what is published. -/
def Relays (p : StreamProxySource) (e : ProxyEvent) : Prop :=
  (∀ d, p.call pb e = some d → d.proxy.sink.isStarted = true → d.proxy.SameStream) ∧
  (∀ f ∈ p.passed pb e, ∃ sent, StreamSource.sendLiveMediaFrame pb p.source f = .ok sent ∧
    sent.ret.code = .ok) ∧
  List.Forall₂ (Carries pb) (p.passed pb e) (p.relayed pb e)

/-- A `Start` that begins finds live metadata in the sink. -/
def LiveStart (p : StreamProxySource) : ProxyEvent → Prop
  | .start _ => p.Begins → p.sink.streamMeta.playType = .live
  | _ => True

/-- Between two calls. -/
structure RelayInv (p : StreamProxySource) : Prop extends Flags p where
  counters : StreamSource.CountersFit p.source
  ready : p.isInit = true → p.isMetaReady = true → p.sink.streamMeta.playType = .live →
    p.SameStream
  running : p.sink.isStarted = true → p.SameStream

variable {pb} {p : StreamProxySource} {d : Done}

/-- A running proxy runs on the metadata it was started with. -/
theorem RelayInv.of_eq {q : StreamProxySource} (h : p.RelayInv) (hf : q.Flags)
    (hi : q.isInit = p.isInit) (hr : q.isMetaReady = p.isMetaReady)
    (hstat : q.source.user.statistic.length = p.source.user.statistic.length)
    (hsrc : q.source.user.streamMeta = p.source.user.streamMeta)
    (hmeta : q.sink.streamMeta = p.sink.streamMeta)
    (hs : q.sink.isStarted = true → p.sink.isStarted = true) : q.RelayInv := by
  have hsame : p.SameStream → q.SameStream := by
    unfold SameStream
    rw [hmeta, hsrc]
    exact id
  refine ⟨hf, ?_, ?_, fun h1 => hsame (h.running (hs h1))⟩
  · unfold StreamSource.CountersFit
    rw [hstat, hsrc]
    exact h.counters
  · rw [hi, hr, hmeta]
    exact fun h1 h2 h3 => hsame (h.ready h1 h2 h3)

/-! ## The calls -/

theorem RelayInv.stop (h : p.RelayInv) : p.stop.RelayInv := by
  have hf := h.toFlags.stop
  unfold StreamProxySource.stop at hf ⊢
  split
  · exact h
  · split
    · exact h
    · next h1 h2 =>
      rw [if_neg h1, if_neg h2] at hf
      refine h.of_eq hf rfl rfl rfl rfl ?_ fun hs => ?_
      · exact p.sink.stop_streamMeta
      · simp [StreamSink.stop_isStarted] at hs

theorem RelayInv.uninit (h : p.RelayInv) : p.uninit.RelayInv := by
  cases hi : p.isInit with
  | false => rwa [uninit_of_not_init hi]
  | true =>
    have hq := (uninit_quiet h.toFlags hi).2
    refine ⟨h.toFlags.uninit, ?_, fun h1 => ?_, fun h1 => ?_⟩
    · have hs := h.stop.counters
      unfold StreamProxySource.uninit
      rw [if_neg (by simp [hi])]
      unfold StreamSource.CountersFit at hs ⊢
      show (StreamSource.uninit p.stop.source).user.statistic.length = _
      rw [StreamSource.uninit_user]
      exact hs
    · rw [uninit_isInit] at h1
      cases h1
    · rw [hq] at h1
      cases h1

/-- An update that succeeds gives both the same sub-streams. -/
theorem RelayInv.update (h : p.RelayInv) {rpc : RpcOutcome} {sendTime : Int64}
    (hd : p.updateStreamMetaData pb rpc sendTime = .ok d) :
    d.proxy.RelayInv ∧ (d.ret = .ok → d.proxy.sink.streamMeta.playType = .live) := by
  have hf := h.toFlags.update hd
  rcases updateStreamMetaData_cases hd with
    ⟨hne, st, seq, he⟩ | ⟨hne, hs, rep, -, hlive, st, he⟩ | ⟨-, -, hs, rep, -, hlive, source, hsrc, he⟩
  · refine ⟨?_, fun hok => absurd hok hne⟩
    rw [he] at hf ⊢
    exact h.of_eq hf rfl rfl rfl rfl rfl id
  · refine ⟨?_, fun hok => absurd hok hne⟩
    rw [he] at hf ⊢
    -- the sink alone has the new metadata, and it is not live
    refine ⟨hf, h.counters, fun _ _ h3 => absurd h3 hlive, fun h1 => ?_⟩
    have h2 : p.sink.isStarted = true := h1
    rw [hs] at h2
    cases h2
  · have hmeta := (StreamSource.setStreamMeta_ok hsrc).2
    rw [he] at hf ⊢
    have hsame : StreamProxySource.SameStream { p with
        sink := { p.sink with nextSeq := p.sink.nextSeq + 1 }.configure rep
        source := source
        isMetaReady := true } := by
      unfold SameStream
      rw [hmeta]
      exact ⟨rfl, rfl⟩
    exact ⟨⟨hf, StreamSource.setStreamMeta_countersFit h.counters hsrc, fun _ _ _ => hsame,
      fun _ => hsame⟩, fun _ => hlive⟩

variable (pb) in
/-- Starting with live metadata in the sink. -/
theorem RelayInv.start (h : p.RelayInv) {env : StartEnv}
    (hl : p.Begins → p.sink.streamMeta.playType = .live) : (p.start pb env).proxy.RelayInv := by
  have hf := h.toFlags.start pb env
  have hmeta := (StreamSink.start_frame (s := p.sink) env.sink).2
  rcases start_cases pb p env with ⟨hb, he⟩ | ⟨hb, -, hret, st, he⟩ | ⟨hb, -, hk, -, st, he⟩ |
    ⟨hb, hk, hret, st, he⟩
  · rwa [he]
  · rw [he] at hf ⊢
    exact h.of_eq hf rfl rfl rfl rfl rfl id
  · rw [he] at hf ⊢
    refine h.of_eq hf rfl rfl rfl rfl hmeta fun hs => ?_
    have h2 := hf.sink.symm.trans hs
    rw [hb.2.2] at h2
    cases h2
  · have hsame := h.ready hb.1 hb.2.1 (hl hb)
    rw [he] at hf ⊢
    have hsame' : StreamProxySource.SameStream { p with
        lastFrameRecv := env.now
        source := StreamSource.withState { p.source with isStarted := true } st
        sink := (p.sink.start env.sink).2
        isStarted := true } := by
      unfold SameStream
      rw [hmeta]
      exact hsame
    exact ⟨hf, h.counters, fun _ _ _ => hsame', fun _ => hsame'⟩

theorem RelayInv.polled (h : p.RelayInv) : p.polled.RelayInv := by
  obtain ⟨seq, hs⟩ := polled_sink (p := p)
  refine h.of_eq h.toFlags.polled rfl rfl rfl rfl ?_ ?_
  · rw [hs]
  · rw [hs]
    exact id

theorem RelayInv.restart (h : p.RelayInv) {env : HearbeatEnv} (hd : p.restart pb env = .ok d) :
    d.proxy.RelayInv := by
  obtain ⟨r, hr, hc⟩ := restart_cases hd
  obtain ⟨hinv, hlive⟩ := h.stop.update hr
  rcases hc with ⟨-, rfl⟩ | ⟨hok, -, hproxy⟩
  · exact hinv
  · rw [hproxy]
    exact hinv.start pb fun _ => hlive hok

/-! ## A received message -/

theorem liveFrames_eq_nil {cbs : List SinkCallback}
    (h : ∀ info data size, .onLiveMediaFrame info data size ∉ cbs) : liveFrames cbs = [] := by
  rw [liveFrames, List.filterMap_eq_nil_iff]
  intro cb hcb
  cases cb with
  | onLiveMediaFrame info data size => exact absurd hcb (h info data size)
  | onMetadataMismatch ssrc => rfl
  | subHandler id msg blob => rfl

variable (pb) in
/-- Callbacks without a frame leave the source alone. -/
theorem callbacks_of_no_frame {cbs : List SinkCallback} (now : Int)
    (h : ∀ info data size, .onLiveMediaFrame info data size ∉ cbs) :
    ∃ d, p.callbacks pb now cbs = .ok d ∧ d.published = [] ∧ d.proxy.source = p.source := by
  induction cbs generalizing p with
  | nil => exact ⟨_, rfl, rfl, rfl⟩
  | cons cb cbs ih =>
    have hcb : ∃ q, p.callback pb now cb = .ok { proxy := q } ∧ q.source = p.source := by
      cases cb with
      | onLiveMediaFrame info data size => exact absurd List.mem_cons_self (h info data size)
      | onMetadataMismatch ssrc => exact ⟨_, rfl, rfl⟩
      | subHandler id msg blob => exact ⟨_, rfl, rfl⟩
    obtain ⟨q, hq, hsrc⟩ := hcb
    obtain ⟨d, hd, hpub, hsrc'⟩ := ih (p := q)
      (fun info data size hm => h info data size (List.mem_cons_of_mem _ hm))
    refine ⟨{ d with published := [] ++ d.published }, ?_, hpub, hsrc'.trans hsrc⟩
    unfold callbacks
    rw [hq]
    simp only [hd]
    rfl

variable (pb) in
/-- On the metadata of the source, a message that the sink can handle is handled by the proxy: it
passes on no frame, or one that the source accepts. -/
theorem onSubRead_of_sameStream (hi : p.source.isInit = true)
    (hc : StreamSource.CountersFit p.source) (hs : p.SameStream) {m : PublishMsg} (now : Int)
    {r : StreamSink.Handled} (hr : p.sink.onSubRead pb m = .ok r) :
    ∃ d, p.onSubRead pb m now = .ok d ∧
      ((liveFrames r.callbacks = [] ∧ d.published = [] ∧ d.proxy.source = p.source) ∨
       (∃ f st sent, liveFrames r.callbacks = [f] ∧
        StreamSource.sendLiveMediaFrame pb p.source f = .ok sent ∧ sent.ret.code = .ok ∧
        d.published = [StreamSource.publishedMsg pb f st] ∧
        d.proxy.source = StreamSource.accepted p.source f st ∧
        Carries pb f (StreamSource.publishedMsg pb f st))) := by
  unfold onSubRead
  rw [hr]
  rcases StreamSink.onSubRead_callbacks hr with hnone | ⟨msg, ha, hcb⟩
  · obtain ⟨d, hd, hpub, hsrc⟩ := callbacks_of_no_frame pb (p := { p with sink := r.sink })
      now hnone
    exact ⟨d, hd, .inl ⟨liveFrames_eq_nil hnone, hpub, hsrc⟩⟩
  · -- what the sink accepts passes the checks of the source
    have hp : StreamSource.Passes p.source
        ⟨msg.frameInfo, m.extraBlob, blobSize m.extraBlob⟩ := by
      obtain ⟨h1, -, h3⟩ := ha
      rw [hs.2] at h1
      rw [hs.1] at h3
      exact ⟨h1, h3⟩
    obtain ⟨st, hsend⟩ := StreamSource.sendLiveMediaFrame_of_countersFit pb hi hc hp ha.2.1
    have hd : StreamProxySource.callbacks pb { p with sink := r.sink } now r.callbacks = .ok
        { proxy := { p with
            sink := r.sink
            source := StreamSource.accepted p.source
              ⟨msg.frameInfo, m.extraBlob, blobSize m.extraBlob⟩ st
            lastFrameRecv := now }
          published := [StreamSource.publishedMsg pb
            ⟨msg.frameInfo, m.extraBlob, blobSize m.extraBlob⟩ st] } := by
      rw [hcb]
      simp only [callbacks, callback, onLiveMediaFrame, hsend]
      rfl
    exact ⟨_, hd, .inr ⟨_, st, _, by rw [hcb]; rfl, hsend, rfl, rfl, rfl,
      carries_publishedMsg pb rfl st⟩⟩

theorem onSubRead_sinkOk {m : PublishMsg} {now : Int} (hd : p.onSubRead pb m now = .ok d) :
    ∃ r, p.sink.onSubRead pb m = .ok r := by
  unfold onSubRead at hd
  cases hr : p.sink.onSubRead pb m with
  | error fault => rw [hr] at hd; cases hd
  | ok r => exact ⟨r, rfl⟩

theorem RelayInv.read (h : p.RelayInv) (hs : p.sink.isStarted = true) {m : PublishMsg} {now : Int}
    (hd : p.onSubRead pb m now = .ok d) : d.proxy.RelayInv := by
  have hi := h.source_isInit hs
  obtain ⟨r, hr⟩ := onSubRead_sinkOk hd
  obtain ⟨d', hd', hc⟩ := onSubRead_of_sameStream pb hi h.counters (h.running hs) now hr
  rw [hd] at hd'
  cases hd'
  obtain ⟨statistic, ssrc, user, recv, upd, he⟩ := read_eq hi hd
  -- the counters of the source may change, their number does not
  have huser : d.proxy.source.user.statistic.length = p.source.user.statistic.length ∧
      d.proxy.source.user.streamMeta = p.source.user.streamMeta := by
    rcases hc with ⟨-, -, hsrc⟩ | ⟨f, st, -, -, -, -, -, hsrc, -⟩
    · rw [hsrc]
      exact ⟨rfl, rfl⟩
    · rw [hsrc]
      exact ⟨List.length_set .., rfl⟩
  rw [he] at huser ⊢
  exact h.of_eq (h.toFlags.of_eq rfl rfl rfl rfl rfl) rfl rfl huser.1 huser.2 rfl id

/-- A call whose `Start` finds live metadata keeps the invariant. -/
theorem RelayInv.call (h : p.RelayInv) {e : ProxyEvent} (hl : p.LiveStart e)
    (hd : p.call pb e = some d) : d.proxy.RelayInv := by
  cases e with
  | update rpc t => exact (h.update (call_update hd)).1
  | start env =>
    cases hd
    exact h.start pb hl
  | stop =>
    cases hd
    exact h.stop
  | hearbeat env =>
    rcases hearbeat_cases (call_hearbeat hd) with ⟨-, seq, st, b, he⟩ | ⟨-, hd'⟩
    · rw [he]
      exact h.of_eq (h.toFlags.of_eq rfl rfl rfl rfl rfl) rfl rfl rfl rfl rfl id
    · exact h.polled.restart hd'
  | uninit =>
    cases hd
    exact h.uninit
  | onKeyFrame =>
    cases hd
    exact h.of_eq (h.toFlags.of_eq rfl rfl rfl rfl rfl) rfl rfl rfl rfl rfl id
  | read m now =>
    obtain ⟨hs, hr⟩ := call_read hd
    exact h.read hs hr

/-! ## What the calls publish -/

/-- No media message. -/
def InfoOnly (ms : List PublishMsg) : Prop := ∀ m ∈ ms, m.channelName = infoChannel

theorem infoOnly_nil : InfoOnly [] := fun _ hm => by cases hm

theorem InfoOnly.filter_media {ms : List PublishMsg} (h : InfoOnly ms) :
    ms.filter (fun m => m.channelName == mediaChannel) = [] := by
  rw [List.filter_eq_nil_iff]
  intro m hm
  rw [h m hm]
  decide

variable (pb) in
theorem doneInState_infoOnly (p : StreamProxySource) (streamState : SourceStreamState)
    (sendTime : Int64) (ret : ErrorCode) :
    InfoOnly (p.doneInState pb streamState sendTime ret).published := by
  unfold doneInState StreamSource.setStreamState
  split
  · exact infoOnly_nil
  · simp only
    split
    · exact fun m hm => StreamSource.sendPublishMsg_channelName pb hm
    · exact infoOnly_nil

theorem update_infoOnly {rpc : RpcOutcome} {sendTime : Int64}
    (hd : p.updateStreamMetaData pb rpc sendTime = .ok d) : InfoOnly d.published := by
  unfold updateStreamMetaData at hd
  split at hd
  · cases hd
    exact infoOnly_nil
  · split at hd
    · cases hd
    · simp only at hd
      split at hd
      · cases hd
        exact doneInState_infoOnly pb _ _ _ _
      · split at hd
        · cases hd
          exact doneInState_infoOnly pb _ _ _ _
        · split at hd
          · cases hd
          · cases hd
            exact infoOnly_nil

variable (pb) in
theorem start_infoOnly (p : StreamProxySource) (env : StartEnv) :
    InfoOnly (p.start pb env).published := by
  unfold start
  simp only
  repeat' split
  all_goals first | exact infoOnly_nil | exact doneInState_infoOnly pb _ _ _ _

theorem restart_infoOnly {env : HearbeatEnv} (hd : p.restart pb env = .ok d) :
    InfoOnly d.published := by
  unfold restart at hd
  cases hr : p.stop.updateStreamMetaData pb env.metadata env.sendTime with
  | error fault => rw [hr] at hd; cases hd
  | ok r =>
    rw [hr] at hd
    have hu := update_infoOnly hr
    simp only at hd
    split at hd
    · cases hd
      exact hu
    · cases hd
      intro m hm
      rcases List.mem_append.1 hm with hm | hm
      · exact hu m hm
      · exact start_infoOnly pb _ _ m hm

theorem hearbeat_infoOnly {env : HearbeatEnv} (hd : p.hearbeat pb env = .ok d) :
    InfoOnly d.published := by
  unfold hearbeat at hd
  split at hd
  · cases hd
    exact infoOnly_nil
  · split at hd
    · cases hd
      exact infoOnly_nil
    · simp only at hd
      split at hd
      · cases hd
        exact doneInState_infoOnly pb _ _ _ _
      · split at hd
        · cases hd
        · split at hd
          · cases hd
            exact doneInState_infoOnly pb _ _ _ _
          · split at hd
            · exact restart_infoOnly hd
            · cases hd
              exact infoOnly_nil

/-- Only a received message makes the proxy publish media messages. -/
theorem call_infoOnly {e : ProxyEvent} (he : ∀ m now, e ≠ .read m now)
    (hd : p.call pb e = some d) : InfoOnly d.published := by
  cases e with
  | update rpc t => exact update_infoOnly (call_update hd)
  | start env =>
    cases hd
    exact start_infoOnly pb p env
  | stop => cases hd; exact infoOnly_nil
  | hearbeat env => exact hearbeat_infoOnly (call_hearbeat hd)
  | uninit => cases hd; exact infoOnly_nil
  | onKeyFrame => cases hd; exact infoOnly_nil
  | read m now => exact absurd rfl (he m now)

theorem relayed_of_not_read {e : ProxyEvent} (he : ∀ m now, e ≠ .read m now) :
    p.relayed pb e = [] := by
  unfold relayed
  cases hd : p.call pb e with
  | none => rfl
  | some d => exact (call_infoOnly he hd).filter_media

/-! ## Runs -/

variable (pb) in
/-- A message that is read while everything agrees is relayed. -/
theorem RelayInv.relays_read (h : p.RelayInv) (m : PublishMsg) (now : Int) :
    (∀ f ∈ p.passed pb (.read m now), ∃ sent,
      StreamSource.sendLiveMediaFrame pb p.source f = .ok sent ∧ sent.ret.code = .ok) ∧
    List.Forall₂ (Carries pb) (p.passed pb (.read m now)) (p.relayed pb (.read m now)) := by
  by_cases hs : p.sink.isStarted = true
  · cases hr : p.sink.onSubRead pb m with
    | error fault =>
      -- the sink itself does not return: nothing is passed on
      have hcall : p.call pb (.read m now) = none := by
        simp only [StreamProxySource.call, hs, if_true, onSubRead, hr]
        rfl
      simp only [passed, relayed, hs, hr, hcall]
      exact ⟨fun f hf => absurd hf List.not_mem_nil, .nil⟩
    | ok r =>
      obtain ⟨d, hd, hc⟩ := onSubRead_of_sameStream pb (h.source_isInit hs) h.counters
        (h.running hs) now hr
      have hcall : p.call pb (.read m now) = some d := by
        simp only [StreamProxySource.call, hs, if_true, hd]
        rfl
      simp only [passed, relayed, hs, hr, hcall, if_true, Option.elim_some]
      rcases hc with ⟨hf, hpub, -⟩ | ⟨f, st, sent, hf, hsend, hret, hpub, -, hcar⟩
      · rw [hf, hpub]
        exact ⟨fun f hf => absurd hf List.not_mem_nil, .nil⟩
      · rw [hf, hpub]
        refine ⟨fun f' hf' => ?_, .cons hcar .nil⟩
        rw [List.mem_singleton.1 hf']
        exact ⟨sent, hsend, hret⟩
  · have hcall : p.call pb (.read m now) = none := if_neg hs
    simp only [passed, relayed, hcall, if_neg hs]
    exact ⟨fun f hf => absurd hf List.not_mem_nil, .nil⟩

variable (pb) in
theorem RelayInv.relays (h : p.RelayInv) {e : ProxyEvent} (hl : p.LiveStart e) :
    p.Relays pb e := by
  refine ⟨fun d hd => (h.call hl hd).running, ?_⟩
  by_cases he : ∃ m now, e = .read m now
  · obtain ⟨m, now, rfl⟩ := he
    exact h.relays_read pb m now
  · have hpassed : p.passed pb e = [] := by
      cases e with
      | read m now => exact absurd ⟨m, now, rfl⟩ he
      | _ => rfl
    rw [hpassed, relayed_of_not_read fun m now hr => he ⟨m, now, hr⟩]
    exact ⟨fun f hf => absurd hf List.not_mem_nil, .nil⟩

theorem relayInv_initial (handlers : Int32 → Option (SourceApiHandler SourceData))
    (streamName : String) (clientInfo : StreamClientInfo) :
    (initial handlers streamName clientInfo).RelayInv := by
  refine ⟨(lifeInv_initial handlers streamName clientInfo).toFlags, ?_, fun _ h => ?_, fun h => ?_⟩
  · show 0 = (int32OfSize 0).toNat
    rw [int32OfSize_eq (Nat.two_pow_pos 31)]
    rfl
  · cases h
  · cases h

variable (pb) in
/-- **The proxy relays every frame it accepts** in a run in which each `Start` that begins finds
live metadata in the sink: at every step, and as the whole sequence of frames. -/
theorem relays_of_liveStart (handlers : Int32 → Option (SourceApiHandler SourceData))
    (streamName : String) (clientInfo : StreamClientInfo) (es : List ProxyEvent)
    (hl : Run.Each (proxyStep pb) LiveStart (initial handlers streamName clientInfo) es) :
    Run.Each (proxyStep pb) (Relays pb) (initial handlers streamName clientInfo) es ∧
      List.Forall₂ (Carries pb)
        (Run.collect (proxyStep pb) (passed pb) (initial handlers streamName clientInfo) es)
        (Run.collect (proxyStep pb) (relayed pb) (initial handlers streamName clientInfo) es) := by
  have hstep : ∀ p e p', RelayInv p → LiveStart p e → proxyStep pb p e = some p' → RelayInv p' := by
    intro p e p' h hl he
    rw [proxyStep, Option.map_eq_some_iff] at he
    obtain ⟨d, hd, rfl⟩ := he
    exact h.call hl hd
  have h0 := relayInv_initial handlers streamName clientInfo
  refine ⟨Run.each_of_inv hstep (fun p e h hl => h.relays pb hl) hl h0, Run.forall₂_collect ?_⟩
  exact Run.each_of_inv hstep (fun p e h hl => (h.relays pb hl).2.2) hl h0

/-- A run that relays one frame of the back end. -/
def relayEvents : List ProxyEvent :=
  [.update (.reply StreamSink.oneSubStreamReply) 0, .start {},
   .read (StreamSource.publishedMsg wireProtobuf
     { info := { subStreamIndex := 0, ssrc := 7, frameType := .keyFrame }
       frameData := some [0xab], frameSize := 1 } {}) 3]

theorem relays_of_liveStart_relayEvents :
    (Run.collect (proxyStep wireProtobuf) (passed wireProtobuf) (initial (fun _ => none) "p" {})
      relayEvents).length = 1 ∧
    List.Forall₂ (Carries wireProtobuf)
      (Run.collect (proxyStep wireProtobuf) (passed wireProtobuf) (initial (fun _ => none) "p" {})
        relayEvents)
      (Run.collect (proxyStep wireProtobuf) (relayed wireProtobuf) (initial (fun _ => none) "p" {})
        relayEvents) := by
  refine ⟨by decide, (relays_of_liveStart wireProtobuf (fun _ => none) "p" {} relayEvents ?_).2⟩
  exact .cons rfl trivial (.cons rfl (fun _ => rfl) (.cons rfl trivial trivial))

/-- An OK reply for a stream that is not live. -/
def replayReply : ProtoCommonPacket :=
  { header := some { type := some .reply, code := some codeMetadata }
    body := some (wireProtobuf.metaRep.encode { playType := some .replay, ssrc := some 9 }) }

/-- Live metadata, then metadata that is not live, then `Start`: the sink runs with another ssrc
than the source. -/
theorem start_after_replay_not_relays :
    ¬ Run.Each (proxyStep wireProtobuf) (Relays wireProtobuf) (initial (fun _ => none) "p" {})
      [.update (.reply StreamSink.oneSubStreamReply) 0, .update (.reply replayReply) 0,
       .start {}] := by
  intro h
  have hsame := ((h.2 _ rfl).2 _ rfl).1.1 _ rfl rfl
  exact absurd hsame.2 (by decide)

end StreamProxySource

end StreamSwitch
