import StreamSwitch.Proxy.Source

/-!
# Starting and stopping the proxy

Three started flags in three objects: of the proxy, of its source and of its sink.

`lifecycle_consistent_iff`: along a run of calls on an initialised proxy the flags
agree, a `Start` or `Hearbeat` that fails after it began to start leaves neither
inner object running, and so do `Stop` and `Uninit`, if and only if no `Start`
starts the source and then fails to start the sink. `Start` returns in that case
without stopping the source, and `Stop` does nothing as the proxy is not started.
-/

namespace StreamSwitch

namespace StreamProxySource

/-- Neither inner object is running. -/
def Quiet (p : StreamProxySource) : Prop :=
  p.source.isStarted = false ∧ p.sink.isStarted = false

/-- The call begins to start the inner objects. -/
def BeginsToStart (p : StreamProxySource) : ProxyEvent → Prop
  | .start _ => p.Begins
  | .hearbeat env => p.Restarts env
  | _ => False

/-- The call stops the inner objects for good. -/
def IsStop : ProxyEvent → Prop
  | .stop | .uninit => True
  | _ => False

variable (pb : Protobuf)

/-- The flags agree after the call, and a failed start and a stop leave nothing running. -/
def Consistent (p : StreamProxySource) (e : ProxyEvent) : Prop :=
  ∀ d, p.call pb e = some d →
    (d.proxy.isStarted = true ↔ d.proxy.source.isStarted = true ∧ d.proxy.sink.isStarted = true) ∧
    (p.BeginsToStart e → d.ret ≠ .ok → d.proxy.Quiet) ∧
    (IsStop e → d.proxy.Quiet)

/-- Starting the source succeeds and starting the sink fails. -/
def PartialStart (p : StreamProxySource) (env : StartEnv) : Prop :=
  (StreamSource.start p.source env.source).1.code = .ok ∧ (p.sink.start env.sink).1.code ≠ .ok

/-- The call calls `Start` in the state `q`. -/
def StartsIn (p : StreamProxySource) : ProxyEvent → StreamProxySource → StartEnv → Prop
  | .start env, q, env' => q = p ∧ env' = env
  | .hearbeat env, q, env' => p.Restarts env ∧ env' = env.start ∧
    ∃ r, p.polled.stop.updateStreamMetaData pb env.metadata env.sendTime = .ok r ∧
      r.ret = .ok ∧ q = r.proxy
  | _, _, _ => False

/-- No `Start` of the call is partial. -/
def NotPartial (p : StreamProxySource) (e : ProxyEvent) : Prop :=
  ∀ q env, p.StartsIn pb e q env → q.Begins → ¬ q.PartialStart env

/-- What the calls keep of the flags, whatever fails in them. -/
structure Flags (p : StreamProxySource) : Prop where
  init : p.isInit = true → p.source.isInit = true ∧ p.sink.isInit = true
  started : p.isStarted = true → p.isInit = true
  sink : p.sink.isStarted = p.isStarted

/-- Between two calls, as long as no start is partial. -/
structure LifeInv (p : StreamProxySource) : Prop extends Flags p where
  source : p.source.isStarted = p.isStarted

variable {pb} {p : StreamProxySource} {d : Done}

theorem LifeInv.agree (h : p.LifeInv) :
    p.isStarted = true ↔ p.source.isStarted = true ∧ p.sink.isStarted = true := by
  rw [h.source, h.sink, and_self]

theorem LifeInv.quiet (h : p.LifeInv) (hs : p.isStarted = false) : p.Quiet :=
  ⟨h.source.trans hs, h.sink.trans hs⟩

theorem Flags.of_eq {q : StreamProxySource} (h : p.Flags) (hi : q.isInit = p.isInit)
    (hs : q.isStarted = p.isStarted) (hsi : q.source.isInit = p.source.isInit)
    (hki : q.sink.isInit = p.sink.isInit) (hks : q.sink.isStarted = p.sink.isStarted) :
    q.Flags :=
  ⟨fun h1 => ⟨hsi.trans (h.init (hi ▸ h1)).1, hki.trans (h.init (hi ▸ h1)).2⟩,
    fun h1 => hi.trans (h.started (hs ▸ h1)), hks.trans (h.sink.trans hs.symm)⟩

/-- Only the flags of the three objects matter. -/
theorem LifeInv.of_eq {q : StreamProxySource} (h : p.LifeInv) (hi : q.isInit = p.isInit)
    (hs : q.isStarted = p.isStarted) (hsi : q.source.isInit = p.source.isInit)
    (hss : q.source.isStarted = p.source.isStarted) (hki : q.sink.isInit = p.sink.isInit)
    (hks : q.sink.isStarted = p.sink.isStarted) : q.LifeInv :=
  ⟨h.toFlags.of_eq hi hs hsi hki hks, hss.trans (h.source.trans hs.symm)⟩

/-! ## The calls -/

theorem Flags.stop_isStarted (h : p.Flags) : p.stop.isStarted = false := by
  unfold StreamProxySource.stop
  split
  · next hi =>
    cases hs : p.isStarted with
    | false => rfl
    | true => simp [h.started hs] at hi
  · split
    · next hs => simpa using hs
    · rfl

theorem stop_isInit : p.stop.isInit = p.isInit := by
  unfold StreamProxySource.stop
  repeat' split
  all_goals rfl

theorem Flags.stop (h : p.Flags) : p.stop.Flags := by
  unfold StreamProxySource.stop
  split
  · exact h
  · next hi =>
    split
    · exact h
    · refine ⟨fun h1 => ⟨(h.init h1).1, ?_⟩, fun h1 => by simpa using hi, p.sink.stop_isStarted⟩
      rw [StreamSink.stop_isInit]
      exact (h.init h1).2

theorem LifeInv.stop (h : p.LifeInv) : p.stop.LifeInv := by
  refine ⟨h.toFlags.stop, ?_⟩
  unfold StreamProxySource.stop
  split
  · exact h.source
  · split
    · exact h.source
    · rfl

theorem Flags.uninit_isStarted (h : p.Flags) : p.uninit.isStarted = false := by
  unfold StreamProxySource.uninit
  split
  · next hi =>
    cases hs : p.isStarted with
    | false => rfl
    | true => simp [h.started hs] at hi
  · exact h.stop_isStarted

/-- `Uninit` leaves neither inner object running. -/
theorem uninit_quiet (h : p.Flags) (hi : p.isInit = true) : p.uninit.Quiet := by
  obtain ⟨h1, h2⟩ := h.stop.init (stop_isInit.trans hi)
  obtain ⟨w, hsink⟩ := p.stop.sink.uninit_eq h2
  unfold StreamProxySource.uninit
  rw [if_neg (by simp [hi])]
  constructor
  · show (StreamSource.uninit p.stop.source).isStarted = false
    unfold StreamSource.uninit
    rw [if_neg (by simp [h1])]
    rfl
  · show p.stop.sink.uninit.isStarted = false
    rw [hsink]

theorem uninit_of_not_init (hi : p.isInit = false) : p.uninit = p := by
  simp [StreamProxySource.uninit, hi]

theorem uninit_isInit : p.uninit.isInit = false := by
  unfold StreamProxySource.uninit
  split
  · next hi => simpa using hi
  · rfl

theorem Flags.uninit (h : p.Flags) : p.uninit.Flags := by
  cases hi : p.isInit with
  | false => rwa [uninit_of_not_init hi]
  | true =>
    have hs := h.uninit_isStarted
    refine ⟨fun h1 => ?_, fun h1 => ?_, (uninit_quiet h hi).2.trans hs.symm⟩
    · rw [uninit_isInit] at h1
      cases h1
    · rw [hs] at h1
      cases h1

theorem LifeInv.uninit (h : p.LifeInv) : p.uninit.LifeInv := by
  cases hi : p.isInit with
  | false => rwa [uninit_of_not_init hi]
  | true => exact ⟨h.toFlags.uninit, (uninit_quiet h.toFlags hi).1.trans h.uninit_isStarted.symm⟩

/-- An update changes no flag of the three objects but META_READY. -/
theorem update_flags {rpc : RpcOutcome} {sendTime : Int64}
    (hd : p.updateStreamMetaData pb rpc sendTime = .ok d) :
    d.proxy.isInit = p.isInit ∧ d.proxy.isStarted = p.isStarted ∧
      d.proxy.source.isInit = p.source.isInit ∧ d.proxy.source.isStarted = p.source.isStarted ∧
      d.proxy.sink.isInit = p.sink.isInit ∧ d.proxy.sink.isStarted = p.sink.isStarted := by
  rcases updateStreamMetaData_cases hd with
    ⟨-, st, seq, he⟩ | ⟨-, -, rep, -, -, st, he⟩ | ⟨-, -, -, rep, -, -, source, hsrc, he⟩
  · rw [he]
    exact ⟨rfl, rfl, rfl, rfl, rfl, rfl⟩
  · rw [he]
    exact ⟨rfl, rfl, rfl, rfl, rfl, rfl⟩
  · rw [he, StreamSource.setStreamMeta_user hsrc]
    exact ⟨rfl, rfl, rfl, rfl, rfl, rfl⟩

theorem Flags.update (h : p.Flags) {rpc : RpcOutcome} {sendTime : Int64}
    (hd : p.updateStreamMetaData pb rpc sendTime = .ok d) : d.proxy.Flags := by
  obtain ⟨h1, h2, h3, -, h5, h6⟩ := update_flags hd
  exact h.of_eq h1 h2 h3 h5 h6

theorem LifeInv.update (h : p.LifeInv) {rpc : RpcOutcome} {sendTime : Int64}
    (hd : p.updateStreamMetaData pb rpc sendTime = .ok d) : d.proxy.LifeInv := by
  obtain ⟨h1, h2, h3, h4, h5, h6⟩ := update_flags hd
  exact h.of_eq h1 h2 h3 h4 h5 h6

variable (pb) in
theorem Flags.start (h : p.Flags) (env : StartEnv) : (p.start pb env).proxy.Flags := by
  have hsink : p.Begins → p.source.isInit = true ∧ (p.sink.start env.sink).2.isInit = true ∧
      (((p.sink.start env.sink).1.code ≠ .ok ∧ (p.sink.start env.sink).2.isStarted = false) ∨
       ((p.sink.start env.sink).1.code = .ok ∧ (p.sink.start env.sink).2.isStarted = true)) := by
    intro hb
    obtain ⟨hsi, hki⟩ := h.init hb.1
    exact ⟨hsi, (p.sink.start_isInit env.sink).trans hki, p.sink.start_code env.sink hki⟩
  rcases start_cases pb p env with ⟨hb, he⟩ | ⟨hb, -, hret, st, he⟩ | ⟨hb, -, hk, -, st, he⟩ |
    ⟨hb, hk, hret, st, he⟩
  · rwa [he]
  · rw [he]
    exact h.of_eq rfl rfl rfl rfl rfl
  · obtain ⟨hsi, hki, hc⟩ := hsink hb
    rw [he]
    refine ⟨fun _ => ⟨hsi, hki⟩, h.started, ?_⟩
    rcases hc with ⟨-, hs⟩ | ⟨hok, -⟩
    · exact hs.trans hb.2.2.symm
    · exact absurd hok hk
  · obtain ⟨hsi, hki, hc⟩ := hsink hb
    rw [he]
    refine ⟨fun _ => ⟨hsi, hki⟩, fun _ => hb.1, ?_⟩
    rcases hc with ⟨hne, -⟩ | ⟨-, hs⟩
    · exact absurd hk hne
    · exact hs

/-- A `Start` that is not partial keeps the flags in step. -/
theorem LifeInv.start (h : p.LifeInv) {env : StartEnv} (hp : p.Begins → ¬ p.PartialStart env) :
    (p.start pb env).proxy.LifeInv ∧
      (p.Begins → (p.start pb env).ret ≠ .ok → (p.start pb env).proxy.Quiet) := by
  have hflags := h.toFlags.start pb env
  rcases start_cases pb p env with ⟨hb, he⟩ | ⟨hb, -, hret, st, he⟩ | ⟨hb, h1, h2, -⟩ |
    ⟨hb, hk, hret, st, he⟩
  · rw [he]
    exact ⟨h, fun h1 => absurd h1 hb⟩
  · have hinv : (p.start pb env).proxy.LifeInv := by
      refine ⟨hflags, ?_⟩
      rw [he]
      exact h.source
    refine ⟨hinv, fun _ _ => hinv.quiet ?_⟩
    rw [he]
    exact hb.2.2
  · exact absurd ⟨h1, h2⟩ (hp hb)
  · refine ⟨⟨hflags, ?_⟩, fun _ hne => absurd hret hne⟩
    rw [he]
    rfl

/-- Taking the flags of the listener and asking for a key frame changes none of these flags. -/
theorem polled_sink : ∃ seq, p.polled.sink = { p.sink with nextSeq := seq } := by
  unfold StreamProxySource.polled
  simp only
  split
  · exact ⟨_, rfl⟩
  · exact ⟨p.sink.nextSeq, rfl⟩

theorem Flags.polled (h : p.Flags) : p.polled.Flags := by
  obtain ⟨seq, hs⟩ := polled_sink (p := p)
  exact h.of_eq rfl rfl rfl (by rw [hs]) (by rw [hs])

theorem LifeInv.polled (h : p.LifeInv) : p.polled.LifeInv := ⟨h.toFlags.polled, h.source⟩

/-- After a restart's update the proxy begins to start. -/
theorem begins_of_update (hs : p.isStarted = false) {rpc : RpcOutcome}
    {sendTime : Int64} (hd : p.updateStreamMetaData pb rpc sendTime = .ok d) (hok : d.ret = .ok) :
    d.proxy.Begins := by
  rcases updateStreamMetaData_cases hd with ⟨hne, -⟩ | ⟨hne, -⟩ |
    ⟨-, hi, -, rep, -, -, source, -, he⟩
  · exact absurd hok hne
  · exact absurd hok hne
  · rw [he]
    exact ⟨hi, rfl, hs⟩

/-- A restart whose `Start` is not partial. -/
theorem LifeInv.restart (h : p.LifeInv) {env : HearbeatEnv}
    (hp : ∀ r, p.stop.updateStreamMetaData pb env.metadata env.sendTime = .ok r → r.ret = .ok →
      r.proxy.Begins → ¬ r.proxy.PartialStart env.start)
    (hd : p.restart pb env = .ok d) : d.proxy.LifeInv ∧ (d.ret ≠ .ok → d.proxy.Quiet) := by
  obtain ⟨r, hr, hc⟩ := restart_cases hd
  have hinv := h.stop.update hr
  rcases hc with ⟨hne, rfl⟩ | ⟨hok, hret, hproxy⟩
  · exact ⟨hinv, fun _ => hinv.quiet ((update_flags hr).2.1.trans h.stop_isStarted)⟩
  · obtain ⟨h1, h2⟩ := hinv.start (hp r hr hok)
    rw [hret, hproxy]
    exact ⟨h1, h2 (begins_of_update h.stop_isStarted hr hok)⟩

/-- A callback of the sink changes no flag. -/
theorem callback_flags {cb : SinkCallback} {now : Int} (hi : p.source.isInit = true)
    (h : p.callback pb now cb = .ok d) :
    ∃ user recv upd, d.proxy = { p with
      source := { p.source with user := user }
      lastFrameRecv := recv
      needUpdateMetadata := upd } := by
  cases cb with
  | onLiveMediaFrame info data size =>
    simp only [callback, onLiveMediaFrame] at h
    cases hs : StreamSource.sendLiveMediaFrame pb p.source ⟨info, data, size⟩ with
    | error fault => rw [hs] at h; cases h
    | ok sent =>
      rw [hs] at h
      cases h
      rcases StreamSource.sendLiveMediaFrame_cases hi hs with ⟨-, -, h3, -⟩ | ⟨-, -, st, -, h3, -⟩
      · exact ⟨p.source.user, now, p.needUpdateMetadata, by simp only [h3]⟩
      · exact ⟨_, now, p.needUpdateMetadata, by simp only [h3]; rfl⟩
  | onMetadataMismatch ssrc =>
    cases h
    exact ⟨p.source.user, p.lastFrameRecv, true, rfl⟩
  | subHandler id msg blob =>
    cases h
    exact ⟨p.source.user, p.lastFrameRecv, p.needUpdateMetadata, rfl⟩

theorem callbacks_flags {cbs : List SinkCallback} {now : Int} (hi : p.source.isInit = true)
    (h : p.callbacks pb now cbs = .ok d) :
    ∃ user recv upd, d.proxy = { p with
      source := { p.source with user := user }
      lastFrameRecv := recv
      needUpdateMetadata := upd } := by
  induction cbs generalizing p d with
  | nil =>
    cases h
    exact ⟨p.source.user, p.lastFrameRecv, p.needUpdateMetadata, rfl⟩
  | cons cb cbs ih =>
    unfold callbacks at h
    cases hcb : p.callback pb now cb with
    | error fault => rw [hcb] at h; cases h
    | ok r =>
      rw [hcb] at h
      simp only at h
      cases hrest : r.proxy.callbacks pb now cbs with
      | error fault => rw [hrest] at h; cases h
      | ok r' =>
        rw [hrest] at h
        cases h
        obtain ⟨user, recv, upd, he⟩ := callback_flags hi hcb
        obtain ⟨user', recv', upd', he'⟩ := ih (by rw [he]; exact hi) hrest
        exact ⟨user', recv', upd', by rw [he', he]⟩

/-- A received message changes counters, the listener's flags and the data of the source. -/
theorem read_eq (hi : p.source.isInit = true) {m : PublishMsg} {now : Int}
    (hd : p.onSubRead pb m now = .ok d) :
    ∃ statistic ssrc user recv upd, d.proxy = { p with
      sink := { p.sink with statistic := statistic, lastFrameSsrc := ssrc }
      source := { p.source with user := user }
      lastFrameRecv := recv
      needUpdateMetadata := upd } := by
  unfold onSubRead at hd
  cases hr : p.sink.onSubRead pb m with
  | error fault => rw [hr] at hd; cases hd
  | ok r =>
    rw [hr] at hd
    obtain ⟨statistic, ssrc, hsink⟩ := StreamSink.onSubRead_sink hr
    obtain ⟨user, recv, upd, he⟩ := callbacks_flags (p := { p with sink := r.sink }) hi hd
    exact ⟨statistic, ssrc, user, recv, upd, by rw [he, hsink]⟩

/-- The worker thread reads only while everything is initialised. -/
theorem Flags.source_isInit (h : p.Flags) (hs : p.sink.isStarted = true) :
    p.source.isInit = true :=
  (h.init (h.started (h.sink ▸ hs))).1

theorem LifeInv.read (h : p.LifeInv) (hs : p.sink.isStarted = true) {m : PublishMsg} {now : Int}
    (hd : p.onSubRead pb m now = .ok d) : d.proxy.LifeInv := by
  obtain ⟨statistic, ssrc, user, recv, upd, he⟩ := read_eq (h.source_isInit hs) hd
  rw [he]
  exact h.of_eq rfl rfl rfl rfl rfl rfl

theorem call_update {rpc : RpcOutcome} {t : Int64} (h : p.call pb (.update rpc t) = some d) :
    p.updateStreamMetaData pb rpc t = .ok d := by
  simp only [call] at h
  cases hr : p.updateStreamMetaData pb rpc t with
  | error fault => rw [hr] at h; cases h
  | ok r => rw [hr] at h; cases h; rfl

theorem call_hearbeat {env : HearbeatEnv} (h : p.call pb (.hearbeat env) = some d) :
    p.hearbeat pb env = .ok d := by
  simp only [call] at h
  cases hr : p.hearbeat pb env with
  | error fault => rw [hr] at h; cases h
  | ok r => rw [hr] at h; cases h; rfl

theorem call_read {m : PublishMsg} {now : Int} (h : p.call pb (.read m now) = some d) :
    p.sink.isStarted = true ∧ p.onSubRead pb m now = .ok d := by
  simp only [call] at h
  split at h
  · next hs =>
    cases hr : p.onSubRead pb m now with
    | error fault => rw [hr] at h; cases h
    | ok r => rw [hr] at h; cases h; exact ⟨hs, rfl⟩
  · cases h

/-- A call without a partial start keeps the flags in step, and leaves nothing running where it
should not. -/
theorem LifeInv.call (h : p.LifeInv) {e : ProxyEvent} (hp : p.NotPartial pb e)
    (hd : p.call pb e = some d) :
    d.proxy.LifeInv ∧ (p.BeginsToStart e → d.ret ≠ .ok → d.proxy.Quiet) ∧
      (IsStop e → d.proxy.Quiet) := by
  cases e with
  | update rpc t => exact ⟨h.update (call_update hd), fun hb => hb.elim, fun hs => hs.elim⟩
  | start env =>
    cases hd
    obtain ⟨h1, h2⟩ := h.start (hp p env ⟨rfl, rfl⟩)
    exact ⟨h1, h2, fun hs => hs.elim⟩
  | stop =>
    cases hd
    exact ⟨h.stop, fun hb => hb.elim, fun _ => h.stop.quiet h.stop_isStarted⟩
  | hearbeat env =>
    rcases hearbeat_cases (call_hearbeat hd) with ⟨hn, seq, st, b, he⟩ | ⟨hr, hd'⟩
    · rw [he]
      exact ⟨h.of_eq rfl rfl rfl rfl rfl rfl, fun hr => absurd hr hn, fun hs => hs.elim⟩
    · obtain ⟨h1, h2⟩ := h.polled.restart (fun r hu hok =>
        hp r.proxy env.start ⟨hr, rfl, r, hu, hok, rfl⟩) hd'
      exact ⟨h1, fun _ => h2, fun hs => hs.elim⟩
  | uninit =>
    cases hd
    exact ⟨h.uninit, fun hb => hb.elim, fun _ => h.uninit.quiet h.uninit_isStarted⟩
  | onKeyFrame =>
    cases hd
    exact ⟨h.of_eq rfl rfl rfl rfl rfl rfl, fun hb => hb.elim, fun hs => hs.elim⟩
  | read m now =>
    obtain ⟨hs, hr⟩ := call_read hd
    exact ⟨h.read hs hr, fun hb => hb.elim, fun hs => hs.elim⟩

variable (pb) in
/-- A partial start leaves the source running. -/
theorem start_of_partial {env : StartEnv} (hb : p.Begins) (hp : p.PartialStart env) :
    (p.start pb env).ret ≠ .ok ∧ ¬ (p.start pb env).proxy.Quiet := by
  rcases start_cases pb p env with ⟨hb', -⟩ | ⟨-, h1, -⟩ | ⟨-, -, -, hret, st, he⟩ | ⟨-, hk, -⟩
  · exact absurd hb hb'
  · exact absurd hp.1 h1
  · refine ⟨hret, fun hq => ?_⟩
    have hs := hq.1
    rw [he] at hs
    cases hs
  · exact absurd hk hp.2

variable (pb) in
/-- A call on a proxy whose flags agree is consistent exactly when no `Start` in it is partial. -/
theorem consistent_iff_notPartial (h : p.LifeInv) (e : ProxyEvent) :
    p.Consistent pb e ↔ p.NotPartial pb e := by
  constructor
  · intro hc q env hs hb hp
    obtain ⟨hret, hq⟩ := start_of_partial pb hb hp
    cases e with
    | start env' =>
      obtain ⟨rfl, rfl⟩ := hs
      exact hq ((hc _ rfl).2.1 hb hret)
    | hearbeat env' =>
      obtain ⟨hr, rfl, r, hu, hok, rfl⟩ := hs
      have hcall : p.call pb (.hearbeat env') = some
          { r.proxy.start pb env'.start with
            published := r.published ++ (r.proxy.start pb env'.start).published } := by
        simp only [StreamProxySource.call, hearbeat_of_restarts hr, StreamProxySource.restart, hu,
          hok, ne_eq, not_true_eq_false, if_false]
        rfl
      exact hq ((hc _ hcall).2.1 hr hret)
    | _ => exact hs
  · intro hp d hd
    obtain ⟨h1, h2, h3⟩ := h.call hp hd
    exact ⟨h1.agree, h2, h3⟩

theorem lifeInv_initial (handlers : Int32 → Option (SourceApiHandler SourceData))
    (streamName : String) (clientInfo : StreamClientInfo) :
    (initial handlers streamName clientInfo).LifeInv := by
  refine ⟨⟨fun _ => ⟨rfl, rfl⟩, fun h => ?_, rfl⟩, rfl⟩
  cases h

variable (pb) in
/-- **The proxy and its inner objects start and stop together** along every run of calls exactly
when no `Start`, also of a `Hearbeat`, starts the source and then fails to start the sink. -/
theorem lifecycle_consistent_iff (handlers : Int32 → Option (SourceApiHandler SourceData))
    (streamName : String) (clientInfo : StreamClientInfo) (es : List ProxyEvent) :
    Run.Each (proxyStep pb) (Consistent pb) (initial handlers streamName clientInfo) es ↔
      Run.Each (proxyStep pb) (NotPartial pb) (initial handlers streamName clientInfo) es := by
  refine Run.each_iff ?_ (fun p e h => consistent_iff_notPartial pb h e)
    (lifeInv_initial handlers streamName clientInfo)
  intro p e p' h hp he
  rw [proxyStep, Option.map_eq_some_iff] at he
  obtain ⟨d, hd, rfl⟩ := he
  exact (h.call hp hd).1

/-- Live metadata arrives, then the thread of the sink cannot be created: the source is left
running. -/
theorem partial_start_not_consistent :
    ¬ Run.Each (proxyStep wireProtobuf) (Consistent wireProtobuf) (initial (fun _ => none) "p" {})
      [.update (.reply StreamSink.oneSubStreamReply) 0,
       .start { sink := { thread := some "Resource temporarily unavailable" } }] := by
  intro h
  have hstart := (h.2 _ rfl).1
  have hq := (hstart _ rfl).2.1 ⟨rfl, rfl, rfl⟩ (by decide)
  exact absurd hq.1 (by decide)

end StreamProxySource

end StreamSwitch
