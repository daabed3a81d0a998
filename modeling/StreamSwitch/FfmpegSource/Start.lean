import StreamSwitch.FfmpegSource.Cache
import StreamSwitch.Source.Lifecycle

/-!
# Starting and stopping the ffmpeg source

`Init`, `Uninit`, `Start` and `Stop` of `stsw_ffmpeg_demuxer_source.cc`. The five failures of
`Start` leave through three stacked labels that share `ret`.

`start_all_or_nothing_iff`: whatever was done with an object before, a `Start` of it while it is
stopped leaves everything running and returns 0, or nothing running and an error, except where the
input can be opened and read and is not live: there `ret` still holds the 0 of `ReadMeta`.
-/

namespace StreamSwitch.Ffmpeg

open Run

structure FFmpegDemuxerSource where
  nativeFrameRate : Bool := false
  isStarted : Bool := false
  /-- `live_thread_id_` is not 0. -/
  liveThread : Bool := false
  streamMeta : StreamMetadata := {}
  demuxer : FFmpegDemuxer := {}
  source : StreamSource := StreamSource.constructed

/-- What the libraries and the system answer to the calls that `Start` makes. -/
structure StartCall where
  /-- The play mode of it is chosen by `Start`. -/
  openCall : OpenCall
  /-- The turns of `ReadMeta` before it times out. -/
  turns : Nat
  source : StreamSource.StartEnv := {}
  /-- `pthread_create` succeeds. -/
  thread : Bool := true
  sendTime : Int64 := 0

/-- What `Init` is called with, and the answers of the system. -/
structure InitCall where
  streamName : String
  nativeFrameRate : Bool := false
  /-- `sigaction` succeeds. -/
  handlerInstalled : Bool := true
  /-- The error of `Init` of the source. -/
  failure : Option String := none

namespace FFmpegDemuxerSource

/-! ## Start -/

section start
variable (pb : Protobuf) (o : FFmpegDemuxerSource) (c : StartCall)

def setStreamState (streamState : SourceStreamState) : FFmpegDemuxerSource :=
  { o with source := (StreamSource.setStreamState pb o.source streamState c.sendTime).1 }

/-- The label `err_out2`. -/
def errOut2 : FFmpegDemuxerSource := { o with demuxer := o.demuxer.close }

/-- The label `err_out3`. -/
def errOut3 : FFmpegDemuxerSource := { o with source := StreamSource.stop o.source }.errOut2

/-- `Start` once the source is started. -/
def startThread : Option (FFmpegSourceErrCode × FFmpegDemuxerSource) :=
  let o := { o.setStreamState pb c .ok with isStarted := true }
  if c.thread then some (.ok, { o with liveThread := true })
  else
    let o := { o with isStarted := false, liveThread := false }
    some (.general, (o.setStreamState pb c .err).errOut3)

/-- `Start` once the metadata is read. -/
def startSource : Option (FFmpegSourceErrCode × FFmpegDemuxerSource) :=
  if o.streamMeta.playType = .replay then
    -- `ret` is the 0 of `ReadMeta`
    some (.ok, (o.setStreamState pb c .err).errOut2)
  else
    match StreamSource.setStreamMeta o.source o.streamMeta with
    | .error _ => none
    | .ok source =>
      let (ret, source) := StreamSource.start source c.source
      let o := { o with source := source }
      if ret.code = .ok then o.startThread pb c
      else some (.general, (o.setStreamState pb c .err).errOut2)

/-- `Start` once the demuxer is open. -/
def startMeta : Option (FFmpegSourceErrCode × FFmpegDemuxerSource) :=
  match o.demuxer.readMeta c.turns with
  | none => none
  | some (d, .ok) => { o with demuxer := d, streamMeta := d.metadata }.startSource pb c
  | some (d, ret) => some (ret, ({ o with demuxer := d }.setStreamState pb c .err).errOut2)

/-- Without the native frame rate an input that has a length is not live. -/
def openCall : OpenCall :=
  { c.openCall with playMode := if o.nativeFrameRate then .live else .auto }

/-- `Start`. A call that leaves the memory it may use has no result. -/
def start : Option (FFmpegSourceErrCode × FFmpegDemuxerSource) :=
  if o.isStarted then some (.ok, o)
  else
    let o := o.setStreamState pb c .connecting
    let o := { o with demuxer := { o.demuxer with ioEnabled := true } }
    match o.demuxer.openInput (o.openCall c) with
    | none => none
    | some (d, .ok) => { o with demuxer := d }.startMeta pb c
    | some (d, ret) => some (ret, { o with demuxer := d }.setStreamState pb c .errConnectFail)

end start

/-- `Stop`, with the live thread joined. -/
def stop (o : FFmpegDemuxerSource) : FFmpegDemuxerSource :=
  if o.isStarted then
    { o with
      isStarted := false
      liveThread := false
      source := StreamSource.stop o.source
      demuxer := { o.demuxer with ioEnabled := true }.close }
  else o

/-- `Init`. -/
def init (pb : ApiProtobuf) (env : SourceEnv) (o : FFmpegDemuxerSource) (c : InitCall) :
    FFmpegSourceErrCode × FFmpegDemuxerSource :=
  if c.handlerInstalled then
    let (ret, source) := StreamSource.init pb env o.source c.streamName c.failure
    let o := { o with source := source }
    if ret.code = .ok then (.ok, { o with nativeFrameRate := c.nativeFrameRate })
    else (.general, o)
  else (.general, o)

def uninit (o : FFmpegDemuxerSource) : FFmpegDemuxerSource :=
  { o with nativeFrameRate := false, source := StreamSource.uninit o.source }

end FFmpegDemuxerSource

/-! ## All or nothing -/

/-- The state tells the clients of an error. -/
def IsErrorState (streamState : SourceStreamState) : Prop :=
  streamState ≠ .connecting ∧ streamState ≠ .ok

namespace FFmpegDemuxerSource

/-- Everything runs. -/
structure Running (o : FFmpegDemuxerSource) : Prop where
  isStarted : o.isStarted = true
  source : o.source.isStarted = true
  demuxer : o.demuxer.fmtCtx ≠ none

/-- Nothing runs. -/
structure Halted (o : FFmpegDemuxerSource) : Prop where
  isStarted : o.isStarted = false
  source : o.source.isStarted = false
  demuxer : o.demuxer.fmtCtx = none

/-- A `Start` that returned `ret` and left `o`. -/
structure AllOrNothing (ret : FFmpegSourceErrCode) (o : FFmpegDemuxerSource) : Prop where
  started : ret = .ok ↔ o.Running
  failed : ret ≠ .ok → o.Halted ∧ IsErrorState o.source.user.streamState

/-- The input can be opened, its metadata can be read, and it is not live. -/
def ReplayInput (o : FFmpegDemuxerSource) (c : StartCall) : Prop :=
  ∃ d d', { o.demuxer with ioEnabled := true }.openInput (o.openCall c) = some (d, .ok) ∧
    d.readMeta c.turns = some (d', .ok) ∧ d'.metadata.playType = .replay

variable {pb : Protobuf} {o o' : FFmpegDemuxerSource} {c : StartCall} {ret : FFmpegSourceErrCode}

/-! ### The demuxer and the source -/

@[simp] theorem fmtCtx_close (d : FFmpegDemuxer) : d.close.fmtCtx = none := by
  unfold FFmpegDemuxer.close
  split
  · assumption
  · rfl

/-- An `Open` that fails leaves a closed demuxer closed. -/
theorem closed_of_openInput {d d' : FFmpegDemuxer} {call : OpenCall} (hd : d.fmtCtx = none)
    (h : d.openInput call = some (d', ret)) (hret : ret ≠ .ok) : d'.fmtCtx = none := by
  unfold FFmpegDemuxer.openInput at h
  split at h
  · simp only at h
    split at h
    · split at h
      · split at h
        · cases h
          rfl
        · split at h
          · unfold FFmpegDemuxer.openStreams at h
            simp only at h
            split at h
            · obtain ⟨⟨subs', ps⟩, -, h⟩ := Option.map_eq_some_iff.1 h
              cases ps with
              | none =>
                cases h
                rfl
              | some parsers =>
                cases h
                exact absurd rfl hret
            · cases h
              rfl
          · cases h
            rfl
      · cases h
        rfl
    · cases h
      exact hd
  · cases h
    exact hd

theorem open_of_openInput {d d' : FFmpegDemuxer} {call : OpenCall}
    (h : d.openInput call = some (d', .ok)) : d'.fmtCtx ≠ none := by
  obtain ⟨ctx, subs, subs', parsers, -, -, -, rfl⟩ := FFmpegDemuxer.openInput_ok h
  exact Option.some_ne_none ctx

theorem open_of_readMeta {d d' : FFmpegDemuxer} {turns : Nat} (hd : d.fmtCtx ≠ none)
    (h : d.readMeta turns = some (d', ret)) : d'.fmtCtx ≠ none := by
  unfold FFmpegDemuxer.readMeta at h
  split at h
  · cases h
    exact hd
  · split at h
    · exact FFmpegDemuxer.readMetaLoop_inv (fun d => d.fmtCtx ≠ none)
        (fun _ frames h => open_withFrames h frames) (fun _ _ _ _ h _ ho => open_parse h ho) h hd
    · cases h
      exact hd

/-- What `set_stream_state` does to an object whose source is initialised. -/
theorem setStreamState_eq (hinit : o.source.isInit = true) (streamState : SourceStreamState) :
    o.setStreamState pb c streamState =
      { o with source := StreamSource.withState o.source streamState } := by
  have hset : ¬(!o.source.isInit) = true := by simp [hinit]
  unfold setStreamState StreamSource.setStreamState
  rw [if_neg hset]
  rfl

theorem setStreamMeta_keeps {s s' : StreamSource} {m : StreamMetadata}
    (h : StreamSource.setStreamMeta s m = .ok s') :
    s'.isInit = s.isInit ∧ s'.isStarted = s.isStarted := by
  unfold StreamSource.setStreamMeta at h
  simp only at h
  split at h
  · split at h
    · cases h
    · cases h
      exact ⟨rfl, rfl⟩
  · cases h
    exact ⟨rfl, rfl⟩

/-! ### The stages of Start -/

/-- The source is initialised, and neither it nor the object runs. -/
structure Idle (o : FFmpegDemuxerSource) : Prop where
  init : o.source.isInit = true
  isStarted : o.isStarted = false
  source : o.source.isStarted = false

theorem isErrorState_err : IsErrorState .err := ⟨nofun, nofun⟩

/-- `err_out2` behind an error state. -/
theorem Idle.errOut2 (h : o.Idle) :
    (o.setStreamState pb c .err).errOut2.Halted ∧
      IsErrorState (o.setStreamState pb c .err).errOut2.source.user.streamState := by
  rw [setStreamState_eq h.init]
  exact ⟨⟨h.isStarted, h.source, fmtCtx_close _⟩, isErrorState_err⟩

theorem not_running_of_halted (h : o.Halted) : ¬ o.Running := by
  intro hr
  cases h.isStarted.symm.trans hr.isStarted

/-- A failure that has cleaned up. -/
theorem AllOrNothing.of_halted (h : o.Halted) (hstate : IsErrorState o.source.user.streamState)
    (hret : ret ≠ .ok) : AllOrNothing ret o :=
  ⟨iff_of_false hret (not_running_of_halted h), fun _ => ⟨h, hstate⟩⟩

theorem startThread_spec (hinit : o.source.isInit = true) (hsource : o.source.isStarted = true)
    (hopen : o.demuxer.fmtCtx ≠ none) (h : o.startThread pb c = some (ret, o')) :
    AllOrNothing ret o' := by
  unfold startThread at h
  simp only at h
  rw [setStreamState_eq hinit] at h
  split at h
  · cases h
    exact ⟨iff_of_true rfl ⟨rfl, hsource, hopen⟩, fun hne => absurd rfl hne⟩
  · cases h
    rw [setStreamState_eq (by exact hinit)]
    exact .of_halted ⟨rfl, rfl, fmtCtx_close _⟩ isErrorState_err nofun

theorem startSource_spec (ho : o.Idle) (hopen : o.demuxer.fmtCtx ≠ none)
    (h : o.startSource pb c = some (ret, o')) :
    (o.streamMeta.playType = .replay ∧ ret = .ok ∧ o'.Halted) ∨
      (o.streamMeta.playType ≠ .replay ∧ AllOrNothing ret o') := by
  unfold startSource at h
  split at h
  · rename_i hreplay
    cases h
    exact .inl ⟨hreplay, rfl, ho.errOut2.1⟩
  · rename_i hlive
    refine .inr ⟨hlive, ?_⟩
    split at h
    · cases h
    · rename_i source hmeta
      obtain ⟨hinit, hstarted⟩ := setStreamMeta_keeps hmeta
      simp only at h
      rcases StreamSource.start_cases source c.source with ⟨hcode, heq⟩ | ⟨hcode, heq⟩
      · rw [if_neg hcode, heq] at h
        cases h
        have hidle : Idle { o with source := source } :=
          ⟨hinit.trans ho.init, ho.isStarted, hstarted.trans ho.source⟩
        obtain ⟨hhalted, hstate⟩ := hidle.errOut2
        exact .of_halted hhalted hstate nofun
      · rw [if_pos hcode, heq] at h
        have hinit' : { source with isStarted := true }.isInit = true := hinit.trans ho.init
        exact startThread_spec (o := { o with source := { source with isStarted := true } })
          hinit' rfl hopen h

theorem startMeta_spec (ho : o.Idle) (hopen : o.demuxer.fmtCtx ≠ none)
    (h : o.startMeta pb c = some (ret, o')) :
    ((∃ d, o.demuxer.readMeta c.turns = some (d, .ok) ∧ d.metadata.playType = .replay) ∧
        ret = .ok ∧ o'.Halted) ∨
      ((∀ d, o.demuxer.readMeta c.turns = some (d, .ok) → d.metadata.playType ≠ .replay) ∧
        AllOrNothing ret o') := by
  unfold startMeta at h
  split at h
  · cases h
  · rename_i d hmeta
    have hidle : Idle { o with demuxer := d, streamMeta := d.metadata } :=
      ⟨ho.init, ho.isStarted, ho.source⟩
    rcases startSource_spec hidle (open_of_readMeta hopen hmeta) h with ⟨hplay, hret⟩ | ⟨hplay, hall⟩
    · exact .inl ⟨⟨d, hmeta, hplay⟩, hret⟩
    · refine .inr ⟨fun d' hd' => ?_, hall⟩
      rw [hmeta] at hd'
      cases hd'
      exact hplay
  · rename_i d ret hfail hmeta
    cases h
    refine .inr ⟨fun d' hd' => ?_, ?_⟩
    · rw [hmeta] at hd'
      cases hd'
      exact absurd rfl hfail
    · have hidle : Idle { o with demuxer := d } := ⟨ho.init, ho.isStarted, ho.source⟩
      obtain ⟨hhalted, hstate⟩ := hidle.errOut2
      exact .of_halted hhalted hstate hfail

/-- What a `Start` of an object that is not started does. -/
theorem start_spec (ho : o.Idle) (hclosed : o.demuxer.fmtCtx = none)
    (h : o.start pb c = some (ret, o')) :
    (o.ReplayInput c ∧ ret = .ok ∧ o'.Halted) ∨ (¬ o.ReplayInput c ∧ AllOrNothing ret o') := by
  unfold start at h
  rw [if_neg (by rw [ho.isStarted]; decide), setStreamState_eq ho.init] at h
  simp only at h
  split at h
  · cases h
  · rename_i d hd
    have hidle : Idle { o with
        source := StreamSource.withState o.source .connecting, demuxer := d } :=
      ⟨ho.init, ho.isStarted, ho.source⟩
    rcases startMeta_spec hidle (open_of_openInput hd) h with ⟨⟨d', hmeta, hplay⟩, hret⟩ | ⟨hplay, hall⟩
    · exact .inl ⟨⟨d, d', hd, hmeta, hplay⟩, hret⟩
    · refine .inr ⟨?_, hall⟩
      rintro ⟨d₁, d', hd₁, hmeta, hreplay⟩
      cases hd.symm.trans hd₁
      exact hplay d' hmeta hreplay
  · rename_i d ret hfail hd
    cases h
    refine .inr ⟨?_, ?_⟩
    · rintro ⟨d₁, d', hd₁, -, -⟩
      cases hd.symm.trans hd₁
      exact absurd rfl hfail
    · rw [setStreamState_eq (by exact ho.init)]
      refine .of_halted ⟨ho.isStarted, ho.source, ?_⟩ ⟨nofun, nofun⟩ hfail
      exact closed_of_openInput (by exact hclosed) hd hfail

/-! ## Runs -/

end FFmpegDemuxerSource

/-- A call of the object, or one that a thread of it makes while it is started. -/
inductive ObjectEvent
  | init (c : InitCall)
  | uninit
  | start (c : StartCall)
  | stop
  /-- The live thread calls the demuxer. -/
  | demuxer (call : DemuxerCall)
  /-- The live thread calls the source, or the API thread serves it. -/
  | source (op : StreamSource.SourceOp)

namespace FFmpegDemuxerSource

variable {pb : ApiProtobuf} {env : SourceEnv} {o o' : FFmpegDemuxerSource} {c : StartCall}
  {ret : FFmpegSourceErrCode}

/-- The object after an event. It is only uninitialised while it is stopped. -/
def step (pb : ApiProtobuf) (env : SourceEnv) (o : FFmpegDemuxerSource) :
    ObjectEvent → Option FFmpegDemuxerSource
  | .init c => some (o.init pb env c).2
  | .uninit => if o.isStarted then none else some o.uninit
  | .start c => if o.source.isInit then (o.start pb.toProtobuf c).map (·.2) else none
  | .stop => some o.stop
  | .demuxer call =>
    if o.isStarted ∧ call.staysOpen then
      (demuxerStep o.demuxer call).map fun d => { o with demuxer := d }
    else none
  | .source op =>
    if o.isStarted then
      (StreamSource.lifeStep pb env o.source op).map fun source => { o with source := source }
    else none

/-- An object that is not started has nothing that runs. -/
def Clean (o : FFmpegDemuxerSource) : Prop := o.isStarted = false → o.Halted

theorem isStarted_init (pb : ApiProtobuf) (env : SourceEnv) (s : StreamSource) (streamName : String)
    (failure : Option String) :
    (StreamSource.init pb env s streamName failure).2.isStarted = s.isStarted := by
  rcases StreamSource.init_cases pb env s streamName failure with ⟨-, heq⟩ | ⟨-, -, heq⟩
  · rw [heq]
  · rw [heq]
    rfl

theorem isStarted_uninit {s : StreamSource} (h : s.isStarted = false) :
    (StreamSource.uninit s).isStarted = false := by
  unfold StreamSource.uninit
  split
  · exact h
  · rfl

theorem Clean.init (h : o.Clean) (call : InitCall) : (o.init pb env call).2.Clean := by
  have hsource := isStarted_init pb env o.source call.streamName call.failure
  unfold FFmpegDemuxerSource.init
  split
  · simp only
    split
    · exact fun hs => ⟨hs, hsource.trans (h hs).source, (h hs).demuxer⟩
    · exact fun hs => ⟨hs, hsource.trans (h hs).source, (h hs).demuxer⟩
  · exact h

theorem Clean.start {pb : Protobuf} (h : o.Clean) (hinit : o.source.isInit = true)
    (hout : o.start pb c = some (ret, o')) : o'.Clean := by
  cases hstarted : o.isStarted with
  | true =>
    unfold FFmpegDemuxerSource.start at hout
    rw [if_pos hstarted] at hout
    cases hout
    exact h
  | false =>
    have hhalted := h hstarted
    rcases start_spec ⟨hinit, hstarted, hhalted.source⟩ hhalted.demuxer hout with
      ⟨-, -, hh⟩ | ⟨-, hall⟩
    · exact fun _ => hh
    · intro hs
      by_cases hret : ret = .ok
      · have hrun := (hall.started.1 hret).isStarted
        cases hs.symm.trans hrun
      · exact (hall.failed hret).1

theorem clean_step {e : ObjectEvent} (h : o.Clean) (he : o.step pb env e = some o') : o'.Clean := by
  cases e with
  | init call =>
    cases he
    exact h.init call
  | uninit =>
    simp only [step] at he
    split at he
    · cases he
    · cases he
      exact fun hs => ⟨hs, isStarted_uninit (h hs).source, (h hs).demuxer⟩
  | start call =>
    simp only [step] at he
    split at he
    · rename_i hinit
      obtain ⟨out, hout, rfl⟩ := Option.map_eq_some_iff.1 he
      exact h.start hinit hout
    · cases he
  | stop =>
    cases he
    unfold stop
    split
    · exact fun _ => ⟨rfl, rfl, fmtCtx_close _⟩
    · exact h
  | demuxer call =>
    simp only [step] at he
    split at he
    · rename_i hs
      obtain ⟨d, -, rfl⟩ := Option.map_eq_some_iff.1 he
      exact fun hs' => absurd (hs'.symm.trans hs.1) (by decide)
    · cases he
  | source op =>
    simp only [step] at he
    split at he
    · rename_i hs
      obtain ⟨source, -, rfl⟩ := Option.map_eq_some_iff.1 he
      exact fun hs' => absurd (hs'.symm.trans hs) (by decide)
    · cases he

/-- **All or nothing.** Whatever was done with the object, a `Start` of it while it is
initialised and stopped keeps its contract exactly if the input is not one that can be opened and
read and is not live. -/
theorem start_all_or_nothing_iff {es : List ObjectEvent} (ho : exec (step pb env) {} es = some o)
    (hstopped : o.isStarted = false) (hinit : o.source.isInit = true)
    (h : o.start pb.toProtobuf c = some (ret, o')) : AllOrNothing ret o' ↔ ¬ o.ReplayInput c := by
  have hclean : Clean {} := fun _ => ⟨rfl, rfl, rfl⟩
  have hhalted : o.Halted := exec_inv (fun _ _ _ hc he => clean_step hc he) ho hclean hstopped
  rcases start_spec ⟨hinit, hstopped, hhalted.source⟩ hhalted.demuxer h with
    ⟨hreplay, hret, hh⟩ | ⟨hno, hall⟩
  · refine iff_of_false (fun hall => ?_) fun hno => hno hreplay
    exact not_running_of_halted hh (hall.started.1 hret)
  · exact iff_of_true hall hno

/-- An audio stream that is as long as `duration` says. -/
def audioInput (duration : Int) : StartCall :=
  { openCall := { opened := some {
      streams := [{ codecId := .aac, codecType := .audio, timeBase := ⟨1, 1000, Int.one_pos, thousand_pos⟩ }]
      duration := duration } }
    turns := 10 }

def initCall : InitCall := { streamName := "stream" }

/-- An object that was initialised and never started. -/
def fresh : FFmpegDemuxerSource := (({} : FFmpegDemuxerSource).init wireApiProtobuf {} initCall).2

theorem start_all_or_nothing_iff_live :
    ∃ o', fresh.start wireApiProtobuf.toProtobuf (audioInput 0) = some (.ok, o') ∧
      AllOrNothing .ok o' := by
  have hret : (fresh.start wireApiProtobuf.toProtobuf (audioInput 0)).map (·.1) = some .ok := by
    decide +kernel
  obtain ⟨⟨ret, o'⟩, hstart, rfl⟩ := Option.map_eq_some_iff.1 hret
  have hinit : fresh.source.isInit = true := by decide +kernel
  have hlive : (({ fresh.demuxer with ioEnabled := true } : FFmpegDemuxer).openInput
      (fresh.openCall (audioInput 0))).bind (fun out => (out.1.readMeta 10).map
        (·.1.metadata.playType)) = some .live := by decide +kernel
  refine ⟨o', hstart, ?_⟩
  have hexec : exec (step wireApiProtobuf {}) {} [.init initCall] = some fresh := rfl
  refine (start_all_or_nothing_iff hexec rfl hinit hstart).2 ?_
  rintro ⟨d, d', hopen, hmeta, hreplay⟩
  have hturns : d.readMeta 10 = some (d', .ok) := hmeta
  rw [hopen, Option.bind_some, hturns, Option.map_some, hreplay] at hlive
  cases hlive

/-- A file of ten seconds: `Start` returns 0, and nothing runs. -/
theorem file_not_started :
    exec (step wireApiProtobuf {}) {} [.init initCall] = some fresh ∧
      fresh.isStarted = false ∧ fresh.source.isInit = true ∧
      ∃ o', fresh.start wireApiProtobuf.toProtobuf (audioInput 10000000) = some (.ok, o') ∧
        o'.isStarted = false ∧ o'.source.isStarted = false ∧ o'.demuxer.fmtCtx = none ∧
        ¬ AllOrNothing .ok o' := by
  have hret : (fresh.start wireApiProtobuf.toProtobuf (audioInput 10000000)).map
      (fun out => (out.1, out.2.isStarted, out.2.source.isStarted, out.2.demuxer.fmtCtx)) =
        some (.ok, false, false, none) := by decide +kernel
  obtain ⟨⟨ret, o'⟩, hstart, heq⟩ := Option.map_eq_some_iff.1 hret
  simp only [Prod.mk.injEq] at heq
  obtain ⟨rfl, hstarted, hsource, hclosed⟩ := heq
  refine ⟨rfl, rfl, by decide +kernel, o', hstart, hstarted, hsource, hclosed, fun hall => ?_⟩
  exact not_running_of_halted ⟨hstarted, hsource, hclosed⟩ (hall.started.1 rfl)

end FFmpegDemuxerSource

end StreamSwitch.Ffmpeg
