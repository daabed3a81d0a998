import StreamSwitch.RtspSource.Client

/-!
# Frames of the RTSP source

`DoAfterGettingFrame` of the three sinks (`stsw_output_sink.cc`, `stsw_h264or5_output_sink.cc`,
`stsw_mpeg4_output_sink.cc`): until the metadata is ready, a sink for H.264, H.265 or MPEG-4 looks
up the entry of its index there and completes it. Lost frames are not counted here.
`Touches` is what a frame may change of the client.
-/

namespace StreamSwitch

namespace RtspSource

/-- A frame as the source delivers it, what its framer has found so far, and the time of day. -/
structure Frame where
  data : Bytes
  numTruncatedBytes : Nat := 0
  presentationTime : Timeval
  vps : Option Bytes := none
  sps : Option Bytes := none
  pps : Option Bytes := none
  config : Option Bytes := none
  timeOfDay : Int

/-- An earlier time. -/
def timevalLt (a b : Timeval) : Bool := a.tvSec < b.tvSec || (a.tvSec = b.tvSec && a.tvUsec < b.tvUsec)

/-! ## The client -/

namespace LiveRtspClient

/-- `AfterGettingFrame`. -/
def afterGettingFrame (c : LiveRtspClient) (subStreamIndex : Nat) (frameType : MediaFrameType)
    (timestamp : Timeval) (data : Bytes) (now : Int) : LiveRtspClient :=
  if c.areAlreadyShuttingDown then c
  else if !c.isMetadataOk then c
  else
    let c := { c with lastFrameTime := now }
    if timestamp.tvSec.toInt ≤ now - 10 ∨ timestamp.tvSec.toInt ≥ now + 10 then c.handleError .timeErr
    else
      c.call (.onMediaFrame
        { subStreamIndex := Int32.ofNat subStreamIndex, frameType, timestamp, ssrc := c.metadata.ssrc }
        data)

/-- The entry of the index gets extra data. -/
def appendExtraData (c : LiveRtspClient) (index : Nat) (extra : Bytes) : LiveRtspClient :=
  { c with metadata := { c.metadata with
      subStreams := c.metadata.subStreams.modify index fun s =>
        { s with extraData := s.extraData ++ extra } } }

/-- What a sink does to metadata that is not ready; `extra` is what it has found. -/
def updateMetadata (c : LiveRtspClient) (index : Nat) (extra : Option Bytes) :
    Except Fault LiveRtspClient :=
  if c.isMetadataOk then .ok c
  else
    match c.metadata.subStreams[index]? with
    | none => .error .noSubStream
    | some s =>
      if s.extraData.length ≠ 0 then .ok c
      else
        match extra with
        | none => .ok c
        | some extra => .ok (c.appendExtraData index extra).checkMetadata

end LiveRtspClient

/-! ## Frame types -/

def nalUnitType (hNumber : Nat) (b : UInt8) : UInt8 :=
  if hNumber = 264 then b &&& 0x1F else (b &&& 0x7E) >>> 1

def isVCL (hNumber : Nat) (t : UInt8) : Bool :=
  if hNumber = 264 then t ≤ 5 && t > 0 else t ≤ 31

def isIDR (hNumber : Nat) (t : UInt8) : Bool :=
  if hNumber = 264 then t = 5 else t = 19 || t = 20

def vclType (hNumber : Nat) (t : UInt8) : MediaFrameType :=
  if isIDR hNumber t then .keyFrame else .dataFrame

/-- The first unit with picture data behind a start code. -/
def innerType (hNumber : Nat) : Bytes → MediaFrameType
  | a :: b :: c :: d :: e :: rest =>
    if a = 0 && b = 0 && c = 0 && d = 1 && isVCL hNumber (nalUnitType hNumber e) then
      vclType hNumber (nalUnitType hNumber e)
    else innerType hNumber (b :: c :: d :: e :: rest)
  | _ => .paramFrame

/-- The type of an H.264 or H.265 frame. -/
def h264or5FrameType (hNumber : Nat) (data : Bytes) : MediaFrameType :=
  let t :=
    match data with
    | [] => 0xFF
    | b :: rest => if hNumber = 264 ∨ rest ≠ [] then nalUnitType hNumber b else 0xFF
  if isVCL hNumber t then vclType hNumber t else innerType hNumber data

/-- `IsIncludeVOP`. -/
def isIncludeVOP : Bytes → Bool
  | a :: b :: c :: d :: rest =>
    (a = 0 && b = 0 && c = 1 && d = 0xB6) || isIncludeVOP (b :: c :: d :: rest)
  | _ => false

/-- `IsKeyFrame`. -/
def isKeyFrame : Bytes → Bool
  | a :: b :: c :: d :: rest =>
    if a = 0 && b = 0 && c = 1 && (d = 0xB0 || d = 0xB3) then true
    else if a = 0 && b = 0 && c = 1 && d = 0xB6 && rest ≠ [] then
      rest.head?.any fun (e : UInt8) => e >>> 6 = 0
    else isKeyFrame (b :: c :: d :: rest)
  | _ => false

/-- The type of an MPEG-4 frame. -/
def mpeg4FrameType (data : Bytes) : MediaFrameType :=
  if isIncludeVOP data then if isKeyFrame data then .keyFrame else .dataFrame
  else if data.length < 1024 then .paramFrame else .dataFrame

/-! ## The sinks -/

/-- What the client gets from a sink. -/
abbrev SinkStep := Except Fault (OutputSink × LiveRtspClient)

namespace OutputSink

/-- `MediaOutputSink::DoAfterGettingFrame`. -/
def mediaFrame (sink : OutputSink) (f : Frame) (c : LiveRtspClient) : SinkStep :=
  if timevalLt f.presentationTime sink.lastPts then .ok (sink, c)
  else
    let sink := { sink with lastPts := f.presentationTime }
    if f.numTruncatedBytes > 0 then .ok (sink, c)
    else
      .ok (sink, c.afterGettingFrame sink.subStreamIndex .keyFrame f.presentationTime f.data f.timeOfDay)

/-- The parameter sets that the framer has, when it has them all. -/
def parameterSets (hNumber : Nat) (f : Frame) : Option Bytes :=
  if hNumber = 264 then
    f.sps.bind fun sps => f.pps.map fun pps => withStartCodes [sps, pps]
  else if hNumber = 265 then
    f.vps.bind fun vps => f.sps.bind fun sps => f.pps.map fun pps => withStartCodes [vps, sps, pps]
  else none

/-- What an H.264 or H.265 sink does with a frame in its buffer: parameter frames wait there for the
next picture. -/
def passFrame (sink : OutputSink) (frameType : MediaFrameType) (f : Frame) (c : LiveRtspClient) :
    OutputSink × LiveRtspClient :=
  let buf := sink.recvBuf ++ f.data
  if frameType = .paramFrame ∧ buf.length ≤ 1024 then ({ sink with recvBuf := buf }, c)
  else
    ({ sink with recvBuf := [] },
      if c.isMetadataOk then
        c.afterGettingFrame sink.subStreamIndex frameType f.presentationTime buf f.timeOfDay
      else c)

/-- `H264or5OutputSink::DoAfterGettingFrame`. -/
def h264or5Frame (hNumber : Nat) (framer : Option Framer) (sink : OutputSink) (f : Frame)
    (c : LiveRtspClient) : SinkStep :=
  if timevalLt f.presentationTime sink.lastPts then .ok (sink, c)
  else
    let sink := { sink with lastPts := f.presentationTime }
    if f.numTruncatedBytes > 0 then .ok ({ sink with recvBuf := [] }, c)
    else if framer ≠ some .h264 ∧ framer ≠ some .h265 then
      { sink with recvBuf := [] }.mediaFrame f c
    else
      (c.updateMetadata sink.subStreamIndex (parameterSets hNumber f)).map fun c =>
        sink.passFrame (h264or5FrameType hNumber f.data) f c

/-- The queue of parameter frames is dropped after 10 ms. -/
def clearOld (sink : OutputSink) (now : Timeval) : OutputSink :=
  match sink.frameQueue with
  | [] => sink
  | (_, first, _) :: _ =>
    if (now.tvSec.toInt - first.tvSec.toInt) * 1000000 + (now.tvUsec.toInt - first.tvUsec.toInt) > 10000
    then { sink with frameQueue := [] } else sink

/-- `FlushQueue`. -/
def flushQueue (sink : OutputSink) (now : Int) (c : LiveRtspClient) : LiveRtspClient :=
  sink.frameQueue.foldl (fun c queued =>
    c.afterGettingFrame sink.subStreamIndex queued.1 queued.2.1 queued.2.2 now) c

/-- What an MPEG-4 sink does with a frame: parameter frames wait in the queue for the metadata. -/
def passOrQueue (sink : OutputSink) (frameType : MediaFrameType) (f : Frame) (c : LiveRtspClient) :
    OutputSink × LiveRtspClient :=
  if c.isMetadataOk then
    ({ sink with frameQueue := [] },
      (sink.flushQueue f.timeOfDay c).afterGettingFrame sink.subStreamIndex frameType
        f.presentationTime f.data f.timeOfDay)
  else if frameType = .paramFrame then
    ({ sink with frameQueue := sink.frameQueue ++ [(frameType, f.presentationTime, f.data)] }, c)
  else (sink, c)

/-- `Mpeg4OutputSink::DoAfterGettingFrame`. -/
def mpeg4Frame (framer : Option Framer) (sink : OutputSink) (f : Frame) (c : LiveRtspClient) :
    SinkStep :=
  if timevalLt f.presentationTime sink.lastPts then .ok (sink, c)
  else
    let sink := { sink with lastPts := f.presentationTime }
    if f.numTruncatedBytes > 0 then .ok (sink, c)
    else if framer ≠ some .mpeg4 then sink.mediaFrame f c
    else
      (c.updateMetadata sink.subStreamIndex (f.config.filter (·.length ≠ 0))).map fun c =>
        (sink.clearOld f.presentationTime).passOrQueue (mpeg4FrameType f.data) f c

def doAfterGettingFrame (framer : Option Framer) (sink : OutputSink) (f : Frame) (c : LiveRtspClient) :
    SinkStep :=
  match sink.kind with
  | .media => sink.mediaFrame f c
  | .h264or5 hNumber => h264or5Frame hNumber framer sink f c
  | .mpeg4 => mpeg4Frame framer sink f c

/-- `afterGettingFrame` of a sink: the frame, and then the next one is asked for. -/
def afterGettingFrame (framer : Option Framer) (sink : OutputSink) (f : Frame) (c : LiveRtspClient) :
    SinkStep :=
  (doAfterGettingFrame framer sink f c).map fun (sink, c) => (sink.continuePlaying, c)

end OutputSink

/-- A frame arrives at the sink of a subsession; `none` where there is no sink. -/
def LiveRtspClient.frame (c : LiveRtspClient) (address position : Nat) (f : Frame) :
    Option (Except Fault LiveRtspClient) := do
  let s ← c.findSession address
  let sub ← s.subsessions[position]?
  let sink ← sub.sink
  return (OutputSink.afterGettingFrame sub.framer sink f c).map fun (sink, c) =>
    c.setSubsessions address (s.subsessions.set position { sub with sink := some sink })

/-! ## What a frame leaves alone -/

section timers
variable {c c' : LiveRtspClient}

structure SameTimers (c c' : LiveRtspClient) : Prop where
  tasks : c'.tasks = c.tasks
  session : c'.session = c.session
  shuttingDown : c'.areAlreadyShuttingDown = c.areAlreadyShuttingDown

namespace SameTimers

theorem refl (c : LiveRtspClient) : SameTimers c c := ⟨rfl, rfl, rfl⟩

theorem trans {c₁ : LiveRtspClient} (h : SameTimers c c') (h' : SameTimers c' c₁) : SameTimers c c₁ :=
  ⟨h'.tasks.trans h.tasks, h'.session.trans h.session, h'.shuttingDown.trans h.shuttingDown⟩

/-- What comes after a change that has nothing to do with timers. -/
theorem after {c₁ : LiveRtspClient} (h : SameTimers c₁ c') (ht : c₁.tasks = c.tasks)
    (hs : c₁.session = c.session)
    (hd : c₁.areAlreadyShuttingDown = c.areAlreadyShuttingDown) : SameTimers c c' :=
  trans ⟨ht, hs, hd⟩ h

end SameTimers

theorem LiveRtspClient.call_same (c : LiveRtspClient) (x : ListenerCall) : SameTimers c (c.call x) := by
  unfold call
  split
  · exact ⟨rfl, rfl, rfl⟩
  · exact .refl c

end timers

/-! ## What a frame does

It touches the entry of the sink in the metadata, and nothing but its extra data; the listener is
told once of metadata that is complete. -/

def ListenerCall.isMetaReady : ListenerCall → Bool
  | .onMetaReady _ => true
  | _ => false

/-- The listener has been told at most once that the metadata is ready, and then it was. -/
structure MetaReadyOnce (c : LiveRtspClient) : Prop where
  once : c.calls.countP ListenerCall.isMetaReady ≤ 1
  complete : ∀ m, .onMetaReady m ∈ c.calls → ∀ s ∈ m.subStreams,
    LiveRtspClient.needsExtraData s.codecName = true → s.extraData ≠ []

structure ReadyInv (c : LiveRtspClient) : Prop extends MetaReadyOnce c where
  notReady : c.isMetadataOk = false → c.calls.countP ListenerCall.isMetaReady = 0

/-- Nothing but the entry `i` of the metadata is different, and only its extra data. -/
structure Touches (i : Nat) (c c' : LiveRtspClient) : Prop extends SameTimers c c' where
  sessions : c'.sessions = c.sessions
  described : c'.described = c.described
  ignoreSdpSps : c'.ignoreSdpSps = c.ignoreSdpSps
  others : ∀ j, j ≠ i → c'.metadata.subStreams[j]? = c.metadata.subStreams[j]?
  own : ∀ m, c.metadata.subStreams[i]? = some m →
    ∃ extra, c'.metadata.subStreams[i]? = some { m with extraData := extra }
  empty : c.metadata.subStreams = [] →
    c'.metadata.subStreams = [] ∧ c'.isMetadataOk = c.isMetadataOk
  ready : ReadyInv c → ReadyInv c'

section touches
variable {i : Nat} {c c' c₁ : LiveRtspClient} {sink sink' : OutputSink} {f : Frame}

theorem Touches.refl (i : Nat) (c : LiveRtspClient) : Touches i c c :=
  ⟨.refl c, rfl, rfl, rfl, fun _ _ => rfl, fun m hm => ⟨m.extraData, hm⟩, fun h => ⟨h, rfl⟩, id⟩

theorem Touches.trans (h : Touches i c c') (h' : Touches i c' c₁) : Touches i c c₁ := by
  refine ⟨h.toSameTimers.trans h'.toSameTimers, h'.sessions.trans h.sessions,
    h'.described.trans h.described, h'.ignoreSdpSps.trans h.ignoreSdpSps,
    fun j hj => (h'.others j hj).trans (h.others j hj), ?_, ?_, fun hr => h'.ready (h.ready hr)⟩
  · intro m hm
    obtain ⟨extra, hextra⟩ := h.own m hm
    obtain ⟨extra', hextra'⟩ := h'.own _ hextra
    exact ⟨extra', hextra'⟩
  · intro hnil
    obtain ⟨hnil', hok⟩ := h.empty hnil
    obtain ⟨hnil'', hok'⟩ := h'.empty hnil'
    exact ⟨hnil'', hok'.trans hok⟩

namespace LiveRtspClient

/-- Any other call of the listener. -/
theorem touches_call {x : ListenerCall} (hx : x.isMetaReady = false) (i : Nat) (c : LiveRtspClient) :
    Touches i c (c.call x) := by
  unfold call
  split
  · refine ⟨⟨rfl, rfl, rfl⟩, rfl, rfl, rfl, fun _ _ => rfl, fun m hm => ⟨m.extraData, hm⟩,
      fun h => ⟨h, rfl⟩, fun h => ?_⟩
    have hcount : (x :: c.calls).countP ListenerCall.isMetaReady =
        c.calls.countP ListenerCall.isMetaReady := List.countP_cons_of_neg (by rw [hx]; decide)
    refine ⟨⟨hcount.trans_le h.once, ?_⟩, fun hn => hcount.trans (h.notReady hn)⟩
    intro m hm
    rcases List.mem_cons.1 hm with rfl | hm
    · cases hx
    · exact h.complete m hm
  · exact .refl i c

theorem extraData_of_complete {m : StreamMetadata} (h : metadataComplete m = true) :
    ∀ s ∈ m.subStreams, needsExtraData s.codecName = true → s.extraData ≠ [] := by
  intro s hs hneeds hnil
  unfold metadataComplete at h
  simp only [Bool.and_eq_true, List.all_eq_true] at h
  have hsub := (h.2 s hs).2
  simp [hneeds, hnil] at hsub

theorem touches_checkMetadata (i : Nat) (c : LiveRtspClient) : Touches i c c.checkMetadata := by
  unfold checkMetadata
  cases hok : c.isMetadataOk with
  | true => exact .refl i c
  | false =>
    rw [if_neg (by decide)]
    split
    · rename_i hcomplete
      -- metadata without entries is never complete
      have hempty : c.metadata.subStreams ≠ [] := by
        intro hnil
        unfold metadataComplete at hcomplete
        simp [hnil] at hcomplete
      unfold call
      split
      · refine ⟨⟨rfl, rfl, rfl⟩, rfl, rfl, rfl, fun _ _ => rfl, fun m hm => ⟨m.extraData, hm⟩,
          fun h => absurd h hempty, fun h => ?_⟩
        have hcount : (.onMetaReady c.metadata :: c.calls).countP ListenerCall.isMetaReady =
            c.calls.countP ListenerCall.isMetaReady + 1 := List.countP_cons_of_pos rfl
        refine ⟨⟨?_, ?_⟩, nofun⟩
        · show (.onMetaReady c.metadata :: c.calls).countP ListenerCall.isMetaReady ≤ 1
          rw [hcount, h.notReady hok]
        · intro m hm
          rcases List.mem_cons.1 hm with heq | hm
          · cases heq
            exact extraData_of_complete hcomplete
          · exact h.complete m hm
      · exact ⟨⟨rfl, rfl, rfl⟩, rfl, rfl, rfl, fun _ _ => rfl, fun m hm => ⟨m.extraData, hm⟩,
          fun h => absurd h hempty, fun h => ⟨⟨h.once, h.complete⟩, nofun⟩⟩
    · exact .refl i c

theorem touches_afterGettingFrame (i : Nat) (c : LiveRtspClient) (index : Nat)
    (frameType : MediaFrameType) (timestamp : Timeval) (data : Bytes) (now : Int) :
    Touches i c (c.afterGettingFrame index frameType timestamp data now) := by
  have hnow : Touches i c { c with lastFrameTime := now } :=
    ⟨⟨rfl, rfl, rfl⟩, rfl, rfl, rfl, fun _ _ => rfl, fun m hm => ⟨m.extraData, hm⟩, fun h => ⟨h, rfl⟩,
      fun h => ⟨⟨h.once, h.complete⟩, h.notReady⟩⟩
  unfold afterGettingFrame
  split
  · exact .refl i c
  · split
    · exact .refl i c
    · dsimp only
      split
      · exact hnow.trans (touches_call rfl i _)
      · exact hnow.trans (touches_call rfl i _)

theorem touches_appendExtraData (i : Nat) (c : LiveRtspClient) (extra : Bytes) :
    Touches i c (c.appendExtraData i extra) := by
  refine ⟨⟨rfl, rfl, rfl⟩, rfl, rfl, rfl, fun j hj => ?_, fun m hm => ⟨m.extraData ++ extra, ?_⟩,
    fun h => ⟨?_, rfl⟩, fun h => ⟨⟨h.once, h.complete⟩, h.notReady⟩⟩
  · exact List.getElem?_modify_ne _ _ (Ne.symm hj)
  · show (c.metadata.subStreams.modify i _)[i]? = _
    rw [List.getElem?_modify_eq, hm]
    rfl
  · show c.metadata.subStreams.modify i _ = []
    rw [h, List.modify_nil]

/-- A sink finds its entry unless there is none. -/
theorem updateMetadata_cases (i : Nat) (c : LiveRtspClient) (extra : Option Bytes) :
    (c.metadata.subStreams[i]? = none ∧ c.updateMetadata i extra = .error .noSubStream) ∨
      ∃ c', c.updateMetadata i extra = .ok c' ∧ Touches i c c' := by
  unfold updateMetadata
  split
  · exact .inr ⟨c, rfl, .refl i c⟩
  · cases hentry : c.metadata.subStreams[i]? with
    | none => exact .inl ⟨rfl, rfl⟩
    | some m =>
      refine .inr ?_
      dsimp only
      split
      · exact ⟨c, rfl, .refl i c⟩
      · cases extra with
        | none => exact ⟨c, rfl, .refl i c⟩
        | some extra =>
          exact ⟨_, rfl, (touches_appendExtraData i c extra).trans (touches_checkMetadata i _)⟩

end LiveRtspClient

/-! ## The sinks -/

namespace OutputSink

/-- A sink keeps its kind and its index, and touches nothing but the entry of that. -/
structure Passes (sink : OutputSink) (c : LiveRtspClient) (x : OutputSink × LiveRtspClient) : Prop where
  kind : x.1.kind = sink.kind
  index : x.1.subStreamIndex = sink.subStreamIndex
  touches : Touches sink.subStreamIndex c x.2

/-- A sink that is not a plain one fails where its entry is not there. -/
def Fine (sink : OutputSink) (c : LiveRtspClient) (x : SinkStep) : Prop :=
  (sink.kind ≠ .media ∧ c.metadata.subStreams[sink.subStreamIndex]? = none ∧
    x = .error .noSubStream) ∨ ∃ y, x = .ok y ∧ Passes sink c y

theorem fine_refl {x : SinkStep} (hx : x = .ok (sink', c)) (hkind : sink'.kind = sink.kind)
    (hindex : sink'.subStreamIndex = sink.subStreamIndex) : Fine sink c x :=
  .inr ⟨(sink', c), hx, hkind, hindex, .refl _ c⟩

theorem mediaFrame_passes (sink : OutputSink) (f : Frame) (c : LiveRtspClient) :
    ∃ y, sink.mediaFrame f c = .ok y ∧ Passes sink c y := by
  unfold mediaFrame
  split
  · exact ⟨_, rfl, rfl, rfl, .refl _ c⟩
  · dsimp only
    split
    · exact ⟨_, rfl, rfl, rfl, .refl _ c⟩
    · exact ⟨_, rfl, rfl, rfl, LiveRtspClient.touches_afterGettingFrame ..⟩

theorem passFrame_passes (sink : OutputSink) (frameType : MediaFrameType) (f : Frame)
    (c : LiveRtspClient) : Passes sink c (sink.passFrame frameType f c) := by
  unfold passFrame
  dsimp only
  split
  · exact ⟨rfl, rfl, .refl _ c⟩
  · split
    · exact ⟨rfl, rfl, LiveRtspClient.touches_afterGettingFrame ..⟩
    · exact ⟨rfl, rfl, .refl _ c⟩

theorem touches_flushQueue (sink : OutputSink) (now : Int) (i : Nat) (c : LiveRtspClient) :
    Touches i c (sink.flushQueue now c) := by
  unfold flushQueue
  induction sink.frameQueue generalizing c with
  | nil => exact .refl i c
  | cons queued queue ih =>
    exact (LiveRtspClient.touches_afterGettingFrame ..).trans (ih _)

theorem passOrQueue_passes (sink : OutputSink) (frameType : MediaFrameType) (f : Frame)
    (c : LiveRtspClient) : Passes sink c (sink.passOrQueue frameType f c) := by
  unfold passOrQueue
  split
  · exact ⟨rfl, rfl,
      (sink.touches_flushQueue ..).trans (LiveRtspClient.touches_afterGettingFrame ..)⟩
  · split
    · exact ⟨rfl, rfl, .refl _ c⟩
    · exact ⟨rfl, rfl, .refl _ c⟩

/-- The metadata is updated before a frame is passed on. -/
theorem fine_update {extra : Option Bytes} {g : LiveRtspClient → OutputSink × LiveRtspClient}
    (hkind : sink.kind ≠ .media) (hg : ∀ c, Passes sink c (g c)) :
    Fine sink c ((c.updateMetadata sink.subStreamIndex extra).map g) := by
  rcases c.updateMetadata_cases sink.subStreamIndex extra with ⟨hnone, heq⟩ | ⟨c₁, heq, htouches⟩
  · refine .inl ⟨hkind, hnone, ?_⟩
    rw [heq]
    rfl
  · refine .inr ⟨g c₁, ?_, (hg c₁).kind, (hg c₁).index, htouches.trans (hg c₁).touches⟩
    rw [heq]
    rfl

theorem clearOld_kept (sink : OutputSink) (now : Timeval) :
    (sink.clearOld now).kind = sink.kind ∧
      (sink.clearOld now).subStreamIndex = sink.subStreamIndex := by
  unfold clearOld
  split
  · exact ⟨rfl, rfl⟩
  · split <;> exact ⟨rfl, rfl⟩

theorem fine_h264or5Frame (hNumber : Nat) (framer : Option Framer) (f : Frame)
    (hkind : sink.kind ≠ .media) : Fine sink c (h264or5Frame hNumber framer sink f c) := by
  unfold h264or5Frame
  split
  · exact fine_refl rfl rfl rfl
  · dsimp only
    split
    · exact fine_refl rfl rfl rfl
    · split
      · obtain ⟨y, heq, hy⟩ :=
          mediaFrame_passes { sink with lastPts := f.presentationTime, recvBuf := [] } f c
        exact .inr ⟨y, heq, hy.kind, hy.index, hy.touches⟩
      · refine fine_update hkind fun c => ?_
        have hpass := passFrame_passes { sink with lastPts := f.presentationTime }
          (h264or5FrameType hNumber f.data) f c
        exact ⟨hpass.kind, hpass.index, hpass.touches⟩

theorem fine_mpeg4Frame (framer : Option Framer) (f : Frame) (hkind : sink.kind ≠ .media) :
    Fine sink c (mpeg4Frame framer sink f c) := by
  unfold mpeg4Frame
  split
  · exact fine_refl rfl rfl rfl
  · dsimp only
    split
    · exact fine_refl rfl rfl rfl
    · split
      · obtain ⟨y, heq, hy⟩ := mediaFrame_passes { sink with lastPts := f.presentationTime } f c
        exact .inr ⟨y, heq, hy.kind, hy.index, hy.touches⟩
      · refine fine_update hkind fun c => ?_
        obtain ⟨hsame, hindex⟩ :=
          clearOld_kept { sink with lastPts := f.presentationTime } f.presentationTime
        have hpass := passOrQueue_passes
          ({ sink with lastPts := f.presentationTime }.clearOld f.presentationTime)
          (mpeg4FrameType f.data) f c
        have htouches := hpass.touches
        rw [hindex] at htouches
        exact ⟨hpass.kind.trans hsame, hpass.index.trans hindex, htouches⟩

theorem continuePlaying_kept (sink : OutputSink) :
    sink.continuePlaying.kind = sink.kind ∧
      sink.continuePlaying.subStreamIndex = sink.subStreamIndex := by
  unfold continuePlaying
  split <;> exact ⟨rfl, rfl⟩

theorem fine_afterGettingFrame (framer : Option Framer) (sink : OutputSink) (f : Frame)
    (c : LiveRtspClient) : Fine sink c (afterGettingFrame framer sink f c) := by
  have hdo : Fine sink c (doAfterGettingFrame framer sink f c) := by
    unfold doAfterGettingFrame
    split
    · exact .inr (mediaFrame_passes sink f c)
    · rename_i hkind
      exact fine_h264or5Frame _ framer f (by rw [hkind]; nofun)
    · rename_i hkind
      exact fine_mpeg4Frame framer f (by rw [hkind]; nofun)
  unfold afterGettingFrame
  rcases hdo with ⟨hkind, hnone, heq⟩ | ⟨⟨sink', c'⟩, heq, hpass⟩
  · refine .inl ⟨hkind, hnone, ?_⟩
    rw [heq]
    rfl
  · obtain ⟨hsame, hindex⟩ := sink'.continuePlaying_kept
    refine .inr ⟨(sink'.continuePlaying, c'), ?_, hsame.trans hpass.kind,
      hindex.trans hpass.index, hpass.touches⟩
    rw [heq]
    rfl

end OutputSink

end touches

end RtspSource

end StreamSwitch
