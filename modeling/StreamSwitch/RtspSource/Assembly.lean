import StreamSwitch.RtspSource.Frames
import StreamSwitch.Lib.Run

/-!
# Assembly of H.264 and H.265 frames

What `recv_buf_` of an `H264or5OutputSink` holds over a run of `getNextFrame` completions,
against a list of the parameter units that wait for the next picture (`assemble`). The start
code is put in by `continuePlaying` before a unit is there. `assembled_iff`: the buffer and the
frames passed on are those of the list unless a frame comes late, whose start code stays.
-/

namespace StreamSwitch

namespace RtspSource

namespace OutputSink

/-- The frames that `h264or5Frame` passes to `AfterGettingFrame` of the client. -/
def passed (hNumber : Nat) (framer : Option Framer) (sink : OutputSink) (f : Frame)
    (c : LiveRtspClient) : List Bytes :=
  if timevalLt f.presentationTime sink.lastPts then []
  else if f.numTruncatedBytes > 0 then []
  else if framer ≠ some .h264 ∧ framer ≠ some .h265 then [f.data]
  else
    match c.updateMetadata sink.subStreamIndex (parameterSets hNumber f) with
    | .error _ => []
    | .ok c =>
      let buf := sink.recvBuf ++ f.data
      if h264or5FrameType hNumber f.data = .paramFrame ∧ buf.length ≤ 1024 then []
      else if c.isMetadataOk then [buf] else []

end OutputSink

/-! ## What is promised -/

/-- A completion of `getNextFrame`, and the client as it is then. -/
structure Completion where
  frame : Frame
  client : LiveRtspClient

/-- What an accepted unit does to the parameter units that wait, and what is passed on: a picture
takes them along, and so does a parameter unit that makes them more than 1024 bytes. Nothing is
passed on as long as the metadata is not ready. -/
def assemble (hNumber : Nat) (waiting : List Bytes) (unit : Bytes) (ready : Bool) :
    List Bytes × List Bytes :=
  let units := waiting ++ [unit]
  if h264or5FrameType hNumber unit = .paramFrame ∧ (withStartCodes units).length ≤ 1024 then
    (units, [])
  else ([], if ready then [withStartCodes units] else [])

/-- The sink, and the parameter units that wait in it. -/
structure Assembly where
  sink : OutputSink
  waiting : List Bytes := []

namespace Assembly

/-- A late unit is ignored and a truncated one drops those that wait. -/
def next (hNumber : Nat) (s : Assembly) (e : Completion) : List Bytes × List Bytes :=
  if timevalLt e.frame.presentationTime s.sink.lastPts then (s.waiting, [])
  else if e.frame.numTruncatedBytes > 0 then ([], [])
  else
    match e.client.updateMetadata s.sink.subStreamIndex
      (OutputSink.parameterSets hNumber e.frame) with
    | .error _ => (s.waiting, [])
    | .ok c => assemble hNumber s.waiting e.frame.data c.isMetadataOk

/-- One completion and the request for the next frame. -/
def step (hNumber : Nat) (framer : Option Framer) (s : Assembly) (e : Completion) :
    Option Assembly :=
  match s.sink.afterGettingFrame framer e.frame e.client with
  | .ok (sink, _) => some { sink, waiting := (s.next hNumber e).1 }
  | .error _ => none

/-- The buffer holds the units that wait and a start code, within `sink_buf_size_`, and the frame
passed on, if any, is that of the units. -/
def Assembled (hNumber : Nat) (framer : Option Framer) (sinkBufSize : Nat) (s : Assembly)
    (e : Completion) : Prop :=
  s.sink.passed hNumber framer e.frame e.client = (s.next hNumber e).2 ∧
    ∀ t, s.step hNumber framer e = some t →
      t.sink.recvBuf = withStartCodes t.waiting ++ startCode ∧
        t.sink.recvBuf.length ≤ sinkBufSize

/-- The frame is not late, and a parameter unit that will wait leaves room for a start code. -/
def Accepted (hNumber : Nat) (sinkBufSize : Nat) (s : Assembly) (e : Completion) : Prop :=
  timevalLt e.frame.presentationTime s.sink.lastPts = false ∧
    (e.frame.numTruncatedBytes = 0 → h264or5FrameType hNumber e.frame.data = .paramFrame →
      s.sink.recvBuf.length + e.frame.data.length ≤ 1024 →
        s.sink.recvBuf.length + e.frame.data.length + 4 ≤ sinkBufSize)

/-- What holds between two completions as long as all goes well. -/
structure Holds (hNumber : Nat) (s : Assembly) : Prop where
  kind : s.sink.kind = .h264or5 hNumber
  buffer : s.sink.recvBuf = withStartCodes s.waiting ++ startCode

variable {hNumber : Nat} {framer : Option Framer} {sinkBufSize : Nat} {s t : Assembly}
  {e : Completion}

theorem withStartCodes_snoc (units : List Bytes) (unit : Bytes) :
    withStartCodes (units ++ [unit]) = withStartCodes units ++ startCode ++ unit := by
  simp [withStartCodes]

/-- What a sink for H.264 or H.265 does with a frame from its framer. -/
theorem h264or5Frame_ok (hframer : framer = some .h264 ∨ framer = some .h265) {sink sink' : OutputSink}
    {f : Frame} {c c' : LiveRtspClient}
    (h : OutputSink.h264or5Frame hNumber framer sink f c = .ok (sink', c')) :
    (timevalLt f.presentationTime sink.lastPts = true ∧ (sink', c') = (sink, c)) ∨
    (timevalLt f.presentationTime sink.lastPts = false ∧ f.numTruncatedBytes > 0 ∧
      (sink', c') = ({ sink with lastPts := f.presentationTime, recvBuf := [] }, c)) ∨
    ∃ c₁, timevalLt f.presentationTime sink.lastPts = false ∧ f.numTruncatedBytes = 0 ∧
      c.updateMetadata sink.subStreamIndex (OutputSink.parameterSets hNumber f) = .ok c₁ ∧
      (sink', c') = { sink with lastPts := f.presentationTime }.passFrame
        (h264or5FrameType hNumber f.data) f c₁ := by
  unfold OutputSink.h264or5Frame at h
  split at h
  · next hlate =>
    cases h
    exact .inl ⟨hlate, rfl⟩
  · next hlate =>
    have hlate := Bool.eq_false_iff.2 hlate
    dsimp only at h
    split at h
    · next htrunc =>
      cases h
      exact .inr (.inl ⟨hlate, htrunc, rfl⟩)
    · next htrunc =>
      rw [if_neg (by rcases hframer with rfl | rfl <;> decide)] at h
      cases hc : c.updateMetadata sink.subStreamIndex (OutputSink.parameterSets hNumber f) with
      | error err =>
        rw [hc] at h
        cases h
      | ok c₁ =>
        rw [hc] at h
        exact .inr (.inr ⟨c₁, hlate, Nat.eq_zero_of_not_pos htrunc, rfl, (Except.ok.inj h).symm⟩)

/-- What waits in the buffer and what is passed on are what the list says. -/
theorem accepted_spec (hs : s.Holds hNumber) (hframer : framer = some .h264 ∨ framer = some .h265)
    (hlate : timevalLt e.frame.presentationTime s.sink.lastPts = false)
    (htrunc : e.frame.numTruncatedBytes = 0) {c₁ : LiveRtspClient}
    (hc : e.client.updateMetadata s.sink.subStreamIndex
      (OutputSink.parameterSets hNumber e.frame) = .ok c₁) :
    s.sink.passed hNumber framer e.frame e.client = (s.next hNumber e).2 ∧
      ({ s.sink with lastPts := e.frame.presentationTime }.passFrame
        (h264or5FrameType hNumber e.frame.data) e.frame c₁).1.recvBuf =
          withStartCodes (s.next hNumber e).1 := by
  have hunits : withStartCodes (s.waiting ++ [e.frame.data]) = s.sink.recvBuf ++ e.frame.data := by
    rw [withStartCodes_snoc, hs.buffer]
  have hnext : s.next hNumber e = assemble hNumber s.waiting e.frame.data c₁.isMetadataOk := by
    rw [next, if_neg (by simp [hlate]), if_neg (by omega), hc]
  rw [hnext, OutputSink.passed, if_neg (by simp [hlate]), if_neg (by omega),
    if_neg (by rcases hframer with rfl | rfl <;> decide), hc]
  unfold assemble OutputSink.passFrame
  dsimp only
  rw [hunits]
  split
  · exact ⟨rfl, hunits.symm⟩
  · exact ⟨rfl, rfl⟩

/-- A step of the sink, with the start code that is put in after it. -/
theorem step_some (hs : s.Holds hNumber) (h : s.step hNumber framer e = some t) :
    ∃ sink c, OutputSink.h264or5Frame hNumber framer s.sink e.frame e.client = .ok (sink, c) ∧
      t = ⟨sink.continuePlaying, (s.next hNumber e).1⟩ := by
  unfold step OutputSink.afterGettingFrame OutputSink.doAfterGettingFrame at h
  rw [hs.kind] at h
  dsimp only at h
  cases hf : OutputSink.h264or5Frame hNumber framer s.sink e.frame e.client with
  | error err =>
    rw [hf] at h
    cases h
  | ok r =>
    rw [hf] at h
    cases h
    exact ⟨r.1, r.2, rfl, rfl⟩

theorem recvBuf_continued {sink : OutputSink} (hkind : sink.kind = .h264or5 hNumber) :
    sink.continuePlaying.recvBuf = sink.recvBuf ++ startCode := by
  simp only [OutputSink.continuePlaying, hkind]

/-- The length of what waits after an accepted unit. -/
theorem length_assemble (hs : s.Holds hNumber) (unit : Bytes) (ready : Bool) :
    (withStartCodes (assemble hNumber s.waiting unit ready).1).length =
      if h264or5FrameType hNumber unit = .paramFrame ∧ s.sink.recvBuf.length + unit.length ≤ 1024
      then s.sink.recvBuf.length + unit.length else 0 := by
  have hunits : withStartCodes (s.waiting ++ [unit]) = s.sink.recvBuf ++ unit := by
    rw [withStartCodes_snoc, hs.buffer]
  unfold assemble
  dsimp only
  rw [hunits, List.length_append]
  split
  · rw [hunits, List.length_append]
  · rfl

/-- What one completion leaves. -/
theorem step_spec (hsize : 1024 ≤ sinkBufSize)
    (hframer : framer = some .h264 ∨ framer = some .h265) (hs : s.Holds hNumber)
    (ht : s.step hNumber framer e = some t) :
    (s.Assembled hNumber framer sinkBufSize e ↔ s.Accepted hNumber sinkBufSize e) ∧
      (s.Accepted hNumber sinkBufSize e → t.Holds hNumber) := by
  obtain ⟨sink, c, hf, rfl⟩ := step_some hs ht
  rcases h264or5Frame_ok hframer hf with ⟨hlate, heq⟩ | ⟨hlate, htrunc, heq⟩ |
    ⟨c₁, hlate, htrunc, hc, heq⟩
  · -- a late frame leaves the start code before it in the buffer
    obtain ⟨rfl, rfl⟩ := Prod.mk.inj heq
    have hnot : ¬ s.Accepted hNumber sinkBufSize e := by
      rintro ⟨h, -⟩
      cases h.symm.trans hlate
    refine ⟨iff_of_false ?_ hnot, fun h => absurd h hnot⟩
    rintro ⟨-, h⟩
    have hbuf := congrArg List.length (h _ ht).1
    rw [recvBuf_continued hs.kind, next, if_pos hlate, hs.buffer] at hbuf
    simp [startCode] at hbuf
  · obtain ⟨rfl, rfl⟩ := Prod.mk.inj heq
    have hnext : s.next hNumber e = ([], []) := by
      rw [next, if_neg (by simp [hlate]), if_pos htrunc]
    have hbuf : ({ s.sink with lastPts := e.frame.presentationTime, recvBuf := [] } :
        OutputSink).continuePlaying.recvBuf = startCode := recvBuf_continued hs.kind
    refine ⟨iff_of_true ⟨?_, fun t' ht' => ?_⟩ ⟨hlate, fun h => by omega⟩, fun _ => ⟨?_, ?_⟩⟩
    · rw [hnext, OutputSink.passed, if_neg (by simp [hlate]), if_pos htrunc]
    · cases ht.symm.trans ht'
      rw [hnext, hbuf]
      exact ⟨rfl, show 4 ≤ _ by omega⟩
    · exact (OutputSink.continuePlaying_kept _).1.trans hs.kind
    · rw [hnext]
      exact hbuf
  · obtain ⟨hpassed, hwaits⟩ := accepted_spec hs hframer hlate htrunc hc
    have hnext : s.next hNumber e = assemble hNumber s.waiting e.frame.data c₁.isMetadataOk := by
      rw [next, if_neg (by simp [hlate]), if_neg (by omega), hc]
    have hsink := congrArg Prod.fst heq
    dsimp only at hsink
    have hkind : sink.kind = .h264or5 hNumber := by
      rw [hsink]
      exact (OutputSink.passFrame_passes _ _ _ _).kind.trans hs.kind
    rw [← hsink] at hwaits
    have hbuf : sink.continuePlaying.recvBuf = withStartCodes (s.next hNumber e).1 ++ startCode := by
      rw [recvBuf_continued hkind, hwaits]
    have hlen : sink.continuePlaying.recvBuf.length ≤ sinkBufSize ↔
        s.Accepted hNumber sinkBufSize e := by
      rw [hbuf, List.length_append, hnext, length_assemble hs]
      show _ + 4 ≤ _ ↔ _
      unfold Accepted
      split
      · next hwait => simp [hlate, htrunc, hwait.1, hwait.2]
      · next hwait =>
        refine iff_of_true (by omega) ⟨hlate, fun _ h1 h2 => absurd ⟨h1, h2⟩ hwait⟩
    refine ⟨⟨fun h => hlen.1 (h.2 _ ht).2, fun h => ⟨hpassed, fun t' ht' => ?_⟩⟩, fun _ => ?_⟩
    · cases ht.symm.trans ht'
      exact ⟨hbuf, hlen.2 h⟩
    · exact ⟨(OutputSink.continuePlaying_kept _).1.trans hkind, hbuf⟩

/-! ## Runs -/

/-- The sink when playing has started: a start code is there for the first frame. -/
def started (sink : OutputSink) : Assembly := ⟨sink.continuePlaying, []⟩

theorem holds_started {index : Nat} {sink : OutputSink}
    (h : OutputSink.createNew (.h264or5 hNumber) index sinkBufSize = some sink) :
    (started sink).Holds hNumber ∧ 1024 ≤ sinkBufSize := by
  unfold OutputSink.createNew at h
  split at h
  · cases h
  · next hsize =>
    cases h
    exact ⟨⟨rfl, rfl⟩, Nat.le_of_not_lt hsize⟩

/-- **The buffer and the frames passed on are those of the units received** along a run of
completions if and only if no frame is late and every parameter unit that waits leaves room for a
start code. -/
theorem assembled_iff {index : Nat} {sink : OutputSink} {es : List Completion}
    (hsink : OutputSink.createNew (.h264or5 hNumber) index sinkBufSize = some sink)
    (hframer : framer = some .h264 ∨ framer = some .h265)
    (ht : Run.exec (step hNumber framer) (started sink) es = some t) :
    Run.Each (step hNumber framer) (Assembled hNumber framer sinkBufSize) (started sink) es ↔
      Run.Each (step hNumber framer) (Accepted hNumber sinkBufSize) (started sink) es := by
  obtain ⟨hstart, hsize⟩ := holds_started hsink
  exact Run.each_iff_of_exec (fun _ _ _ hs hacc hst => (step_spec hsize hframer hs hst).2 hacc)
    (fun _ _ _ hs hst => (step_spec hsize hframer hs hst).1) ht hstart

/-- A unit that arrives when the metadata is ready. -/
def unitAt (sec : Int64) (unit : Bytes) : Completion :=
  ⟨{ data := unit, presentationTime := { tvSec := sec }, timeOfDay := 0 }, { isMetadataOk := true }⟩

def h264Sink : OutputSink := { kind := .h264or5 264, subStreamIndex := 0 }

/-- A parameter set and a picture are passed on as one frame. -/
theorem assembled_picture :
    Run.Each (step 264 (some .h264)) (Assembled 264 (some .h264) videoSinkBufferSize)
      (started h264Sink) [unitAt 100 [0x67, 0x42], unitAt 100 [0x65, 0x88]] := by
  refine (@assembled_iff 264 (some .h264) videoSinkBufferSize
    ⟨⟨.h264or5 264, 0, { tvSec := 100 }, startCode, []⟩, []⟩ 0 h264Sink _ rfl (.inl rfl) rfl).2 ?_
  refine ⟨⟨by decide, fun _ _ _ => by decide⟩, fun s hs => ⟨?_, fun _ _ => trivial⟩⟩
  cases hs
  exact ⟨by decide, fun _ _ _ => by decide⟩

/-- A frame that is late by a second: its start code stays in front of the next unit. -/
theorem late_startCode_stays :
    ¬ Run.Each (step 264 (some .h264)) (Assembled 264 (some .h264) videoSinkBufferSize)
      (started h264Sink) [unitAt 100 [0x41, 0x9A], unitAt 99 [0x41, 0x9B]] := by
  rintro ⟨-, h⟩
  have hbuf := ((h _ rfl).1.2 _ rfl).1
  exact absurd hbuf (by decide)

end Assembly

end RtspSource

end StreamSwitch
