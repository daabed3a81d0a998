import Mathlib.Data.List.DropRight
import StreamSwitch.Link.Publish
import StreamSwitch.Link.Metadata

/-!
# Counters of the two ends

A source sends frames, and the network hands each published message to a sink or
loses it. `MediaLink` is the pair, with a log of the messages; `step_of_names` and
`step_of_refused` say all that one call of `SendLiveMediaFrame` can do to it.

`statistic_agree`: when nothing is lost, the counters of both ends are the ones
computed from the history of frames, modulo `2^64`.
-/

namespace StreamSwitch

/-- Both ends of a media channel. The log holds each published media message, oldest first, with
whether it was delivered. -/
structure MediaLink where
  source : StreamSource
  sink : StreamSink
  log : List (ProtoMediaFrameMsg × Bool) := []

/-- The position that a frame names. -/
def LiveFrame.ix (f : LiveFrame) : Nat := f.info.subStreamIndex.toInt.toNat

namespace MediaLink

open StreamSource StreamSink

variable (pb : Protobuf)

/-- The media message inside a published message. -/
def mediaOf (m : PublishMsg) : Option ProtoMediaFrameMsg :=
  (pb.commonPacket.decode m.packetFrame).bind fun p => pb.mediaFrameMsg.decode p.getBody

/-- The sink reads the messages in order. -/
def readAll (k : StreamSink) (ms : List PublishMsg) : Except Fault StreamSink :=
  ms.foldlM (fun k m => (k.onSubRead pb m).map Handled.sink) k

/-- One call of `SendLiveMediaFrame`; the flag says whether what it publishes is delivered. -/
def step (l : MediaLink) (e : LiveFrame × Bool) : Option MediaLink :=
  match sendLiveMediaFrame pb l.source e.1 with
  | .error _ => none
  | .ok r =>
    match if e.2 then readAll pb l.sink r.published else .ok l.sink with
    | .error _ => none
    | .ok sink => some
      { source := r.source
        sink := sink
        log := l.log ++ r.published.filterMap fun m => (mediaOf pb m).map fun x => (x, e.2) }

/-- The sink has decoded the metadata of the source. -/
structure Linked (l : MediaLink) : Prop where
  source : MediaInv l.source
  routes : l.sink.RoutesMedia
  decoded : l.sink.streamMeta = (ProtoMetaRep.ofMetadata l.source.user.streamMeta).metadata
  size : l.sink.statistic.length = l.source.user.streamMeta.subStreams.length

variable {l : MediaLink}

/-- A refused frame changes nothing on either end. -/
theorem step_of_refused (h : l.Linked) {f : LiveFrame} (hp : ¬ Passes l.source f) (b : Bool) :
    l.step pb (f, b) = some l := by
  obtain ⟨text, he⟩ := sendLiveMediaFrame_of_not_passes pb h.source.init hp
  cases b <;> simp [step, he, readAll, pure, Except.pure]

/-- The sink accepts what names a sub-stream of the source. -/
theorem accepts_of_names (h : l.Linked) {f : LiveFrame} (hn : NamesSubStream l.source f)
    {info : MediaFrameInfo} (h1 : info.subStreamIndex = f.info.subStreamIndex)
    (h2 : info.ssrc = f.info.ssrc) : l.sink.Accepts info := by
  have hs := (metadata_ofMetadata l.source.user.streamMeta)
  refine ⟨?_, by rw [h1]; exact hn.2.1, ?_⟩
  · rw [h.decoded, hs.ssrc, h2]
    exact hn.1
  · rw [h1, h.decoded, hs.length, int32OfSize_eq h.source.bound]
    exact hn.2.2

/-- **A frame that names a sub-stream**: the source counts and numbers it, the message is logged,
and the sink counts it when it is delivered. -/
theorem step_of_names (h : l.Linked) {f : LiveFrame} (hn : NamesSubStream l.source f) (b : Bool) :
    ∃ st sk msg,
      l.source.user.statistic[f.ix]? = some st ∧ l.sink.statistic[f.ix]? = some sk ∧
      msg.frameInfo.subStreamIndex = f.info.subStreamIndex ∧
      msg.frameInfo.frameType = f.info.frameType ∧
      msg.seq.getD 0 = (st.send f.info.frameType f.frameSize).2 ∧
      l.step pb (f, b) = some
        { source := accepted l.source f st
          sink := { l.sink with
            statistic := if b then l.sink.statistic.set f.ix (sk.receive f.info.frameType
              (blobSize (publishedMsg pb f st).extraBlob) (msg.seq.getD 0))
              else l.sink.statistic }
          log := l.log ++ [(msg, b)] } := by
  obtain ⟨st, hst⟩ := at?_of_namesSubStream h.source hn
  have hp : Passes l.source f := (passes_iff h.source f).2 ⟨hn.1, hn.2.2⟩
  have hsend := sendLiveMediaFrame_of_passes pb h.source.init hp
  rw [hst] at hsend
  obtain ⟨msg, hd, hseq, hi⟩ := decode_mediaMsg pb f.info (st.send f.info.frameType f.frameSize).2
  have hix : msg.frameInfo.subStreamIndex = f.info.subStreamIndex := by rw [hi]
  have htype : msg.frameInfo.frameType = f.info.frameType := by rw [hi]
  have hacc : l.sink.Accepts msg.frameInfo := accepts_of_names h hn hix (by rw [hi])
  have hlt : f.ix < l.sink.statistic.length := by
    have := hn.2
    rw [h.size, LiveFrame.ix]
    omega
  have hsk := List.getElem?_eq_getElem hlt
  refine ⟨st, _, msg, ?_, hsk, hix, htype, hseq, ?_⟩
  · rw [← hst, at?_of_nonneg hn.2.1]
    rfl
  · -- the published message carries `msg`, and the sink's handler counts it
    have hof : mediaOf pb (publishedMsg pb f st) = some msg := by
      simp only [mediaOf, publishedMsg, Codec.decode_encode, Option.bind_some]
      exact hd
    have hread := StreamSink.onSubRead_mediaMsg h.routes (m := publishedMsg pb f st) rfl rfl
    rw [mediaFrameHandler_of_accepts _ hd hacc,
      countFrame_of_some _ _ (by rw [hix]; exact hn.2.1) (by rw [hix]; exact hsk), hix, htype]
      at hread
    cases b with
    | false => simp [step, hsend, hof]
    | true =>
      simp only [step, hsend, readAll, List.foldlM_cons, List.foldlM_nil, hread, if_true,
        List.filterMap_cons, hof, List.filterMap_nil, Option.map_some]
      rfl

/-- A step keeps the link, and the metadata of the source. -/
theorem linked_step (h : l.Linked) {f : LiveFrame} (b : Bool) (hb : InBounds l.source
    (.sendLiveMediaFrame f)) {l' : MediaLink} (hs : l.step pb (f, b) = some l') :
    l'.Linked ∧ l'.source.user.streamMeta = l.source.user.streamMeta := by
  by_cases hp : Passes l.source f
  · obtain ⟨h1, h2⟩ := (passes_iff h.source f).1 hp
    obtain ⟨st, sk, msg, -, -, -, -, -, he⟩ :=
      step_of_names pb h (f := f) ⟨h1, hb h1, h2⟩ b
    rw [he] at hs
    cases hs
    refine ⟨⟨⟨h.source.init, ?_, h.source.bound⟩, h.routes, h.decoded, ?_⟩, rfl⟩
    · show (l.source.user.statistic.set _ _).length = _
      rw [List.length_set]
      exact h.source.aligned
    · cases b with
      | false => exact h.size
      | true => exact List.length_set.trans h.size
  · rw [step_of_refused pb h hp] at hs
    cases hs
    exact ⟨h, rfl⟩

end MediaLink

/-! ## Counters of a history -/

namespace History

/-- The frame is a key frame. -/
def isKey (f : LiveFrame) : Bool := f.info.frameType = .keyFrame

/-- The bytes of the frames `h`. -/
def bytes (h : List LiveFrame) : Nat := (h.map fun f => f.frameSize.toNat).sum

/-- The frames up to the latest key frame; none when there is no key frame. -/
def uptoKey (h : List LiveFrame) : List LiveFrame := h.rdropWhile fun f => !isKey f

/-- The frames after the latest key frame; all when there is no key frame. -/
def sinceKey (h : List LiveFrame) : List LiveFrame := h.rtakeWhile fun f => !isKey f

/-- The number of frames from the latest key frame on, or of all frames. -/
def curGov (h : List LiveFrame) : Nat :=
  if uptoKey h = [] then (sinceKey h).length else (sinceKey h).length + 1

/-- The value that `curGov` had just before the latest key frame. -/
def lastGov (h : List LiveFrame) : Nat :=
  if uptoKey h = [] then 0 else curGov (uptoKey h).dropLast

/-- The counters of sub-stream `i` after the data and key frames `h`, modulo `2^64`. -/
def statistic (i : Nat) (mediaType : SubStreamMediaType) (h : List LiveFrame) :
    SubStreamMediaStatistic :=
  { subStreamIndex := Int32.ofNat i
    mediaType := mediaType
    dataBytes := UInt64.ofNat (bytes h)
    keyBytes := UInt64.ofNat (bytes (h.filter isKey))
    lostFrames := 0
    dataFrames := UInt64.ofNat h.length
    keyFrames := UInt64.ofNat (h.filter isKey).length
    lastGov := UInt64.ofNat (lastGov h)
    curGov := UInt64.ofNat (curGov h)
    lastSeq := UInt64.ofNat h.length }

/-- The data and key frames for sub-stream `i` of the stream `ssrc`. -/
def ofSubStream (ssrc : UInt32) (i : Nat) (fs : List LiveFrame) : List LiveFrame :=
  fs.filter fun f => f.info.ssrc = ssrc ∧ f.info.subStreamIndex.toInt = i ∧
    f.info.frameType.isMedia

/-- The counters of all sub-streams of `m` after the frames `fs`. -/
def statistics (m : StreamMetadata) (fs : List LiveFrame) : List SubStreamMediaStatistic :=
  m.subStreams.mapIdx fun i sub => statistic i sub.mediaType (ofSubStream m.ssrc i fs)

variable {h : List LiveFrame} {f : LiveFrame}

theorem bytes_append (h : List LiveFrame) (f : LiveFrame) :
    UInt64.ofNat (bytes (h ++ [f])) = UInt64.ofNat (bytes h) + f.frameSize := by
  simp [bytes, UInt64.ofNat_add]

theorem length_append (h : List LiveFrame) (f : LiveFrame) :
    UInt64.ofNat (h ++ [f]).length = UInt64.ofNat h.length + 1 := by
  simp [UInt64.ofNat_add]

/-- A key frame starts a new group. -/
theorem gov_append_key (hk : isKey f = true) :
    curGov (h ++ [f]) = 1 ∧ lastGov (h ++ [f]) = curGov h := by
  have h1 : uptoKey (h ++ [f]) = h ++ [f] := List.rdropWhile_concat_neg _ _ _ (by simp [hk])
  have h2 : sinceKey (h ++ [f]) = [] := List.rtakeWhile_concat_neg _ _ _ (by simp [hk])
  simp [curGov, lastGov, h1, h2]

/-- Any other frame extends the current one. -/
theorem gov_append_data (hk : isKey f = false) :
    curGov (h ++ [f]) = curGov h + 1 ∧ lastGov (h ++ [f]) = lastGov h := by
  have h1 : uptoKey (h ++ [f]) = uptoKey h := List.rdropWhile_concat_pos _ _ _ (by simp [hk])
  have h2 : sinceKey (h ++ [f]) = sinceKey h ++ [f] :=
    List.rtakeWhile_concat_pos _ _ _ (by simp [hk])
  refine ⟨?_, by rw [lastGov, lastGov, h1]⟩
  rw [curGov, curGov, h1, h2, List.length_append, List.length_singleton]
  split <;> rfl

theorem statistic_append_key (i : Nat) (mediaType : SubStreamMediaType) (hk : isKey f = true) :
    statistic i mediaType (h ++ [f]) =
      let st := statistic i mediaType h
      { st with
        dataBytes := st.dataBytes + f.frameSize
        keyBytes := st.keyBytes + f.frameSize
        dataFrames := st.dataFrames + 1
        keyFrames := st.keyFrames + 1
        lastGov := st.curGov
        curGov := 1
        lastSeq := st.lastSeq + 1 } := by
  obtain ⟨h1, h2⟩ := gov_append_key (h := h) hk
  have h3 : (h ++ [f]).filter isKey = h.filter isKey ++ [f] := by simp [hk]
  simp only [statistic, h1, h2, h3, bytes_append, length_append]
  rfl

theorem statistic_append_data (i : Nat) (mediaType : SubStreamMediaType) (hk : isKey f = false) :
    statistic i mediaType (h ++ [f]) =
      let st := statistic i mediaType h
      { st with
        dataBytes := st.dataBytes + f.frameSize
        dataFrames := st.dataFrames + 1
        curGov := st.curGov + 1
        lastSeq := st.lastSeq + 1 } := by
  obtain ⟨h1, h2⟩ := gov_append_data (h := h) hk
  have h3 : (h ++ [f]).filter isKey = h.filter isKey := by simp [hk]
  simp only [statistic, h1, h2, h3, bytes_append, length_append, UInt64.ofNat_add]
  rfl

/-- The source counts a data or key frame into the history, with the next number. -/
theorem send_statistic (i : Nat) (mediaType : SubStreamMediaType)
    (hm : f.info.frameType.isMedia = true) :
    (statistic i mediaType h).send f.info.frameType f.frameSize =
      (statistic i mediaType (h ++ [f]), (statistic i mediaType h).lastSeq + 1) := by
  cases ht : f.info.frameType with
  | keyFrame =>
    rw [statistic_append_key i mediaType (by simp [isKey, ht])]
    rfl
  | dataFrame =>
    rw [statistic_append_data i mediaType (by simp [isKey, ht])]
    rfl
  | paramFrame => rw [ht] at hm; cases hm
  | eofFrame => rw [ht] at hm; cases hm

/-- The sink counts it the same way when it has the number the source gave it. -/
theorem receive_statistic (i : Nat) (mediaType : SubStreamMediaType)
    (hm : f.info.frameType.isMedia = true) :
    (statistic i mediaType h).receive f.info.frameType f.frameSize
      ((statistic i mediaType h).lastSeq + 1) = statistic i mediaType (h ++ [f]) := by
  have hseq : ¬ ((statistic i mediaType h).lastSeq ≠ 0 ∧
      (statistic i mediaType h).lastSeq + 1 > (statistic i mediaType h).lastSeq + 1) :=
    fun hc => UInt64.lt_irrefl _ hc.2
  cases ht : f.info.frameType with
  | keyFrame =>
    rw [statistic_append_key i mediaType (by simp [isKey, ht])]
    simp only [SubStreamMediaStatistic.receive, true_or, if_true, if_neg hseq]
    rfl
  | dataFrame =>
    rw [statistic_append_data i mediaType (by simp [isKey, ht])]
    simp only [SubStreamMediaStatistic.receive, or_true, if_true, if_neg hseq]
    rfl
  | paramFrame => rw [ht] at hm; cases hm
  | eofFrame => rw [ht] at hm; cases hm

variable {m : StreamMetadata} {fs : List LiveFrame}

/-- A frame that is not counted leaves the counters of the history. -/
theorem statistics_append_of_not
    (hno : f.info.ssrc = m.ssrc → f.info.frameType.isMedia = true →
      ¬ (0 ≤ f.info.subStreamIndex.toInt ∧ f.info.subStreamIndex.toInt < m.subStreams.length)) :
    statistics m (fs ++ [f]) = statistics m fs := by
  refine List.ext_getElem (by simp [statistics]) ?_
  intro i h1 h2
  have hi : i < m.subStreams.length := by simpa [statistics] using h1
  have hf : ¬ (f.info.ssrc = m.ssrc ∧ f.info.subStreamIndex.toInt = i ∧
      f.info.frameType.isMedia = true) := by
    rintro ⟨hs, hx, hm⟩
    exact hno hs hm (by omega)
  simp only [statistics, List.getElem_mapIdx, ofSubStream, List.filter_append]
  simp [hf]

/-- A counted frame changes the counters of its sub-stream only. -/
theorem statistics_append {sub : SubStreamMetadata} (hs : f.info.ssrc = m.ssrc)
    (h0 : 0 ≤ f.info.subStreamIndex.toInt) (hsub : m.subStreams[f.ix]? = some sub)
    (hm : f.info.frameType.isMedia = true) :
    statistics m (fs ++ [f]) = (statistics m fs).set f.ix
      (statistic f.ix sub.mediaType (ofSubStream m.ssrc f.ix fs ++ [f])) := by
  have hix : f.info.subStreamIndex.toInt = f.ix := by
    unfold LiveFrame.ix
    omega
  refine List.ext_getElem (by simp [statistics]) ?_
  intro i h1 h2
  have hi : i < m.subStreams.length := by simpa [statistics] using h1
  rw [List.getElem_set]
  simp only [statistics, List.getElem_mapIdx, ofSubStream, List.filter_append]
  by_cases he : f.ix = i
  · subst he
    obtain ⟨hlt, hg⟩ := List.getElem?_eq_some_iff.1 hsub
    simp [hs, hix, hm, hg]
  · have hne : ¬ (f.info.subStreamIndex.toInt = (i : Int)) := by omega
    simp [he, hne]

theorem statistics_getElem? (fs : List LiveFrame) {sub : SubStreamMetadata} {i : Nat}
    (hsub : m.subStreams[i]? = some sub) :
    (statistics m fs)[i]? = some (statistic i sub.mediaType (ofSubStream m.ssrc i fs)) := by
  simp [statistics, List.getElem?_mapIdx, hsub]

/-- Freshly reset counters are those of the empty history. -/
theorem statistics_nil (m : StreamMetadata) :
    statistics m [] = resetStatistic m.subStreams m.subStreams.length := by
  simp [statistics, resetStatistic, ofSubStream, statistic, bytes, lastGov, curGov, uptoKey,
    sinceKey]

end History

/-! ## Lossless runs -/

/-- The blob that a sink reads has the size of the frame. -/
theorem blobSize_publishedMsg (pb : Protobuf) {f : LiveFrame} (h : f.DataOk)
    (st : SubStreamMediaStatistic) :
    blobSize (StreamSource.publishedMsg pb f st).extraBlob = f.frameSize := by
  by_cases h0 : f.frameSize = 0
  · simp [StreamSource.publishedMsg, h0, PublishMsg.extraBlob, blobSize]
  · obtain ⟨b, hb, hlen⟩ := h h0
    have hpos : f.frameSize.toNat ≠ 0 := fun hc => h0 (UInt64.toNat_inj.1 hc)
    cases b with
    | nil => exact absurd hlen.symm hpos
    | cons x xs =>
      have ht : (x :: xs).take f.frameSize.toNat = x :: xs := by
        rw [← hlen, List.take_length]
      simp only [StreamSource.publishedMsg, PublishMsg.extraBlob, hb, Option.map_some, ht,
        ne_eq, h0, not_false_eq_true, if_true, blobSize, Option.getD_some]
      rw [hlen, UInt64.ofNat_toNat]

namespace MediaLink

open StreamSource StreamSink

/-- Both ends hold the counters of the history `fs` of the stream `m`. -/
structure Agree (m : StreamMetadata) (fs : List LiveFrame) (l : MediaLink) : Prop where
  linked : l.Linked
  streamMeta : l.source.user.streamMeta = m
  source : l.source.user.statistic = History.statistics m fs
  sink : l.sink.statistic = History.statistics m fs

variable (pb : Protobuf) {m : StreamMetadata} {fs : List LiveFrame} {l : MediaLink}

/-- What an accepted frame makes of the counters of its sub-stream, at both ends. -/
theorem counters_append (fs : List LiveFrame) {f : LiveFrame} {sub : SubStreamMetadata}
    (hs : f.info.ssrc = m.ssrc)
    (h0 : 0 ≤ f.info.subStreamIndex.toInt) (hsub : m.subStreams[f.ix]? = some sub) :
    let st := History.statistic f.ix sub.mediaType (History.ofSubStream m.ssrc f.ix fs)
    History.statistics m (fs ++ [f]) = (History.statistics m fs).set f.ix
        (st.send f.info.frameType f.frameSize).1 ∧
      History.statistics m (fs ++ [f]) = (History.statistics m fs).set f.ix
        (st.receive f.info.frameType f.frameSize (st.send f.info.frameType f.frameSize).2) := by
  intro st
  by_cases hm : f.info.frameType.isMedia = true
  · have hsend : st.send f.info.frameType f.frameSize = _ :=
      History.send_statistic f.ix sub.mediaType hm
    rw [hsend, History.receive_statistic f.ix sub.mediaType hm]
    exact ⟨History.statistics_append hs h0 hsub hm, History.statistics_append hs h0 hsub hm⟩
  · -- no media data: neither end touches its counters
    have hno : ¬ (f.info.frameType = .keyFrame ∨ f.info.frameType = .dataFrame) := by
      rintro (ht | ht) <;> rw [ht] at hm <;> exact hm rfl
    have hset : (History.statistics m fs).set f.ix st = History.statistics m fs := by
      obtain ⟨hlt, hg⟩ := List.getElem?_eq_some_iff.1 (History.statistics_getElem? fs hsub)
      rw [show st = (History.statistics m fs)[f.ix] from hg.symm, List.set_getElem_self]
    have happ : History.statistics m (fs ++ [f]) = History.statistics m fs :=
      History.statistics_append_of_not fun _ ht => absurd ht hm
    rw [SubStreamMediaStatistic.send, if_neg hno, SubStreamMediaStatistic.receive, if_neg hno,
      happ, hset]
    exact ⟨rfl, rfl⟩

/-- One delivered frame keeps the agreement. -/
theorem agree_step (h : Agree m fs l) {f : LiveFrame} (hd : f.DataOk)
    (hb : m.ssrc = f.info.ssrc → 0 ≤ f.info.subStreamIndex.toInt) :
    ∃ l', l.step pb (f, true) = some l' ∧ Agree m (fs ++ [f]) l' := by
  have hb' : InBounds l.source (.sendLiveMediaFrame f) := by
    intro hs
    exact hb (h.streamMeta ▸ hs)
  by_cases hp : Passes l.source f
  · obtain ⟨h1, h2⟩ := (passes_iff h.linked.source f).1 hp
    obtain ⟨st, sk, msg, hst, hsk, -, -, hseq, he⟩ :=
      step_of_names pb h.linked (f := f) ⟨h1, hb' h1, h2⟩ true
    have hl := linked_step pb h.linked true hb' he
    rw [h.streamMeta] at h1 h2
    have h0 := hb h1
    obtain ⟨sub, hsub⟩ : ∃ sub, m.subStreams[f.ix]? = some sub :=
      ⟨_, List.getElem?_eq_getElem (by unfold LiveFrame.ix; omega)⟩
    -- both ends start from the counters of the history
    rw [h.source, History.statistics_getElem? fs hsub] at hst
    rw [h.sink, History.statistics_getElem? fs hsub] at hsk
    cases hst
    cases hsk
    obtain ⟨h3, h4⟩ := counters_append fs h1.symm h0 hsub
    refine ⟨_, he, hl.1, hl.2.trans h.streamMeta, ?_, ?_⟩
    · rw [h3, ← h.source]
      rfl
    · rw [h4, ← h.sink, ← hseq]
      exact congrArg (l.sink.statistic.set f.ix) (by rw [blobSize_publishedMsg pb hd])
  · have hsame : History.statistics m (fs ++ [f]) = History.statistics m fs := by
      refine History.statistics_append_of_not fun hs _ hx => hp ?_
      refine (passes_iff h.linked.source f).2 ?_
      rw [h.streamMeta]
      exact ⟨hs.symm, hx.2⟩
    exact ⟨l, step_of_refused pb h.linked hp true, h.linked, h.streamMeta,
      hsame ▸ h.source, hsame ▸ h.sink⟩

/-- Delivered frames keep the agreement. -/
theorem agree_run (h : Agree m fs l) (gs : List LiveFrame)
    (hg : ∀ f ∈ gs, f.DataOk ∧ (m.ssrc = f.info.ssrc → 0 ≤ f.info.subStreamIndex.toInt)) :
    ∃ l', Run.exec (step pb) l (gs.map fun f => (f, true)) = some l' ∧ Agree m (fs ++ gs) l' := by
  induction gs generalizing fs l with
  | nil => exact ⟨l, rfl, by rw [List.append_nil]; exact h⟩
  | cons f gs ih =>
    obtain ⟨hd, hb⟩ := hg f List.mem_cons_self
    obtain ⟨l1, he, h1⟩ := agree_step pb h hd hb
    obtain ⟨l2, hr, h2⟩ := ih h1 fun f' hf' => hg f' (List.mem_cons_of_mem f hf')
    refine ⟨l2, ?_, by rw [List.append_cons]; exact h2⟩
    rw [List.map_cons, Run.exec_cons, he]
    exact hr

/-- The sink has just decoded the metadata of the source, and both have just reset their
counters. -/
structure Synced (l : MediaLink) : Prop where
  init : l.source.isInit = true
  bound : l.source.user.streamMeta.subStreams.length < 2 ^ 31
  sourceReset : l.source.user.statistic = resetStatistic l.source.user.streamMeta.subStreams
    l.source.user.streamMeta.subStreams.length
  routes : l.sink.RoutesMedia
  decoded : l.sink.streamMeta = (ProtoMetaRep.ofMetadata l.source.user.streamMeta).metadata
  sinkReset : l.sink.statistic = resetStatistic l.sink.streamMeta.subStreams
    l.sink.streamMeta.subStreams.length

/-- Reset counters depend on the media types only. -/
theorem resetStatistic_ofMetadata (m : StreamMetadata) :
    resetStatistic (ProtoMetaRep.ofMetadata m).metadata.subStreams m.subStreams.length =
      resetStatistic m.subStreams m.subStreams.length := by
  have hlen := ofMetadata_subStreams_length m
  refine List.ext_getElem? fun i => ?_
  rw [resetStatistic_getElem?, resetStatistic_getElem?, ← hlen, List.take_length, hlen,
    List.take_length, ofMetadata_subStreams_getElem?, Option.map_map]
  cases hsub : m.subStreams[i]? with
  | none => rfl
  | some sub =>
    have hm := (toSubStream_ofSubStream i sub).mediaType
    simp only [Option.map_some, Function.comp, hm]

theorem Synced.linked (h : l.Synced) : l.Linked := by
  refine ⟨⟨h.init, ?_, h.bound⟩, h.routes, h.decoded, ?_⟩
  · rw [StreamSource.Aligned, h.sourceReset, resetStatistic_length, Nat.min_self]
  · rw [h.sinkReset, resetStatistic_length, Nat.min_self, h.decoded,
      ofMetadata_subStreams_length]

theorem Synced.agree (h : l.Synced) : Agree l.source.user.streamMeta [] l := by
  refine ⟨h.linked, rfl, ?_, ?_⟩
  · rw [h.sourceReset, History.statistics_nil]
  · rw [h.sinkReset, h.decoded, ofMetadata_subStreams_length, resetStatistic_ofMetadata,
      History.statistics_nil]

/-- **Both ends count alike** when every published message is delivered: the run goes through, and
all counters are those of the history of frames. -/
theorem statistic_agree (h : l.Synced) (fs : List LiveFrame)
    (hfs : ∀ f ∈ fs, f.DataOk ∧
      (l.source.user.streamMeta.ssrc = f.info.ssrc → 0 ≤ f.info.subStreamIndex.toInt)) :
    ∃ l', Run.exec (step pb) l (fs.map fun f => (f, true)) = some l' ∧
      l'.source.user.statistic = History.statistics l.source.user.streamMeta fs ∧
      l'.sink.statistic = History.statistics l.source.user.streamMeta fs := by
  obtain ⟨l', he, ha⟩ := agree_run pb h.agree fs hfs
  rw [List.nil_append] at ha
  exact ⟨l', he, ha.source, ha.sink⟩

/-- A source and a sink with one video sub-stream, after the metadata has been exchanged. -/
def demo : MediaLink :=
  let m : StreamMetadata := { ssrc := 7, subStreams := [{}] }
  { source := fresh (fun _ => none) "stsw" |> fun s =>
      { s with user := { s.user with streamMeta := m, statistic := [{}] } }
    sink := (initBase {} true).configure (.ofMetadata m) }

theorem demo_synced : demo.Synced :=
  ⟨rfl, by decide, by decide, rfl, by decide, by decide⟩

/-- A key frame and a data frame. -/
def demoFrames : List LiveFrame :=
  [{ info := { ssrc := 7, frameType := .keyFrame }, frameData := some [1, 2], frameSize := 2 },
   { info := { ssrc := 7 }, frameData := some [3], frameSize := 1 }]

theorem statistic_agree_demo :
    ∃ l', Run.exec (step wireProtobuf) demo (demoFrames.map fun f => (f, true)) = some l' ∧
      l'.source.user.statistic = History.statistics demo.source.user.streamMeta demoFrames ∧
      l'.sink.statistic = History.statistics demo.source.user.streamMeta demoFrames := by
  refine statistic_agree wireProtobuf demo_synced demoFrames ?_
  intro f hf
  simp only [demoFrames, List.mem_cons, List.not_mem_nil, or_false] at hf
  rcases hf with rfl | rfl
  · exact ⟨fun _ => ⟨_, rfl, rfl⟩, fun _ => by decide⟩
  · exact ⟨fun _ => ⟨_, rfl, rfl⟩, fun _ => by decide⟩

end MediaLink

end StreamSwitch
