import StreamSwitch.Source.Media
import StreamSwitch.Sink.Media

/-!
# What a source publishes, a sink accepts

Runs of `set_stream_meta` and `SendLiveMediaFrame` on an initialised source.
`send_checked_iff`: along a run the counters stay aligned with the metadata and
every call of `SendLiveMediaFrame` is checked (it returns 0 exactly for a
sub-stream of the metadata, touches nothing when it refuses, and publishes only
what a sink with the same metadata accepts), if and only if no frame of the right
ssrc has a negative index and no metadata has `2^31` sub-streams or more. The
source tests only the upper bound of the index; the sink tests both.
-/

namespace StreamSwitch

namespace StreamSource

variable (pb : Protobuf)

/-- There is one entry of `statistic_` for each sub-stream. -/
def Aligned (s : StreamSource) : Prop :=
  s.user.statistic.length = s.user.streamMeta.subStreams.length

/-- A source after `Init`. -/
def fresh (handlers : Int32 → Option (SourceApiHandler SourceData)) (streamName : String) :
    StreamSource :=
  ApiSource.afterInit handlers { streamName := streamName }

inductive MediaEvent
  | setStreamMeta (m : StreamMetadata)
  | sendLiveMediaFrame (f : LiveFrame)

def mediaStep (s : StreamSource) : MediaEvent → Option StreamSource
  | .setStreamMeta m => (setStreamMeta s m).toOption
  | .sendLiveMediaFrame f => (sendLiveMediaFrame pb s f).toOption.map Sent.source

/-- The frame names a sub-stream of the metadata. -/
def NamesSubStream (s : StreamSource) (f : LiveFrame) : Prop :=
  s.user.streamMeta.ssrc = f.info.ssrc ∧ 0 ≤ f.info.subStreamIndex.toInt ∧
    f.info.subStreamIndex.toInt < s.user.streamMeta.subStreams.length

/-- A listening sink takes the message for a frame of this sub-stream, type and ssrc. -/
def TakenBy (m : PublishMsg) (info : MediaFrameInfo) (k : StreamSink) : Prop :=
  ∃ r got data size, k.onSubRead pb m = .ok r ∧
    r.callbacks = [.onLiveMediaFrame got data size] ∧
    got.subStreamIndex = info.subStreamIndex ∧ got.frameType = info.frameType ∧
    got.ssrc = info.ssrc

/-- `SendLiveMediaFrame` returns, that is, accesses `statistic_` only in range; it returns 0
exactly for a sub-stream of the metadata; otherwise it publishes nothing and changes nothing; and
what it publishes is taken by every sink with the same metadata. -/
def SendChecked (s : StreamSource) (f : LiveFrame) : Prop :=
  ∃ r, sendLiveMediaFrame pb s f = .ok r ∧ Aligned r.source ∧
    (r.ret.code = .ok ↔ NamesSubStream s f) ∧
    (r.ret.code ≠ .ok → r.published = [] ∧ r.source = s) ∧
    ∀ m ∈ r.published, ∀ k : StreamSink, k.RoutesMedia → k.hasListener = true →
      k.streamMeta = s.user.streamMeta →
      k.statistic.length = k.streamMeta.subStreams.length → TakenBy pb m f.info k

/-- The step keeps the alignment, and a frame is checked. -/
def Checked (s : StreamSource) : MediaEvent → Prop
  | .setStreamMeta m => ∃ s', setStreamMeta s m = .ok s' ∧ Aligned s'
  | .sendLiveMediaFrame f => SendChecked pb s f

/-- A frame of the right ssrc has no negative index; metadata has less than `2^31` sub-streams. -/
def InBounds (s : StreamSource) : MediaEvent → Prop
  | .setStreamMeta m => m.subStreams.length < 2 ^ 31
  | .sendLiveMediaFrame f =>
    s.user.streamMeta.ssrc = f.info.ssrc → 0 ≤ f.info.subStreamIndex.toInt

/-- Between two calls. -/
structure MediaInv (s : StreamSource) : Prop where
  init : s.isInit = true
  aligned : Aligned s
  bound : s.user.streamMeta.subStreams.length < 2 ^ 31

/-! ## The media message -/

/-- The sink reads the message of a frame back, up to the width of `tv_usec`. -/
theorem decode_mediaMsg (info : MediaFrameInfo) (seq : UInt64) :
    ∃ m, pb.mediaFrameMsg.decode (mediaMsg pb info seq).getBody = some m ∧
      m.seq.getD 0 = seq ∧
      m.frameInfo = { info with timestamp := { info.timestamp with
        tvUsec := info.timestamp.tvUsec.toInt32.toInt64 } } :=
  ⟨_, Codec.decode_encode .., rfl, rfl⟩

/-- A published frame is taken by a sink with the same metadata. -/
theorem takenBy_of_passes {s : StreamSource} {f : LiveFrame} {st : SubStreamMediaStatistic}
    (hp : Passes s f) (h0 : 0 ≤ f.info.subStreamIndex.toInt) {k : StreamSink}
    (hr : k.RoutesMedia) (hl : k.hasListener = true)
    (hm : k.streamMeta = s.user.streamMeta)
    (hk : k.statistic.length = k.streamMeta.subStreams.length) :
    TakenBy pb (publishedMsg pb f st) f.info k := by
  obtain ⟨m, hd, -, hi⟩ := decode_mediaMsg pb f.info (st.send f.info.frameType f.frameSize).2
  have hacc : k.Accepts m.frameInfo := by
    rw [hi]
    exact ⟨by rw [hm]; exact hp.1, h0, by rw [hm]; exact hp.2⟩
  have hlt : f.info.subStreamIndex.toInt.toNat < k.statistic.length := by
    have h1 := hp.2
    have h2 := int32OfSize_le s.user.streamMeta.subStreams.length
    rw [hk, hm]
    omega
  have hc : m.frameInfo.subStreamIndex = f.info.subStreamIndex := by rw [hi]
  obtain ⟨stats, hcount⟩ : ∃ stats, k.countFrame m.frameInfo
      (blobSize (publishedMsg pb f st).extraBlob) (m.seq.getD 0) = .ok stats :=
    ⟨_, StreamSink.countFrame_of_some _ _ (by rw [hc]; exact h0)
      (by rw [hc]; exact List.getElem?_eq_getElem hlt)⟩
  have hread := StreamSink.onSubRead_mediaMsg hr (m := publishedMsg pb f st) rfl rfl
  rw [StreamSink.mediaFrameHandler_of_accepts _ hd hacc, hcount] at hread
  exact ⟨_, m.frameInfo, _, _, hread, if_pos hl, hc, by rw [hi], by rw [hi]⟩

/-! ## Calls on an aligned source -/

/-- Setting metadata aligns the counters with it exactly when it has less than `2^31`
sub-streams. -/
theorem setStreamMeta_aligned_iff {s : StreamSource} (h : MediaInv s) (m : StreamMetadata) :
    (∃ s', setStreamMeta s m = .ok s' ∧ Aligned s') ↔ m.subStreams.length < 2 ^ 31 := by
  by_cases hc : s.user.streamMeta.ssrc = m.ssrc ∧
      s.user.streamMeta.subStreams.length = m.subStreams.length
  · rw [setStreamMeta_of_same hc.1 hc.2]
    exact ⟨fun _ => hc.2 ▸ h.bound, fun _ => ⟨_, rfl, h.aligned.trans hc.2⟩⟩
  · by_cases hn : int32OfSize m.subStreams.length < 0
    · rw [setStreamMeta_of_negative hc hn]
      constructor
      · rintro ⟨s', h1, -⟩
        cases h1
      · intro hlt
        rw [int32OfSize_eq hlt] at hn
        omega
    · obtain ⟨s1, h1, -, h2, h3⟩ := setStreamMeta_of_changed hc (by omega)
      -- there are as many counters as the cast size says
      have hle := int32OfSize_le m.subStreams.length
      have hal : Aligned s1 ↔ m.subStreams.length < 2 ^ 31 := by
        rw [Aligned, h2, h3, resetStatistic_length]
        constructor
        · intro he
          exact lt_of_int32OfSize_eq (by omega)
        · intro hlt
          rw [int32OfSize_eq hlt]
          omega
      rw [h1, ← hal]
      constructor
      · rintro ⟨s', he, ha⟩
        cases he
        exact ha
      · exact fun ha => ⟨s1, rfl, ha⟩

/-- On an aligned source a frame passes the checks and is sent exactly when it names a sub-stream,
unless its index is negative. -/
theorem passes_iff {s : StreamSource} (h : MediaInv s) (f : LiveFrame) :
    Passes s f ↔ s.user.streamMeta.ssrc = f.info.ssrc ∧
      f.info.subStreamIndex.toInt < s.user.streamMeta.subStreams.length := by
  rw [Passes, int32OfSize_eq h.bound]

theorem at?_of_namesSubStream {s : StreamSource} (h : MediaInv s) {f : LiveFrame}
    (hn : NamesSubStream s f) :
    ∃ st, at? s.user.statistic f.info.subStreamIndex = some st := by
  have hb := h.aligned
  unfold Aligned at hb
  exact Option.isSome_iff_exists.1 (at?_isSome.2 ⟨hn.2.1, by rw [hb]; exact hn.2.2⟩)

/-- A negative index of the right ssrc passes the checks and reaches outside `statistic_`. -/
theorem sendLiveMediaFrame_of_neg {s : StreamSource} (h : MediaInv s) {f : LiveFrame}
    (hs : s.user.streamMeta.ssrc = f.info.ssrc) (hneg : f.info.subStreamIndex.toInt < 0) :
    sendLiveMediaFrame pb s f = .error .outOfRange := by
  have hp : Passes s f := (passes_iff h f).2 ⟨hs, by omega⟩
  rw [sendLiveMediaFrame_of_passes pb h.init hp, at?_of_neg hneg]

theorem sendChecked_of_namesSubStream {s : StreamSource} (h : MediaInv s) {f : LiveFrame}
    (hn : NamesSubStream s f) : SendChecked pb s f := by
  have hp : Passes s f := (passes_iff h f).2 ⟨hn.1, hn.2.2⟩
  obtain ⟨st, hst⟩ := at?_of_namesSubStream h hn
  have he := sendLiveMediaFrame_of_passes pb h.init hp
  rw [hst] at he
  refine ⟨_, he, ?_, ⟨fun _ => hn, fun _ => rfl⟩, fun hne => absurd rfl hne, ?_⟩
  · show (s.user.statistic.set _ _).length = _
    rw [List.length_set]
    exact h.aligned
  · intro m hm k hr hl hk hlen
    rw [List.mem_singleton.1 hm]
    exact takenBy_of_passes pb hp hn.2.1 hr hl hk hlen

theorem sendChecked_of_not_passes {s : StreamSource} (h : MediaInv s) {f : LiveFrame}
    (hp : ¬ Passes s f) : SendChecked pb s f := by
  obtain ⟨text, he⟩ := sendLiveMediaFrame_of_not_passes pb h.init hp
  have hn : ¬ NamesSubStream s f := fun hn => hp ((passes_iff h f).2 ⟨hn.1, hn.2.2⟩)
  refine ⟨_, he, h.aligned, ⟨fun hc => ?_, fun hc => absurd hc hn⟩, fun _ => ⟨rfl, rfl⟩, ?_⟩
  · cases hc
  · intro m hm
    cases hm

/-- On an aligned source a step is checked exactly when its argument is in bounds. -/
theorem checked_iff_inBounds {s : StreamSource} (h : MediaInv s) (e : MediaEvent) :
    Checked pb s e ↔ InBounds s e := by
  cases e with
  | setStreamMeta m => exact setStreamMeta_aligned_iff h m
  | sendLiveMediaFrame f =>
    constructor
    · rintro ⟨r, hr, -⟩ hs
      by_contra hneg
      rw [sendLiveMediaFrame_of_neg pb h hs (by omega)] at hr
      cases hr
    · intro hb
      by_cases hp : Passes s f
      · obtain ⟨h1, h2⟩ := (passes_iff h f).1 hp
        exact sendChecked_of_namesSubStream pb h ⟨h1, hb h1, h2⟩
      · exact sendChecked_of_not_passes pb h hp

/-- One step in bounds keeps the invariant. -/
theorem mediaInv_step {s s' : StreamSource} {e : MediaEvent} (h : MediaInv s)
    (hb : InBounds s e) (he : mediaStep pb s e = some s') : MediaInv s' := by
  have hc := (checked_iff_inBounds pb h e).2 hb
  cases e with
  | setStreamMeta m =>
    obtain ⟨s1, h1, h2⟩ := hc
    have hm := setStreamMeta_ok h1
    rw [mediaStep, h1] at he
    cases he
    exact ⟨hm.1.trans h.init, h2, by rw [hm.2]; exact hb⟩
  | sendLiveMediaFrame f =>
    obtain ⟨r, hr, hal, -⟩ := hc
    rw [mediaStep, hr] at he
    cases he
    rcases sendLiveMediaFrame_cases h.init hr with ⟨-, -, h3, -⟩ | ⟨-, -, st, -, h3, -⟩
    · rw [h3]
      exact h
    · exact ⟨by rw [h3]; exact h.init, hal, by rw [h3]; exact h.bound⟩

theorem mediaInv_fresh (handlers : Int32 → Option (SourceApiHandler SourceData))
    (streamName : String) : MediaInv (fresh handlers streamName) :=
  ⟨rfl, rfl, Nat.two_pow_pos 31⟩

/-- **Every call is checked** along a run exactly when no frame of the right ssrc has a negative
index and no metadata has `2^31` sub-streams or more. -/
theorem send_checked_iff (handlers : Int32 → Option (SourceApiHandler SourceData))
    (streamName : String) (es : List MediaEvent) :
    Run.Each (mediaStep pb) (Checked pb) (fresh handlers streamName) es ↔
      Run.Each (mediaStep pb) InBounds (fresh handlers streamName) es :=
  Run.each_iff (fun _ _ _ h hb => mediaInv_step pb h hb)
    (fun _ e h => checked_iff_inBounds pb h e) (mediaInv_fresh handlers streamName)

/-- One video sub-stream, and a frame for index -1: the call reads before the first counter. -/
theorem negative_index_not_checked :
    ¬ Run.Each (mediaStep wireProtobuf) (Checked wireProtobuf) (fresh (fun _ => none) "stsw")
      [.setStreamMeta { ssrc := 7, subStreams := [{}] },
       .sendLiveMediaFrame
         { info := { subStreamIndex := -1, ssrc := 7, frameType := .keyFrame }
           frameData := some [0xab], frameSize := 1 }] := by
  intro h
  obtain ⟨r, hr, -⟩ := (h.2 _ rfl).1
  cases hr

end StreamSource

end StreamSwitch
