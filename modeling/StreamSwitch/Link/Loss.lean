import StreamSwitch.Lib.Gap
import StreamSwitch.Link.Statistic

/-!
# Lost frames

The network delivers any in-order part of what the source publishes. The sink
counts a gap in the sequence numbers of a sub-stream as lost frames.

`loss_exact`: as long as the 64-bit numbers of a sub-stream do not wrap, its
counters at the sink account exactly for the frames between the first and the
last one delivered. `loss_uncounted_at_wrap` shows why the bound is there: 0 is
a valid number after a wrap, and the sink takes it for "no frame yet".
-/

namespace StreamSwitch

namespace MediaLink

open StreamSource StreamSink

variable (pb : Protobuf)

/-- The messages of data and key frames of sub-stream `i`. -/
def entries (i : Nat) (log : List (ProtoMediaFrameMsg × Bool)) :
    List (ProtoMediaFrameMsg × Bool) :=
  log.filter fun e => e.1.frameInfo.subStreamIndex.toInt = i ∧ e.1.frameInfo.frameType.isMedia

/-- The number a message carries. -/
def seqOf (e : ProtoMediaFrameMsg × Bool) : Nat := (e.1.seq.getD 0).toNat

/-- Those from the first to the last delivered one. -/
def window (i : Nat) (l : MediaLink) : List (ProtoMediaFrameMsg × Bool) :=
  Gap.window Prod.snd (entries i l.log)

/-- The counters of sub-stream `i` at the sink account for every frame of the window. -/
def LossExact (i : Nat) (l : MediaLink) : Prop :=
  ∃ sk first last, l.sink.statistic[i]? = some sk ∧
    (l.window i).head? = some first ∧ (l.window i).getLast? = some last ∧
    sk.dataFrames.toNat + sk.lostFrames.toNat = seqOf last - seqOf first + 1 ∧
    sk.dataFrames.toNat + sk.lostFrames.toNat = (l.window i).length ∧
    sk.lostFrames.toNat = ((l.window i).filter fun e => !e.2).length

/-- The gap counter inside the counters of a sub-stream. -/
def counterOf (sk : SubStreamMediaStatistic) : Gap.Counter :=
  ⟨sk.dataFrames.toNat, sk.lostFrames.toNat, sk.lastSeq.toNat⟩

/-- As long as nothing overflows, the sink counts gaps. -/
theorem counterOf_receive {sk : SubStreamMediaStatistic} {type : MediaFrameType}
    (size : UInt64) {seq : UInt64} (hm : type.isMedia = true)
    (h1 : sk.dataFrames.toNat + 1 < 2 ^ 64) (h2 : sk.lastSeq.toNat + 1 < 2 ^ 64)
    (h3 : ((counterOf sk).receive seq.toNat).lost < 2 ^ 64) :
    counterOf (sk.receive type size seq) = (counterOf sk).receive seq.toNat := by
  have ht : type = .keyFrame ∨ type = .dataFrame := by
    cases type with
    | keyFrame => exact .inl rfl
    | dataFrame => exact .inr rfl
    | paramFrame => cases hm
    | eofFrame => cases hm
  have hd : (sk.dataFrames + 1).toNat = sk.dataFrames.toNat + 1 := by
    rw [UInt64.toNat_add]
    exact Nat.mod_eq_of_lt h1
  have hl : (sk.lastSeq + 1).toNat = sk.lastSeq.toNat + 1 := by
    rw [UInt64.toNat_add]
    exact Nat.mod_eq_of_lt h2
  have h0 : sk.lastSeq = 0 ↔ sk.lastSeq.toNat = 0 := UInt64.toNat_inj.symm
  -- the guard is the same on both sides
  have hguard : (sk.lastSeq ≠ 0 ∧ seq > sk.lastSeq + 1) ↔
      (sk.lastSeq.toNat ≠ 0 ∧ seq.toNat > sk.lastSeq.toNat + 1) := by
    rw [ne_eq, h0, gt_iff_lt, UInt64.lt_iff_toNat_lt, hl]
  have hlost : (sk.receive type size seq).lostFrames.toNat =
      ((counterOf sk).receive seq.toNat).lost := by
    rw [SubStreamMediaStatistic.receive_lostFrames ht]
    by_cases hg : sk.lastSeq ≠ 0 ∧ seq > sk.lastSeq + 1
    · have hc : ((counterOf sk).receive seq.toNat).lost =
          sk.lostFrames.toNat + (seq.toNat - (sk.lastSeq.toNat + 1)) :=
        congrArg (sk.lostFrames.toNat + ·) (if_pos (hguard.1 hg))
      rw [hc] at h3 ⊢
      rw [if_pos hg, UInt64.toNat_add, UInt64.toNat_sub_of_le _ _ (UInt64.le_of_lt hg.2), hl]
      exact Nat.mod_eq_of_lt h3
    · have hc : ((counterOf sk).receive seq.toNat).lost = sk.lostFrames.toNat + 0 :=
        congrArg (sk.lostFrames.toNat + ·) (if_neg fun hc => hg (hguard.2 hc))
      rw [if_neg hg, hc, Nat.add_zero]
  have hdata : (sk.receive type size seq).dataFrames.toNat = sk.dataFrames.toNat + 1 := by
    rw [SubStreamMediaStatistic.receive_dataFrames ht, hd]
  rw [counterOf, hlost, hdata, SubStreamMediaStatistic.receive_lastSeq ht]
  rfl

/-! ## One frame -/

/-- The counters of sub-stream `i`, numbered from `a` on: the source numbers consecutively and the
sink knows what it received, as long as the numbers do not wrap. -/
def Tracks (a i : Nat) (l : MediaLink) : Prop :=
  ∃ st sk, l.source.user.statistic[i]? = some st ∧ l.sink.statistic[i]? = some sk ∧
    (a + (entries i l.log).length < 2 ^ 64 →
      st.lastSeq.toNat = a + (entries i l.log).length ∧
      Gap.Numbered seqOf a (entries i l.log) ∧
      Gap.Knows Prod.snd seqOf (entries i l.log) (counterOf sk))

theorem entries_append_of_not {i : Nat} {log : List (ProtoMediaFrameMsg × Bool)}
    {e : ProtoMediaFrameMsg × Bool}
    (h : ¬ (e.1.frameInfo.subStreamIndex.toInt = i ∧ e.1.frameInfo.frameType.isMedia = true)) :
    entries i (log ++ [e]) = entries i log := by
  rw [entries, List.filter_append, List.filter_singleton]
  simp [h, entries]

theorem entries_append {i : Nat} {log : List (ProtoMediaFrameMsg × Bool)}
    {e : ProtoMediaFrameMsg × Bool}
    (h : e.1.frameInfo.subStreamIndex.toInt = i ∧ e.1.frameInfo.frameType.isMedia = true) :
    entries i (log ++ [e]) = entries i log ++ [e] := by
  rw [entries, List.filter_append, List.filter_singleton]
  simp [h, entries]

/-- Sending a data or key frame takes the next number. -/
theorem send_of_media (st : SubStreamMediaStatistic) {type : MediaFrameType} (size : UInt64)
    (hm : type.isMedia = true) :
    (st.send type size).1.lastSeq = st.lastSeq + 1 ∧
      (st.send type size).2 = st.lastSeq + 1 := by
  cases type with
  | keyFrame => exact ⟨rfl, rfl⟩
  | dataFrame => exact ⟨rfl, rfl⟩
  | paramFrame => cases hm
  | eofFrame => cases hm

/-- Other frames leave the counters at both ends. -/
theorem count_of_not_media (st : SubStreamMediaStatistic) {type : MediaFrameType}
    (size seq : UInt64) (hm : type.isMedia = false) :
    (st.send type size).1 = st ∧ st.receive type size seq = st := by
  cases type with
  | keyFrame => cases hm
  | dataFrame => cases hm
  | paramFrame => exact ⟨rfl, rfl⟩
  | eofFrame => exact ⟨rfl, rfl⟩

/-- A data or key frame with the next number, delivered or not. -/
theorem knows_append {a : Nat} {xs : List (ProtoMediaFrameMsg × Bool)}
    {sk : SubStreamMediaStatistic} (hn : Gap.Numbered seqOf a xs)
    (hk : Gap.Knows Prod.snd seqOf xs (counterOf sk)) (hw : a + xs.length + 1 < 2 ^ 64)
    {e : ProtoMediaFrameMsg × Bool} (he : seqOf e = a + xs.length + 1)
    {type : MediaFrameType} (hm : type.isMedia = true) (size : UInt64) :
    Gap.Numbered seqOf a (xs ++ [e]) ∧ Gap.Knows Prod.snd seqOf (xs ++ [e])
      (counterOf (if e.2 then sk.receive type size (e.1.seq.getD 0) else sk)) := by
  have hn' := hn.append_singleton he
  have hk' := Gap.knows_observe hn' hk
  refine ⟨hn', ?_⟩
  obtain ⟨h1, h2⟩ := hk.le hn
  have h3 := (hk'.le hn').1
  rw [List.length_append, List.length_singleton] at h3
  unfold Gap.observe at h3 hk'
  simp only [counterOf] at h1 h2
  by_cases hb : e.2 = true
  · rw [if_pos hb] at h3 hk' ⊢
    rw [counterOf_receive size hm (by omega) (by omega)]
    · exact hk'
    · have hs : (e.1.seq.getD 0).toNat = seqOf e := rfl
      rw [hs]
      omega
  · rw [if_neg hb] at hk' ⊢
    exact hk'

variable {l : MediaLink}

/-- **One frame keeps the books** of every sub-stream. -/
theorem tracks_step {a i : Nat} (h : l.Linked) (ht : Tracks a i l) {f : LiveFrame} {b : Bool}
    (hb : InBounds l.source (.sendLiveMediaFrame f)) {l' : MediaLink}
    (hs : l.step pb (f, b) = some l') : Tracks a i l' := by
  by_cases hp : Passes l.source f
  swap
  · rw [step_of_refused pb h hp b] at hs
    cases hs
    exact ht
  obtain ⟨h1, h2⟩ := (passes_iff h.source f).1 hp
  have h0 := hb h1
  obtain ⟨st, sk, msg, hst, hsk, hix, htype, hseq, he⟩ :=
    step_of_names pb h (f := f) ⟨h1, h0, h2⟩ b
  rw [he] at hs
  cases hs
  obtain ⟨st', sk', hst', hsk', hk⟩ := ht
  have hfix : msg.frameInfo.subStreamIndex.toInt = f.ix := by
    rw [hix]
    unfold LiveFrame.ix
    omega
  have hlt : f.ix < l.source.user.statistic.length := (List.getElem?_eq_some_iff.1 hst).1
  have hlt' : f.ix < l.sink.statistic.length := (List.getElem?_eq_some_iff.1 hsk).1
  by_cases hi : f.ix = i
  · subst hi
    rw [hst] at hst'
    rw [hsk] at hsk'
    cases hst'
    cases hsk'
    refine ⟨(st.send f.info.frameType f.frameSize).1, if b then sk.receive f.info.frameType
      (blobSize (publishedMsg pb f st).extraBlob) (msg.seq.getD 0) else sk, ?_, ?_, ?_⟩
    · show (l.source.user.statistic.set f.ix _)[f.ix]? = _
      rw [List.getElem?_set_self hlt]
    · cases b with
      | false => exact hsk
      | true => exact List.getElem?_set_self hlt'
    · by_cases hm : f.info.frameType.isMedia = true
      · -- the message joins the entries, with the next number
        obtain ⟨hs1, hs2⟩ := send_of_media st f.frameSize hm
        rw [hs2] at hseq
        show a + (entries f.ix (l.log ++ [(msg, b)])).length < _ → _
        rw [entries_append (e := (msg, b)) ⟨hfix, by rw [htype]; exact hm⟩, List.length_append,
          List.length_singleton, hs1]
        intro hw
        obtain ⟨hk1, hk2, hk3⟩ := hk (by omega)
        have hnext : (st.lastSeq + 1).toNat = a + (entries f.ix l.log).length + 1 := by
          rw [UInt64.toNat_add, hk1]
          exact Nat.mod_eq_of_lt hw
        have he' : seqOf (msg, b) = a + (entries f.ix l.log).length + 1 := by
          rw [← hnext, ← hseq]
          rfl
        exact ⟨hnext, knows_append hk2 hk3 hw he' hm _⟩
      · have hm' : f.info.frameType.isMedia = false := by simpa using hm
        obtain ⟨hs1, hs2⟩ := count_of_not_media st f.frameSize 0 hm'
        have hs3 : (if b then sk.receive f.info.frameType
            (blobSize (publishedMsg pb f st).extraBlob) (msg.seq.getD 0) else sk) = sk := by
          rw [(count_of_not_media sk _ _ hm').2]
          exact ite_self sk
        show a + (entries f.ix (l.log ++ [(msg, b)])).length < _ → _
        rw [entries_append_of_not (e := (msg, b)) fun hc => hm (htype ▸ hc.2), hs1, hs3]
        exact hk
  · refine ⟨st', sk', ?_, ?_, ?_⟩
    · show (l.source.user.statistic.set f.ix _)[i]? = _
      rw [List.getElem?_set_ne hi]
      exact hst'
    · cases b with
      | false => exact hsk'
      | true => exact (List.getElem?_set_ne hi).trans hsk'
    · show a + (entries i (l.log ++ [(msg, b)])).length < _ → _
      rw [entries_append_of_not (e := (msg, b)) fun hc => hi (Int.ofNat.inj (hfix.symm.trans hc.1))]
      exact hk

/-! ## Runs -/

/-- A call in bounds returns. -/
theorem exists_step (h : l.Linked) {f : LiveFrame} (b : Bool)
    (hb : InBounds l.source (.sendLiveMediaFrame f)) : ∃ l', l.step pb (f, b) = some l' := by
  by_cases hp : Passes l.source f
  · obtain ⟨h1, h2⟩ := (passes_iff h.source f).1 hp
    obtain ⟨st, sk, msg, -, -, -, -, -, he⟩ := step_of_names pb h (f := f) ⟨h1, hb h1, h2⟩ b
    exact ⟨_, he⟩
  · exact ⟨l, step_of_refused pb h hp b⟩

/-- Any number of frames keeps the books. -/
theorem tracks_run (h : l.Linked) (es : List (LiveFrame × Bool))
    (hes : ∀ e ∈ es, InBounds l.source (.sendLiveMediaFrame e.1)) :
    ∃ l', Run.exec (step pb) l es = some l' ∧ ∀ a i, Tracks a i l → Tracks a i l' := by
  induction es generalizing l with
  | nil => exact ⟨l, rfl, fun _ _ ht => ht⟩
  | cons e es ih =>
    obtain ⟨f, b⟩ := e
    have hb := hes (f, b) List.mem_cons_self
    obtain ⟨l1, he⟩ := exists_step pb h b hb
    obtain ⟨h1, hmeta⟩ := linked_step pb h b hb he
    obtain ⟨l2, hr, h2⟩ := ih h1 fun e' he' => by
      have := hes e' (List.mem_cons_of_mem _ he')
      unfold InBounds at this ⊢
      rw [hmeta]
      exact this
    exact ⟨l2, Run.exec_cons_some.2 ⟨l1, he, hr⟩,
      fun a i ht => h2 a i (tracks_step pb h ht hb he)⟩

/-- Before anything is sent, the books are empty. -/
theorem tracks_init (h : l.Linked) (hlog : l.log = [])
    (hreset : l.sink.statistic = resetStatistic l.sink.streamMeta.subStreams
      l.sink.streamMeta.subStreams.length)
    {i : Nat} {st : SubStreamMediaStatistic} (hst : l.source.user.statistic[i]? = some st) :
    Tracks st.lastSeq.toNat i l := by
  have hlt : i < l.sink.statistic.length := by
    have := h.source.aligned
    unfold StreamSource.Aligned at this
    rw [h.size, ← this]
    exact (List.getElem?_eq_some_iff.1 hst).1
  obtain ⟨sk, hsk⟩ : ∃ sk, l.sink.statistic[i]? = some sk := ⟨_, List.getElem?_eq_getElem hlt⟩
  refine ⟨st, sk, hst, hsk, ?_⟩
  rw [hreset, resetStatistic_getElem?, List.take_length] at hsk
  obtain ⟨sub, -, hsub⟩ := Option.map_eq_some_iff.1 hsk
  rw [hlog, ← hsub]
  exact fun _ => ⟨rfl, Gap.Numbered.nil _ _, Gap.knows_nil ..⟩

/-- **Loss accounting**: for every sub-stream from which a data or key frame was delivered, and
whose numbers did not wrap, the counters of the sink are exact. -/
theorem loss_exact (h : l.Linked) (hlog : l.log = [])
    (hreset : l.sink.statistic = resetStatistic l.sink.streamMeta.subStreams
      l.sink.streamMeta.subStreams.length)
    (es : List (LiveFrame × Bool))
    (hes : ∀ e ∈ es, InBounds l.source (.sendLiveMediaFrame e.1)) :
    ∃ l', Run.exec (step pb) l es = some l' ∧
      ∀ i st, l.source.user.statistic[i]? = some st →
        st.lastSeq.toNat + (entries i l'.log).length < 2 ^ 64 →
        (∃ e ∈ entries i l'.log, e.2 = true) → LossExact i l' := by
  obtain ⟨l', hr, htr⟩ := tracks_run pb h es hes
  refine ⟨l', hr, ?_⟩
  rintro i st hst hw ⟨e, he, hdel⟩
  obtain ⟨st', sk, -, hsk, hk⟩ := htr _ i (tracks_init h hlog hreset hst)
  obtain ⟨-, hn, hknow⟩ := hk hw
  have hne : Gap.window Prod.snd (entries i l'.log) ≠ [] := by
    intro hc
    have hall := List.dropWhile_eq_nil_iff.1 (Gap.dropWhile_eq_nil_of_window hc) e he
    simp [hdel] at hall
  obtain ⟨first, last, hf, hl, htotal⟩ := hknow.exact hn hne
  exact ⟨sk, first, last, hsk, hf, hl, htotal, hknow.total, hknow.lost⟩

theorem loss_exact_demo :
    ∃ l', Run.exec (step wireProtobuf) demo ((demoFrames ++ demoFrames).zip
        [true, false, false, true]) = some l' ∧ LossExact 0 l' := by
  obtain ⟨l', hr, h⟩ := loss_exact wireProtobuf demo_synced.linked rfl demo_synced.sinkReset
    ((demoFrames ++ demoFrames).zip [true, false, false, true]) (fun e he => by
      have := (List.of_mem_zip (show (e.1, e.2) ∈ _ from he)).1
      simp only [demoFrames, List.cons_append, List.nil_append, List.mem_cons, List.not_mem_nil,
        or_false] at this
      rcases this with h | h | h | h <;> rw [h] <;> exact fun _ => by decide)
  have hlen : (Run.exec (step wireProtobuf) demo ((demoFrames ++ demoFrames).zip
      [true, false, false, true])).map (fun l => (entries 0 l.log).map Prod.snd) =
        some [true, false, false, true] := by decide
  rw [hr] at hlen
  have hflags : (entries 0 l'.log).map Prod.snd = [true, false, false, true] :=
    Option.some.inj hlen
  refine ⟨l', hr, h 0 {} rfl ?_ ?_⟩
  · rw [← List.length_map (f := Prod.snd), hflags]
    decide
  · have : true ∈ (entries 0 l'.log).map Prod.snd := by rw [hflags]; exact List.mem_cons_self
    obtain ⟨e, he, hb⟩ := List.mem_map.1 this
    exact ⟨e, he, hb⟩

/-! ## At the wrap -/

/-- What a data or key frame does to its own sub-stream. -/
theorem step_media (h : l.Linked) {f : LiveFrame} (hn : NamesSubStream l.source f)
    (hm : f.info.frameType.isMedia = true) {st sk : SubStreamMediaStatistic}
    (hst : l.source.user.statistic[f.ix]? = some st) (hsk : l.sink.statistic[f.ix]? = some sk)
    (b : Bool) :
    ∃ (l' : MediaLink) (msg : ProtoMediaFrameMsg) (st' : SubStreamMediaStatistic) (size : UInt64),
      l.step pb (f, b) = some l' ∧ l'.Linked ∧ NamesSubStream l'.source f ∧
      l'.source.user.statistic[f.ix]? = some st' ∧ st'.lastSeq = st.lastSeq + 1 ∧
      l'.log = l.log ++ [(msg, b)] ∧ msg.frameInfo.subStreamIndex.toInt = f.ix ∧
      msg.frameInfo.frameType.isMedia = true ∧
      l'.sink.statistic[f.ix]? =
        some (if b then sk.receive f.info.frameType size (st.lastSeq + 1) else sk) := by
  obtain ⟨st1, sk1, msg, hst1, hsk1, hix, htype, hseq, he⟩ := step_of_names pb h hn b
  rw [hst] at hst1
  rw [hsk] at hsk1
  cases hst1
  cases hsk1
  obtain ⟨hs1, hs2⟩ := send_of_media st f.frameSize hm
  obtain ⟨hl, hmeta⟩ := linked_step pb h b (fun _ => hn.2.1) he
  refine ⟨_, msg, _, blobSize (publishedMsg pb f st).extraBlob, he, hl, ?_,
    List.getElem?_set_self (List.getElem?_eq_some_iff.1 hst).1, hs1, rfl, ?_, ?_, ?_⟩
  · unfold NamesSubStream at hn ⊢
    rw [hmeta]
    exact hn
  · rw [hix, LiveFrame.ix]
    have := hn.2.1
    omega
  · rw [htype]
    exact hm
  · cases b with
    | false => exact hsk
    | true =>
      rw [← hs2, ← hseq]
      exact List.getElem?_set_self (List.getElem?_eq_some_iff.1 hsk).1

/-- A source that sends the same frame `n` times numbers it `n` times. -/
theorem send_replicate {s : StreamSource} (h : MediaInv s) {f : LiveFrame}
    (hn : NamesSubStream s f) (hm : f.info.frameType.isMedia = true)
    {st : SubStreamMediaStatistic} (hst : s.user.statistic[f.ix]? = some st) (n : Nat) :
    ∃ s' st', Run.exec (mediaStep pb) s (List.replicate n (.sendLiveMediaFrame f)) = some s' ∧
      MediaInv s' ∧ s'.user.streamMeta = s.user.streamMeta ∧
      s'.user.statistic[f.ix]? = some st' ∧ st'.lastSeq = st.lastSeq + UInt64.ofNat n := by
  induction n generalizing s st with
  | zero => exact ⟨s, st, rfl, h, rfl, hst, by simp⟩
  | succ n ih =>
    have hp : Passes s f := (passes_iff h f).2 ⟨hn.1, hn.2.2⟩
    have he := sendLiveMediaFrame_of_passes pb h.init hp
    rw [at?_of_nonneg hn.2.1, show s.user.statistic[f.info.subStreamIndex.toInt.toNat]? = some st
      from hst] at he
    have hstep : mediaStep pb s (.sendLiveMediaFrame f) = some (accepted s f st) := by
      rw [mediaStep, he]
      rfl
    obtain ⟨s', st', hr, h1, h2, h3, h4⟩ := ih (s := accepted s f st)
      (mediaInv_step pb (e := .sendLiveMediaFrame f) h (fun _ => hn.2.1) hstep) hn
      (List.getElem?_set_self (List.getElem?_eq_some_iff.1 hst).1)
    refine ⟨s', st', Run.exec_cons_some.2 ⟨_, hstep, hr⟩, h1, h2, h3, ?_⟩
    rw [h4, (send_of_media _ f.frameSize hm).1, UInt64.ofNat_add, UInt64.add_assoc,
      UInt64.add_comm 1]
    rfl

/-- One video sub-stream. -/
def wrapMeta : StreamMetadata := { ssrc := 7, subStreams := [{}] }

/-- A data frame of it. -/
def wrapFrame : LiveFrame := { info := { ssrc := 7 } }

/-- After `2^64 - 1` frames the next one has number 0. It is delivered, the one after it is lost
and the third is delivered: the sink counts two frames and no loss. -/
theorem loss_uncounted_at_wrap :
    ∃ s l', Run.exec (mediaStep wireProtobuf) (fresh (fun _ => none) "stsw")
        (.setStreamMeta wrapMeta :: List.replicate (2 ^ 64 - 1) (.sendLiveMediaFrame wrapFrame)) =
          some s ∧
      Run.exec (step wireProtobuf)
        { source := s, sink := (initBase {} true).configure (.ofMetadata wrapMeta) }
        [(wrapFrame, true), (wrapFrame, false), (wrapFrame, true)] = some l' ∧
      (∃ e ∈ entries 0 l'.log, e.2 = true) ∧ ¬ LossExact 0 l' := by
  obtain ⟨s0, h0, hm0, hi0, hst0⟩ : ∃ s0, mediaStep wireProtobuf (fresh (fun _ => none) "stsw")
      (.setStreamMeta wrapMeta) = some s0 ∧ s0.user.streamMeta = wrapMeta ∧ MediaInv s0 ∧
      s0.user.statistic[wrapFrame.ix]? = some {} :=
    ⟨_, rfl, rfl, ⟨rfl, rfl, by decide⟩, by decide⟩
  have hn0 : NamesSubStream s0 wrapFrame := by
    unfold NamesSubStream
    rw [hm0]
    decide
  obtain ⟨s, st, hr, hinv, hmeta, hst, hseq⟩ :=
    send_replicate wireProtobuf hi0 hn0 rfl hst0 (2 ^ 64 - 1)
  rw [hm0] at hmeta
  have hn : NamesSubStream s wrapFrame := by
    unfold NamesSubStream
    rw [hmeta]
    decide
  let l : MediaLink :=
    { source := s, sink := (initBase {} true).configure (.ofMetadata wrapMeta) }
  have hl : l.Linked := by
    refine ⟨hinv, rfl, ?_, ?_⟩
    · show _ = (ProtoMetaRep.ofMetadata s.user.streamMeta).metadata
      rw [hmeta]
      rfl
    · show _ = s.user.streamMeta.subStreams.length
      rw [hmeta]
      rfl
  have hsk : l.sink.statistic[wrapFrame.ix]? = some {} := rfl
  -- the three frames get the numbers 0, 1 and 2
  obtain ⟨l1, m1, st1, z1, e1, hl1, hn1, hst1, hq1, hg1, hx1, ht1, hk1⟩ :=
    step_media wireProtobuf hl hn rfl hst hsk true
  obtain ⟨l2, m2, st2, z2, e2, hl2, hn2, hst2, hq2, hg2, hx2, ht2, hk2⟩ :=
    step_media wireProtobuf hl1 hn1 rfl hst1 hk1 false
  obtain ⟨l3, m3, st3, z3, e3, -, -, -, -, hg3, hx3, ht3, hk3⟩ :=
    step_media wireProtobuf hl2 hn2 rfl hst2 hk2 true
  have hent : entries 0 l3.log = [(m1, true), (m2, false), (m3, true)] := by
    rw [hg3, hg2, hg1]
    rw [entries_append (i := 0) (e := (m3, true)) ⟨hx3, ht3⟩,
      entries_append (i := 0) (e := (m2, false)) ⟨hx2, ht2⟩,
      entries_append (i := 0) (e := (m1, true)) ⟨hx1, ht1⟩]
    rfl
  refine ⟨s, l3, Run.exec_cons_some.2 ⟨s0, h0, hr⟩, ?_, ?_, ?_⟩
  · exact Run.exec_cons_some.2 ⟨l1, e1, Run.exec_cons_some.2 ⟨l2, e2,
      Run.exec_cons_some.2 ⟨l3, e3, rfl⟩⟩⟩
  · rw [hent]
    exact ⟨_, List.mem_cons_self, rfl⟩
  · rintro ⟨sk, first, last, hsk, -, -, -, htotal, -⟩
    rw [window, hent] at htotal
    rw [show l3.sink.statistic[0]? = _ from hk3] at hsk
    cases hsk
    have hz : st.lastSeq + 1 = 0 := by
      rw [hseq]
      decide
    rw [hq2, hq1, hz] at htotal
    have ht : wrapFrame.info.frameType = .keyFrame ∨ wrapFrame.info.frameType = .dataFrame :=
      .inr rfl
    have hwin : (Gap.window Prod.snd [(m1, true), (m2, false), (m3, true)]).length = 3 := rfl
    simp only [if_true, Bool.false_eq_true, if_false, hwin] at htotal
    rw [SubStreamMediaStatistic.receive_dataFrames ht,
      SubStreamMediaStatistic.receive_lostFrames ht,
      SubStreamMediaStatistic.receive_dataFrames ht,
      SubStreamMediaStatistic.receive_lastSeq ht,
      SubStreamMediaStatistic.receive_lostFrames ht] at htotal
    exact absurd htotal (by decide)

end MediaLink

end StreamSwitch
