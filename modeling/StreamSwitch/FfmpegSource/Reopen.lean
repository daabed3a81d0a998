import StreamSwitch.FfmpegSource.Demuxer

/-!
# Alignment of the demuxer's metadata over reopenings

While the demuxer is open, entry `i` of the metadata and parser `i` belong to stream `i` of
the input; while it is closed there are no parsers and no cached packets. `reopen_aligned_iff`
says which calls of `Open` keep this: `Open` never empties `meta_.sub_streams`, an `Open` of an
open demuxer keeps the parsers it finds and, when it fails, leaves them without an input, and
the `Init` of an MPEG-4 parser clears the extra data of stream 0 instead of its own.
-/

namespace StreamSwitch.Ffmpeg

open Run

/-! ## Alignment -/

/-- A sub-stream without what packets may change: its picture and its extra data. -/
def identity (m : SubStreamMetadata) : SubStreamMetadata :=
  { m with extraData := [], mediaParam := { m.mediaParam with video := {} } }

/-- The extra data that a stream starts with: in Annex-B form, and none for MPEG-4, which takes
it from key frames only. -/
def parserExtra (st : AVStream) : Bytes :=
  match st.codecId with
  | .h264 => (annexBExtra .h264 st.extradata).toOption.getD []
  | .mpeg4 => []
  | _ => st.extradata

/-- The entry for input stream `i` before any packet is parsed. -/
def described (i : Nat) (st : AVStream) : Option SubStreamMetadata :=
  (subMetadata i st).map fun m => { m with extraData := parserExtra st }

structure Aligned (d : FFmpegDemuxer) : Prop where
  subStreams : ∀ ctx, d.fmtCtx = some ctx →
    d.metadata.subStreams.map (fun m => some (identity m)) =
      ctx.streams.mapIdx fun i st => (subMetadata i st).map identity
  parsers : ∀ ctx, d.fmtCtx = some ctx →
    d.streamParsers.map (fun p => (p.streamIndex, p.stream)) =
      ctx.streams.mapIdx fun i st => (i, st)
  closed : d.fmtCtx = none → d.streamParsers = [] ∧ d.cachedPkts = []

/-- The metadata are those of the streams of the input, with nothing from packets. -/
def Exact (d : FFmpegDemuxer) : Prop :=
  ∀ ctx, d.fmtCtx = some ctx → d.metadata.subStreams.map some = ctx.streams.mapIdx described

/-- What alignment says of the vectors and of the indices in them. -/
theorem Aligned.entries {d : FFmpegDemuxer} (h : Aligned d) {ctx : AVFormatContext}
    (hctx : d.fmtCtx = some ctx) :
    d.metadata.subStreams.length = ctx.streams.length ∧
      d.streamParsers.length = ctx.streams.length ∧
      ∀ i m, d.metadata.subStreams[i]? = some m → m.subStreamIndex = Int32.ofNat i := by
  have hs := h.subStreams ctx hctx
  refine ⟨by simpa using congrArg List.length hs,
    by simpa using congrArg List.length (h.parsers ctx hctx), fun i m hm => ?_⟩
  have hi := congrArg (·[i]?) hs
  simp only [List.getElem?_map, hm, Option.map_some, List.getElem?_mapIdx] at hi
  obtain ⟨st, -, hst⟩ := Option.map_eq_some_iff.1 hi.symm
  obtain ⟨m₀, hm₀, heq⟩ := Option.map_eq_some_iff.1 hst
  have hindex : m₀.subStreamIndex = Int32.ofNat i := by
    unfold subMetadata at hm₀
    split at hm₀ <;> cases hm₀ <;> rfl
  calc m.subStreamIndex = (identity m).subStreamIndex := rfl
    _ = (identity m₀).subStreamIndex := by rw [heq]
    _ = Int32.ofNat i := hindex

/-! ## Extra data -/

/-- A sub-stream without its extra data. -/
def bare (m : SubStreamMetadata) : SubStreamMetadata := { m with extraData := [] }

theorem map_bare_setExtraData (subs : List SubStreamMetadata) (i : Nat) (extra : Bytes) :
    (setExtraData subs i extra).map bare = subs.map bare := by
  apply List.ext_getElem?
  intro j
  simp only [setExtraData, List.getElem?_map, List.getElem?_modify]
  cases subs[j]? with
  | none => rfl
  | some m => by_cases h : i = j <;> simp [h, bare]

theorem extraDataOf_setExtraData (subs : List SubStreamMetadata) (i j : Nat) (extra : Bytes) :
    extraDataOf (setExtraData subs i extra) j =
      if i = j ∧ j < subs.length then extra else extraDataOf subs j := by
  unfold extraDataOf setExtraData
  rw [List.getElem?_modify]
  by_cases hj : j < subs.length
  · by_cases hi : i = j <;> simp [hi, hj]
  · simp [hj]

/-- The extra data of entry `j` after the `Init` for stream `i`. -/
def initExtra (st : AVStream) (i j : Nat) (extra : Bytes) : Bytes :=
  match st.codecId with
  | .h264 => if i = j then (annexBExtra .h264 extra).toOption.getD [] else extra
  | .mpeg4 => if 0 = j then [] else extra
  | _ => extra

theorem newStreamParser_subs {i : Nat} {st : AVStream} {playType : StreamPlayType}
    {subs subs' : List SubStreamMetadata} {p : StreamParser}
    (h : newStreamParser i st playType subs = .ok (p, subs')) :
    subs'.map bare = subs.map bare ∧
      ∀ j, j < subs.length → extraDataOf subs' j = initExtra st i j (extraDataOf subs j) := by
  unfold newStreamParser at h
  unfold initExtra
  split at h
  · rename_i hc
    obtain ⟨extra, hx, -, rfl⟩ := h264or5Init_ok h
    refine ⟨map_bare_setExtraData .., fun j hj => ?_⟩
    simp only [extraDataOf_setExtraData, hj, and_true, hc]
    split
    · rename_i hij
      rw [← hij, hx]
      rfl
    · rfl
  · rename_i hc
    obtain ⟨extra, hx, -, rfl⟩ := h264or5Init_ok h
    refine ⟨map_bare_setExtraData .., fun j hj => ?_⟩
    have hextra : extraDataOf subs i = extra := by simpa [annexBExtra] using hx
    simp only [extraDataOf_setExtraData, hj, and_true, hc]
    split
    · rename_i hij
      rw [← hij, hextra]
    · rfl
  · rename_i hc
    cases h
    refine ⟨map_bare_setExtraData .., fun j hj => ?_⟩
    simp only [extraDataOf_setExtraData, hj, and_true, hc]
  · rename_i h1 h2 h3
    cases h
    refine ⟨rfl, fun j _ => ?_⟩
    split <;> first | rfl | contradiction

theorem length_eq_of_map_bare {subs subs' : List SubStreamMetadata}
    (h : subs'.map bare = subs.map bare) : subs'.length = subs.length := by
  simpa using congrArg List.length h

/-- The extra data of entry `j` after the `Init`s for the streams from `i` on. -/
def setupExtra (j : Nat) : (i : Nat) → List AVStream → Bytes → Bytes
  | _, [], extra => extra
  | i, st :: sts, extra => setupExtra j (i + 1) sts (initExtra st i j extra)

/-- The second loop of `Open`: a parser for every stream, and only extra data change. -/
theorem setupParsers_ok {playType : StreamPlayType} {i : Nat} {sts : List AVStream}
    {subs subs' : List SubStreamMetadata} {ps ps' : List StreamParser}
    (h : setupParsers playType i sts subs ps = some (subs', some ps')) :
    ps'.map (fun p => (p.streamIndex, p.stream)) =
        ps.map (fun p => (p.streamIndex, p.stream)) ++ sts.mapIdx (fun j st => (i + j, st)) ∧
      subs'.map bare = subs.map bare ∧
      ∀ j, j < subs.length → extraDataOf subs' j = setupExtra j i sts (extraDataOf subs j) := by
  induction sts generalizing i subs ps with
  | nil =>
    cases h
    exact ⟨by simp, rfl, fun j _ => rfl⟩
  | cons st sts ih =>
    unfold setupParsers at h
    split at h
    · cases h
    · cases h
    · rename_i p subs₁ hp
      obtain ⟨hps, hbare, hextra⟩ := ih h
      obtain ⟨hbare₁, hextra₁⟩ := newStreamParser_subs hp
      refine ⟨?_, hbare.trans hbare₁, fun j hj => ?_⟩
      · rw [hps, newStreamParser_eq hp]
        simp [baseInit, List.mapIdx_cons, Nat.add_assoc, Nat.add_comm 1]
      · rw [hextra j (by rw [length_eq_of_map_bare hbare₁]; exact hj), hextra₁ j hj]
        rfl

/-- Entries in front of the streams are not touched, but for the first. -/
theorem setupExtra_lt {i j : Nat} (hj : j < i) (h₀ : j ≠ 0) (sts : List AVStream)
    (extra : Bytes) : setupExtra j i sts extra = extra := by
  induction sts generalizing i with
  | nil => rfl
  | cons st sts ih =>
    have hinit : initExtra st i j extra = extra := by
      unfold initExtra
      split
      · exact if_neg (Nat.ne_of_gt hj)
      · exact if_neg (Ne.symm h₀)
      · rfl
    rw [setupExtra, hinit]
    exact ih (Nat.lt_succ_of_lt hj)

/-- A stream that is not the first keeps what its own `Init` leaves. -/
theorem setupExtra_pos {i j k : Nat} {sts : List AVStream} {st : AVStream}
    (hst : sts[k]? = some st) (hj : j = i + k) (h₀ : j ≠ 0) (extra : Bytes) :
    setupExtra j i sts extra = initExtra st j j extra := by
  induction sts generalizing i k with
  | nil => cases hst
  | cons s sts ih =>
    cases k with
    | zero =>
      cases hst
      subst hj
      exact setupExtra_lt (Nat.lt_succ_self _) h₀ ..
    | succ k =>
      have hinit : initExtra s i j extra = extra := by
        unfold initExtra
        split
        · exact if_neg (by omega)
        · exact if_neg (Ne.symm h₀)
        · rfl
      rw [setupExtra, hinit]
      exact ih hst (by omega)

/-- An MPEG-4 stream behind it takes the extra data of the first. -/
theorem setupExtra_zero {i : Nat} (hi : 0 < i) (sts : List AVStream) (extra : Bytes) :
    setupExtra 0 i sts extra = if ∃ st ∈ sts, st.codecId = .mpeg4 then [] else extra := by
  induction sts generalizing i extra with
  | nil => simp [setupExtra]
  | cons st sts ih =>
    rw [setupExtra, ih (Nat.succ_pos i)]
    by_cases hm : st.codecId = .mpeg4
    · simp [initExtra, hm]
    · have hinit : initExtra st i 0 extra = extra := by
        unfold initExtra
        split
        · exact if_neg (Nat.ne_of_gt hi)
        · contradiction
        · rfl
      simp [hinit, hm]

/-! ## The two loops -/

/-- A codec type that has metadata. -/
def AVStream.supported (st : AVStream) : Prop := st.codecType = .audio ∨ st.codecType = .video

instance (st : AVStream) : Decidable st.supported := inferInstanceAs (Decidable (_ ∨ _))

theorem subMetadata_isSome (i : Nat) (st : AVStream) :
    (subMetadata i st).isSome ↔ st.supported := by
  unfold subMetadata AVStream.supported
  split <;> simp_all

theorem addSubStreams_supported (i : Nat) (sts : List AVStream) (subs : List SubStreamMetadata) :
    (addSubStreams i sts subs).2 = true ↔ ∀ st ∈ sts, st.supported := by
  induction sts generalizing i subs with
  | nil => simp [addSubStreams]
  | cons st sts ih =>
    have hs := subMetadata_isSome i st
    unfold addSubStreams
    cases hm : subMetadata i st with
    | none =>
      rw [hm] at hs
      simpa using fun h => absurd (hs.2 h) (by simp)
    | some m =>
      rw [hm] at hs
      simpa [hs.1 rfl] using ih (i + 1) (subs ++ [m])

/-- The first loop of `Open` appends an entry for every stream. -/
theorem addSubStreams_map {i : Nat} {sts : List AVStream} {subs subs' : List SubStreamMetadata}
    (h : addSubStreams i sts subs = (subs', true)) :
    subs'.map some = subs.map some ++ sts.mapIdx fun j st => subMetadata (i + j) st := by
  induction sts generalizing i subs with
  | nil =>
    cases h
    simp
  | cons st sts ih =>
    unfold addSubStreams at h
    split at h
    · cases h
    · rename_i m hm
      rw [ih h]
      simp [List.mapIdx_cons, hm, Nat.add_assoc, Nat.add_comm 1]

/-- What the `Init` for stream `i` makes of the extra data it finds: an H.264 stream may refuse
its record, or read outside it. -/
def initRecord (subs : List SubStreamMetadata) (i : Nat) (st : AVStream) :
    Except AvcCError Bytes :=
  if st.codecId = .h264 then annexBExtra .h264 (extraDataOf subs i) else .ok []

/-- The first failure of an `Init` for the streams from `i` on. -/
def initCheck (subs : List SubStreamMetadata) : (i : Nat) → List AVStream → Except AvcCError Unit
  | _, [] => .ok ()
  | i, st :: sts =>
    match initRecord subs i st with
    | .error e => .error e
    | .ok _ => initCheck subs (i + 1) sts

/-- An `Init` touches entries of later streams only if they are the first. -/
theorem newStreamParser_later {i j : Nat} {st : AVStream} {playType : StreamPlayType}
    {subs subs' : List SubStreamMetadata} {p : StreamParser}
    (h : newStreamParser i st playType subs = .ok (p, subs')) (hj : i < j) :
    extraDataOf subs' j = extraDataOf subs j := by
  obtain ⟨hbare, hextra⟩ := newStreamParser_subs h
  by_cases hlt : j < subs.length
  · rw [hextra j hlt, initExtra]
    split
    · exact if_neg (by omega)
    · exact if_neg (by omega)
    · rfl
  · have hlt' : ¬j < subs'.length := by rwa [length_eq_of_map_bare hbare]
    simp [extraDataOf, hlt, hlt']

theorem newStreamParser_error {i : Nat} {st : AVStream} {subs : List SubStreamMetadata}
    {e : AvcCError} (h : initRecord subs i st = .error e) (playType : StreamPlayType) :
    newStreamParser i st playType subs = .error e := by
  unfold initRecord at h
  split at h
  · rename_i hc
    simp [newStreamParser, hc, h264or5Init, h, Except.map]
  · cases h

theorem newStreamParser_total {i : Nat} {st : AVStream} {subs : List SubStreamMetadata}
    {x : Bytes} (h : initRecord subs i st = .ok x) (playType : StreamPlayType) :
    ∃ p subs', newStreamParser i st playType subs = .ok (p, subs') := by
  unfold newStreamParser
  split
  · rename_i hc
    rw [initRecord, if_pos hc] at h
    simp [h264or5Init, h, Except.map]
  · simp [h264or5Init, annexBExtra, Except.map]
  · exact ⟨_, _, rfl⟩
  · exact ⟨_, _, rfl⟩

/-- How the second loop of `Open` ends. -/
theorem setupParsers_check (playType : StreamPlayType) (i : Nat) (sts : List AVStream)
    {subs subs₀ : List SubStreamMetadata} (ps : List StreamParser)
    (hagree : ∀ j, i ≤ j → extraDataOf subs j = extraDataOf subs₀ j) :
    match initCheck subs₀ i sts with
    | .error .outside => setupParsers playType i sts subs ps = none
    | .error .refused => ∃ subs', setupParsers playType i sts subs ps = some (subs', none)
    | .ok () => ∃ subs' ps', setupParsers playType i sts subs ps = some (subs', some ps') := by
  induction sts generalizing i subs ps with
  | nil => exact ⟨subs, ps, rfl⟩
  | cons st sts ih =>
    have hrecord : initRecord subs₀ i st = initRecord subs i st := by
      simp only [initRecord, hagree i le_rfl]
    unfold initCheck setupParsers
    cases hx : initRecord subs₀ i st with
    | error e =>
      have hp := newStreamParser_error (hrecord.symm.trans hx) playType
      cases e <;> simp [hp]
    | ok x =>
      obtain ⟨p, subs₁, hp⟩ := newStreamParser_total (hrecord.symm.trans hx) playType
      simp only [hp]
      refine ih (i + 1) (ps ++ [p]) fun j hj => ?_
      rw [newStreamParser_later hp hj]
      exact hagree j (Nat.le_of_succ_le hj)

/-! ## A first opening -/

/-- An MPEG-4 stream that is not the first has no extra data, nor has the first stream. -/
def Mpeg4Harmless : List AVStream → Prop
  | [] => True
  | first :: sts => ∀ st ∈ sts, st.codecId = .mpeg4 → st.extradata = [] ∧ parserExtra first = []

theorem initExtra_first (st : AVStream) : initExtra st 0 0 st.extradata = parserExtra st := by
  unfold initExtra parserExtra
  split <;> simp

theorem initExtra_pos {j : Nat} (hj : j ≠ 0) (st : AVStream) :
    initExtra st j j st.extradata = parserExtra st ↔ (st.codecId = .mpeg4 → st.extradata = []) := by
  unfold initExtra parserExtra
  split <;> simp_all [Ne.symm hj]

/-- The second loop leaves every stream the extra data it starts with unless an MPEG-4 stream
clears those of the first. -/
theorem setupExtra_iff (sts : List AVStream) :
    (∀ j st, sts[j]? = some st → setupExtra j 0 sts st.extradata = parserExtra st) ↔
      Mpeg4Harmless sts := by
  cases sts with
  | nil => simp [Mpeg4Harmless]
  | cons first sts =>
    have hfirst : setupExtra 0 0 (first :: sts) first.extradata =
        if ∃ st ∈ sts, st.codecId = .mpeg4 then [] else parserExtra first := by
      rw [setupExtra, setupExtra_zero (Nat.succ_pos 0), initExtra_first]
    have hpos : ∀ k st, sts[k]? = some st →
        setupExtra (k + 1) 0 (first :: sts) st.extradata = initExtra st (k + 1) (k + 1) st.extradata :=
      fun k st hst => setupExtra_pos (k := k + 1) hst (by omega) (Nat.succ_ne_zero k) _
    constructor
    · intro h st hst hm
      obtain ⟨k, hk⟩ := List.mem_iff_getElem?.1 hst
      have hown := h (k + 1) st hk
      rw [hpos k st hk, initExtra_pos (Nat.succ_ne_zero k)] at hown
      have h0 := h 0 first rfl
      rw [hfirst, if_pos ⟨st, hst, hm⟩] at h0
      exact ⟨hown hm, h0.symm⟩
    · intro h j st hst
      cases j with
      | zero =>
        cases hst
        rw [hfirst]
        split
        · rename_i hm
          obtain ⟨st, hst, hm⟩ := hm
          exact (h st hst hm).2.symm
        · rfl
      | succ k =>
        rw [hpos k st hst, initExtra_pos (Nat.succ_ne_zero k)]
        exact fun hm => (h st (List.mem_of_getElem? hst) hm).1

theorem extraData_subMetadata {i : Nat} {st : AVStream} {m : SubStreamMetadata}
    (h : subMetadata i st = some m) : m.extraData = st.extradata := by
  unfold subMetadata at h
  split at h <;> cases h <;> rfl

/-- Where only extra data differ from the metadata of the streams, these decide. -/
theorem map_some_eq_described_iff {sts : List AVStream} {subs subs' : List SubStreamMetadata}
    (hsubs : subs.map some = sts.mapIdx subMetadata) (hbare : subs'.map bare = subs.map bare) :
    subs'.map some = sts.mapIdx described ↔
      ∀ j st, sts[j]? = some st → extraDataOf subs' j = parserExtra st := by
  have hentry : ∀ j st, sts[j]? = some st → ∃ m m', subMetadata j st = some m ∧
      subs'[j]? = some m' ∧ bare m' = bare m := by
    intro j st hst
    have h1 := congrArg (·[j]?) hsubs
    have h2 := congrArg (·[j]?) hbare
    simp only [List.getElem?_map, List.getElem?_mapIdx, hst, Option.map_some] at h1 h2
    obtain ⟨m, hm, hm'⟩ := Option.map_eq_some_iff.1 h1
    rw [hm, Option.map_some] at h2
    obtain ⟨m', hm₁, hm₂⟩ := Option.map_eq_some_iff.1 h2
    exact ⟨m, m', hm'.symm, hm₁, hm₂⟩
  have hsame : ∀ m m' : SubStreamMetadata, bare m' = bare m → ∀ extra,
      m' = { m with extraData := extra } ↔ m'.extraData = extra := by
    intro m m' h extra
    simp only [bare, SubStreamMetadata.mk.injEq] at h
    cases m'
    simp_all
  constructor
  · intro h j st hst
    obtain ⟨m, m', hm, hm', hb⟩ := hentry j st hst
    have hj := congrArg (·[j]?) h
    simp only [List.getElem?_map, List.getElem?_mapIdx, hst, hm', Option.map_some, described, hm,
      Option.some.injEq] at hj
    rw [extraDataOf, hm']
    exact (hsame m m' hb _).1 hj
  · intro h
    have hlen : subs'.length = sts.length := by
      rw [length_eq_of_map_bare hbare]
      simpa using congrArg List.length hsubs
    apply List.ext_getElem?
    intro j
    rw [List.getElem?_map, List.getElem?_mapIdx]
    cases hst : sts[j]? with
    | none =>
      have hj : subs'.length ≤ j := hlen ▸ List.getElem?_eq_none_iff.1 hst
      rw [List.getElem?_eq_none hj]
      rfl
    | some st =>
      obtain ⟨m, m', hm, hm', hb⟩ := hentry j st hst
      have hx := h j st hst
      rw [extraDataOf, hm'] at hx
      simp only [hm', Option.map_some, described, hm, (hsame m m' hb _).2 hx]

/-! ## Reading -/

theorem identity_videoMeta (m : SubStreamMetadata) (pic : Picture) (newExtra : Bytes) :
    identity (StreamParser.videoMeta m pic newExtra).1 = identity m := rfl

theorem doUpdateMeta_identity (p : StreamParser) (subs : List SubStreamMetadata) (r : Packet)
    (data : Payload) : (p.doUpdateMeta subs r data).1.map identity = subs.map identity := by
  unfold StreamParser.doUpdateMeta
  split
  · rfl
  · apply List.ext_getElem?
    intro j
    simp only [List.getElem?_map, List.getElem?_modify]
    cases subs[j]? with
    | none => rfl
    | some m => by_cases hj : p.streamIndex = j <;> simp [hj, identity_videoMeta]

theorem parse_identity {p : StreamParser} {base : Base} {subs : List SubStreamMetadata}
    {r : Packet} {out : StreamParser.Parsed} (h : p.parse base subs r = some out) :
    out.subStreams.map identity = subs.map identity := by
  obtain ⟨q, data, -, rfl⟩ := StreamParser.parse_eq_some.1 h
  unfold StreamParser.baseParse
  split
  · rfl
  · split
    · rfl
    · exact doUpdateMeta_identity ..

/-- An aligned demuxer that is open. -/
structure OpenAligned (d : FFmpegDemuxer) : Prop where
  aligned : Aligned d
  isOpen : d.fmtCtx ≠ none

theorem OpenAligned.withFrames {d : FFmpegDemuxer} (h : OpenAligned d) (frames : List ReadFrame) :
    OpenAligned (d.withFrames frames) := by
  cases hctx : d.fmtCtx with
  | none => exact absurd hctx h.isOpen
  | some ctx =>
    have hw : (d.withFrames frames).fmtCtx = some { ctx with frames := frames } := by
      simp [FFmpegDemuxer.withFrames, hctx]
    refine ⟨⟨fun ctx' h' => ?_, fun ctx' h' => ?_, fun h' => ?_⟩, by simp [hw]⟩
    · rw [hw] at h'
      cases h'
      exact h.aligned.subStreams ctx hctx
    · rw [hw] at h'
      cases h'
      exact h.aligned.parsers ctx hctx
    · rw [hw] at h'
      cases h'

/-- The cache of an open demuxer does not matter. -/
theorem OpenAligned.withCache {d : FFmpegDemuxer} (h : OpenAligned d) (cached : List PktNode) :
    OpenAligned { d with cachedPkts := cached } :=
  ⟨⟨h.aligned.subStreams, h.aligned.parsers, fun hn => absurd hn h.isOpen⟩, h.isOpen⟩

theorem OpenAligned.parse {d : FFmpegDemuxer} (h : OpenAligned d) {p : StreamParser} {r : Packet}
    {out : FFmpegDemuxer.ParseOutcome} (hp : d.streamParsers[r.pkt.streamIndex]? = some p)
    (ho : d.parseWith p r = some out) : OpenAligned out.demuxer := by
  obtain ⟨res, hres, rfl⟩ := Option.map_eq_some_iff.1 ho
  have hkeeps := StreamParser.parse_keeps hres
  refine ⟨⟨fun ctx hctx => ?_, fun ctx hctx => ?_, fun hn => absurd hn h.isOpen⟩, h.isOpen⟩
  · have hid := congrArg (List.map some) (parse_identity hres)
    rw [List.map_map, List.map_map] at hid
    exact hid.trans (h.aligned.subStreams ctx hctx)
  · rw [← h.aligned.parsers ctx hctx]
    have hi : (d.streamParsers.map fun p => (p.streamIndex, p.stream))[r.pkt.streamIndex]? =
        some (res.parser.streamIndex, res.parser.stream) := by
      rw [List.getElem?_map, hp, hkeeps.streamIndex, hkeeps.stream]
      rfl
    obtain ⟨hlt, heq⟩ := List.getElem?_eq_some_iff.1 hi
    calc (d.streamParsers.set r.pkt.streamIndex res.parser).map
          (fun p => (p.streamIndex, p.stream))
        = (d.streamParsers.map fun p => (p.streamIndex, p.stream)).set r.pkt.streamIndex
            (res.parser.streamIndex, res.parser.stream) := List.map_set
      _ = d.streamParsers.map fun p => (p.streamIndex, p.stream) := by
        rw [← heq, List.set_getElem_self]

theorem aligned_readPacket {d d' : FFmpegDemuxer} {res : FFmpegDemuxer.ReadResult}
    (h : d.readPacket = some (d', res)) (hd : Aligned d) : Aligned d' := by
  by_cases hopen : d.fmtCtx = none
  · rw [FFmpegDemuxer.readPacket, if_pos hopen] at h
    cases h
    exact hd
  · exact (FFmpegDemuxer.readPacket_inv OpenAligned (fun _ frames h => h.withFrames frames)
      (fun _ _ rest h _ => h.withCache rest) (fun _ _ _ _ h hp ho => h.parse hp ho) h
      ⟨hd, hopen⟩).aligned

theorem aligned_readMeta {d d' : FFmpegDemuxer} {turns : Nat} {ret : FFmpegSourceErrCode}
    (h : d.readMeta turns = some (d', ret)) (hd : Aligned d) : Aligned d' := by
  unfold FFmpegDemuxer.readMeta at h
  split at h
  · cases h
    exact hd
  · rename_i hopen
    split at h
    · exact (FFmpegDemuxer.readMetaLoop_inv OpenAligned (fun _ frames h => h.withFrames frames)
        (fun _ _ _ _ h hp ho => (h.parse hp ho).withCache _) h ⟨hd, hopen⟩).aligned
    · cases h
      exact hd

/-! ## Opening -/

/-- The input, once it is open and its streams are known. -/
def OpenCall.input (c : OpenCall) : Option AVFormatContext :=
  if c.allocated ∧ c.streamInfoFound then c.opened else none

/-- An `Open` that gets past its options leaves an aligned demuxer. If it fails before parsers
are initialised, it must find no parsers and no cached packets; if it fails there, no cached
packets; if it succeeds, no metadata and no parsers. -/
def Reopens (d : FFmpegDemuxer) (c : OpenCall) : Prop :=
  match c.input with
  | none => d.streamParsers = [] ∧ d.cachedPkts = []
  | some ctx =>
    if ∀ st ∈ ctx.streams, st.supported then
      match initCheck (addSubStreams 0 ctx.streams d.metadata.subStreams).1 0 ctx.streams with
      | .error .outside => True
      | .error .refused => d.cachedPkts = []
      | .ok () =>
        d.metadata.subStreams = [] ∧ d.streamParsers = [] ∧ Mpeg4Harmless ctx.streams
    else d.streamParsers = [] ∧ d.cachedPkts = []

def KeepsAligned (d : FFmpegDemuxer) : DemuxerCall → Prop
  | .openInput c => d.ioEnabled = true → c.optionsParsed = true → Reopens d c
  | _ => True

/-- The call parses packets. -/
def DemuxerCall.reads : DemuxerCall → Bool
  | .readMeta _ | .readPacket => true
  | _ => false

/-- The demuxer is aligned after the call, and its metadata come from the input alone unless a
packet was parsed. -/
def AlignedAfter (d : FFmpegDemuxer) (call : DemuxerCall) : Prop :=
  ∀ d', demuxerStep d call = some d' → Aligned d' ∧ (call.reads = false → Exact d → Exact d')

theorem aligned_of_closed {d : FFmpegDemuxer} (h : d.fmtCtx = none) :
    Aligned d ↔ d.streamParsers = [] ∧ d.cachedPkts = [] := by
  refine ⟨fun hd => hd.closed h, fun hd => ⟨fun ctx hctx => ?_, fun ctx hctx => ?_, fun _ => hd⟩⟩
  · rw [h] at hctx
    cases hctx
  · rw [h] at hctx
    cases hctx

theorem exact_of_closed {d : FFmpegDemuxer} (h : d.fmtCtx = none) : Exact d := by
  intro ctx hctx
  rw [h] at hctx
  cases hctx

/-- A demuxer with no metadata is closed or its input has no streams. -/
theorem Aligned.exact_of_nil {d : FFmpegDemuxer} (h : Aligned d)
    (hnil : d.metadata.subStreams = []) : Exact d := by
  intro ctx hctx
  have hs := h.subStreams ctx hctx
  rw [hnil] at hs ⊢
  have hlen : ctx.streams = [] := by
    simpa using (congrArg List.length hs).symm
  rw [hlen]
  rfl

theorem map_identity_of_map_bare {subs subs' : List SubStreamMetadata}
    (h : subs'.map bare = subs.map bare) :
    subs'.map (fun m => some (identity m)) = subs.map fun m => some (identity m) := by
  have hid := congrArg (List.map fun m => some (identity m)) h
  rw [List.map_map, List.map_map] at hid
  exact hid

theorem extraDataOf_fresh {sts : List AVStream} {subs : List SubStreamMetadata}
    (hsubs : subs.map some = sts.mapIdx subMetadata) {j : Nat} {st : AVStream}
    (hst : sts[j]? = some st) : j < subs.length ∧ extraDataOf subs j = st.extradata := by
  have hj := congrArg (·[j]?) hsubs
  simp only [List.getElem?_map, List.getElem?_mapIdx, hst, Option.map_some] at hj
  obtain ⟨m, hm, hst'⟩ := Option.map_eq_some_iff.1 hj
  refine ⟨(List.getElem?_eq_some_iff.1 hm).1, ?_⟩
  rw [extraDataOf, hm]
  exact extraData_subMetadata hst'.symm

/-- After an `Open` that returns 0. -/
theorem opened_iff {d d' : FFmpegDemuxer} {ctx : AVFormatContext}
    {subs : List SubStreamMetadata} {playType : StreamPlayType} (hd : Aligned d)
    (hadd : addSubStreams 0 ctx.streams d.metadata.subStreams = (subs, true))
    (hset : setupParsers playType 0 ctx.streams subs d.streamParsers =
      some (d'.metadata.subStreams, some d'.streamParsers))
    (hctx : d'.fmtCtx = some ctx) :
    (Aligned d' ∧ (Exact d → Exact d')) ↔
      d.metadata.subStreams = [] ∧ d.streamParsers = [] ∧ Mpeg4Harmless ctx.streams := by
  obtain ⟨hps, hbare, hextra⟩ := setupParsers_ok hset
  have hsubs := addSubStreams_map hadd
  simp only [Nat.zero_add] at hps hsubs
  constructor
  · rintro ⟨hal, hex⟩
    -- the vectors are too long if anything was in them before
    have hlen := (hal.entries hctx).1
    have hplen := (hal.entries hctx).2.1
    have hs : d.metadata.subStreams = [] := by
      have h1 := length_eq_of_map_bare hbare
      have h2 := congrArg List.length hsubs
      simp only [List.length_map, List.length_append, List.length_mapIdx] at h2
      exact List.length_eq_zero_iff.1 (by omega)
    have hp : d.streamParsers = [] := by
      have h1 := congrArg List.length hps
      simp only [List.length_map, List.length_append, List.length_mapIdx] at h1
      exact List.length_eq_zero_iff.1 (by omega)
    refine ⟨hs, hp, ?_⟩
    rw [hs, List.map_nil, List.nil_append] at hsubs
    have hexact := (map_some_eq_described_iff hsubs hbare).1 (hex (hd.exact_of_nil hs) ctx hctx)
    rw [← setupExtra_iff]
    intro j st hst
    obtain ⟨hj, hx⟩ := extraDataOf_fresh hsubs hst
    rw [← hexact j st hst, hextra j hj, hx]
  · rintro ⟨hs, hp, hm⟩
    rw [hs, List.map_nil, List.nil_append] at hsubs
    rw [hp, List.map_nil, List.nil_append] at hps
    refine ⟨⟨fun ctx' hctx' => ?_, fun ctx' hctx' => ?_, fun hn => ?_⟩, fun _ ctx' hctx' => ?_⟩
    · rw [hctx] at hctx'
      cases hctx'
      rw [map_identity_of_map_bare hbare]
      have hid := congrArg (List.map (Option.map identity)) hsubs
      rw [List.map_map] at hid
      exact hid.trans (by simp [List.mapIdx_eq_zipIdx_map, Function.comp_def])
    · rw [hctx] at hctx'
      cases hctx'
      exact hps
    · rw [hctx] at hn
      cases hn
    · rw [hctx] at hctx'
      cases hctx'
      rw [map_some_eq_described_iff hsubs hbare]
      intro j st hst
      obtain ⟨hj, hx⟩ := extraDataOf_fresh hsubs hst
      rw [← (setupExtra_iff ctx.streams).2 hm j st hst, hextra j hj, hx]

/-- The demuxer when `Open` has overwritten `fmt_ctx_`. -/
def FFmpegDemuxer.begun (d : FFmpegDemuxer) : FFmpegDemuxer :=
  { d with base := {}, fmtCtx := none }

theorem openInput_none {d : FFmpegDemuxer} {c : OpenCall} (hio : d.ioEnabled = true)
    (hopt : c.optionsParsed = true) (h : c.input = none) :
    ∃ ret, d.openInput c = some (d.begun, ret) := by
  rw [FFmpegDemuxer.openInput, if_pos hio]
  simp only [hopt, if_true]
  unfold OpenCall.input at h
  by_cases ha : c.allocated = true
  · rw [if_pos ha]
    cases ho : c.opened with
    | none => exact ⟨_, rfl⟩
    | some ctx =>
      by_cases hs : c.streamInfoFound = true
      · rw [if_pos ⟨ha, hs⟩, ho] at h
        cases h
      · refine ⟨.io, ?_⟩
        simp only [if_neg hs]
        rfl
  · exact ⟨_, by rw [if_neg ha]; rfl⟩

theorem openInput_some {d : FFmpegDemuxer} {c : OpenCall} {ctx : AVFormatContext}
    (hio : d.ioEnabled = true) (hopt : c.optionsParsed = true) (h : c.input = some ctx) :
    d.openInput c = d.begun.openStreams c ctx := by
  unfold OpenCall.input at h
  split at h
  · rename_i hc
    simp only [FFmpegDemuxer.openInput, if_pos hio, hopt, hc, if_true, h]
    rfl
  · cases h

/-- `AlignedAfter` for a step with a known result. -/
theorem alignedAfter_iff {d d' : FFmpegDemuxer} {call : DemuxerCall}
    (h : demuxerStep d call = some d') :
    AlignedAfter d call ↔ Aligned d' ∧ (call.reads = false → Exact d → Exact d') := by
  refine ⟨fun ha => ha d' h, fun ha e he => ?_⟩
  rw [h] at he
  cases he
  exact ha

theorem alignedAfter_of_closed {d d' : FFmpegDemuxer} {call : DemuxerCall}
    (h : demuxerStep d call = some d') (hn : d'.fmtCtx = none) :
    AlignedAfter d call ↔ d'.streamParsers = [] ∧ d'.cachedPkts = [] := by
  rw [alignedAfter_iff h, aligned_of_closed hn]
  exact and_iff_left fun _ _ => exact_of_closed hn

theorem openStreams_unsupported {d : FFmpegDemuxer} {c : OpenCall} {ctx : AVFormatContext}
    (h : ¬∀ st ∈ ctx.streams, st.supported) :
    ∃ m, d.openStreams c ctx = some ({ d with ssrc := c.ssrc, metadata := m }, .general) := by
  rw [← addSubStreams_supported 0 ctx.streams d.metadata.subStreams] at h
  refine ⟨c.metadata ctx (addSubStreams 0 ctx.streams d.metadata.subStreams).1, ?_⟩
  unfold FFmpegDemuxer.openStreams
  simp only [if_neg h]

theorem openStreams_supported {d : FFmpegDemuxer} {c : OpenCall} {ctx : AVFormatContext}
    (h : ∀ st ∈ ctx.streams, st.supported) :
    d.openStreams c ctx =
      (setupParsers (c.playType ctx) 0 ctx.streams
        (addSubStreams 0 ctx.streams d.metadata.subStreams).1 d.streamParsers).map fun
          | (subs, none) =>
            ({ d with ssrc := c.ssrc, metadata := c.metadata ctx subs, streamParsers := [] },
              .general)
          | (subs, some parsers) =>
            ({ d with
                ssrc := c.ssrc, metadata := c.metadata ctx subs, fmtCtx := some ctx
                streamParsers := parsers }, .ok) := by
  rw [← addSubStreams_supported 0 ctx.streams d.metadata.subStreams] at h
  unfold FFmpegDemuxer.openStreams
  simp only [if_pos h]
  rfl

/-- The three ends of an `Open` that reaches the parsers. -/
theorem openParsers_iff {d : FFmpegDemuxer} {c : OpenCall} {ctx : AVFormatContext}
    (hd : Aligned d) (ho : d.openInput c = d.begun.openStreams c ctx)
    (hsup : ∀ st ∈ ctx.streams, st.supported) :
    AlignedAfter d (.openInput c) ↔
      match initCheck (addSubStreams 0 ctx.streams d.metadata.subStreams).1 0 ctx.streams with
      | .error .outside => True
      | .error .refused => d.cachedPkts = []
      | .ok () =>
        d.metadata.subStreams = [] ∧ d.streamParsers = [] ∧ Mpeg4Harmless ctx.streams := by
  rw [openStreams_supported hsup] at ho
  have hadd : addSubStreams 0 ctx.streams d.metadata.subStreams =
      ((addSubStreams 0 ctx.streams d.metadata.subStreams).1, true) :=
    Prod.ext rfl ((addSubStreams_supported ..).2 hsup)
  have hcheck := setupParsers_check (c.playType ctx) 0 ctx.streams d.streamParsers
    (fun j _ => Eq.refl (extraDataOf (addSubStreams 0 ctx.streams d.metadata.subStreams).1 j))
  cases hc : initCheck (addSubStreams 0 ctx.streams d.metadata.subStreams).1 0 ctx.streams with
  | error e =>
    rw [hc] at hcheck
    cases e with
    | outside =>
      have hset : setupParsers (c.playType ctx) 0 ctx.streams
          (addSubStreams 0 ctx.streams d.begun.metadata.subStreams).1 d.begun.streamParsers =
          none := hcheck
      rw [hset] at ho
      refine ⟨fun _ => trivial, fun _ d' hstep => ?_⟩
      rw [demuxerStep, ho] at hstep
      cases hstep
    | refused =>
      obtain ⟨subs', hset⟩ := hcheck
      have hset' : setupParsers (c.playType ctx) 0 ctx.streams
          (addSubStreams 0 ctx.streams d.begun.metadata.subStreams).1 d.begun.streamParsers =
          some (subs', none) := hset
      rw [hset'] at ho
      have hstep : demuxerStep d (.openInput c) = some { d.begun with
          ssrc := c.ssrc, metadata := c.metadata ctx subs', streamParsers := [] } := by
        rw [demuxerStep, ho]
        rfl
      have hiff := alignedAfter_of_closed hstep rfl
      exact hiff.trans (and_iff_right rfl)
  | ok u =>
    rw [hc] at hcheck
    obtain ⟨subs', ps', hset⟩ := hcheck
    have hset' : setupParsers (c.playType ctx) 0 ctx.streams
        (addSubStreams 0 ctx.streams d.begun.metadata.subStreams).1 d.begun.streamParsers =
        some (subs', some ps') := hset
    rw [hset'] at ho
    let d' : FFmpegDemuxer := { d.begun with
      ssrc := c.ssrc, metadata := c.metadata ctx subs', fmtCtx := some ctx, streamParsers := ps' }
    have hstep : demuxerStep d (.openInput c) = some d' := by
      rw [demuxerStep, ho]
      rfl
    have hvectors : setupParsers (c.playType ctx) 0 ctx.streams
        (addSubStreams 0 ctx.streams d.metadata.subStreams).1 d.streamParsers =
        some (d'.metadata.subStreams, some d'.streamParsers) := hset
    rw [alignedAfter_iff hstep, ← opened_iff hd hadd hvectors rfl]
    simp [DemuxerCall.reads]

theorem open_iff {d : FFmpegDemuxer} {c : OpenCall} (hd : Aligned d) (hio : d.ioEnabled = true)
    (hopt : c.optionsParsed = true) : AlignedAfter d (.openInput c) ↔ Reopens d c := by
  unfold Reopens
  cases hin : c.input with
  | none =>
    obtain ⟨ret, ho⟩ := openInput_none hio hopt hin
    have hstep : demuxerStep d (.openInput c) = some d.begun := by simp [demuxerStep, ho]
    have hiff := alignedAfter_of_closed hstep rfl
    exact hiff
  | some ctx =>
    have ho := openInput_some hio hopt hin
    by_cases hsup : ∀ st ∈ ctx.streams, st.supported
    · simp only [if_pos hsup]
      exact openParsers_iff hd ho hsup
    · obtain ⟨m, hm⟩ := openStreams_unsupported hsup (d := d.begun) (c := c)
      have hstep : demuxerStep d (.openInput c) =
          some { d.begun with ssrc := c.ssrc, metadata := m } := by
        simp [demuxerStep, ho, hm]
      have hiff := alignedAfter_of_closed hstep rfl
      simp only [if_neg hsup]
      exact hiff

/-! ## Runs -/

theorem alignedAfter_close {d : FFmpegDemuxer} (hd : Aligned d) : AlignedAfter d .close := by
  intro d' hstep
  cases hstep
  cases hctx : d.fmtCtx with
  | none =>
    have hclose : d.close = d := by simp [FFmpegDemuxer.close, hctx]
    rw [hclose]
    exact ⟨hd, fun _ h => h⟩
  | some ctx =>
    have hclose : d.close = { d with cachedPkts := [], streamParsers := [], fmtCtx := none } := by
      simp [FFmpegDemuxer.close, hctx]
    rw [hclose]
    exact ⟨(aligned_of_closed rfl).2 ⟨rfl, rfl⟩, fun _ _ => exact_of_closed rfl⟩

/-- An `Open` that fails at its options leaves the demuxer open or closed as it was. -/
theorem alignedAfter_open_early {d : FFmpegDemuxer} {c : OpenCall} (hd : Aligned d)
    (h : ¬(d.ioEnabled = true ∧ c.optionsParsed = true)) : AlignedAfter d (.openInput c) := by
  have hstep : ∃ b, demuxerStep d (.openInput c) = some { d with base := b } := by
    by_cases hio : d.ioEnabled = true
    · have hopt : c.optionsParsed = false := by simpa [hio] using h
      exact ⟨{}, by simp [demuxerStep, FFmpegDemuxer.openInput, hio, hopt]⟩
    · refine ⟨d.base, ?_⟩
      rw [demuxerStep, FFmpegDemuxer.openInput, if_neg hio]
      rfl
  obtain ⟨b, hb⟩ := hstep
  rw [alignedAfter_iff hb]
  exact ⟨⟨hd.subStreams, hd.parsers, hd.closed⟩, fun _ h => h⟩

theorem alignedAfter_step {d : FFmpegDemuxer} (hd : Aligned d) (call : DemuxerCall) :
    AlignedAfter d call ↔ KeepsAligned d call := by
  cases call with
  | setIoEnabled enabled =>
    refine iff_of_true (fun d' hstep => ?_) trivial
    cases hstep
    exact ⟨⟨hd.subStreams, hd.parsers, hd.closed⟩, fun _ h => h⟩
  | openInput c =>
    by_cases h : d.ioEnabled = true ∧ c.optionsParsed = true
    · rw [open_iff hd h.1 h.2]
      simp [KeepsAligned, h]
    · exact iff_of_true (alignedAfter_open_early hd h) fun h1 h2 => absurd ⟨h1, h2⟩ h
  | close => exact iff_of_true (alignedAfter_close hd) trivial
  | readMeta turns =>
    refine iff_of_true (fun d' hstep => ?_) trivial
    obtain ⟨⟨d'', ret⟩, hr, rfl⟩ := Option.map_eq_some_iff.1 hstep
    exact ⟨aligned_readMeta hr hd, fun h => by cases h⟩
  | readPacket =>
    refine iff_of_true (fun d' hstep => ?_) trivial
    obtain ⟨⟨d'', res⟩, hr, rfl⟩ := Option.map_eq_some_iff.1 hstep
    exact ⟨aligned_readPacket hr hd, fun h => by cases h⟩

/-- **Alignment over reopenings.** From a new demuxer, every call of a run leaves metadata,
parsers and cache aligned exactly if every `Open` of the run meets its condition. -/
theorem reopen_aligned_iff (calls : List DemuxerCall) :
    Each demuxerStep AlignedAfter {} calls ↔ Each demuxerStep KeepsAligned {} calls := by
  refine each_iff (fun d call d' hd hk hstep => ?_) (fun d call hd => alignedAfter_step hd call)
    ((aligned_of_closed rfl).2 ⟨rfl, rfl⟩)
  exact ((alignedAfter_step hd call).2 hk d' hstep).1

/-- An input with one audio stream. -/
def oneStream : OpenCall :=
  { opened := some { streams := [
      { codecId := .aac, codecType := .audio, timeBase := ⟨1, 1000, Int.one_pos, thousand_pos⟩ }] } }

def reopenCalls : List DemuxerCall := [.openInput oneStream, .close, .openInput oneStream]

/-- The second opening of an input with one stream leaves two entries in `meta_.sub_streams`. -/
theorem reopen_misaligned :
    (∃ d ctx, exec demuxerStep {} reopenCalls = some d ∧ d.fmtCtx = some ctx ∧
      ctx.streams.length = 1 ∧ d.streamParsers.length = 1 ∧ d.metadata.subStreams.length = 2) ∧
    ¬Each demuxerStep AlignedAfter {} reopenCalls := by
  let last (calls : List DemuxerCall) : FFmpegDemuxer := (exec demuxerStep {} calls).getD {}
  have hclosed : exec demuxerStep {} [.openInput oneStream, .close] =
      some (last [.openInput oneStream, .close]) := by decide
  have hopen : demuxerStep (last [.openInput oneStream, .close]) (.openInput oneStream) =
      some (last reopenCalls) := by decide
  have hctx : (last reopenCalls).fmtCtx = oneStream.opened := by decide
  refine ⟨⟨last reopenCalls, _, by decide, hctx, by decide, by decide, by decide⟩, fun h => ?_⟩
  have hdrop : Each demuxerStep AlignedAfter (last [.openInput oneStream, .close])
      [.openInput oneStream] := h.drop hclosed
  have hlen := ((hdrop.1 _ hopen).1.entries hctx).1
  exact absurd hlen (by decide)

end StreamSwitch.Ffmpeg
