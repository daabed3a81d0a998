import StreamSwitch.FfmpegSource.Sync

/-!
# Timestamps of a live stream

`DoUpdateFrameInfo` gives the first packet of a live stream a time from the base of the demuxer and
every later one the time of the packet before it and a step: the step of the timestamps while
these are in sync, else a guess.

`live_stamps_in_order`: the times are well formed and never go back, in every run in which no step
is guessed from a negative frame rate. `drift_bounded`: of packets in sync, the time of a packet
is behind its presentation time by at most a microsecond for every packet after the first.
-/

namespace StreamSwitch.Ffmpeg

open Clock Run

/-! ## One stream -/

/-- The parser of a live stream with the base of its demuxer. -/
structure LiveStream where
  base : Base := {}
  parser : StreamParser
deriving DecidableEq, Repr

/-- A packet of the stream is given to `DoUpdateFrameInfo`, or one of another live stream. -/
inductive StreamEvent
  | own (r : Packet)
  | other (r : Packet)
deriving DecidableEq, Repr

namespace LiveStream

def step (s : LiveStream) : StreamEvent → Option LiveStream
  | .own r =>
    match s.parser.doUpdateFrameInfo s.base r with
    | (base, none) => some { s with base := base }
    | (base, some (q, _)) => some ⟨base, q⟩
  | .other r => some { s with base := StreamParser.liveBase s.base r }

/-- The packet of the stream that is not dropped, with the time it gets. -/
def marks (s : LiveStream) : StreamEvent → List Mark
  | .own r =>
    ((s.parser.doUpdateFrameInfo s.base r).2.map fun (_, info) =>
      ⟨s.parser.stream.timeBase, r.pkt.pts, info.timestamp⟩).toList
  | .other _ => []

/-- `Init` has just returned. Another stream may have set the base. -/
structure JustInit (s : LiveStream) : Prop where
  live : s.parser.isLive = true
  fresh : s.parser.lastPts = noPts
  dur : s.parser.lastDur = 0
  base : s.base.timestamp.Valid

end LiveStream

/-- The time of day is well formed, and no duration is negative. -/
def StreamEvent.Sound : StreamEvent → Prop
  | .own r => r.now.Valid ∧ 0 ≤ r.pkt.duration
  | .other r => r.now.Valid

/-- The step to a packet is guessed from the average frame rate. -/
def StreamParser.UsesFrameRate (p : StreamParser) (r : Packet) : Prop :=
  p.lastPts ≠ noPts ∧ r.pkt.pts ≠ noPts ∧
    (r.pkt.pts < p.lastPts ∨
      60 < ((r.pkt.pts - p.lastPts) * p.stream.timeBase.num).tdiv p.stream.timeBase.den) ∧
    p.lastDur ≤ 0 ∧ p.stream.codecType = .video

/-- A frame rate that is used is not negative. -/
def LiveStream.RateSound (s : LiveStream) : StreamEvent → Prop
  | .own r => s.parser.UsesFrameRate r →
    0 ≤ r.picture.avgFrameRateNum * r.picture.avgFrameRateDen
  | .other _ => True

/-! ## The time of one packet -/

namespace StreamParser

variable {p q : StreamParser} {base : Base} {r : Packet} {t ts : Stamp}

theorem valid_after (tb : TimeBase) {ticks : Int} (h : 0 ≤ ticks) (ht : t.Valid) :
    (after tb ticks t).Valid := by
  apply Stamp.valid_carry
  have hn : 0 ≤ ticks * tb.num := Int.mul_nonneg h tb.num_pos.le
  have hr := Stamp.usec_ofRatio_nonneg hn tb.den_pos
  have := ht.1
  show 0 ≤ (Stamp.ofRatio _ _).usec + t.usec
  omega

theorem micros_le_after (tb : TimeBase) {ticks : Int} (h : 0 ≤ ticks) (t : Stamp) :
    t.micros ≤ (after tb ticks t).micros := by
  have hn : 0 ≤ ticks * tb.num := Int.mul_nonneg h tb.num_pos.le
  have hdiv : 0 ≤ ticks * tb.num * million / tb.den :=
    Int.ediv_nonneg (Int.mul_nonneg hn (by decide)) tb.den_pos.le
  simp only [after, Stamp.micros_carry, Stamp.micros_add, Stamp.micros_ofRatio hn tb.den_pos]
  omega

/-- A quotient of two numbers of one sign. -/
theorem tdiv_nonneg_of_mul {a b : Int} (h : 0 ≤ a * b) : 0 ≤ a.tdiv b := by
  rcases mul_nonneg_iff.1 h with ⟨ha, hb⟩ | ⟨ha, hb⟩
  · exact Int.tdiv_nonneg ha hb
  · exact Int.tdiv_nonneg_of_nonpos_of_nonpos ha hb

theorem guessedDelta_nonneg (pic : Picture)
    (h : p.lastDur ≤ 0 → p.stream.codecType = .video →
      0 ≤ pic.avgFrameRateNum * pic.avgFrameRateDen) : 0 ≤ p.guessedDelta pic := by
  unfold guessedDelta
  split
  · omega
  · rename_i hdur
    split
    · rename_i hvideo
      have hrate := h (Int.not_lt.1 hdur) hvideo.1
      apply tdiv_nonneg_of_mul
      have hbase : 0 ≤ p.stream.timeBase.den * p.stream.timeBase.num :=
        Int.mul_nonneg p.stream.timeBase.den_pos.le p.stream.timeBase.num_pos.le
      have heq : pic.avgFrameRateDen * p.stream.timeBase.den *
          (pic.avgFrameRateNum * p.stream.timeBase.num) =
          pic.avgFrameRateNum * pic.avgFrameRateDen *
            (p.stream.timeBase.den * p.stream.timeBase.num) := by ring
      rw [heq]
      exact Int.mul_nonneg hrate hbase
    · exact Int.le_refl 0

theorem ptsDelta_nonneg (hlast : p.lastPts ≠ noPts) (hpts : r.pkt.pts ≠ noPts)
    (h : p.UsesFrameRate r → 0 ≤ r.picture.avgFrameRateNum * r.picture.avgFrameRateDen) :
    0 ≤ p.ptsDelta r.picture r.pkt.pts := by
  unfold ptsDelta
  split
  · rename_i hlost
    exact guessedDelta_nonneg r.picture fun hdur hvideo => h ⟨hlast, hpts, hlost, hdur, hvideo⟩
  · omega

/-- What `DoUpdateFrameInfo` does to a packet of a live stream that it does not drop. -/
theorem liveTime_stamped (hdur : 0 ≤ p.lastDur) (hlast : p.lastPts ≠ noPts → p.lastLiveTs.Valid)
    (hbase : base.timestamp.Valid) (hr : 0 ≤ r.pkt.duration)
    (hrate : p.UsesFrameRate r → 0 ≤ r.picture.avgFrameRateNum * r.picture.avgFrameRateDen)
    (h : p.liveTime base r = some (q, ts)) :
    ts.Valid ∧ (p.lastPts ≠ noPts → p.lastLiveTs.micros ≤ ts.micros) ∧
      q.lastPts ≠ noPts ∧ q.lastLiveTs = ts ∧ 0 ≤ q.lastDur := by
  unfold liveTime at h
  split at h
  · rename_i hfirst
    split at h
    · cases h
    · rename_i hpts
      cases h
      have hticks : 0 ≤ r.pkt.pts - base.pts := by omega
      exact ⟨valid_after _ hticks hbase, fun hset => absurd hfirst hset,
        fun hno => hpts (.inl hno), rfl, hr⟩
  · rename_i hset
    split at h
    · -- no timestamp: the time of the packet before
      cases h
      exact ⟨hlast hset, fun _ => Int.le_refl _, hset, rfl, by show 0 ≤ _ + _; omega⟩
    · rename_i hpts
      cases h
      have hticks := ptsDelta_nonneg hset hpts hrate
      exact ⟨valid_after _ hticks (hlast hset), fun _ => micros_le_after _ hticks _, hpts, rfl, hr⟩

end StreamParser

/-! ## Runs -/

namespace LiveStream

variable {s s' : LiveStream} {e : StreamEvent}

/-- What holds between the packets. -/
structure Inv (s : LiveStream) : Prop where
  live : s.parser.isLive = true
  base : s.base.timestamp.Valid
  dur : 0 ≤ s.parser.lastDur
  last : s.parser.lastPts ≠ noPts → s.parser.lastLiveTs.Valid

/-- A mark that may come after `s`. -/
def Later (s : LiveStream) (m : Mark) : Prop :=
  m.timestamp.Valid ∧
    (s.parser.lastPts ≠ noPts → s.parser.lastLiveTs.micros ≤ m.timestamp.micros)

theorem JustInit.inv (h : s.JustInit) : s.Inv :=
  ⟨h.live, h.base, h.dur.ge, fun hset => absurd h.fresh hset⟩

theorem valid_liveBase {base : Base} {r : Packet} (hbase : base.timestamp.Valid) (hr : r.now.Valid) :
    (StreamParser.liveBase base r).timestamp.Valid := by
  unfold StreamParser.liveBase
  split
  · exact hr
  · exact hbase

/-- One packet: it is dropped and only the base may change, or it is stamped. -/
theorem own_cases (hlive : s.parser.isLive = true) (r : Packet) :
    (s.parser.liveTime (StreamParser.liveBase s.base r) r = none ∧
        s.step (.own r) = some { s with base := StreamParser.liveBase s.base r } ∧
        s.marks (.own r) = []) ∨
      ∃ q ts, s.parser.liveTime (StreamParser.liveBase s.base r) r = some (q, ts) ∧
        s.step (.own r) = some ⟨StreamParser.liveBase s.base r, q⟩ ∧
        s.marks (.own r) = [⟨s.parser.stream.timeBase, r.pkt.pts, ts⟩] := by
  have hupdate : s.parser.doUpdateFrameInfo s.base r = (StreamParser.liveBase s.base r,
      (s.parser.liveTime (StreamParser.liveBase s.base r) r).map fun x =>
        (x.1, s.parser.frameInfo r x.2)) := by
    unfold StreamParser.doUpdateFrameInfo
    rw [if_pos hlive]
  cases htime : s.parser.liveTime (StreamParser.liveBase s.base r) r with
  | none =>
    rw [htime, Option.map_none] at hupdate
    simp [step, marks, hupdate]
  | some out =>
    rw [htime, Option.map_some] at hupdate
    refine .inr ⟨out.1, out.2, rfl, ?_, ?_⟩
    · simp only [step, hupdate]
    · simp only [marks, hupdate, Option.map_some, Option.toList_some]
      rfl

/-- A step keeps the invariant, and what it puts out is in order. -/
theorem step_spec (h : s.Inv) (he : e.Sound) (hrate : s.RateSound e) :
    ∃ s', s.step e = some s' ∧ s'.Inv ∧ (∀ m, s'.Later m → s.Later m) ∧
      (s.marks e).Pairwise (fun m m' => m.timestamp.Before m'.timestamp) ∧
      ∀ m ∈ s.marks e, s.Later m ∧ ∀ m', s'.Later m' → m.timestamp.Before m'.timestamp := by
  cases e with
  | other r =>
    exact ⟨_, rfl, ⟨h.live, valid_liveBase h.base he, h.dur, h.last⟩, fun _ hm => hm, .nil, nofun⟩
  | own r =>
    have hbase := valid_liveBase h.base he.1
    rcases own_cases h.live r with ⟨-, hstep, hmarks⟩ | ⟨q, ts, htime, hstep, hmarks⟩
    · rw [hmarks]
      exact ⟨_, hstep, ⟨h.live, hbase, h.dur, h.last⟩, fun _ hm => hm, .nil, nofun⟩
    · obtain ⟨hvalid, hle, hset, rfl, hdur⟩ :=
        StreamParser.liveTime_stamped h.dur h.last hbase he.2 hrate htime
      obtain ⟨hsame, -⟩ := StreamParser.liveTime_keeps htime
      rw [hmarks]
      refine ⟨_, hstep, ⟨hsame.isLive.trans h.live, hbase, hdur, fun _ => hvalid⟩, ?_,
        List.pairwise_singleton .., ?_⟩
      · intro m hm
        exact ⟨hm.1, fun hp => (hle hp).trans (hm.2 hset)⟩
      · intro m hm
        rw [List.mem_singleton.1 hm]
        exact ⟨⟨hvalid, hle⟩, fun m' hm' => Stamp.before_of_micros_le hvalid hm'.1 (hm'.2 hset)⟩

/-- The times of all packets that are not dropped are well formed and never go back, in every run
in which a frame rate that is used is not negative. -/
theorem live_stamps_in_order {s₀ : LiveStream} (h₀ : s₀.JustInit) {es : List StreamEvent}
    (hes : ∀ e ∈ es, e.Sound) (hrate : Each step RateSound s₀ es) :
    (∀ m ∈ collect step marks s₀ es, m.timestamp.Valid) ∧
      (collect step marks s₀ es).Pairwise fun m m' => m.timestamp.Before m'.timestamp := by
  have hspec : ∀ (s : LiveStream) (e : StreamEvent), s.Inv → s.RateSound e ∧ e.Sound → _ :=
    fun _ _ h hc => step_spec h hc.2 hc.1
  obtain ⟨hpair, hmem⟩ := pairwise_collect hspec (hrate.and (.of_forall_mem hes)) h₀.inv
  exact ⟨fun m hm => (hmem m hm).1, hpair⟩

theorem clockRate_pos : (0 : Int) < 90000 := by decide

/-- A live video in ticks of 90 kHz. -/
def video : LiveStream :=
  { parser := baseInit .plain 0
      { codecId := .other "vp8", codecType := .video, timeBase := ticksOf 90000 clockRate_pos }
      .live }

/-- A packet of it without a duration, while the frame rate is `rate`. -/
def frameAt (pts : Int) (rate : Int := 25) : Packet :=
  { pkt := ⟨0, pts, 0, false, false, []⟩
    picture := { avgFrameRateNum := rate, avgFrameRateDen := 1 }
    now := ⟨5, 0⟩ }

theorem video_justInit : video.JustInit := ⟨rfl, rfl, rfl, by decide⟩

/-- The timestamps go back, and the step is guessed from 25 frames a second. -/
theorem live_stamps_in_order_guessed :
    collect step marks video [.own (frameAt 1000), .own (frameAt 500)] =
        [⟨ticksOf 90000, 1000, ⟨5, 0⟩⟩, ⟨ticksOf 90000, 500, ⟨5, 40000⟩⟩] ∧
      (collect step marks video [.own (frameAt 1000), .own (frameAt 500)]).Pairwise
        fun m m' => m.timestamp.Before m'.timestamp := by
  have hes : ∀ e ∈ [StreamEvent.own (frameAt 1000), .own (frameAt 500)],
      e.Sound ∧ ∀ s : LiveStream, s.RateSound e := by
    intro e he
    rcases List.mem_pair.1 he with rfl | rfl
    · exact ⟨⟨by decide, by decide⟩, fun s _ => by decide⟩
    · exact ⟨⟨by decide, by decide⟩, fun s _ => by decide⟩
  have hrate : Each step (fun _ e => ∀ s : LiveStream, s.RateSound e) video
      [.own (frameAt 1000), .own (frameAt 500)] := .of_forall_mem fun e he => (hes e he).2
  refine ⟨by decide, (live_stamps_in_order video_justInit (fun e he => (hes e he).1) ?_).2⟩
  exact hrate.mono fun s _ h => h s

/-- A stream says that it has -25 frames a second: the time goes back. -/
theorem negative_rate_goes_back :
    video.JustInit ∧
      (∀ e ∈ [StreamEvent.own (frameAt 1000 (-25)), .own (frameAt 500 (-25))], e.Sound) ∧
      collect step marks video [.own (frameAt 1000 (-25)), .own (frameAt 500 (-25))] =
        [⟨ticksOf 90000, 1000, ⟨5, 0⟩⟩, ⟨ticksOf 90000, 500, ⟨5, -40000⟩⟩] ∧
      ¬ (Stamp.mk 5 (-40000)).Valid ∧ ¬ (Stamp.mk 5 0).Before ⟨5, -40000⟩ := by
  refine ⟨video_justInit, fun e he => ?_, by decide, by decide, by decide⟩
  rcases List.mem_pair.1 he with rfl | rfl
  · exact ⟨by decide, by decide⟩
  · exact ⟨by decide, by decide⟩

/-! ## Drift -/

/-- The timestamps do not go back, and not forwards by more than a minute. -/
def InSequence (tb : TimeBase) (r r' : Packet) : Prop :=
  r.pkt.pts ≤ r'.pkt.pts ∧ (r'.pkt.pts - r.pkt.pts) * tb.num ≤ 60 * tb.den

/-- Where `m` belongs by its timestamp, in microseconds, if `first` is where it belongs. -/
def exactMicros (tb : TimeBase) (first m : Mark) : ℚ :=
  first.timestamp.micros + (m.pts - first.pts) * tb.seconds * million

/-- The time of `m` is behind that by `n` microseconds at most, and not ahead of it. -/
def Behind (tb : TimeBase) (n : Nat) (first m : Mark) : Prop :=
  (m.timestamp.micros : ℚ) ≤ exactMicros tb first m ∧
    exactMicros tb first m ≤ m.timestamp.micros + n

theorem Behind.refl (tb : TimeBase) (m : Mark) : Behind tb 0 m m := by
  unfold Behind exactMicros
  simp

theorem Behind.trans {tb : TimeBase} {i j : Nat} {first m m' : Mark} (h : Behind tb i first m)
    (h' : Behind tb j m m') : Behind tb (i + j) first m' := by
  unfold Behind exactMicros at *
  obtain ⟨h1, h2⟩ := h
  obtain ⟨h3, h4⟩ := h'
  have hsplit : ((m'.pts : ℚ) - first.pts) * tb.seconds * million =
      (m.pts - first.pts) * tb.seconds * million + (m'.pts - m.pts) * tb.seconds * million := by
    ring
  rw [hsplit]
  push_cast
  constructor <;> linarith

theorem ptsDelta_inSequence {p : StreamParser} {r r' : Packet} (hlast : p.lastPts = r.pkt.pts)
    (h : InSequence p.stream.timeBase r r') :
    p.ptsDelta r'.picture r'.pkt.pts = r'.pkt.pts - r.pkt.pts := by
  have hnum : 0 ≤ (r'.pkt.pts - r.pkt.pts) * p.stream.timeBase.num :=
    Int.mul_nonneg (Int.sub_nonneg.2 h.1) p.stream.timeBase.num_pos.le
  have hsync : ((r'.pkt.pts - r.pkt.pts) * p.stream.timeBase.num).tdiv p.stream.timeBase.den ≤ 60 := by
    rw [Int.tdiv_eq_ediv_of_nonneg hnum]
    exact Int.ediv_le_of_le_mul p.stream.timeBase.den_pos h.2
  unfold StreamParser.ptsDelta
  rw [hlast, if_neg]
  have := h.1
  omega

/-- The last packet of the stream was `r`, and it was stamped as `m` is. -/
structure Last (tb : TimeBase) (s : LiveStream) (r : Packet) (m : Mark) : Prop where
  live : s.parser.isLive = true
  unit : s.parser.stream.timeBase = tb
  pts : s.parser.lastPts = r.pkt.pts
  mark_pts : m.pts = r.pkt.pts
  mark_time : m.timestamp = s.parser.lastLiveTs

/-- The packet after one that was stamped. -/
theorem own_inSequence {tb : TimeBase} {r r' : Packet} {first : Mark} (hs : Last tb s r first)
    (hr : r.pkt.pts ≠ noPts) (hr' : r'.pkt.pts ≠ noPts) (hseq : InSequence tb r r') :
    ∃ s' m, s.step (.own r') = some s' ∧ s.marks (.own r') = [m] ∧ Behind tb 1 first m ∧
      Last tb s' r' m := by
  obtain ⟨hlive, rfl, hlast, hpts, hts⟩ := hs
  have htime : s.parser.liveTime (StreamParser.liveBase s.base r') r' =
      some (s.parser.stamped r'.pkt (StreamParser.after s.parser.stream.timeBase
        (r'.pkt.pts - r.pkt.pts) s.parser.lastLiveTs),
        StreamParser.after s.parser.stream.timeBase (r'.pkt.pts - r.pkt.pts) s.parser.lastLiveTs) := by
    unfold StreamParser.liveTime
    rw [if_neg (hlast ▸ hr), if_neg hr', ptsDelta_inSequence hlast hseq]
  rcases own_cases hlive r' with ⟨hnone, -, -⟩ | ⟨q, ts, htime', hstep, hmarks⟩
  · cases htime.symm.trans hnone
  · cases htime.symm.trans htime'
    refine ⟨_, _, hstep, hmarks, ?_, hlive, rfl, rfl, rfl, rfl⟩
    have hbounds := micros_after_bounds s.parser.stream.timeBase (Int.sub_nonneg.2 hseq.1)
      s.parser.lastLiveTs
    unfold Behind exactMicros
    rw [hpts, hts]
    push_cast at hbounds ⊢
    exact ⟨hbounds.1, hbounds.2.le⟩

/-- The packets after one that was stamped: each adds a microsecond at most. -/
theorem behind_of_last {tb : TimeBase} {rs : List Packet} {r : Packet} {first m : Mark} {n : Nat}
    (hs : Last tb s r first) (hr : r.pkt.pts ≠ noPts) (hrs : ∀ r ∈ rs, r.pkt.pts ≠ noPts)
    (hseq : (r :: rs).IsChain (InSequence tb))
    (hm : (collect step marks s (rs.map .own))[n]? = some m) : Behind tb (n + 1) first m := by
  induction rs generalizing s r first n with
  | nil => cases hm
  | cons r' rs ih =>
    rw [List.isChain_cons_cons] at hseq
    have hr' := hrs r' (.head _)
    obtain ⟨s', m', hstep, hmarks, hnext, hs'⟩ := own_inSequence hs hr hr' hseq.1
    rw [List.map_cons, collect, hstep, hmarks] at hm
    cases n with
    | zero =>
      cases hm
      exact hnext
    | succ n =>
      have hrest := ih hs' hr' (fun r hr => hrs r (.tail _ hr)) hseq.2 hm
      rw [Nat.add_comm]
      exact hnext.trans hrest

/-- Of packets in sequence, those that are not dropped get times that are never ahead of their
presentation times, counted from the first, and behind them by a microsecond at most for every
packet after the first. -/
theorem drift_bounded {s₀ : LiveStream} (h₀ : s₀.JustInit) {rs : List Packet}
    (hpts : ∀ r ∈ rs, r.pkt.pts ≠ noPts)
    (hseq : rs.IsChain (InSequence s₀.parser.stream.timeBase)) {n : Nat} {first m : Mark}
    (hfirst : (collect step marks s₀ (rs.map .own))[0]? = some first)
    (hm : (collect step marks s₀ (rs.map .own))[n]? = some m) :
    Behind s₀.parser.stream.timeBase n first m := by
  have hlive := h₀.live
  have hfresh := h₀.fresh
  clear h₀
  induction rs generalizing s₀ with
  | nil => cases hm
  | cons r rs ih =>
    have hr := hpts r (.head _)
    have hrs : ∀ r ∈ rs, r.pkt.pts ≠ noPts := fun r hr => hpts r (.tail _ hr)
    rw [List.map_cons, collect] at hfirst hm
    rcases own_cases hlive r with ⟨-, hstep, hmarks⟩ | ⟨q, ts, htime, hstep, hmarks⟩
    · -- before the base: as if it had not come
      rw [hstep, hmarks] at hfirst hm
      exact @ih { s₀ with base := StreamParser.liveBase s₀.base r } hrs hseq.of_cons hfirst hm
        hlive hfresh
    · rw [hstep, hmarks] at hfirst hm
      cases hfirst
      cases n with
      | zero =>
        cases hm
        exact .refl ..
      | succ n =>
        have hq : q.lastPts = r.pkt.pts ∧ q.lastLiveTs = ts := by
          unfold StreamParser.liveTime at htime
          rw [if_pos hfresh] at htime
          split at htime
          · cases htime
          · cases htime
            exact ⟨rfl, rfl⟩
        obtain ⟨hsame, -⟩ := StreamParser.liveTime_keeps htime
        refine behind_of_last (s := ⟨_, q⟩) (r := r) ?_ hr hrs hseq hm
        exact ⟨hsame.isLive.trans hlive, congrArg _ hsame.stream, hq.1, rfl, hq.2.symm⟩

/-- Three frames at 29.97 frames a second. -/
def ntsc : List Packet := [frameAt 0, frameAt 3003, frameAt 6006]

theorem ntsc_inSequence : ntsc.IsChain (InSequence video.parser.stream.timeBase) :=
  .cons_cons (by constructor <;> decide) (.cons_cons (by constructor <;> decide) (.singleton _))

theorem ntsc_marks : collect step marks video (ntsc.map .own) =
    [⟨ticksOf 90000, 0, ⟨5, 0⟩⟩, ⟨ticksOf 90000, 3003, ⟨5, 33366⟩⟩,
      ⟨ticksOf 90000, 6006, ⟨5, 66732⟩⟩] := by decide

theorem drift_bounded_ntsc :
    Behind (ticksOf 90000) 2 ⟨ticksOf 90000, 0, ⟨5, 0⟩⟩ ⟨ticksOf 90000, 6006, ⟨5, 66732⟩⟩ := by
  have hpts : ∀ r ∈ ntsc, r.pkt.pts ≠ noPts := by decide
  exact drift_bounded video_justInit hpts ntsc_inSequence (by rw [ntsc_marks]; rfl)
    (by rw [ntsc_marks]; rfl)

/-- The third frame is behind by more than a microsecond: two steps of 33366⅔ are cut off. -/
theorem ntsc_drifts :
    video.JustInit ∧ ntsc.IsChain (InSequence video.parser.stream.timeBase) ∧
      collect step marks video (ntsc.map .own) =
        [⟨ticksOf 90000, 0, ⟨5, 0⟩⟩, ⟨ticksOf 90000, 3003, ⟨5, 33366⟩⟩,
          ⟨ticksOf 90000, 6006, ⟨5, 66732⟩⟩] ∧
      1 < |((Stamp.mk 5 66732).micros : ℚ) -
        exactMicros (ticksOf 90000) ⟨ticksOf 90000, 0, ⟨5, 0⟩⟩ ⟨ticksOf 90000, 6006, ⟨5, 66732⟩⟩| := by
  refine ⟨video_justInit, ntsc_inSequence, ntsc_marks, ?_⟩
  norm_num [exactMicros, Stamp.micros, TimeBase.seconds, ticksOf, million, abs_lt, lt_abs]

end LiveStream

end StreamSwitch.Ffmpeg
