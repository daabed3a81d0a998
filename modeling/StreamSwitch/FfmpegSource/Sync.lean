import StreamSwitch.FfmpegSource.Demuxer
import Mathlib.Tactic.FieldSimp
import Mathlib.Tactic.Linarith
import Mathlib.Data.Rat.Cast.Order
import Mathlib.Algebra.Order.Field.Rat

/-!
# Synchronisation of live streams

`base_pts_` is a number of ticks of whichever stream delivers the first packet with a
timestamp, and every parser subtracts it from timestamps in ticks of its own. The first
packet of each stream then lies where its presentation time puts it, relative to the packet
that set the base, if the base is 0 or the stream counts in the time base of that packet
(`firsts_in_sync`); `clocks_apart` is an input where it does not.
-/

namespace StreamSwitch.Ffmpeg

open Clock Run

namespace FFmpegDemuxer

/-- A packet that was read goes through the parser of its stream. -/
def arrive (d : FFmpegDemuxer) (r : Packet) : Option FFmpegDemuxer :=
  match d.streamParsers[r.pkt.streamIndex]? with
  | none => some d
  | some p => (d.parseWith p r).map (·.demuxer)

end FFmpegDemuxer

/-- A packet and the time it was given. -/
structure Mark where
  timeBase : TimeBase
  pts : Int
  timestamp : Stamp
deriving DecidableEq, Repr

/-- The unit in seconds. -/
def TimeBase.seconds (tb : TimeBase) : ℚ := tb.num / tb.den

/-- The presentation time in seconds. -/
def Mark.presentation (m : Mark) : ℚ := m.pts * m.timeBase.seconds

/-- The packet sets the base: `base_timestamp_` is the time of day. -/
def baseMark (d : FFmpegDemuxer) (r : Packet) : List Mark :=
  match d.streamParsers[r.pkt.streamIndex]? with
  | none => []
  | some p =>
    if r.pkt.corrupt = false ∧ p.isLive ∧ d.base.pts = noPts ∧ r.pkt.pts ≠ noPts then
      [⟨p.stream.timeBase, r.pkt.pts, r.now⟩]
    else []

/-- The packet is the first of its stream that `DoUpdateFrameInfo` accepts. -/
def firstMark (d : FFmpegDemuxer) (r : Packet) : List Mark :=
  match d.streamParsers[r.pkt.streamIndex]? with
  | none => []
  | some p =>
    if r.pkt.corrupt = false ∧ p.lastPts = noPts then
      ((p.doUpdateFrameInfo d.base r).2.map fun (_, info) =>
        ⟨p.stream.timeBase, r.pkt.pts, info.timestamp⟩).toList
    else []

/-- The packets of a run that set the base. -/
def bases (d : FFmpegDemuxer) (rs : List Packet) : List Mark :=
  collect FFmpegDemuxer.arrive baseMark d rs

/-- The first accepted packets of the streams in a run. -/
def firsts (d : FFmpegDemuxer) (rs : List Packet) : List Mark :=
  collect FFmpegDemuxer.arrive firstMark d rs

/-- The times of the first packets lie as far from the base as their presentation times, and
those of two packets with one presentation time together, up to a microsecond. -/
structure InSync (bases firsts : List Mark) : Prop where
  from_base : ∀ b ∈ bases, ∀ f ∈ firsts,
    |(f.timestamp.micros : ℚ) -
      (b.timestamp.micros + (f.presentation - b.presentation) * million)| ≤ 1
  together : ∀ f ∈ firsts, ∀ g ∈ firsts, f.presentation = g.presentation →
    |f.timestamp.micros - g.timestamp.micros| ≤ 1

/-- The base is 0, or the stream counts in the unit of the packet that set it. -/
def Commensurate (bases firsts : List Mark) : Prop :=
  ∀ b ∈ bases, ∀ f ∈ firsts, b.pts = 0 ∨ f.timeBase.seconds = b.timeBase.seconds

/-! ## The time of one packet -/

theorem ediv_bounds (n : Int) {d : Int} (hd : 0 < d) :
    ((n / d : Int) : ℚ) ≤ n / d ∧ (n : ℚ) / d < (n / d : Int) + 1 := by
  have hd' : (0 : ℚ) < d := by exact_mod_cast hd
  constructor
  · rw [le_div_iff₀ hd']
    exact_mod_cast Int.ediv_mul_le n hd.ne'
  · rw [div_lt_iff₀ hd']
    exact_mod_cast Int.lt_ediv_add_one_mul_self n hd

/-- `after` rounds down to a microsecond. -/
theorem micros_after_bounds (tb : TimeBase) {ticks : Int} (h : 0 ≤ ticks) (t : Stamp) :
    ((StreamParser.after tb ticks t).micros : ℚ) ≤ t.micros + ticks * tb.seconds * million ∧
      t.micros + ticks * tb.seconds * million < (StreamParser.after tb ticks t).micros + 1 := by
  have hn : 0 ≤ ticks * tb.num := Int.mul_nonneg h tb.num_pos.le
  have he : (StreamParser.after tb ticks t).micros =
      ticks * tb.num * million / tb.den + t.micros := by
    simp [StreamParser.after, Stamp.micros_ofRatio hn tb.den_pos]
  have hq : (ticks : ℚ) * tb.seconds * million = (ticks * tb.num * million : Int) / tb.den := by
    push_cast
    unfold TimeBase.seconds
    ring
  obtain ⟨h1, h2⟩ := ediv_bounds (ticks * tb.num * million) tb.den_pos
  rw [he, hq]
  push_cast at h1 h2 ⊢
  constructor <;> linarith

/-- The mark was given its time from `base`. -/
def Mark.From (base : Base) (f : Mark) : Prop :=
  base.pts ≤ f.pts ∧
    f.timestamp = StreamParser.after f.timeBase (f.pts - base.pts) base.timestamp

theorem Mark.From.lower {base : Base} {f : Mark} (h : f.From base) :
    (f.timestamp.micros : ℚ) ≤
      base.timestamp.micros + (f.pts - base.pts) * f.timeBase.seconds * million := by
  have hb := micros_after_bounds f.timeBase (Int.sub_nonneg.2 h.1) base.timestamp
  rw [h.2]
  push_cast at hb
  exact hb.1

theorem Mark.From.upper {base : Base} {f : Mark} (h : f.From base) :
    base.timestamp.micros + (f.pts - base.pts) * f.timeBase.seconds * million <
      (f.timestamp.micros : ℚ) + 1 := by
  have hb := micros_after_bounds f.timeBase (Int.sub_nonneg.2 h.1) base.timestamp
  rw [h.2]
  push_cast at hb
  exact hb.2

/-! ## Steps -/

/-- Every parser was initialised for a live stream. -/
def FFmpegDemuxer.Live (d : FFmpegDemuxer) : Prop := ∀ p ∈ d.streamParsers, p.isLive

/-- The base after the packet, in a live demuxer. -/
def FFmpegDemuxer.nextBase (d : FFmpegDemuxer) (r : Packet) : Base :=
  if d.streamParsers[r.pkt.streamIndex]? = none ∨ r.pkt.corrupt then d.base
  else StreamParser.liveBase d.base r

theorem liveBase_of_set {base : Base} (h : base.pts ≠ noPts) (r : Packet) :
    StreamParser.liveBase base r = base := by
  simp [StreamParser.liveBase, h]

theorem FFmpegDemuxer.nextBase_of_set {d : FFmpegDemuxer} (h : d.base.pts ≠ noPts) (r : Packet) :
    d.nextBase r = d.base := by
  simp [FFmpegDemuxer.nextBase, liveBase_of_set h]

theorem arrive_live {d d' : FFmpegDemuxer} {r : Packet} (h : d.arrive r = some d')
    (hl : d.Live) : d'.Live ∧ d'.base = d.nextBase r := by
  unfold FFmpegDemuxer.arrive at h
  split at h
  · rename_i hp
    cases h
    exact ⟨hl, by simp [FFmpegDemuxer.nextBase, hp]⟩
  · rename_i p hp
    simp only [FFmpegDemuxer.parseWith, Option.map_map, Option.map_eq_some_iff] at h
    obtain ⟨out, ho, rfl⟩ := h
    have hpl : p.isLive := hl p (List.mem_of_getElem? hp)
    constructor
    · intro q hq
      rcases List.mem_or_eq_of_mem_set hq with hq | rfl
      · exact hl q hq
      · rw [(StreamParser.parse_keeps ho).isLive]
        exact hpl
    · simp [FFmpegDemuxer.nextBase, FFmpegDemuxer.afterParse, hp, StreamParser.parse_base ho hpl]

/-- The first packet of a stream gets its time from the base. -/
theorem firstMark_from {d : FFmpegDemuxer} {r : Packet} (hl : d.Live) :
    ∀ f ∈ firstMark d r, f.From (d.nextBase r) := by
  intro f hf
  unfold firstMark at hf
  split at hf
  · cases hf
  · rename_i p hp
    split at hf
    · rename_i hc
      have hpl : p.isLive := hl p (List.mem_of_getElem? hp)
      have hb : d.nextBase r = StreamParser.liveBase d.base r := by
        simp [FFmpegDemuxer.nextBase, hp, hc.1]
      rw [hb]
      simp only [StreamParser.doUpdateFrameInfo, if_pos hpl, StreamParser.liveTime, if_pos hc.2]
        at hf
      split at hf
      · simp at hf
      · rename_i hpts
        simp only [Option.map_some, Option.toList_some, List.mem_singleton] at hf
        subst hf
        exact ⟨Int.not_lt.1 fun hlt => hpts (.inr hlt), rfl⟩
    · cases hf

theorem baseMark_of_set {d : FFmpegDemuxer} (h : d.base.pts ≠ noPts) (r : Packet) :
    baseMark d r = [] := by
  unfold baseMark
  split
  · rfl
  · rw [if_neg fun hc => h hc.2.2.1]

/-- A packet without a timestamp is not accepted as a first one. -/
theorem firstMark_noPts {d : FFmpegDemuxer} {r : Packet} (hl : d.Live) (h : r.pkt.pts = noPts) :
    firstMark d r = [] := by
  unfold firstMark
  split
  · rfl
  · rename_i p hp
    have hpl : p.isLive := hl p (List.mem_of_getElem? hp)
    split
    · rename_i hc
      simp [StreamParser.doUpdateFrameInfo, StreamParser.liveTime, hpl, hc.2, h]
    · rfl

/-- A packet that sets no base is not accepted as a first one before there is a base. -/
theorem baseMark_cases {d : FFmpegDemuxer} (hl : d.Live) (h : d.base.pts = noPts) (r : Packet) :
    (baseMark d r = [] ∧ firstMark d r = [] ∧ (d.nextBase r).pts = noPts) ∨
      ∃ b, baseMark d r = [b] ∧ d.nextBase r = ⟨b.pts, b.timestamp⟩ ∧ b.pts ≠ noPts := by
  cases hp : d.streamParsers[r.pkt.streamIndex]? with
  | none => exact .inl (by simp [baseMark, firstMark, FFmpegDemuxer.nextBase, hp, h])
  | some p =>
    have hpl : p.isLive := hl p (List.mem_of_getElem? hp)
    by_cases hc : r.pkt.corrupt = true
    · exact .inl (by simp [baseMark, firstMark, FFmpegDemuxer.nextBase, hp, hc, h])
    · by_cases ht : r.pkt.pts = noPts
      · refine .inl ⟨?_, firstMark_noPts hl ht, ?_⟩
        · simp [baseMark, hp, ht]
        · simp [FFmpegDemuxer.nextBase, StreamParser.liveBase, hc, h, ht]
      · refine .inr ⟨⟨p.stream.timeBase, r.pkt.pts, r.now⟩, ?_, ?_, ht⟩
        · simp [baseMark, hp, hpl, hc, h, ht]
        · simp [FFmpegDemuxer.nextBase, StreamParser.liveBase, hp, hc, h, ht]

/-! ## Runs -/

/-- Once there is a base, it stays. -/
theorem run_of_set {d : FFmpegDemuxer} (hl : d.Live) (h : d.base.pts ≠ noPts)
    (rs : List Packet) :
    bases d rs = [] ∧ ∀ f ∈ firsts d rs, f.From d.base := by
  have hstep : ∀ e r e', (e.Live ∧ e.base = d.base) → FFmpegDemuxer.arrive e r = some e' →
      e'.Live ∧ e'.base = d.base := by
    rintro e r e' ⟨hl, hb⟩ ha
    obtain ⟨hl', hb'⟩ := arrive_live ha hl
    rw [FFmpegDemuxer.nextBase_of_set (by rw [hb]; exact h), hb] at hb'
    exact ⟨hl', hb'⟩
  constructor
  · apply List.eq_nil_iff_forall_not_mem.2
    refine mem_collect_of_inv hstep ?_ rs ⟨hl, rfl⟩
    rintro e r ⟨-, hb⟩ x hx
    rw [baseMark_of_set (by rw [hb]; exact h)] at hx
    cases hx
  · refine mem_collect_of_inv hstep ?_ rs ⟨hl, rfl⟩
    rintro e r ⟨hl, hb⟩ f hf
    have hfrom := firstMark_from hl f hf
    rwa [FFmpegDemuxer.nextBase_of_set (by rw [hb]; exact h), hb] at hfrom

/-- A run has one packet that sets the base, and all first packets get their time from it. -/
theorem run_of_unset {d : FFmpegDemuxer} (hl : d.Live) (h : d.base.pts = noPts)
    (rs : List Packet) :
    (bases d rs = [] ∧ firsts d rs = []) ∨
      ∃ b, bases d rs = [b] ∧ ∀ f ∈ firsts d rs, f.From ⟨b.pts, b.timestamp⟩ := by
  induction rs generalizing d with
  | nil => exact .inl ⟨rfl, rfl⟩
  | cons r rs ih =>
    simp only [bases, firsts, collect]
    rcases baseMark_cases hl h r with ⟨hb, hf, hn⟩ | ⟨b, hb, hn, hset⟩
    · rw [hb, hf, List.nil_append, List.nil_append]
      cases ha : d.arrive r with
      | none => exact .inl ⟨rfl, rfl⟩
      | some d' =>
        obtain ⟨hl', hb'⟩ := arrive_live ha hl
        exact ih hl' (by rw [hb', hn])
    · right
      have hfirst := firstMark_from hl (r := r)
      rw [hn] at hfirst
      rw [hb]
      cases ha : d.arrive r with
      | none => exact ⟨b, rfl, by simpa using hfirst⟩
      | some d' =>
        obtain ⟨hl', hb'⟩ := arrive_live ha hl
        rw [hn] at hb'
        obtain ⟨hbs, hfs⟩ := run_of_set hl' (by rw [hb']; exact hset) rs
        rw [hb'] at hfs
        refine ⟨b, congrArg (b :: ·) hbs, fun f hf => ?_⟩
        rcases List.mem_append.1 hf with hf | hf
        · exact hfirst f hf
        · exact hfs f hf

/-! ## Synchronisation -/

/-- In the unit of the base, the ticks from it are the time from it. -/
theorem ticks_from_base {b f : Mark} (h : b.pts = 0 ∨ f.timeBase.seconds = b.timeBase.seconds) :
    ((f.pts - b.pts) * f.timeBase.seconds : ℚ) = f.presentation - b.presentation := by
  unfold Mark.presentation
  rcases h with h | h
  · rw [h]
    push_cast
    ring
  · rw [h]
    ring

theorem inSync_of_from {b : Mark} {fs : List Mark} (hfs : ∀ f ∈ fs, f.From ⟨b.pts, b.timestamp⟩)
    (h : Commensurate [b] fs) : InSync [b] fs := by
  have hticks : ∀ f ∈ fs,
      ((f.pts - b.pts) * f.timeBase.seconds : ℚ) = f.presentation - b.presentation :=
    fun f hf => ticks_from_base (h b (List.mem_singleton_self b) f hf)
  have hbounds : ∀ f ∈ fs, (f.timestamp.micros : ℚ) ≤
        b.timestamp.micros + (f.presentation - b.presentation) * million ∧
      b.timestamp.micros + (f.presentation - b.presentation) * million <
        (f.timestamp.micros : ℚ) + 1 := by
    intro f hf
    rw [← hticks f hf]
    exact ⟨(hfs f hf).lower, (hfs f hf).upper⟩
  constructor
  · intro b' hb' f hf
    rw [List.mem_singleton.1 hb', abs_le]
    obtain ⟨h1, h2⟩ := hbounds f hf
    constructor <;> linarith
  · intro f hf g hg heq
    obtain ⟨h1, h2⟩ := hbounds f hf
    obtain ⟨h3, h4⟩ := hbounds g hg
    rw [heq] at h1 h2
    have h5 : f.timestamp.micros < g.timestamp.micros + 1 := by
      have : (f.timestamp.micros : ℚ) < (g.timestamp.micros : ℚ) + 1 := by linarith
      exact_mod_cast this
    have h6 : g.timestamp.micros < f.timestamp.micros + 1 := by
      have : (g.timestamp.micros : ℚ) < (f.timestamp.micros : ℚ) + 1 := by linarith
      exact_mod_cast this
    rw [abs_le]
    omega

/-- A demuxer that has just been opened for a live input. -/
structure JustOpened (d : FFmpegDemuxer) : Prop where
  live : d.Live
  unset : d.base.pts = noPts
  fresh : ∀ p ∈ d.streamParsers, p.lastPts = noPts

theorem justOpened_of_openInput {d₀ d : FFmpegDemuxer} {c : OpenCall}
    (h : d₀.openInput c = some (d, .ok)) (h₀ : d₀.streamParsers = [])
    (hlive : d.metadata.playType = .live) : JustOpened d := by
  obtain ⟨ctx, subs, subs', parsers, -, -, hset, rfl⟩ := FFmpegDemuxer.openInput_ok h
  have hmem : ∀ p ∈ parsers, ∃ k j st, p = baseInit k j st (c.playType ctx) := by
    intro p hp
    rcases mem_setupParsers hset p hp with hp | hp
    · rw [h₀] at hp
      cases hp
    · exact hp
  refine ⟨fun p hp => ?_, rfl, fun p hp => ?_⟩
  · obtain ⟨k, j, st, rfl⟩ := hmem p hp
    exact decide_eq_true hlive
  · obtain ⟨k, j, st, rfl⟩ := hmem p hp
    rfl

theorem JustOpened.inSync {d : FFmpegDemuxer} (h : JustOpened d) {rs : List Packet}
    (hc : Commensurate (bases d rs) (firsts d rs)) : InSync (bases d rs) (firsts d rs) := by
  rcases run_of_unset h.live h.unset rs with ⟨hb, hf⟩ | ⟨b, hb, hfs⟩
  · rw [hb, hf]
    exact ⟨by simp, by simp⟩
  · rw [hb] at hc ⊢
    exact inSync_of_from hfs hc

/-- The streams of the parsers. -/
def FFmpegDemuxer.parsed (d : FFmpegDemuxer) : List AVStream := d.streamParsers.map (·.stream)

theorem arrive_parsed {d d' : FFmpegDemuxer} {r : Packet} (h : d.arrive r = some d') :
    d'.parsed = d.parsed := by
  unfold FFmpegDemuxer.arrive at h
  split at h
  · cases h
    rfl
  · rename_i p hp
    simp only [FFmpegDemuxer.parseWith, Option.map_map, Option.map_eq_some_iff] at h
    obtain ⟨out, ho, rfl⟩ := h
    have hi : d.parsed[r.pkt.streamIndex]? = some out.parser.stream := by
      rw [(StreamParser.parse_keeps ho).stream, FFmpegDemuxer.parsed, List.getElem?_map, hp]
      rfl
    calc (d.streamParsers.set r.pkt.streamIndex out.parser).map (·.stream)
        = d.parsed.set r.pkt.streamIndex out.parser.stream := List.map_set
      _ = d.parsed := by
        obtain ⟨hlt, heq⟩ := List.getElem?_eq_some_iff.1 hi
        rw [← heq, List.set_getElem_self]

theorem mem_baseMark {d : FFmpegDemuxer} {r : Packet} {b : Mark} (h : b ∈ baseMark d r) :
    ∃ st ∈ d.parsed, b.timeBase = st.timeBase := by
  unfold baseMark at h
  split at h
  · cases h
  · rename_i p hp
    split at h
    · rw [List.mem_singleton.1 h]
      exact ⟨p.stream, List.mem_map_of_mem (List.mem_of_getElem? hp), rfl⟩
    · cases h

theorem mem_firstMark {d : FFmpegDemuxer} {r : Packet} {f : Mark} (h : f ∈ firstMark d r) :
    ∃ st ∈ d.parsed, f.timeBase = st.timeBase := by
  unfold firstMark at h
  split at h
  · cases h
  · rename_i p hp
    split at h
    · obtain ⟨x, -, rfl⟩ := Option.map_eq_some_iff.1 (Option.mem_toList.1 h)
      exact ⟨p.stream, List.mem_map_of_mem (List.mem_of_getElem? hp), rfl⟩
    · cases h

/-- All marks count in the unit of some stream of the demuxer. -/
theorem commensurate_of_forall {d : FFmpegDemuxer}
    (h : ∀ p ∈ d.streamParsers, ∀ q ∈ d.streamParsers,
      q.stream.timeBase.seconds = p.stream.timeBase.seconds) (rs : List Packet) :
    Commensurate (bases d rs) (firsts d rs) := by
  have hstep : ∀ e r e', e.parsed = d.parsed → FFmpegDemuxer.arrive e r = some e' →
      e'.parsed = d.parsed :=
    fun e r e' he ha => (arrive_parsed ha).trans he
  intro b hb f hf
  obtain ⟨s, hs, hbs⟩ := mem_collect_of_inv hstep
    (fun e r he b hb => he ▸ mem_baseMark hb) rs rfl b hb
  obtain ⟨t, ht, hft⟩ := mem_collect_of_inv hstep
    (fun e r he f hf => he ▸ mem_firstMark hf) rs rfl f hf
  obtain ⟨p, hp, rfl⟩ := List.mem_map.1 hs
  obtain ⟨q, hq, rfl⟩ := List.mem_map.1 ht
  rw [hbs, hft]
  exact .inr (h p hp q hq)

/-! ## Two units -/

/-- A packet of stream `i` that no parser drops or leaves. -/
def probe (i : Nat) (pts : Int) : Packet := { pkt := ⟨i, pts, 0, false, false, startCode⟩ }

theorem prepare_probe (p : StreamParser) (i : Nat) (pts : Int) :
    p.prepare (probe i pts) = some (p, .own startCode) := by
  have hb : annexB startCode = some startCode := by decide
  unfold StreamParser.prepare
  split
  · simp [probe, hb, StreamParser.insertsHeader]
  · rfl

theorem arrive_probe {d : FFmpegDemuxer} {p : StreamParser} {i : Nat} (pts : Int)
    (hp : d.streamParsers[i]? = some p) :
    ∃ d', d.arrive (probe i pts) = some d' ∧
      ∀ j, j ≠ i → d'.streamParsers[j]? = d.streamParsers[j]? := by
  have hp' : d.streamParsers[(probe i pts).pkt.streamIndex]? = some p := hp
  let out := p.baseParse d.base d.metadata.subStreams (probe i pts) (.own startCode)
  refine ⟨(d.afterParse (probe i pts) out).demuxer, ?_, ?_⟩
  · have hparse : p.parse d.base d.metadata.subStreams (probe i pts) = some out := by
      rw [StreamParser.parse, prepare_probe]
      rfl
    simp [FFmpegDemuxer.arrive, hp', FFmpegDemuxer.parseWith, hparse]
  · intro j hj
    exact List.getElem?_set_ne (Ne.symm hj)

theorem nextBase_probe_eq {d : FFmpegDemuxer} {p : StreamParser} {i : Nat} (pts : Int)
    (hp : d.streamParsers[i]? = some p) :
    d.nextBase (probe i pts) = StreamParser.liveBase d.base (probe i pts) := by
  have hp' : d.streamParsers[(probe i pts).pkt.streamIndex]? = some p := hp
  rw [FFmpegDemuxer.nextBase, if_neg]
  rw [hp']
  rintro (h | h) <;> cases h

theorem nextBase_probe {d : FFmpegDemuxer} {p : StreamParser} {i : Nat} {pts : Int}
    (hp : d.streamParsers[i]? = some p) (hb : d.base.pts = noPts) (hpts : pts ≠ noPts) :
    d.nextBase (probe i pts) = ⟨pts, {}⟩ := by
  rw [nextBase_probe_eq pts hp]
  exact if_pos ⟨hb, hpts⟩

theorem firstMark_probe {d : FFmpegDemuxer} {p : StreamParser} {i : Nat} {pts : Int}
    (hl : d.Live) (hp : d.streamParsers[i]? = some p) (hlast : p.lastPts = noPts)
    (hpts : pts ≠ noPts) (hb : (d.nextBase (probe i pts)).pts ≤ pts) :
    firstMark d (probe i pts) = [⟨p.stream.timeBase, pts,
      StreamParser.after p.stream.timeBase (pts - (d.nextBase (probe i pts)).pts)
        (d.nextBase (probe i pts)).timestamp⟩] := by
  have hp' : d.streamParsers[(probe i pts).pkt.streamIndex]? = some p := hp
  have hpl : p.isLive := hl p (List.mem_of_getElem? hp)
  rw [nextBase_probe_eq pts hp] at hb ⊢
  have hdrop : ¬((probe i pts).pkt.pts = noPts ∨
      (probe i pts).pkt.pts < (StreamParser.liveBase d.base (probe i pts)).pts) := by
    rintro (h | h)
    · exact hpts h
    · exact absurd hb (Int.not_le.2 h)
  simp only [firstMark, hp', hlast, StreamParser.doUpdateFrameInfo, if_pos hpl,
    StreamParser.liveTime, if_pos, if_neg hdrop]
  rfl

theorem baseMark_probe {d : FFmpegDemuxer} {p : StreamParser} {i : Nat} {pts : Int}
    (hl : d.Live) (hp : d.streamParsers[i]? = some p) (hb : d.base.pts = noPts)
    (hpts : pts ≠ noPts) :
    baseMark d (probe i pts) = [⟨p.stream.timeBase, pts, {}⟩] := by
  have hp' : d.streamParsers[(probe i pts).pkt.streamIndex]? = some p := hp
  have hpl : p.isLive := hl p (List.mem_of_getElem? hp)
  unfold baseMark
  simp only [hp']
  exact if_pos ⟨rfl, hpl, hb, hpts⟩

/-- Two units are a second apart after enough ticks. -/
theorem exists_ticks {s t : TimeBase} (h : s.seconds ≠ t.seconds) :
    ∃ n : Int, 0 < n ∧ 1 ≤ |(n : ℚ) * s.seconds - n * t.seconds| := by
  have hs : (0 : ℚ) < s.den := by exact_mod_cast s.den_pos
  have ht : (0 : ℚ) < t.den := by exact_mod_cast t.den_pos
  have heq : ((s.den * t.den : Int) : ℚ) * s.seconds - (s.den * t.den : Int) * t.seconds =
      (s.num * t.den - t.num * s.den : Int) := by
    unfold TimeBase.seconds
    push_cast
    field_simp
  have hne : s.num * t.den - t.num * s.den ≠ 0 := by
    intro hz
    apply h
    unfold TimeBase.seconds
    rw [div_eq_div_iff hs.ne' ht.ne']
    exact_mod_cast sub_eq_zero.1 hz
  refine ⟨s.den * t.den, Int.mul_pos s.den_pos t.den_pos, ?_⟩
  rw [heq]
  exact_mod_cast Int.one_le_abs hne

/-- Streams that count in different units get out of step. -/
theorem JustOpened.exists_not_inSync {d : FFmpegDemuxer} (h : JustOpened d) {p q : StreamParser}
    (hp : p ∈ d.streamParsers) (hq : q ∈ d.streamParsers)
    (hne : q.stream.timeBase.seconds ≠ p.stream.timeBase.seconds) :
    ∃ rs, ¬InSync (bases d rs) (firsts d rs) := by
  obtain ⟨i, hi⟩ := List.mem_iff_getElem?.1 hp
  obtain ⟨j, hj⟩ := List.mem_iff_getElem?.1 hq
  have hij : j ≠ i := by
    rintro rfl
    rw [hi] at hj
    cases hj
    exact hne rfl
  obtain ⟨n, hn, hapart⟩ := exists_ticks hne
  have hpts : n ≠ noPts := by
    unfold noPts
    omega
  -- stream `i` sets the base, stream `j` delivers the same number of ticks
  have hbase : d.nextBase (probe i n) = ⟨n, {}⟩ := nextBase_probe hi h.unset hpts
  obtain ⟨d', ha, hsame⟩ := arrive_probe n hi
  obtain ⟨hl', hb'⟩ := arrive_live ha h.live
  rw [hbase] at hb'
  have hnext : d'.nextBase (probe j n) = ⟨n, {}⟩ := by
    rw [FFmpegDemuxer.nextBase_of_set (by rw [hb']; exact hpts), hb']
  have hfirst := firstMark_probe (d := d') hl' (by rw [hsame j hij, hj]) (h.fresh q hq) hpts
    (by rw [hnext])
  rw [hnext] at hfirst
  let b : Mark := ⟨p.stream.timeBase, n, {}⟩
  let f : Mark := ⟨q.stream.timeBase, n, StreamParser.after q.stream.timeBase (n - n) {}⟩
  have hb : b ∈ bases d [probe i n, probe j n] :=
    List.mem_append_left _ (by rw [baseMark_probe h.live hi h.unset hpts]; exact .head _)
  have hf : f ∈ firsts d [probe i n, probe j n] := by
    apply List.mem_append_right
    rw [ha]
    apply List.mem_append_left
    rw [hfirst]
    exact .head _
  refine ⟨[probe i n, probe j n], fun hsync => ?_⟩
  have hzero : f.timestamp.micros = 0 := by
    have hz : Stamp.micros {} = 0 := rfl
    simp [f, StreamParser.after, Stamp.ofRatio, hz]
  have hle := hsync.from_base b hb f hf
  rw [hzero, abs_le] at hle
  have hmicros : (b.timestamp.micros : ℚ) = 0 := rfl
  have hsub : f.presentation - b.presentation =
      n * q.stream.timeBase.seconds - n * p.stream.timeBase.seconds := rfl
  rw [hmicros, hsub] at hle
  push_cast [million] at hle
  rcases le_abs.1 hapart with hx | hx <;> linarith

/-- **Synchronisation of live streams.** A run is in sync if each first packet counts in the
unit of the packet that set the base, or that packet is at 0; and an input is in sync on every
run exactly if all its streams count in one unit. -/
theorem firsts_in_sync {d₀ d : FFmpegDemuxer} {c : OpenCall}
    (h : d₀.openInput c = some (d, .ok)) (h₀ : d₀.streamParsers = [])
    (hlive : d.metadata.playType = .live) :
    (∀ rs, Commensurate (bases d rs) (firsts d rs) → InSync (bases d rs) (firsts d rs)) ∧
      ((∀ rs, InSync (bases d rs) (firsts d rs)) ↔
        ∀ p ∈ d.streamParsers, ∀ q ∈ d.streamParsers,
          q.stream.timeBase.seconds = p.stream.timeBase.seconds) := by
  have hopen := justOpened_of_openInput h h₀ hlive
  refine ⟨fun rs hc => hopen.inSync hc, fun hall p hp q hq => ?_, fun hall rs => ?_⟩
  · by_contra hne
    obtain ⟨rs, hrs⟩ := hopen.exists_not_inSync hp hq hne
    exact hrs (hall rs)
  · exact hopen.inSync (commensurate_of_forall hall rs)

/-- Ticks of a `den`th of a second. -/
def ticksOf (den : Int) (h : 0 < den := by decide) : TimeBase := ⟨1, den, Int.one_pos, h⟩

/-- An audio stream in milliseconds and a video stream in ticks of 90 kHz. -/
def twoClocks : OpenCall :=
  { opened := some { streams := [
      { codecId := .aac, codecType := .audio, timeBase := ticksOf 1000 thousand_pos },
      { codecId := .other "vp8", codecType := .video, timeBase := ticksOf 90000 }] } }

/-- A key frame at `pts` that arrives at 5 seconds of the day. -/
def keyFrameAt (i : Nat) (pts : Int) : Packet :=
  { pkt := ⟨i, pts, 0, true, false, []⟩, now := ⟨5, 0⟩ }

theorem firsts_in_sync_fromZero :
    ({} : FFmpegDemuxer).openInput twoClocks = some (opened twoClocks, .ok) ∧
      Commensurate (bases (opened twoClocks) [keyFrameAt 0 0, keyFrameAt 1 90000])
        (firsts (opened twoClocks) [keyFrameAt 0 0, keyFrameAt 1 90000]) ∧
      InSync (bases (opened twoClocks) [keyFrameAt 0 0, keyFrameAt 1 90000])
        (firsts (opened twoClocks) [keyFrameAt 0 0, keyFrameAt 1 90000]) := by
  have ho : ({} : FFmpegDemuxer).openInput twoClocks = some (opened twoClocks, .ok) := by decide
  have hb : bases (opened twoClocks) [keyFrameAt 0 0, keyFrameAt 1 90000] =
      [⟨ticksOf 1000, 0, ⟨5, 0⟩⟩] := by decide
  have hc : Commensurate (bases (opened twoClocks) [keyFrameAt 0 0, keyFrameAt 1 90000])
      (firsts (opened twoClocks) [keyFrameAt 0 0, keyFrameAt 1 90000]) := by
    intro b hm f _
    rw [hb] at hm
    exact .inl (by rw [List.mem_singleton.1 hm])
  exact ⟨ho, hc, (firsts_in_sync ho rfl rfl).1 _ hc⟩

/-- Both streams start at one second, and the second is put 0.99 seconds behind the first. -/
theorem clocks_apart :
    ({} : FFmpegDemuxer).openInput twoClocks = some (opened twoClocks, .ok) ∧
      (opened twoClocks).metadata.playType = .live ∧
      firsts (opened twoClocks) [keyFrameAt 0 1000, keyFrameAt 1 90000] =
        [⟨ticksOf 1000, 1000, ⟨5, 0⟩⟩, ⟨ticksOf 90000, 90000, ⟨5, 988888⟩⟩] ∧
      ¬InSync (bases (opened twoClocks) [keyFrameAt 0 1000, keyFrameAt 1 90000])
        (firsts (opened twoClocks) [keyFrameAt 0 1000, keyFrameAt 1 90000]) := by
  have hf : firsts (opened twoClocks) [keyFrameAt 0 1000, keyFrameAt 1 90000] =
      [⟨ticksOf 1000, 1000, ⟨5, 0⟩⟩, ⟨ticksOf 90000, 90000, ⟨5, 988888⟩⟩] := by decide
  refine ⟨by decide, by decide, hf, fun hsync => ?_⟩
  have htogether := hsync.together
  rw [hf] at htogether
  have hle := htogether _ (.head _) _ (.tail _ (.head _)) (by
    norm_num [Mark.presentation, TimeBase.seconds, ticksOf])
  exact absurd hle (by decide)

end StreamSwitch.Ffmpeg
