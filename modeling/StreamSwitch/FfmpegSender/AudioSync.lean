import StreamSwitch.FfmpegSender.AudioFifo

/-!
# Synchronisation of the transcoded audio

`CheckAudioFifoPts` looks at the end of the FIFO only while there is something in it, but
`fifo_pts_` outlives the last sample. `inSync_iff`: every frame that is written is in sync
unless it comes more than 300 ms off the end of an empty FIFO, or so far off that the
64-bit arithmetic of the check overflows.
-/

namespace StreamSwitch

namespace AacMuxParser

variable {α : Type} {c : OutCodecContext} {s t : AacMuxParser α} {pts : Int64}

/-- The time that the next sample is read with. -/
def endPts (s : AacMuxParser α) (pts : Int64) : Int :=
  (if s.fifoPts = avNoptsValue then pts else s.fifoPts).toInt + s.fifo.length

/-- The time is more than 300 ms, in whole milliseconds, off the end of the FIFO. -/
def Far (c : OutCodecContext) (s : AacMuxParser α) (pts : Int64) : Prop :=
  301 * c.sampleRate.toInt ≤ |pts.toInt - s.endPts pts| * 1000

/-- The check does not get by with 64 bits. -/
def Overflows (s : AacMuxParser α) (pts : Int64) : Prop :=
  s.fifoPts = avNoptsValue ∨ 2 ^ 63 ≤ s.endPts pts ∨ 2 ^ 63 ≤ |pts.toInt - s.endPts pts| * 1000

/-- The check does not look at the frame, or misses it. -/
def Unchecked (c : OutCodecContext) (s : AacMuxParser α) (pts : Int64) : Prop :=
  s.fifo = [] ∨ (s.Overflows pts ∧ s.checkAudioFifoPts pts c.sampleRate.toInt64 = false)

theorem toInt_sub {x y : Int64} (hle : y.toInt ≤ x.toInt) (h : x.toInt - y.toInt < 2 ^ 63) :
    (x - y).toInt = x.toInt - y.toInt := by
  rw [Int64.toInt_sub]
  apply Int.bmod_eq_of_le <;> omega

/-- Distance times 1000 over the rate, where nothing overflows. -/
theorem delta_check {d rate : Int64} (hd : 0 ≤ d.toInt) (hmul : d.toInt * 1000 < 2 ^ 63)
    (hr : 0 < rate.toInt) : d * 1000 / rate > 300 ↔ 301 * rate.toInt ≤ d.toInt * 1000 := by
  have hprod : (d * 1000).toInt = d.toInt * 1000 := by
    rw [Int64.toInt_mul]
    apply Int.bmod_eq_of_le <;> simp <;> omega
  have hdiv : (d * 1000 / rate).toInt = d.toInt * 1000 / rate.toInt := by
    have hle := Int.ediv_le_self (rate.toInt) (show 0 ≤ d.toInt * 1000 by omega)
    have hnonneg := Int.ediv_nonneg (show 0 ≤ d.toInt * 1000 by omega) hr.le
    rw [Int64.toInt_div, hprod, Int.tdiv_eq_ediv_of_nonneg (by omega)]
    apply Int.bmod_eq_of_le <;> omega
  rw [gt_iff_lt, Int64.lt_iff_toInt_lt, hdiv, ← Int.le_ediv_iff_mul_le hr]
  exact Iff.rfl

/-- The check is right where it looks and nothing overflows. -/
theorem check_iff (hne : s.fifo ≠ []) (ho : ¬ s.Overflows pts) :
    s.checkAudioFifoPts pts c.sampleRate.toInt64 = true ↔ s.Far c pts := by
  unfold Overflows at ho
  simp only [not_or, not_le] at ho
  obtain ⟨hpts, hend, hdist⟩ := ho
  have hrate : 0 < c.sampleRate.toInt64.toInt := by
    rw [Int32.toInt_toInt64]
    exact c.sampleRate_pos
  unfold Far
  unfold endPts at hend hdist ⊢
  rw [if_neg hpts] at hend hdist ⊢
  have hlast := toInt_add_ofNat hend
  unfold checkAudioFifoPts
  rw [if_neg (by simpa using hne)]
  dsimp only
  generalize s.fifoPts + Int64.ofNat s.fifo.length = last at hlast
  rw [← hlast] at hdist ⊢
  rw [decide_eq_true_iff, ← Int32.toInt_toInt64 c.sampleRate]
  split
  · next hle =>
    have hle := Int64.le_iff_toInt_le.1 hle
    have habs : |pts.toInt - last.toInt| = pts.toInt - last.toInt := abs_of_nonneg (by omega)
    rw [habs] at hdist ⊢
    have hsub := toInt_sub hle (by omega)
    rw [← hsub] at hdist ⊢
    exact delta_check (by omega) hdist hrate
  · next hlt =>
    have hle := Int64.lt_iff_toInt_lt.1 (Int64.not_le.1 hlt)
    have habs : |pts.toInt - last.toInt| = last.toInt - pts.toInt := by
      rw [abs_sub_comm]
      exact abs_of_nonneg (by omega)
    rw [habs] at hdist ⊢
    have hsub := toInt_sub hle.le (by omega)
    rw [← hsub] at hdist ⊢
    exact delta_check (by omega) hdist hrate

/-- The frame is queued where the check does not object. -/
theorem enqueue_unchecked (c : OutCodecContext) (s : AacMuxParser α) (f : DecodedFrame α)
    (h : s.checkAudioFifoPts f.time c.sampleRate.toInt64 = false) :
    s.enqueue c f true true = .queued
      ⟨s.fifo ++ f.samples, if s.fifoPts = avNoptsValue then f.time else s.fifoPts⟩ := by
  simp [enqueue, h, writeAudioFifo]

theorem check_of_empty (h : s.fifo = []) (pts rate : Int64) :
    s.checkAudioFifoPts pts rate = false := by
  simp [checkAudioFifoPts, h]

end AacMuxParser

namespace AacSender

variable {α : Type} {c : OutCodecContext} {s : AacSender α} {e : AacEvent α}

/-- How far off its time the first sample of a frame will be read: `fifo_pts_` and the samples
queued before it against the time of the frame. -/
def offset (w : DecodedFrame α × AacMuxParser α) : Int :=
  |w.1.time.toInt - (w.2.fifoPts.toInt + (w.2.fifo.length - w.1.samples.length))|

/-- What an event writes is at most 300 ms off, in whole milliseconds. -/
def InSync (c : OutCodecContext) (s : AacSender α) (e : AacEvent α) : Prop :=
  ∀ w ∈ s.writes c e, offset w * 1000 < 301 * c.sampleRate.toInt

/-- No frame that goes through comes far off while the check does not see it. -/
def Watched (c : OutCodecContext) (s : AacSender α) : AacEvent α → Prop
  | .parse (some (.frame f true true)) _ => s.errorCode = false →
    s.parser.Far c f.time → ¬ s.parser.Unchecked c f.time
  | _ => True

theorem offset_appended (f : DecodedFrame α) (q : AacMuxParser α) :
    offset (f, ⟨q.fifo ++ f.samples, if q.fifoPts = avNoptsValue then f.time else q.fifoPts⟩) =
      |f.time.toInt - q.endPts f.time| := by
  simp [offset, AacMuxParser.endPts]

theorem offset_restarted (f : DecodedFrame α) : offset (f, ⟨f.samples, f.time⟩) = 0 := by
  simp [offset]

/-- A frame is written in sync exactly if the check looks at it where it is far off. -/
theorem inSync_frame (hs : s.errorCode = false) (f : DecodedFrame α) (encode : Nat → Encoded) :
    s.InSync c (.parse (some (.frame f true true)) encode) ↔
      (s.parser.Far c f.time → ¬ s.parser.Unchecked c f.time) := by
  have hwrites : ∀ w, w ∈ s.writes c (.parse (some (.frame f true true)) encode) ↔
      ∃ q, s.parser.enqueue c f true true = .queued q ∧ w = (f, q) := by
    intro w
    cases hq : s.parser.enqueue c f true true with
    | early => simp [writes, hs, hq]
    | failed q => simp [writes, hs, hq]
    | queued q => simp [writes, hs, hq, eq_comm]
  constructor
  · intro h hfar hun
    have hcheck : s.parser.checkAudioFifoPts f.time c.sampleRate.toInt64 = false := by
      rcases hun with hempty | ⟨-, hcheck⟩
      · exact AacMuxParser.check_of_empty hempty _ _
      · exact hcheck
    have hsync := h _ ((hwrites _).2 ⟨_, AacMuxParser.enqueue_unchecked c s.parser f hcheck, rfl⟩)
    rw [offset_appended] at hsync
    exact absurd hfar (not_le.2 hsync)
  · intro h w hw
    obtain ⟨q, hq, rfl⟩ := (hwrites w).1 hw
    obtain ⟨-, -, hq⟩ := AacMuxParser.enqueue_queued hq
    have hrate := c.sampleRate_pos
    split at hq
    · rw [hq.2, offset_restarted]
      omega
    · next hcheck =>
      rw [hq, offset_appended]
      by_contra hfar
      have hun := h (not_lt.1 hfar)
      have hno : ¬ s.parser.Overflows f.time := fun ho => hun (.inr ⟨ho, by simpa using hcheck⟩)
      exact hcheck ((AacMuxParser.check_iff (fun hempty => hun (.inl hempty)) hno).2
        (not_lt.1 hfar))

theorem inSync_step (c : OutCodecContext) (s : AacSender α) (e : AacEvent α) :
    s.InSync c e ↔ s.Watched c e := by
  have hnone : s.writes c e = none → s.InSync c e := fun hw w h => by
    rw [hw] at h
    cases h
  cases e with
  | flush alloc encode => exact iff_of_true (hnone rfl) trivial
  | parse input encode =>
    cases input with
    | none => exact iff_of_true (hnone rfl) trivial
    | some d =>
      cases d with
      | dropped => exact iff_of_true (hnone rfl) trivial
      | failed => exact iff_of_true (hnone rfl) trivial
      | noData => exact iff_of_true (hnone rfl) trivial
      | frame f converted written =>
        rcases Bool.eq_false_or_eq_true s.errorCode with hs | hs
        · refine iff_of_true (hnone (by simp [writes, hs])) ?_
          cases converted <;> cases written
          · trivial
          · trivial
          · trivial
          · intro h
            cases hs.symm.trans h
        · by_cases hok : converted = true ∧ written = true
          · obtain ⟨rfl, rfl⟩ := hok
            rw [inSync_frame hs f encode]
            exact ⟨fun h _ => h, fun h => h hs⟩
          · -- a frame that does not go through is not written
            refine iff_of_true (hnone ?_) ?_
            · cases hq : s.parser.enqueue c f converted written with
              | early => simp [writes, hq]
              | failed q => simp [writes, hq]
              | queued q =>
                have h := AacMuxParser.enqueue_queued hq
                exact absurd ⟨h.1, h.2.1⟩ hok
            · cases converted <;> cases written
              · trivial
              · trivial
              · trivial
              · exact absurd ⟨rfl, rfl⟩ hok

/-- **The audio stays in sync** along a run if and only if no frame that goes through comes far off
while the FIFO is empty or the check overflows and misses it. -/
theorem inSync_iff (c : OutCodecContext) (es : List (AacEvent α)) :
    Run.Each (step c) (InSync c) {} es ↔ Run.Each (step c) (Watched c) {} es := by
  constructor
  · exact fun h => h.mono fun s e => (inSync_step c s e).1
  · exact fun h => h.mono fun s e => (inSync_step c s e).2

/-- The source jumps by 10 seconds while the FIFO is empty: the next frame is read 10 seconds too
early. -/
theorem jump_unseen : ¬ Run.Each (step aac) (InSync aac) {} [frameOf 0 1024, frameOf 480000 1024] := by
  rintro ⟨-, h⟩
  have hsync := (h { parser := ⟨[], 1024⟩ } (by decide +kernel)).1
    (⟨480000, avNoptsValue, avNoptsValue, .replicate 1024 ()⟩, ⟨.replicate 1024 (), 1024⟩)
    (Option.mem_def.2 (by decide +kernel))
  exact absurd hsync (by decide +kernel)

end AacSender

end StreamSwitch
