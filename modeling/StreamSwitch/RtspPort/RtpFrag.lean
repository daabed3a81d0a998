import StreamSwitch.RtspPort.PesEncoding
import Mathlib.Data.List.Infix

/-!
# RTP payloads of program stream data

`mp2p_rtp_frag` of `media/parser/mp2p.cc`. The loop goes on while the remainder is not negative, so
that an empty payload follows where nothing remains, and the marker is set before it already.

`mp2pRtpFrag_iff`: the payloads are the buffer in pieces, with the marker on the last one, unless the
buffer is a multiple of `DEFAULT_MTU`, from the second on, or its length is no `int32_t`.
-/

namespace StreamSwitch

namespace Mp2p

/-! ## The code -/

def defaultMtu : Nat := 1440

/-- The times of a track. -/
structure Properties where
  pts : ℚ
  dts : ℚ
  frameDuration : ℚ

/-- A call of `mparser_buffer_write`, which puts such a buffer into the queue of the track. -/
structure MParserBuffer where
  timestamp : ℚ
  delivery : ℚ
  duration : ℚ
  marker : Bool
  data : Bytes

/-- A payload with the times of the track. -/
def Properties.buffer (p : Properties) (marker : Bool) (data : Bytes) : MParserBuffer :=
  ⟨p.pts, p.dts, p.frameDuration, marker, data⟩

/-- The bytes of a buffer that are copied into a payload. A negative size is a large `size_t`. -/
def copied (data : Bytes) (offset size : Int) : Option Bytes :=
  if 0 ≤ offset ∧ 0 ≤ size ∧ offset + size ≤ data.length then
    some ((data.drop offset.toNat).take size.toNat)
  else none

/-- The loop of `mp2p_rtp_frag`; there is no result if bytes outside the buffer are copied. -/
def fragLoop (p : Properties) (data : Bytes) (rem : Int) : Option (List MParserBuffer) := do
  let payload ← copied data ((data.length - rem).bmod (2 ^ 32)) (min rem defaultMtu)
  let buffer := p.buffer (rem ≤ defaultMtu) payload
  if 0 ≤ rem - defaultMtu then
    let rest ← fragLoop p data (rem - defaultMtu)
    return buffer :: rest
  else return [buffer]
termination_by rem.toNat
decreasing_by
  unfold defaultMtu at *
  omega

def mp2pRtpFrag (p : Properties) (data : Bytes) : Option (List MParserBuffer) :=
  if data.length ≤ defaultMtu then some [p.buffer true data]
  else fragLoop p data ((data.length : Int).bmod (2 ^ 32))

/-! ## What is promised -/

/-- The payloads are the buffer in pieces, the last one with the marker. -/
structure Fragments (data : Bytes) (out : List MParserBuffer) : Prop where
  size : ∀ b ∈ out, b.data ≠ [] ∧ b.data.length ≤ defaultMtu
  whole : (out.flatMap fun b => b.data) = data
  marker : ∃ init last, out = init ++ [last] ∧ last.marker = true ∧ ∀ b ∈ init, b.marker = false

/-! ## The loop on what remains -/

/-- The payloads of what remains of a buffer. -/
def frags (p : Properties) (rest : Bytes) : List MParserBuffer :=
  p.buffer (rest.length ≤ defaultMtu) (rest.take defaultMtu) ::
    if defaultMtu ≤ rest.length then frags p (rest.drop defaultMtu) else []
termination_by rest.length
decreasing_by
  rw [List.length_drop]
  unfold defaultMtu at *
  omega

variable (p : Properties) {data rest : Bytes} {rem : Int}

theorem bmod_length {n : Nat} (h : n < 2 ^ 31) : (n : Int).bmod (2 ^ 32) = n := by
  rw [Int.bmod_def]
  omega

/-- What is copied of a buffer of which `rest` remains. -/
theorem copied_rest (start rest : Bytes) : copied (start ++ rest) start.length
    (min rest.length defaultMtu) = some (rest.take defaultMtu) := by
  have hsize : (min rest.length defaultMtu : Int).toNat = min defaultMtu rest.length := by omega
  rw [copied, if_pos (by rw [List.length_append]; omega), Int.toNat_natCast, hsize,
    List.drop_left, ← List.take_eq_take_min]

theorem fragLoop_eq (start rest : Bytes) (hlen : (start ++ rest).length < 2 ^ 31) :
    fragLoop p (start ++ rest) rest.length = some (frags p rest) := by
  fun_induction frags p rest generalizing start with
  | case1 rest ih =>
    have hstart : ((start ++ rest).length - rest.length : Int) = start.length := by
      rw [List.length_append]
      omega
    have hmarker : decide ((rest.length : Int) ≤ defaultMtu) = decide (rest.length ≤ defaultMtu) :=
      decide_eq_decide.2 Int.ofNat_le
    have hlt : start.length < 2 ^ 31 := by
      rw [List.length_append] at hlen
      omega
    rw [fragLoop, hstart, bmod_length hlt, copied_rest, hmarker, Option.bind_eq_bind,
      Option.bind_some]
    by_cases hle : defaultMtu ≤ rest.length
    · have hrest : start ++ rest = start ++ rest.take defaultMtu ++ rest.drop defaultMtu := by
        rw [List.append_assoc, List.take_append_drop]
      have hrem : (rest.length - defaultMtu : Int) = (rest.drop defaultMtu).length := by
        rw [List.length_drop]
        omega
      have hnext := ih hle (start ++ rest.take defaultMtu) (by rwa [← hrest])
      rw [← hrest] at hnext
      rw [hrem, if_pos (Int.natCast_nonneg _), if_pos hle, hnext]
      rfl
    · rw [if_neg (by omega), if_neg hle]
      rfl

/-! ## Pieces -/

theorem frags_whole (rest : Bytes) : ((frags p rest).flatMap fun b => b.data) = rest := by
  fun_induction frags p rest with
  | case1 rest ih =>
    rw [List.flatMap_cons]
    show rest.take defaultMtu ++ _ = rest
    by_cases hle : defaultMtu ≤ rest.length
    · rw [if_pos hle, ih hle, List.take_append_drop]
    · rw [if_neg hle, List.flatMap_nil, List.append_nil, List.take_of_length_le (by omega)]

theorem frags_size (rest : Bytes) : ∀ b ∈ frags p rest, b.data.length ≤ defaultMtu := by
  fun_induction frags p rest with
  | case1 rest ih =>
    intro b hb
    rcases List.mem_cons.1 hb with rfl | hb
    · exact List.length_take_le ..
    · by_cases hle : defaultMtu ≤ rest.length
      · rw [if_pos hle] at hb
        exact ih hle b hb
      · rw [if_neg hle] at hb
        cases hb

/-- A multiple of the MTU ends in an empty payload. -/
theorem frags_empty (rest : Bytes) (h : defaultMtu ∣ rest.length) :
    ∃ b ∈ frags p rest, b.data = [] := by
  fun_induction frags p rest with
  | case1 rest ih =>
    by_cases hle : defaultMtu ≤ rest.length
    · have hdvd : defaultMtu ∣ (rest.drop defaultMtu).length := by
        rw [List.length_drop]
        exact Nat.dvd_sub h (Nat.dvd_refl _)
      obtain ⟨b, hb, hnil⟩ := ih hle hdvd
      exact ⟨b, List.mem_cons_of_mem _ (by rwa [if_pos hle]), hnil⟩
    · have hnil : rest = [] :=
        List.length_eq_zero_iff.1 (Nat.eq_zero_of_dvd_of_lt h (Nat.not_le.1 hle))
      refine ⟨_, List.mem_cons_self, ?_⟩
      show rest.take defaultMtu = []
      rw [hnil, List.take_nil]

/-- Otherwise something remains for the last one, and the others are full. -/
theorem frags_nonempty (rest : Bytes) (h : ¬defaultMtu ∣ rest.length) :
    ∀ b ∈ frags p rest, b.data ≠ [] := by
  fun_induction frags p rest with
  | case1 rest ih =>
    intro b hb
    rcases List.mem_cons.1 hb with rfl | hb
    · intro hnil
      have hlen : (rest.take defaultMtu).length = 0 := List.length_eq_zero_iff.2 hnil
      rw [List.length_take, defaultMtu] at hlen
      have hzero : rest.length = 0 := by omega
      exact h (hzero ▸ Nat.dvd_zero _)
    · by_cases hle : defaultMtu ≤ rest.length
      · rw [if_pos hle] at hb
        refine ih hle (fun hdvd => ?_) b hb
        rw [List.length_drop] at hdvd
        exact h ((Nat.dvd_sub_iff_left hle (Nat.dvd_refl _)).1 hdvd)
      · rw [if_neg hle] at hb
        cases hb

theorem frags_marker (rest : Bytes) (h : ¬defaultMtu ∣ rest.length) :
    ∃ init last, frags p rest = init ++ [last] ∧ last.marker = true ∧
      ∀ b ∈ init, b.marker = false := by
  fun_induction frags p rest with
  | case1 rest ih =>
    by_cases hle : defaultMtu ≤ rest.length
    · have hdvd : ¬defaultMtu ∣ (rest.drop defaultMtu).length := by
        rw [List.length_drop]
        exact fun hdvd => h ((Nat.dvd_sub_iff_left hle (Nat.dvd_refl _)).1 hdvd)
      have hne : rest.length ≠ defaultMtu := fun heq => h (heq ▸ Nat.dvd_refl _)
      obtain ⟨init, last, hout, hlast, hinit⟩ := ih hle hdvd
      rw [if_pos hle, hout]
      refine ⟨_ :: init, last, rfl, hlast, fun b hb => ?_⟩
      rcases List.mem_cons.1 hb with rfl | hb
      · exact decide_eq_false (by omega)
      · exact hinit b hb
    · rw [if_neg hle]
      refine ⟨[], _, rfl, decide_eq_true (by omega), fun b hb => ?_⟩
      cases hb

theorem frags_fragments (rest : Bytes) (h : ¬defaultMtu ∣ rest.length) :
    Fragments rest (frags p rest) where
  size b hb := ⟨frags_nonempty p rest h b hb, frags_size p rest b hb⟩
  whole := frags_whole p rest
  marker := frags_marker p rest h

/-! ## Lengths that are no `int32_t` -/

theorem length_copied {offset size : Int} {payload : Bytes}
    (h : copied data offset size = some payload) : (payload.length : Int) = size := by
  unfold copied at h
  split at h
  · cases h
    rw [List.length_take, List.length_drop]
    omega
  · cases h

/-- What is copied is not more than what remained. -/
theorem fragLoop_length {out : List MParserBuffer} (h : fragLoop p data rem = some out) :
    ((out.flatMap fun b => b.data).length : Int) ≤ rem := by
  fun_induction fragLoop p data rem generalizing out with
  | case1 rem ih =>
    obtain ⟨payload, hpayload, hrest⟩ := Option.bind_eq_some_iff.1 h
    have hlen := length_copied hpayload
    by_cases hle : 0 ≤ rem - defaultMtu
    · rw [if_pos hle] at hrest
      obtain ⟨out', hloop, hout⟩ := Option.bind_eq_some_iff.1 hrest
      cases hout
      have := ih hle hloop
      rw [List.flatMap_cons, List.length_append]
      show ((payload.length + _ : Nat) : Int) ≤ rem
      omega
    · rw [if_neg hle] at hrest
      cases hrest
      rw [List.flatMap_cons, List.flatMap_nil, List.append_nil]
      show (payload.length : Int) ≤ rem
      omega

/-- **A buffer is put out in pieces** if and only if it fits into one, or is no multiple of the MTU
and its length is an `int32_t`. -/
theorem mp2pRtpFrag_iff (data : Bytes) (hne : data ≠ []) :
    (∃ out, mp2pRtpFrag p data = some out ∧ Fragments data out) ↔
      data.length ≤ defaultMtu ∨ data.length < 2 ^ 31 ∧ ¬defaultMtu ∣ data.length := by
  unfold mp2pRtpFrag
  by_cases hshort : data.length ≤ defaultMtu
  · refine iff_of_true ⟨_, if_pos hshort, ?_, ?_, [], _, rfl, rfl, fun b hb => by cases hb⟩
      (.inl hshort)
    · intro b hb
      cases List.mem_singleton.1 hb
      exact ⟨hne, hshort⟩
    · exact List.append_nil data
  · rw [if_neg hshort, or_iff_right hshort]
    by_cases hint : data.length < 2 ^ 31
    · rw [bmod_length hint, and_iff_right hint]
      have hrun := fragLoop_eq p [] data hint
      rw [List.nil_append] at hrun
      constructor
      · rintro ⟨out, hout, hsize, -⟩ hdvd
        cases hrun.symm.trans hout
        obtain ⟨b, hb, hnil⟩ := frags_empty p data hdvd
        exact (hsize b hb).1 hnil
      · exact fun hdvd => ⟨_, hrun, frags_fragments p data hdvd⟩
    · refine iff_of_false ?_ fun h => hint h.1
      rintro ⟨out, hout, -, hwhole, -⟩
      have hlen := fragLoop_length p hout
      rw [hwhole, Int.bmod_def] at hlen
      omega

/-- Three payloads of more than two MTUs. -/
theorem three_fragments : ∃ out, mp2pRtpFrag ⟨0, 0, 0⟩ (List.replicate 3000 0) = some out ∧
    Fragments (List.replicate 3000 0) out :=
  (mp2pRtpFrag_iff ⟨0, 0, 0⟩ (List.replicate 3000 0) (List.ne_nil_of_length_pos
    (by rw [List.length_replicate]; decide))).2 (.inr (by rw [List.length_replicate]; decide))

/-- Two full payloads are followed by an empty one. -/
theorem multiple_not_fragments :
    ¬∃ out, mp2pRtpFrag ⟨0, 0, 0⟩ (List.replicate 2880 0) = some out ∧
      Fragments (List.replicate 2880 0) out := by
  rintro ⟨out, hout, hsize, -⟩
  have hrun := fragLoop_eq ⟨0, 0, 0⟩ [] (List.replicate 2880 0)
    (by rw [List.nil_append, List.length_replicate]; decide)
  rw [mp2pRtpFrag, List.length_replicate, if_neg (by decide)] at hout
  rw [List.nil_append, List.length_replicate] at hrun
  cases hrun.symm.trans hout
  obtain ⟨b, hb, hnil⟩ := frags_empty ⟨0, 0, 0⟩ (List.replicate 2880 0)
    (by rw [List.length_replicate]; decide)
  exact (hsize b hb).1 hnil

end Mp2p

end StreamSwitch
