import StreamSwitch.FfmpegSender.Mpeg4Syntax
import Mathlib.Data.List.Infix

/-!
# The analysers in a buffer that ends

`Stream_Analyse` and `Stream_Analyse_265` again, over the analysers that fail. `analysers_safe_iff`
says for which buffers none of the five functions reads outside, shifts too far, divides by zero or
gets a negative size: what is analysed is a whole sentence of the syntax.
-/

namespace StreamSwitch.DecSps

namespace Checked

/-! ## The code -/

/-- An analyser behind a start code, for the byte that says what is there. -/
abbrev Analyser := UInt8 → Bytes → Int → Out → Except Fault (Int × Out)

/-- What `Stream_Analyse` does behind a start code. After `Mpeg4_Analyse` nothing else is tried:
`0xB0` is not of type 7. -/
def analyseNal (naltype : UInt8) (pBuf : Bytes) (nSize : Int) (out : Out) : Except Fault (Int × Out) :=
  if naltype = 0xB0 then Mpeg4.mpeg4Analyse pBuf nSize out
  else if naltype &&& 0x1f = 7 then h264Analyse pBuf nSize out
  else .ok (-1, out)

/-- The same for `Stream_Analyse_265`. -/
def analyseNal265 (naltype : UInt8) (pBuf : Bytes) (nSize : Int) (out : Out) :
    Except Fault (Int × Out) :=
  if (naltype &&& 0x7e) >>> 1 = 33 then h265Analyse pBuf nSize out else .ok (-1, out)

section

variable (analyse : Analyser)

/-- What is done at one place. The bytes are looked at one after another. -/
def analyseAt (pBuf : Bytes) (nSize : Int) (out : Out) : Except Fault (Int × Out) :=
  match pBuf with
  | 0 :: 0 :: 1 :: naltype :: _ => analyse naltype pBuf nSize out
  | [] | [0] | [0, 0] | [0, 0, 1] => .error .read
  | _ => .ok (-1, out)

/-- The loop of both functions with so many places to go. -/
def scan : (places : Nat) → Bytes → Int → Out → Except Fault (Int × Out)
  | 0, _, _, out => .ok (-1, out)
  | places + 1, pBuf, nSize, out => do
    let r ← analyseAt analyse pBuf nSize out
    if 0 ≤ r.1 then return r else scan places pBuf.tail (nSize - 1) r.2

/-- The loop, whose last place is an `int`. -/
def scanAll (pBuf : Bytes) (nSize : Int) (out : Out) : Except Fault (Int × Out) :=
  scan analyse ((nSize - 4).bmod (2 ^ 32)).toNat pBuf nSize out

end

/-- `Stream_Analyse`. -/
def streamAnalyse (pBuf : Bytes) (nSize : Int) (out : Out) : Except Fault (Int × Out) :=
  scanAll analyseNal pBuf nSize { out with framerate := 0 }

/-- `Stream_Analyse_265`. -/
def streamAnalyse265 (pBuf : Bytes) (nSize : Int) (out : Out) : Except Fault (Int × Out) :=
  scanAll analyseNal265 pBuf nSize out

/-! ## What has to be in the buffer -/

/-- There is a start code and such a byte behind it. -/
def StartsWith (naltype : UInt8) (pBuf : Bytes) : Prop := [0, 0, 1, naltype] <+: pBuf

/-- What an analyser finds that returns `ret`. -/
abbrev Finds := UInt8 → Bytes → Int → Prop

/-- Behind a start code that `Stream_Analyse` stops at. -/
def findsNal : Finds := fun naltype pBuf ret =>
  if naltype = 0xB0 then ∃ out, Mpeg4.Found pBuf ⟨0, 0, 0⟩ (ret, out)
  else if naltype &&& 0x1f = 7 then ∃ s, H264Found pBuf s ∧ ret = (s.result ⟨0, 0, 0⟩).1
  else ret = -1

def findsNal265 : Finds := fun naltype pBuf ret =>
  if (naltype &&& 0x7e) >>> 1 = 33 then ∃ c, H265Found pBuf c ∧ ret = 2 else ret = -1

section

variable (finds : Finds)

/-- What is found at a place, if there is something. -/
def Analysed (pBuf : Bytes) (ret : Int) : Prop :=
  (∃ naltype, StartsWith naltype pBuf ∧ finds naltype pBuf ret) ∨
    (∀ naltype, ¬ StartsWith naltype pBuf) ∧ ret = -1

/-- Up to the first place where a picture size is found, there is no start code with something behind
it that is not a whole sentence. -/
def Scannable (pBuf : Bytes) (places : Nat) : Prop :=
  ∀ i < places, (∀ j < i, ∀ ret, Analysed finds (pBuf.drop j) ret → ret < 0) →
    ∃ ret, Analysed finds (pBuf.drop i) ret

end

/-- Nothing fails. -/
def Safe (x : Except Fault (Int × Out)) : Prop := ∃ r, x = .ok r

/-! ## The loop -/

/-- The buffer from the next byte on. -/
def Buffer.next (b : Buffer) (h : 0 < b.nSize) : Buffer where
  pBuf := b.pBuf.tail
  nSize := b.nSize - 1
  int := by
    have := b.int
    omega
  size := by
    have := b.size
    rw [List.length_tail]
    omega

section Scan

variable {analyse : Analyser} {finds : Finds} {pBuf : Bytes} {nSize : Int} {out : Out} {places : Nat}

/-- The analyser does not fail where something is found, and returns what is said there. -/
def Checks (analyse : Analyser) (finds : Finds) : Prop :=
  ∀ naltype (b : Buffer) out ret,
    (∃ out', analyse naltype b.pBuf b.nSize out = .ok (ret, out')) ↔ finds naltype b.pBuf ret

theorem analyseAt_start {naltype : UInt8} (h : StartsWith naltype pBuf) :
    analyseAt analyse pBuf nSize out = analyse naltype pBuf nSize out := by
  obtain ⟨rest, rfl⟩ := h
  rfl

theorem startsWith_unique {a b : UInt8} (ha : StartsWith a pBuf) (hb : StartsWith b pBuf) : a = b := by
  obtain ⟨xs, rfl⟩ := ha
  obtain ⟨ys, hys⟩ := hb
  simp only [List.cons_append, List.cons.injEq] at hys
  exact hys.2.2.2.1.symm

/-- Without a start code nothing is analysed. -/
theorem analyseAt_none (hlen : 4 ≤ pBuf.length) (h : ∀ naltype, ¬ StartsWith naltype pBuf) :
    analyseAt analyse pBuf nSize out = .ok (-1, out) := by
  unfold analyseAt
  split
  · rename_i naltype rest
    exact absurd ⟨rest, rfl⟩ (h naltype)
  · simp at hlen
  · simp at hlen
  · simp at hlen
  · simp at hlen
  · rfl

theorem analyseAt_eq_ok (h : Checks analyse finds) (b : Buffer) (hlen : 4 ≤ b.pBuf.length) (out : Out)
    (ret : Int) : (∃ out', analyseAt analyse b.pBuf b.nSize out = .ok (ret, out')) ↔
      Analysed finds b.pBuf ret := by
  by_cases hstart : ∃ naltype, StartsWith naltype b.pBuf
  · obtain ⟨naltype, hstart⟩ := hstart
    rw [analyseAt_start hstart, h naltype b out ret]
    constructor
    · exact fun hfinds => .inl ⟨naltype, hstart, hfinds⟩
    · rintro (⟨naltype', hstart', hfinds⟩ | ⟨hnone, -⟩)
      · rw [startsWith_unique hstart hstart']
        exact hfinds
      · exact absurd hstart (hnone naltype)
  · have hnone (naltype : UInt8) : ¬ StartsWith naltype b.pBuf := fun h => hstart ⟨naltype, h⟩
    rw [analyseAt_none hlen hnone]
    constructor
    · rintro ⟨out', hok⟩
      cases hok
      exact .inr ⟨hnone, rfl⟩
    · rintro (⟨naltype, hstart', -⟩ | ⟨-, rfl⟩)
      · exact absurd hstart' (hnone naltype)
      · exact ⟨out, rfl⟩

/-- One place more: behind it is looked only if no picture size is found there. -/
theorem scannable_succ : Scannable finds pBuf (places + 1) ↔
    (∃ ret, Analysed finds pBuf ret) ∧
      ((∀ ret, Analysed finds pBuf ret → ret < 0) → Scannable finds pBuf.tail places) := by
  have hdrop (i : Nat) : pBuf.tail.drop i = pBuf.drop (i + 1) := List.drop_tail
  constructor
  · intro h
    refine ⟨h 0 (Nat.succ_pos places) fun j hj => absurd hj (Nat.not_lt_zero j), fun hfirst i hi hj => ?_⟩
    rw [hdrop]
    refine h (i + 1) (Nat.succ_lt_succ hi) fun j hji => ?_
    cases j with
    | zero => exact hfirst
    | succ j =>
      rw [← hdrop]
      exact hj j (Nat.lt_of_succ_lt_succ hji)
  · rintro ⟨hfirst, hrest⟩ i hi hj
    cases i with
    | zero => exact hfirst
    | succ i =>
      rw [← hdrop]
      refine hrest (hj 0 (Nat.succ_pos i)) i (Nat.lt_of_succ_lt_succ hi) fun j hji => ?_
      rw [hdrop]
      exact hj (j + 1) (Nat.succ_lt_succ hji)

theorem scan_safe (h : Checks analyse finds) (b : Buffer) (hlen : places = 0 ∨ places + 4 ≤ b.nSize)
    (out : Out) : Safe (scan analyse places b.pBuf b.nSize out) ↔ Scannable finds b.pBuf places := by
  induction places generalizing b out with
  | zero =>
    refine iff_of_true ⟨_, rfl⟩ fun i hi => ?_
    exact absurd hi (Nat.not_lt_zero i)
  | succ places ih =>
    have hsize := b.size
    have hplace := analyseAt_eq_ok h b (by omega) out
    have hnext := ih (b.next (by omega)) (.inr (show (places + 4 : Int) ≤ b.nSize - 1 by omega))
    rw [scannable_succ]
    constructor
    · rintro ⟨r, hr⟩
      obtain ⟨⟨ret, out'⟩, hanalyse, hr⟩ := Sentences.except_bind_eq_ok.1 hr
      refine ⟨⟨ret, (hplace ret).1 ⟨out', hanalyse⟩⟩, fun hnone => ?_⟩
      have hneg := hnone ret ((hplace ret).1 ⟨out', hanalyse⟩)
      rw [if_neg (Int.not_le.2 hneg)] at hr
      exact (hnext out').1 ⟨r, hr⟩
    · rintro ⟨⟨ret, hret⟩, hrest⟩
      obtain ⟨out', hanalyse⟩ := (hplace ret).2 hret
      have hstep : scan analyse (places + 1) b.pBuf b.nSize out =
          if 0 ≤ ret then .ok (ret, out')
          else scan analyse places b.pBuf.tail (b.nSize - 1) out' := by
        rw [scan, hanalyse]
        rfl
      rw [hstep]
      by_cases hfound : 0 ≤ ret
      · rw [if_pos hfound]
        exact ⟨_, rfl⟩
      · rw [if_neg hfound]
        refine (hnext out').2 (hrest fun ret' hret' => ?_)
        obtain ⟨out'', hanalyse'⟩ := (hplace ret').2 hret'
        rw [hanalyse] at hanalyse'
        cases hanalyse'
        exact Int.not_le.1 hfound

/-- With a size so low that `nSize-4` is not, the loop reads a byte. -/
theorem scanAll_safe (h : Checks analyse finds) (b : Buffer) (out : Out) :
    Safe (scanAll analyse b.pBuf b.nSize out) ↔
      -2 ^ 31 + 4 ≤ b.nSize ∧ Scannable finds b.pBuf (b.nSize - 4).toNat := by
  have hint := b.int
  have hsize := b.size
  unfold scanAll
  by_cases hlow : -2 ^ 31 + 4 ≤ b.nSize
  · rw [bmod_eq (by omega), scan_safe h b (by omega), and_iff_right hlow]
  · have hnil : b.pBuf = [] := List.length_eq_zero_iff.1 (by omega)
    have hplaces : ∃ n, ((b.nSize - 4).bmod (2 ^ 32)).toNat = n + 1 := by
      refine Nat.exists_eq_succ_of_ne_zero ?_
      rw [Int.bmod_def]
      omega
    obtain ⟨n, hn⟩ := hplaces
    rw [hnil, hn]
    refine iff_of_false ?_ fun h => hlow h.1
    rintro ⟨r, hr⟩
    cases hr

end Scan

/-! ## The five functions -/

theorem analyseNal_checks : Checks analyseNal findsNal := by
  intro naltype b out ret
  unfold analyseNal findsNal
  by_cases hmpeg4 : naltype = 0xB0
  · rw [if_pos hmpeg4, if_pos hmpeg4]
    simp only [Mpeg4.mpeg4Analyse_eq_ok b]
    constructor
    · rintro ⟨out', hfound⟩
      exact hfound.agree _
    · rintro ⟨out', hfound⟩
      exact hfound.agree _
  · rw [if_neg hmpeg4, if_neg hmpeg4]
    by_cases hsps : naltype &&& 0x1f = 7
    · rw [if_pos hsps, if_pos hsps]
      simp only [h264Analyse_eq_ok b]
      constructor
      · rintro ⟨out', s, hfound, hret⟩
        have hfirst : ret = (s.result out).1 := (Prod.ext_iff.1 hret).1
        refine ⟨s, hfound, ?_⟩
        rw [hfirst]
        cases s <;> rfl
      · rintro ⟨s, hfound, rfl⟩
        refine ⟨(s.result out).2, s, hfound, ?_⟩
        cases s <;> rfl
    · rw [if_neg hsps, if_neg hsps]
      constructor
      · rintro ⟨out', hok⟩
        cases hok
        rfl
      · rintro rfl
        exact ⟨out, rfl⟩

theorem analyseNal265_checks : Checks analyseNal265 findsNal265 := by
  intro naltype b out ret
  unfold analyseNal265 findsNal265
  by_cases hsps : (naltype &&& 0x7e) >>> 1 = 33
  · rw [if_pos hsps, if_pos hsps]
    simp only [h265Analyse_eq_ok b]
    constructor
    · rintro ⟨out', c, hfound, hret⟩
      exact ⟨c, hfound, (Prod.ext_iff.1 hret).1⟩
    · rintro ⟨c, hfound, rfl⟩
      exact ⟨(h265Result out c).2, c, hfound, rfl⟩
  · rw [if_neg hsps, if_neg hsps]
    constructor
    · rintro ⟨out', hok⟩
      cases hok
      rfl
    · rintro rfl
      exact ⟨out, rfl⟩

/-- None of the functions fails. -/
structure AnalysersSafe (b : Buffer) (out : Out) : Prop where
  mpeg4 : Safe (Mpeg4.mpeg4Analyse b.pBuf b.nSize out)
  h264 : Safe (h264Analyse b.pBuf b.nSize out)
  h265 : Safe (h265Analyse b.pBuf b.nSize out)
  stream : Safe (streamAnalyse b.pBuf b.nSize out)
  stream265 : Safe (streamAnalyse265 b.pBuf b.nSize out)

/-- Each of the functions fails nowhere if all that it goes through is in the buffer, and only then. -/
theorem analysers_safe_iff (b : Buffer) (out : Out) :
    (Safe (Mpeg4.mpeg4Analyse b.pBuf b.nSize out) ↔ ∃ r, Mpeg4.Found b.pBuf out r) ∧
    (Safe (h264Analyse b.pBuf b.nSize out) ↔ ∃ s, H264Found b.pBuf s) ∧
    (Safe (h265Analyse b.pBuf b.nSize out) ↔ ∃ c, H265Found b.pBuf c) ∧
    (Safe (streamAnalyse b.pBuf b.nSize out) ↔
      -2 ^ 31 + 4 ≤ b.nSize ∧ Scannable findsNal b.pBuf (b.nSize - 4).toNat) ∧
    (Safe (streamAnalyse265 b.pBuf b.nSize out) ↔
      -2 ^ 31 + 4 ≤ b.nSize ∧ Scannable findsNal265 b.pBuf (b.nSize - 4).toNat) := by
  refine ⟨exists_congr fun r => Mpeg4.mpeg4Analyse_eq_ok b out, ?_, ?_,
    scanAll_safe analyseNal_checks b _, scanAll_safe analyseNal265_checks b out⟩
  · simp only [Safe, h264Analyse_eq_ok b]
    constructor
    · rintro ⟨r, s, hfound, -⟩
      exact ⟨s, hfound⟩
    · rintro ⟨s, hfound⟩
      exact ⟨_, s, hfound, rfl⟩
  · simp only [Safe, h265Analyse_eq_ok b]
    constructor
    · rintro ⟨r, c, hfound, -⟩
      exact ⟨c, hfound⟩
    · rintro ⟨c, hfound⟩
      exact ⟨_, c, hfound, rfl⟩

/-- A parameter set of four bytes: two of them are copied, and four are read. -/
def shortSps : Buffer where
  pBuf := [0, 0, 1, 0x67, 0x42, 0x00, 0x0a, 0x96]
  nSize := 8
  int := by decide
  size := rfl

theorem shortSps_not_safe : ¬ AnalysersSafe shortSps ⟨0, 0, 0⟩ := by
  intro h
  obtain ⟨r, hr⟩ := h.stream
  have hfault : streamAnalyse shortSps.pBuf shortSps.nSize ⟨0, 0, 0⟩ = .error .read := by rfl
  rw [hfault] at hr
  cases hr

end Checked

end StreamSwitch.DecSps
