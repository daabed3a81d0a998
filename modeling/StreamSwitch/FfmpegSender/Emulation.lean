import StreamSwitch.FfmpegSender.CheckedSps
import StreamSwitch.FfmpegSender.Fields
import Mathlib.Data.List.GetD
import Mathlib.Data.List.Infix
import Mathlib.Logic.Function.Basic

/-!
# Emulation prevention bytes

`remove_0x03` with its destination, and the insertion of emulation prevention bytes as the standard
has it. An escape is 00 00 03. The loop ends two bytes before the end of the source, so that these are
copied only if they are those of an escape: `remove0x03To_iff`.
-/

namespace StreamSwitch.DecSps

open Checked (memory)

/-! ## The code -/

/-- The locals of `remove_0x03`, and what `dst` points to. Both numbers are `size` at most, so that
they do not overflow. -/
structure Copying where
  i : Nat
  rbspPos : Nat
  dst : Memory

section

variable (src : Memory)

/-- `tmp`. -/
def tmpAt (i : Nat) : BitVec 32 :=
  (src i).toBitVec.setWidth 32 <<< 16 ||| (src (i + 1)).toBitVec.setWidth 32 <<< 8 |||
    (src (i + 2)).toBitVec.setWidth 32

/-- The body of the loop, with its `i++`. -/
def copyStep (s : Copying) : Copying :=
  if tmpAt src s.i = 0x03 then
    { i := s.i + 3
      rbspPos := s.rbspPos + 2
      dst := Function.update (Function.update s.dst s.rbspPos (src s.i)) (s.rbspPos + 1)
        (src (s.i + 1)) }
  else
    { i := s.i + 1
      rbspPos := s.rbspPos + 1
      dst := Function.update s.dst s.rbspPos (src s.i) }

theorem lt_copyStep (s : Copying) : s.i < (copyStep src s).i := by
  unfold copyStep
  split
  · exact Nat.lt_add_of_pos_right (by decide)
  · exact Nat.lt_succ_self _

def copyLoop (size : Int) (s : Copying) : Copying :=
  if s.i < size - 2 then copyLoop size (copyStep src s) else s
termination_by (size - s.i).toNat
decreasing_by
  have := lt_copyStep src s
  omega

/-- `remove_0x03`: what it returns, and what `dst` points to then. -/
def remove0x03To (dst : Memory) (size : Int) : Nat × Memory :=
  let s := copyLoop src size ⟨0, 0, dst⟩
  (s.rbspPos, s.dst)

end

/-! ## The standard -/

/-- An `emulation_prevention_three_byte` behind two zeros, before a byte up to 3. -/
def preventEmulation : Bytes → Bytes
  | a :: b :: c :: bytes =>
    if a = 0 ∧ b = 0 ∧ c ≤ 3 then a :: b :: 3 :: preventEmulation (c :: bytes)
    else a :: preventEmulation (b :: c :: bytes)
  | bytes => bytes

/-- A raw byte sequence payload: nothing, or data up to the byte with the `rbsp_stop_one_bit`, behind
which there may be words of zeros. -/
inductive Rbsp where
  | empty
  | data (front : Bytes) (last : UInt8) (stop : last ≠ 0) (cabacZeroWords : Nat)

/-- Words of zeros. -/
def zeroWords : Nat → Bytes
  | 0 => []
  | n + 1 => 0 :: 0 :: zeroWords n

def Rbsp.bytes : Rbsp → Bytes
  | empty => []
  | data front last _ words => front ++ last :: zeroWords words

/-- The payload in a NAL unit; behind a zero at its end there is a last byte 3. -/
def Rbsp.encoded (r : Rbsp) : Bytes :=
  preventEmulation r.bytes ++ if r.bytes.getLast? = some 0 then [3] else []

/-! ## What is written -/

/-- The memory with the bytes written from a position on. -/
def storeAll (dst : Memory) : Nat → Bytes → Memory
  | _, [] => dst
  | p, b :: bytes => storeAll (Function.update dst p b) (p + 1) bytes

/-- The memory with the bytes at its beginning. -/
def written (bytes : Bytes) (dst : Memory) : Memory := fun p => bytes.getD p (dst p)

variable {src dst : Memory} {bytes : Bytes} {i p : Nat}

theorem storeAll_apply (dst : Memory) (n : Nat) (bytes : Bytes) (p : Nat) :
    storeAll dst n bytes p = if p < n then dst p else bytes.getD (p - n) (dst p) := by
  induction bytes generalizing dst n with
  | nil =>
    rw [List.getD_nil, ite_self]
    rfl
  | cons b bytes ih =>
    rw [storeAll, ih]
    by_cases hlt : p < n
    · rw [if_pos hlt, if_pos (Nat.lt_succ_of_lt hlt), Function.update_of_ne (Nat.ne_of_lt hlt)]
    · by_cases heq : p = n
      · subst heq
        rw [if_pos (Nat.lt_succ_self p), if_neg hlt, Function.update_self, Nat.sub_self,
          List.getD_cons_zero]
      · obtain ⟨k, rfl⟩ : ∃ k, p = n + 1 + k := ⟨p - (n + 1), by omega⟩
        rw [if_neg (by omega), if_neg hlt, Function.update_of_ne heq, Nat.add_sub_cancel_left,
          Nat.add_assoc, Nat.add_sub_cancel_left, Nat.add_comm 1 k, List.getD_cons_succ]

theorem storeAll_zero (dst : Memory) (bytes : Bytes) : storeAll dst 0 bytes = written bytes dst := by
  funext p
  rw [storeAll_apply, if_neg (Nat.not_lt_zero p), Nat.sub_zero]
  rfl

/-- The bytes that are written are known from their number and the memory. -/
theorem written_inj {v w : Bytes} :
    (v.length, written v dst) = (w.length, written w dst) ↔ v = w := by
  constructor
  · intro h
    obtain ⟨hlen, hdst⟩ := Prod.ext_iff.1 h
    refine List.ext_getElem hlen fun p hv hw => ?_
    have hp := congrFun hdst p
    change v.getD p (dst p) = w.getD p (dst p) at hp
    rwa [List.getD_eq_getElem _ _ hv, List.getD_eq_getElem _ _ hw] at hp
  · rintro rfl
    rfl

/-! ## The loop -/

theorem toNat_tmpAt (src : Memory) (i : Nat) : (tmpAt src i).toNat =
    (src i).toNat * 65536 + (src (i + 1)).toNat * 256 + (src (i + 2)).toNat := by
  have ha := (src i).toNat_lt
  have hb := (src (i + 1)).toNat_lt
  have hc := (src (i + 2)).toNat_lt
  have hhigh : ((src i).toBitVec.setWidth 32 <<< 16).toNat = (src i).toNat * 2 ^ 16 := by
    rw [BitVec.toNat_shiftLeft, BitVec.toNat_setWidth, Nat.shiftLeft_eq]
    show (src i).toNat % 2 ^ 32 * 2 ^ 16 % 2 ^ 32 = _
    omega
  have hmiddle : ((src (i + 1)).toBitVec.setWidth 32 <<< 8).toNat = (src (i + 1)).toNat * 2 ^ 8 := by
    rw [BitVec.toNat_shiftLeft, BitVec.toNat_setWidth, Nat.shiftLeft_eq]
    show (src (i + 1)).toNat % 2 ^ 32 * 2 ^ 8 % 2 ^ 32 = _
    omega
  have hlow : ((src (i + 2)).toBitVec.setWidth 32).toNat = (src (i + 2)).toNat := by
    rw [BitVec.toNat_setWidth]
    show (src (i + 2)).toNat % 2 ^ 32 = _
    omega
  rw [tmpAt, BitVec.toNat_or, BitVec.toNat_or, hhigh, hmiddle, hlow, or_eq_add (by omega),
    show (src i).toNat * 2 ^ 16 + (src (i + 1)).toNat * 2 ^ 8 =
      ((src i).toNat * 2 ^ 8 + (src (i + 1)).toNat) * 2 ^ 8 by omega, or_eq_add (by omega)]
  omega

theorem tmpAt_eq : tmpAt src i = 0x03 ↔ src i = 0 ∧ src (i + 1) = 0 ∧ src (i + 2) = 3 := by
  have ha := (src i).toNat_lt
  have hb := (src (i + 1)).toNat_lt
  have hc := (src (i + 2)).toNat_lt
  rw [← BitVec.toNat_inj, toNat_tmpAt, ← UInt8.toNat_inj, ← UInt8.toNat_inj, ← UInt8.toNat_inj]
  show _ = 3 ↔ _ = 0 ∧ _ = 0 ∧ _ = 3
  omega

/-- The bytes that the loop looks at. -/
theorem drop_three (h : i + 2 < bytes.length) : bytes.drop i = memory bytes i ::
    memory bytes (i + 1) :: memory bytes (i + 2) :: bytes.drop (i + 3) := by
  have hget (j : Nat) (hj : j < bytes.length) : bytes.drop j = memory bytes j :: bytes.drop (j + 1) := by
    rw [List.drop_eq_getElem_cons hj, memory, List.getD_eq_getElem _ _ hj]
  rw [hget i (by omega), hget (i + 1) (by omega), hget (i + 2) h]

/-- The position in `dst` and what it points to, with what is removed of the rest behind it. -/
def Copying.finish (bytes : Bytes) (s : Copying) : Nat × Memory :=
  (s.rbspPos + (remove0x03 (bytes.drop s.i)).length,
    storeAll s.dst s.rbspPos (remove0x03 (bytes.drop s.i)))

/-- A turn writes what is removed of its bytes. -/
theorem finish_copyStep {s : Copying} (h : s.i + 2 < bytes.length) :
    (copyStep (memory bytes) s).finish bytes = s.finish bytes := by
  have hrest := drop_three h
  by_cases htmp : tmpAt (memory bytes) s.i = 0x03
  · rw [copyStep, if_pos htmp, Copying.finish, Copying.finish, hrest, remove0x03,
      if_pos (tmpAt_eq.1 htmp)]
    refine Prod.ext ?_ rfl
    rw [List.length_cons, List.length_cons]
    exact Nat.add_right_comm _ 2 _
  · have hnext : bytes.drop (s.i + 1) = memory bytes (s.i + 1) :: memory bytes (s.i + 2) ::
        bytes.drop (s.i + 3) := by
      rw [← List.drop_drop, hrest]
      rfl
    rw [copyStep, if_neg htmp, Copying.finish, Copying.finish, hrest, remove0x03,
      if_neg (mt tmpAt_eq.2 htmp), hnext]
    refine Prod.ext ?_ rfl
    rw [List.length_cons]
    exact Nat.add_right_comm _ 1 _

/-- From any turn on, the loop writes what is removed of the rest. -/
theorem finish_copyLoop (bytes : Bytes) (s : Copying) :
    ((copyLoop (memory bytes) bytes.length s).rbspPos,
      (copyLoop (memory bytes) bytes.length s).dst) = s.finish bytes := by
  fun_induction copyLoop (memory bytes) bytes.length s with
  | case1 s hlt ih => rw [ih, finish_copyStep (by omega)]
  | case2 s hge =>
    rw [Copying.finish, Checked.remove0x03_short (by rw [List.length_drop]; omega)]
    rfl

/-- `remove_0x03` writes the bytes of `remove0x03` and returns their number. -/
theorem remove0x03To_eq (bytes : Bytes) (dst : Memory) :
    remove0x03To (memory bytes) dst bytes.length =
      ((remove0x03 bytes).length, written (remove0x03 bytes) dst) := by
  rw [remove0x03To, finish_copyLoop, Copying.finish, List.drop_zero, storeAll_zero, Nat.zero_add]

/-! ## The end of the source -/

/-- The last bytes are copied if there are none, or if they are an escape. -/
theorem remove0x03_eq_rbsp (bytes : Bytes) :
    remove0x03 bytes = rbsp bytes ↔ bytes = [] ∨ [0, 0, 3] <:+ bytes := by
  fun_induction rbsp bytes with
  | case1 a b c bytes h ih =>
    obtain ⟨rfl, rfl, rfl⟩ := h
    rw [remove0x03, if_pos ⟨rfl, rfl, rfl⟩, List.cons_inj_right, List.cons_inj_right, ih]
    simp [List.suffix_cons_iff]
  | case2 a b c bytes h ih =>
    have hne : [0, 0, 3] ≠ a :: b :: c :: bytes := by
      intro heq
      cases heq
      exact h ⟨rfl, rfl, rfl⟩
    rw [remove0x03, if_neg h, List.cons_inj_right, ih, List.suffix_cons_iff (a := a)]
    simp [hne]
  | case3 bytes hshort =>
    obtain rfl | ⟨a, rfl⟩ | ⟨a, b, rfl⟩ := short_cases hshort
    · simp [remove0x03]
    · simp [remove0x03, List.suffix_cons_iff]
    · simp [remove0x03, List.suffix_cons_iff]

/-! ## Round trip -/

theorem preventEmulation_cons (a : UInt8) (q : Bytes) :
    ∃ t, preventEmulation (a :: q) = a :: t := by
  match q with
  | [] => exact ⟨[], rfl⟩
  | [b] => exact ⟨[b], rfl⟩
  | b :: c :: q =>
    rw [preventEmulation]
    split
    · exact ⟨_, rfl⟩
    · exact ⟨_, rfl⟩

theorem preventEmulation_cons_cons (a b : UInt8) (q : Bytes) :
    ∃ t, preventEmulation (a :: b :: q) = a :: b :: t := by
  match q with
  | [] => exact ⟨[], rfl⟩
  | c :: q =>
    rw [preventEmulation]
    split
    · exact ⟨_, rfl⟩
    · obtain ⟨t, ht⟩ := preventEmulation_cons b (c :: q)
      exact ⟨t, by rw [ht]⟩

/-- What is inserted has a byte behind it, so that there is no escape at the end. -/
theorem not_suffix_preventEmulation (bytes : Bytes) : ¬ [0, 0, 3] <:+ preventEmulation bytes := by
  fun_induction preventEmulation bytes with
  | case1 a b c bytes h ih =>
    obtain ⟨t, ht⟩ := preventEmulation_cons c bytes
    rw [ht] at ih ⊢
    intro hsuffix
    rw [List.suffix_cons_iff, List.suffix_cons_iff, List.suffix_cons_iff] at hsuffix
    obtain heq | heq | heq | hsuffix := hsuffix
    · cases heq
    · cases heq
    · cases heq
    · exact ih hsuffix
  | case2 a b c bytes h ih =>
    obtain ⟨t, ht⟩ := preventEmulation_cons_cons b c bytes
    rw [List.suffix_cons_iff]
    rintro (heq | hsuffix)
    · rw [ht] at heq
      cases heq
      exact h ⟨rfl, rfl, by decide⟩
    · exact ih hsuffix
  | case3 bytes hshort =>
    obtain rfl | ⟨a, rfl⟩ | ⟨a, b, rfl⟩ := short_cases hshort
    · simp
    · simp [List.suffix_cons_iff]
    · simp [List.suffix_cons_iff]

variable {last : UInt8}

theorem rbsp_cons_ne (h : last ≠ 0) (w : Bytes) : rbsp (last :: w) = last :: rbsp w := by
  match w with
  | [] => rfl
  | [b] => rfl
  | b :: c :: w => rw [rbsp, if_neg fun hc => h hc.1]

theorem rbsp_cons_cons_ne (a : UInt8) (h : last ≠ 0) (w : Bytes) :
    rbsp (a :: last :: w) = a :: last :: rbsp w := by
  match w with
  | [] => rfl
  | c :: w => rw [rbsp, if_neg fun hc => h hc.2.1, rbsp_cons_ne h]

/-- What is inserted up to a byte that is not zero is removed again, whatever follows. -/
theorem rbsp_preventEmulation (h : last ≠ 0) (x w : Bytes) :
    rbsp (preventEmulation (x ++ [last]) ++ w) = x ++ last :: rbsp w := by
  induction x using preventEmulation.induct with
  | case1 a b c x hc ih =>
    obtain ⟨rfl, rfl, hc⟩ := hc
    rw [List.cons_append, List.cons_append, List.cons_append, preventEmulation,
      if_pos ⟨rfl, rfl, hc⟩]
    show rbsp (0 :: 0 :: 3 :: (preventEmulation (c :: x ++ [last]) ++ w)) = _
    rw [rbsp, if_pos ⟨rfl, rfl, rfl⟩, ih]
    rfl
  | case2 a b c x hc ih =>
    obtain ⟨t, ht⟩ := preventEmulation_cons_cons b c (x ++ [last])
    have hne : ¬ (a = 0 ∧ b = 0 ∧ c = 3) := by
      rintro ⟨rfl, rfl, rfl⟩
      exact hc ⟨rfl, rfl, by decide⟩
    rw [List.cons_append, List.cons_append, ht] at ih
    rw [List.cons_append, List.cons_append, List.cons_append, preventEmulation, if_neg hc, ht]
    show rbsp (a :: b :: c :: (t ++ w)) = _
    rw [rbsp, if_neg hne]
    exact congrArg (a :: ·) ih
  | case3 x hshort =>
    obtain rfl | ⟨a, rfl⟩ | ⟨a, b, rfl⟩ := short_cases hshort
    · exact rbsp_cons_ne h w
    · exact rbsp_cons_cons_ne a h w
    · show rbsp (preventEmulation [a, b, last] ++ w) = a :: b :: last :: rbsp w
      rw [preventEmulation]
      split
      · rename_i hc
        show rbsp (a :: b :: 3 :: last :: w) = _
        rw [rbsp, if_pos ⟨hc.1, hc.2.1, rfl⟩, rbsp_cons_ne h]
      · rename_i hc
        have hne : ¬ (a = 0 ∧ b = 0 ∧ last = 3) := by
          rintro ⟨rfl, rfl, rfl⟩
          exact hc ⟨rfl, rfl, by decide⟩
        show rbsp (a :: b :: last :: w) = _
        rw [rbsp, if_neg hne, rbsp_cons_cons_ne b h]

/-- What is inserted behind a byte that is not zero does not depend on what is before. -/
theorem preventEmulation_append (h : last ≠ 0) (x w : Bytes) :
    preventEmulation (x ++ last :: w) = preventEmulation (x ++ [last]) ++ preventEmulation w := by
  have hcons (w : Bytes) : preventEmulation (last :: w) = last :: preventEmulation w := by
    match w with
    | [] => rfl
    | [b] => rfl
    | b :: c :: w => rw [preventEmulation, if_neg fun hc => h hc.1]
  have hcons_cons (a : UInt8) (w : Bytes) :
      preventEmulation (a :: last :: w) = a :: last :: preventEmulation w := by
    match w with
    | [] => rfl
    | c :: w => rw [preventEmulation, if_neg fun hc => h hc.2.1, hcons]
  induction x using preventEmulation.induct with
  | case1 a b c x hc ih =>
    simp only [List.cons_append] at ih ⊢
    rw [preventEmulation, preventEmulation, if_pos hc, if_pos hc, ih]
    rfl
  | case2 a b c x hc ih =>
    simp only [List.cons_append] at ih ⊢
    rw [preventEmulation, preventEmulation, if_neg hc, if_neg hc, ih]
    rfl
  | case3 x hshort =>
    obtain rfl | ⟨a, rfl⟩ | ⟨a, b, rfl⟩ := short_cases hshort
    · exact hcons w
    · exact hcons_cons a w
    · show preventEmulation (a :: b :: last :: w) = preventEmulation [a, b, last] ++ _
      rw [preventEmulation, preventEmulation]
      split
      · rw [hcons]
        rfl
      · rw [hcons_cons]
        rfl

/-- In zeros there is a byte behind each word, apart from the last one. -/
theorem preventEmulation_zeroWords (n : Nat) :
    preventEmulation (zeroWords (n + 1)) ++ [3] = (List.replicate (n + 1) [0, 0, 3]).flatten := by
  induction n with
  | zero => rfl
  | succ n ih =>
    rw [List.replicate_succ, List.flatten_cons, ← ih]
    rfl

theorem rbsp_replicate (n : Nat) :
    rbsp (List.replicate n [0, 0, 3]).flatten = zeroWords n := by
  induction n with
  | zero => rfl
  | succ n ih =>
    rw [List.replicate_succ, List.flatten_cons, zeroWords, ← ih]
    rfl

theorem zeroWords_succ (n : Nat) : zeroWords (n + 1) = zeroWords n ++ [0, 0] := by
  induction n with
  | zero => rfl
  | succ n ih => exact congrArg (fun w => 0 :: 0 :: w) ih

namespace Rbsp

variable {front : Bytes} {stop : last ≠ 0} {n : Nat}

theorem encoded_data : (data front last stop 0).encoded = preventEmulation (front ++ [last]) := by
  have hlast : (front ++ [last]).getLast? ≠ some 0 := by
    rw [List.getLast?_concat]
    exact fun h => stop (Option.some.inj h)
  rw [encoded, bytes, zeroWords, if_neg hlast, List.append_nil]

theorem encoded_zeroWords : (data front last stop (n + 1)).encoded =
    preventEmulation (front ++ [last]) ++ (List.replicate (n + 1) [0, 0, 3]).flatten := by
  have hlast : (data front last stop (n + 1)).bytes.getLast? = some 0 := by
    have hend : (data front last stop (n + 1)).bytes = (front ++ last :: zeroWords n ++ [0]) ++ [0] := by
      rw [bytes, zeroWords_succ]
      simp
    rw [hend, List.getLast?_concat]
  rw [encoded, if_pos hlast, bytes, preventEmulation_append stop, List.append_assoc,
    preventEmulation_zeroWords]

/-- What is inserted into a payload is removed again. -/
theorem rbsp_encoded (r : Rbsp) : rbsp r.encoded = r.bytes := by
  cases r with
  | empty => rfl
  | data front last stop words =>
    cases words with
    | zero =>
      rw [encoded_data, ← List.append_nil (preventEmulation _), rbsp_preventEmulation stop]
      rfl
    | succ n => rw [encoded_zeroWords, rbsp_preventEmulation stop, rbsp_replicate, bytes]

/-- There is an escape at the end if there are zeros at the end of the payload. -/
theorem encoded_end (r : Rbsp) :
    (r.encoded = [] ∨ [0, 0, 3] <:+ r.encoded) ↔ (r.bytes = [] ∨ [0, 0] <:+ r.bytes) := by
  cases r with
  | empty => exact iff_of_true (.inl rfl) (.inl rfl)
  | data front last stop words =>
    cases words with
    | zero =>
      refine iff_of_false ?_ ?_
      · rw [encoded_data]
        rintro (hnil | hsuffix)
        · have hround := rbsp_preventEmulation stop front []
          rw [hnil] at hround
          simp [rbsp] at hround
        · exact not_suffix_preventEmulation _ hsuffix
      · rw [bytes, zeroWords]
        rintro (hnil | ⟨t, ht⟩)
        · simp at hnil
        · have hlast := congrArg List.getLast? ht
          rw [List.append_cons, List.getLast?_concat, List.getLast?_concat] at hlast
          exact stop (Option.some.inj hlast).symm
    | succ n =>
      refine iff_of_true (.inr ?_) (.inr ?_)
      · rw [encoded_zeroWords, List.replicate_succ', List.flatten_concat, ← List.append_assoc]
        exact List.suffix_append ..
      · rw [bytes, zeroWords_succ]
        exact ⟨front ++ last :: zeroWords n, by simp⟩

end Rbsp

/-! ## What is copied -/

/-- `remove_0x03` writes the bytes `out` to `dst`, nothing else, and returns their number. -/
def Copies (bytes out : Bytes) (dst : Memory) : Prop :=
  remove0x03To (memory bytes) dst bytes.length = (out.length, written out dst)

theorem copies_iff {out : Bytes} : Copies bytes out dst ↔ remove0x03 bytes = out := by
  rw [Copies, remove0x03To_eq, written_inj]

/-- All bytes but the third one of each escape are copied if and only if the source is empty or ends
with an escape, and a payload comes back if and only if it is empty or ends with a word of zeros. -/
theorem remove0x03To_iff (bytes : Bytes) (r : Rbsp) (dst : Memory) :
    (Copies bytes (rbsp bytes) dst ↔ bytes = [] ∨ [0, 0, 3] <:+ bytes) ∧
      (Copies r.encoded r.bytes dst ↔ r.bytes = [] ∨ [0, 0] <:+ r.bytes) := by
  refine ⟨copies_iff.trans (remove0x03_eq_rbsp bytes), ?_⟩
  rw [copies_iff, ← r.rbsp_encoded, remove0x03_eq_rbsp, r.rbsp_encoded]
  exact r.encoded_end

/-- Of three bytes one is copied. -/
theorem plain_not_copied :
    ¬ Copies [0x42, 0x00, 0x1e] (rbsp [0x42, 0x00, 0x1e]) fun _ => 0 := by
  rw [copies_iff]
  decide

end StreamSwitch.DecSps
