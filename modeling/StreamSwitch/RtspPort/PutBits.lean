import StreamSwitch.Lib.BitFields

/-!
# The bit writer

`media/parser/put_bits.h`. Bits are gathered in a word, and a word that is full is stored in the buffer,
behind an assertion that it fits; what is left of a word at the end is stored byte by byte, and no
assertion is there. `writeCalls_eq` says what comes of any calls.
-/

namespace StreamSwitch

namespace PutBits

open Bits

abbrev Bytes := List UInt8

/-- An assertion fails, or a byte is stored behind the buffer. -/
inductive Fault | assertion | outOfBuffer
deriving DecidableEq, Repr

/-- `bufPtr` is an offset in the buffer, and `buf_end` the end of it. -/
structure PutBitContext where
  bitBuf : Nat
  bitLeft : Nat
  buf : Bytes
  bufPtr : Nat
deriving DecidableEq, Repr

def initPutBits (buffer : Bytes) : PutBitContext := ⟨0, 32, buffer, 0⟩

/-- `AV_WB32`. -/
def avWb32 (d : Nat) : Bytes :=
  [UInt8.ofNat (d / 2 ^ 24), UInt8.ofNat (d / 2 ^ 16), UInt8.ofNat (d / 2 ^ 8), UInt8.ofNat d]

/-- Bytes in the place of those at an offset. -/
def store (buf : Bytes) (ptr : Nat) (bytes : Bytes) : Bytes :=
  buf.take ptr ++ bytes ++ buf.drop (ptr + bytes.length)

def putBits (s : PutBitContext) (n value : Nat) : Except Fault PutBitContext :=
  if ¬(n ≤ 31 ∧ value < 2 ^ n) then .error .assertion
  else if n < s.bitLeft then
    .ok { s with
      bitBuf := s.bitBuf * 2 ^ n % 2 ^ 32 ||| value
      bitLeft := s.bitLeft - n }
  else if s.bufPtr + 3 < s.buf.length then
    let word := s.bitBuf * 2 ^ s.bitLeft % 2 ^ 32 ||| value / 2 ^ (n - s.bitLeft)
    .ok {
      bitBuf := value
      bitLeft := s.bitLeft + (32 - n)
      buf := store s.buf s.bufPtr (avWb32 word)
      bufPtr := s.bufPtr + 4 }
  else .error .assertion

def putBits32 (s : PutBitContext) (value : UInt32) : Except Fault PutBitContext := do
  let lo := value.toNat % 2 ^ 16
  let hi := value.toNat / 2 ^ 16
  let s ← putBits s 16 hi
  putBits s 16 lo

/-- The loop of `flush_put_bits`. -/
def flushLoop (s : PutBitContext) : Except Fault PutBitContext :=
  if s.bitLeft < 32 then
    if s.bufPtr < s.buf.length then
      flushLoop {
        bitBuf := s.bitBuf * 2 ^ 8 % 2 ^ 32
        bitLeft := s.bitLeft + 8
        buf := store s.buf s.bufPtr [UInt8.ofNat (s.bitBuf / 2 ^ 24)]
        bufPtr := s.bufPtr + 1 }
    else .error .outOfBuffer
  else .ok { s with bitBuf := 0, bitLeft := 32 }
termination_by 32 - s.bitLeft

def flushPutBits (s : PutBitContext) : Except Fault PutBitContext :=
  flushLoop (if s.bitLeft < 32 then { s with bitBuf := s.bitBuf * 2 ^ s.bitLeft % 2 ^ 32 } else s)

/-! ## Calls -/

/-- A call between `init_put_bits` and `flush_put_bits`. -/
inductive Call
  | bits (n value : Nat)
  | bits32 (value : UInt32)
deriving DecidableEq, Repr

namespace Call

def run (s : PutBitContext) : Call → Except Fault PutBitContext
  | .bits n value => putBits s n value
  | .bits32 value => putBits32 s value

def field : Call → Field
  | .bits n value => (n, value)
  | .bits32 value => (32, value.toNat)

/-- What the assertion at the start of `put_bits` asks for. -/
def Fits : Call → Prop
  | .bits n value => n ≤ 31 ∧ value < 2 ^ n
  | .bits32 _ => True

instance (c : Call) : Decidable c.Fits :=
  match c with
  | .bits n value => inferInstanceAs (Decidable (n ≤ 31 ∧ value < 2 ^ n))
  | .bits32 _ => inferInstanceAs (Decidable True)

end Call

/-- The bits that the calls put. -/
def callBits (cs : List Call) : List Bool := fieldBits (cs.map Call.field)

/-- Calls on a buffer: what is in it then, and the offset behind the bits. -/
def writeCalls (buffer : Bytes) (cs : List Call) : Except Fault (Bytes × Nat) := do
  let s ← cs.foldlM Call.run (initPutBits buffer)
  let s ← flushPutBits s
  return (s.buf, s.bufPtr)

/-! ## Words -/

theorem ofNat_toNat_mod (n : Nat) : UInt8.ofNat (n % 2 ^ 8) = UInt8.ofNat n := by
  rw [← UInt8.toNat_inj, UInt8.toNat_ofNat', UInt8.toNat_ofNat', Nat.mod_mod]

/-- A word is stored as its bits. -/
theorem pack_word {xs : List Bool} (h : xs.length = 32) : pack xs = avWb32 (value xs) := by
  have hbits : xs = ofNat 8 (value xs / 2 ^ 24) ++ (ofNat 8 (value xs / 2 ^ 16) ++
      (ofNat 8 (value xs / 2 ^ 8) ++ (ofNat 8 (value xs) ++ []))) := by
    have hall := ofNat_value xs
    rw [h] at hall
    have h24 : ofNat 32 (value xs) = ofNat 8 (value xs / 2 ^ 24) ++ ofNat 24 (value xs) :=
      ofNat_add 8 24 _
    have h16 : ofNat 24 (value xs) = ofNat 8 (value xs / 2 ^ 16) ++ ofNat 16 (value xs) :=
      ofNat_add 8 16 _
    have h8 : ofNat 16 (value xs) = ofNat 8 (value xs / 2 ^ 8) ++ ofNat 8 (value xs) :=
      ofNat_add 8 8 _
    rw [List.append_nil, ← h8, ← h16, ← h24, hall]
  have hpack : pack [] = [] := by rw [pack]
  conv_lhs => rw [hbits]
  rw [pack_byte (length_ofNat ..), pack_byte (length_ofNat ..), pack_byte (length_ofNat ..),
    pack_byte (length_ofNat ..), hpack]
  simp only [value_ofNat, ofNat_toNat_mod]
  rfl

/-- What is stored behind the bytes that are there already. -/
theorem store_append (done rest bytes : Bytes) :
    store (done ++ rest) done.length bytes = done ++ bytes ++ rest.drop bytes.length := by
  rw [store, List.take_left, ← List.drop_drop, List.drop_left]

/-! ## What the writer stands for -/

/-- Words that are stored, and bits that wait for the rest of theirs. -/
structure Rep (buffer : Bytes) (whole pending : List Bool) (s : PutBitContext) : Prop where
  aligned : 32 ∣ whole.length
  left : pending.length + s.bitLeft = 32
  pos : 0 < s.bitLeft
  word : value pending = s.bitBuf % 2 ^ pending.length
  buf : s.buf = pack whole ++ buffer.drop s.bufPtr
  ptr : s.bufPtr = (pack whole).length
  room : s.bufPtr ≤ buffer.length

/-- The bits that were put into the buffer. -/
def Holds (buffer : Bytes) (bits : List Bool) (s : PutBitContext) : Prop :=
  ∃ whole pending, bits = whole ++ pending ∧ Rep buffer whole pending s

theorem holds_init (buffer : Bytes) : Holds buffer [] (initPutBits buffer) := by
  have hpack : pack [] = [] := by rw [pack]
  refine ⟨[], [], rfl, ⟨Nat.dvd_zero 32, rfl, Nat.zero_lt_succ 31, ?_, ?_, ?_, Nat.zero_le _⟩⟩
  · exact (Nat.mod_one _).symm
  · rw [hpack]
    rfl
  · rw [hpack]
    rfl

variable {buffer : Bytes} {bits whole pending : List Bool} {s : PutBitContext}

theorem Rep.bytes (h : Rep buffer whole pending s) : 8 * s.bufPtr = whole.length := by
  rw [h.ptr, length_pack (Nat.dvd_trans (by decide) h.aligned)]
  exact Nat.mul_div_cancel' (Nat.dvd_trans (by decide) h.aligned)

theorem Rep.length_buf (h : Rep buffer whole pending s) : s.buf.length = buffer.length := by
  have hroom := h.room
  rw [h.buf, List.length_append, List.length_drop, ← h.ptr]
  omega

/-- Bits behind others in a word. -/
theorem mul_two_pow_mod_or {x v n k : Nat} (hv : v < 2 ^ n) (hk : k + n ≤ 32) :
    (x * 2 ^ n % 2 ^ 32 ||| v) % 2 ^ (k + n) = x % 2 ^ k * 2 ^ n + v := by
  have hsplit : 2 ^ 32 = 2 ^ (32 - n) * 2 ^ n := by
    rw [← Nat.pow_add, Nat.sub_add_cancel (by omega)]
  have hor : x * 2 ^ n % 2 ^ 32 ||| v = x % 2 ^ (32 - n) * 2 ^ n + v := by
    rw [hsplit, Nat.mul_mod_mul_right, Nat.mul_comm, ← Nat.two_pow_add_eq_or_of_lt hv]
  have hdvd : 2 ^ k ∣ 2 ^ (32 - n) := Nat.pow_dvd_pow 2 (by omega)
  have hlow : x % 2 ^ (32 - n) % 2 ^ k = x % 2 ^ k := Nat.mod_mod_of_dvd x hdvd
  have hlt : x % 2 ^ k * 2 ^ n + v < 2 ^ (k + n) := by
    have hk : x % 2 ^ k + 1 ≤ 2 ^ k := Nat.mod_lt _ (Nat.two_pow_pos k)
    have hmul := Nat.mul_le_mul_right (2 ^ n) hk
    rw [Nat.pow_add]
    rw [Nat.add_mul, Nat.one_mul] at hmul
    omega
  have hdiv := Nat.div_add_mod (x % 2 ^ (32 - n)) (2 ^ k)
  rw [hlow] at hdiv
  rw [hor, ← hdiv, Nat.add_mul, Nat.add_assoc, Nat.mul_right_comm, ← Nat.pow_add,
    Nat.mul_add_mod, Nat.mod_eq_of_lt hlt]

/-- Bits that do not fill the word. -/
theorem Rep.putBits_lt (h : Rep buffer whole pending s) {n v : Nat} (hn : n ≤ 31) (hv : v < 2 ^ n)
    (hlt : n < s.bitLeft) :
    ∃ s', putBits s n v = .ok s' ∧ Rep buffer whole (pending ++ ofNat n v) s' := by
  have hleft := h.left
  refine ⟨_, (if_neg (not_not.2 ⟨hn, hv⟩)).trans (if_pos hlt), h.aligned, ?_, ?_, ?_, h.buf, h.ptr,
    h.room⟩
  · show _ + (s.bitLeft - n) = 32
    rw [List.length_append, length_ofNat]
    omega
  · exact Nat.sub_pos_of_lt hlt
  · rw [List.length_append, length_ofNat, mul_two_pow_mod_or hv (by omega), value_append, length_ofNat,
      value_ofNat, Nat.mod_eq_of_lt hv, h.word]

/-- A word is full: the bits that are in it, and those that wait then. -/
theorem Rep.putBits_ge (h : Rep buffer whole pending s) {n v : Nat} (hn : n ≤ 31) (hv : v < 2 ^ n)
    (hge : s.bitLeft ≤ n) (hroom : s.bufPtr + 4 ≤ buffer.length) :
    ∃ s', putBits s n v = .ok s' ∧
      Rep buffer (whole ++ (pending ++ ofNat s.bitLeft (v / 2 ^ (n - s.bitLeft))))
        (ofNat (n - s.bitLeft) v) s' := by
  have hleft := h.left
  have hhigh : v / 2 ^ (n - s.bitLeft) < 2 ^ s.bitLeft := by
    rw [Nat.div_lt_iff_lt_mul (Nat.two_pow_pos _), ← Nat.pow_add]
    rwa [Nat.add_sub_cancel' hge]
  have hlen : (pending ++ ofNat s.bitLeft (v / 2 ^ (n - s.bitLeft))).length = 32 := by
    rw [List.length_append, length_ofNat, hleft]
  have hword : s.bitBuf * 2 ^ s.bitLeft % 2 ^ 32 ||| v / 2 ^ (n - s.bitLeft) =
      value (pending ++ ofNat s.bitLeft (v / 2 ^ (n - s.bitLeft))) := by
    have hor : s.bitBuf * 2 ^ s.bitLeft % 2 ^ 32 ||| v / 2 ^ (n - s.bitLeft) < 2 ^ 32 :=
      Nat.or_lt_two_pow (Nat.mod_lt _ (by decide))
        (Nat.lt_of_lt_of_le hhigh (Nat.pow_le_pow_right (by decide) (by omega)))
    have hmod := mul_two_pow_mod_or (x := s.bitBuf) hhigh (k := pending.length) (by omega)
    rw [hleft, Nat.mod_eq_of_lt hor] at hmod
    rw [hmod, value_append, length_ofNat, value_ofNat, Nat.mod_eq_of_lt hhigh, h.word]
  have hlast : ¬n < s.bitLeft := Nat.not_lt.2 hge
  have hfits : s.bufPtr + 3 < s.buf.length := by
    rw [h.length_buf]
    omega
  have haligned := Nat.dvd_trans (by decide : 8 ∣ 32) h.aligned
  have hpack : pack (whole ++ (pending ++ ofNat s.bitLeft (v / 2 ^ (n - s.bitLeft)))) =
      pack whole ++ avWb32 (value (pending ++ ofNat s.bitLeft (v / 2 ^ (n - s.bitLeft)))) := by
    rw [pack_append haligned, pack_word hlen]
  refine ⟨_, (if_neg (not_not.2 ⟨hn, hv⟩)).trans ((if_neg hlast).trans (if_pos hfits)), ?_, ?_, ?_, ?_,
    ?_, ?_, hroom⟩
  · rw [List.length_append, hlen]
    exact Nat.dvd_add h.aligned (Nat.dvd_refl 32)
  · show _ + (s.bitLeft + (32 - n)) = 32
    rw [length_ofNat]
    omega
  · exact Nat.add_pos_left h.pos _
  · rw [value_ofNat, length_ofNat]
  · show store s.buf s.bufPtr _ = _ ++ buffer.drop (s.bufPtr + 4)
    rw [h.buf, hword, hpack, ← List.drop_drop]
    conv_lhs => rw [h.ptr]
    rw [store_append, ← h.ptr]
    rfl
  · rw [hpack, List.length_append, ← h.ptr]
    rfl

/-- The assertion of a full word. -/
theorem Rep.putBits_assertion (h : Rep buffer whole pending s) {n v : Nat}
    (hge : s.bitLeft ≤ n) (hroom : ¬s.bufPtr + 4 ≤ buffer.length) :
    putBits s n v = .error .assertion := by
  have hfull : ¬s.bufPtr + 3 < s.buf.length := by
    rw [h.length_buf]
    omega
  unfold putBits
  split
  · rfl
  · exact if_neg (Nat.not_lt.2 hge)

/-! ## Calls -/

/-- What becomes of bits that are put behind others: they are in the buffer, unless a word is full
that does not fit. -/
def Puts (buffer : Bytes) (bits : List Bool) : Except Fault PutBitContext → Prop
  | .ok s => 4 * (bits.length / 32) ≤ buffer.length ∧ Holds buffer bits s
  | .error fault => fault = .assertion ∧ buffer.length < 4 * (bits.length / 32)

theorem Holds.putBits (h : Holds buffer bits s) {n v : Nat} (hn : n ≤ 31) (hv : v < 2 ^ n) :
    Puts buffer (bits ++ ofNat n v) (PutBits.putBits s n v) := by
  obtain ⟨whole, pending, rfl, hrep⟩ := h
  have hleft := hrep.left
  have hbytes := hrep.bytes
  have haligned := hrep.aligned
  have hpos := hrep.pos
  have hlength : (whole ++ pending ++ ofNat n v).length / 32 =
      whole.length / 32 + (pending.length + n) / 32 := by
    rw [List.length_append, List.length_append, length_ofNat]
    omega
  by_cases hlt : n < s.bitLeft
  · obtain ⟨s', hput, hrep'⟩ := hrep.putBits_lt hn hv hlt
    have hroom := hrep.room
    rw [hput]
    refine ⟨?_, whole, _, List.append_assoc .., hrep'⟩
    rw [hlength]
    omega
  have hge := Nat.not_lt.1 hlt
  by_cases hroom : s.bufPtr + 4 ≤ buffer.length
  · obtain ⟨s', hput, hrep'⟩ := hrep.putBits_ge hn hv hge hroom
    rw [hput]
    refine ⟨?_, _, _, ?_, hrep'⟩
    · rw [hlength]
      omega
    · have hsplit := ofNat_add s.bitLeft (n - s.bitLeft) v
      rw [Nat.add_sub_cancel' hge] at hsplit
      rw [hsplit]
      simp only [List.append_assoc]
  · rw [hrep.putBits_assertion hge hroom]
    refine ⟨rfl, ?_⟩
    rw [hlength]
    omega

theorem Holds.call (h : Holds buffer bits s) {c : Call} (hc : c.Fits) :
    Puts buffer (bits ++ ofNat c.field.1 c.field.2) (c.run s) := by
  cases c with
  | bits n value => exact h.putBits hc.1 hc.2
  | bits32 value =>
    have hhi : value.toNat / 2 ^ 16 < 2 ^ 16 := Nat.div_lt_of_lt_mul value.toNat_lt
    have hlo : value.toNat % 2 ^ 16 < 2 ^ 16 := Nat.mod_lt _ (by decide)
    have hbits : ofNat 32 value.toNat =
        ofNat 16 (value.toNat / 2 ^ 16) ++ ofNat 16 (value.toNat % 2 ^ 16) := by
      rw [ofNat_mod]
      exact ofNat_add 16 16 value.toNat
    have hfirst := h.putBits (by decide) hhi
    show Puts buffer (bits ++ ofNat 32 value.toNat)
      ((PutBits.putBits s 16 (value.toNat / 2 ^ 16)).bind fun s =>
        PutBits.putBits s 16 (value.toNat % 2 ^ 16))
    rw [hbits, ← List.append_assoc]
    cases hput : PutBits.putBits s 16 (value.toNat / 2 ^ 16) with
    | ok s' =>
      rw [hput] at hfirst
      exact hfirst.2.putBits (by decide) hlo
    | error fault =>
      rw [hput] at hfirst
      refine ⟨hfirst.1, Nat.lt_of_lt_of_le hfirst.2 (Nat.mul_le_mul_left 4 ?_)⟩
      exact Nat.div_le_div_right (List.prefix_append ..).length_le

theorem run_of_not_fits (s : PutBitContext) {c : Call} (hc : ¬c.Fits) :
    c.run s = .error .assertion := by
  cases c with
  | bits n value => exact if_pos hc
  | bits32 value => exact absurd trivial hc

theorem callBits_cons (c : Call) (cs : List Call) :
    callBits (c :: cs) = ofNat c.field.1 c.field.2 ++ callBits cs := by
  rw [callBits, List.map_cons, fieldBits, List.flatMap_cons]
  rfl

theorem Holds.calls (h : Holds buffer bits s) (hroom : 4 * (bits.length / 32) ≤ buffer.length)
    {cs : List Call} (hcs : ∀ c ∈ cs, c.Fits) :
    Puts buffer (bits ++ callBits cs) (cs.foldlM Call.run s) := by
  induction cs generalizing bits s with
  | nil =>
    rw [callBits, List.map_nil, fieldBits, List.flatMap_nil, List.append_nil]
    exact ⟨hroom, h⟩
  | cons c cs ih =>
    have hstep := h.call (hcs c List.mem_cons_self)
    rw [callBits_cons, ← List.append_assoc]
    show Puts _ _ ((c.run s).bind fun s => cs.foldlM Call.run s)
    cases hrun : c.run s with
    | ok s' =>
      rw [hrun] at hstep
      exact ih hstep.2 hstep.1 fun c' h' => hcs c' (List.mem_cons_of_mem c h')
    | error fault =>
      rw [hrun] at hstep
      refine ⟨hstep.1, Nat.lt_of_lt_of_le hstep.2 (Nat.mul_le_mul_left 4 ?_)⟩
      exact Nat.div_le_div_right (List.prefix_append ..).length_le

/-- A value that does not fit stops the calls, unless a word did before. -/
theorem Holds.calls_assertion (h : Holds buffer bits s) {cs : List Call}
    (hcs : ¬∀ c ∈ cs, c.Fits) : cs.foldlM Call.run s = .error .assertion := by
  induction cs generalizing bits s with
  | nil => exact absurd (fun c hc => absurd hc List.not_mem_nil) hcs
  | cons c cs ih =>
    show (c.run s).bind (fun s => cs.foldlM Call.run s) = _
    by_cases hc : c.Fits
    · have hstep := h.call hc
      have hrest : ¬∀ c' ∈ cs, c'.Fits := fun hall => hcs (List.forall_mem_cons.2 ⟨hc, hall⟩)
      cases hrun : c.run s with
      | ok s' =>
        rw [hrun] at hstep
        exact ih hstep.2 hrest
      | error fault =>
        rw [hrun] at hstep
        exact congrArg Except.error hstep.1
    · rw [run_of_not_fits s hc]
      rfl

/-! ## The last word -/

/-- `flush_put_bits` on bits that wait, with zeros behind them in the word. -/
theorem flushLoop_eq (done rest : Bytes) {p : List Bool} (hp : p.length ≤ 32)
    (hleft : p ≠ [] → p.length + s.bitLeft = 32) (hnone : p = [] → 32 ≤ s.bitLeft)
    (hword : s.bitBuf = value (p ++ List.replicate (32 - p.length) false))
    (hbuf : s.buf = done ++ rest) (hptr : s.bufPtr = done.length) :
    flushLoop s = if (p.length + 7) / 8 ≤ rest.length then
        .ok ⟨0, 32, done ++ pack p ++ rest.drop ((p.length + 7) / 8),
          done.length + (p.length + 7) / 8⟩
      else .error .outOfBuffer := by
  induction hn : p.length using Nat.strongRecOn generalizing s done rest p with
  | ind n ih =>
    subst hn
    by_cases hne : p = []
    · have hge := hnone hne
      subst hne
      have hpack : pack [] = [] := by rw [pack]
      have hzero : (([] : List Bool).length + 7) / 8 ≤ rest.length := Nat.zero_le _
      rw [flushLoop, if_neg (Nat.not_lt.2 hge), if_pos hzero, hbuf, hptr, hpack, List.append_nil]
      rfl
    have hpos := List.length_pos_iff.2 hne
    have hbits := hleft hne
    rw [flushLoop, if_pos (by omega)]
    cases rest with
    | nil =>
      have hnil : ¬(p.length + 7) / 8 ≤ ([] : Bytes).length := by
        rw [List.length_nil]
        omega
      rw [if_neg hnil, if_neg (by rw [hptr, hbuf, List.append_nil]; exact Nat.lt_irrefl _)]
    | cons b rest =>
      have hroom : s.bufPtr < s.buf.length := by
        rw [hptr, hbuf, List.length_append, List.length_cons]
        omega
      have hlength : (p ++ List.replicate (32 - p.length) false).length = 32 := by
        rw [List.length_append, List.length_replicate]
        omega
      -- the highest byte of the word is the next one of the bits
      have hfirst := pack_cons_take hne (k := 32 - p.length) (by omega)
      have hbyte : s.bitBuf / 2 ^ 24 =
          value ((p ++ List.replicate (32 - p.length) false).take 8) := by
        rw [value_take, hlength, hword]
      have hdrop : (p.drop 8).length = p.length - 8 := List.length_drop
      have hnext : s.bitBuf * 2 ^ 8 % 2 ^ 32 =
          value (p.drop 8 ++ List.replicate (32 - (p.drop 8).length) false) := by
        have hlist : p.drop 8 ++ List.replicate (32 - (p.drop 8).length) false =
            (p ++ List.replicate (32 - p.length) false).drop 8 ++ List.replicate 8 false := by
          rw [List.drop_append, List.drop_replicate, List.append_assoc, List.replicate_append_replicate]
          congr 2
          omega
        have hsplit := value_append ((p ++ List.replicate (32 - p.length) false).take 8)
          ((p ++ List.replicate (32 - p.length) false).drop 8)
        have hlen : ((p ++ List.replicate (32 - p.length) false).drop 8).length = 24 := by
          rw [List.length_drop, hlength]
        have hlt := value_lt ((p ++ List.replicate (32 - p.length) false).drop 8)
        rw [List.take_append_drop, hlen] at hsplit
        rw [hlen] at hlt
        rw [hlist, value_append, value_replicate_false, List.length_replicate, hword, hsplit]
        omega
      have hstore : store s.buf s.bufPtr [UInt8.ofNat (s.bitBuf / 2 ^ 24)] =
          done ++ [UInt8.ofNat (s.bitBuf / 2 ^ 24)] ++ rest := by
        rw [hbuf, hptr, store_append]
        rfl
      have hwait : p.drop 8 ≠ [] → (p.drop 8).length + (s.bitLeft + 8) = 32 := fun h => by
        have := List.length_pos_iff.2 h
        omega
      have hend : p.drop 8 = [] → 32 ≤ s.bitLeft + 8 := fun h => by
        have := List.length_eq_zero_iff.2 h
        omega
      rw [if_pos hroom, ih (p.drop 8).length (by omega) _ rest (by omega) hwait hend hnext hstore
        (by rw [hptr, List.length_append]; rfl) rfl]
      have hcount : (p.length + 7) / 8 = ((p.drop 8).length + 7) / 8 + 1 := by omega
      rw [hcount, hfirst, ← hbyte, List.drop_succ_cons, List.length_cons, List.length_append]
      simp only [Nat.add_le_add_iff_right, List.append_assoc, List.cons_append, List.nil_append,
        List.length_singleton, Nat.add_assoc, Nat.add_comm 1]

theorem Holds.flushPutBits (h : Holds buffer bits s) :
    PutBits.flushPutBits s = if (bits.length + 7) / 8 ≤ buffer.length then
        .ok ⟨0, 32, pack bits ++ buffer.drop ((bits.length + 7) / 8), (bits.length + 7) / 8⟩
      else .error .outOfBuffer := by
  obtain ⟨whole, pending, rfl, hrep⟩ := h
  have hleft := hrep.left
  have hpos := hrep.pos
  have hbytes := hrep.bytes
  have hroom := hrep.room
  have haligned := Nat.dvd_trans (by decide : 8 ∣ 32) hrep.aligned
  have hlength : ((whole ++ pending).length + 7) / 8 = s.bufPtr + (pending.length + 7) / 8 := by
    rw [List.length_append]
    omega
  have hloop := fun {s' : PutBitContext} => flushLoop_eq (s := s') (pack whole)
    (buffer.drop s.bufPtr) (p := pending) (by omega)
  have hfits : (pending.length + 7) / 8 ≤ (buffer.drop s.bufPtr).length ↔
      s.bufPtr + (pending.length + 7) / 8 ≤ buffer.length := by
    rw [List.length_drop]
    omega
  simp only [hfits, List.drop_drop, ← hrep.ptr, ← pack_append haligned, ← hlength] at hloop
  unfold PutBits.flushPutBits
  by_cases hlt : s.bitLeft < 32
  · rw [if_pos hlt]
    refine hloop (fun _ => hleft) (fun hnil => ?_) ?_ hrep.buf rfl
    · rw [hnil, List.length_nil] at hleft
      show 32 ≤ s.bitLeft
      omega
    · have hbits : 32 - pending.length = s.bitLeft := by omega
      rw [hbits, value_append, value_replicate_false, List.length_replicate, Nat.add_zero, hrep.word]
      show s.bitBuf * 2 ^ s.bitLeft % 2 ^ 32 = _
      rw [← Nat.mul_mod_mul_right, ← Nat.pow_add, hleft]
  · have hnil : pending = [] := List.length_eq_zero_iff.1 (by omega)
    have hfull : 32 ≤ s.bitLeft := Nat.not_lt.1 hlt
    have hcount : (whole.length + 7) / 8 = s.bufPtr := by omega
    subst hnil
    rw [if_neg hlt, flushLoop, if_neg hlt, List.append_nil, hcount, if_pos hroom, hrep.buf]

/-- What calls write: their bits one behind the other, with zeros in the rest of the last byte, and
nothing else in the buffer. An assertion fails if a value does not fit its width, or a full word not the
buffer; a last word that is not full, and does not fit, is stored behind the buffer. -/
theorem writeCalls_eq (buffer : Bytes) (cs : List Call) :
    writeCalls buffer cs =
      if (∀ c ∈ cs, c.Fits) ∧ 4 * ((callBits cs).length / 32) ≤ buffer.length then
        if ((callBits cs).length + 7) / 8 ≤ buffer.length then
          .ok (pack (callBits cs) ++ buffer.drop (((callBits cs).length + 7) / 8),
            ((callBits cs).length + 7) / 8)
        else .error .outOfBuffer
      else .error .assertion := by
  unfold writeCalls
  by_cases hcs : ∀ c ∈ cs, c.Fits
  · have hputs := (holds_init buffer).calls (Nat.zero_le _) hcs
    rw [List.nil_append] at hputs
    cases hrun : cs.foldlM Call.run (initPutBits buffer) with
    | ok s =>
      rw [hrun] at hputs
      rw [if_pos ⟨hcs, hputs.1⟩]
      show (flushPutBits s).bind (fun s => .ok (s.buf, s.bufPtr)) = _
      rw [hputs.2.flushPutBits]
      split
      · rfl
      · rfl
    | error fault =>
      rw [hrun] at hputs
      rw [if_neg fun h => Nat.not_le.2 hputs.2 h.2, hputs.1]
      rfl
  · rw [if_neg fun h => hcs h.1, (holds_init buffer).calls_assertion hcs]
    rfl

/-- A record of whole bytes. -/
theorem writeCalls_ok (buffer : Bytes) {cs : List Call} (hcs : ∀ c ∈ cs, c.Fits)
    (hbytes : 8 ∣ (callBits cs).length) (hroom : (pack (callBits cs)).length ≤ buffer.length) :
    writeCalls buffer cs = .ok (pack (callBits cs) ++ buffer.drop (pack (callBits cs)).length,
      (pack (callBits cs)).length) := by
  rw [length_pack hbytes] at hroom ⊢
  have hcount : ((callBits cs).length + 7) / 8 = (callBits cs).length / 8 := by omega
  rw [writeCalls_eq, if_pos ⟨hcs, by omega⟩, if_pos (by omega), hcount]

theorem value_field {c : Call} (h : c.Fits) : c.field.2 % 2 ^ c.field.1 = c.field.2 := by
  cases c with
  | bits n value => exact Nat.mod_eq_of_lt h.2
  | bits32 value => exact Nat.mod_eq_of_lt value.toNat_lt

/-- What there is behind calls: the values can be read where they were put, and what is behind them in
the buffer is what was there before. -/
def Written (buffer : Bytes) (cs : List Call) : Except Fault (Bytes × Nat) → Prop
  | .ok (out, n) =>
    (∀ c ∈ cs, c.Fits) ∧ n = ((callBits cs).length + 7) / 8 ∧ n ≤ buffer.length ∧
      out.length = buffer.length ∧ out.drop n = buffer.drop n ∧
      ∃ rest, readFields (cs.map fun c => c.field.1) (unpack out) =
        some (cs.map fun c => c.field.2, rest)
  | .error .assertion => (∃ c ∈ cs, ¬c.Fits) ∨ buffer.length < 4 * ((callBits cs).length / 32)
  | .error .outOfBuffer =>
    (∀ c ∈ cs, c.Fits) ∧ 4 * ((callBits cs).length / 32) ≤ buffer.length ∧
      buffer.length < ((callBits cs).length + 7) / 8

/-- **The words are the bits**: whatever is put, it can be read again, or does not fit. Only the bytes
of a last word are stored behind the buffer. -/
theorem writeCalls_written (buffer : Bytes) (cs : List Call) :
    Written buffer cs (writeCalls buffer cs) := by
  rw [writeCalls_eq]
  by_cases hcs : (∀ c ∈ cs, c.Fits) ∧ 4 * ((callBits cs).length / 32) ≤ buffer.length
  · rw [if_pos hcs]
    by_cases hroom : ((callBits cs).length + 7) / 8 ≤ buffer.length
    · obtain ⟨k, -, hfill⟩ := unpack_pack_fill (callBits cs)
      have hpack := length_pack_eq (callBits cs)
      rw [if_pos hroom]
      refine ⟨hcs.1, rfl, hroom, ?_, List.drop_left' hpack, ?_⟩
      · rw [List.length_append, List.length_drop, hpack]
        omega
      · have hread := readFields_fieldBits (cs.map Call.field) (List.replicate k false ++
          unpack (buffer.drop (((callBits cs).length + 7) / 8)))
        have hvalues : (cs.map Call.field).map (fun f => f.2 % 2 ^ f.1) =
            cs.map fun c => c.field.2 := by
          rw [List.map_map]
          exact List.map_congr_left fun c hc => value_field (hcs.1 c hc)
        rw [hvalues, List.map_map] at hread
        rw [unpack_append, hfill, List.append_assoc]
        exact ⟨_, hread⟩
    · rw [if_neg hroom]
      exact ⟨hcs.1, hcs.2, Nat.not_le.1 hroom⟩
  · rw [if_neg hcs]
    rcases not_and_or.1 hcs with hfits | hroom
    · left
      simpa using hfits
    · exact .inr (Nat.not_le.1 hroom)

end PutBits

end StreamSwitch
