import Mathlib.Algebra.GroupWithZero.Nat
import Mathlib.Data.List.Induction
import Mathlib.Data.Nat.Find
import Mathlib.Tactic.Common

/-!
# Bit strings and readers of them

A bit string is a list of bits, the first one highest. `ue` and `se` are the Exp-Golomb codes.

A reader is a computation on a position that may be undefined. `Reads f p i bs a` says that `p`,
started at position `i` of the source `f` where the bits `bs` stand, returns `a` and is behind them
then; `Reads.bind` puts readers together as their bits are put together.
-/

namespace Bits

/-! ## Values -/

/-- The number that bits are. -/
def value (bs : List Bool) : Nat := bs.foldl (fun v b => 2 * v + b.toNat) 0

theorem foldl_value (bs : List Bool) (v : Nat) :
    bs.foldl (fun v b => 2 * v + b.toNat) v = v * 2 ^ bs.length + value bs := by
  unfold value
  induction bs generalizing v with
  | nil => simp
  | cons b bs ih =>
    rw [List.foldl_cons, ih, List.foldl_cons, ih (2 * 0 + b.toNat), List.length_cons, Nat.pow_succ]
    simp only [Nat.mul_zero, Nat.zero_add, Nat.add_mul]
    rw [Nat.mul_comm 2 v, Nat.mul_assoc, Nat.mul_comm 2, Nat.add_assoc]

theorem value_append (xs ys : List Bool) :
    value (xs ++ ys) = value xs * 2 ^ ys.length + value ys := by
  rw [value, List.foldl_append, foldl_value]
  rfl

theorem value_snoc (bs : List Bool) (b : Bool) : value (bs ++ [b]) = 2 * value bs + b.toNat := by
  rw [value, List.foldl_append]
  rfl

theorem value_replicate_false (n : Nat) : value (List.replicate n false) = 0 := by
  induction n with
  | zero => rfl
  | succ n ih =>
    rw [List.replicate_succ', value_snoc, ih]
    rfl

theorem value_cons (b : Bool) (bs : List Bool) :
    value (b :: bs) = b.toNat * 2 ^ bs.length + value bs := by
  rw [← List.singleton_append, value_append]
  cases b <;> rfl

theorem value_lt (bs : List Bool) : value bs < 2 ^ bs.length := by
  induction bs with
  | nil => exact Nat.one_pos
  | cons b bs ih =>
    rw [value_cons, List.length_cons, Nat.pow_succ]
    cases b <;> simp only [Bool.toNat_false, Bool.toNat_true] <;> omega

theorem value_take (bs : List Bool) (n : Nat) :
    value (bs.take n) = value bs / 2 ^ (bs.length - n) := by
  have hsplit := value_append (bs.take n) (bs.drop n)
  have hlt := value_lt (bs.drop n)
  rw [List.take_append_drop, List.length_drop] at hsplit
  rw [List.length_drop] at hlt
  rw [hsplit, Nat.mul_comm, Nat.mul_add_div (Nat.two_pow_pos _), Nat.div_eq_of_lt hlt, Nat.add_zero]

/-- The lowest `width` bits of a number. -/
def ofNat : (width : Nat) → Nat → List Bool
  | 0, _ => []
  | width + 1, n => ofNat width (n / 2) ++ [decide (n % 2 = 1)]

@[simp] theorem length_ofNat (width n : Nat) : (ofNat width n).length = width := by
  induction width generalizing n with
  | zero => rfl
  | succ width ih => simp [ofNat, ih]

theorem value_ofNat (width n : Nat) : value (ofNat width n) = n % 2 ^ width := by
  induction width generalizing n with
  | zero => simp [ofNat, value, Nat.mod_one]
  | succ width ih =>
    rw [ofNat, value_snoc, ih, Nat.pow_succ, Nat.mul_comm (2 ^ width), Nat.mod_mul]
    rcases Nat.mod_two_eq_zero_or_one n with h | h
    · simp [h]
    · simp [h, Nat.add_comm]

theorem ofNat_add (a b n : Nat) : ofNat (a + b) n = ofNat a (n / 2 ^ b) ++ ofNat b n := by
  induction b generalizing n with
  | zero => simp [ofNat]
  | succ b ih =>
    have hdiv : n / 2 / 2 ^ b = n / 2 ^ (b + 1) := by
      rw [Nat.div_div_eq_div_mul, Nat.pow_succ, Nat.mul_comm]
    rw [← Nat.add_assoc, ofNat, ih, ofNat, List.append_assoc, hdiv]

theorem ofNat_value (bs : List Bool) : ofNat bs.length (value bs) = bs := by
  induction bs using List.reverseRecOn with
  | nil => rfl
  | append_singleton bs b ih =>
    rw [List.length_append, List.length_singleton, ofNat, value_snoc]
    cases b
    · rw [Bool.toNat_false, Nat.add_zero, Nat.mul_div_cancel_left _ (by decide), ih]
      simp
    · rw [Bool.toNat_true, Nat.mul_add_div (by decide), Nat.add_zero, ih]
      simp

theorem value_inj {xs ys : List Bool} (hlen : xs.length = ys.length) (h : value xs = value ys) :
    xs = ys := by
  rw [← ofNat_value xs, ← ofNat_value ys, hlen, h]

theorem ofNat_mod (k n : Nat) : ofNat k (n % 2 ^ k) = ofNat k n :=
  value_inj (by rw [length_ofNat, length_ofNat]) (by rw [value_ofNat, value_ofNat, Nat.mod_mod])

/-! ## Exp-Golomb codes -/

/-- The code of a number: as many zeros as `v + 1` has bits behind its first one, and `v + 1`. -/
def ue (v : Nat) : List Bool :=
  List.replicate (v + 1).log2 false ++ ofNat ((v + 1).log2 + 1) (v + 1)

/-- The number that stands for an integer: 1, -1, 2, -2 and so on. -/
def codeNum (x : Int) : Nat := if 0 < x then 2 * x.toNat - 1 else 2 * (-x).toNat

/-- The code of an integer. -/
def se (x : Int) : List Bool := ue (codeNum x)

theorem length_ue (v : Nat) : (ue v).length = 2 * (v + 1).log2 + 1 := by
  simp only [ue, List.length_append, List.length_replicate, length_ofNat]
  omega

theorem value_ue (v : Nat) : value (ue v) = v + 1 := by
  have hlt : v + 1 < 2 ^ ((v + 1).log2 + 1) := Nat.lt_log2_self
  rw [ue, value_append, value_replicate_false, value_ofNat, Nat.mod_eq_of_lt hlt]
  omega

/-- The first one of a code is behind its zeros. -/
theorem value_take_ue (v : Nat) : value ((ue v).take ((v + 1).log2 + 1)) = 1 := by
  have hle : 2 ^ (v + 1).log2 ≤ v + 1 := Nat.log2_self_le (by omega)
  have hlt : v + 1 < 2 ^ ((v + 1).log2 + 1) := Nat.lt_log2_self
  have hlen : (ue v).length - ((v + 1).log2 + 1) = (v + 1).log2 := by
    rw [length_ue]
    omega
  rw [value_take, value_ue, hlen]
  apply Nat.div_eq_of_lt_le
  · rwa [Nat.one_mul]
  · rwa [Nat.pow_succ, Nat.mul_comm] at hlt

/-! ## Sources and readers -/

/-- The `n` bits of `f` from `i` on. -/
def window (f : Nat → Bool) (i n : Nat) : List Bool := (List.range n).map fun j => f (i + j)

/-- The bits `bs` stand in `f` at `i`. -/
def At (f : Nat → Bool) (i : Nat) (bs : List Bool) : Prop := window f i bs.length = bs

variable {f : Nat → Bool} {i n : Nat} {xs ys bs : List Bool}

@[simp] theorem length_window (f : Nat → Bool) (i n : Nat) : (window f i n).length = n := by
  simp [window]

theorem window_add (f : Nat → Bool) (i m n : Nat) :
    window f i (m + n) = window f i m ++ window f (i + m) n := by
  simp [window, List.range_add, Nat.add_assoc]

theorem window_succ (f : Nat → Bool) (i n : Nat) :
    window f i (n + 1) = window f i n ++ [f (i + n)] :=
  window_add f i n 1

theorem at_append : At f i (xs ++ ys) ↔ At f i xs ∧ At f (i + xs.length) ys := by
  unfold At
  rw [List.length_append, window_add]
  constructor
  · intro h
    exact List.append_inj h (length_window ..)
  · rintro ⟨h1, h2⟩
    rw [h1, h2]

theorem at_window (f : Nat → Bool) (i n : Nat) : At f i (window f i n) := by
  rw [At, length_window]

theorem window_false (h : ∀ j < n, f (i + j) = false) : window f i n = List.replicate n false :=
  List.eq_replicate_iff.2 ⟨length_window .., fun b hb => by
    obtain ⟨j, hj, rfl⟩ := List.mem_map.1 hb
    exact h j (List.mem_range.1 hj)⟩

/-- A one behind as many zeros as there are bits behind it is a code. -/
theorem exists_ue_eq {k : Nat} (h : bs.length = k) : ∃ v, (v + 1).log2 = k ∧
    v + 1 = value (true :: bs) ∧ ue v = List.replicate k false ++ true :: bs := by
  have hlt := value_lt (true :: bs)
  have hle : 2 ^ k ≤ value (true :: bs) := by
    rw [value_cons, h, Bool.toNat_true, Nat.one_mul]
    exact Nat.le_add_right ..
  rw [List.length_cons, h] at hlt
  have hpos := Nat.two_pow_pos k
  have hsucc : value (true :: bs) - 1 + 1 = value (true :: bs) := by omega
  have hlog : (value (true :: bs) - 1 + 1).log2 = k := by
    rw [hsucc]
    exact (Nat.log2_eq_iff (by omega)).2 ⟨hle, hlt⟩
  have hcode := ofNat_value (true :: bs)
  rw [List.length_cons, h] at hcode
  refine ⟨value (true :: bs) - 1, hlog, hsucc, ?_⟩
  rw [ue, hlog, hsucc, hcode]

theorem ue_eq (v : Nat) : ∃ bs, bs.length = (v + 1).log2 ∧ v + 1 = value (true :: bs) ∧
    ue v = List.replicate (v + 1).log2 false ++ true :: bs := by
  have hle : 2 ^ (v + 1).log2 ≤ v + 1 := Nat.log2_self_le (by omega)
  have hlt : v + 1 < 2 ^ ((v + 1).log2 + 1) := Nat.lt_log2_self
  have hone : (v + 1) / 2 ^ (v + 1).log2 = 1 := by
    apply Nat.div_eq_of_lt_le
    · rwa [Nat.one_mul]
    · rwa [Nat.pow_succ, Nat.mul_comm] at hlt
  have hsplit : ofNat ((v + 1).log2 + 1) (v + 1) = true :: ofNat (v + 1).log2 (v + 1) := by
    rw [Nat.add_comm (v + 1).log2, ofNat_add, hone]
    rfl
  refine ⟨ofNat (v + 1).log2 (v + 1), length_ofNat .., ?_, ?_⟩
  · rw [← hsplit, value_ofNat, Nat.mod_eq_of_lt hlt]
  · rw [ue, hsplit]

/-- **Every bit string begins with a code**, if it is not zeros only. -/
theorem exists_ue (h : ∃ j < n, f (i + j) = true) : ∃ v, (v + 1).log2 < n ∧ At f i (ue v) := by
  obtain ⟨k, hk, hone, hzero⟩ : ∃ k < n, f (i + k) = true ∧ ∀ j < k, f (i + j) = false := by
    classical
    refine ⟨Nat.find h, (Nat.find_spec h).1, (Nat.find_spec h).2, fun j hj => ?_⟩
    have hmin := Nat.find_min h hj
    rw [Bool.eq_false_iff]
    exact fun hone => hmin ⟨Nat.lt_trans hj (Nat.find_spec h).1, hone⟩
  obtain ⟨v, hlog, -, hue⟩ := exists_ue_eq (length_window f (i + k + 1) k)
  refine ⟨v, by rwa [hlog], ?_⟩
  have hwindow : ue v = window f i (k + (1 + k)) := by
    rw [hue, window_add, window_false hzero, window_add f (i + k)]
    show _ ++ true :: _ = _ ++ f (i + k) :: _
    rw [hone]
    rfl
  rw [hwindow]
  exact at_window ..

theorem At.take (h : At f i bs) (hn : n ≤ bs.length) : window f i n = bs.take n := by
  obtain ⟨k, hk⟩ := Nat.exists_eq_add_of_le hn
  unfold At at h
  rw [hk, window_add] at h
  rw [← h, List.take_left' (length_window ..)]

/-- No code is the beginning of another. -/
theorem ue_inj {v w : Nat} (hv : At f i (ue v)) (hw : At f i (ue w)) : v = w := by
  wlog hle : (v + 1).log2 ≤ (w + 1).log2 generalizing v w
  · exact (this hw hv (Nat.le_of_not_le hle)).symm
  have hvlen := length_ue v
  have hwlen := length_ue w
  have hvtake := hv.take (n := (v + 1).log2 + 1) (by omega)
  have hwtake := hw.take (n := (v + 1).log2 + 1) (by omega)
  have hone := value_take_ue v
  have hlog : (v + 1).log2 = (w + 1).log2 := by
    by_contra hne
    rw [← hvtake, hwtake, value_take, value_ue, hwlen] at hone
    have hlt : w + 1 < 2 ^ ((w + 1).log2 + 1) := Nat.lt_log2_self
    have hpow : 2 ^ ((w + 1).log2 + 1) ≤ 2 ^ (2 * (w + 1).log2 + 1 - ((v + 1).log2 + 1)) :=
      Nat.pow_le_pow_right Nat.two_pos (by omega)
    rw [Nat.div_eq_of_lt (Nat.lt_of_lt_of_le hlt hpow)] at hone
    exact absurd hone (by decide)
  have hcode : ue v = ue w := by
    have hlen : (ue v).length = (ue w).length := by rw [hvlen, hwlen, hlog]
    rw [← hv, ← hw, hlen]
  have hval := congrArg value hcode
  rw [value_ue, value_ue] at hval
  exact Nat.succ.inj hval

theorem at_of_getD (h : ∀ j < bs.length, f (i + j) = bs.getD j false) : At f i bs := by
  refine List.ext_getElem (length_window ..) fun j hj hj' => ?_
  have hbit := h j hj'
  rw [List.getD_eq_getElem?_getD, List.getElem?_eq_getElem hj', Option.getD_some] at hbit
  simpa only [window, List.getElem_map, List.getElem_range] using hbit

theorem at_congr {g : Nat → Bool} (h : At f i bs) (hfg : ∀ j < bs.length, g (i + j) = f (i + j)) :
    At g i bs :=
  (List.map_congr_left fun j hj => hfg j (List.mem_range.1 hj)).trans h

theorem At.prefix_of_le (hx : At f i xs) (hy : At f i ys) (h : xs.length ≤ ys.length) :
    xs <+: ys := by
  have htake := hy.take h
  rw [hx] at htake
  exact ⟨_, (congrArg (· ++ ys.drop xs.length) htake).trans (List.take_append_drop ..)⟩

theorem At.mono (h : At f i ys) (hp : xs <+: ys) : At f i xs := by
  obtain ⟨zs, rfl⟩ := hp
  exact (at_append.1 h).1

/-! ## What bits are the encoding of -/

/-- Everywhere the bits of `f` begin with the encoding of a value. -/
def Covers {α : Type} (f : Nat → Bool) (enc : α → List Bool) : Prop := ∀ i, ∃ a, At f i (enc a)

theorem covers_bit (f : Nat → Bool) : Covers f fun b : Bool => [b] :=
  fun i => ⟨f i, at_window f i 1⟩

theorem covers_ofNat (f : Nat → Bool) (k : Nat) : Covers f (ofNat k) := fun i => by
  have hval := ofNat_value (window f i k)
  rw [length_window] at hval
  refine ⟨value (window f i k), ?_⟩
  rw [hval]
  exact at_window ..

theorem covers_ue (h : ∀ i, ∃ j, f (i + j) = true) : Covers f ue := fun i => by
  obtain ⟨j, hj⟩ := h i
  obtain ⟨v, -, hv⟩ := exists_ue ⟨j, Nat.lt_succ_self j, hj⟩
  exact ⟨v, hv⟩

theorem Covers.append {α β : Type} {enc : α → List Bool} {enc' : β → List Bool}
    (h : Covers f enc) (h' : Covers f enc') : Covers f fun p : α × β => enc p.1 ++ enc' p.2 :=
  fun i => by
    obtain ⟨a, ha⟩ := h i
    obtain ⟨b, hb⟩ := h' (i + (enc a).length)
    exact ⟨(a, b), at_append.2 ⟨ha, hb⟩⟩

/-- A computation on a position. -/
abbrev Get := StateT Nat Option

variable {α β : Type}

/-- Started where the bits `bs` are, `p` returns `a` and is behind them. -/
def Reads (f : Nat → Bool) (p : Get α) (i : Nat) (bs : List Bool) (a : α) : Prop :=
  At f i bs → p i = some (a, i + bs.length)

theorem Reads.pure (a : α) : Reads f (pure a) i [] a := fun _ => rfl

theorem Reads.bind {p : Get α} {q : α → Get β} {a : α} {b : β} (hp : Reads f p i xs a)
    (hq : Reads f (q a) (i + xs.length) ys b) : Reads f (p >>= q) i (xs ++ ys) b := by
  intro h
  obtain ⟨h1, h2⟩ := at_append.1 h
  show (p i).bind (fun x => q x.1 x.2) = _
  rw [hp h1, Option.bind_some, hq h2, List.length_append, Nat.add_assoc]

theorem Reads.bind_exists {p : Get α} {q : α → Get β} {a : α} (hp : Reads f p i xs a)
    (hq : ∃ b, Reads f (q a) (i + xs.length) ys b) : ∃ b, Reads f (p >>= q) i (xs ++ ys) b := by
  obtain ⟨b, hb⟩ := hq
  exact ⟨b, hp.bind hb⟩

theorem Reads.map {p : Get α} {a : α} (g : α → β) (hp : Reads f p i xs a) :
    Reads f (do let a ← p; return g a) i xs (g a) := by
  have : Reads f (p >>= fun a => Pure.pure (g a)) i (xs ++ []) (g a) := hp.bind (Reads.pure (g a))
  rwa [List.append_nil] at this

/-- What is run behind a reader that has come through. -/
theorem Reads.rest {p : Get α} {q : α → Get β} {a : α} {r : β × Nat} (hp : Reads f p i xs a)
    (hat : At f i (xs ++ ys)) (h : (p >>= q) i = some r) :
    q a (i + xs.length) = some r ∧ At f (i + xs.length) ys := by
  obtain ⟨hxs, hys⟩ := at_append.1 hat
  have hbind : (p i).bind (fun x => q x.1 x.2) = some r := h
  rw [hp hxs, Option.bind_some] at hbind
  exact ⟨hbind, hys⟩

theorem bind_some {p : Get α} {q : α → Get β} {r : β × Nat} (h : (p >>= q) i = some r) :
    ∃ a k, p i = some (a, k) ∧ q a k = some r := by
  have hbind : (p i).bind (fun x => q x.1 x.2) = some r := h
  rw [Option.bind_eq_some_iff] at hbind
  obtain ⟨⟨a, k⟩, hp, hq⟩ := hbind
  exact ⟨a, k, hp, hq⟩

theorem Reads.forM {γ : Type} {p : γ → Get Unit} {bits : γ → List Bool} (xs : List γ)
    (h : ∀ x ∈ xs, ∀ i, Reads f (p x) i (bits x) ()) :
    Reads f (xs.forM p) i (xs.flatMap bits) () := by
  induction xs generalizing i with
  | nil => exact Reads.pure ()
  | cons x xs ih =>
    have hx := h x List.mem_cons_self i
    have hxs := ih (i := i + (bits x).length) fun y hy => h y (List.mem_cons_of_mem x hy)
    exact hx.bind hxs

/-- What is read does not matter, only how far. -/
theorem Reads.skip {p : Get α} {q : Get β} {b : β} (hp : ∃ a, Reads f p i xs a)
    (hq : Reads f q (i + xs.length) ys b) : Reads f (p >>= fun _ => q) i (xs ++ ys) b := by
  obtain ⟨a, ha⟩ := hp
  exact ha.bind hq

end Bits
