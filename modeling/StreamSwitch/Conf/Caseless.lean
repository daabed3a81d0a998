import Mathlib.Algebra.GroupWithZero.Nat
import Mathlib.Data.List.Lex
import Mathlib.Data.Int.Order.Basic
import Mathlib.Order.Compare
import StreamSwitch.Defs

/-!
# Keys without regard to case

`buffer_caseless_compare` of `conf/buffer.c`. Words that are equal are skipped where both buffers are
aligned. A letter is compared without regard to its case with a letter only: `A` is less than `_`,
`_` less than `a`, and `a` the same as `A`. So the comparison is an order on the keys of a `Charset`,
and not on all keys; `order_lt_iff` says which order.
-/

namespace StreamSwitch

namespace Conf

abbrev Bytes := List UInt8

/-! ## The code -/

/-- A `char`, which is signed. -/
def charOf (b : UInt8) : Int := if b < 128 then b.toNat else b.toNat - 256

def isUpper (b : UInt8) : Bool := 65 ≤ b && b ≤ 90

def isLower (b : UInt8) : Bool := 97 ≤ b && b ≤ 122

/-- `a1 - b1`, of letters of different case for the small ones. -/
def charDiff (a b : UInt8) : Int :=
  if isUpper a && isLower b then charOf (a ||| 32) - charOf b
  else if isLower a && isUpper b then charOf a - charOf (b ||| 32)
  else charOf a - charOf b

/-- The loop over words: `words` of them are in both buffers. -/
def skipWords : (words : Nat) → Bytes → Bytes → Bytes × Bytes
  | 0, a, b => (a, b)
  | words + 1, a, b =>
    if a.take 8 = b.take 8 then skipWords words (a.drop 8) (b.drop 8) else (a, b)

/-- The loop over bytes; there is no result where it ends with the shorter buffer. -/
def compareBytes : Bytes → Bytes → Option Int
  | a :: as, b :: bs =>
    if a ≠ b ∧ charDiff a b ≠ 0 then some (charDiff a b) else compareBytes as bs
  | _, _ => none

/-- `buffer_caseless_compare`; `aligned` says whether both pointers are. -/
def caselessCompare (aligned : Bool) (a b : Bytes) : Int :=
  let (a', b') := if aligned then skipWords (min a.length b.length / 8) a b else (a, b)
  match compareBytes a' b' with
  | some diff => diff
  | none => if a.length = b.length then 0 else ((a.length : Int) - b.length).bmod (2 ^ 32)

/-- What the sign of the comparison says. -/
def order (aligned : Bool) (a b : Bytes) : Ordering := compare (caselessCompare aligned a b) 0

/-- The order of `A`, `_` and `a` is none. -/
example : order false [65] [95] = .lt ∧ order false [95] [97] = .lt ∧ order false [97] [65] = .eq := by
  decide

/-! ## Words do not matter -/

theorem compareBytes_append (w a b : Bytes) : compareBytes (w ++ a) (w ++ b) = compareBytes a b := by
  induction w with
  | nil => rfl
  | cons x w ih =>
    rw [List.cons_append, List.cons_append, compareBytes, if_neg (fun h => h.1 rfl), ih]

theorem compareBytes_skipWords (words : Nat) (a b : Bytes) :
    compareBytes (skipWords words a b).1 (skipWords words a b).2 = compareBytes a b := by
  induction words generalizing a b with
  | zero => rfl
  | succ words ih =>
    rw [skipWords]
    split
    · next heq =>
      have hsplit := compareBytes_append (a.take 8) (a.drop 8) (b.drop 8)
      rw [List.take_append_drop, heq, List.take_append_drop] at hsplit
      rw [ih, hsplit]
    · rfl

/-- **The way over words gives the same result.** -/
theorem caselessCompare_aligned (aligned : Bool) (a b : Bytes) :
    caselessCompare aligned a b = caselessCompare false a b := by
  cases aligned with
  | false => rfl
  | true =>
    unfold caselessCompare
    rw [if_pos rfl, if_neg Bool.false_ne_true]
    dsimp only
    rw [compareBytes_skipWords]

/-! ## An order on the keys of a charset -/

/-- Bytes among which the comparison is an order: no capitals, no small letters, or none of the
characters between the two. -/
inductive Charset | noUpper | noLower | noBetween
deriving DecidableEq, Repr

def Charset.allows : Charset → UInt8 → Bool
  | .noUpper, b => !isUpper b
  | .noLower, b => !isLower b
  | .noBetween, b => !(91 ≤ b && b ≤ 96)

/-- The place of a byte in the order. -/
def Charset.rank : Charset → UInt8 → Int
  | .noBetween, b => if isUpper b then charOf b + 32 else charOf b
  | _, b => charOf b

/-- A key of a charset, whose length is an `int`. -/
structure Charset.Key (c : Charset) (k : Bytes) : Prop where
  allows : ∀ b ∈ k, c.allows b = true
  length : k.length < 2 ^ 31

/-- What is the same for all keys that are equal without regard to case. -/
def Charset.fold (c : Charset) (k : Bytes) : List Int := k.map c.rank

variable {c : Charset} {a b : UInt8}

theorem charOf_small {b : UInt8} (h : isUpper b = true) : charOf (b ||| 32) = charOf b + 32 := by
  revert b
  have hall : ∀ n : Fin 256, isUpper (UInt8.ofFin n) = true →
      charOf (UInt8.ofFin n ||| 32) = charOf (UInt8.ofFin n) + 32 := by decide +kernel
  exact fun {b} => hall b.toFin

theorem isUpper_iff (b : UInt8) : isUpper b = true ↔ 65 ≤ b.toNat ∧ b.toNat ≤ 90 := by
  rw [isUpper, Bool.and_eq_true, decide_eq_true_iff, decide_eq_true_iff, UInt8.le_iff_toNat_le,
    UInt8.le_iff_toNat_le]
  rfl

theorem isLower_iff (b : UInt8) : isLower b = true ↔ 97 ≤ b.toNat ∧ b.toNat ≤ 122 := by
  rw [isLower, Bool.and_eq_true, decide_eq_true_iff, decide_eq_true_iff, UInt8.le_iff_toNat_le,
    UInt8.le_iff_toNat_le]
  rfl

theorem charOf_eq (b : UInt8) :
    charOf b = if b.toNat < 128 then (b.toNat : Int) else b.toNat - 256 := by
  unfold charOf
  simp only [UInt8.lt_iff_toNat_lt]
  rfl

theorem charDiff_eq (a b : UInt8) : charDiff a b =
    (charOf a + if isUpper a && isLower b then 32 else 0) -
      (charOf b + if isLower a && isUpper b then 32 else 0) := by
  have hcase : ∀ x : UInt8, isUpper x = true → isLower x = false := fun x hx => by
    rw [Bool.eq_false_iff, Ne, isLower_iff]
    rw [isUpper_iff] at hx
    omega
  unfold charDiff
  by_cases hup : (isUpper a && isLower b) = true
  · have ha := (Bool.and_eq_true_iff.1 hup).1
    have hlow : (isLower a && isUpper b) = false := by rw [hcase a ha, Bool.false_and]
    rw [if_pos hup, if_pos hup, hlow, charOf_small ha]
    simp
  · rw [if_neg hup, if_neg hup]
    by_cases hlow : (isLower a && isUpper b) = true
    · rw [if_pos hlow, if_pos hlow, charOf_small (Bool.and_eq_true_iff.1 hlow).2]
      omega
    · rw [if_neg hlow, if_neg hlow]
      omega

/-- The sign of the difference is that of the difference of the ranks. -/
theorem charDiff_rank (ha : c.allows a = true) (hb : c.allows b = true) :
    (charDiff a b < 0 ↔ c.rank a < c.rank b) ∧ (charDiff a b = 0 ↔ c.rank a = c.rank b) := by
  have hxlt := a.toNat_lt
  have hylt := b.toNat_lt
  have hua := isUpper_iff a
  have hub := isUpper_iff b
  have hla := isLower_iff a
  have hlb := isLower_iff b
  rw [charDiff_eq, charOf_eq a, charOf_eq b]
  cases c with
  | noUpper =>
    simp only [Charset.allows, Bool.not_eq_true'] at ha hb
    simp only [Charset.rank, ha, hb, charOf_eq, Bool.false_and, Bool.and_false]
    omega
  | noLower =>
    simp only [Charset.allows, Bool.not_eq_true'] at ha hb
    simp only [Charset.rank, ha, hb, charOf_eq, Bool.false_and, Bool.and_false]
    omega
  | noBetween =>
    simp only [Charset.allows, Bool.not_eq_true', Bool.and_eq_false_iff, decide_eq_false_iff_not,
      UInt8.le_iff_toNat_le] at ha hb
    have h91 : (91 : UInt8).toNat = 91 := rfl
    have h96 : (96 : UInt8).toNat = 96 := rfl
    rw [h91, h96] at ha hb
    simp only [Charset.rank, charOf_eq]
    -- a capital is moved behind what is not a letter, as it is for a small letter only
    cases hA : isUpper a <;> cases hB : isUpper b <;> cases hC : isLower a <;>
      cases hD : isLower b <;> simp only [hA, hB, hC, hD, true_iff, false_iff, Bool.false_eq_true,
        if_true, if_false, Bool.and_true, Bool.and_false] at hua hub hla hlb ⊢ <;> omega

/-- The bytes as far as both keys have them. -/
theorem compareBytes_fold {k l : Bytes} (hk : ∀ b ∈ k, c.allows b = true)
    (hl : ∀ b ∈ l, c.allows b = true) :
    (∀ d, compareBytes k l = some d →
      d ≠ 0 ∧ (d < 0 ↔ c.fold k < c.fold l) ∧ c.fold k ≠ c.fold l) ∧
      (compareBytes k l = none →
        (c.fold k < c.fold l ↔ k.length < l.length) ∧
          (c.fold k = c.fold l ↔ k.length = l.length)) := by
  induction k generalizing l with
  | nil =>
    refine ⟨nofun, fun _ => ?_⟩
    cases l with
    | nil => exact ⟨iff_of_false (List.not_lt_nil _) (Nat.lt_irrefl _), iff_of_true rfl rfl⟩
    | cons y l =>
      exact ⟨iff_of_true (List.nil_lt_cons ..) (Nat.succ_pos _),
        iff_of_false (List.cons_ne_nil _ _).symm (by simp)⟩
  | cons x k ih =>
    cases l with
    | nil =>
      refine ⟨nofun, fun _ => ⟨iff_of_false (List.not_lt_nil _) (Nat.not_lt_zero _),
        iff_of_false (List.cons_ne_nil _ _) (by simp)⟩⟩
    | cons y l =>
      obtain ⟨hlt, heq⟩ := charDiff_rank (hk x List.mem_cons_self) (hl y List.mem_cons_self)
      have hrest := ih (fun b hb => hk b (List.mem_cons_of_mem _ hb))
        fun b hb => hl b (List.mem_cons_of_mem _ hb)
      have hfoldlt : c.fold (x :: k) < c.fold (y :: l) ↔
          c.rank x < c.rank y ∨ c.rank x = c.rank y ∧ c.fold k < c.fold l := List.cons_lt_cons_iff
      have hfoldeq : c.fold (x :: k) = c.fold (y :: l) ↔
          c.rank x = c.rank y ∧ c.fold k = c.fold l := List.cons_eq_cons
      simp only [ne_eq, hfoldlt, hfoldeq, List.length_cons]
      rw [compareBytes]
      by_cases hdiff : charDiff x y = 0
      · have hrank := heq.1 hdiff
        rw [if_neg fun h => h.2 hdiff, hrank]
        simpa using hrest
      · have hne : x ≠ y := fun h => hdiff (heq.2 (by rw [h]))
        rw [if_pos ⟨hne, hdiff⟩]
        refine ⟨fun d hd => ?_, nofun⟩
        cases hd
        have hrank : c.rank x ≠ c.rank y := fun h => hdiff (heq.2 h)
        exact ⟨hdiff, by simp [hlt, hrank], fun h => hrank h.1⟩

theorem caselessCompare_fold {k l : Bytes} (hk : c.Key k) (hl : c.Key l) (aligned : Bool) :
    (caselessCompare aligned k l < 0 ↔ c.fold k < c.fold l) ∧
      (caselessCompare aligned k l = 0 ↔ c.fold k = c.fold l) := by
  obtain ⟨hsome, hnone⟩ := compareBytes_fold hk.allows hl.allows
  have hklen := hk.length
  have hllen := hl.length
  have hplain : caselessCompare false k l = match compareBytes k l with
      | some diff => diff
      | none => if k.length = l.length then 0 else ((k.length : Int) - l.length).bmod (2 ^ 32) := rfl
  rw [caselessCompare_aligned, hplain]
  cases hcmp : compareBytes k l with
  | some d =>
    obtain ⟨hne, hlt, hneq⟩ := hsome d hcmp
    exact ⟨hlt, iff_of_false hne hneq⟩
  | none =>
    obtain ⟨hlt, heq⟩ := hnone hcmp
    have hmod : ((k.length : Int) - l.length).bmod (2 ^ 32) = k.length - l.length := by
      rw [Int.bmod_def]
      omega
    simp only [hlt, heq, hmod]
    split <;> omega

section order
variable {k l : Bytes} (hk : c.Key k) (hl : c.Key l) (aligned : Bool)
include hk hl

/-- **On the keys of a charset** the comparison is that of what is the same for equal keys. -/
theorem order_lt_iff : order aligned k l = .lt ↔ c.fold k < c.fold l := by
  rw [order, compare_lt_iff_lt, (caselessCompare_fold hk hl aligned).1]

theorem order_eq_iff : order aligned k l = .eq ↔ c.fold k = c.fold l := by
  rw [order, compare_eq_iff_eq, (caselessCompare_fold hk hl aligned).2]

theorem order_gt_iff : order aligned k l = .gt ↔ c.fold l < c.fold k := by
  have hlt := order_lt_iff hk hl aligned
  have heq := order_eq_iff hk hl aligned
  rcases lt_trichotomy (c.fold k) (c.fold l) with h | h | h
  · exact iff_of_false (by rw [hlt.2 h]; decide) (lt_asymm h)
  · exact iff_of_false (by rw [heq.2 h]; decide) h.not_gt
  · refine iff_of_true ?_ h
    cases horder : order aligned k l with
    | gt => rfl
    | lt => exact absurd (hlt.1 horder) (lt_asymm h)
    | eq => exact absurd (heq.1 horder) h.ne'

end order

end Conf

end StreamSwitch
