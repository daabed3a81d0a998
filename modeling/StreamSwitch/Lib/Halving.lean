import Mathlib.Algebra.GroupWithZero.Nat
import Mathlib.Order.Lattice
import Mathlib.Tactic.Common

/-!
# A search whose steps are halved

A position moves by steps of half the length each time, and may leave the positions that there are
on either side. `search_found` and `search_absent` say where such a search ends, if every position
is compared as in an ordered list; `search_sorted` is about such a list.
-/

namespace Halving

universe u v w
variable {ε : Type u}

/-- What is sought, compared with what is at a position; `n` is the number of positions. -/
def orderAt (probe : Nat → Except ε Ordering) (n : Nat) (pos : Int) : Except ε Ordering :=
  if pos < 0 then .ok .gt else if (n : Int) ≤ pos then .ok .lt else probe pos.toNat

/-- From a position on: what is found, and the position at the end. -/
def search (probe : Nat → Except ε Ordering) (n i : Nat) (pos : Int) :
    Except ε (Option Nat × Int) := do
  match ← orderAt probe n pos with
  | .eq => return (some pos.toNat, pos)
  | .lt => if i = 0 then return (none, pos) else search probe n (i / 2) (pos - i)
  | .gt => if i = 0 then return (none, pos) else search probe n (i / 2) (pos + i)
termination_by i
decreasing_by
  all_goals omega

/-! ## Steps -/

/-- A length of a step: a power of two, or none any more. -/
def Step (i : Nat) : Prop := i = 0 ∨ ∃ k, i = 2 ^ k

theorem Step.cases {i : Nat} (h : Step i) : i = 0 ∨ i = 1 ∨ ∃ k, i = 2 * 2 ^ k := by
  rcases h with rfl | ⟨k, rfl⟩
  · exact .inl rfl
  · cases k with
    | zero => exact .inr (.inl rfl)
    | succ k => exact .inr (.inr ⟨k, Nat.pow_succ'⟩)

theorem Step.half {i : Nat} (h : Step i) : Step (i / 2) := by
  rcases h.cases with rfl | rfl | ⟨k, rfl⟩
  · exact .inl rfl
  · exact .inl rfl
  · exact .inr ⟨k, Nat.mul_div_cancel_left _ (by decide)⟩

/-- So far may a position be from what is sought while steps are of length `i`. -/
def reach (i : Nat) : Int := if i = 0 then 0 else 2 * i - 1

@[simp] theorem reach_zero : reach 0 = 0 := rfl

theorem reach_pos {i : Nat} (h : 0 < i) : reach i = 2 * i - 1 := if_neg (by omega)

theorem Step.reach_half {i : Nat} (h : Step i) (hpos : 0 < i) : reach (i / 2) = i - 1 := by
  rcases h.cases with rfl | rfl | ⟨k, rfl⟩
  · cases hpos
  · rfl
  · have hk : 0 < 2 ^ k := Nat.two_pow_pos k
    rw [Nat.mul_div_cancel_left _ (by decide), reach_pos hk]
    omega

/-! ## Ordered positions -/

variable {probe : Nat → Except ε Ordering} {n g i : Nat} {pos : Int}

/-- What is before the position `g` is smaller, and what is behind it is greater. -/
structure Gap (probe : Nat → Except ε Ordering) (n g : Nat) : Prop where
  le : g ≤ n
  below : ∀ p < g, probe p = .ok .gt
  above : ∀ p < n, g < p → probe p = .ok .lt

theorem Gap.orderAt_below (hg : Gap probe n g) (h : pos < g) : orderAt probe n pos = .ok .gt := by
  have hle := hg.le
  unfold orderAt
  split
  · rfl
  · rw [if_neg (by omega), hg.below _ (by omega)]

theorem Gap.orderAt_above (hg : Gap probe n g) (h : g < pos) : orderAt probe n pos = .ok .lt := by
  unfold orderAt
  rw [if_neg (by omega)]
  split
  · rfl
  · rw [hg.above _ (by omega) (by omega)]

theorem search_lt (h : orderAt probe n pos = .ok .lt) :
    search probe n i pos =
      if i = 0 then .ok (none, pos) else search probe n (i / 2) (pos - i) := by
  rw [search, h]
  rfl

theorem search_gt (h : orderAt probe n pos = .ok .gt) :
    search probe n i pos =
      if i = 0 then .ok (none, pos) else search probe n (i / 2) (pos + i) := by
  rw [search, h]
  rfl

theorem search_eq (h : orderAt probe n pos = .ok .eq) :
    search probe n i pos = .ok (some pos.toNat, pos) := by
  rw [search, h]
  rfl

/-- **What is there is found**, from every position that is near enough. -/
theorem search_found (hg : Gap probe n g) (hlt : g < n) (hprobe : probe g = .ok .eq) (hi : Step i)
    (hlow : -reach i ≤ g - pos) (hhigh : g - pos ≤ reach i) :
    search probe n i pos = .ok (some g, g) := by
  induction i using Nat.strongRecOn generalizing pos with
  | ind i ih =>
    rcases Int.lt_trichotomy pos g with hpos | rfl | hpos
    · have hne : 0 < i := Nat.pos_of_ne_zero fun h0 => by
        rw [h0, reach_zero] at hhigh
        omega
      have hhalf := hi.reach_half hne
      rw [reach_pos hne] at hlow hhigh
      rw [search_gt (hg.orderAt_below hpos), if_neg (by omega)]
      exact ih (i / 2) (by omega) hi.half (by omega) (by omega)
    · have horder : orderAt probe n g = .ok .eq := by
        unfold orderAt
        rw [if_neg (by omega), if_neg (by omega), Int.toNat_natCast, hprobe]
      rw [search_eq horder, Int.toNat_natCast]
    · have hne : 0 < i := Nat.pos_of_ne_zero fun h0 => by
        rw [h0, reach_zero] at hlow
        omega
      have hhalf := hi.reach_half hne
      rw [reach_pos hne] at hlow hhigh
      rw [search_lt (hg.orderAt_above hpos), if_neg (by omega)]
      exact ih (i / 2) (by omega) hi.half (by omega) (by omega)

/-- **What is not there is missed right before or right behind its place.** -/
theorem search_absent (hg : Gap probe n g) (hprobe : g < n → probe g = .ok .lt) (hi : Step i)
    (hlow : -(2 * reach i + 1) ≤ 2 * (g - pos) - 1) (hhigh : 2 * (g - pos) - 1 ≤ 2 * reach i + 1) :
    ∃ last : Int, search probe n i pos = .ok (none, last) ∧ (last = g - 1 ∨ last = g) := by
  induction i using Nat.strongRecOn generalizing pos with
  | ind i ih =>
    by_cases hpos : pos < g
    · rw [search_gt (hg.orderAt_below hpos)]
      by_cases h0 : i = 0
      · rw [h0, reach_zero] at hhigh
        exact ⟨pos, if_pos h0, by omega⟩
      · have hne : 0 < i := Nat.pos_of_ne_zero h0
        have hhalf := hi.reach_half hne
        rw [reach_pos hne] at hlow hhigh
        rw [if_neg h0]
        exact ih (i / 2) (by omega) hi.half (by omega) (by omega)
    · have horder : orderAt probe n pos = .ok .lt := by
        rcases Int.lt_or_eq_of_le (Int.not_lt.1 hpos) with hgt | rfl
        · exact hg.orderAt_above hgt
        · unfold orderAt
          rw [if_neg (by omega)]
          split
          · rfl
          · rw [Int.toNat_natCast, hprobe (by omega)]
      rw [search_lt horder]
      by_cases h0 : i = 0
      · rw [h0, reach_zero] at hlow
        exact ⟨pos, if_pos h0, by omega⟩
      · have hne : 0 < i := Nat.pos_of_ne_zero h0
        have hhalf := hi.reach_half hne
        rw [reach_pos hne] at hlow hhigh
        rw [if_neg h0]
        exact ih (i / 2) (by omega) hi.half (by omega) (by omega)

/-! ## From the middle on -/

/-- The middle of a power of two that is not less than the number of positions. -/
theorem step_middle (k : Nat) : Step (2 ^ k / 2) := by
  cases k with
  | zero => exact .inl rfl
  | succ k => exact .inr ⟨k, by rw [Nat.pow_succ, Nat.mul_div_cancel _ (by decide)]⟩

theorem middle_cases (k : Nat) :
    (2 ^ k / 2 = 0 ∧ 2 ^ k = 1) ∨ (0 < 2 ^ k / 2 ∧ 2 ^ k = 2 * (2 ^ k / 2)) := by
  cases k with
  | zero => exact .inl ⟨rfl, rfl⟩
  | succ k =>
    have hk : 0 < 2 ^ k := Nat.two_pow_pos k
    rw [Nat.pow_succ]
    omega

theorem search_middle_found {k : Nat} (hg : Gap probe n g) (hn : n ≤ 2 ^ k) (hlt : g < n)
    (hprobe : probe g = .ok .eq) :
    search probe n (2 ^ k / 2) (2 ^ k / 2 : Nat) = .ok (some g, g) := by
  refine search_found hg hlt hprobe (step_middle k) ?_ ?_
  all_goals
    rcases middle_cases k with ⟨hzero, hone⟩ | ⟨hpos, htwo⟩
    · rw [hzero, reach_zero]
      omega
    · rw [reach_pos hpos]
      omega

theorem search_middle_absent {k : Nat} (hg : Gap probe n g) (hn : n ≤ 2 ^ k)
    (hprobe : g < n → probe g = .ok .lt) :
    ∃ last : Int, search probe n (2 ^ k / 2) (2 ^ k / 2 : Nat) = .ok (none, last) ∧
      (last = g - 1 ∨ last = g) := by
  have hle := hg.le
  refine search_absent hg hprobe (step_middle k) ?_ ?_
  all_goals
    rcases middle_cases k with ⟨hzero, hone⟩ | ⟨hpos, htwo⟩
    · rw [hzero, reach_zero]
      omega
    · rw [reach_pos hpos]
      omega

/-! ## Sorted lists -/

variable {β : Type v} {γ : Type w} [LinearOrder γ] {f : β → γ} {xs : List β}

/-- A sorted list is split where a value belongs. -/
theorem split_sorted (h : xs.Pairwise fun x x' => f x < f x') (y : γ) :
    ∃ l r, xs = l ++ r ∧ (∀ x ∈ l, f x < y) ∧ ∀ x ∈ r, y ≤ f x := by
  induction xs with
  | nil => exact ⟨[], [], rfl, nofun, nofun⟩
  | cons x xs ih =>
    obtain ⟨hhead, htail⟩ := List.pairwise_cons.1 h
    by_cases hx : f x < y
    · obtain ⟨l, r, rfl, hl, hr⟩ := ih htail
      exact ⟨x :: l, r, rfl, List.forall_mem_cons.2 ⟨hx, hl⟩, hr⟩
    · have hle : y ≤ f x := le_of_not_gt hx
      exact ⟨[], x :: xs, rfl, nofun,
        List.forall_mem_cons.2 ⟨hle, fun z hz => le_trans hle (le_of_lt (hhead z hz))⟩⟩

/-- A probe that compares a value with those of a list. -/
structure Compares (probe : Nat → Except ε Ordering) (f : β → γ) (xs : List β) (y : γ) : Prop where
  gt : ∀ p x, xs[p]? = some x → f x < y → probe p = .ok .gt
  eq : ∀ p x, xs[p]? = some x → f x = y → probe p = .ok .eq
  lt : ∀ p x, xs[p]? = some x → y < f x → probe p = .ok .lt

/-- **A search in a sorted list** finds the value, or ends right before or right behind the place
where it belongs. -/
theorem search_sorted (h : xs.Pairwise fun x x' => f x < f x') {y : γ}
    (hprobe : Compares probe f xs y) {k : Nat} (hn : xs.length ≤ 2 ^ k) :
    (∃ l x r, xs = l ++ x :: r ∧ f x = y ∧
      search probe xs.length (2 ^ k / 2) (2 ^ k / 2 : Nat) = .ok (some l.length, l.length)) ∨
    ∃ l r, xs = l ++ r ∧ (∀ x ∈ l, f x < y) ∧ (∀ x ∈ r, y < f x) ∧ ∃ last : Int,
      search probe xs.length (2 ^ k / 2) (2 ^ k / 2 : Nat) = .ok (none, last) ∧
        (last = l.length - 1 ∨ last = l.length) := by
  obtain ⟨l, r, rfl, hl, hr⟩ := split_sorted h y
  have hbelow : ∀ p < l.length, probe p = .ok .gt := fun p hp =>
    hprobe.gt p l[p] (by rw [List.getElem?_append_left hp, List.getElem?_eq_getElem hp])
      (hl _ (List.getElem_mem hp))
  -- only the first element of the right part can be the value itself
  have hright : ∀ x r', r = x :: r' → ∀ z ∈ r', y < f z := fun x r' hxr z hz =>
    lt_of_le_of_lt (hr x (hxr ▸ List.mem_cons_self))
      ((List.pairwise_cons.1 (hxr ▸ (List.pairwise_append.1 h).2.1)).1 z hz)
  have habove : ∀ p < (l ++ r).length, l.length < p → probe p = .ok .lt := fun p hp hlp => by
    obtain ⟨q, rfl⟩ := Nat.exists_eq_add_of_lt hlp
    cases r with
    | nil =>
      rw [List.append_nil] at hp
      omega
    | cons x r' =>
      have hq : q < r'.length := by
        rw [List.length_append, List.length_cons] at hp
        omega
      refine hprobe.lt _ r'[q] ?_ (hright x r' rfl _ (List.getElem_mem hq))
      rw [List.getElem?_append_right (by omega)]
      have hindex : l.length + q + 1 - l.length = q + 1 := by omega
      rw [hindex, List.getElem?_cons_succ, List.getElem?_eq_getElem hq]
  have hgap : Gap probe (l ++ r).length l.length :=
    ⟨by rw [List.length_append]; omega, hbelow, habove⟩
  cases r with
  | nil =>
    obtain ⟨last, hlast, hend⟩ := search_middle_absent hgap hn fun hlt => by
      rw [List.append_nil] at hlt
      omega
    exact .inr ⟨l, [], rfl, hl, nofun, last, hlast, hend⟩
  | cons x r' =>
    have hget : (l ++ x :: r')[l.length]? = some x := by
      rw [List.getElem?_append_right (Nat.le_refl _), Nat.sub_self, List.getElem?_cons_zero]
    rcases lt_or_eq_of_le (hr x List.mem_cons_self) with hlt | heq
    · obtain ⟨last, hlast, hend⟩ := search_middle_absent hgap hn fun _ => hprobe.lt _ x hget hlt
      exact .inr ⟨l, x :: r', rfl, hl, List.forall_mem_cons.2 ⟨hlt, hright x r' rfl⟩, last, hlast, hend⟩
    · refine .inl ⟨l, x, r', rfl, heq.symm, search_middle_found hgap hn ?_ (hprobe.eq _ x hget heq.symm)⟩
      rw [List.length_append, List.length_cons]
      omega

end Halving
