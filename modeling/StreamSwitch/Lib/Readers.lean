import Mathlib.Data.Finset.Card
import Mathlib.Data.List.Range

/-!
# Readers of a log that is trimmed behind them

The entries of a log are numbered; those in `[lo, hi)` are kept. Each reader goes
through the entries one by one: `left` lists those it has moved past, `current` is
the one it stands at, if any. `Reading lo hi left current` says that it has skipped
and repeated none, from some first entry on. `passedBy live left i` are the readers
that have moved past `i`; when these are all of them, `i` can go.
-/

namespace Readers

universe u

/-! ## One reader -/

/-- The reader has gone through the entries from `k` on, which was the oldest one when it began. -/
def Reading (lo hi : Nat) (left : List Nat) (current : Option Nat) : Prop :=
  ∃ k n, k ≤ lo ∧ lo ≤ k + n ∧ k + n ≤ hi ∧ left = List.range' k n ∧
    ∀ i, current = some i → i = k + n ∧ i < hi

variable {lo hi i : Nat} {left : List Nat} {current : Option Nat}

/-- Where a reader goes from the entry before `i`. -/
def entryAt (hi i : Nat) : Option Nat := if i < hi then some i else none

theorem Reading.start (h : lo ≤ hi) : Reading lo hi [] (entryAt hi lo) := by
  refine ⟨lo, 0, Nat.le_refl _, Nat.le_refl _, h, rfl, fun i hi => ?_⟩
  unfold entryAt at hi
  split at hi
  · cases hi
    exact ⟨rfl, by assumption⟩
  · cases hi

/-- A reader that has not begun. -/
theorem Reading.idle (h : lo ≤ hi) : Reading lo hi [] none :=
  ⟨lo, 0, Nat.le_refl _, Nat.le_refl _, h, rfl, nofun⟩

/-- It stands at an entry that is kept and that it has not moved past. -/
theorem Reading.current_mem (h : Reading lo hi left (some i)) : lo ≤ i ∧ i < hi ∧ i ∉ left := by
  obtain ⟨k, n, -, h2, -, rfl, h5⟩ := h
  obtain ⟨rfl, hlt⟩ := h5 i rfl
  refine ⟨h2, hlt, fun hmem => ?_⟩
  rw [List.mem_range'_1] at hmem
  omega

theorem Reading.advance (h : Reading lo hi left (some i)) :
    Reading lo hi (left ++ [i]) (entryAt hi (i + 1)) := by
  obtain ⟨k, n, h1, h2, -, rfl, h5⟩ := h
  obtain ⟨rfl, hlt⟩ := h5 i rfl
  refine ⟨k, n + 1, h1, by omega, by omega, ?_, fun j hj => ?_⟩
  · rw [List.range'_concat, Nat.one_mul]
  · unfold entryAt at hj
    split at hj
    · cases hj
      exact ⟨by omega, by assumption⟩
    · cases hj

/-- A reader at the end goes on with the oldest entry, which it has not moved past. -/
theorem Reading.resume (h : Reading lo hi left none) (hlo : lo < hi → lo ∉ left) :
    Reading lo hi left (entryAt hi lo) := by
  obtain ⟨k, n, h1, h2, h3, rfl, -⟩ := h
  refine ⟨k, n, h1, h2, h3, rfl, fun i hi => ?_⟩
  unfold entryAt at hi
  split at hi
  · next hlt =>
    cases hi
    have hnot := hlo hlt
    rw [List.mem_range'_1] at hnot
    exact ⟨by omega, hlt⟩
  · cases hi

theorem Reading.grow (h : Reading lo hi left current) : Reading lo (hi + 1) left current := by
  obtain ⟨k, n, h1, h2, h3, h4, h5⟩ := h
  exact ⟨k, n, h1, h2, by omega, h4, fun i hi => ⟨(h5 i hi).1, by have := (h5 i hi).2; omega⟩⟩

/-- The oldest entry goes once the reader has moved past it. -/
theorem Reading.trim (h : Reading lo hi left current) (hlo : lo ∈ left) :
    Reading (lo + 1) hi left current := by
  obtain ⟨k, n, h1, h2, h3, rfl, h5⟩ := h
  rw [List.mem_range'_1] at hlo
  exact ⟨k, n, by omega, by omega, h3, rfl, h5⟩

/-- What it moved past are its first entries. -/
theorem Reading.lo_mem (h : Reading lo hi left current) (hi : lo ≤ i) (hmem : i ∈ left) :
    lo ∈ left := by
  obtain ⟨k, n, h1, h2, h3, rfl, h5⟩ := h
  rw [List.mem_range'_1] at hmem ⊢
  omega

/-- It has moved past the kept entries before the one it stands at. -/
theorem Reading.mem_of_lt (h : Reading lo hi left (some i)) {j : Nat} (hj : lo ≤ j) (hji : j < i) :
    j ∈ left := by
  obtain ⟨k, n, h1, h2, h3, rfl, h5⟩ := h
  obtain ⟨rfl, -⟩ := h5 i rfl
  rw [List.mem_range'_1]
  omega

theorem Reading.not_mem_of_le (h : Reading lo hi left (some i)) {j : Nat} (hij : i ≤ j) :
    j ∉ left := by
  obtain ⟨k, n, h1, h2, h3, rfl, h5⟩ := h
  obtain ⟨rfl, -⟩ := h5 i rfl
  rw [List.mem_range'_1]
  omega

theorem Reading.lt_hi (h : Reading lo hi left current) (hmem : i ∈ left) : i < hi := by
  obtain ⟨k, n, h1, h2, h3, rfl, h5⟩ := h
  rw [List.mem_range'_1] at hmem
  omega

/-- **Exactly once, in order**: the entries it has stood at follow each other. -/
theorem Reading.inOrder (h : Reading lo hi left current) :
    ∃ k n, left ++ current.toList = List.range' k n := by
  obtain ⟨k, n, -, -, -, rfl, h5⟩ := h
  cases current with
  | none => exact ⟨k, n, List.append_nil _⟩
  | some i =>
    obtain ⟨rfl, -⟩ := h5 i rfl
    exact ⟨k, n + 1, by rw [List.range'_concat, Nat.one_mul]; rfl⟩

/-! ## All readers -/

section passedBy
variable {κ : Type u} {live : Finset κ} {past : κ → List Nat} {c : κ} {j : Nat}

def passedBy (live : Finset κ) (past : κ → List Nat) (i : Nat) : Finset κ :=
  {c ∈ live | i ∈ past c}

theorem mem_passedBy : c ∈ passedBy live past i ↔ c ∈ live ∧ i ∈ past c := Finset.mem_filter

theorem passedBy_subset : passedBy live past i ⊆ live := Finset.filter_subset _ _

/-- Not all have moved past `i`. -/
theorem passedBy_ne_iff : passedBy live past i ≠ live ↔ ∃ c ∈ live, i ∉ past c := by
  constructor
  · intro h
    by_contra hall
    push Not at hall
    exact h (Finset.filter_true_of_mem hall)
  · rintro ⟨c, hc, hi⟩ heq
    rw [← heq, mem_passedBy] at hc
    exact hi hc.2

theorem card_passedBy_lt_iff : (passedBy live past i).card < live.card ↔ ∃ c ∈ live, i ∉ past c := by
  rw [← passedBy_ne_iff]
  constructor
  · rintro h heq
    rw [heq] at h
    exact Nat.lt_irrefl _ h
  · exact fun h => Finset.card_lt_card (passedBy_subset.ssubset_of_ne h)

theorem passedBy_congr {live' : Finset κ} {past' : κ → List Nat} (hl : live' = live)
    (h : ∀ c ∈ live, i ∈ past' c ↔ i ∈ past c) : passedBy live' past' i = passedBy live past i := by
  subst hl
  exact Finset.filter_congr h

variable [DecidableEq κ]

/-- The reader `c` moves past `i`. -/
theorem card_passedBy_leave (hc : c ∈ live) (hi : i ∉ past c) :
    (passedBy live (Function.update past c (past c ++ [i])) i).card =
      (passedBy live past i).card + 1 := by
  have hins : passedBy live (Function.update past c (past c ++ [i])) i =
      insert c (passedBy live past i) := by
    ext d
    rw [Finset.mem_insert, mem_passedBy, mem_passedBy]
    by_cases hd : d = c
    · subst hd
      simp [hc]
    · simp [hd]
  rw [hins, Finset.card_insert_of_notMem fun hmem => hi (mem_passedBy.1 hmem).2]

/-- Two readers have not moved past `i`. -/
theorem card_passedBy_succ_lt {d : κ} (hc : c ∈ live) (hd : d ∈ live) (hne : d ≠ c)
    (hic : i ∉ past c) (hid : i ∉ past d) : (passedBy live past i).card + 1 < live.card := by
  rw [← card_passedBy_leave hc hic, card_passedBy_lt_iff]
  exact ⟨d, hd, by rwa [Function.update_of_ne hne]⟩

theorem passedBy_leave_ne (hj : j ≠ i) :
    passedBy live (Function.update past c (past c ++ [i])) j = passedBy live past j := by
  refine passedBy_congr rfl fun d _ => ?_
  by_cases hd : d = c
  · subst hd
    simp [hj]
  · simp [hd]

/-- A new reader has moved past nothing. -/
theorem passedBy_insert (hc : c ∉ live) :
    passedBy (insert c live) (Function.update past c []) i = passedBy live past i := by
  ext d
  rw [mem_passedBy, mem_passedBy, Finset.mem_insert]
  by_cases hd : d = c
  · subst hd
    simp [hc]
  · simp [hd]

theorem passedBy_erase : passedBy (live.erase c) past i = (passedBy live past i).erase c := by
  ext d
  simp only [mem_passedBy, Finset.mem_erase]
  tauto

end passedBy

end Readers
