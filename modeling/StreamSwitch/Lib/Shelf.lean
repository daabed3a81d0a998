import Mathlib.Tactic.Common
import Mathlib.Logic.Function.Basic

/-!
# A row of segments

`seg i` is the `i`-th segment of a sequence that is kept in parts, the newest
part being `seg 0`. `row seg n` reads the segments `n, …, 1, 0` one after the
other, oldest first. Making room for a new part drops `seg n` and moves each
segment one place up, starting at the old end, so that a hole moves down the row:
`row_move` says that moving into a hole changes nothing.
-/

namespace Shelf

universe u

variable {β : Type u} {seg seg' : Nat → List β}

def row (seg : Nat → List β) : Nat → List β
  | 0 => seg 0
  | n + 1 => seg (n + 1) ++ row seg n

/-- The segment `i` is moved to the place above it. -/
def move (seg : Nat → List β) (i : Nat) : Nat → List β :=
  Function.update (Function.update seg (i + 1) (seg i)) i []

theorem row_congr {n : Nat} (h : ∀ i ≤ n, seg i = seg' i) : row seg n = row seg' n := by
  induction n with
  | zero => exact h 0 (Nat.le_refl 0)
  | succ n ih =>
    unfold row
    rw [h (n + 1) (Nat.le_refl _), ih fun i hi => h i (Nat.le_succ_of_le hi)]

theorem row_nil (n : Nat) : row (fun _ => ([] : List β)) n = [] := by
  induction n with
  | zero => rfl
  | succ n ih => exact ih

/-- The newest segment is at the end of the row. -/
theorem row_update_zero (seg : Nat → List β) (l : List β) (n : Nat) :
    row (Function.update seg 0 (seg 0 ++ l)) n = row seg n ++ l := by
  induction n with
  | zero => simp [row]
  | succ n ih =>
    unfold row
    rw [ih, Function.update_of_ne (Nat.succ_ne_zero n), List.append_assoc]

/-- The oldest segment is at its front. -/
theorem row_eq_append (seg : Nat → List β) (n : Nat) :
    row seg n = seg n ++ row (Function.update seg n []) n := by
  cases n with
  | zero => simp [row]
  | succ n =>
    have h : row (Function.update seg (n + 1) []) n = row seg n :=
      row_congr fun i hi => Function.update_of_ne (by omega) ..
    simp only [row, h, Function.update_self, List.nil_append]

theorem move_self (seg : Nat → List β) (i : Nat) : move seg i i = [] := by
  simp [move]

theorem move_succ (seg : Nat → List β) (i : Nat) : move seg i (i + 1) = seg i := by
  simp [move]

theorem move_of_ne (seg : Nat → List β) {i j : Nat} (h1 : j ≠ i) (h2 : j ≠ i + 1) :
    move seg i j = seg j := by
  unfold move
  rw [Function.update_of_ne h1, Function.update_of_ne h2]

/-- What holds between the places of two rows holds when the same segment moves in both. -/
theorem move_rel {γ : Type u} {seg : Nat → List β} {g : Nat → List γ}
    {R : List β → List γ → Prop} (hnil : R [] []) {i n : Nat} (hi : i ≤ n)
    (h : ∀ j ≤ n, R (seg j) (g j)) (j : Nat) (hj : j ≤ n) :
    R (move seg i j) (move g i j) := by
  by_cases h1 : j = i + 1
  · rw [h1, move_succ, move_succ]
    exact h i hi
  · by_cases h2 : j = i
    · rw [h2, move_self, move_self]
      exact hnil
    · rw [move_of_ne _ h2 h1, move_of_ne _ h2 h1]
      exact h j hj

/-- Moving a segment into a hole keeps the row. -/
theorem row_move {i n : Nat} (h : seg (i + 1) = []) (hn : i + 1 ≤ n) :
    row (move seg i) n = row seg n := by
  induction n with
  | zero => omega
  | succ n ih =>
    unfold row
    rcases Nat.lt_or_ge i n with hlt | hge
    · rw [ih hlt, move_of_ne seg (by omega) (by omega)]
    · obtain rfl : i = n := by omega
      have hrow : row (move seg i) i = row (Function.update seg i []) i := by
        refine row_congr fun j hj => ?_
        rcases Nat.lt_or_ge j i with hji | hji
        · rw [move_of_ne seg (by omega) (by omega), Function.update_of_ne (by omega)]
        · obtain rfl : j = i := by omega
          rw [move_self, Function.update_self]
      rw [move_succ, hrow, h, List.nil_append, ← row_eq_append]

theorem row_flatten (seg : Nat → List (List β)) (n : Nat) :
    row (fun i => (seg i).flatten) n = (row seg n).flatten := by
  induction n with
  | zero => rfl
  | succ n ih =>
    unfold row
    rw [ih, List.flatten_append]

end Shelf
