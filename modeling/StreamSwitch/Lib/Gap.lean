import Mathlib.Data.List.DropRight
import Mathlib.Tactic.Common

/-!
# Counting gaps in a numbered sequence

A sender numbers its items `a + 1`, `a + 2`, ... and some of them arrive, in order.
The receiver counts what arrives and, from the second arrival on, the numbers it
skipped. `Knows` says what its counters mean: they add up to the length of the
window from the first to the last arrival, and the loss counter is the number of
items of that window that did not arrive. `knows_observe` is the step,
`Knows.exact` the result.

The number 0 stands for "nothing has arrived yet", so it must not be in use.
-/

namespace Gap

universe u

structure Counter where
  received : Nat := 0
  lost : Nat := 0
  last : Nat := 0

/-- The item numbered `n` arrives. -/
def Counter.receive (c : Counter) (n : Nat) : Counter :=
  { received := c.received + 1
    lost := c.lost + if c.last ≠ 0 ∧ n > c.last + 1 then n - (c.last + 1) else 0
    last := n }

variable {α : Type u} (arrived : α → Bool) (seq : α → Nat)

/-- The receiver's view of one item. -/
def observe (c : Counter) (x : α) : Counter := if arrived x then c.receive (seq x) else c

/-- The items from the first to the last one that arrived. -/
def window (xs : List α) : List α :=
  (xs.dropWhile fun x => !arrived x).rdropWhile fun x => !arrived x

/-- The items are numbered from `a + 1` on. -/
def Numbered (a : Nat) (xs : List α) : Prop := ∀ (j : Nat) x, xs[j]? = some x → seq x = a + j + 1

/-! ## Windows -/

variable {arrived seq} {a : Nat} {xs : List α} {x : α}

theorem dropWhile_append_singleton (p : α → Bool) (h : xs.dropWhile p ≠ []) :
    (xs ++ [x]).dropWhile p = xs.dropWhile p ++ [x] := by
  rw [List.dropWhile_append]
  cases hd : xs.dropWhile p with
  | nil => exact absurd hd h
  | cons y ys => rfl

/-- An item that does not arrive does not change the window. -/
theorem window_append_of_not (xs : List α) (h : arrived x = false) :
    window arrived (xs ++ [x]) = window arrived xs := by
  unfold window
  by_cases hd : xs.dropWhile (fun x => !arrived x) = []
  · rw [List.dropWhile_append, hd]
    simp [h]
  · rw [dropWhile_append_singleton _ hd]
    exact List.rdropWhile_concat_pos _ _ _ (by simp [h])

/-- An item that arrives closes the window. -/
theorem window_append (xs : List α) (h : arrived x = true) :
    window arrived (xs ++ [x]) = (xs.dropWhile fun x => !arrived x) ++ [x] := by
  unfold window
  by_cases hd : xs.dropWhile (fun x => !arrived x) = []
  · rw [List.dropWhile_append, hd]
    simp [h, List.rdropWhile_singleton]
  · rw [dropWhile_append_singleton _ hd]
    exact List.rdropWhile_concat_neg _ _ _ (by simp [h])

/-- The items around the window. -/
theorem exists_window (arrived : α → Bool) (xs : List α) :
    ∃ pre suf, xs = pre ++ (window arrived xs ++ suf) ∧
      (xs.dropWhile fun x => !arrived x) = window arrived xs ++ suf ∧
      ∀ y ∈ suf, arrived y = false := by
  refine ⟨xs.takeWhile fun x => !arrived x, (xs.dropWhile fun x => !arrived x).rtakeWhile
    fun x => !arrived x, ?_, ?_, ?_⟩
  · rw [window, List.rdropWhile_append_rtakeWhile, List.takeWhile_append_dropWhile]
  · rw [window, List.rdropWhile_append_rtakeWhile]
  · intro y hy
    simpa using List.mem_rtakeWhile_imp hy

/-- Nothing has arrived when the window is empty. -/
theorem dropWhile_eq_nil_of_window (h : window arrived xs = []) :
    (xs.dropWhile fun x => !arrived x) = [] := by
  have hall := List.rdropWhile_eq_nil_iff.1 h
  cases hd : xs.dropWhile fun x => !arrived x with
  | nil => rfl
  | cons y ys =>
    have h1 : (!arrived y) = true := hall y (by rw [hd]; exact List.mem_cons_self)
    have h2 := List.head_dropWhile_not (l := xs) (fun x => !arrived x) (by rw [hd]; exact nofun)
    simp only [hd, List.head_cons] at h2
    rw [h1] at h2
    cases h2

/-! ## Numbering -/

theorem Numbered.nil (seq : α → Nat) (a : Nat) : Numbered seq a [] := by
  intro j x hx
  rw [List.getElem?_nil] at hx
  cases hx

theorem Numbered.of_append {ys : List α} (h : Numbered seq a (xs ++ ys)) : Numbered seq a xs := by
  intro j y hy
  have hlt : j < xs.length := (List.getElem?_eq_some_iff.1 hy).1
  exact h j y (by rw [List.getElem?_append_left hlt]; exact hy)

theorem Numbered.drop {ys : List α} (h : Numbered seq a (xs ++ ys)) :
    Numbered seq (a + xs.length) ys := by
  intro j y hy
  have := h (xs.length + j) y (by
    rw [List.getElem?_append_right (Nat.le_add_right ..), Nat.add_sub_cancel_left]
    exact hy)
  omega

theorem Numbered.append_singleton (h : Numbered seq a xs) (hx : seq x = a + xs.length + 1) :
    Numbered seq a (xs ++ [x]) := by
  intro j y hy
  rcases Nat.lt_trichotomy j xs.length with hj | hj | hj
  · exact h j y (by rw [List.getElem?_append_left hj] at hy; exact hy)
  · subst hj
    simp only [List.getElem?_concat_length, Option.some.injEq] at hy
    rw [← hy]
    exact hx
  · rw [List.getElem?_eq_none (by simp; omega)] at hy
    cases hy

theorem Numbered.last (h : Numbered seq a (xs ++ [x])) : seq x = a + xs.length + 1 :=
  h xs.length x List.getElem?_concat_length

/-- The numbers of the first and the last item of a numbered list. -/
theorem Numbered.ends {w : List α} (h : Numbered seq a w) (hw : w ≠ []) :
    ∃ first last, w.head? = some first ∧ w.getLast? = some last ∧
      seq first = a + 1 ∧ seq last = a + w.length := by
  have hlen := List.length_pos_iff.2 hw
  refine ⟨w.head hw, w.getLast hw, List.head?_eq_some_head hw, List.getLast?_eq_some_getLast hw,
    ?_, ?_⟩
  · have := h 0 (w.head hw) (by rw [← List.head?_eq_getElem?, List.head?_eq_some_head hw])
    omega
  · have := h (w.length - 1) (w.getLast hw)
      (by rw [← List.getLast?_eq_getElem?, List.getLast?_eq_some_getLast hw])
    omega

/-! ## The receiver -/

/-- What the receiver knows about the items `xs`. -/
structure Knows (arrived : α → Bool) (seq : α → Nat) (xs : List α) (c : Counter) : Prop where
  total : c.received + c.lost = (window arrived xs).length
  lost : c.lost = ((window arrived xs).filter fun x => !arrived x).length
  last : c.last = ((window arrived xs).getLast?.map seq).getD 0

/-- One more item. -/
theorem knows_observe {c : Counter} (hn : Numbered seq a (xs ++ [x]))
    (hc : Knows arrived seq xs c) :
    Knows arrived seq (xs ++ [x]) (observe arrived seq c x) := by
  unfold observe
  by_cases hx : arrived x = true
  · rw [if_pos hx]
    have hwin := window_append xs hx
    obtain ⟨pre, suf, hxs, hd, hsuf⟩ := exists_window arrived xs
    have hseq := hn.last
    by_cases hw : window arrived xs = []
    · -- the first arrival: nothing is lost
      rw [dropWhile_eq_nil_of_window hw, List.nil_append] at hwin
      have h1 := hc.total
      have h2 := hc.last
      rw [hw] at h1 h2
      have h2' : c.last = 0 := h2
      simp only [List.length_nil] at h1
      refine ⟨?_, ?_, ?_⟩
      · simp [Counter.receive, hwin, h2']
        omega
      · simp [Counter.receive, hwin, hx, h2']
        omega
      · simp [Counter.receive, hwin]
    · -- the items after the window are the ones skipped
      rw [hd] at hwin
      have hnum : Numbered seq (a + pre.length) (window arrived xs) := by
        have h1 := hn.of_append
        rw [hxs] at h1
        exact h1.drop.of_append
      obtain ⟨first, last, -, hl, -, hlast⟩ := hnum.ends hw
      have hcl : c.last = a + pre.length + (window arrived xs).length := by
        rw [hc.last, hl]
        exact hlast
      have hlen : xs.length = pre.length + ((window arrived xs).length + suf.length) := by
        conv => lhs; rw [hxs]
        rw [List.length_append, List.length_append]
      have hpos := List.length_pos_iff.2 hw
      have hgap : (if c.last ≠ 0 ∧ seq x > c.last + 1 then seq x - (c.last + 1) else 0) =
          suf.length := by
        split <;> omega
      have hfil : suf.filter (fun x => !arrived x) = suf :=
        List.filter_eq_self.2 fun y hy => by simp [hsuf y hy]
      have h1 := hc.total
      have h2 := hc.lost
      refine ⟨?_, ?_, ?_⟩
      · rw [hwin]
        simp only [Counter.receive, hgap, List.length_append, List.length_singleton]
        omega
      · rw [hwin]
        simp only [Counter.receive, hgap, List.filter_append, hfil, List.length_append]
        simp [hx]
        omega
      · simp [Counter.receive, hwin]
  · have hx' : arrived x = false := by simpa using hx
    rw [if_neg hx]
    have hwin := window_append_of_not xs hx'
    exact ⟨by rw [hwin]; exact hc.total, by rw [hwin]; exact hc.lost,
      by rw [hwin]; exact hc.last⟩

theorem knows_nil (arrived : α → Bool) (seq : α → Nat) : Knows arrived seq [] {} :=
  ⟨rfl, rfl, rfl⟩

/-- The counters never exceed what was sent. -/
theorem Knows.le {c : Counter} (hn : Numbered seq a xs) (hc : Knows arrived seq xs c) :
    c.received + c.lost ≤ xs.length ∧ c.last ≤ a + xs.length := by
  obtain ⟨pre, suf, hxs, -, -⟩ := exists_window arrived xs
  have hlen : xs.length = pre.length + ((window arrived xs).length + suf.length) := by
    conv => lhs; rw [hxs]
    rw [List.length_append, List.length_append]
  have h1 := hc.total
  refine ⟨by omega, ?_⟩
  by_cases hw : window arrived xs = []
  · rw [hc.last, hw]
    exact Nat.zero_le _
  · rw [hxs] at hn
    obtain ⟨first, last, -, hl, -, hlast⟩ := hn.drop.of_append.ends hw
    rw [hc.last, hl]
    show seq last ≤ _
    omega

/-- **The counters are exact**: they add up to the numbers from the first to the last arrival. -/
theorem Knows.exact {c : Counter} (hn : Numbered seq a xs) (hc : Knows arrived seq xs c)
    (hw : window arrived xs ≠ []) :
    ∃ first last, (window arrived xs).head? = some first ∧
      (window arrived xs).getLast? = some last ∧
      c.received + c.lost = seq last - seq first + 1 := by
  obtain ⟨pre, suf, hxs, -, -⟩ := exists_window arrived xs
  rw [hxs] at hn
  obtain ⟨first, last, hf, hl, h1, h2⟩ := hn.drop.of_append.ends hw
  have hpos := List.length_pos_iff.2 hw
  have htotal := hc.total
  exact ⟨first, last, hf, hl, by omega⟩

end Gap
