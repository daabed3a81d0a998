import Mathlib.Tactic.Common

/-!
# Tasks

The threads or greenlets of a system are a list of task states: a task is known by
its position, a step of a task is a `set`, and a new task is appended. `Each P` says
that `P` holds of every task, `AtMostOne p` that two tasks in states with `p` are the
same one. `OneActive` says which task is under way, with what it is doing, when all
others have finished. Their rules follow these changes of the list.
-/

namespace Tasks

universe u v

variable {α : Type u} {l : List α} {i c : Nat} {a a' b : α}

theorem getElem?_set_some (h : (l.set c a')[i]? = some b) :
    (i = c ∧ b = a') ∨ (i ≠ c ∧ l[i]? = some b) := by
  by_cases hi : i = c
  · subst hi
    rw [List.getElem?_set] at h
    simp only [if_true] at h
    split at h
    · cases h
      exact .inl ⟨rfl, rfl⟩
    · cases h
  · rw [List.getElem?_set_ne (Ne.symm hi)] at h
    exact .inr ⟨hi, h⟩

theorem getElem?_set_self (h : l[c]? = some a) : (l.set c a')[c]? = some a' := by
  obtain ⟨hlt, -⟩ := List.getElem?_eq_some_iff.1 h
  rw [List.getElem?_set_self hlt]

theorem getElem?_append_some (h : (l ++ [a])[i]? = some b) :
    (i = l.length ∧ b = a) ∨ (i ≠ l.length ∧ l[i]? = some b) := by
  rcases Nat.lt_trichotomy i l.length with hi | hi | hi
  · rw [List.getElem?_append_left hi] at h
    exact .inr ⟨by omega, h⟩
  · subst hi
    rw [List.getElem?_concat_length] at h
    cases h
    exact .inl ⟨rfl, rfl⟩
  · rw [List.getElem?_eq_none (by simp; omega)] at h
    cases h

theorem getElem?_append_of_some (h : l[i]? = some b) : (l ++ [a])[i]? = some b := by
  obtain ⟨hlt, -⟩ := List.getElem?_eq_some_iff.1 h
  rw [List.getElem?_append_left hlt, h]

theorem getElem?_modify_some {f : α → α} (h : (l.modify c f)[i]? = some b) :
    (i = c ∧ ∃ a, l[c]? = some a ∧ b = f a) ∨ (i ≠ c ∧ l[i]? = some b) := by
  by_cases hi : i = c
  · subst hi
    rw [List.getElem?_modify_eq] at h
    obtain ⟨a, ha, rfl⟩ := Option.map_eq_some_iff.1 h
    exact .inl ⟨rfl, a, ha, rfl⟩
  · rw [List.getElem?_modify_ne _ _ (Ne.symm hi)] at h
    exact .inr ⟨hi, h⟩

/-! ## All tasks -/

/-- `P` holds of every task. -/
def Each (P : Nat → α → Prop) (l : List α) : Prop := ∀ i a, l[i]? = some a → P i a

variable {P Q : Nat → α → Prop}

theorem Each.nil : Each P [] := by
  intro i a h
  rw [List.getElem?_nil] at h
  cases h

theorem Each.mono (h : Each P l) (hPQ : ∀ i a, l[i]? = some a → P i a → Q i a) : Each Q l :=
  fun i a ha => hPQ i a ha (h i a ha)

/-- A step of one task: what it reaches has `Q`, and the other tasks keep their property. -/
theorem Each.set (h : Each P l) (hc : Q c a')
    (hother : ∀ i a, i ≠ c → l[i]? = some a → P i a → Q i a) : Each Q (l.set c a') := by
  intro i b hb
  rcases getElem?_set_some hb with ⟨rfl, rfl⟩ | ⟨hne, hb⟩
  · exact hc
  · exact hother i b hne hb (h i b hb)

theorem Each.append (h : Each P l) (hc : Q l.length a)
    (hother : ∀ i b, l[i]? = some b → P i b → Q i b) : Each Q (l ++ [a]) := by
  intro i b hb
  rcases getElem?_append_some hb with ⟨rfl, rfl⟩ | ⟨-, hb⟩
  · exact hc
  · exact hother i b hb (h i b hb)

/-- One task is changed in place. -/
theorem Each.modify {f : α → α} (h : Each P l) (hc : ∀ a, l[c]? = some a → P c a → Q c (f a))
    (hother : ∀ i a, i ≠ c → l[i]? = some a → P i a → Q i a) : Each Q (l.modify c f) := by
  intro i b hb
  rcases getElem?_modify_some hb with ⟨rfl, a, ha, rfl⟩ | ⟨hi, hb⟩
  · exact hc a ha (h i a ha)
  · exact hother i b hi hb (h i b hb)

/-! ## At most one task -/

/-- Two tasks in states with `p` are the same task. -/
def AtMostOne (p : α → Prop) (l : List α) : Prop :=
  ∀ (i j : Nat) (a b : α), l[i]? = some a → l[j]? = some b → p a → p b → i = j

variable {p : α → Prop}

theorem AtMostOne.nil : AtMostOne p ([] : List α) := by
  intro i j a b h
  rw [List.getElem?_nil] at h
  cases h

/-- A task may leave `p`, or enter it when no other task is there. -/
theorem AtMostOne.set (h : AtMostOne p l)
    (hc : p a' → ∀ i a, i ≠ c → l[i]? = some a → ¬ p a) : AtMostOne p (l.set c a') := by
  intro i j x y hx hy hpx hpy
  rcases getElem?_set_some hx with ⟨hi, hxa⟩ | ⟨hi, hx'⟩
  · rcases getElem?_set_some hy with ⟨hj, -⟩ | ⟨hj, hy'⟩
    · exact hi.trans hj.symm
    · exact absurd hpy (hc (hxa ▸ hpx) j y hj hy')
  · rcases getElem?_set_some hy with ⟨-, hya⟩ | ⟨-, hy'⟩
    · exact absurd hpx (hc (hya ▸ hpy) i x hi hx')
    · exact h i j x y hx' hy' hpx hpy

theorem AtMostOne.append (h : AtMostOne p l) (hc : ¬ p a) : AtMostOne p (l ++ [a]) := by
  intro i j x y hx hy hpx hpy
  rcases getElem?_append_some hx with ⟨-, rfl⟩ | ⟨-, hx⟩
  · exact absurd hpx hc
  · rcases getElem?_append_some hy with ⟨-, rfl⟩ | ⟨-, hy⟩
    · exact absurd hpy hc
    · exact h i j x y hx hy hpx hpy

/-- A new task may be in `p` when no other task is. -/
theorem AtMostOne.append_of_none (h : ∀ (i : Nat) b, l[i]? = some b → ¬ p b) :
    AtMostOne p (l ++ [a]) := by
  intro i j x y hx hy hpx hpy
  rcases getElem?_append_some hx with ⟨hi, -⟩ | ⟨-, hx⟩
  · rcases getElem?_append_some hy with ⟨hj, -⟩ | ⟨-, hy⟩
    · exact hi.trans hj.symm
    · exact absurd hpy (h j y hy)
  · exact absurd hpx (h i x hx)

/-! ## One task under way -/

/-- The task under way, if any, is doing what `active` says; every other one has finished. -/
structure OneActive {β : Type v} (pos : α → β) (finished : β → Prop) (active : Option (Nat × β))
    (l : List α) : Prop where
  underway : ∀ i b, active = some (i, b) → ∃ a, l[i]? = some a ∧ pos a = b
  others : ∀ i a, l[i]? = some a → (∀ b, active ≠ some (i, b)) → finished (pos a)

namespace OneActive

variable {β : Type v} {pos : α → β} {finished : β → Prop} {active : Option (Nat × β)} {f : α → α}
  {b₁ : β}

theorem nil : OneActive pos finished none ([] : List α) := by
  refine ⟨fun i b h => ?_, fun i a h => ?_⟩
  · cases h
  · cases h

/-- What a task that is not finished is doing. -/
theorem eq_active (h : OneActive pos finished active l) (ha : l[i]? = some a)
    (hpos : ¬ finished (pos a)) : active = some (i, pos a) := by
  have hex : ∃ b, active = some (i, b) := by
    by_contra hno
    exact hpos (h.others i a ha fun b hb => hno ⟨b, hb⟩)
  obtain ⟨b, hb⟩ := hex
  obtain ⟨a', ha', rfl⟩ := h.underway i b hb
  rw [ha] at ha'
  cases ha'
  exact hb

/-- The index of a new task is free. -/
theorem length_free (h : OneActive pos finished active l) (b : β) : active ≠ some (l.length, b) := by
  intro hb
  obtain ⟨a, ha, -⟩ := h.underway _ _ hb
  rw [List.getElem?_eq_none (Nat.le_refl _)] at ha
  cases ha

theorem append (h : OneActive pos finished active l) (ha : finished (pos a)) :
    OneActive pos finished active (l ++ [a]) := by
  refine ⟨fun i b hb => ?_, fun i b hb hfree => ?_⟩
  · obtain ⟨a', ha', hpos⟩ := h.underway i b hb
    exact ⟨a', getElem?_append_of_some ha', hpos⟩
  · rcases getElem?_append_some hb with ⟨-, rfl⟩ | ⟨-, hb⟩
    · exact ha
    · exact h.others i b hb hfree

/-- A task that is not the one under way is moved, and has then finished. -/
theorem modify_other (h : OneActive pos finished active l) (hc : ∀ b, active ≠ some (c, b))
    (hf : ∀ a, finished (pos (f a))) : OneActive pos finished active (l.modify c f) := by
  refine ⟨fun i b hb => ?_, fun i b hb hfree => ?_⟩
  · have hi : i ≠ c := by
      rintro rfl
      exact hc b hb
    obtain ⟨a, ha, hpos⟩ := h.underway i b hb
    exact ⟨a, by rw [List.getElem?_modify_ne _ _ (Ne.symm hi), ha], hpos⟩
  · rcases getElem?_modify_some hb with ⟨-, a, -, rfl⟩ | ⟨-, hb⟩
    · exact hf a
    · exact h.others i b hb hfree

/-- A task finishes, and then none is under way. -/
theorem finish (h : OneActive pos finished active l) (hact : ∀ j b, active = some (j, b) → j = c)
    (hf : ∀ a, finished (pos (f a))) : OneActive pos finished none (l.modify c f) := by
  refine ⟨fun i b hb => ?_, fun i b hb _ => ?_⟩
  · cases hb
  · rcases getElem?_modify_some hb with ⟨-, a, -, rfl⟩ | ⟨hi, hb⟩
    · exact hf a
    · exact h.others i b hb fun b' hb' => hi (hact i b' hb')

/-- A task gets under way, or goes on. -/
theorem become (h : OneActive pos finished active l) (hact : ∀ j b, active = some (j, b) → j = c)
    (hc : c < l.length) (hf : ∀ a, pos (f a) = b₁) :
    OneActive pos finished (some (c, b₁)) (l.modify c f) := by
  refine ⟨fun i b hb => ?_, fun i b hb hfree => ?_⟩
  · cases hb
    exact ⟨f l[c], by rw [List.getElem?_modify_eq, List.getElem?_eq_getElem hc]; rfl, hf _⟩
  · rcases getElem?_modify_some hb with ⟨rfl, -⟩ | ⟨hi, hb⟩
    · exact absurd rfl (hfree b₁)
    · exact h.others i b hb fun b' hb' => hi (hact i b' hb')

end OneActive

end Tasks
