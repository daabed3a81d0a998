import Mathlib.Logic.Function.Basic
import Mathlib.Tactic.Common

/-!
# Delayed tasks

A scheduler gives a token for every task that it is to run later, and runs each at most once.
Its user keeps tokens in slots, one for each kind of task: `arm` schedules a task and keeps its
token, `disarm` unschedules the task whose token is kept, `forget` drops the token and nothing
else, and `fire` takes a task that is due. `Sound` says that the slots hold exactly the tokens
of the waiting tasks.
-/

universe u v

structure Alarm (κ : Type u) (α : Type v) where
  token : Nat
  kind : κ
  argument : α

/-- The slots, the waiting tasks, and how many tokens were given. -/
structure Alarms (κ : Type u) (α : Type v) where
  slot : κ → Option Nat := fun _ => none
  waiting : List (Alarm κ α) := []
  count : Nat := 0

namespace Alarms

variable {κ : Type u} {α : Type v} {s s' : Alarms κ α} {k : κ} {arg : α}
  {token : Nat} {a : Alarm κ α}

/-- The scheduler no longer has the task of the token. -/
def remove (s : Alarms κ α) (token : Nat) : Alarms κ α :=
  { s with waiting := s.waiting.filter fun a => a.token ≠ token }

/-- The task of the token, and what is left. -/
def fire (s : Alarms κ α) (token : Nat) : Option (Alarm κ α × Alarms κ α) :=
  (s.waiting.find? fun a => a.token = token).map fun a => (a, s.remove token)

/-- A slot holds a token exactly while the task of that token is waiting. -/
structure Sound (s : Alarms κ α) : Prop where
  slot : ∀ k token, s.slot k = some token ↔ ∃ a ∈ s.waiting, a.kind = k ∧ a.token = token
  given : ∀ a ∈ s.waiting, a.token ≤ s.count
  distinct : ∀ a ∈ s.waiting, ∀ b ∈ s.waiting, a.token = b.token → a = b

theorem sound_empty : Sound ({} : Alarms κ α) :=
  ⟨fun _ _ => iff_of_false nofun (by rintro ⟨a, ha, -⟩; cases ha), nofun, nofun⟩

theorem Sound.slot_eq_none (h : Sound s) : s.slot k = none ↔ ∀ a ∈ s.waiting, a.kind ≠ k := by
  constructor
  · intro hk a ha hkind
    have := (h.slot k a.token).2 ⟨a, ha, hkind, rfl⟩
    rw [hk] at this
    cases this
  · intro hk
    rw [Option.eq_none_iff_forall_ne_some]
    intro token hs
    obtain ⟨a, ha, hkind, -⟩ := (h.slot k token).1 hs
    exact hk a ha hkind

theorem Sound.waiting_eq_nil (h : Sound s) : s.waiting = [] ↔ ∀ k, s.slot k = none := by
  rw [List.eq_nil_iff_forall_not_mem]
  constructor
  · intro hw k
    exact h.slot_eq_none.2 fun a ha => absurd ha (hw a)
  · intro hs a ha
    exact h.slot_eq_none.1 (hs a.kind) a ha rfl

theorem mem_remove {b : Alarm κ α} :
    b ∈ (s.remove token).waiting ↔ b ∈ s.waiting ∧ b.token ≠ token := by
  simp [remove]

theorem fire_eq_some (h : s.fire token = some (a, s')) :
    a ∈ s.waiting ∧ a.token = token ∧ s' = s.remove a.token := by
  unfold fire at h
  obtain ⟨b, hfind, heq⟩ := Option.map_eq_some_iff.1 h
  cases heq
  have htoken : a.token = token := by simpa using List.find?_some hfind
  exact ⟨List.mem_of_find?_eq_some hfind, htoken, by rw [htoken]⟩

/-- Where the slots hold the waiting tasks again but a slot has at most a newer token, it was empty. -/
theorem Sound.slot_eq_none_of_kept (h : Sound s)
    (h' : ∀ k token, s'.slot k = some token ↔ ∃ a ∈ s'.waiting, a.kind = k ∧ a.token = token)
    (hnewer : ∀ token, s'.slot k = some token → s.count < token)
    (hwaiting : ∀ a ∈ s.waiting, a ∈ s'.waiting) : s.slot k = none := by
  rw [h.slot_eq_none]
  intro a ha hkind
  have hslot := (h' k a.token).2 ⟨a, hwaiting a ha, hkind, rfl⟩
  have hlt := hnewer _ hslot
  have hle := h.given a ha
  omega

variable [DecidableEq κ]

def forget (s : Alarms κ α) (k : κ) : Alarms κ α :=
  { s with slot := Function.update s.slot k none }

def arm (s : Alarms κ α) (k : κ) (arg : α) : Alarms κ α where
  slot := Function.update s.slot k (some (s.count + 1))
  waiting := ⟨s.count + 1, k, arg⟩ :: s.waiting
  count := s.count + 1

def disarm (s : Alarms κ α) (k : κ) : Alarms κ α :=
  match s.slot k with
  | none => s
  | some token => (s.remove token).forget k

@[simp] theorem forget_slot_self (s : Alarms κ α) (k : κ) : (s.forget k).slot k = none :=
  Function.update_self ..

@[simp] theorem arm_slot_self (s : Alarms κ α) (k : κ) (arg : α) :
    (s.arm k arg).slot k = some (s.count + 1) :=
  Function.update_self ..

theorem arm_slot_of_ne {k' : κ} (h : k' ≠ k) : (s.arm k arg).slot k' = s.slot k' :=
  Function.update_of_ne h _ _

theorem forget_of_none (h : s.slot k = none) : s.forget k = s := by
  unfold forget
  rw [← h, Function.update_eq_self]

/-- A task may be scheduled when none of its kind is waiting, and only then. -/
theorem sound_arm_iff (h : Sound s) : Sound (s.arm k arg) ↔ s.slot k = none := by
  have hfresh : ∀ a ∈ s.waiting, a.token ≠ s.count + 1 := by
    intro a ha heq
    have := h.given a ha
    omega
  constructor
  · intro h'
    refine h.slot_eq_none_of_kept h'.slot (fun token htoken => ?_) fun a ha => .tail _ ha
    cases (arm_slot_self s k arg).symm.trans htoken
    omega
  · intro hk
    refine ⟨?_, ?_, ?_⟩
    · intro k' token
      show Function.update s.slot k (some (s.count + 1)) k' = some token ↔ _
      by_cases hkk : k' = k
      · subst hkk
        rw [Function.update_self]
        constructor
        · rintro ⟨⟩
          exact ⟨_, .head _, rfl, rfl⟩
        · rintro ⟨a, ha, hkind, htoken⟩
          rcases List.mem_cons.1 ha with rfl | ha
          · exact congrArg some htoken
          · exact absurd hkind (h.slot_eq_none.1 hk a ha)
      · rw [Function.update_of_ne hkk, h.slot]
        constructor
        · rintro ⟨a, ha, hkind, htoken⟩
          exact ⟨a, .tail _ ha, hkind, htoken⟩
        · rintro ⟨a, ha, hkind, htoken⟩
          rcases List.mem_cons.1 ha with rfl | ha
          · exact absurd hkind.symm hkk
          · exact ⟨a, ha, hkind, htoken⟩
    · intro a ha
      show a.token ≤ s.count + 1
      rcases List.mem_cons.1 ha with rfl | ha
      · exact Nat.le_refl _
      · have := h.given a ha
        omega
    · intro a ha b hb heq
      rcases List.mem_cons.1 ha with rfl | ha
      · rcases List.mem_cons.1 hb with rfl | hb
        · rfl
        · exact absurd heq.symm (hfresh b hb)
      · rcases List.mem_cons.1 hb with rfl | hb
        · exact absurd heq (hfresh a ha)
        · exact h.distinct a ha b hb heq

/-- Once its task is gone the token is dropped. -/
theorem sound_forget_remove (h : Sound s) (ha : a ∈ s.waiting) :
    Sound ((s.remove a.token).forget a.kind) := by
  have hslot := (h.slot a.kind a.token).2 ⟨a, ha, rfl, rfl⟩
  refine ⟨?_, ?_, ?_⟩
  · intro k' token
    show Function.update s.slot a.kind none k' = some token ↔ _
    by_cases hk : k' = a.kind
    · subst hk
      rw [Function.update_self]
      refine iff_of_false nofun ?_
      rintro ⟨b, hb, hkind, -⟩
      obtain ⟨hb, hne⟩ := mem_remove.1 hb
      have := (h.slot a.kind b.token).2 ⟨b, hb, hkind, rfl⟩
      exact hne (Option.some.inj (this.symm.trans hslot))
    · rw [Function.update_of_ne hk, h.slot]
      constructor
      · rintro ⟨b, hb, hkind, htoken⟩
        refine ⟨b, mem_remove.2 ⟨hb, fun heq => hk ?_⟩, hkind, htoken⟩
        rw [← hkind, h.distinct b hb a ha heq]
      · rintro ⟨b, hb, hkind, htoken⟩
        exact ⟨b, (mem_remove.1 hb).1, hkind, htoken⟩
  · intro b hb
    exact h.given b (mem_remove.1 hb).1
  · intro b hb b' hb' heq
    exact h.distinct b (mem_remove.1 hb).1 b' (mem_remove.1 hb').1 heq

theorem Sound.disarm (h : Sound s) (k : κ) : Sound (s.disarm k) := by
  unfold Alarms.disarm
  cases hk : s.slot k with
  | none => exact h
  | some token =>
    obtain ⟨a, ha, rfl, rfl⟩ := (h.slot k token).1 hk
    exact sound_forget_remove h ha

@[simp] theorem disarm_slot_self (s : Alarms κ α) (k : κ) : (s.disarm k).slot k = none := by
  unfold Alarms.disarm
  cases hk : s.slot k with
  | none => exact hk
  | some token => exact forget_slot_self ..

theorem disarm_slot_of_ne {k' : κ} (h : k' ≠ k) : (s.disarm k).slot k' = s.slot k' := by
  unfold Alarms.disarm
  cases s.slot k with
  | none => rfl
  | some token => exact Function.update_of_ne h _ _

theorem mem_of_mem_disarm {b : Alarm κ α} (h : b ∈ (s.disarm k).waiting) : b ∈ s.waiting := by
  unfold Alarms.disarm at h
  cases hk : s.slot k with
  | none =>
    rw [hk] at h
    exact h
  | some token =>
    rw [hk] at h
    exact (mem_remove.1 h).1

theorem mem_disarm (ha : a ∈ s.waiting) (hne : s.slot k ≠ some a.token) : a ∈ (s.disarm k).waiting := by
  unfold Alarms.disarm
  cases hk : s.slot k with
  | none => exact ha
  | some token =>
    refine mem_remove.2 ⟨ha, fun htoken => hne ?_⟩
    rw [hk, htoken]

end Alarms
