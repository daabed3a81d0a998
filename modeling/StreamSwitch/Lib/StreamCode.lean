import Mathlib.Tactic.Common
import Mathlib.Data.List.Infix

/-!
# Messages on a byte stream

Messages are written one behind another on a stream that keeps no boundaries. A `StreamCode` says
how one message is written and how the first one of a stream is read. Two laws are enough for a
reader to find them all: a message that stands in front is read whatever follows it, and from a
part of one nothing is read.
-/

universe u v

structure StreamCode (β : Type u) (μ : Type v) where
  /-- The messages that can be told from what follows them. -/
  Valid : μ → Prop
  write : μ → List β
  read : List β → Option (μ × List β)
  write_ne_nil : ∀ m, write m ≠ []
  read_write : ∀ m rest, Valid m → read (write m ++ rest) = some (m, rest)
  /-- Nothing is read from what is only the beginning of a message. -/
  read_part : ∀ m part, Valid m → part <+: write m → part ≠ write m → read part = none
  read_nil : read [] = none

namespace StreamCode

variable {β : Type u} {μ : Type v} (C : StreamCode β μ)

/-- All messages of a stream, and what is left behind the last one; `fuel` bounds their number. -/
def readAll : Nat → List β → List μ × List β
  | 0, bs => ([], bs)
  | fuel + 1, bs =>
    match C.read bs with
    | none => ([], bs)
    | some (m, rest) => (m :: (readAll fuel rest).1, (readAll fuel rest).2)

def writeAll (ms : List μ) : List β := ms.flatMap C.write

/-- The beginning of a message, or nothing at all. -/
def Unfinished (part : List β) : Prop :=
  part = [] ∨ ∃ m, C.Valid m ∧ part <+: C.write m ∧ part ≠ C.write m

@[simp] theorem writeAll_nil : C.writeAll [] = [] := rfl

@[simp] theorem writeAll_cons (m : μ) (ms : List μ) :
    C.writeAll (m :: ms) = C.write m ++ C.writeAll ms := rfl

theorem writeAll_append (ms ms' : List μ) :
    C.writeAll (ms ++ ms') = C.writeAll ms ++ C.writeAll ms' := List.flatMap_append

theorem length_le_writeAll (ms : List μ) : ms.length ≤ (C.writeAll ms).length := by
  induction ms with
  | nil => exact Nat.le_refl _
  | cons m ms ih =>
    have hpos := List.length_pos_iff.2 (C.write_ne_nil m)
    rw [writeAll_cons, List.length_append, List.length_cons]
    omega

theorem Unfinished.read_eq_none {part : List β} (h : C.Unfinished part) : C.read part = none := by
  rcases h with rfl | ⟨m, hm, hpre, hne⟩
  · exact C.read_nil
  · exact C.read_part m part hm hpre hne

/-- Messages with the beginning of one behind them are read, and the beginning stays. -/
theorem readAll_writeAll {part : List β} (hpart : C.Unfinished part) {ms : List μ}
    (hms : ∀ m ∈ ms, C.Valid m) {fuel : Nat} (hfuel : ms.length ≤ fuel) :
    C.readAll fuel (C.writeAll ms ++ part) = (ms, part) := by
  induction ms generalizing fuel with
  | nil =>
    cases fuel with
    | zero => rfl
    | succ fuel => simp [readAll, hpart.read_eq_none]
  | cons m ms ih =>
    cases fuel with
    | zero => simp at hfuel
    | succ fuel =>
      have hstep : C.read (C.writeAll (m :: ms) ++ part) = some (m, C.writeAll ms ++ part) := by
        rw [writeAll_cons, List.append_assoc, C.read_write m _ (hms m List.mem_cons_self)]
      have hrest := ih (fun m' h => hms m' (List.mem_cons_of_mem m h)) (Nat.le_of_succ_le_succ hfuel)
      simp only [readAll, hstep, hrest]

/-- What a reader of the whole stream finds: as many turns as there are bytes are enough. -/
def messages (bs : List β) : List μ × List β := C.readAll bs.length bs

theorem messages_writeAll {part : List β} (hpart : C.Unfinished part) {ms : List μ}
    (hms : ∀ m ∈ ms, C.Valid m) : C.messages (C.writeAll ms ++ part) = (ms, part) := by
  refine C.readAll_writeAll hpart hms ?_
  rw [List.length_append]
  exact Nat.le_add_right_of_le (C.length_le_writeAll ms)

/-- The first part of messages is some of them, and the beginning of the next one. -/
theorem exists_of_prefix {ms : List μ} (hms : ∀ m ∈ ms, C.Valid m) {bs : List β}
    (h : bs <+: C.writeAll ms) :
    ∃ ms' rest part, ms = ms' ++ rest ∧ C.Unfinished part ∧ bs = C.writeAll ms' ++ part := by
  induction ms generalizing bs with
  | nil => exact ⟨[], [], [], rfl, .inl rfl, List.prefix_nil.1 h⟩
  | cons m ms ih =>
    obtain ⟨hm, hrest⟩ := List.forall_mem_cons.1 hms
    rw [writeAll_cons] at h
    by_cases hlt : bs.length < (C.write m).length
    · have hpart : bs <+: C.write m :=
        List.prefix_of_prefix_length_le h (List.prefix_append ..) (Nat.le_of_lt hlt)
      refine ⟨[], m :: ms, bs, rfl, .inr ⟨m, hm, hpart, ?_⟩, rfl⟩
      rintro rfl
      exact Nat.lt_irrefl _ hlt
    · obtain ⟨bs', rfl⟩ : C.write m <+: bs :=
        List.prefix_of_prefix_length_le (List.prefix_append ..) h (Nat.not_lt.1 hlt)
      obtain ⟨ms', rest, part, rfl, hpart, rfl⟩ := ih hrest ((List.prefix_append_right_inj _).1 h)
      refine ⟨m :: ms', rest, part, rfl, hpart, ?_⟩
      rw [writeAll_cons, List.append_assoc]

end StreamCode
