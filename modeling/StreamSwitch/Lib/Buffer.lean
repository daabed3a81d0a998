import Mathlib.Tactic.Common
import Mathlib.Algebra.Notation.Defs

/-!
# Growable buffers and pointers into them

A `Buf` is a string object that owns one block of memory at a time: writing past
its capacity moves it to a new block. A pointer into it is a block and a length;
it reads what the block holds now, and reads nothing once the buffer has moved.
The cell behind the contents holds the terminator.
-/

namespace Buffer

universe u

variable {α : Type u}

structure Buf (α : Type u) where
  /-- The block in use; a new one for every move. -/
  block : Nat
  capacity : Nat
  /-- The cells of the block that have been written. -/
  mem : List α
  size : Nat
  size_le : size ≤ mem.length
deriving DecidableEq, Repr

/-- A pointer to the start of a block, for `size` cells. -/
structure Ptr where
  block : Nat
  size : Nat
deriving DecidableEq, Repr

namespace Buf

/-- The contents. -/
def contents (b : Buf α) : List α := b.mem.take b.size

/-- What `data()` and `size()` describe. -/
def ptr (b : Buf α) : Ptr := ⟨b.block, b.size⟩

/-- The cells that `p` points to; `none` for a block that has been given up. -/
def deref (b : Buf α) (p : Ptr) : Option (List α) :=
  if p.block = b.block ∧ p.size ≤ b.mem.length then some (b.mem.take p.size) else none

/-- The capacity of the block that replaces one of capacity `old` to hold `need` cells. -/
def grow (old need : Nat) : Nat := if need < 2 * old then 2 * old else need

@[simp] theorem length_contents (b : Buf α) : b.contents.length = b.size := by
  simp [contents, b.size_le]

/-- The pointer of a buffer reads its contents. -/
@[simp] theorem deref_ptr (b : Buf α) : b.deref b.ptr = some b.contents := by
  simp [deref, ptr, contents, b.size_le]

variable [Zero α]

/-- An empty string in the object's own `capacity` cells. -/
def empty (capacity : Nat) : Buf α := ⟨0, capacity, [0], 0, Nat.zero_le _⟩

theorem size_le_written (xs rest : List α) : xs.length ≤ (xs ++ 0 :: rest).length := by
  simp

/-- The contents become the first `n` cells of the old ones with `xs` behind them. -/
def write (b : Buf α) (n : Nat) (xs : List α) : Buf α :=
  let new := b.contents.take n ++ xs
  if new.length ≤ b.capacity then
    ⟨b.block, b.capacity, new ++ 0 :: b.mem.drop (new.length + 1), new.length,
      size_le_written ..⟩
  else
    ⟨b.block + 1, grow b.capacity new.length, new ++ [0], new.length, size_le_written ..⟩

def assign (b : Buf α) (xs : List α) : Buf α := b.write 0 xs

def append (b : Buf α) (xs : List α) : Buf α := b.write b.size xs

def resize (b : Buf α) (n : Nat) : Buf α :=
  if n ≤ b.size then b.write n [] else b.append (List.replicate (n - b.size) 0)

@[simp] theorem contents_write (b : Buf α) (n : Nat) (xs : List α) :
    (b.write n xs).contents = b.contents.take n ++ xs := by
  simp only [write]
  split <;> exact List.take_left' rfl

@[simp] theorem contents_append (b : Buf α) (xs : List α) :
    (b.append xs).contents = b.contents ++ xs := by
  rw [append, contents_write, List.take_of_length_le (by simp)]

@[simp] theorem contents_assign (b : Buf α) (xs : List α) : (b.assign xs).contents = xs := by
  simp [assign]

end Buf

end Buffer
