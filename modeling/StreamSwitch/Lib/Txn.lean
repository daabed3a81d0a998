import Mathlib.Tactic.Common
import Mathlib.Data.List.Nodup

/-!
# Calls with a transaction

A call changes the memory of a component at once, and the rows of a database when its
transaction is committed. `Call` is the monad of such calls: an exception ends a call
and undoes nothing. `context` is a `with` block around a session: contexts nest, the
outermost one commits what the session has changed, and a block that raises rolls it
back. `Table` is a table with a primary key.
-/

namespace Txn

universe u v

/-! ## Tables -/

section table
variable {ρ : Type u} {κ : Type v}

/-- Rows with different keys. -/
structure Table (key : ρ → κ) where
  rows : List ρ
  nodup : (rows.map key).Nodup

variable {key : ρ → κ}

namespace Table

def keys (t : Table key) : List κ := t.rows.map key

variable [DecidableEq κ]

/-- `none` when there is a row with that key. -/
def insert (t : Table key) (r : ρ) : Option (Table key) :=
  if h : key r ∈ t.keys then none
  else some ⟨t.rows ++ [r], by
    rw [List.map_append, List.map_singleton]
    exact List.nodup_append.2 ⟨t.nodup, List.nodup_singleton _, fun a ha b hb hab => by
      rw [List.mem_singleton.1 hb] at hab
      exact h (hab ▸ ha)⟩⟩

/-- `none` when there is no row with that key. -/
def delete (t : Table key) (k : κ) : Option (Table key) :=
  if k ∈ t.keys then
    some ⟨t.rows.filter fun r => key r ≠ k, t.nodup.sublist (List.filter_sublist.map key)⟩
  else none

theorem insert_of_not_mem {t : Table key} {r : ρ} (h : key r ∉ t.keys) :
    ∃ t', t.insert r = some t' ∧ t'.rows = t.rows ++ [r] := by
  unfold insert
  rw [dif_neg h]
  exact ⟨_, rfl, rfl⟩

theorem insert_of_mem {t : Table key} {r : ρ} (h : key r ∈ t.keys) : t.insert r = none := by
  unfold insert
  rw [dif_pos h]

theorem delete_of_mem {t : Table key} {k : κ} (h : k ∈ t.keys) :
    ∃ t', t.delete k = some t' ∧ t'.rows = t.rows.filter fun r => key r ≠ k := by
  unfold delete
  rw [if_pos h]
  exact ⟨_, rfl, rfl⟩

end Table

end table

/-! ## Calls -/

/-- The memory, the persisted rows, and the session. -/
structure Store (μ τ : Type) where
  mem : μ
  persisted : τ
  /-- What the session sees. -/
  session : τ
  /-- The number of contexts that were entered. -/
  enterCount : Nat := 0

/-- What a call returns or raises, and what it leaves. -/
structure Call (μ τ ε α : Type) where
  run : Store μ τ → Except ε α × Store μ τ

variable {μ τ ε α β : Type}

namespace Call

instance : Monad (Call μ τ ε) where
  pure a := ⟨fun s => (.ok a, s)⟩
  bind x f := ⟨fun s =>
    match x.run s with
    | (.ok a, s) => (f a).run s
    | (.error e, s) => (.error e, s)⟩

def raise (e : ε) : Call μ τ ε α := ⟨fun s => (.error e, s)⟩

/-- Raises when there is a fault. -/
def check : Option ε → Call μ τ ε Unit
  | none => pure ()
  | some e => raise e

def getMem : Call μ τ ε μ := ⟨fun s => (.ok s.mem, s)⟩

def setMem (m : μ) : Call μ τ ε Unit := ⟨fun s => (.ok (), { s with mem := m })⟩

def getSession : Call μ τ ε τ := ⟨fun s => (.ok s.session, s)⟩

def setSession (t : τ) : Call μ τ ε Unit := ⟨fun s => (.ok (), { s with session := t })⟩

section run
variable (s : Store μ τ)

@[simp] theorem run_pure (a : α) : (pure a : Call μ τ ε α).run s = (.ok a, s) := rfl

@[simp] theorem run_bind (x : Call μ τ ε α) (f : α → Call μ τ ε β) :
    (x >>= f).run s = match x.run s with
      | (.ok a, s) => (f a).run s
      | (.error e, s) => (.error e, s) := rfl

@[simp] theorem run_raise (e : ε) : (raise e : Call μ τ ε α).run s = (.error e, s) := rfl

@[simp] theorem check_none : (check none : Call μ τ ε Unit) = pure () := rfl

@[simp] theorem check_some (e : ε) : (check (some e) : Call μ τ ε Unit) = raise e := rfl

@[simp] theorem run_getMem : (getMem : Call μ τ ε μ).run s = (.ok s.mem, s) := rfl

@[simp] theorem run_setMem (m : μ) :
    (setMem m : Call μ τ ε Unit).run s = (.ok (), { s with mem := m }) := rfl

@[simp] theorem run_getSession : (getSession : Call μ τ ε τ).run s = (.ok s.session, s) := rfl

@[simp] theorem run_setSession (t : τ) :
    (setSession t : Call μ τ ε Unit).run s = (.ok (), { s with session := t }) := rfl

end run

end Call

/-! ## Contexts -/

/-- The session is rolled back. -/
def Store.rollback (s : Store μ τ) : Store μ τ :=
  { s with session := s.persisted, enterCount := s.enterCount - 1 }

/-- The rows are persisted at the end of the outermost context. -/
def Store.commit (s : Store μ τ) : Store μ τ :=
  { s with
    persisted := if s.enterCount = 1 then s.session else s.persisted
    enterCount := s.enterCount - 1 }

/-- A new session begins in the outermost context. -/
def Store.enter (s : Store μ τ) : Store μ τ :=
  { s with
    session := if s.enterCount = 0 then s.persisted else s.session
    enterCount := s.enterCount + 1 }

/-- A `with` block; `beginFails` and `commitFails` are what beginning and committing raise. -/
def context (beginFails commitFails : Option ε) (block : Call μ τ ε α) : Call μ τ ε α :=
  ⟨fun s =>
    match beginFails with
    | some e => (.error e, s)
    | none =>
      match block.run s.enter with
      | (.error e, s) => (.error e, s.rollback)
      | (.ok a, s) =>
        match commitFails with
        | some e => (.error e, s.rollback)
        | none => (.ok a, s.commit)⟩

section context
variable {commitFails : Option ε} {block : Call μ τ ε α} {s t : Store μ τ} {a : α} {e : ε}

theorem run_context_begin : (context (some e) commitFails block).run s = (.error e, s) := rfl

theorem run_context_error (hb : block.run s.enter = (.error e, t)) :
    (context none commitFails block).run s = (.error e, t.rollback) := by
  simp only [context, hb]

theorem run_context_ok (hb : block.run s.enter = (.ok a, t)) :
    (context none none block).run s = (.ok a, t.commit) := by
  simp only [context, hb]

theorem run_context_commit (hb : block.run s.enter = (.ok a, t)) :
    (context none (some e) block).run s = (.error e, t.rollback) := by
  simp only [context, hb]

end context

end Txn
