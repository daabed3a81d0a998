import Mathlib.Data.List.Nodup
import Mathlib.Tactic.Common

/-!
# Bounded registries

A registry holds at most `cap` entries, no two of which have the same key, in
order of first registration. Both facts are fields, so every operation keeps
them by construction. `upsert` replaces the entry of its key or adds one when
there is room; `expire` drops entries. `Current` ties the entries to the history of
accepted ones: each entry is the latest one accepted under its key.
-/

universe u v

structure Registry {α : Type u} {κ : Type v} (key : α → κ) (cap : Nat) where
  entries : List α
  nodup : (entries.map key).Nodup
  bounded : entries.length ≤ cap

namespace Registry

variable {α : Type u} {κ : Type v} [DecidableEq κ] {key : α → κ} {cap : Nat}

def empty : Registry key cap := ⟨[], List.nodup_nil, Nat.zero_le cap⟩

/-- The position of the entry that has the key of `e`. -/
def position (key : α → κ) (xs : List α) (e : α) : Option Nat :=
  xs.findIdx? fun x => key e = key x

theorem map_set_position {xs : List α} {e : α} {i : Nat} (h : position key xs e = some i) :
    (xs.set i e).map key = xs.map key := by
  obtain ⟨hi, hk, -⟩ := List.findIdx?_eq_some_iff_getElem.1 h
  have hk' : key e = key xs[i] := by simpa using hk
  rw [List.map_set]
  refine List.ext_getElem? fun j => ?_
  rw [List.getElem?_set]
  split
  · next hij =>
    subst hij
    simp [hk', hi]
  · rfl

theorem not_mem_of_position {xs : List α} {e : α} (h : position key xs e = none) :
    key e ∉ xs.map key := by
  intro hm
  obtain ⟨x, hx, he⟩ := List.mem_map.1 hm
  have := List.findIdx?_eq_none_iff.1 h x hx
  simp [he] at this

/-- Replace the entry of the same key, or add one if there is room. -/
def upsert (r : Registry key cap) (e : α) : Option (Registry key cap) :=
  match h : position key r.entries e with
  | some i => some
    { entries := r.entries.set i e
      nodup := by rw [map_set_position h]; exact r.nodup
      bounded := by rw [List.length_set]; exact r.bounded }
  | none =>
    if hc : r.entries.length < cap then some
      { entries := r.entries ++ [e]
        nodup := by
          rw [List.map_append]
          exact List.nodup_append.2 ⟨r.nodup, List.nodup_singleton _, fun a ha b hb => by
            rw [List.mem_singleton.1 hb]
            exact fun he => not_mem_of_position h (he ▸ ha)⟩
        bounded := by rw [List.length_append]; exact hc }
    else none

/-- Keep the entries that satisfy `keep`. -/
def expire (keep : α → Bool) (r : Registry key cap) : Registry key cap where
  entries := r.entries.filter keep
  nodup := r.nodup.sublist (List.filter_sublist.map key)
  bounded := Nat.le_trans (List.length_filter_le ..) r.bounded

/-- What `upsert` does to the list of entries. -/
theorem upsert_entries (r : Registry key cap) (e : α) :
    (r.upsert e).map entries =
      match position key r.entries e with
      | some i => some (r.entries.set i e)
      | none => if r.entries.length < cap then some (r.entries ++ [e]) else none := by
  unfold upsert
  split
  · next i h => simp [h]
  · next h => by_cases hc : r.entries.length < cap <;> simp [h, hc]

/-- After `upsert` the new entry is there, and the others are those of other keys. -/
theorem mem_upsert {r r' : Registry key cap} {e : α} (h : r.upsert e = some r') :
    e ∈ r'.entries ∧ ∀ x ∈ r'.entries, x = e ∨ (x ∈ r.entries ∧ key x ≠ key e) := by
  have he := upsert_entries r e
  rw [h, Option.map_some] at he
  cases hp : position key r.entries e with
  | some i =>
    rw [hp] at he
    have hent : r'.entries = r.entries.set i e := Option.some.inj he
    obtain ⟨hi, -, -⟩ := List.findIdx?_eq_some_iff_getElem.1 hp
    have hmem : e ∈ r'.entries := by
      rw [hent]
      exact List.mem_set hi e
    refine ⟨hmem, fun x hx => ?_⟩
    by_cases hxe : x = e
    · exact .inl hxe
    · have hx' := hx
      rw [hent] at hx'
      refine .inr ⟨(List.mem_or_eq_of_mem_set hx').resolve_right hxe, fun hk => hxe ?_⟩
      exact List.inj_on_of_nodup_map r'.nodup hx hmem hk
  | none =>
    rw [hp] at he
    by_cases hc : r.entries.length < cap
    · have hent : r'.entries = r.entries ++ [e] := by
        rw [if_pos hc] at he
        exact Option.some.inj he
      rw [hent]
      refine ⟨by simp, fun x hx => ?_⟩
      rcases List.mem_append.1 hx with hx | hx
      · refine .inr ⟨hx, fun hk => not_mem_of_position hp ?_⟩
        exact hk ▸ List.mem_map_of_mem hx
      · exact .inl (List.mem_singleton.1 hx)
    · rw [if_neg hc] at he
      cases he

/-- Entries of other keys stay. -/
theorem mem_upsert_of_ne {r r' : Registry key cap} {e x : α} (h : r.upsert e = some r')
    (hx : x ∈ r.entries) (hk : key x ≠ key e) : x ∈ r'.entries := by
  have he := upsert_entries r e
  rw [h, Option.map_some] at he
  cases hp : position key r.entries e with
  | some i =>
    rw [hp] at he
    have hent : r'.entries = r.entries.set i e := Option.some.inj he
    obtain ⟨hi, hki, -⟩ := List.findIdx?_eq_some_iff_getElem.1 hp
    obtain ⟨j, hj, hxj⟩ := List.getElem_of_mem hx
    -- the entry that is replaced has the key of `e`
    have hij : i ≠ j := by
      rintro rfl
      rw [hxj] at hki
      exact hk (by simpa using hki : key e = key x).symm
    rw [hent]
    exact List.mem_of_getElem? (by rw [List.getElem?_set_ne hij, List.getElem?_eq_getElem hj, hxj])
  | none =>
    rw [hp] at he
    by_cases hc : r.entries.length < cap
    · rw [if_pos hc] at he
      rw [Option.some.inj he]
      exact List.mem_append_left _ hx
    · rw [if_neg hc] at he
      cases he

/-- An entry is refused only when its key is new. -/
theorem not_mem_of_upsert {r : Registry key cap} {e : α} (h : r.upsert e = none) :
    ∀ x ∈ r.entries, key x ≠ key e := by
  have he := upsert_entries r e
  rw [h, Option.map_none] at he
  cases hp : position key r.entries e with
  | some i => rw [hp] at he; cases he
  | none =>
    intro x hx hk
    exact not_mem_of_position hp (hk ▸ List.mem_map_of_mem hx)

/-! ## History -/

/-- The latest entry of a history under the key `k`. -/
def latest (key : α → κ) (h : List α) (k : κ) : Option α := (h.filter fun x => key x = k).getLast?

theorem latest_append_self (h : List α) (e : α) : latest key (h ++ [e]) (key e) = some e := by
  simp [latest]

theorem latest_append_of_ne (h : List α) {e : α} {k : κ} (hk : key e ≠ k) :
    latest key (h ++ [e]) k = latest key h k := by
  simp [latest, hk]

/-- Each entry is the latest one accepted under its key. -/
def Current (h : List α) (r : Registry key cap) : Prop :=
  ∀ e ∈ r.entries, latest key h (key e) = some e

theorem current_empty (h : List α) : Current h (empty : Registry key cap) := nofun

theorem Current.upsert {h : List α} {r r' : Registry key cap} {e : α} (hc : Current h r)
    (hu : r.upsert e = some r') : Current (h ++ [e]) r' := by
  intro x hx
  rcases (mem_upsert hu).2 x hx with rfl | ⟨hx', hk⟩
  · exact latest_append_self h x
  · rw [latest_append_of_ne h (Ne.symm hk)]
    exact hc x hx'

theorem Current.expire {h : List α} {r : Registry key cap} (hc : Current h r)
    (keep : α → Bool) : Current h (r.expire keep) :=
  fun x hx => hc x (List.mem_of_mem_filter hx)

end Registry
