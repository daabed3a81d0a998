import Mathlib.Data.List.Nodup
import StreamSwitch.Lib.Run
import StreamSwitch.Lib.ReqRep

/-!
# Request sockets shared through a one-slot cache

Callers that each need a request socket for one request. A caller takes the cached
socket or creates one, sends, waits for the reply, and puts the socket back or
destroys it. `Owned` is the ownership discipline, over any kind of resource; `Net`
the sockets and the requests under way, where a reply may take any time and is
dropped when its socket is gone; `step` the callers, in any interleaving.

`sound_step`: whatever the callers do, every open socket belongs to the cache or to
exactly one caller, and has an unanswered request only while its caller waits or is
about to destroy it. So what a caller receives answers its own request
(`Sound.received`).
-/

namespace Pool

open ReqRep

universe u v w

/-! ## Ownership -/

section owned
variable {κ : Type u} {ρ : Type v}

/-- Every live resource is in the cache or held by one of the callers, and by one only. -/
structure Owned (cache : Option ρ) (held : κ → Option ρ) (live : ρ → Prop) : Prop where
  cached_live : ∀ r, cache = some r → live r
  held_live : ∀ c r, held c = some r → live r
  live_owned : ∀ r, live r → cache = some r ∨ ∃ c, held c = some r
  cached_free : ∀ c r, cache = some r → held c ≠ some r
  exclusive : ∀ c c' r, held c = some r → held c' = some r → c = c'

variable {cache : Option ρ} {held held' : κ → Option ρ} {live live' : ρ → Prop} {c : κ} {r : ρ}

theorem Owned.empty : Owned (none : Option ρ) (fun _ : κ => none) fun _ => False :=
  ⟨nofun, nofun, fun _ => False.elim, nofun, nofun⟩

/-- Nobody else holds what a caller holds. -/
theorem Owned.others (h : Owned cache held live) (hc : held c = some r) {c' : κ} (hne : c' ≠ c) :
    held c' ≠ some r :=
  fun h' => hne (h.exclusive c' c r h' hc)

theorem Owned.congr (h : Owned cache held live) (hh : ∀ c, held' c = held c)
    (hl : ∀ r, live' r ↔ live r) : Owned cache held' live' := by
  obtain rfl : held' = held := funext hh
  obtain rfl : live' = live := funext fun r => propext (hl r)
  exact h

/-- What a caller holds after `c` got `r`. -/
theorem held_of_acquire (hc' : held' c = some r) (ho : ∀ c' ≠ c, held' c' = held c') {c' : κ}
    {x : ρ} (hx : held' c' = some x) : (c' = c ∧ x = r) ∨ (c' ≠ c ∧ held c' = some x) := by
  by_cases hcc : c' = c
  · rw [hcc, hc'] at hx
    exact .inl ⟨hcc, (Option.some.inj hx).symm⟩
  · exact .inr ⟨hcc, ho c' hcc ▸ hx⟩

/-- To get a resource that nobody holds keeps holders apart. -/
theorem Owned.exclusive_acquire (h : Owned cache held live) (hr : ∀ c', held c' ≠ some r)
    (hc' : held' c = some r) (ho : ∀ c' ≠ c, held' c' = held c') :
    ∀ c1 c2 x, held' c1 = some x → held' c2 = some x → c1 = c2 := by
  intro c1 c2 x h1 h2
  rcases held_of_acquire hc' ho h1 with ⟨e1, r1⟩ | ⟨-, h1⟩ <;>
    rcases held_of_acquire hc' ho h2 with ⟨e2, r2⟩ | ⟨-, h2⟩
  · exact e1.trans e2.symm
  · exact absurd (r1 ▸ h2) (hr c2)
  · exact absurd (r2 ▸ h1) (hr c1)
  · exact h.exclusive c1 c2 x h1 h2

theorem Owned.take (h : Owned (some r) held live) (hc : held c = none)
    (hc' : held' c = some r) (ho : ∀ c' ≠ c, held' c' = held c') : Owned none held' live := by
  refine ⟨nofun, fun c' x hx => ?_, fun x hx => .inr ?_, nofun,
    h.exclusive_acquire (fun c' => h.cached_free c' r rfl) hc' ho⟩
  · rcases held_of_acquire hc' ho hx with ⟨-, rfl⟩ | ⟨-, hx⟩
    · exact h.cached_live x rfl
    · exact h.held_live c' x hx
  · rcases h.live_owned x hx with hx | ⟨c', hx⟩
    · exact ⟨c, hc'.trans hx⟩
    · refine ⟨c', (ho c' ?_).trans hx⟩
      rintro rfl
      exact absurd (hc.symm.trans hx) nofun

theorem Owned.create (h : Owned cache held live) (hr : ¬ live r) (hc : held c = none)
    (hc' : held' c = some r) (ho : ∀ c' ≠ c, held' c' = held c')
    (hl : ∀ x, live' x ↔ x = r ∨ live x) : Owned cache held' live' := by
  refine ⟨fun x hx => (hl x).2 (.inr (h.cached_live x hx)), fun c' x hx => (hl x).2 ?_,
    fun x hx => ?_, fun c' x hx hx' => ?_,
    h.exclusive_acquire (fun c' hx => hr (h.held_live c' r hx)) hc' ho⟩
  · rcases held_of_acquire hc' ho hx with ⟨-, rfl⟩ | ⟨-, hx⟩
    · exact .inl rfl
    · exact .inr (h.held_live c' x hx)
  · rcases (hl x).1 hx with rfl | hx
    · exact .inr ⟨c, hc'⟩
    · rcases h.live_owned x hx with hx | ⟨c', hx⟩
      · exact .inl hx
      · refine .inr ⟨c', (ho c' ?_).trans hx⟩
        rintro rfl
        exact absurd (hc.symm.trans hx) nofun
  · rcases held_of_acquire hc' ho hx' with ⟨-, rfl⟩ | ⟨-, hx'⟩
    · exact hr (h.cached_live x hx)
    · exact h.cached_free c' x hx hx'

/-- What a caller held before it gave up its resource. -/
theorem held_of_release (hc' : held' c = none) (ho : ∀ c' ≠ c, held' c' = held c') {c' : κ} {x : ρ}
    (hx : held' c' = some x) : c' ≠ c ∧ held c' = some x := by
  have hne : c' ≠ c := by
    rintro rfl
    exact absurd (hc'.symm.trans hx) nofun
  exact ⟨hne, ho c' hne ▸ hx⟩

theorem Owned.putBack (h : Owned none held live) (hc : held c = some r) (hc' : held' c = none)
    (ho : ∀ c' ≠ c, held' c' = held c') : Owned (some r) held' live := by
  refine ⟨fun x hx => ?_, fun c' x hx => ?_, fun x hx => ?_, fun c' x hx hx' => ?_,
    fun c1 c2 x h1 h2 => ?_⟩
  · cases hx
    exact h.held_live c r hc
  · exact h.held_live c' x (held_of_release hc' ho hx).2
  · rcases h.live_owned x hx with hx | ⟨c', hx⟩
    · cases hx
    · by_cases hcc : c' = c
      · rw [hcc, hc] at hx
        exact .inl hx
      · exact .inr ⟨c', (ho c' hcc).trans hx⟩
  · cases hx
    obtain ⟨hne, hx'⟩ := held_of_release hc' ho hx'
    exact h.others hc hne hx'
  · exact h.exclusive c1 c2 x (held_of_release hc' ho h1).2 (held_of_release hc' ho h2).2

theorem Owned.destroy (h : Owned cache held live) (hc : held c = some r) (hc' : held' c = none)
    (ho : ∀ c' ≠ c, held' c' = held c') (hl : ∀ x, live' x ↔ live x ∧ x ≠ r) :
    Owned cache held' live' := by
  refine ⟨fun x hx => (hl x).2 ⟨h.cached_live x hx, ?_⟩, fun c' x hx => (hl x).2 ?_,
    fun x hx => ?_, fun c' x hx hx' => ?_, fun c1 c2 x h1 h2 => ?_⟩
  · rintro rfl
    exact h.cached_free c x hx hc
  · obtain ⟨hne, hx⟩ := held_of_release hc' ho hx
    refine ⟨h.held_live c' x hx, ?_⟩
    rintro rfl
    exact h.others hc hne hx
  · obtain ⟨hx, hne⟩ := (hl x).1 hx
    rcases h.live_owned x hx with hx | ⟨c', hx⟩
    · exact .inl hx
    · refine .inr ⟨c', (ho c' ?_).trans hx⟩
      rintro rfl
      exact hne (Option.some.inj (hx.symm.trans hc))
  · exact h.cached_free c' x hx (held_of_release hc' ho hx').2
  · exact h.exclusive c1 c2 x (held_of_release hc' ho h1).2 (held_of_release hc' ho h2).2

theorem Owned.flush (h : Owned (some r) held live) (hl : ∀ x, live' x ↔ live x ∧ x ≠ r) :
    Owned none held live' := by
  refine ⟨nofun, fun c x hx => (hl x).2 ⟨h.held_live c x hx, ?_⟩, fun x hx => .inr ?_, nofun,
    h.exclusive⟩
  · rintro rfl
    exact h.cached_free c x rfl hx
  · obtain ⟨hx, hne⟩ := (hl x).1 hx
    rcases h.live_owned x hx with hx | hx
    · exact absurd (Option.some.inj hx).symm hne
    · exact hx

end owned

/-! ## Sockets and requests under way -/

variable {κ : Type u} {ν : Type v} {α : Type w}

/-- Request sockets, by number, with requests of type `ν` and replies of type `α`. -/
structure Net (ν : Type v) (α : Type w) where
  /-- The sockets that are open. -/
  sockets : Nat → Option (ReqSocket α) := fun _ => none
  /-- The number of the next socket. -/
  next : Nat := 0
  /-- The unanswered requests and the sockets they were sent on. -/
  wire : List (Nat × ν) := []
  /-- Every request that was answered, with its reply. -/
  log : List (ν × α) := []

namespace Net

def create (n : Net ν α) : Net ν α :=
  { n with sockets := Function.update n.sockets n.next (some {}), next := n.next + 1 }

/-- Send on socket `k`; refused while a request of it is unanswered. -/
def send (n : Net ν α) (k : Nat) (m : ν) : Option (Net ν α) :=
  ((n.sockets k).bind ReqSocket.send).map fun sock =>
    { n with sockets := Function.update n.sockets k (some sock), wire := n.wire ++ [(k, m)] }

/-- The `i`-th unanswered request is answered; the reply reaches the socket if it is open. -/
def answer (n : Net ν α) (i : Nat) (a : α) : Option (Net ν α) :=
  n.wire[i]?.map fun p =>
    { n with
      sockets := Function.update n.sockets p.1 ((n.sockets p.1).map (·.arrive [a]))
      wire := n.wire.eraseIdx i
      log := n.log ++ [(p.2, a)] }

def recv (n : Net ν α) (k : Nat) : Option (α × Net ν α) :=
  ((n.sockets k).bind ReqSocket.recvFrame).map fun r =>
    (r.1, { n with sockets := Function.update n.sockets k (some r.2) })

def destroy (n : Net ν α) (k : Nat) : Net ν α :=
  { n with sockets := Function.update n.sockets k none }

/-- Socket `k` is open. -/
def Live (n : Net ν α) (k : Nat) : Prop := (n.sockets k).isSome

/-- Socket `k` is open and has no unanswered request. -/
def Quiet (n : Net ν α) (k : Nat) : Prop := n.sockets k = some {} ∧ ∀ m, (k, m) ∉ n.wire

/-- `m` is the unanswered request of socket `k`, or its reply is there and unread. -/
def Busy (n : Net ν α) (k : Nat) (m : ν) : Prop :=
  (n.sockets k = some { awaiting := true } ∧ (k, m) ∈ n.wire) ∨
  ∃ a, n.sockets k = some { awaiting := true, inbox := [a] } ∧ (∀ m', (k, m') ∉ n.wire) ∧
    (m, a) ∈ n.log

/-- No socket has two unanswered requests, and numbers are not used twice. -/
structure Ok (n : Net ν α) : Prop where
  nodup : (n.wire.map Prod.fst).Nodup
  wire_lt : ∀ p ∈ n.wire, p.1 < n.next
  live_lt : ∀ k, n.Live k → k < n.next

/-- `n'` differs from `n` at socket `k` only. -/
structure Frame (k : Nat) (n n' : Net ν α) : Prop where
  sockets : ∀ x ≠ k, n'.sockets x = n.sockets x
  wire : ∀ x ≠ k, ∀ m, (x, m) ∈ n'.wire ↔ (x, m) ∈ n.wire
  log : ∀ p ∈ n.log, p ∈ n'.log

variable {n n' : Net ν α} {k x : Nat} {m : ν} {a : α}

theorem Frame.refl (k : Nat) (n : Net ν α) : Frame k n n :=
  ⟨fun _ _ => rfl, fun _ _ _ => Iff.rfl, fun _ => id⟩

theorem Quiet.live (h : n.Quiet k) : n.Live k := by rw [Live, h.1]; rfl

theorem Quiet.frame (h : n.Quiet x) (hf : Frame k n n') (hne : x ≠ k) : n'.Quiet x :=
  ⟨(hf.sockets x hne).trans h.1, fun m hm => h.2 m ((hf.wire x hne m).1 hm)⟩

theorem Busy.frame (h : n.Busy x m) (hf : Frame k n n') (hne : x ≠ k) : n'.Busy x m := by
  rcases h with ⟨hs, hw⟩ | ⟨a, hs, hw, hl⟩
  · exact .inl ⟨(hf.sockets x hne).trans hs, (hf.wire x hne m).2 hw⟩
  · exact .inr ⟨a, (hf.sockets x hne).trans hs, fun m' hm => hw m' ((hf.wire x hne m').1 hm),
      hf.log _ hl⟩

/-! One lemma for each operation: what it keeps, and what it makes of its socket. -/

theorem live_update {o : Option (ReqSocket α)} {w : List (Nat × ν)} {l : List (ν × α)} {i : Nat} :
    Live ⟨Function.update n.sockets k o, i, w, l⟩ x ↔
      (x = k ∧ o.isSome) ∨ (x ≠ k ∧ n.Live x) := by
  by_cases hx : x = k
  · simp [Live, hx]
  · simp [Live, hx]

theorem live_update_some {sock : ReqSocket α} {w : List (Nat × ν)} (h : n.Live k) (x : Nat) :
    Live ⟨Function.update n.sockets k (some sock), n.next, w, n.log⟩ x ↔ n.Live x := by
  refine live_update.trans ⟨?_, fun hx => ?_⟩
  · rintro (⟨rfl, -⟩ | ⟨-, hx⟩)
    · exact h
    · exact hx
  · by_cases hxk : x = k
    · exact .inl ⟨hxk, rfl⟩
    · exact .inr ⟨hxk, hx⟩

theorem create_spec (h : n.Ok) :
    n.create.Ok ∧ Frame n.next n n.create ∧ n.create.Quiet n.next ∧ ¬ n.Live n.next ∧
      ∀ x, n.create.Live x ↔ x = n.next ∨ n.Live x := by
  have hfresh : ¬ n.Live n.next := fun hl => Nat.lt_irrefl _ (h.live_lt _ hl)
  have hlive : ∀ x, n.create.Live x ↔ x = n.next ∨ n.Live x := by
    intro x
    refine live_update.trans ⟨?_, ?_⟩
    · rintro (⟨hx, -⟩ | ⟨-, hx⟩)
      · exact .inl hx
      · exact .inr hx
    · rintro (hx | hx)
      · exact .inl ⟨hx, rfl⟩
      · exact .inr ⟨fun hn => hfresh (hn ▸ hx), hx⟩
  refine ⟨⟨h.nodup, fun p hp => Nat.lt_succ_of_lt (h.wire_lt p hp), fun x hx => ?_⟩,
    ⟨fun x hx => Function.update_of_ne hx _ _, fun _ _ _ => Iff.rfl, fun _ => id⟩,
    ⟨Function.update_self .., fun m hm => Nat.lt_irrefl _ (h.wire_lt _ hm)⟩, hfresh, hlive⟩
  rcases (hlive x).1 hx with rfl | hx
  · exact Nat.lt_succ_self _
  · exact Nat.lt_succ_of_lt (h.live_lt x hx)

theorem send_spec (h : n.Ok) (hq : n.Quiet k) (m : ν) :
    ∃ n', n.send k m = some n' ∧ n'.Ok ∧ Frame k n n' ∧ n'.Busy k m ∧
      ∀ x, n'.Live x ↔ n.Live x := by
  have hlive : ∀ x, Live ⟨Function.update n.sockets k (some { awaiting := true }), n.next,
      n.wire ++ [(k, m)], n.log⟩ x ↔ n.Live x := live_update_some hq.live
  refine ⟨⟨Function.update n.sockets k (some { awaiting := true }), n.next,
    n.wire ++ [(k, m)], n.log⟩, ?_, ⟨?_, fun p hp => ?_, fun x hx => ?_⟩,
    ⟨fun x hx => Function.update_of_ne hx _ _, fun x hx m' => ?_, fun _ => id⟩,
    .inl ⟨Function.update_self .., List.mem_append_right _ (List.mem_singleton.2 rfl)⟩, hlive⟩
  · rw [send, hq.1]
    rfl
  · rw [List.map_append, List.nodup_append]
    refine ⟨h.nodup, by simp, fun x hx y hy => ?_⟩
    obtain ⟨⟨x', m'⟩, hp, rfl⟩ := List.mem_map.1 hx
    rw [List.map_singleton, List.mem_singleton] at hy
    rw [hy]
    rintro rfl
    exact hq.2 m' hp
  · rcases List.mem_append.1 hp with hp | hp
    · exact h.wire_lt p hp
    · rw [List.mem_singleton.1 hp]
      exact h.live_lt k hq.live
  · exact h.live_lt x ((hlive x).1 hx)
  · simp only [List.mem_append, List.mem_singleton, Prod.mk.injEq, hx, false_and, or_false]

/-- **What is read from a socket answers the request that was sent on it.** -/
theorem recv_spec (h : n.Ok) (hb : n.Busy k m) (hr : n.recv k = some (a, n')) :
    n'.Ok ∧ Frame k n n' ∧ n'.Quiet k ∧ (m, a) ∈ n.log ∧ ∀ x, n'.Live x ↔ n.Live x := by
  rcases hb with ⟨hs, -⟩ | ⟨b, hs, hw, hl⟩
  · rw [recv, hs] at hr
    cases hr
  · rw [recv, hs] at hr
    cases hr
    have hlive : ∀ x, Live ⟨Function.update n.sockets k (some {}), n.next, n.wire, n.log⟩ x ↔
        n.Live x := live_update_some (by rw [Live, hs]; rfl)
    exact ⟨⟨h.nodup, h.wire_lt, fun x hx => h.live_lt x ((hlive x).1 hx)⟩,
      ⟨fun x hx => Function.update_of_ne hx _ _, fun _ _ _ => Iff.rfl, fun _ => id⟩,
      ⟨Function.update_self .., hw⟩, hl, hlive⟩

theorem destroy_spec (h : n.Ok) (k : Nat) :
    (n.destroy k).Ok ∧ Frame k n (n.destroy k) ∧
      ∀ x, (n.destroy k).Live x ↔ n.Live x ∧ x ≠ k := by
  have hlive : ∀ x, (n.destroy k).Live x ↔ n.Live x ∧ x ≠ k := by
    intro x
    refine live_update.trans ⟨?_, fun hx => .inr hx.symm⟩
    rintro (⟨-, hx⟩ | hx)
    · cases hx
    · exact hx.symm
  exact ⟨⟨h.nodup, h.wire_lt, fun x hx => h.live_lt x ((hlive x).1 hx).1⟩,
    ⟨fun x hx => Function.update_of_ne hx _ _, fun _ _ _ => Iff.rfl, fun _ => id⟩, hlive⟩

theorem send_log (n : Net ν α) (k : Nat) (m : ν) : ((n.send k m).getD n).log = n.log := by
  unfold send
  cases (n.sockets k).bind ReqSocket.send <;> rfl

theorem recv_log {r : α × Net ν α} (h : n.recv k = some r) : r.2.log = n.log := by
  obtain ⟨q, -, rfl⟩ := Option.map_eq_some_iff.1 h
  rfl

theorem answer_log {i : Nat} (h : n.answer i a = some n') : ∀ p ∈ n.log, p ∈ n'.log := by
  obtain ⟨q, -, rfl⟩ := Option.map_eq_some_iff.1 h
  exact fun p => List.mem_append_left _

/-- The wire without its `i`-th request: nothing of that socket is left on it. -/
theorem mem_eraseIdx (h : n.Ok) {i : Nat} (hi : n.wire[i]? = some (k, m)) (x : Nat) (m' : ν) :
    (x, m') ∈ n.wire.eraseIdx i ↔ (x, m') ∈ n.wire ∧ x ≠ k := by
  obtain ⟨hlt, hget⟩ := List.getElem?_eq_some_iff.1 hi
  have hsplit : n.wire = n.wire.take i ++ (k, m) :: n.wire.drop (i + 1) := by
    rw [← hget, List.getElem_cons_drop, List.take_append_drop]
  have hnd := h.nodup
  rw [hsplit, List.map_append, List.map_cons, List.nodup_middle, List.nodup_cons,
    ← List.map_append, ← List.eraseIdx_eq_take_drop_succ] at hnd
  have hmem : (x, m') ∈ n.wire ↔ (x, m') = (k, m) ∨ (x, m') ∈ n.wire.eraseIdx i := by
    rw [List.eraseIdx_eq_take_drop_succ]
    nth_rewrite 1 [hsplit]
    simp only [List.mem_append, List.mem_cons]
    exact or_left_comm
  have hnot : (x, m') ∈ n.wire.eraseIdx i → x ≠ k := by
    rintro hx rfl
    exact hnd.1 (List.mem_map.2 ⟨_, hx, rfl⟩)
  rw [hmem]
  constructor
  · intro hx
    exact ⟨.inr hx, hnot hx⟩
  · rintro ⟨hx | hx, hne⟩
    · exact absurd (congrArg Prod.fst hx) hne
    · exact hx

/-- An answer reaches the socket of its request, if that is open, and nothing else. -/
theorem answer_spec (h : n.Ok) {i : Nat} (hr : n.answer i a = some n') :
    n'.Ok ∧ (∀ x, n.Quiet x → n'.Quiet x) ∧ (∀ x m, n.Busy x m → n'.Busy x m) ∧
      ∀ x, n'.Live x ↔ n.Live x := by
  have hlog := answer_log hr
  obtain ⟨⟨k, m⟩, hi, rfl⟩ := Option.map_eq_some_iff.1 hr
  have hmem : (k, m) ∈ n.wire := List.mem_of_getElem? hi
  have hkey : ∀ m', (k, m') ∈ n.wire → m' = m := fun m' hm' =>
    congrArg Prod.snd (List.inj_on_of_nodup_map h.nodup hm' hmem rfl)
  have herase := mem_eraseIdx h hi
  have hlive : ∀ x, Live ⟨Function.update n.sockets k ((n.sockets k).map (·.arrive [a])), n.next,
      n.wire.eraseIdx i, n.log ++ [(m, a)]⟩ x ↔ n.Live x := by
    intro x
    refine live_update.trans ?_
    rw [Option.isSome_map]
    by_cases hx : x = k
    · simp [hx, Live]
    · simp [hx]
  refine ⟨⟨?_, fun p hp => ?_, fun x hx => h.live_lt x ((hlive x).1 hx)⟩, fun x hx => ?_,
    fun x m' hx => ?_, hlive⟩
  · exact h.nodup.sublist ((List.eraseIdx_sublist n.wire i).map Prod.fst)
  · exact h.wire_lt p ((List.eraseIdx_sublist n.wire i).subset hp)
  · have hne : x ≠ k := by
      rintro rfl
      exact hx.2 m hmem
    exact ⟨(Function.update_of_ne hne _ _).trans hx.1,
      fun m' hm' => hx.2 m' ((herase x m').1 hm').1⟩
  · rcases hx with ⟨hs, hw⟩ | ⟨b, hs, hw, hl⟩
    · by_cases hxk : x = k
      · -- the answer to this very request
        cases hxk
        cases hkey m' hw
        refine .inr ⟨a, ?_, fun m' hm' => ((herase k m').1 hm').2 rfl,
          List.mem_append_right _ (List.mem_singleton.2 rfl)⟩
        show Function.update _ _ _ _ = _
        rw [Function.update_self, hs]
        rfl
      · exact .inl ⟨(Function.update_of_ne hxk _ _).trans hs, (herase x m').2 ⟨hw, hxk⟩⟩
    · have hne : x ≠ k := by
        rintro rfl
        exact hw m hmem
      exact .inr ⟨b, (Function.update_of_ne hne _ _).trans hs,
        fun m' hm' => hw m' ((herase x m').1 hm').1, hlog _ hl⟩

end Net

/-! ## The callers -/

/-- Where a caller is. -/
inductive Phase (ν : Type v)
  /-- It holds no socket. -/
  | out
  /-- It holds socket `k` and waits for nothing. -/
  | holding (k : Nat)
  /-- It has sent `m` on socket `k`. -/
  | waiting (k : Nat) (m : ν)
  /-- It has given up and is about to destroy socket `k`. -/
  | closing (k : Nat)

def Phase.socket : Phase ν → Option Nat
  | .out => none
  | .holding k => some k
  | .waiting k _ => some k
  | .closing k => some k

structure State (κ : Type u) (ν : Type v) (α : Type w) where
  cache : Option Nat := none
  phase : κ → Phase ν := fun _ => .out
  net : Net ν α := {}

inductive Event (κ : Type u) (ν : Type v) (α : Type w)
  | take (c : κ)
  | create (c : κ)
  | send (c : κ) (m : ν)
  | answer (i : Nat) (a : α)
  | receive (c : κ)
  | putBack (c : κ)
  | giveUp (c : κ)
  | destroy (c : κ)
  /-- The cached socket is destroyed. -/
  | flush

section step
variable [DecidableEq κ]

def State.goto (s : State κ ν α) (c : κ) (p : Phase ν) : State κ ν α :=
  { s with phase := Function.update s.phase c p }

def step (s : State κ ν α) : Event κ ν α → Option (State κ ν α)
  | .take c =>
    match s.phase c, s.cache with
    | .out, some k => some ({ s with cache := none }.goto c (.holding k))
    | _, _ => none
  | .create c =>
    match s.phase c with
    | .out => some ({ s with net := s.net.create }.goto c (.holding s.net.next))
    | _ => none
  | .send c m =>
    match s.phase c with
    | .holding k => some ({ s with net := (s.net.send k m).getD s.net }.goto c (.waiting k m))
    | _ => none
  | .answer i a => (s.net.answer i a).map fun n => { s with net := n }
  | .receive c =>
    match s.phase c with
    | .waiting k _ => (s.net.recv k).map fun r => { s with net := r.2 }.goto c (.holding k)
    | _ => none
  | .putBack c =>
    match s.phase c, s.cache with
    | .holding k, none => some ({ s with cache := some k }.goto c .out)
    | _, _ => none
  | .giveUp c => (s.phase c).socket.map fun k => s.goto c (.closing k)
  | .destroy c =>
    (s.phase c).socket.map fun k => { s with net := s.net.destroy k }.goto c .out
  | .flush => s.cache.map fun k => { s with cache := none, net := s.net.destroy k }

variable {s : State κ ν α} {c : κ} {k : Nat}

theorem step_take (hp : s.phase c = .out) (hk : s.cache = some k) :
    step s (.take c) = some ({ s with cache := none }.goto c (.holding k)) := by
  simp only [step, hp, hk]

theorem step_create (hp : s.phase c = .out) :
    step s (.create c) = some ({ s with net := s.net.create }.goto c (.holding s.net.next)) := by
  simp only [step, hp]

theorem step_send (hp : s.phase c = .holding k) (m : ν) :
    step s (.send c m) =
      some ({ s with net := (s.net.send k m).getD s.net }.goto c (.waiting k m)) := by
  simp only [step, hp]

theorem step_receive {m : ν} (hp : s.phase c = .waiting k m) {r : α × Net ν α}
    (hr : s.net.recv k = some r) :
    step s (.receive c) = some ({ s with net := r.2 }.goto c (.holding k)) := by
  simp only [step, hp, hr, Option.map_some]

theorem step_putBack (hp : s.phase c = .holding k) (hk : s.cache = none) :
    step s (.putBack c) = some ({ s with cache := some k }.goto c .out) := by
  simp only [step, hp, hk]

theorem step_giveUp (hp : (s.phase c).socket = some k) :
    step s (.giveUp c) = some (s.goto c (.closing k)) := by
  simp only [step, hp, Option.map_some]

theorem step_destroy (hp : (s.phase c).socket = some k) :
    step s (.destroy c) = some ({ s with net := s.net.destroy k }.goto c .out) := by
  simp only [step, hp, Option.map_some]

end step

/-! Callers that are kept in a list are known by their position. -/

section list
variable {χ : Type u} {calls : List χ} {c : Nat} {call call' : χ}

/-- The phase of each caller of a list; those to come are `out`. -/
def phases (f : Nat → χ → Phase ν) (calls : List χ) (c : Nat) : Phase ν :=
  calls[c]?.elim .out (f c)

theorem phases_nil (f : Nat → χ → Phase ν) : phases f [] = fun _ => .out := by
  funext c
  rw [phases, List.getElem?_nil]
  rfl

theorem phases_of {f : Nat → χ → Phase ν} (h : calls[c]? = some call) :
    phases f calls c = f c call := by
  rw [phases, h]
  rfl

theorem phases_set (f : Nat → χ → Phase ν) (h : calls[c]? = some call) :
    phases f (calls.set c call') = Function.update (phases f calls) c (f c call') := by
  funext x
  obtain ⟨hlt, -⟩ := List.getElem?_eq_some_iff.1 h
  by_cases hx : x = c
  · rw [hx, Function.update_self, phases, List.getElem?_set_self hlt]
    rfl
  · rw [Function.update_of_ne hx, phases, List.getElem?_set_ne (Ne.symm hx)]
    rfl

theorem phases_append {f : Nat → χ → Phase ν} (h : f calls.length call = .out) :
    phases f (calls ++ [call]) = phases f calls := by
  funext x
  unfold phases
  rcases Nat.lt_trichotomy x calls.length with hx | hx | hx
  · rw [List.getElem?_append_left hx]
  · rw [hx, List.getElem?_concat_length, List.getElem?_eq_none (Nat.le_refl _)]
    exact h
  · rw [List.getElem?_eq_none (by simp; omega), List.getElem?_eq_none (by omega)]

/-- `P` holds of every caller of a list. -/
def EachCall (P : Nat → χ → Prop) (calls : List χ) : Prop :=
  ∀ c call, calls[c]? = some call → P c call

theorem EachCall.nil (P : Nat → χ → Prop) : EachCall P [] := by
  intro c call h
  rw [List.getElem?_nil] at h
  cases h

theorem EachCall.mono {P Q : Nat → χ → Prop} (h : EachCall P calls)
    (hPQ : ∀ c call, P c call → Q c call) : EachCall Q calls :=
  fun c call hc => hPQ c call (h c call hc)

theorem EachCall.set {P : Nat → χ → Prop} (h : EachCall P calls) (hp : P c call') :
    EachCall P (calls.set c call') := by
  intro x y hy
  by_cases hx : x = c
  · rw [hx, List.getElem?_set] at hy
    simp only [if_true] at hy
    split at hy
    · cases hy
      exact hx ▸ hp
    · cases hy
  · rw [List.getElem?_set_ne (Ne.symm hx)] at hy
    exact h x y hy

theorem EachCall.append {P : Nat → χ → Prop} (h : EachCall P calls) (hp : P calls.length call) :
    EachCall P (calls ++ [call]) := by
  intro x y hy
  rcases Nat.lt_trichotomy x calls.length with hx | hx | hx
  · rw [List.getElem?_append_left hx] at hy
    exact h x y hy
  · rw [hx, List.getElem?_concat_length] at hy
    cases hy
    exact hx ▸ hp
  · rw [List.getElem?_eq_none (by simp; omega)] at hy
    cases hy

end list

/-- What a caller may rely on. -/
def Serves (n : Net ν α) : Phase ν → Prop
  | .out => True
  | .holding k => n.Quiet k
  | .waiting k m => n.Busy k m
  | .closing _ => True

structure Sound (s : State κ ν α) : Prop where
  /-- No socket is leaked, shared, or destroyed while it is held. -/
  owned : Owned s.cache (fun c => (s.phase c).socket) s.net.Live
  /-- The cached socket has no unanswered request. -/
  cached : ∀ k, s.cache = some k → s.net.Quiet k
  serves : ∀ c, Serves s.net (s.phase c)
  net : s.net.Ok

variable {s s' : State κ ν α}

theorem Serves.frame {n n' : Net ν α} {k : Nat} {p : Phase ν} (h : Serves n p)
    (hf : Net.Frame k n n') (hne : p.socket ≠ some k) : Serves n' p := by
  cases p with
  | out => trivial
  | holding x => exact Net.Quiet.frame h hf fun hx => hne (congrArg some hx)
  | waiting x m => exact Net.Busy.frame h hf fun hx => hne (congrArg some hx)
  | closing x => trivial

theorem sound_init : Sound ({} : State κ ν α) := by
  refine ⟨Owned.empty.congr (fun _ => rfl) fun r => ?_, nofun, fun _ => trivial,
    ⟨List.nodup_nil, nofun, nofun⟩⟩
  exact ⟨nofun, False.elim⟩

/-- **What a caller receives answers the request it sent.** -/
theorem Sound.received (h : Sound s) {c : κ} {k : Nat} {m : ν} (hp : s.phase c = .waiting k m)
    {a : α} {n : Net ν α} (hr : s.net.recv k = some (a, n)) : (m, a) ∈ s.net.log := by
  have hs := h.serves c
  rw [hp] at hs
  exact (Net.recv_spec h.net hs hr).2.2.2.1

theorem Sound.flush (h : Sound s) {k : Nat} (hk : s.cache = some k) :
    Sound { s with cache := none, net := s.net.destroy k } := by
  obtain ⟨hok, hf, hl⟩ := Net.destroy_spec h.net k
  have ho := h.owned
  rw [hk] at ho
  exact ⟨ho.flush hl, nofun, fun c => (h.serves c).frame hf (ho.cached_free c k rfl), hok⟩

section step
variable [DecidableEq κ]

theorem phase_goto_self (s : State κ ν α) (c : κ) (p : Phase ν) : (s.goto c p).phase c = p :=
  Function.update_self ..

theorem phase_goto_ne (s : State κ ν α) {c c' : κ} (p : Phase ν) (h : c' ≠ c) :
    (s.goto c p).phase c' = s.phase c' :=
  Function.update_of_ne h _ _

/-- To go where one is changes nothing. -/
theorem goto_eq_self {c : κ} {p : Phase ν} (h : s.phase c = p) : s.goto c p = s := by
  rw [State.goto, ← h, Function.update_eq_self]

theorem socket_goto_self (s : State κ ν α) (c : κ) (p : Phase ν) :
    ((s.goto c p).phase c).socket = p.socket := by
  rw [phase_goto_self]

theorem socket_goto_ne (s : State κ ν α) {c c' : κ} (p : Phase ν) (h : c' ≠ c) :
    ((s.goto c p).phase c').socket = (s.phase c').socket := by
  rw [phase_goto_ne s p h]

/-- A caller that moves on serves, if its new phase does and the others' phases do. -/
theorem serves_goto {c : κ} {p : Phase ν} (hp : Serves s.net p)
    (ho : ∀ c' ≠ c, Serves s.net (s.phase c')) (c' : κ) :
    Serves s.net ((s.goto c p).phase c') := by
  by_cases hcc : c' = c
  · rw [hcc, phase_goto_self]
    exact hp
  · rw [phase_goto_ne s p hcc]
    exact ho c' hcc

/-- A step that touches only the socket `k` that caller `c` holds. -/
theorem Sound.touch (h : Sound s) {c : κ} {k : Nat} (hc : (s.phase c).socket = some k)
    {n : Net ν α} (hok : n.Ok) (hf : Net.Frame k s.net n) (hl : ∀ x, n.Live x ↔ s.net.Live x)
    {p : Phase ν} (hp : p.socket = some k) (hs : Serves n p) :
    Sound ({ s with net := n }.goto c p) := by
  refine ⟨h.owned.congr (fun c' => ?_) hl, fun x hx => (h.cached x hx).frame hf ?_,
    serves_goto hs fun c' hcc => (h.serves c').frame hf (h.owned.others hc hcc), hok⟩
  · by_cases hcc : c' = c
    · rw [hcc, socket_goto_self, hc, hp]
    · exact socket_goto_ne _ p hcc
  · rintro rfl
    exact h.owned.cached_free c x hx hc

theorem Sound.take (h : Sound s) {c : κ} (hc : s.phase c = .out) {k : Nat}
    (hk : s.cache = some k) : Sound ({ s with cache := none }.goto c (.holding k)) := by
  have ho := h.owned
  rw [hk] at ho
  refine ⟨ho.take (c := c) (by rw [hc]; rfl) (socket_goto_self ..)
    fun c' hcc => socket_goto_ne _ _ hcc, nofun, ?_, h.net⟩
  exact serves_goto (s := { s with cache := none }) (h.cached k hk) fun c' _ => h.serves c'

theorem Sound.create (h : Sound s) {c : κ} (hc : s.phase c = .out) :
    Sound ({ s with net := s.net.create }.goto c (.holding s.net.next)) := by
  obtain ⟨hok, hf, hq, hnew, hl⟩ := Net.create_spec h.net
  have hne : ∀ x, s.net.Live x → x ≠ s.net.next := fun x hx he => hnew (he ▸ hx)
  refine ⟨h.owned.create (c := c) hnew (by rw [hc]; rfl) (socket_goto_self ..)
    (fun c' hcc => socket_goto_ne _ _ hcc) hl,
    fun x hx => (h.cached x hx).frame hf (hne x (h.cached x hx).live), ?_, hok⟩
  refine serves_goto (s := { s with net := s.net.create }) hq fun c' _ => ?_
  exact (h.serves c').frame hf fun hx => hnew (h.owned.held_live c' _ hx)

theorem Sound.putBack (h : Sound s) {c : κ} {k : Nat} (hc : s.phase c = .holding k)
    (hk : s.cache = none) : Sound ({ s with cache := some k }.goto c .out) := by
  have ho := h.owned
  rw [hk] at ho
  have hq := h.serves c
  rw [hc] at hq
  refine ⟨ho.putBack (c := c) (by rw [hc]; rfl) (socket_goto_self ..)
    fun c' hcc => socket_goto_ne _ _ hcc, ?_, ?_, h.net⟩
  · rintro x ⟨⟩
    exact hq
  · exact serves_goto (s := { s with cache := some k }) trivial fun c' _ => h.serves c'

theorem Sound.destroy (h : Sound s) {c : κ} {k : Nat} (hc : (s.phase c).socket = some k) :
    Sound ({ s with net := s.net.destroy k }.goto c .out) := by
  obtain ⟨hok, hf, hl⟩ := Net.destroy_spec h.net k
  refine ⟨h.owned.destroy hc (socket_goto_self ..) (fun c' hcc => socket_goto_ne _ _ hcc) hl,
    fun x hx => (h.cached x hx).frame hf ?_, ?_, hok⟩
  · rintro rfl
    exact h.owned.cached_free c x hx hc
  · refine serves_goto (s := { s with net := s.net.destroy k }) trivial fun c' hcc => ?_
    exact (h.serves c').frame hf (h.owned.others hc hcc)

/-- **Every step keeps the discipline.** -/
theorem sound_step (h : Sound s) {e : Event κ ν α} (he : step s e = some s') : Sound s' := by
  cases e with
  | take c =>
    simp only [step] at he
    split at he
    · next k hc hk => cases he; exact h.take hc hk
    · cases he
  | create c =>
    simp only [step] at he
    split at he
    · next hc => cases he; exact h.create hc
    · cases he
  | send c m =>
    simp only [step] at he
    split at he
    · next k hc =>
      cases he
      have hq := h.serves c
      rw [hc] at hq
      obtain ⟨n, hn, hok, hf, hb, hl⟩ := Net.send_spec h.net hq m
      rw [hn, Option.getD_some]
      exact h.touch (by rw [hc]; rfl) hok hf hl rfl hb
    · cases he
  | answer i a =>
    obtain ⟨n, hn, rfl⟩ := Option.map_eq_some_iff.1 he
    obtain ⟨hok, hq, hb, hl⟩ := Net.answer_spec h.net hn
    refine ⟨h.owned.congr (fun _ => rfl) hl, fun k hk => hq k (h.cached k hk), fun c => ?_, hok⟩
    have hs := h.serves c
    show Serves n (s.phase c)
    cases hp : s.phase c with
    | out => trivial
    | holding k => rw [hp] at hs; exact hq k hs
    | waiting k m => rw [hp] at hs; exact hb k m hs
    | closing k => trivial
  | receive c =>
    simp only [step] at he
    split at he
    · next k m hc =>
      obtain ⟨⟨a, n⟩, hn, rfl⟩ := Option.map_eq_some_iff.1 he
      have hb := h.serves c
      rw [hc] at hb
      obtain ⟨hok, hf, hq, -, hl⟩ := Net.recv_spec h.net hb hn
      exact h.touch (by rw [hc]; rfl) hok hf hl rfl hq
    · cases he
  | putBack c =>
    simp only [step] at he
    split at he
    · next k hc hk => cases he; exact h.putBack hc hk
    · cases he
  | giveUp c =>
    obtain ⟨k, hk, rfl⟩ := Option.map_eq_some_iff.1 he
    exact h.touch (p := .closing k) hk h.net (Net.Frame.refl k s.net) (fun _ => Iff.rfl) rfl trivial
  | destroy c =>
    obtain ⟨k, hk, rfl⟩ := Option.map_eq_some_iff.1 he
    exact h.destroy hk
  | flush =>
    obtain ⟨k, hk, rfl⟩ := Option.map_eq_some_iff.1 he
    exact h.flush hk

end step

end Pool
