import StreamSwitch.RtspPort.Delivery

/-!
# Seen counts along all runs

Consumers join and leave, the queue is reset, elements are put, got and moved past, in
any order. The seen counts stay right as long as consumers keep their positions
(`FreshAtEnd`), none leaves while it alone holds up elements behind its current one or
after it lost its position, and none leaves with an element of a queue that was reset.
-/

namespace StreamSwitch

namespace BufferQueue

open Readers

variable {α : Type} {s s' : Traced α} {q q₁ : BufferQueue α} {c d id : Nat}
  {x x' y : BufferQueueConsumer} {puts : List α} {left : Nat → List Nat}

/-! ## Joining -/

/-- The queue with one consumer more. -/
def join (q : BufferQueue α) : BufferQueue α :=
  { q with consumers := q.consumers + 1, registered := q.registered ++ [some {}] }

theorem consumer_join_self : q.join.consumer q.registered.length = some {} := by
  simp [consumer, join]

theorem consumer_join_ne (hd : d ≠ q.registered.length) : q.join.consumer d = q.consumer d := by
  rcases Nat.lt_or_gt_of_ne hd with hlt | hgt
  · simp [consumer, join, List.getElem?_append_left hlt]
  · have h1 : (q.registered ++ [some ({} : BufferQueueConsumer)])[d]? = none := by
      rw [List.getElem?_eq_none_iff, List.length_append, List.length_singleton]
      omega
    have h2 : q.registered[d]? = none := List.getElem?_eq_none (by omega)
    simp [consumer, join, h1, h2]

theorem not_mem_live : q.registered.length ∉ q.live := by
  intro h
  obtain ⟨x, hx⟩ := mem_live.1 h
  exact Nat.lt_irrefl _ (consumer_lt hx)

theorem live_join : q.join.live = insert q.registered.length q.live := by
  ext d
  rw [Finset.mem_insert, mem_live, mem_live]
  by_cases hd : d = q.registered.length
  · subst hd
    simp [consumer_join_self]
  · simp [consumer_join_ne hd, hd]

theorem consumerNew_cases (hrun : q.stopped = false) :
    q.consumerNew = .error .overflow ∨
      (q.consumers < gulongSize - 1 ∧ q.consumerNew = .ok q.join) := by
  unfold consumerNew
  rw [if_neg (by simp [hrun])]
  by_cases h : q.consumers < gulongSize - 1
  · exact .inr ⟨h, if_pos h⟩
  · exact .inl (if_neg h)

theorem Registered.join (hs : Registered s) (hlt : s.queue.consumers < gulongSize - 1) :
    Registered ⟨s.queue.join, { s.history with
      left := Function.update s.history.left s.queue.registered.length [] }⟩ := by
  refine ⟨hs.running, ?_, ?_, fun d y hd => ?_, hs.puts_length⟩
  · rw [live_join, Finset.card_insert_of_notMem not_mem_live, ← hs.consumers]
    rfl
  · show s.queue.consumers + 1 < gulongSize
    omega
  · by_cases hdn : d = s.queue.registered.length
    · subst hdn
      cases consumer_join_self.symm.trans hd
      rfl
    · exact hs.pointer d y ((consumer_join_ne hdn).symm.trans hd)

theorem Sound.join (hs : Sound s) (hlt : s.queue.consumers < gulongSize - 1) :
    Sound ⟨s.queue.join, { s.history with
      left := Function.update s.history.left s.queue.registered.length [] }⟩ := by
  have hadd := hs.numbered.oldest_add
  refine ⟨hs.toRegistered.join hlt,
    ⟨hs.numbered.length_le, hs.numbered.ids, hs.numbered.payload⟩,
    ⟨fun el hel => ?_, fun _ el _ => ?_⟩, fun d y hd => ?_⟩
  · rw [live_join, passedBy_insert not_mem_live]
    exact hs.counted.seen el hel
  · refine ⟨s.queue.registered.length, ?_, ?_⟩
    · rw [live_join]
      exact Finset.mem_insert_self ..
    · simp
  · dsimp only
    by_cases hdn : d = s.queue.registered.length
    · subst hdn
      cases consumer_join_self.symm.trans hd
      rw [Function.update_self]
      refine ⟨fun _ => rfl, fun _ => Reading.idle ?_⟩
      show s.queue.oldest ≤ s.queue.nextId
      omega
    · rw [Function.update_of_ne hdn]
      have hp := hs.placed d y ((consumer_join_ne hdn).symm.trans hd)
      exact ⟨hp.stale, hp.reading⟩

/-! ## Clearing the queue -/

theorem FreedOnce.clearQueue (hf : FreedOnce q) (hn : Numbered q puts) :
    FreedOnce q.clearQueue := by
  have hadd := hn.oldest_add
  have hmem : ∀ i, i ∈ q.queue.map (·.id) ↔ q.oldest ≤ i ∧ i < q.nextId := by
    intro i
    rw [hn.ids, List.mem_range'_1, hadd]
  refine ⟨List.nodup_append.2 ⟨?_, hf.nodup, fun i hi j hj hij => ?_⟩, fun i => ?_⟩
  · rw [List.nodup_reverse, hn.ids]
    exact List.nodup_range'
  · subst hij
    rw [List.mem_reverse, hmem] at hi
    have := (hf.mem_freed i).1 hj
    omega
  · show i ∈ (q.queue.map (·.id)).reverse ++ q.freed ↔ i < q.nextId - 0
    rw [List.mem_append, List.mem_reverse, hmem, hf.mem_freed]
    omega

theorem producerResetQueue_eq (hrun : q.stopped = false) : q.producerResetQueue =
    .ok { q.clearQueue with
      queueSerial := (q.queueSerial + 1) % gulongSize
      nextSerial := 0 } := by
  unfold producerResetQueue
  rw [if_neg (by simp [hrun])]

/-- No consumer has the serial of the queue to come, with an element. -/
def SerialUnused (q : BufferQueue α) : Prop :=
  ∀ c ∈ q.live, ∀ x ∈ q.consumer c, x.queueSerial = (q.queueSerial + 1) % gulongSize →
    x.currentElementObject = none

instance (q : BufferQueue α) : Decidable (SerialUnused q) :=
  inferInstanceAs (Decidable (∀ _ ∈ _, ∀ _ ∈ _, _ → _))

theorem Sound.reset (hs : Sound s) (hunused : SerialUnused s.queue) :
    Sound ⟨{ s.queue.clearQueue with
      queueSerial := (s.queue.queueSerial + 1) % gulongSize
      nextSerial := 0 }, { s.history with left := fun _ => [] }⟩ := by
  refine ⟨⟨hs.running, hs.consumers, hs.bounded, hs.pointer, hs.puts_length⟩,
    ⟨Nat.zero_le _, rfl, nofun⟩, ⟨nofun, fun _ => nofun⟩,
    fun d y hd => ⟨fun _ => rfl, fun heq => ?_⟩⟩
  rw [hunused d (mem_live.2 ⟨y, hd⟩) y hd heq]
  exact Reading.idle (Nat.sub_le ..)

/-! ## Leaving -/

/-- A consumer is gone, and the counts are those of the others. -/
theorem sound_setConsumer_none (hc : q₁.consumer c = some x) (hrun : q₁.stopped = false)
    (hcons : q₁.consumers = (q₁.live.erase c).card) (hb : q₁.consumers < gulongSize)
    (hptr : ∀ d y, q₁.consumer d = some y → y.currentElementPointer = y.currentElementObject)
    (hputs : puts.length = q₁.nextId) (hn : Numbered q₁ puts)
    (hseen : ∀ el ∈ q₁.queue, el.seen = (passedBy (q₁.live.erase c) left el.id).card)
    (hwait : (q₁.live.erase c).Nonempty → ∀ el ∈ q₁.queue, ∃ d ∈ q₁.live.erase c, el.id ∉ left d)
    (hplaced : ∀ d y, q₁.consumer d = some y → d ≠ c → Placed q₁ (left d) y) :
    Sound ⟨q₁.setConsumer c none, ⟨puts, left⟩⟩ := by
  have hlive : (q₁.setConsumer c none).live = q₁.live.erase c := live_setConsumer_none hc
  have hne : ∀ d y, (q₁.setConsumer c none).consumer d = some y → d ≠ c := by
    rintro d y hd rfl
    rw [consumer_setConsumer_self hc] at hd
    cases hd
  have hget : ∀ d y, (q₁.setConsumer c none).consumer d = some y → q₁.consumer d = some y :=
    fun d y hd => (consumer_setConsumer_ne (hne d y hd)).symm.trans hd
  refine ⟨⟨hrun, ?_, hb, fun d y hd => hptr d y (hget d y hd), hputs⟩,
    ⟨hn.length_le, hn.ids, hn.payload⟩, ⟨fun el hel => ?_, fun hnonempty el hel => ?_⟩,
    fun d y hd => ?_⟩
  · exact hcons.trans (congrArg Finset.card hlive.symm)
  · rw [hlive]
    exact hseen el hel
  · rw [hlive] at hnonempty ⊢
    exact hwait hnonempty el hel
  · have hp := hplaced d y (hget d y hd) (hne d y hd)
    exact ⟨hp.stale, hp.reading⟩

theorem consumerElemUnref_of_not (h : x.queueSerial ≠ q.queueSerial ∨ x.currentElementObject = none) :
    q.consumerElemUnref x = .ok (q, x) := by
  unfold consumerElemUnref
  cases ho : x.currentElementObject with
  | none => rfl
  | some id =>
    rcases h with h | h
    · exact if_pos (Ne.symm h)
    · rw [ho] at h
      cases h

/-- The queue after the consumer has given up its element. -/
inductive GaveUp (s : Traced α) (c : Nat) (x : BufferQueueConsumer) :
    BufferQueue α → BufferQueueConsumer → Prop
  | stands {id : Nat} {q' : BufferQueue α} {x' : BufferQueueConsumer} (hst : Stands s c x id)
      (hunref : Unref s.queue x id q' x') : GaveUp s c x q' x'
  | none (hx : x.queueSerial ≠ s.queue.queueSerial ∨ x.currentElementObject = none) :
      GaveUp s c x s.queue x

theorem Sound.gaveUp (hs : Sound s) (hc : s.queue.consumer c = some x) :
    ∃ q' x', s.queue.consumerElemUnref x = .ok (q', x') ∧ GaveUp s c x q' x' := by
  by_cases hx : x.queueSerial ≠ s.queue.queueSerial ∨ x.currentElementObject = none
  · exact ⟨_, _, consumerElemUnref_of_not hx, .none hx⟩
  · push Not at hx
    obtain ⟨id, hid⟩ := Option.ne_none_iff_exists'.1 hx.2
    have hst : Stands s c x id := ⟨hc, hx.1, hid⟩
    obtain ⟨q', x', hok, hunref⟩ := hst.unref hs
    exact ⟨q', x', hok, .stands hst hunref⟩

section gaveUp
variable {q' : BufferQueue α}

theorem GaveUp.frame (h : GaveUp s c x q' x') : Frame s.queue q' := by
  cases h with
  | stands hst hunref => exact hunref.frame
  | none => exact ⟨rfl, rfl, rfl, rfl, rfl⟩

theorem GaveUp.numbered (h : GaveUp s c x q' x') (hs : Sound s) :
    Numbered q' s.history.puts := by
  cases h with
  | stands hst hunref => exact hunref.numbered hs.numbered
  | none => exact hs.numbered

theorem GaveUp.freedOnce (h : GaveUp s c x q' x') (hs : Sound s) (hf : FreedOnce s.queue) :
    FreedOnce q' := by
  cases h with
  | stands hst hunref => exact hunref.freedOnce hs hst hf
  | none => exact hf

theorem GaveUp.placed (h : GaveUp s c x q' x') (hs : Sound s)
    (hd : s.queue.consumer d = some y) (hdc : d ≠ c) : Placed q' (s.history.left d) y := by
  cases h with
  | stands hst hunref => exact hunref.placed hs hst hd hdc
  | none => exact hs.placed d y hd

/-- The last consumer leaves nothing behind. -/
theorem Sound.free_last (hs : Sound s) (hc : s.queue.consumer c = some x)
    (hone : s.queue.consumers = 1) :
    ∃ q', s.queue.consumerFree c x = .ok q' ∧ Sound ⟨q', s.history⟩ ∧
      (FreedOnce s.queue → FreedOnce q') := by
  obtain ⟨q', x', hok, hgave⟩ := hs.gaveUp hc
  obtain ⟨hreg, hcons, hstop, hser, hnext⟩ := hgave.frame
  have hn := hgave.numbered hs
  have hc' : q'.consumer c = some x := (consumer_congr hreg).trans hc
  let q₁ : BufferQueue α := ({ q' with consumers := 0 } : BufferQueue α).clearQueue
  have hlive : q₁.live = q'.live := live_congr rfl
  have hempty : (q₁.live.erase c).card = 0 := by
    rw [hlive, Finset.card_erase_of_mem (mem_live.2 ⟨x, hc'⟩), live_congr hreg, ← hs.consumers, hone]
  refine ⟨q₁.setConsumer c none, ?_, ?_, fun hf => ?_⟩
  · simp [consumerFree, hone, hok, hcons, hstop, hs.running, bind, Except.bind, pure, Except.pure, q₁]
  · refine sound_setConsumer_none (x := x) ((consumer_congr rfl).trans hc')
      (hstop.trans hs.running) hempty.symm (Nat.two_pow_pos 64) (fun d y hd => ?_)
      (hs.puts_length.trans hnext.symm) ⟨Nat.zero_le _, rfl, nofun⟩ nofun (fun _ => nofun)
      (fun d y hd hdc => ?_)
    · exact hs.pointer d y ((consumer_congr hreg).symm.trans hd)
    · rw [Finset.card_eq_zero, Finset.eq_empty_iff_forall_notMem] at hempty
      exact absurd (Finset.mem_erase.2 ⟨hdc, mem_live.2 ⟨y, hd⟩⟩) (hempty d)
  · have hf' := (hgave.freedOnce hs hf).clearQueue hn
    exact ⟨hf'.nodup, hf'.mem_freed⟩

/-- The counts of the elements up to `id` go down by one. -/
def unsee (el : BufferQueueElement α) : BufferQueueElement α :=
  { el with seen := (el.seen + (gulongSize - 1)) % gulongSize }

@[simp] theorem unsee_id {el : BufferQueueElement α} : (unsee el).id = el.id := by
  rw [unsee]

@[simp] theorem unsee_payload {el : BufferQueueElement α} : (unsee el).payload = el.payload := by
  rw [unsee]

theorem unseeUpTo_eq {before after : List (BufferQueueElement α)} {el : BufferQueueElement α}
    (hq : q.queue = before ++ el :: after) (hbefore : ∀ e ∈ before, e.id < el.id)
    (hle : ∀ e ∈ before ++ [el], e.seen ≤ q.consumers) :
    q.unseeUpTo el.id = .ok { q with queue := (before ++ [el]).map unsee ++ after } := by
  have hne : ∀ e ∈ before, decide (e.id ≠ el.id) = true := fun e he => by
    simpa using (hbefore e he).ne
  have hdrop : q.queue.dropWhile (fun e => e.id ≠ el.id) = el :: after := by
    rw [hq, List.dropWhile_append_of_pos hne, List.dropWhile_cons_of_neg (by simp)]
  have htake : q.queue.takeWhile (fun e => e.id ≠ el.id) = before := by
    rw [hq, List.takeWhile_append_of_pos hne, List.takeWhile_cons_of_neg (by simp),
      List.append_nil]
  unfold unseeUpTo
  rw [hdrop, htake]
  exact if_pos (List.all_eq_true.2 fun e he => decide_eq_true (hle e he))

theorem unsee_seen {el : BufferQueueElement α} {n : Nat} (h : el.seen = n + 1)
    (hlt : el.seen < gulongSize) : (unsee el).seen = n := by
  show (el.seen + (gulongSize - 1)) % gulongSize = n
  rw [h] at hlt ⊢
  rw [show n + 1 + (gulongSize - 1) = n + gulongSize by omega, Nat.add_mod_right,
    Nat.mod_eq_of_lt (by omega)]

/-- The consumer can leave: it has kept its position, it does not hold an element of an earlier queue,
and the elements it has not reached are held up by others too. -/
structure LeavesCleanly (s : Traced α) (c : Nat) : Prop where
  fresh : FreshAtEnd s c
  notStale : ∀ x ∈ s.queue.consumer c, x.queueSerial ≠ s.queue.queueSerial →
    x.currentElementObject = none
  others : ∀ el ∈ s.queue.queue, s.queue.current c = some el.id ∨
    ∃ d ∈ s.queue.live, d ≠ c ∧ el.id ∉ s.history.left d

/-- The consumer has not moved past an element: the count does not change when it leaves. -/
theorem seen_erase_of_not {el : BufferQueueElement α} (hs : Sound s) (hel : el ∈ s.queue.queue)
    (hnot : el.id ∉ s.history.left c) :
    el.seen = (passedBy (s.queue.live.erase c) s.history.left el.id).card := by
  rw [passedBy_erase, Finset.erase_eq_of_notMem fun hmem => hnot (mem_passedBy.1 hmem).2]
  exact hs.counted.seen el hel

/-- It has: the count goes down. -/
theorem seen_erase_of_mem {el : BufferQueueElement α} (hs : Sound s) (hel : el ∈ s.queue.queue)
    (hc : c ∈ s.queue.live) (hmem : el.id ∈ s.history.left c) :
    el.seen = (passedBy (s.queue.live.erase c) s.history.left el.id).card + 1 := by
  rw [passedBy_erase, Finset.card_erase_add_one (mem_passedBy.2 ⟨hc, hmem⟩)]
  exact hs.counted.seen el hel

theorem LeavesCleanly.waiting {el : BufferQueueElement α} (h : LeavesCleanly s c)
    (hel : el ∈ s.queue.queue) (hcur : s.queue.current c ≠ some el.id) :
    ∃ d ∈ s.queue.live.erase c, el.id ∉ s.history.left d := by
  obtain ⟨d, hd, hdc, hnot⟩ := (h.others el hel).resolve_left hcur
  exact ⟨d, Finset.mem_erase.2 ⟨hdc, hd⟩, hnot⟩

theorem Sound.seen_lt (hs : Sound s) (hc : c ∈ s.queue.live) {el : BufferQueueElement α}
    (hel : el ∈ s.queue.queue) : el.seen < s.queue.consumers := by
  rw [hs.counted.seen el hel, hs.consumers]
  exact card_passedBy_lt_iff.2 (hs.counted.waiting ⟨c, hc⟩ el hel)

/-- What does not depend on the element that the consumer gave up. -/
theorem sound_leave {queue : List (BufferQueueElement α)} {freed : List Nat} (hs : Sound s)
    (hc : s.queue.consumer c = some x) (q₁ : BufferQueue α)
    (hq₁ : q₁ = { s.queue with
      queue := queue
      freed := freed
      consumers := s.queue.consumers - 1 })
    (hn : Numbered q₁ s.history.puts)
    (hseen : ∀ el ∈ q₁.queue, el.seen = (passedBy (s.queue.live.erase c) s.history.left el.id).card)
    (hwait : ∀ el ∈ q₁.queue, ∃ d ∈ s.queue.live.erase c, el.id ∉ s.history.left d)
    (hplaced : ∀ d y, s.queue.consumer d = some y → d ≠ c → Placed q₁ (s.history.left d) y) :
    Sound ⟨q₁.setConsumer c none, s.history⟩ := by
  have hreg : q₁.registered = s.queue.registered := by rw [hq₁]
  have hcons : q₁.consumers = s.queue.consumers - 1 := by rw [hq₁]
  have hlive := live_congr hreg
  refine sound_setConsumer_none ((consumer_congr hreg).trans hc) (by rw [hq₁]; exact hs.running) ?_
    (by have := hs.bounded; omega) (fun d y hd => hs.pointer d y ((consumer_congr hreg).symm.trans hd))
    (by rw [hq₁]; exact hs.puts_length) hn (by rwa [hlive]) (fun _ => by rwa [hlive])
    (fun d y hd hdc => hplaced d y ((consumer_congr hreg).symm.trans hd) hdc)
  rw [hcons, hlive, Finset.card_erase_of_mem (mem_live.2 ⟨x, hc⟩), hs.consumers]

theorem consumerFree_of_gone {q' : BufferQueue α} (hmany : 1 < q.consumers)
    (hok : q.consumerElemUnref x = .ok (q', x')) (hcons : q'.consumers = q.consumers)
    (hx' : x'.currentElementObject = none) : q.consumerFree c x =
      .ok (({ q' with consumers := q.consumers - 1 } : BufferQueue α).setConsumer c none) := by
  have h0 : q.consumers ≠ 0 := by omega
  have h1 : q.consumers - 1 ≠ 0 := by omega
  simp [consumerFree, h0, h1, hok, hx', hcons, bind, Except.bind, pure, Except.pure]

theorem consumerFree_of_held {q' q₁ : BufferQueue α} (hmany : 1 < q.consumers)
    (hok : q.consumerElemUnref x = .ok (q', x')) (hcons : q'.consumers = q.consumers)
    (hobj : x'.currentElementObject = some id) (hptr : x'.currentElementPointer = some id)
    (hunsee : ({ q' with consumers := q.consumers - 1 } : BufferQueue α).unseeUpTo id = .ok q₁) :
    q.consumerFree c x = .ok (q₁.setConsumer c none) := by
  have h0 : q.consumers ≠ 0 := by omega
  have h1 : q.consumers - 1 ≠ 0 := by omega
  simp [consumerFree, h0, h1, hok, hobj, hptr, hcons, hunsee, bind, Except.bind, pure, Except.pure]

/-- The consumer is at no element. -/
theorem Sound.free_idle (hs : Sound s) (hc : s.queue.consumer c = some x)
    (hmany : 1 < s.queue.consumers) (hclean : LeavesCleanly s c)
    (hobj : x.currentElementObject = none) :
    ∃ q', s.queue.consumerFree c x = .ok q' ∧ Sound ⟨q', s.history⟩ ∧
      (FreedOnce s.queue → FreedOnce q') := by
  have hok : s.queue.consumerElemUnref x = .ok (s.queue, x) := consumerElemUnref_of_not (.inr hobj)
  have hcur : s.queue.current c = none := by simp [current, hc, hobj]
  have hnot : ∀ el ∈ s.queue.queue, el.id ∉ s.history.left c := by
    intro el hel
    by_cases hser : x.queueSerial = s.queue.queueSerial
    · exact hclean.fresh x hc hser ((hs.pointer c x hc).trans hobj) el hel
    · rw [(hs.placed c x hc).stale hser]
      exact List.not_mem_nil
  refine ⟨_, consumerFree_of_gone hmany hok rfl hobj, ?_, fun hf => ⟨hf.nodup, hf.mem_freed⟩⟩
  exact sound_leave hs hc _ rfl ⟨hs.numbered.length_le, hs.numbered.ids, hs.numbered.payload⟩
    (fun el hel => seen_erase_of_not hs hel (hnot el hel))
    (fun el hel => hclean.waiting hel (by simp [hcur]))
    (fun d y hd _ => ⟨(hs.placed d y hd).stale, (hs.placed d y hd).reading⟩)

/-- The element the consumer is at stays: all elements up to it are seen by one consumer less. -/
theorem Sound.free_held {before after : List (BufferQueueElement α)} {el : BufferQueueElement α}
    (hs : Sound s) (hst : Stands s c x el.id) (hmany : 1 < s.queue.consumers)
    (hclean : LeavesCleanly s c) (hq : s.queue.queue = before ++ el :: after)
    (hbefore : ∀ e ∈ before, e.id < el.id) (hafter : ∀ e ∈ after, el.id < e.id)
    (hlt : el.seen + 1 < s.queue.consumers)
    (hok : s.queue.consumerElemUnref x = .ok ({ s.queue with
      queue := before ++ { el with seen := el.seen + 1 } :: after }, x)) :
    ∃ q', s.queue.consumerFree c x = .ok q' ∧ Sound ⟨q', s.history⟩ ∧
      (FreedOnce s.queue → FreedOnce q') := by
  have hc : c ∈ s.queue.live := mem_live.2 ⟨x, hst.consumer⟩
  have hcur : s.queue.current c = some el.id := (current_eq hst.consumer hst.serial).trans hst.object
  have hread := hst.reading hs
  have hmem : ∀ e, e ∈ before ∨ e = el ∨ e ∈ after → e ∈ s.queue.queue := by
    intro e he
    simpa [hq] using he
  let q' : BufferQueue α := { s.queue with
    queue := before ++ { el with seen := el.seen + 1 } :: after
    consumers := s.queue.consumers - 1 }
  have hunsee := unseeUpTo_eq (q := q') rfl hbefore fun e he => by
    show e.seen ≤ s.queue.consumers - 1
    rcases List.mem_append.1 he with he | he
    · have := hs.seen_lt hc (hmem e (.inl he))
      omega
    · cases List.mem_singleton.1 he
      show el.seen + 1 ≤ _
      omega
  have hunref : Unref s.queue x el.id _ x := .counted hq rfl hbefore hafter hlt
  have hn := hunref.numbered hs.numbered
  refine ⟨_, consumerFree_of_held hmany hok rfl hst.object
    ((hs.pointer c x hst.consumer).trans hst.object) hunsee, ?_, fun hf => ?_⟩
  · refine sound_leave hs hst.consumer _ rfl ⟨?_, ?_, fun e he => ?_⟩ (fun e he => ?_)
      (fun e he => ?_) (fun d y hd hdc => ?_)
    · simpa [q'] using hn.length_le
    · simpa [q', oldest, Function.comp_def] using hn.ids
    all_goals try simp only [List.map_append, List.map_cons, List.map_nil, List.append_assoc,
      List.cons_append, List.nil_append, List.mem_append, List.mem_map, List.mem_cons] at he
    · rcases he with ⟨e, he, rfl⟩ | rfl | he
      · rw [unsee_id, unsee_payload]
        exact hs.numbered.payload e (hmem e (.inl he))
      · rw [unsee_id, unsee_payload]
        exact hs.numbered.payload el (hmem el (.inr (.inl rfl)))
      · exact hs.numbered.payload e (hmem e (.inr (.inr he)))
    · rcases he with ⟨e, he, rfl⟩ | rfl | he
      · have hel := hmem e (.inl he)
        have hpast := hread.mem_of_lt (hs.numbered.id_lt hel).1 (hbefore e he)
        rw [unsee_id]
        exact unsee_seen (seen_erase_of_mem hs hel hc hpast) ((hs.seen_lt hc hel).trans hs.bounded)
      · rw [unsee_id]
        refine unsee_seen ?_ (hlt.trans hs.bounded)
        show el.seen + 1 = (passedBy (s.queue.live.erase c) s.history.left el.id).card + 1
        rw [← seen_erase_of_not (c := c) hs (hmem el (.inr (.inl rfl))) hread.current_mem.2.2]
      · have hel := hmem e (.inr (.inr he))
        exact seen_erase_of_not hs hel (hread.not_mem_of_le (hafter e he).le)
    · rcases he with ⟨e, he, rfl⟩ | rfl | he
      · rw [unsee_id]
        exact hclean.waiting (hmem e (.inl he)) fun h =>
          (hbefore e he).ne' (Option.some.inj (hcur.symm.trans h))
      · rw [unsee_id]
        have hcard := card_passedBy_leave hc hread.current_mem.2.2
        rw [← hs.counted.seen el (hmem el (.inr (.inl rfl)))] at hcard
        rw [hs.consumers, ← hcard, card_passedBy_lt_iff] at hlt
        obtain ⟨d, hd, hnot⟩ := hlt
        have hdc : d ≠ c := by
          rintro rfl
          simp at hnot
        rw [Function.update_of_ne hdc] at hnot
        exact ⟨d, Finset.mem_erase.2 ⟨hdc, hd⟩, hnot⟩
      · exact hclean.waiting (hmem e (.inr (.inr he))) fun h =>
          (hafter e he).ne (Option.some.inj (hcur.symm.trans h))
    · have hp := hs.placed d y hd
      refine ⟨hp.stale, fun heq => ?_⟩
      have hr := hp.reading heq
      simpa [oldest, hq, q'] using hr
  · have hf' := hunref.freedOnce hs hst hf
    have hlen : ∀ el' : BufferQueueElement α,
        ((before ++ [el']).map unsee ++ after).length = (before ++ el' :: after).length := by
      simp
    refine ⟨hf'.nodup, fun i => ?_⟩
    rw [BufferQueue.oldest, BufferQueue.setConsumer, hlen]
    exact hf'.mem_freed i

/-- The element the consumer is at goes with it. -/
theorem Sound.free_head {after : List (BufferQueueElement α)} {el : BufferQueueElement α}
    (hs : Sound s) (hst : Stands s c x el.id) (hmany : 1 < s.queue.consumers)
    (hclean : LeavesCleanly s c) (hq : s.queue.queue = el :: after)
    (hlast : el.seen + 1 = s.queue.consumers)
    (hok : s.queue.consumerElemUnref x = .ok ({ s.queue with
      queue := after, freed := el.id :: s.queue.freed }, { x with currentElementObject := none })) :
    ∃ q', s.queue.consumerFree c x = .ok q' ∧ Sound ⟨q', s.history⟩ ∧
      (FreedOnce s.queue → FreedOnce q') := by
  have hunref : Unref s.queue x el.id _ _ := .freed hq rfl hlast
  have hn := hunref.numbered hs.numbered
  have hcur : s.queue.current c = some el.id := (current_eq hst.consumer hst.serial).trans hst.object
  have hgt : ∀ e ∈ after, e ∈ s.queue.queue ∧ el.id < e.id := by
    intro e he
    have hsub : e ∈ s.queue.queue := by rw [hq]; exact List.mem_cons_of_mem _ he
    refine ⟨hsub, ?_⟩
    have hids := hs.numbered.ids
    have hlo := (hs.numbered.id_lt hsub).1
    have hhead : el.id = s.queue.oldest := by
      rw [hq, List.map_cons, List.length_cons, List.range'_succ] at hids
      exact (List.cons.inj hids).1
    have hnodup : (s.queue.queue.map (·.id)).Nodup := by
      rw [hids]
      exact List.nodup_range'
    rw [hq, List.map_cons, List.nodup_cons] at hnodup
    have hne : e.id ≠ el.id := fun heq => hnodup.1 (List.mem_map.2 ⟨e, he, heq⟩)
    omega
  refine ⟨_, consumerFree_of_gone hmany hok rfl rfl, ?_, fun hf => ?_⟩
  · exact sound_leave hs hst.consumer _ rfl ⟨hn.length_le, hn.ids, hn.payload⟩
      (fun e he => seen_erase_of_not hs (hgt e he).1 ((hst.reading hs).not_mem_of_le (hgt e he).2.le))
      (fun e he => hclean.waiting (hgt e he).1 fun h =>
        (hgt e he).2.ne (Option.some.inj (hcur.symm.trans h)))
      (fun d y hd hdc => ⟨(hunref.placed hs hst hd hdc).stale, (hunref.placed hs hst hd hdc).reading⟩)
  · have hf' := hunref.freedOnce hs hst hf
    exact ⟨hf'.nodup, hf'.mem_freed⟩

theorem Sound.free (hs : Sound s) (hc : s.queue.consumer c = some x)
    (hclean : s.queue.consumers = 1 ∨ LeavesCleanly s c) :
    ∃ q', s.queue.consumerFree c x = .ok q' ∧ Sound ⟨q', s.history⟩ ∧
      (FreedOnce s.queue → FreedOnce q') := by
  by_cases hone : s.queue.consumers = 1
  · exact hs.free_last hc hone
  · replace hclean := hclean.resolve_left hone
    have hmany : 1 < s.queue.consumers := by
      have : 0 < s.queue.live.card := Finset.card_pos.2 ⟨c, mem_live.2 ⟨x, hc⟩⟩
      rw [← hs.consumers] at this
      omega
    obtain ⟨q', x', hok, hgave⟩ := hs.gaveUp hc
    cases hgave with
    | none hx =>
      refine hs.free_idle hc hmany hclean ?_
      rcases hx with hx | hx
      · exact hclean.notStale x hc hx
      · exact hx
    | stands hst hunref =>
      cases hunref with
      | counted hq hid hbefore hafter hlt =>
        subst hid
        exact hs.free_held hst hmany hclean hq hbefore hafter hlt hok
      | freed hq hid hlast =>
        subst hid
        exact hs.free_head hst hmany hclean hq hlast hok

end gaveUp

/-! ## Runs -/

theorem Advance.freedOnce (h : Advance s c s') (hs : Sound s) (hf : FreedOnce s.queue) :
    FreedOnce s'.queue := by
  cases h with
  | stay => exact hf
  | next hst hunref =>
    have hf' := hunref.freedOnce hs hst hf
    exact ⟨hf'.nodup, hf'.mem_freed⟩
  | head => exact ⟨hf.nodup, hf.mem_freed⟩

/-- When an operation is in order. -/
def Orderly (s : Traced α) : BqEvent α → Prop
  | .newConsumer | .put _ => True
  | .get c | .move c => FreshAtEnd s c
  | .freeConsumer c => s.queue.consumers = 1 ∨ LeavesCleanly s c
  | .resetQueue => SerialUnused s.queue

/-- What an operation in order comes to: a new state, or an overflow assertion. -/
theorem Sound.operate (hs : Sound s) (hf : FreedOnce s.queue) {e : BqEvent α} (he : Orderly s e) :
    s.queue.operate e = none ∨ s.queue.operate e = some (.error .overflow) ∨
      ∃ s', bqStep s e = some s' ∧ Sound s' ∧ FreedOnce s'.queue := by
  cases e with
  | newConsumer =>
    rcases consumerNew_cases hs.running with herr | ⟨hlt, hok⟩
    · exact .inr (.inl (congrArg some herr))
    · refine .inr (.inr ⟨_, by simp only [bqStep, BufferQueue.operate, hok]; rfl, hs.join hlt, ?_⟩)
      exact ⟨hf.nodup, hf.mem_freed⟩
  | put payload =>
    rcases producerPut_cases payload hs.running with herr | hok
    · exact .inr (.inl (congrArg some herr))
    · have hstep : bqStep s (.put payload) =
          some ⟨s.queue.push payload, s.history.after s.queue (.put payload) (s.queue.push payload)⟩ := by
        simp only [bqStep, BufferQueue.operate, hok]
      refine .inr (.inr ⟨_, hstep, hs.put hstep, hf.nodup, fun i => ?_⟩)
      rw [push_oldest]
      exact hf.mem_freed i
  | resetQueue =>
    have hf' := hf.clearQueue hs.numbered
    refine .inr (.inr ⟨_, ?_, hs.reset he, hf'.nodup, hf'.mem_freed⟩)
    simp only [bqStep, BufferQueue.operate, producerResetQueue_eq hs.running]
    rfl
  | freeConsumer c =>
    cases hc : s.queue.consumer c with
    | none => exact .inl (by simp [BufferQueue.operate, hc])
    | some x =>
      obtain ⟨q', hok, hs', hf'⟩ := hs.free hc he
      refine .inr (.inr ⟨⟨q', s.history⟩, ?_, hs', hf' hf⟩)
      simp only [bqStep, BufferQueue.operate, hc, Option.map_some, hok]
      rfl
  | get c =>
    cases hc : s.queue.consumer c with
    | none => exact .inl (by simp [BufferQueue.operate, hc])
    | some x =>
      obtain ⟨s', hstep, hadv, -⟩ := hs.get hc
      exact .inr (.inr ⟨s', hstep, hadv.sound hs he, hadv.freedOnce hs hf⟩)
  | move c =>
    cases hc : s.queue.consumer c with
    | none => exact .inl (by simp [BufferQueue.operate, hc])
    | some x =>
      obtain ⟨s', hstep, hadv⟩ := hs.move hc
      exact .inr (.inr ⟨s', hstep, hadv.sound hs he, hadv.freedOnce hs hf⟩)

theorem sound_bqStep (h : Sound s ∧ FreedOnce s.queue) {e : BqEvent α} (he : Orderly s e)
    (hstep : bqStep s e = some s') : Sound s' ∧ FreedOnce s'.queue := by
  rcases h.1.operate h.2 he with hnone | herr | ⟨t, ht, hsound⟩
  · rw [bqStep_of_none hnone] at hstep
    cases hstep
  · simp [bqStep, herr] at hstep
  · cases ht.symm.trans hstep
    exact hsound

/-! ## What holds whatever the consumers do -/

section anyRun
variable {q' : BufferQueue α}

theorem Frame.trans {q₂ : BufferQueue α} (h : Frame q q') (h' : Frame q' q₂) : Frame q q₂ :=
  ⟨h'.registered.trans h.registered, h'.consumers.trans h.consumers, h'.stopped.trans h.stopped,
    h'.queueSerial.trans h.queueSerial, h'.nextId.trans h.nextId⟩

theorem consumerElemUnref_frame (h : q.consumerElemUnref x = .ok (q', x')) : Frame q q' := by
  unfold consumerElemUnref at h
  split at h
  · cases h
    exact ⟨rfl, rfl, rfl, rfl, rfl⟩
  · split at h
    · cases h
      exact ⟨rfl, rfl, rfl, rfl, rfl⟩
    · split at h
      · cases h
      · dsimp only at h
        split at h
        · cases h
          exact ⟨rfl, rfl, rfl, rfl, rfl⟩
        · split at h
          · cases h
          · cases h
            exact ⟨rfl, rfl, rfl, rfl, rfl⟩

theorem expectedNext_frame {next : Option Nat} (h : q.expectedNext x = .ok (next, q')) :
    Frame q q' := by
  unfold expectedNext at h
  split at h
  · cases h
    exact ⟨rfl, rfl, rfl, rfl, rfl⟩
  · split at h
    · cases h
      exact ⟨rfl, rfl, rfl, rfl, rfl⟩
    · simp only [bind, Except.bind] at h
      split at h
      · cases h
      · split at h
        · cases h
        · next hun =>
          cases h
          exact consumerElemUnref_frame hun

theorem consumerMoveInternal_frame {moved : Bool}
    (h : q.consumerMoveInternal x = .ok (q', x', moved)) :
    Frame q q' ∧ x'.currentElementPointer = x'.currentElementObject := by
  unfold consumerMoveInternal at h
  simp only [bind, Except.bind] at h
  split at h
  · cases h
  · next hnext =>
    cases h
    exact ⟨expectedNext_frame hnext, rfl⟩

theorem unseeUpTo_frame (h : q.unseeUpTo id = .ok q') : Frame q q' := by
  unfold unseeUpTo at h
  split at h
  · cases h
  · dsimp only at h
    split at h
    · cases h
      exact ⟨rfl, rfl, rfl, rfl, rfl⟩
    · cases h

theorem Registered.setConsumer {h : History α} (hs : Registered s)
    (hc : s.queue.consumer c = some x) (hf : Frame s.queue q')
    (hy : y.currentElementPointer = y.currentElementObject) (hputs : h.puts = s.history.puts) :
    Registered ⟨q'.setConsumer c (some y), h⟩ := by
  have hc' : q'.consumer c = some x := (consumer_congr hf.registered).trans hc
  refine ⟨hf.stopped.trans hs.running, ?_, hf.consumers.trans_lt hs.bounded, fun d z hd => ?_, ?_⟩
  · rw [live_setConsumer_some hc', live_congr hf.registered, ← hs.consumers]
    exact hf.consumers
  · by_cases hdc : d = c
    · subst hdc
      cases (consumer_setConsumer_self hc').symm.trans hd
      exact hy
    · refine hs.pointer d z ?_
      rw [← consumer_congr hf.registered]
      exact (consumer_setConsumer_ne hdc).symm.trans hd
  · rw [hputs, hs.puts_length]
    exact hf.nextId.symm

theorem consumerFree_result {q₂ : BufferQueue α} (h : q.consumerFree c x = .ok q₂) :
    ∃ q', q₂ = q'.setConsumer c none ∧ Frame { q with consumers := q.consumers - 1 } q' := by
  unfold consumerFree at h
  split at h
  · cases h
  · simp only [bind, Except.bind] at h
    split at h
    · cases h
    · next v hun =>
      obtain ⟨q₁, x₁⟩ := v
      have hf := consumerElemUnref_frame hun
      have hf' : Frame { q with consumers := q.consumers - 1 } { q₁ with
          consumers := q₁.consumers - 1 } :=
        ⟨hf.registered, congrArg (· - 1) hf.consumers, hf.stopped, hf.queueSerial, hf.nextId⟩
      dsimp only at h
      split at h
      · split at h
        · cases h
          exact ⟨_, rfl, hf'⟩
        · cases h
          exact ⟨_, rfl, hf'.registered, hf'.consumers, hf'.stopped, hf'.queueSerial, hf'.nextId⟩
      · split at h
        · split at h
          · cases h
          · next hunsee =>
            cases h
            exact ⟨_, rfl, hf'.trans (unseeUpTo_frame hunsee)⟩
        · cases h
        · cases h
          exact ⟨_, rfl, hf'⟩

theorem Registered.free {h : History α} (hs : Registered s) (hc : s.queue.consumer c = some x)
    (hf : Frame { s.queue with consumers := s.queue.consumers - 1 } q')
    (hputs : h.puts = s.history.puts) : Registered ⟨q'.setConsumer c none, h⟩ := by
  have hc' : q'.consumer c = some x := (consumer_congr hf.registered).trans hc
  have hcons : q'.consumers = s.queue.consumers - 1 := hf.consumers
  refine ⟨hf.stopped.trans hs.running, ?_, ?_, fun d z hd => ?_, ?_⟩
  · rw [live_setConsumer_none hc', Finset.card_erase_of_mem (mem_live.2 ⟨x, hc'⟩),
      live_congr (q := s.queue) hf.registered, ← hs.consumers]
    exact hcons
  · have := hs.bounded
    show q'.consumers < gulongSize
    omega
  · have hdc : d ≠ c := by
      rintro rfl
      rw [consumer_setConsumer_self hc'] at hd
      cases hd
    refine hs.pointer d z ?_
    rw [← consumer_congr (q := s.queue) hf.registered]
    exact (consumer_setConsumer_ne hdc).symm.trans hd
  · rw [hputs, hs.puts_length]
    exact hf.nextId.symm

theorem consumerMove_ok {b : Bool} (hrun : q.stopped = false)
    (h : q.consumerMove c x = .ok (q', b)) :
    ∃ q₁ x₁, Frame q q₁ ∧ x₁.currentElementPointer = x₁.currentElementObject ∧
      q' = q₁.setConsumer c (some x₁) := by
  simp only [consumerMove, hrun, Bool.false_eq_true, if_false, bind, Except.bind] at h
  split at h
  · cases h
  · next v hmove =>
    cases h
    obtain ⟨hf, hx⟩ := consumerMoveInternal_frame hmove
    exact ⟨_, _, hf, hx, rfl⟩

theorem consumerGet_ok {r : Option α} (hrun : q.stopped = false)
    (h : q.consumerGet c x = .ok (q', r)) : q' = q ∨
    ∃ q₁ x₁, Frame q q₁ ∧ x₁.currentElementPointer = x₁.currentElementObject ∧
      q' = q₁.setConsumer c (some x₁) := by
  simp only [consumerGet, hrun, Bool.false_eq_true, if_false, bind, Except.bind] at h
  split at h
  · split at h
    · cases h
    · next v hmove =>
      obtain ⟨hf, hx⟩ := consumerMoveInternal_frame hmove
      refine .inr ⟨_, _, hf, hx, ?_⟩
      split at h
      · split at h
        · cases h
        · cases h
          rfl
      · cases h
        rfl
  · split at h
    · cases h
    · cases h
      exact .inl rfl

theorem registered_bqStep {e : BqEvent α} (hs : Registered s) (h : bqStep s e = some s') :
    Registered s' := by
  have hop := operate_of_bqStep h
  have hs' : s' = ⟨s'.queue, s.history.after s.queue e s'.queue⟩ := by
    simp only [bqStep, hop, Option.some.injEq] at h
    exact h.symm
  rw [hs']
  cases e with
  | newConsumer =>
    rcases consumerNew_cases hs.running with herr | ⟨hlt, hok⟩
    · simp [BufferQueue.operate, herr] at hop
    · simp only [BufferQueue.operate, hok, Option.some.injEq, Except.ok.injEq] at hop
      rw [← hop]
      exact hs.join hlt
  | put payload =>
    rcases producerPut_cases payload hs.running with herr | hok
    · simp [BufferQueue.operate, herr] at hop
    · simp only [BufferQueue.operate, hok, Option.some.injEq, Except.ok.injEq] at hop
      rw [← hop]
      refine ⟨hs.running, hs.consumers, hs.bounded, hs.pointer, ?_⟩
      simp [History.after, push, hs.puts_length]
  | resetQueue =>
    simp only [BufferQueue.operate, producerResetQueue_eq hs.running, Option.some.injEq,
      Except.ok.injEq] at hop
    rw [← hop]
    exact ⟨hs.running, hs.consumers, hs.bounded, hs.pointer, hs.puts_length⟩
  | freeConsumer c =>
    obtain ⟨x, hc, hfree⟩ := Option.map_eq_some_iff.1 hop
    obtain ⟨q', hq', hf⟩ := consumerFree_result hfree
    rw [hq']
    exact hs.free hc hf rfl
  | get c =>
    obtain ⟨x, hc, hget⟩ := Option.map_eq_some_iff.1 hop
    cases hr : s.queue.consumerGet c x with
    | error fault =>
      rw [hr] at hget
      cases hget
    | ok v =>
      rw [hr] at hget
      have hq : v.1 = s'.queue := Except.ok.inj hget
      rcases consumerGet_ok hs.running hr with hsame | ⟨q₁, x₁, hf, hx, hq₁⟩
      · rw [← hq, hsame]
        exact ⟨hs.running, hs.consumers, hs.bounded, hs.pointer, hs.puts_length⟩
      · rw [← hq, hq₁]
        exact hs.setConsumer hc hf hx rfl
  | move c =>
    obtain ⟨x, hc, hmove⟩ := Option.map_eq_some_iff.1 hop
    cases hr : s.queue.consumerMove c x with
    | error fault =>
      rw [hr] at hmove
      cases hmove
    | ok v =>
      rw [hr] at hmove
      have hq : v.1 = s'.queue := Except.ok.inj hmove
      obtain ⟨q₁, x₁, hf, hx, hq₁⟩ := consumerMove_ok hs.running hr
      rw [← hq, hq₁]
      exact hs.setConsumer hc hf hx rfl

end anyRun

/-- The counts and the lists of elements say what they should. -/
structure CountsRight (s : Traced α) : Prop where
  consumers : s.queue.consumers = s.queue.live.card
  seen : ∀ el ∈ s.queue.queue, el.seen = (passedBy s.queue.live s.history.left el.id).card
  seen_lt : s.queue.consumers ≠ 0 → ∀ el ∈ s.queue.queue, el.seen < s.queue.consumers
  /-- Every element that was put is queued or freed, once. -/
  freedOnce : ∀ i < s.history.puts.length,
    (s.queue.queue.map (·.id)).count i + s.queue.freed.count i = 1
  current : ∀ c id, s.queue.current c = some id →
    id ∈ s.queue.queue.map (·.id) ∧ id ∉ s.queue.freed

theorem Sound.countsRight (hs : Sound s) (hf : FreedOnce s.queue) : CountsRight s := by
  have hadd := hs.numbered.oldest_add
  have hmem : ∀ i, i ∈ s.queue.queue.map (·.id) ↔ s.queue.oldest ≤ i ∧ i < s.queue.nextId := by
    intro i
    rw [List.mem_map]
    exact hs.numbered.mem_queue
  have hnodup : (s.queue.queue.map (·.id)).Nodup := by
    rw [hs.numbered.ids]
    exact List.nodup_range'
  refine ⟨hs.consumers, hs.counted.seen, fun h0 el hel => ?_, fun i hi => ?_, fun c id hcur => ?_⟩
  · rw [hs.consumers, Finset.card_ne_zero] at h0
    exact hs.seen_lt h0.choose_spec hel
  · rw [hs.puts_length] at hi
    rw [hnodup.count, hf.nodup.count]
    by_cases hlt : i < s.queue.oldest
    · rw [if_neg (by rw [hmem]; omega), if_pos ((hf.mem_freed i).2 hlt)]
    · rw [if_pos ((hmem i).2 (by omega)), if_neg (by rw [hf.mem_freed]; omega)]
  · cases hc : s.queue.consumer c with
    | none => simp [BufferQueue.current, hc] at hcur
    | some x =>
      by_cases hser : x.queueSerial = s.queue.queueSerial
      · rw [current_eq hc hser] at hcur
        obtain ⟨hlo, hhi, -⟩ := (Stands.reading ⟨hc, hser, hcur⟩ hs).current_mem
        refine ⟨(hmem id).2 ⟨hlo, hhi⟩, ?_⟩
        rw [hf.mem_freed]
        omega
      · rw [current_of_stale hc hser] at hcur
        cases hcur

/-- An operation fails none of the assertions about consumers and elements, does not follow a pointer
to a freed one, and leaves the counts right. -/
def KeepsCounts (s : Traced α) (e : BqEvent α) : Prop :=
  (∀ fault, s.queue.operate e = some (.error fault) → fault = .overflow) ∧
    ∀ s', bqStep s e = some s' → CountsRight s'

theorem keepsCounts_of_orderly (h : Sound s ∧ FreedOnce s.queue) {e : BqEvent α}
    (he : Orderly s e) : KeepsCounts s e := by
  refine ⟨fun fault hfault => ?_, fun s' hstep => ?_⟩
  · rcases h.1.operate h.2 he with hnone | herr | ⟨t, ht, -⟩
    · rw [hnone] at hfault
      cases hfault
    · rw [herr] at hfault
      cases hfault
      rfl
    · rw [operate_of_bqStep ht] at hfault
      cases hfault
  · obtain ⟨hs, hf⟩ := sound_bqStep h he hstep
    exact hs.countsRight hf

theorem sound_producerNew : Sound (⟨producerNew, {}⟩ : Traced α) ∧
    FreedOnce (producerNew : BufferQueue α) := by
  refine ⟨⟨⟨rfl, rfl, Nat.two_pow_pos 64, nofun, rfl⟩, ⟨Nat.le_refl _, rfl, nofun⟩,
    ⟨nofun, fun _ => nofun⟩, nofun⟩, List.nodup_nil, fun i => ?_⟩
  simp [producerNew, oldest]

/-- Every reset of a producer is the start of a delivery, as long as the serials of the queues have not
come round to that of a consumer. -/
theorem exists_justReset {es : List (BqEvent α)}
    (hrun : Run.exec bqStep ⟨producerNew, {}⟩ es = some s) (hstep : bqStep s .resetQueue = some s')
    (hserial : ∀ c x, s.queue.consumer c = some x →
      x.queueSerial ≠ (s.queue.queueSerial + 1) % gulongSize) :
    ∃ start : JustReset α, start.state = s' := by
  have hreg : Registered s :=
    Run.exec_inv (fun _ _ _ hs h => registered_bqStep hs h) hrun sound_producerNew.1.toRegistered
  have hreg' := registered_bqStep hreg hstep
  simp only [bqStep, BufferQueue.operate, producerResetQueue_eq hreg.running, Option.some.injEq]
    at hstep
  subst hstep
  exact ⟨⟨_, hreg', rfl, fun _ => rfl, hserial⟩, rfl⟩

/-- **Seen counts**: in every state of every run in which consumers ask for elements, leave and see
resets in order, the seen count of an element is the number of consumers past it, less than all,
every element is queued or freed once, and no consumer is at a freed element of the queue. -/
theorem counts_right (es : List (BqEvent α))
    (h : Run.Each bqStep Orderly ⟨producerNew, {}⟩ es) :
    Run.Each bqStep KeepsCounts ⟨producerNew, {}⟩ es :=
  Run.each_of_inv (fun s _ _ (hs : Sound s ∧ FreedOnce s.queue) he hstep => sound_bqStep hs he hstep)
    (fun _ _ hs he => keepsCounts_of_orderly hs he) h sound_producerNew

/-- Two consumers read an element each, one leaves, the queue is reset and the other leaves. -/
def joinAndLeave : List (BqEvent Nat) :=
  [.newConsumer, .newConsumer, .put 7, .put 8, .get 0, .move 0, .get 1, .freeConsumer 0, .move 1,
    .resetQueue, .freeConsumer 1]

theorem counts_right_joinAndLeave :
    Run.Each bqStep Orderly ⟨producerNew, {}⟩ joinAndLeave ∧
      Run.Each bqStep KeepsCounts ⟨producerNew, {}⟩ joinAndLeave := by
  have h : Run.Each bqStep Orderly ⟨producerNew, {}⟩ joinAndLeave := by
    refine .cons rfl trivial (.cons rfl trivial (.cons rfl trivial (.cons rfl trivial
      (.cons rfl ?_ (.cons rfl ?_ (.cons rfl ?_ (.cons rfl (.inr ⟨?_, ?_, ?_⟩) (.cons rfl ?_
      (.cons rfl ?_ (.cons rfl (.inl ?_) trivial))))))))))
    all_goals try unfold Orderly
    all_goals decide
  exact ⟨h, counts_right _ h⟩

/-- The first consumer reads the only element, and again after it has come to the end. It is counted
twice and frees the element that the second consumer is at. -/
theorem current_element_freed : ¬ ∀ es : List (BqEvent Nat),
    Run.Each bqStep KeepsCounts ⟨producerNew, {}⟩ es := by
  intro h
  have hrun := h [.newConsumer, .newConsumer, .put 7, .get 1, .get 0, .move 0, .get 0, .move 0]
  have hlast := (((((((hrun.2 _ rfl).2 _ rfl).2 _ rfl).2 _ rfl).2 _ rfl).2 _ rfl).2 _ rfl).1.2 _ rfl
  exact (hlast.current 1 0 (by decide)).2 (by decide)

end BufferQueue

end StreamSwitch
