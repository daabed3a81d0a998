import StreamSwitch.Lib.Readers
import StreamSwitch.RtspPort.BufferQueue

/-!
# How a consumer advances

The invariant of the buffer queue, `Sound`, and what `bq_consumer_get` and
`bq_consumer_move` do in a state that meets it: `Advance`. A consumer that leaves an
element counts it as seen, and frees it when all others have; the element is then the
head of the queue (`Stands.eq_oldest`).
-/

namespace StreamSwitch

namespace BufferQueue

open Readers

variable {α : Type}

/-! ## The invariant -/

/-- The consumers that are not gone. -/
def live (q : BufferQueue α) : Finset Nat :=
  {c ∈ Finset.range q.registered.length | (q.consumer c).isSome}

/-- The number of the oldest queued element. -/
def oldest (q : BufferQueue α) : Nat := q.nextId - q.queue.length

/-- What holds in every state, whatever the consumers did. -/
structure Registered (s : Traced α) : Prop where
  running : s.queue.stopped = false
  consumers : s.queue.consumers = s.queue.live.card
  bounded : s.queue.consumers < gulongSize
  pointer : ∀ c x, s.queue.consumer c = some x →
    x.currentElementPointer = x.currentElementObject
  puts_length : s.history.puts.length = s.queue.nextId

/-- The queue holds the last elements put. -/
structure Numbered (q : BufferQueue α) (puts : List α) : Prop where
  length_le : q.queue.length ≤ q.nextId
  ids : q.queue.map (·.id) = List.range' q.oldest q.queue.length
  payload : ∀ el ∈ q.queue, puts[el.id]? = some el.payload

/-- The elements that are not queued any more are freed, once. -/
structure FreedOnce (q : BufferQueue α) : Prop where
  nodup : q.freed.Nodup
  mem_freed : ∀ i, i ∈ q.freed ↔ i < q.oldest

/-- The seen counts tell how many consumers have moved past an element, never all. -/
structure Counted (q : BufferQueue α) (left : Nat → List Nat) : Prop where
  seen : ∀ el ∈ q.queue, el.seen = (passedBy q.live left el.id).card
  waiting : q.live.Nonempty → ∀ el ∈ q.queue, ∃ c ∈ q.live, el.id ∉ left c

/-- Where a consumer is. -/
structure Placed (q : BufferQueue α) (left : List Nat) (x : BufferQueueConsumer) : Prop where
  stale : x.queueSerial ≠ q.queueSerial → left = []
  reading : x.queueSerial = q.queueSerial →
    Reading q.oldest q.nextId left x.currentElementObject

structure Sound (s : Traced α) : Prop extends Registered s where
  numbered : Numbered s.queue s.history.puts
  counted : Counted s.queue s.history.left
  placed : ∀ c x, s.queue.consumer c = some x → Placed s.queue (s.history.left c) x

/-! ## Consumers -/

variable {q : BufferQueue α} {c d id : Nat} {x y : BufferQueueConsumer}

theorem consumer_lt (h : q.consumer c = some x) : c < q.registered.length := by
  by_contra hlt
  rw [consumer, List.getElem?_eq_none (by omega)] at h
  cases h

theorem mem_live : c ∈ q.live ↔ ∃ x, q.consumer c = some x := by
  rw [live, Finset.mem_filter, Finset.mem_range, Option.isSome_iff_exists]
  constructor
  · exact fun h => h.2
  · rintro ⟨x, hx⟩
    exact ⟨consumer_lt hx, x, hx⟩

theorem consumer_setConsumer_self {y : Option BufferQueueConsumer} (h : q.consumer c = some x) :
    (q.setConsumer c y).consumer c = y := by
  simp [consumer, setConsumer, consumer_lt h]

theorem consumer_setConsumer_ne {y : Option BufferQueueConsumer} (hd : d ≠ c) :
    (q.setConsumer c y).consumer d = q.consumer d := by
  simp [consumer, setConsumer, List.getElem?_set_ne (Ne.symm hd)]

theorem live_setConsumer_some (h : q.consumer c = some x) :
    (q.setConsumer c (some y)).live = q.live := by
  ext d
  rw [mem_live, mem_live]
  by_cases hd : d = c
  · subst hd
    simp [consumer_setConsumer_self h, h]
  · rw [consumer_setConsumer_ne hd]

theorem live_setConsumer_none (h : q.consumer c = some x) :
    (q.setConsumer c none).live = q.live.erase c := by
  ext d
  rw [Finset.mem_erase, mem_live, mem_live]
  by_cases hd : d = c
  · subst hd
    simp [consumer_setConsumer_self h]
  · simp [consumer_setConsumer_ne hd, hd]

theorem live_congr {q' : BufferQueue α} (h : q'.registered = q.registered) : q'.live = q.live := by
  unfold live consumer
  rw [h]

theorem consumer_congr {q' : BufferQueue α} (h : q'.registered = q.registered) :
    q'.consumer c = q.consumer c := by
  unfold consumer
  rw [h]

/-! ## Elements -/

theorem Numbered.oldest_add {puts : List α} (h : Numbered q puts) :
    q.oldest + q.queue.length = q.nextId := by
  have := h.length_le
  unfold oldest
  omega

theorem Numbered.mem_queue {puts : List α} (h : Numbered q puts) {i : Nat} :
    (∃ el ∈ q.queue, el.id = i) ↔ q.oldest ≤ i ∧ i < q.nextId := by
  rw [← h.oldest_add, ← List.mem_range'_1, ← h.ids, List.mem_map]

theorem Numbered.id_lt {puts : List α} (h : Numbered q puts) {el : BufferQueueElement α}
    (hel : el ∈ q.queue) : q.oldest ≤ el.id ∧ el.id < q.nextId := h.mem_queue.1 ⟨el, hel, rfl⟩

/-- The node `i` with the nodes on both sides. -/
theorem Numbered.split {puts : List α} (h : Numbered q puts) {i : Nat} (hlo : q.oldest ≤ i)
    (hhi : i < q.nextId) : ∃ before el after, q.queue = before ++ el :: after ∧ el.id = i ∧
      (∀ e ∈ before, e.id < i) ∧ (∀ e ∈ after, i < e.id) ∧
      after.head?.map (·.id) = entryAt q.nextId (i + 1) := by
  have hadd := h.oldest_add
  have hids : q.queue.map (·.id) =
      List.range' q.oldest (i - q.oldest) ++ i :: List.range' (i + 1) (q.nextId - (i + 1)) := by
    have hcons : i :: List.range' (i + 1) (q.nextId - (i + 1)) =
        List.range' (q.oldest + (i - q.oldest)) (q.nextId - i) := by
      rw [show q.oldest + (i - q.oldest) = i by omega,
        show q.nextId - i = q.nextId - (i + 1) + 1 by omega, List.range'_succ]
    rw [h.ids, hcons, List.range'_append_1]
    congr 1
    omega
  obtain ⟨before, rest, hq, hbefore, hrest⟩ := List.map_eq_append_iff.1 hids
  obtain ⟨el, after, rfl, hel, hafter⟩ := List.map_eq_cons_iff.1 hrest
  refine ⟨before, el, after, hq, hel, fun e he => ?_, fun e he => ?_, ?_⟩
  · have hmem := List.mem_map_of_mem (f := (·.id)) he
    rw [hbefore, List.mem_range'_1] at hmem
    omega
  · have hmem := List.mem_map_of_mem (f := (·.id)) he
    rw [hafter, List.mem_range'_1] at hmem
    omega
  · rw [← List.head?_map, hafter, List.head?_range', entryAt]
    by_cases hi : i + 1 < q.nextId
    · rw [if_neg (by omega), if_pos hi]
    · rw [if_pos (by omega), if_neg hi]

theorem head_eq {puts : List α} (h : Numbered q puts) : q.head = entryAt q.nextId q.oldest := by
  have hadd := h.oldest_add
  rw [head, ← List.head?_map, h.ids, List.head?_range', entryAt]
  by_cases hlen : q.queue.length = 0
  · rw [if_pos hlen, if_neg (by omega)]
  · rw [if_neg hlen, if_pos (by omega)]

theorem nextOf_eq {puts : List α} (h : Numbered q puts) (hlo : q.oldest ≤ id)
    (hhi : id < q.nextId) : q.nextOf id = .ok (entryAt q.nextId (id + 1)) := by
  obtain ⟨before, el, after, hq, rfl, hbefore, -, hhead⟩ := h.split hlo hhi
  rw [nextOf, hq, List.dropWhile_append_of_pos, List.dropWhile_cons_of_neg (by simp)]
  · exact congrArg Except.ok hhead
  · intro e he
    simpa using (hbefore e he).ne

theorem element_eq {before after : List (BufferQueueElement α)} {el : BufferQueueElement α}
    (hq : q.queue = before ++ el :: after) (hbefore : ∀ e ∈ before, e.id < el.id) :
    q.element el.id = some el := by
  have hnone : before.find? (fun e => e.id = el.id) = none := by
    rw [List.find?_eq_none]
    intro e he
    simpa using (hbefore e he).ne
  rw [element, hq, List.find?_append, hnone, Option.none_or, List.find?_cons_of_pos (by simp)]

theorem setSeen_queue {before after : List (BufferQueueElement α)} {el : BufferQueueElement α}
    {n : Nat} (hq : q.queue = before ++ el :: after) (hbefore : ∀ e ∈ before, e.id < el.id)
    (hafter : ∀ e ∈ after, el.id < e.id) :
    q.setSeen el.id n = { q with queue := before ++ { el with seen := n } :: after } := by
  have hsame : ∀ l : List (BufferQueueElement α), (∀ e ∈ l, e.id ≠ el.id) →
      l.map (fun e => if e.id = el.id then { e with seen := n } else e) = l := by
    intro l hl
    exact (List.map_congr_left fun e he => if_neg (hl e he)).trans (List.map_id' l)
  rw [setSeen, hq, List.map_append, List.map_cons, hsame before fun e he => (hbefore e he).ne,
    hsame after fun e he => (hafter e he).ne', if_pos rfl]

theorem Sound.not_mem {s : Traced α} (h : Sound s) (hc : s.queue.consumer c = some x)
    {i : Nat} (hi : s.queue.nextId ≤ i) : i ∉ s.history.left c := by
  intro hmem
  by_cases hs : x.queueSerial = s.queue.queueSerial
  · have := ((h.placed c x hc).reading hs).lt_hi hmem
    omega
  · rw [(h.placed c x hc).stale hs] at hmem
    cases hmem

/-! ## Leaving an element -/

/-- The consumer `c` stands at the element `id` of the current queue. -/
structure Stands (s : Traced α) (c : Nat) (x : BufferQueueConsumer) (id : Nat) : Prop where
  consumer : s.queue.consumer c = some x
  serial : x.queueSerial = s.queue.queueSerial
  object : x.currentElementObject = some id

theorem Stands.reading {s : Traced α} (h : Stands s c x id) (hs : Sound s) :
    Reading s.queue.oldest s.queue.nextId (s.history.left c) (some id) := by
  have hr := (hs.placed c x h.consumer).reading h.serial
  rwa [h.object] at hr

/-- When all other consumers have moved past the element, it is the head. -/
theorem Stands.eq_oldest {s : Traced α} (h : Stands s c x id) (hs : Sound s)
    (hlast : (passedBy s.queue.live s.history.left id).card + 1 = s.queue.live.card) :
    id = s.queue.oldest := by
  obtain ⟨hlo, hhi, hid⟩ := (h.reading hs).current_mem
  by_contra hne
  have hpast := (h.reading hs).mem_of_lt (Nat.le_refl _) (by omega)
  have hc : c ∈ s.queue.live := mem_live.2 ⟨x, h.consumer⟩
  -- Some other consumer is still at or before the oldest element, so it has not passed `id`.
  obtain ⟨el, hel, heq⟩ := hs.numbered.mem_queue.2 ⟨Nat.le_refl _, by omega⟩
  obtain ⟨d, hd, hnot⟩ := hs.counted.waiting ⟨c, hc⟩ el hel
  rw [heq] at hnot
  have hdc : d ≠ c := fun e => hnot (e ▸ hpast)
  obtain ⟨y, hy⟩ := mem_live.1 hd
  have hidd : id ∉ s.history.left d := by
    intro hmem
    by_cases hser : y.queueSerial = s.queue.queueSerial
    · exact hnot (((hs.placed d y hy).reading hser).lo_mem hlo hmem)
    · rw [(hs.placed d y hy).stale hser] at hmem
      cases hmem
  have := card_passedBy_succ_lt hc hd hdc hid hidd
  omega

/-- The elements apart, nothing changes. -/
structure Frame (q q' : BufferQueue α) : Prop where
  registered : q'.registered = q.registered
  consumers : q'.consumers = q.consumers
  stopped : q'.stopped = q.stopped
  queueSerial : q'.queueSerial = q.queueSerial
  nextId : q'.nextId = q.nextId

/-- The queue after `bq_consumer_elem_unref`, and what becomes of the consumer. -/
inductive Unref (q : BufferQueue α) (x : BufferQueueConsumer) (id : Nat) :
    BufferQueue α → BufferQueueConsumer → Prop
  | counted {before el after} (hq : q.queue = before ++ el :: after) (hid : el.id = id)
      (hbefore : ∀ e ∈ before, e.id < id) (hafter : ∀ e ∈ after, id < e.id)
      (hlt : el.seen + 1 < q.consumers) :
      Unref q x id { q with queue := before ++ { el with seen := el.seen + 1 } :: after } x
  | freed {el after} (hq : q.queue = el :: after) (hid : el.id = id)
      (hlast : el.seen + 1 = q.consumers) :
      Unref q x id { q with queue := after, freed := id :: q.freed }
        { x with currentElementObject := none }

theorem Stands.unref {s : Traced α} (h : Stands s c x id) (hs : Sound s) :
    ∃ q' x', s.queue.consumerElemUnref x = .ok (q', x') ∧ Unref s.queue x id q' x' := by
  obtain ⟨hlo, hhi, hid⟩ := (h.reading hs).current_mem
  obtain ⟨before, el, after, hq, rfl, hbefore, hafter, -⟩ := hs.numbered.split hlo hhi
  have hc : c ∈ s.queue.live := mem_live.2 ⟨x, h.consumer⟩
  have hel : el ∈ s.queue.queue := by simp [hq]
  have hseen := hs.counted.seen el hel
  have hle : el.seen + 1 ≤ s.queue.consumers := by
    rw [hs.consumers, hseen]
    exact card_passedBy_lt_iff.2 ⟨c, hc, hid⟩
  have hmod : (el.seen + 1) % gulongSize = el.seen + 1 :=
    Nat.mod_eq_of_lt (Nat.lt_of_le_of_lt hle hs.bounded)
  have hset := setSeen_queue (n := el.seen + 1) hq hbefore hafter
  by_cases hlt : el.seen + 1 < s.queue.consumers
  · refine ⟨_, _, ?_, .counted hq rfl hbefore hafter hlt⟩
    simp [consumerElemUnref, h.object, h.serial, element_eq hq hbefore, hmod, hset, hlt]
  · have hlast : el.seen + 1 = s.queue.consumers := by omega
    have hold := h.eq_oldest hs (by rw [← hseen, hlast, hs.consumers])
    have hnil : before = [] := by
      cases before with
      | nil => rfl
      | cons e rest =>
        have hmem : e ∈ s.queue.queue := by simp [hq]
        have := (hs.numbered.id_lt hmem).1
        have := hbefore e (by simp)
        omega
    subst hnil
    refine ⟨_, _, ?_, .freed hq rfl hlast⟩
    have hptr := hs.pointer c x h.consumer
    simp only [List.nil_append] at hset
    simp [consumerElemUnref, h.object, h.serial, element_eq hq hbefore, hmod, hset, hlt, head, hptr]

section unref
variable {s : Traced α} {q' : BufferQueue α} {x' : BufferQueueConsumer}

theorem Unref.frame (h : Unref q x id q' x') : Frame q q' := by
  cases h <;> exact ⟨rfl, rfl, rfl, rfl, rfl⟩

theorem Unref.numbered {puts : List α} (h : Unref q x id q' x') (hn : Numbered q puts) :
    Numbered q' puts := by
  have hlen := hn.length_le
  have hids := hn.ids
  cases h with
  | counted hq hid hbefore hafter hlt =>
    rename_i before el after
    refine ⟨?_, ?_, fun e he => ?_⟩
    · rw [hq] at hlen
      simpa using hlen
    · rw [oldest, hq] at hids
      simpa [oldest] using hids
    · have hpay := hn.payload
      rw [hq] at hpay
      simp only [List.mem_append, List.mem_cons] at he hpay
      rcases he with he | rfl | he
      · exact hpay e (.inl he)
      · exact hpay el (.inr (.inl rfl))
      · exact hpay e (.inr (.inr he))
  | freed hq hid hlast =>
    rename_i el after
    rw [hq, List.length_cons] at hlen
    refine ⟨?_, ?_, fun e he => hn.payload e (by rw [hq]; exact List.mem_cons_of_mem _ he)⟩
    · show after.length ≤ q.nextId
      omega
    · rw [oldest, hq, List.map_cons, List.length_cons, List.range'_succ] at hids
      have htail := (List.cons.inj hids).2
      rwa [show q.nextId - (after.length + 1) + 1 = q.nextId - after.length by omega] at htail

/-- The oldest element stays, or all consumers have moved past it now. -/
theorem Unref.oldest (h : Unref s.queue x id q' x') (hs : Sound s) (hst : Stands s c x id) :
    q'.oldest = s.queue.oldest ∨ (q'.oldest = s.queue.oldest + 1 ∧ id = s.queue.oldest ∧
      ∀ d ∈ s.queue.live, d ≠ c → id ∈ s.history.left d) := by
  have hlen := hs.numbered.length_le
  obtain ⟨hlo, hhi, hidc⟩ := (hst.reading hs).current_mem
  cases h with
  | counted hq =>
    refine .inl ?_
    rw [BufferQueue.oldest, BufferQueue.oldest, hq]
    simp
  | freed hq hid hlast =>
    rename_i el after
    have hseen := hs.counted.seen el (by simp [hq])
    rw [hid] at hseen
    refine .inr ⟨?_, hst.eq_oldest hs (by rw [← hseen, hlast, hs.consumers]), fun d hd hdc => ?_⟩
    · rw [hq, List.length_cons] at hlen
      rw [BufferQueue.oldest, BufferQueue.oldest, hq, List.length_cons]
      show s.queue.nextId - after.length = _
      omega
    · by_contra hnot
      have := card_passedBy_succ_lt (mem_live.2 ⟨x, hst.consumer⟩) hd hdc hidc hnot
      rw [← hseen, hlast, hs.consumers] at this
      omega

/-- The consumer has moved past one element more. -/
def leaves (left : Nat → List Nat) (c id : Nat) : Nat → List Nat :=
  Function.update left c (left c ++ [id])

theorem Unref.reading (h : Unref s.queue x id q' x') (hs : Sound s) (hst : Stands s c x id) :
    Reading q'.oldest q'.nextId (s.history.left c ++ [id]) (entryAt q'.nextId (id + 1)) := by
  have hadv := (hst.reading hs).advance
  rw [h.frame.nextId]
  rcases h.oldest hs hst with heq | ⟨heq, hid, -⟩
  · rwa [heq]
  · rw [heq]
    exact hadv.trim (by simp [hid])

theorem Unref.placed {y : BufferQueueConsumer} (h : Unref s.queue x id q' x') (hs : Sound s)
    (hst : Stands s c x id) (hd : s.queue.consumer d = some y) (hdc : d ≠ c) :
    Placed q' (s.history.left d) y := by
  obtain ⟨hreg, -, -, hser, hnext⟩ := h.frame
  have hp := hs.placed d y hd
  refine ⟨fun hne => hp.stale (by rwa [hser] at hne), fun heq => ?_⟩
  have hr := hp.reading (by rwa [hser] at heq)
  rw [hnext]
  rcases h.oldest hs hst with hold | ⟨hold, hid, hall⟩
  · rwa [hold]
  · rw [hold]
    exact hr.trim (hid ▸ hall d (mem_live.2 ⟨y, hd⟩) hdc)

theorem Unref.freedOnce (h : Unref s.queue x id q' x') (hs : Sound s) (hst : Stands s c x id)
    (hf : FreedOnce s.queue) : FreedOnce q' := by
  have hold := h.oldest hs hst
  cases h with
  | counted hq =>
    rcases hold with heq | ⟨heq, -, -⟩
    · refine ⟨hf.nodup, fun i => ?_⟩
      rw [heq]
      exact hf.mem_freed i
    · rw [BufferQueue.oldest, BufferQueue.oldest, hq] at heq
      simp at heq
  | freed hq hid hlast =>
    rename_i el after
    have hlen := hs.numbered.length_le
    rcases hold with heq | ⟨heq, rfl, -⟩
    · rw [BufferQueue.oldest, BufferQueue.oldest, hq] at heq
      rw [hq] at hlen
      simp only [List.length_cons] at heq hlen
      omega
    · refine ⟨List.nodup_cons.2 ⟨fun hmem => ?_, hf.nodup⟩, fun i => ?_⟩
      · have := (hf.mem_freed _).1 hmem
        omega
      · rw [heq, List.mem_cons, hf.mem_freed]
        omega

theorem Unref.counted_leaves (h : Unref s.queue x id q' x') (hs : Sound s)
    (hst : Stands s c x id) : Counted q' (leaves s.history.left c id) := by
  have hc : c ∈ s.queue.live := mem_live.2 ⟨x, hst.consumer⟩
  have hlive : q'.live = s.queue.live := live_congr h.frame.registered
  obtain ⟨hlo, hhi, hidc⟩ := (hst.reading hs).current_mem
  have hother : ∀ e ∈ s.queue.queue, e.id ≠ id →
      e.seen = (passedBy q'.live (leaves s.history.left c id) e.id).card ∧
        ∃ d ∈ q'.live, e.id ∉ leaves s.history.left c id d := by
    intro e he hne
    have hseen := hs.counted.seen e he
    have hwait := hs.counted.waiting ⟨c, hc⟩ e he
    rw [hlive, ← card_passedBy_lt_iff, leaves, passedBy_leave_ne hne]
    exact ⟨hseen, card_passedBy_lt_iff.2 hwait⟩
  cases h with
  | counted hq hid hbefore hafter hlt =>
    rename_i before el after
    have hseen := hs.counted.seen el (by simp [hq])
    have hcard := card_passedBy_leave hc hidc
    rw [hid] at hseen
    refine ⟨fun e he => ?_, fun _ e he => ?_⟩
    all_goals
      simp only [List.mem_append, List.mem_cons] at he
      rcases he with he | rfl | he
    · exact (hother e (by simp [hq, he]) (hbefore e he).ne).1
    · rw [hlive]
      show el.seen + 1 = _
      rw [hid, leaves, hcard, hseen]
    · exact (hother e (by simp [hq, he]) (hafter e he).ne').1
    · exact (hother e (by simp [hq, he]) (hbefore e he).ne).2
    · rw [hlive]
      show ∃ d ∈ s.queue.live, el.id ∉ _
      rw [← card_passedBy_lt_iff, hid, leaves, hcard, ← hs.consumers, ← hseen]
      exact hlt
    · exact (hother e (by simp [hq, he]) (hafter e he).ne').2
  | freed hq hid hlast =>
    rename_i el after
    have hgt : ∀ e ∈ after, e.id ≠ id := by
      intro e he heq
      have hnodup : (s.queue.queue.map (·.id)).Nodup := by
        rw [hs.numbered.ids]
        exact List.nodup_range'
      rw [hq, List.map_cons, List.nodup_cons, hid] at hnodup
      exact hnodup.1 (List.mem_map.2 ⟨e, he, heq⟩)
    exact ⟨fun e he => (hother e (by simp [hq, show e ∈ after from he]) (hgt e he)).1,
      fun _ e he => (hother e (by simp [hq, show e ∈ after from he]) (hgt e he)).2⟩

end unref

/-! ## Moving -/

section move
variable {s s' : Traced α} {q' : BufferQueue α}

theorem consumerMoveInternal_head
    (h : x.queueSerial ≠ q.queueSerial ∨ x.currentElementPointer = none) :
    q.consumerMoveInternal x = .ok (q, ⟨q.queueSerial, q.head, q.head⟩, q.head.isSome) := by
  have hnext : q.expectedNext x = .ok (q.head, q) := by
    unfold expectedNext
    cases hp : x.currentElementPointer with
    | none => rfl
    | some id =>
      rcases h with h | h
      · exact if_pos (Ne.symm h)
      · rw [hp] at h
        cases h
  rw [consumerMoveInternal, hnext]
  rfl

theorem Stands.consumerMoveInternal (h : Stands s c x id) (hs : Sound s) :
    ∃ q' x', Unref s.queue x id q' x' ∧
      s.queue.consumerMoveInternal x = .ok (q', ⟨s.queue.queueSerial, entryAt s.queue.nextId (id + 1),
        entryAt s.queue.nextId (id + 1)⟩, (entryAt s.queue.nextId (id + 1)).isSome) := by
  obtain ⟨hlo, hhi, -⟩ := (h.reading hs).current_mem
  obtain ⟨q', x', hok, hunref⟩ := h.unref hs
  refine ⟨q', x', hunref, ?_⟩
  have hptr : x.currentElementPointer = some id := (hs.pointer c x h.consumer).trans h.object
  have hnext : s.queue.expectedNext x = .ok (entryAt s.queue.nextId (id + 1), q') := by
    unfold expectedNext
    rw [hptr]
    simp only [if_neg (not_not_intro h.serial.symm), nextOf_eq hs.numbered hlo hhi, hok]
    rfl
  rw [BufferQueue.consumerMoveInternal, hnext, ← hunref.frame.queueSerial]
  rfl

/-- What `bq_consumer_get` and `bq_consumer_move` can do to the queue. -/
inductive Advance (s : Traced α) (c : Nat) : Traced α → Prop
  | stay {x : BufferQueueConsumer} {id : Nat} (hst : Stands s c x id) : Advance s c s
  | next {x x' : BufferQueueConsumer} {id : Nat} {q' : BufferQueue α} (hst : Stands s c x id)
      (hunref : Unref s.queue x id q' x') :
      Advance s c
        ⟨q'.setConsumer c (some ⟨s.queue.queueSerial, entryAt s.queue.nextId (id + 1),
          entryAt s.queue.nextId (id + 1)⟩),
          { s.history with left := leaves s.history.left c id }⟩
  | head {x : BufferQueueConsumer} (hc : s.queue.consumer c = some x)
      (hx : x.queueSerial ≠ s.queue.queueSerial ∨ x.currentElementObject = none) :
      Advance s c
        ⟨s.queue.setConsumer c (some ⟨s.queue.queueSerial, s.queue.head, s.queue.head⟩), s.history⟩

theorem leftAfter_of_not_stands {left : List Nat} (hc : q.consumer c = some x)
    (hx : x.queueSerial ≠ q.queueSerial ∨ x.currentElementObject = none) :
    leftAfter q q' c left = left := by
  unfold leftAfter
  rw [hc]
  cases hc' : q'.consumer c with
  | none => rfl
  | some x' =>
    cases ho : x.currentElementObject with
    | none => simp [ho]
    | some id =>
      rcases hx with hx | hx
      · simp [ho, hx]
      · rw [ho] at hx
        cases hx

theorem leftAfter_of_stands {x' : BufferQueueConsumer} (h : Stands s c x id)
    (hc : q'.consumer c = some x') (hne : x'.currentElementObject ≠ some id) :
    leftAfter s.queue q' c (s.history.left c) = s.history.left c ++ [id] := by
  simp [leftAfter, h.consumer, hc, h.object, h.serial, hne]

theorem Stands.leftAfter_self (h : Stands s c x id) :
    leftAfter s.queue s.queue c (s.history.left c) = s.history.left c := by
  simp [leftAfter, h.consumer, h.object]

/-- The element behind `id` is another one. -/
theorem entryAt_succ_ne {hi : Nat} : entryAt hi (id + 1) ≠ some id := by
  unfold entryAt
  split
  · intro h
    have := Option.some.inj h
    omega
  · nofun

/-- A move of the consumer `c`, with its history. -/
theorem Sound.moveInternal (hs : Sound s) (hc : s.queue.consumer c = some x) :
    ∃ q₁ x₁, s.queue.consumerMoveInternal x = .ok (q₁, x₁, x₁.currentElementObject.isSome) ∧
      x₁.queueSerial = q₁.queueSerial ∧
      Advance s c ⟨q₁.setConsumer c (some x₁), { s.history with
        left := Function.update s.history.left c
          (leftAfter s.queue (q₁.setConsumer c (some x₁)) c (s.history.left c)) }⟩ := by
  by_cases hx : x.queueSerial ≠ s.queue.queueSerial ∨ x.currentElementObject = none
  · refine ⟨_, _, consumerMoveInternal_head (by rwa [hs.pointer c x hc]), rfl, ?_⟩
    rw [leftAfter_of_not_stands hc hx, Function.update_eq_self]
    exact .head hc hx
  · push Not at hx
    obtain ⟨id, hid⟩ := Option.ne_none_iff_exists'.1 hx.2
    have hst : Stands s c x id := ⟨hc, hx.1, hid⟩
    obtain ⟨q₁, x', hunref, hmove⟩ := hst.consumerMoveInternal hs
    refine ⟨_, _, hmove, hunref.frame.queueSerial.symm, ?_⟩
    have hc' : q₁.consumer c = some x := (consumer_congr hunref.frame.registered).trans hc
    rw [leftAfter_of_stands hst (consumer_setConsumer_self hc') (by exact entryAt_succ_ne)]
    exact .next hst hunref

theorem Sound.move (hs : Sound s) (hc : s.queue.consumer c = some x) :
    ∃ s', bqStep s (.move c) = some s' ∧ Advance s c s' := by
  obtain ⟨q₁, x₁, hmove, -, hadv⟩ := hs.moveInternal hc
  have hop : s.queue.operate (.move c) = some (.ok (q₁.setConsumer c (some x₁))) := by
    simp only [operate, hc, Option.map_some, consumerMove, hs.running, hmove]
    rfl
  exact ⟨_, by simp only [bqStep, hop]; rfl, hadv⟩

/-- The payload of the element a consumer is at. -/
theorem currentPayload_eq {puts : List α} (hn : Numbered q puts)
    (h : ∀ i, x.currentElementObject = some i → q.oldest ≤ i ∧ i < q.nextId) :
    q.currentPayload x = .ok (x.currentElementObject.bind (puts[·]?)) := by
  unfold currentPayload
  cases ho : x.currentElementObject with
  | none => rfl
  | some id =>
    obtain ⟨hlo, hhi⟩ := h id ho
    obtain ⟨before, el, after, hq, rfl, hbefore, -, -⟩ := hn.split hlo hhi
    have hpay := hn.payload el (by simp [hq])
    simp only [element_eq hq hbefore, Option.bind_some, hpay]

/-- The element of the current queue that the consumer is at. -/
def current (q : BufferQueue α) (c : Nat) : Option Nat :=
  (q.consumer c).bind fun x =>
    if x.queueSerial = q.queueSerial then x.currentElementObject else none

theorem current_eq (hc : q.consumer c = some x) (hx : x.queueSerial = q.queueSerial) :
    q.current c = x.currentElementObject := by
  simp [current, hc, hx]

theorem current_of_stale (hc : q.consumer c = some x) (hx : x.queueSerial ≠ q.queueSerial) :
    q.current c = none := by
  simp [current, hc, hx]

/-- `bq_consumer_get` returns the payload of the element the consumer is then at. -/
theorem Sound.get (hs : Sound s) (hc : s.queue.consumer c = some x) :
    ∃ s', bqStep s (.get c) = some s' ∧ Advance s c s' ∧
      s.queue.consumerGet c x = .ok (s'.queue, (s'.queue.current c).bind (s.history.puts[·]?)) := by
  by_cases hx : x.queueSerial ≠ s.queue.queueSerial ∨ x.currentElementObject = none
  · have hmove := consumerMoveInternal_head (q := s.queue) (x := x) (by rwa [hs.pointer c x hc])
    let x₁ : BufferQueueConsumer := ⟨s.queue.queueSerial, s.queue.head, s.queue.head⟩
    have hcur : (s.queue.setConsumer c (some x₁)).current c = s.queue.head :=
      current_eq (consumer_setConsumer_self hc) rfl
    have hpay : (s.queue.setConsumer c (some x₁)).currentPayload x₁ =
        .ok (s.queue.head.bind (s.history.puts[·]?)) := by
      refine currentPayload_eq (q := s.queue) hs.numbered fun i hi => ?_
      have hhead : s.queue.head = some i := hi
      rw [head_eq hs.numbered, entryAt] at hhead
      split at hhead
      · cases hhead
        exact ⟨Nat.le_refl _, by assumption⟩
      · cases hhead
    have hget : s.queue.consumerGet c x =
        .ok (s.queue.setConsumer c (some x₁), s.queue.head.bind (s.history.puts[·]?)) := by
      simp only [consumerGet, hs.running, hmove, if_pos hx]
      cases hh : s.queue.head with
      | none => simp [x₁, hh, bind, Except.bind, pure, Except.pure]
      | some i =>
        simp only [x₁, hh] at hpay
        simp [x₁, hh, bind, Except.bind, pure, Except.pure, hpay]
    refine ⟨⟨_, s.history⟩, ?_, .head hc hx, by rw [hget, hcur]⟩
    have hop : s.queue.operate (.get c) = some (.ok (s.queue.setConsumer c (some x₁))) := by
      simp only [operate, hc, Option.map_some, hget]
      rfl
    simp only [bqStep, hop, History.after, leftAfter_of_not_stands hc hx, Function.update_eq_self, x₁]
  · have hx' := hx
    push Not at hx'
    obtain ⟨id, hid⟩ := Option.ne_none_iff_exists'.1 hx'.2
    have hst : Stands s c x id := ⟨hc, hx'.1, hid⟩
    have hpay := currentPayload_eq (q := s.queue) (x := x) hs.numbered fun i hi => by
      obtain ⟨hlo, hhi, -⟩ := (Stands.reading ⟨hc, hx'.1, hi⟩ hs).current_mem
      exact ⟨hlo, hhi⟩
    have hget : s.queue.consumerGet c x =
        .ok (s.queue, (s.queue.current c).bind (s.history.puts[·]?)) := by
      simp only [consumerGet, hs.running, if_neg hx, hpay, current_eq hc hx'.1]
      rfl
    refine ⟨s, ?_, .stay hst, hget⟩
    have hop : s.queue.operate (.get c) = some (.ok s.queue) := by
      simp only [operate, hc, Option.map_some, hget]
      rfl
    simp only [bqStep, hop, History.after, hst.leftAfter_self, Function.update_eq_self]

end move

end BufferQueue

end StreamSwitch
