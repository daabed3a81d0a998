import StreamSwitch.RtspPort.Advance

/-!
# A buffer queue with one consumer

The port forks for every connection, so the producer of a track has the consumer of one RTP session.
Then an element is freed as soon as that consumer moves past it, and the queue is a plain one: what
was put is got in order, the first element until the consumer moves on, and no position is lost at
the end.
-/

namespace StreamSwitch

namespace BufferQueue

variable {α : Type} {q q' : BufferQueue α} {c : Nat} {x : BufferQueueConsumer}

/-- What waits for the consumer. -/
def payloads (q : BufferQueue α) : List α := q.queue.map (·.payload)

/-- The consumer `c` is the only one, and stands at the first element or at none. -/
structure Sole (q : BufferQueue α) (c : Nat) (x : BufferQueueConsumer) : Prop where
  running : q.stopped = false
  consumers : q.consumers = 1
  consumer : q.consumer c = some x
  pointer : x.currentElementPointer = x.currentElementObject
  atHead : x.queueSerial = q.queueSerial → ∀ id ∈ x.currentElementObject, q.head = some id
  fresh : ∀ el ∈ q.queue, el.id < q.nextId
  nodup : (q.queue.map (·.id)).Nodup
  unseen : ∀ el ∈ q.queue, el.seen = 0

/-- The consumer goes to the first element. -/
theorem Sole.toHead (h : Sole q c x) :
    Sole (q.setConsumer c (some ⟨q.queueSerial, q.head, q.head⟩)) c ⟨q.queueSerial, q.head, q.head⟩ :=
  ⟨h.running, h.consumers, consumer_setConsumer_self h.consumer, rfl, fun _ _ hid => hid, h.fresh,
    h.nodup, h.unseen⟩

/-- The first element is found under its number. -/
theorem element_head {id : Nat} (hhead : q.head = some id) :
    ∃ el rest, q.queue = el :: rest ∧ el.id = id ∧ q.element id = some el := by
  obtain ⟨el, hel, rfl⟩ := Option.map_eq_some_iff.1 hhead
  obtain ⟨rest, hrest⟩ := List.head?_eq_some_iff.1 hel
  exact ⟨el, rest, hrest, rfl, by simp [element, hrest]⟩

theorem currentPayload_head (q : BufferQueue α) (x : BufferQueueConsumer)
    (h : x.currentElementObject = q.head) : q.currentPayload x = .ok q.payloads.head? := by
  unfold currentPayload
  rw [h]
  cases hhead : q.head with
  | none =>
    have hnil : q.queue = [] := by simpa [head] using hhead
    simp [payloads, hnil]
  | some id =>
    obtain ⟨el, rest, hq, -, hel⟩ := element_head hhead
    simp [hel, payloads, hq]

/-- **Getting**: the first of what waits, which stays. -/
theorem Sole.get (h : Sole q c x) :
    ∃ q' x', q.consumerGet c x = .ok (q', q.payloads.head?) ∧ Sole q' c x' ∧
      q'.payloads = q.payloads ∧ x'.queueSerial = q'.queueSerial ∧
        x'.currentElementObject = q'.head := by
  unfold consumerGet
  rw [if_neg (by simp [h.running])]
  by_cases hmove : x.queueSerial ≠ q.queueSerial ∨ x.currentElementObject = none
  · have hpayload := currentPayload_head (q.setConsumer c (some ⟨q.queueSerial, q.head, q.head⟩))
      ⟨q.queueSerial, q.head, q.head⟩ rfl
    have hhead := consumerMoveInternal_head (hmove.imp_right h.pointer.trans)
    refine ⟨_, _, ?_, h.toHead, rfl, rfl, rfl⟩
    rw [if_pos hmove, hhead]
    simp only [bind, Except.bind, pure, Except.pure]
    cases hfirst : q.head with
    | none =>
      have hnil : q.queue = [] := by simpa [head] using hfirst
      simp [payloads, hnil]
    | some id =>
      rw [hfirst] at hpayload
      simp only [Option.isSome_some, if_true, hpayload]
      rfl
  · have hser : x.queueSerial = q.queueSerial := by
      by_contra hne
      exact hmove (.inl hne)
    obtain ⟨id, hid⟩ := Option.ne_none_iff_exists'.1 fun hnone => hmove (.inr hnone)
    have hhead := h.atHead hser id hid
    have hpayload := currentPayload_head q x (hid.trans hhead.symm)
    refine ⟨q, x, ?_, h, rfl, hser, hid.trans hhead.symm⟩
    rw [if_neg hmove]
    simp only [hpayload, bind, Except.bind, pure, Except.pure]

/-- Behind the first element. -/
theorem nextOf_head {id : Nat} (hhead : q.head = some id) :
    q.nextOf id = .ok (q.queue.tail.head?.map (·.id)) := by
  obtain ⟨el, rest, hq, rfl, -⟩ := element_head hhead
  simp [nextOf, hq]

/-- The first element is seen, and as there is no other consumer it is freed. -/
theorem Sole.unref (h : Sole q c x) (hser : x.queueSerial = q.queueSerial) {id : Nat}
    (hid : x.currentElementObject = some id) :
    ∃ x', q.consumerElemUnref x =
      .ok ({ q with queue := q.queue.tail, freed := id :: q.freed }, x') := by
  have hhead := h.atHead hser id hid
  obtain ⟨el, rest, hq, rfl, helement⟩ := element_head hhead
  have hseen : el.seen = 0 := h.unseen el (hq ▸ List.mem_cons_self)
  have hrest : ∀ other ∈ rest, other.id ≠ el.id := fun other hother heq => by
    have hnodup := h.nodup
    rw [hq, List.map_cons, List.nodup_cons] at hnodup
    exact hnodup.1 (heq ▸ List.mem_map_of_mem hother)
  have hset : (q.setSeen el.id 1).queue = { el with seen := 1 } :: rest := by
    have hsame : rest.map (fun other => if other.id = el.id then { other with seen := 1 } else other) =
        rest := by
      conv_rhs => rw [← List.map_id rest]
      exact List.map_congr_left fun other hother => if_neg (hrest other hother)
    simp [setSeen, hq, hsame]
  have hsetHead : (q.setSeen el.id 1).head = some el.id := by simp [head, hset]
  refine ⟨{ x with currentElementObject := none }, ?_⟩
  unfold consumerElemUnref
  have hone : (0 + 1) % gulongSize = 1 := by decide
  have hconsumers : (q.setSeen el.id 1).consumers = 1 := h.consumers
  simp only [hid, hser, ne_eq, not_true_eq_false, if_false, helement, hseen, hone, hconsumers,
    Nat.lt_irrefl, h.pointer, hsetHead, hset, List.tail_cons, hq, h.consumers]
  rfl

/-- **Moving on** from an element: it is gone, and the consumer stands at the next one. -/
theorem Sole.move (h : Sole q c x) (hser : x.queueSerial = q.queueSerial)
    (hid : x.currentElementObject = q.head) (hne : q.payloads ≠ []) :
    ∃ q' x' moved, q.consumerMove c x = .ok (q', moved) ∧ Sole q' c x' ∧
      q'.payloads = q.payloads.tail := by
  obtain ⟨id, hhead⟩ : ∃ id, q.head = some id := by
    cases hhead : q.head with
    | none => exact absurd (by simpa [head, payloads] using hhead) hne
    | some id => exact ⟨id, rfl⟩
  rw [hhead] at hid
  obtain ⟨x', hunref⟩ := h.unref hser hid
  have hptr := h.pointer.trans hid
  let q₁ : BufferQueue α := { q with queue := q.queue.tail, freed := id :: q.freed }
  have hexpected : q.expectedNext x = .ok (q₁.head, q₁) := by
    unfold expectedNext
    simp only [hptr, hser, ne_eq, not_true_eq_false, if_false, nextOf_head hhead, hunref, bind,
      Except.bind, pure, Except.pure]
    rfl
  refine ⟨q₁.setConsumer c (some ⟨q₁.queueSerial, q₁.head, q₁.head⟩),
    ⟨q₁.queueSerial, q₁.head, q₁.head⟩, q₁.head.isSome, ?_, ?_, List.map_tail⟩
  · unfold consumerMove
    rw [if_neg (by simp [h.running])]
    simp only [consumerMoveInternal, hexpected, bind, Except.bind, pure, Except.pure]
  · refine ⟨h.running, h.consumers, consumer_setConsumer_self (q := q₁) h.consumer, rfl,
      fun _ _ hnext => hnext, fun el hel => h.fresh el (List.mem_of_mem_tail hel), ?_,
      fun el hel => h.unseen el (List.mem_of_mem_tail hel)⟩
    exact (h.nodup.sublist ((List.tail_sublist q.queue).map _))

/-- **Putting**: behind what waits. -/
theorem Sole.put (h : Sole q c x) {payload : α} (hput : q.producerPut payload = .ok q') :
    Sole q' c x ∧ q'.payloads = q.payloads ++ [payload] ∧ q'.queueSerial = q.queueSerial := by
  unfold producerPut at hput
  split_ifs at hput
  cases hput
  refine ⟨⟨h.running, h.consumers, h.consumer, h.pointer, fun hser id hid => ?_, fun el hel => ?_, ?_,
    fun el hel => ?_⟩, by simp [payloads], rfl⟩
  · have hhead := h.atHead hser id hid
    simp only [head, List.head?_append] at hhead ⊢
    obtain ⟨el, hel, rfl⟩ := Option.map_eq_some_iff.1 hhead
    rw [hel]
    rfl
  · rcases List.mem_append.1 hel with hel | hel
    · exact Nat.lt_succ_of_lt (h.fresh el hel)
    · rw [List.mem_singleton.1 hel]
      exact Nat.lt_succ_self _
  · rw [List.map_append, List.map_singleton, List.nodup_append]
    refine ⟨h.nodup, by simp, fun a ha b hb heq => ?_⟩
    obtain ⟨el, hel, rfl⟩ := List.mem_map.1 ha
    have hlt := h.fresh el hel
    rw [heq, List.mem_singleton.1 hb] at hlt
    exact Nat.lt_irrefl _ hlt
  · rcases List.mem_append.1 hel with hel | hel
    · exact h.unseen el hel
    · rw [List.mem_singleton.1 hel]

end BufferQueue

end StreamSwitch
