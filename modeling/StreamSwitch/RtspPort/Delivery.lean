import StreamSwitch.RtspPort.Advance

/-!
# Delivery between two resets

Elements are put and consumers get them and move on, in any order, after the queue was
reset. A consumer that has reached the end of the queue has lost its position: what it
asks for next is the head, also when it has moved past the head before and the element
only waits for a slower consumer. Where that does not happen, each consumer goes
through the elements one by one.
-/

namespace StreamSwitch

namespace BufferQueue

open Readers

variable {α : Type} {s s' : Traced α} {q : BufferQueue α} {c d id : Nat} {x y : BufferQueueConsumer}

/-! ## The invariant along moves and puts -/

/-- A consumer at the end of the queue has moved past none of the elements in it. -/
def FreshAtEnd (s : Traced α) (c : Nat) : Prop :=
  ∀ x ∈ s.queue.consumer c, x.queueSerial = s.queue.queueSerial →
    x.currentElementPointer = none → ∀ el ∈ s.queue.queue, el.id ∉ s.history.left c

instance (s : Traced α) (c : Nat) : Decidable (FreshAtEnd s c) :=
  inferInstanceAs (Decidable (∀ _ ∈ _, _ → _ → ∀ _ ∈ _, _))

theorem Counted.congr {q' : BufferQueue α} {left : Nat → List Nat} (h : Counted q left)
    (hq : q'.queue = q.queue) (hlive : q'.live = q.live) : Counted q' left := by
  refine ⟨fun el hel => ?_, fun hne el hel => ?_⟩
  · rw [hlive]
    exact h.seen el (hq ▸ hel)
  · rw [hlive] at hne ⊢
    exact h.waiting hne el (hq ▸ hel)

/-- A consumer takes a place. -/
theorem Sound.setConsumer {puts : List α} {left : Nat → List Nat} (hc : q.consumer c = some x)
    (hreg : Registered ⟨q, ⟨puts, left⟩⟩) (hn : Numbered q puts) (hcount : Counted q left)
    (hothers : ∀ d y, q.consumer d = some y → d ≠ c → Placed q (left d) y)
    (hptr : y.currentElementPointer = y.currentElementObject) (hself : Placed q (left c) y) :
    Sound ⟨q.setConsumer c (some y), ⟨puts, left⟩⟩ := by
  have hlive : (q.setConsumer c (some y)).live = q.live := live_setConsumer_some hc
  refine ⟨⟨hreg.running, ?_, hreg.bounded, fun d z hd => ?_, hreg.puts_length⟩,
    ⟨hn.length_le, hn.ids, hn.payload⟩, hcount.congr rfl hlive, fun d z hd => ?_⟩
  · exact hreg.consumers.trans (congrArg Finset.card hlive.symm)
  all_goals by_cases hdc : d = c
  · subst hdc
    cases (consumer_setConsumer_self hc).symm.trans hd
    exact hptr
  · exact hreg.pointer d z ((consumer_setConsumer_ne hdc).symm.trans hd)
  · subst hdc
    cases (consumer_setConsumer_self hc).symm.trans hd
    exact ⟨hself.stale, hself.reading⟩
  · have hp := hothers d z ((consumer_setConsumer_ne hdc).symm.trans hd) hdc
    exact ⟨hp.stale, hp.reading⟩

theorem leaves_self {left : Nat → List Nat} : leaves left c id c = left c ++ [id] :=
  Function.update_self ..

theorem leaves_of_ne {left : Nat → List Nat} (h : d ≠ c) : leaves left c id d = left d :=
  Function.update_of_ne h ..

theorem Advance.sound (h : Advance s c s') (hs : Sound s) (hfresh : FreshAtEnd s c) :
    Sound s' := by
  cases h with
  | stay => exact hs
  | next hst hunref =>
    obtain ⟨hreg, hcons, hstop, hser, hnext⟩ := hunref.frame
    refine Sound.setConsumer ((consumer_congr hreg).trans hst.consumer)
      ⟨hstop.trans hs.running, ?_, ?_, fun d y hd => ?_, hs.puts_length.trans hnext.symm⟩
      (hunref.numbered hs.numbered) (hunref.counted_leaves hs hst) (fun d y hd hdc => ?_) rfl ?_
    · exact hcons.trans (hs.consumers.trans (congrArg Finset.card (live_congr hreg).symm))
    · exact hcons.trans_lt hs.bounded
    · exact hs.pointer d y ((consumer_congr hreg).symm.trans hd)
    · rw [leaves_of_ne hdc]
      exact hunref.placed hs hst ((consumer_congr hreg).symm.trans hd) hdc
    · rw [leaves_self, ← hnext]
      exact ⟨fun hne => absurd hser.symm hne, fun _ => hunref.reading hs hst⟩
  | head hc hx =>
    rename_i x
    refine Sound.setConsumer hc hs.toRegistered hs.numbered hs.counted
      (fun d y hd _ => hs.placed d y hd) rfl ⟨fun hne => absurd rfl hne, fun _ => ?_⟩
    show Reading s.queue.oldest s.queue.nextId (s.history.left c) s.queue.head
    have hadd := hs.numbered.oldest_add
    rw [head_eq hs.numbered]
    by_cases hser : x.queueSerial = s.queue.queueSerial
    · have hnone := hx.resolve_left (not_not_intro hser)
      have hread := (hs.placed c x hc).reading hser
      rw [hnone] at hread
      refine hread.resume fun hlt => ?_
      obtain ⟨el, hel, heq⟩ := hs.numbered.mem_queue.2 ⟨Nat.le_refl _, hlt⟩
      exact heq ▸ hfresh x hc hser ((hs.pointer c x hc).trans hnone) el hel
    · rw [(hs.placed c x hc).stale hser]
      exact Reading.start (by omega)

/-- A new element has been seen by no consumer. -/
theorem Sound.passedBy_nextId (hs : Sound s) :
    passedBy s.queue.live s.history.left s.queue.nextId = ∅ := by
  rw [Finset.eq_empty_iff_forall_notMem]
  intro c hc
  obtain ⟨hlive, hmem⟩ := mem_passedBy.1 hc
  obtain ⟨x, hx⟩ := mem_live.1 hlive
  exact hs.not_mem hx (Nat.le_refl _) hmem

/-- The queue with one element more. -/
def push (q : BufferQueue α) (payload : α) : BufferQueue α :=
  { q with
    queue := q.queue ++ [⟨q.nextId, payload, 0, q.nextSerial⟩]
    nextSerial := (q.nextSerial + 1) % gulongSize
    nextId := q.nextId + 1 }

theorem push_oldest {payload : α} : (q.push payload).oldest = q.oldest := by
  simp [push, oldest]

theorem producerPut_cases (payload : α) (hrun : q.stopped = false) :
    q.producerPut payload = .error .overflow ∨ q.producerPut payload = .ok (q.push payload) := by
  unfold producerPut
  rw [if_neg (by simp [hrun])]
  by_cases h : (q.nextSerial + 1) % gulongSize = 0
  · exact .inl (if_pos h)
  · exact .inr (if_neg h)

theorem Sound.put {payload : α} (hs : Sound s) (h : bqStep s (.put payload) = some s') :
    Sound s' := by
  rcases producerPut_cases payload hs.running with he | hok
  · simp [bqStep, operate, he] at h
  simp only [bqStep, operate, hok, Option.some.injEq] at h
  subst h
  have hlen := hs.numbered.length_le
  have hadd := hs.numbered.oldest_add
  refine ⟨⟨hs.running, hs.consumers, hs.bounded, hs.pointer, ?_⟩, ⟨?_, ?_, fun el hel => ?_⟩,
    ⟨fun el hel => ?_, fun hne el hel => ?_⟩, fun d y hd => ?_⟩
  · simp [History.after, hs.puts_length, push]
  · simpa [push] using hlen
  · rw [push_oldest]
    simp only [push, List.map_append, List.map_cons, List.map_nil, List.length_append, List.length_cons,
      List.length_nil]
    rw [hs.numbered.ids, List.range'_concat, Nat.one_mul, hadd]
  · show (s.history.puts ++ [payload])[el.id]? = _
    rcases List.mem_append.1 hel with hel | hel
    · rw [List.getElem?_append_left, hs.numbered.payload el hel]
      rw [hs.puts_length]
      exact (hs.numbered.id_lt hel).2
    · cases List.mem_singleton.1 hel
      rw [List.getElem?_append_right (by rw [hs.puts_length]), hs.puts_length, Nat.sub_self]
      rfl
  · rcases List.mem_append.1 hel with hel | hel
    · exact hs.counted.seen el hel
    · cases List.mem_singleton.1 hel
      show 0 = (passedBy s.queue.live s.history.left s.queue.nextId).card
      rw [hs.passedBy_nextId, Finset.card_empty]
  · rcases List.mem_append.1 hel with hel | hel
    · exact hs.counted.waiting hne el hel
    · cases List.mem_singleton.1 hel
      obtain ⟨d, hd⟩ := hne
      obtain ⟨y, hy⟩ := mem_live.1 hd
      exact ⟨d, hd, hs.not_mem hy (Nat.le_refl _)⟩
  · have hp := hs.placed d y hd
    refine ⟨hp.stale, fun heq => ?_⟩
    rw [push_oldest]
    exact (hp.reading heq).grow

/-! ## Runs after a reset -/

/-- What happens between two resets. -/
inductive Delivery (α : Type)
  | put (payload : α)
  | get (c : Nat)
  | move (c : Nat)
deriving DecidableEq, Repr

def Delivery.event : Delivery α → BqEvent α
  | .put payload => .put payload
  | .get c => .get c
  | .move c => .move c

def deliverStep (s : Traced α) (e : Delivery α) : Option (Traced α) := bqStep s e.event

/-- A state right after a reset: whatever the consumers were at belongs to an earlier queue. -/
structure JustReset (α : Type) where
  state : Traced α
  registered : Registered state
  empty : state.queue.queue = []
  unread : ∀ c, state.history.left c = []
  stale : ∀ c x, state.queue.consumer c = some x → x.queueSerial ≠ state.queue.queueSerial

theorem JustReset.sound (start : JustReset α) : Sound start.state := by
  have hempty := start.empty
  refine ⟨start.registered, ⟨?_, ?_, ?_⟩, ⟨?_, ?_⟩, fun c x hc => ⟨fun _ => start.unread c, ?_⟩⟩
  · simp [hempty]
  · simp [hempty]
  · simp [hempty]
  · simp [hempty]
  · simp [hempty]
  · exact fun heq => absurd heq (start.stale c x hc)

/-- The elements of the current queue that the consumer has been at, in order. -/
def positions (s : Traced α) (c : Nat) : List Nat :=
  s.history.left c ++ (s.queue.current c).toList

/-- The elements freed between two states. -/
def freedSince (q q' : BufferQueue α) : List Nat :=
  q'.freed.take (q'.freed.length - q.freed.length)

/-- One operation delivers: no assertion of a consumer fails, each consumer has been at elements that
follow each other, what it gets is the payload put there, and what is freed is behind them all. -/
structure Delivers (s : Traced α) (e : Delivery α) : Prop where
  noFault : ∀ fault, s.queue.operate e.event = some (.error fault) →
    fault = .overflow ∧ ∃ payload, e = .put payload
  inOrder : ∀ s', deliverStep s e = some s' → ∀ c ∈ s'.queue.live,
    ∃ k n, positions s' c = List.range' k n
  payload : ∀ c x s', e = .get c → s.queue.consumer c = some x → deliverStep s e = some s' →
    s.queue.consumerGet c x = .ok (s'.queue, (s'.queue.current c).bind (s.history.puts[·]?))
  freed : ∀ s', deliverStep s e = some s' → ∀ i ∈ freedSince s.queue s'.queue,
    ∀ c ∈ s'.queue.live, i ∈ s'.history.left c

/-- No consumer that asks for an element lost its position before elements it has moved past. -/
def KeepsPosition (s : Traced α) : Delivery α → Prop
  | .put _ => True
  | .get c | .move c => FreshAtEnd s c

theorem Sound.inOrder (hs : Sound s) (hc : c ∈ s.queue.live) :
    ∃ k n, positions s c = List.range' k n := by
  obtain ⟨x, hx⟩ := mem_live.1 hc
  have hp := hs.placed c x hx
  unfold positions
  by_cases hser : x.queueSerial = s.queue.queueSerial
  · rw [current_eq hx hser]
    exact (hp.reading hser).inOrder
  · rw [current_of_stale hx hser, hp.stale hser]
    exact ⟨0, 0, rfl⟩

theorem freedSince_self {q' : BufferQueue α} (h : q'.freed = q.freed) : freedSince q q' = [] := by
  simp [freedSince, h]

theorem Advance.freed (h : Advance s c s') (hs : Sound s) {i : Nat}
    (hi : i ∈ freedSince s.queue s'.queue) (hd : d ∈ s'.queue.live) : i ∈ s'.history.left d := by
  cases h with
  | stay => simp [freedSince] at hi
  | head => simp [freedSince, setConsumer] at hi
  | next hst hunref =>
    have hold := hunref.oldest hs hst
    have hreg := hunref.frame.registered
    rw [live_setConsumer_some ((consumer_congr hreg).trans hst.consumer), live_congr hreg] at hd
    cases hunref with
    | counted => simp [freedSince, setConsumer] at hi
    | freed hq hid hlast =>
      have hlen := hs.numbered.length_le
      simp only [freedSince, setConsumer, List.length_cons, Nat.add_sub_cancel_left,
        List.take_succ_cons, List.take_zero, List.mem_singleton] at hi
      subst hi
      rcases hold with heq | ⟨-, -, hall⟩
      · rw [hq, List.length_cons] at hlen
        simp only [BufferQueue.oldest, hq, List.length_cons] at heq
        omega
      · by_cases hdc : d = c
        · subst hdc
          simp [leaves_self]
        · show i ∈ leaves s.history.left c i d
          rw [leaves_of_ne hdc]
          exact hall d hd hdc

/-- The step of a consumer that is there. -/
theorem Sound.deliverStep_cases (hs : Sound s) (e : Delivery α) :
    (∃ payload, e = .put payload) ∨ (s.queue.operate e.event = none) ∨
      ∃ c x s', (e = .get c ∨ e = .move c) ∧ s.queue.consumer c = some x ∧
        deliverStep s e = some s' ∧ Advance s c s' := by
  cases e with
  | put payload => exact .inl ⟨payload, rfl⟩
  | get c =>
    cases hc : s.queue.consumer c with
    | none => exact .inr (.inl (by simp [Delivery.event, operate, hc]))
    | some x =>
      obtain ⟨s', hstep, hadv, -⟩ := hs.get hc
      exact .inr (.inr ⟨c, x, s', .inl rfl, hc, hstep, hadv⟩)
  | move c =>
    cases hc : s.queue.consumer c with
    | none => exact .inr (.inl (by simp [Delivery.event, operate, hc]))
    | some x =>
      obtain ⟨s', hstep, hadv⟩ := hs.move hc
      exact .inr (.inr ⟨c, x, s', .inr rfl, hc, hstep, hadv⟩)

theorem operate_of_bqStep {e : BqEvent α} (h : bqStep s e = some s') :
    s.queue.operate e = some (.ok s'.queue) := by
  unfold bqStep at h
  split at h
  · next q' hq =>
    cases h
    exact hq
  · cases h

theorem bqStep_of_none {e : BqEvent α} (h : s.queue.operate e = none) : bqStep s e = none := by
  simp [bqStep, h]

/-- Each step keeps the invariant. -/
theorem sound_deliverStep (hs : Sound s) {e : Delivery α} (hk : KeepsPosition s e)
    (h : deliverStep s e = some s') : Sound s' := by
  rcases hs.deliverStep_cases e with ⟨payload, rfl⟩ | hnone | ⟨c, x, t, he, -, hstep, hadv⟩
  · exact hs.put h
  · rw [deliverStep, bqStep_of_none hnone] at h
    cases h
  · cases hstep.symm.trans h
    rcases he with rfl | rfl
    · exact hadv.sound hs hk
    · exact hadv.sound hs hk

theorem Sound.delivers (hs : Sound s) {e : Delivery α} (hk : KeepsPosition s e) :
    Delivers s e := by
  refine ⟨fun fault hfault => ?_, fun s' h c hc => (sound_deliverStep hs hk h).inOrder hc,
    fun c x s' he hx h => ?_, fun s' h i hi d hd => ?_⟩
  · rcases hs.deliverStep_cases e with ⟨payload, rfl⟩ | hnone | ⟨c, x, t, he, -, hstep, hadv⟩
    · refine ⟨?_, payload, rfl⟩
      rcases producerPut_cases payload hs.running with herr | hok
      · simp only [Delivery.event, operate, herr, Option.some.injEq, Except.error.injEq] at hfault
        exact hfault.symm
      · simp [Delivery.event, operate, hok] at hfault
    · rw [hnone] at hfault
      cases hfault
    · rw [operate_of_bqStep hstep] at hfault
      cases hfault
  · subst he
    obtain ⟨t, hstep, -, hget⟩ := hs.get hx
    cases hstep.symm.trans h
    exact hget
  · rcases hs.deliverStep_cases e with ⟨payload, rfl⟩ | hnone | ⟨c, x, t, he, -, hstep, hadv⟩
    · have hop := operate_of_bqStep h
      rcases producerPut_cases payload hs.running with herr | hok
      · simp [Delivery.event, operate, herr] at hop
      · simp only [Delivery.event, operate, hok, Option.some.injEq, Except.ok.injEq] at hop
        rw [freedSince_self (by rw [← hop]; rfl)] at hi
        cases hi
    · rw [deliverStep, bqStep_of_none hnone] at h
      cases h
    · cases hstep.symm.trans h
      exact hadv.freed hs hi hd

/-- A consumer that goes back to the head is at an element for the second time. -/
theorem Advance.repeats (hadv : Advance s c s') (hs : Sound s) (hnot : ¬ FreshAtEnd s c) :
    c ∈ s'.queue.live ∧ ¬ ∃ k n, positions s' c = List.range' k n := by
  unfold FreshAtEnd at hnot
  push Not at hnot
  obtain ⟨x, hc, hser, hptr, el, hel, hpast⟩ := hnot
  have hnone : x.currentElementObject = none := (hs.pointer c x hc).symm.trans hptr
  have hnotStands : ∀ y i, ¬ Stands s c y i := by
    intro y i hst
    cases (Option.mem_def.1 hc).symm.trans hst.consumer
    exact Option.some_ne_none i (hst.object.symm.trans hnone)
  -- It is at the end, so it goes to the head.
  cases hadv with
  | stay hst => exact absurd hst (hnotStands _ _)
  | next hst hunref => exact absurd hst (hnotStands _ _)
  | head hc' hx =>
    refine ⟨mem_live.2 ⟨_, consumer_setConsumer_self hc'⟩, ?_⟩
    rintro ⟨k, n, hpos⟩
    obtain ⟨hlo, hhi⟩ := hs.numbered.id_lt hel
    have hmem := ((hs.placed c x hc).reading hser).lo_mem hlo hpast
    rw [positions, current_eq (consumer_setConsumer_self hc') rfl] at hpos
    have hnodup : (s.history.left c ++ s.queue.head.toList).Nodup := by
      rw [show s.history.left c ++ s.queue.head.toList = List.range' k n from hpos]
      exact List.nodup_range'
    rw [head_eq hs.numbered, entryAt, if_pos (by omega)] at hnodup
    exact List.disjoint_of_nodup_append hnodup hmem (by simp)

/-- Delivery goes wrong exactly when a position is lost. -/
theorem Sound.delivers_iff (hs : Sound s) (e : Delivery α) : Delivers s e ↔ KeepsPosition s e := by
  refine ⟨fun h => ?_, hs.delivers⟩
  by_contra hnot
  rcases hs.deliverStep_cases e with ⟨payload, rfl⟩ | hnone | ⟨c, x, t, he, hc, hstep, hadv⟩
  · exact hnot trivial
  · refine hnot ?_
    cases e with
    | put payload => trivial
    | get c | move c =>
      intro x hx
      rw [Option.mem_def] at hx
      simp [Delivery.event, operate, hx] at hnone
  · have hnot' : ¬ FreshAtEnd s c := by
      rcases he with rfl | rfl
      · exact hnot
      · exact hnot
    obtain ⟨hlive, hrep⟩ := hadv.repeats hs hnot'
    exact hrep (h.inOrder t hstep c hlive)

theorem each_delivers_iff (hs : Sound s) (es : List (Delivery α)) :
    Run.Each deliverStep Delivers s es ↔ Run.Each deliverStep KeepsPosition s es :=
  Run.each_iff (fun _ _ _ hs hk h => sound_deliverStep hs hk h) (fun _ e hs => hs.delivers_iff e) hs

/-- **Delivery**: after a reset, whatever the order in which elements are put and any number of
consumers get them and move on, each consumer goes through the elements in the order they were put,
none left out and none twice, and an element is freed behind all of them, exactly as long as no
consumer that is at the end asks for more while the queue holds an element it has moved past. -/
theorem delivery_iff (start : JustReset α) (es : List (Delivery α)) :
    Run.Each deliverStep Delivers start.state es ↔
      Run.Each deliverStep KeepsPosition start.state es :=
  each_delivers_iff start.sound es

/-- `bq_producer_new`: the first queue has the serial 1. -/
def producerNew : BufferQueue α := { queueSerial := 1 }

example : producerResetQueue ({} : BufferQueue Nat) = .ok producerNew := by decide

/-- A producer and two consumers. -/
def twoConsumers : JustReset Nat where
  state := ⟨{ producerNew with consumers := 2, registered := [some {}, some {}] }, {}⟩
  registered :=
    { running := rfl
      consumers := by decide
      bounded := by decide
      pointer := by
        intro c x hc
        match c, hc with
        | 0, hc | 1, hc => cases hc; rfl
      puts_length := rfl }
  empty := rfl
  unread _ := rfl
  stale := by
    intro c x hc
    match c, hc with
    | 0, hc | 1, hc => cases hc; decide

/-- The first consumer gets the one element, moves on and asks again: it gets the element again. -/
theorem element_delivered_twice : ¬ ∀ (start : JustReset Nat) (es : List (Delivery Nat)),
    Run.Each deliverStep Delivers start.state es := by
  intro h
  have hkeeps := (each_delivers_iff twoConsumers.sound _).1
    (h twoConsumers [.put 7, .get 0, .move 0, .get 0])
  have hlast := ((hkeeps.2 _ rfl).2 _ rfl).2 _ rfl
  exact absurd hlast.1 (by unfold KeepsPosition; decide)

end BufferQueue

end StreamSwitch
