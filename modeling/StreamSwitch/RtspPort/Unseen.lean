import Mathlib.Data.List.TakeWhile
import StreamSwitch.RtspPort.SeenCount

/-!
# How many elements wait for a consumer

`bq_consumer_unseen` and the loop of `rtp_session_fill_cb`. The number is not counted but taken from
the serials: behind the current element, or in the whole queue, as if nothing had been freed from it.

`Stamped` holds in every state of every run: the queued elements have the last serials.
-/

namespace StreamSwitch

namespace BufferQueue

variable {α : Type} {s s' t : Traced α} {q q' q₁ : BufferQueue α} {c d id : Nat}
  {x x' y : BufferQueueConsumer}

/-! ## The code -/

/-- The value of a `gulong` as `gint64`, which `g_assert_cmpint` compares. -/
def gint64 (n : Nat) : Int := (n : Int).bmod gulongSize

/-- `bq_consumer_unseen`; nothing where a freed element is read or the assertion fails. -/
def consumerUnseen (q : BufferQueue α) (x : BufferQueueConsumer) : Option Nat :=
  if q.stopped then some 0
  else if x.queueSerial ≠ q.queueSerial then some q.nextSerial
  else
    match x.currentElementObject with
    | some id =>
      match q.element id with
      | none => none
      | some elem =>
        if gint64 elem.serial < gint64 q.nextSerial then some (q.nextSerial - elem.serial) else none
    | none => if q.head = none then some 0 else some q.nextSerial

/-- What one time around the loop of `rtp_session_fill_cb` meets: the test of the times, whether the
session is started, the payloads that `r_read` puts and whether it succeeds. -/
structure FillRound (α : Type) where
  inTime : Bool
  started : Bool
  puts : List α
  readOk : Bool
deriving DecidableEq, Repr

/-- Why the loop ends; `unended` if it goes on behind the rounds. -/
inductive FillEnd | full | late | paused | readFailed | unended
deriving DecidableEq, Repr

def putAll (s : Traced α) (payloads : List α) : Option (Traced α) :=
  Run.exec bqStep s (payloads.map .put)

/-- `rtp_session_fill_cb` for the consumer `c`. -/
def fill (bufferedFrames c : Nat) : Traced α → List (FillRound α) → Option (Traced α × FillEnd)
  | s, rounds => do
    let x ← s.queue.consumer c
    let unseen ← s.queue.consumerUnseen x
    if unseen < bufferedFrames then
      match rounds with
      | [] => return (s, .unended)
      | round :: rounds =>
        if !round.inTime then return (s, .late)
        else if !round.started then return (s, .paused)
        else
          let s ← putAll s round.puts
          if !round.readOk then return (s, .readFailed)
          else fill bufferedFrames c s rounds
    else return (s, .full)
termination_by _ rounds => rounds.length

/-! ## What stays of a queue -/

/-- The elements without their seen counts. -/
def elements (q : BufferQueue α) : List (BufferQueueElement α) :=
  q.queue.map fun el => { el with seen := 0 }

/-- Elements may have gone from the head, and seen counts may have changed. -/
structure Trimmed (q q' : BufferQueue α) : Prop extends Frame q q' where
  nextSerial : q'.nextSerial = q.nextSerial
  elements : q'.elements <:+ q.elements

theorem Trimmed.refl (q : BufferQueue α) : Trimmed q q :=
  ⟨⟨rfl, rfl, rfl, rfl, rfl⟩, rfl, List.suffix_rfl⟩

theorem Trimmed.trans (h : Trimmed q q₁) (h' : Trimmed q₁ q') : Trimmed q q' :=
  ⟨h.toFrame.trans h'.toFrame, h'.nextSerial.trans h.nextSerial, h'.elements.trans h.elements⟩

theorem elements_setSeen (seen : Nat) : (q.setSeen id seen).elements = q.elements := by
  unfold elements setSeen
  rw [List.map_map]
  refine List.map_congr_left fun el _ => ?_
  dsimp only [Function.comp]
  split <;> rfl

theorem elements_tail {queue : List (BufferQueueElement α)} {freed : List Nat}
    (h : queue = q.queue.tail) :
    ({ q with queue := queue, freed := freed } : BufferQueue α).elements <:+ q.elements := by
  subst h
  unfold elements
  rw [List.map_tail]
  exact List.tail_suffix _

theorem consumerElemUnref_trimmed (h : q.consumerElemUnref x = .ok (q', x')) : Trimmed q q' := by
  suffices hrest : q'.nextSerial = q.nextSerial ∧ q'.elements <:+ q.elements from
    ⟨consumerElemUnref_frame h, hrest.1, hrest.2⟩
  unfold consumerElemUnref at h
  split at h
  · cases h
    exact ⟨rfl, List.suffix_rfl⟩
  · split at h
    · cases h
      exact ⟨rfl, List.suffix_rfl⟩
    · split at h
      · cases h
      · dsimp only at h
        split at h
        · cases h
          exact ⟨rfl, (elements_setSeen _).symm ▸ List.suffix_rfl⟩
        · split at h
          · cases h
          · cases h
            exact ⟨rfl, elements_setSeen (q := q) _ ▸ elements_tail rfl⟩

/-- Where a consumer goes: to the head of the queue, or to what is behind its element. -/
inductive Goes (q : BufferQueue α) (x : BufferQueueConsumer) : Option Nat → BufferQueue α → Prop
  | head (hx : x.currentElementPointer = none ∨ q.queueSerial ≠ x.queueSerial) :
      Goes q x q.head q
  | next {id : Nat} {next : Option Nat} {q' : BufferQueue α} (hx : x.currentElementPointer = some id)
      (hser : q.queueSerial = x.queueSerial) (hnext : q.nextOf id = .ok next)
      (htrim : Trimmed q q') : Goes q x next q'

theorem expectedNext_goes {next : Option Nat} (h : q.expectedNext x = .ok (next, q')) :
    Goes q x next q' := by
  unfold expectedNext at h
  split at h
  · rename_i hx
    cases h
    exact .head (.inl hx)
  · rename_i id hx
    split at h
    · rename_i hser
      cases h
      exact .head (.inr hser)
    · rename_i hser
      simp only [bind, Except.bind] at h
      split at h
      · cases h
      · rename_i hnext
        split at h
        · cases h
        · rename_i hunref
          cases h
          exact .next hx (not_not.1 hser) hnext (consumerElemUnref_trimmed hunref)

theorem unseeUpTo_trimmed (h : q.unseeUpTo id = .ok q') : Trimmed q q' := by
  suffices hrest : q'.nextSerial = q.nextSerial ∧ q'.elements = q.elements from
    ⟨unseeUpTo_frame h, hrest.1, hrest.2 ▸ List.suffix_rfl⟩
  unfold unseeUpTo at h
  split at h
  · cases h
  · rename_i elem rest hdrop
    dsimp only at h
    split at h
    · cases h
      refine ⟨rfl, ?_⟩
      have hq : q.queue = (q.queue.takeWhile fun el => el.id ≠ id) ++ elem :: rest := by
        rw [← hdrop, List.takeWhile_append_dropWhile]
      unfold elements
      conv_rhs => rw [hq]
      simp
    · cases h

theorem consumerFree_trimmed (h : q.consumerFree c x = .ok q') :
    ∃ q₁, q' = q₁.setConsumer c none ∧ Trimmed { q with consumers := q.consumers - 1 } q₁ := by
  unfold consumerFree at h
  split at h
  · cases h
  · simp only [bind, Except.bind] at h
    split at h
    · cases h
    · rename_i v hunref
      obtain ⟨q₁, x₁⟩ := v
      obtain ⟨hframe, hserial, helem⟩ := consumerElemUnref_trimmed hunref
      have htrim : Trimmed { q with consumers := q.consumers - 1 }
          { q₁ with consumers := q₁.consumers - 1 } :=
        ⟨⟨hframe.registered, congrArg (· - 1) hframe.consumers, hframe.stopped, hframe.queueSerial,
          hframe.nextId⟩, hserial, helem⟩
      dsimp only at h
      split at h
      · split at h
        · cases h
          exact ⟨_, rfl, htrim⟩
        · cases h
          exact ⟨_, rfl, htrim.trans ⟨⟨rfl, rfl, rfl, rfl, rfl⟩, rfl, List.nil_suffix⟩⟩
      · split at h
        · split at h
          · cases h
          · rename_i hunsee
            cases h
            exact ⟨_, rfl, htrim.trans (unseeUpTo_trimmed hunsee)⟩
        · cases h
        · cases h
          exact ⟨_, rfl, htrim⟩

theorem consumerMove_goes {b : Bool} (hrun : q.stopped = false)
    (h : q.consumerMove c x = .ok (q', b)) :
    ∃ q₁ next, Goes q x next q₁ ∧ q' = q₁.setConsumer c (some ⟨q₁.queueSerial, next, next⟩) := by
  simp only [consumerMove, hrun, Bool.false_eq_true, if_false, bind, Except.bind] at h
  split at h
  · cases h
  · rename_i v hmove
    cases h
    unfold consumerMoveInternal at hmove
    simp only [bind, Except.bind] at hmove
    split at hmove
    · cases hmove
    · rename_i hnext
      cases hmove
      exact ⟨_, _, expectedNext_goes hnext, rfl⟩

theorem consumerGet_goes {r : Option α} (hrun : q.stopped = false)
    (h : q.consumerGet c x = .ok (q', r)) :
    (q' = q ∧ x.queueSerial = q.queueSerial ∧ x.currentElementObject ≠ none) ∨
      ∃ q₁ next, Goes q x next q₁ ∧ q' = q₁.setConsumer c (some ⟨q₁.queueSerial, next, next⟩) := by
  simp only [consumerGet, hrun, Bool.false_eq_true, if_false, bind, Except.bind] at h
  split at h
  · split at h
    · cases h
    · rename_i v hmove
      unfold consumerMoveInternal at hmove
      simp only [bind, Except.bind] at hmove
      split at hmove
      · cases hmove
      · rename_i hnext
        cases hmove
        refine .inr ⟨_, _, expectedNext_goes hnext, ?_⟩
        split at h
        · split at h
          · cases h
          · cases h
            rfl
        · cases h
          rfl
  · rename_i hstay
    push Not at hstay
    split at h
    · cases h
    · cases h
      exact .inl ⟨rfl, hstay⟩

/-! ## What holds in every run -/

/-- The queued elements have the last numbers and the last serials. -/
structure Stamps (q : BufferQueue α) (puts : List α) : Prop extends Numbered q puts where
  length_le_serial : q.queue.length ≤ q.nextSerial
  serial_le : q.nextSerial ≤ q.nextId
  serial_lt : q.nextSerial < gulongSize
  serial : ∀ el ∈ q.queue, el.id + q.nextSerial = el.serial + q.nextId

/-- The element of a consumer was put before, and the consumer has moved past those before it. -/
def Behind (q : BufferQueue α) (left : List Nat) (x : BufferQueueConsumer) : Prop :=
  ∀ id, x.currentElementObject = some id →
    id < q.nextId ∧ (q.oldest ≤ id → ∀ i, q.oldest ≤ i → i < id → i ∈ left)

structure Stamped (s : Traced α) : Prop extends Registered s where
  stamps : Stamps s.queue s.history.puts
  behind : ∀ c x, s.queue.consumer c = some x → Behind s.queue (s.history.left c) x

theorem Trimmed.mem (h : Trimmed q q') {el : BufferQueueElement α} (hel : el ∈ q'.queue) :
    ∃ el₀ ∈ q.queue, el₀.id = el.id ∧ el₀.payload = el.payload ∧ el₀.serial = el.serial := by
  have hmem : { el with seen := 0 } ∈ q.elements :=
    h.elements.subset (List.mem_map_of_mem (f := fun el => { el with seen := 0 }) hel)
  obtain ⟨el₀, hel₀, heq⟩ := List.mem_map.1 hmem
  exact ⟨el₀, hel₀, congrArg (·.id) heq, congrArg (·.payload) heq, congrArg (·.serial) heq⟩

theorem length_elements (q : BufferQueue α) : q.elements.length = q.queue.length := List.length_map _

theorem Trimmed.length_le (h : Trimmed q q') : q'.queue.length ≤ q.queue.length := by
  rw [← length_elements, ← length_elements]
  exact h.elements.length_le

theorem Trimmed.oldest_le (h : Trimmed q q') : q.oldest ≤ q'.oldest := by
  have := h.length_le
  have := h.nextId
  unfold oldest
  omega

theorem Trimmed.numbered {puts : List α} (h : Trimmed q q') (hn : Numbered q puts) :
    Numbered q' puts := by
  have hlen := h.length_le
  have hnext := h.nextId
  refine ⟨by rw [hnext]; exact hlen.trans hn.length_le, ?_, fun el hel => ?_⟩
  · have hids (r : BufferQueue α) : r.queue.map (·.id) = r.elements.map (·.id) := by
      unfold BufferQueue.elements
      rw [List.map_map]
      rfl
    have hadd := hn.oldest_add
    rw [hids, List.suffix_iff_eq_drop.1 h.elements, List.map_drop, ← hids, hn.ids, List.drop_range',
      length_elements, length_elements]
    unfold oldest
    congr 1 <;> omega
  · obtain ⟨el₀, hel₀, hid, hpay, -⟩ := h.mem hel
    rw [← hid, ← hpay]
    exact hn.payload el₀ hel₀

theorem Trimmed.stamps {puts : List α} (h : Trimmed q q') (hs : Stamps q puts) :
    Stamps q' puts where
  toNumbered := h.numbered hs.toNumbered
  length_le_serial := by
    rw [h.nextSerial]
    exact h.length_le.trans hs.length_le_serial
  serial_le := by
    rw [h.nextSerial, h.nextId]
    exact hs.serial_le
  serial_lt := by
    rw [h.nextSerial]
    exact hs.serial_lt
  serial := by
    intro el hel
    obtain ⟨el₀, hel₀, hid, -, hser⟩ := h.mem hel
    rw [h.nextSerial, h.nextId, ← hid, ← hser]
    exact hs.serial el₀ hel₀

theorem Trimmed.behind {left : List Nat} (h : Trimmed q q') (hb : Behind q left x) :
    Behind q' left x := by
  intro id hid
  obtain ⟨hlt, hpast⟩ := hb id hid
  have hold := h.oldest_le
  rw [h.nextId]
  exact ⟨hlt, fun ho i hi hlt => hpast (by omega) i (by omega) hlt⟩

/-- The consumer `c` takes a place, after elements may have gone. -/
theorem Stamped.setConsumer {history : History α} (hs : Stamped s) (hc : s.queue.consumer c = some x)
    (htrim : Trimmed s.queue q₁) (hy : y.currentElementPointer = y.currentElementObject)
    (hputs : history.puts = s.history.puts)
    (hleft : ∀ d, d ≠ c → history.left d = s.history.left d)
    (hbehind : Behind q₁ (history.left c) y) : Stamped ⟨q₁.setConsumer c (some y), history⟩ := by
  have hc' : q₁.consumer c = some x := (consumer_congr htrim.registered).trans hc
  refine ⟨hs.toRegistered.setConsumer hc htrim.toFrame hy hputs, ?_, fun d z hd => ?_⟩
  · rw [hputs]
    obtain ⟨hn, hlen, hle, hlt, hser⟩ := htrim.stamps hs.stamps
    exact ⟨⟨hn.length_le, hn.ids, hn.payload⟩, hlen, hle, hlt, hser⟩
  · by_cases hdc : d = c
    · subst hdc
      cases (consumer_setConsumer_self hc').symm.trans hd
      exact hbehind
    · rw [hleft d hdc]
      have hd' : s.queue.consumer d = some z :=
        (consumer_congr htrim.registered).symm.trans ((consumer_setConsumer_ne hdc).symm.trans hd)
      exact htrim.behind (hs.behind d z hd')

theorem head_behind {puts : List α} {left : List Nat} (hn : Numbered q puts)
    (hx : x.currentElementObject = q.head) : Behind q left x := by
  intro id hid
  rw [hx, head_eq hn] at hid
  unfold Readers.entryAt at hid
  split at hid
  · cases hid
    exact ⟨by assumption, fun _ i hi hlt => by omega⟩
  · cases hid

/-- The node behind the node `id`. -/
theorem nextOf_ok {puts : List α} {next : Option Nat} (hn : Numbered q puts)
    (h : q.nextOf id = .ok next) :
    q.oldest ≤ id ∧ id < q.nextId ∧ next = Readers.entryAt q.nextId (id + 1) := by
  have hmem : ∃ el ∈ q.queue, el.id = id := by
    by_contra hno
    push Not at hno
    have hall : q.queue.dropWhile (fun el => el.id ≠ id) = [] := by
      rw [List.dropWhile_eq_nil_iff]
      exact fun el hel => decide_eq_true (hno el hel)
    unfold nextOf at h
    rw [hall] at h
    cases h
  obtain ⟨hlo, hhi⟩ := hn.mem_queue.1 hmem
  rw [nextOf_eq hn hlo hhi] at h
  cases h
  exact ⟨hlo, hhi, rfl⟩

theorem Goes.trimmed {next : Option Nat} (h : Goes q x next q') : Trimmed q q' := by
  cases h with
  | head => exact .refl q
  | next _ _ _ htrim => exact htrim

/-- What the consumer has moved past, once it has gone on. -/
theorem Stamped.goes {next : Option Nat} (hs : Stamped s) (hc : s.queue.consumer c = some x)
    (hgo : Goes s.queue x next q₁) (hq : q' = q₁.setConsumer c (some ⟨q₁.queueSerial, next, next⟩)) :
    Stamped ⟨q', s.history.after s.queue (.move c) q'⟩ := by
  subst hq
  have htrim := hgo.trimmed
  have hnum := htrim.numbered hs.stamps.toNumbered
  refine hs.setConsumer hc htrim rfl rfl (fun d hd => Function.update_of_ne hd ..) ?_
  cases hgo with
  | head => exact head_behind hnum rfl
  | next hptr hser hnext htrim' =>
    rename_i id
    have hobj : x.currentElementObject = some id := (hs.pointer c x hc).symm.trans hptr
    obtain ⟨hlo, hhi, rfl⟩ := nextOf_ok hs.stamps.toNumbered hnext
    have hst : Stands s c x id := ⟨hc, hser.symm, hobj⟩
    have hc' : q₁.consumer c = some x := (consumer_congr htrim.registered).trans hc
    intro i hi
    dsimp only [History.after] at hi ⊢
    rw [Function.update_self, leftAfter_of_stands hst (consumer_setConsumer_self hc')
      (by exact entryAt_succ_ne)]
    unfold Readers.entryAt at hi
    split at hi
    · rename_i hlt
      cases hi
      have hold := htrim.oldest_le
      refine ⟨by rw [htrim.nextId]; exact hlt, fun _ j hj hjlt => ?_⟩
      -- What is before the next element is the one that is left now, or was behind already.
      by_cases hjid : j = id
      · exact hjid ▸ List.mem_append_right _ (List.mem_singleton_self _)
      · exact List.mem_append_left _ ((hs.behind c x hc id hobj).2 hlo j (by omega) (by omega))
    · cases hi

theorem Behind.put {left : List Nat} {payload : α} (hb : Behind q left x) :
    Behind (q.push payload) left x := by
  intro id hid
  obtain ⟨hlt, hpast⟩ := hb id hid
  rw [push_oldest]
  exact ⟨Nat.lt_succ_of_lt hlt, hpast⟩

theorem Stamps.put {puts : List α} {payload : α} (hs : Stamps q puts)
    (hputs : puts.length = q.nextId) (hlt : q.nextSerial + 1 < gulongSize) :
    Stamps (q.push payload) (puts ++ [payload]) := by
  have hadd := hs.oldest_add
  have hser : (q.push payload).nextSerial = q.nextSerial + 1 := Nat.mod_eq_of_lt hlt
  refine ⟨⟨?_, ?_, fun el hel => ?_⟩, ?_, ?_, ?_, fun el hel => ?_⟩
  · simpa [push] using hs.length_le
  · rw [push_oldest]
    simp only [push, List.map_append, List.map_cons, List.map_nil, List.length_append,
      List.length_singleton]
    rw [hs.ids, List.range'_concat, Nat.one_mul, hadd]
  · rcases List.mem_append.1 hel with hel | hel
    · rw [List.getElem?_append_left, hs.payload el hel]
      rw [hputs]
      exact (hs.id_lt hel).2
    · cases List.mem_singleton.1 hel
      rw [← hputs, List.getElem?_concat_length]
  · rw [hser]
    simpa [push] using hs.length_le_serial
  · rw [hser]
    exact Nat.succ_le_succ hs.serial_le
  · rw [hser]
    exact hlt
  · rw [hser]
    show el.id + (q.nextSerial + 1) = el.serial + (q.nextId + 1)
    rcases List.mem_append.1 hel with hel | hel
    · have := hs.serial el hel
      omega
    · cases List.mem_singleton.1 hel
      dsimp only
      omega

theorem Stamped.put {payload : α} (hs : Stamped s)
    (h : s.queue.producerPut payload = .ok q') :
    Stamps q' (s.history.puts ++ [payload]) ∧
      ∀ c x, q'.consumer c = some x → Behind q' (s.history.left c) x := by
  unfold producerPut at h
  rw [if_neg (by simp [hs.running])] at h
  split at h
  · cases h
  · rename_i hover
    have hlt : s.queue.nextSerial + 1 < gulongSize := by
      have := hs.stamps.serial_lt
      refine Nat.lt_of_le_of_ne this fun heq => hover ?_
      rw [heq, Nat.mod_self]
    cases h
    exact ⟨hs.stamps.put hs.puts_length hlt, fun c x hc => (hs.behind c x hc).put⟩

theorem Stamped.reset (hs : Stamped s) (h : s.queue.producerResetQueue = .ok q') :
    Stamps q' s.history.puts ∧ ∀ c x, q'.consumer c = some x → Behind q' [] x := by
  rw [producerResetQueue_eq hs.running] at h
  cases h
  refine ⟨⟨⟨Nat.zero_le _, rfl, fun el hel => by cases hel⟩, Nat.zero_le _, Nat.zero_le _,
    Nat.two_pow_pos 64, fun el hel => by cases hel⟩, fun c x hc id hid => ?_⟩
  obtain ⟨hlt, -⟩ := hs.behind c x hc id hid
  exact ⟨hlt, fun hle => absurd hlt (Nat.not_lt.2 hle)⟩

theorem Stamped.join (hs : Stamped s) (h : s.queue.consumerNew = .ok q') :
    Stamps q' s.history.puts ∧ ∀ c x, q'.consumer c = some x →
      Behind q' (Function.update s.history.left s.queue.registered.length [] c) x := by
  rcases consumerNew_cases hs.running with herr | ⟨-, hok⟩
  · cases herr.symm.trans h
  · cases hok.symm.trans h
    obtain ⟨hn, hlen, hle, hlt, hser⟩ := hs.stamps
    refine ⟨⟨⟨hn.length_le, hn.ids, hn.payload⟩, hlen, hle, hlt, hser⟩, fun d y hd => ?_⟩
    by_cases hnew : d = s.queue.registered.length
    · subst hnew
      cases consumer_join_self.symm.trans hd
      exact fun id hid => by cases hid
    · rw [Function.update_of_ne hnew]
      exact hs.behind d y ((consumer_join_ne hnew).symm.trans hd)

theorem Stamped.free (hs : Stamped s) (hc : s.queue.consumer c = some x)
    (h : s.queue.consumerFree c x = .ok q') :
    Stamps q' s.history.puts ∧
      ∀ d y, q'.consumer d = some y → Behind q' (s.history.left d) y := by
  obtain ⟨q₁, rfl, htrim⟩ := consumerFree_trimmed h
  have hstamps : Stamps q₁ s.history.puts := by
    obtain ⟨hn, hlen, hle, hlt, hser⟩ := hs.stamps
    exact htrim.stamps ⟨⟨hn.length_le, hn.ids, hn.payload⟩, hlen, hle, hlt, hser⟩
  have hc' : q₁.consumer c = some x :=
    (consumer_congr (q := s.queue) htrim.registered).trans hc
  constructor
  · obtain ⟨hn, hlen, hle, hlt, hser⟩ := hstamps
    exact ⟨⟨hn.length_le, hn.ids, hn.payload⟩, hlen, hle, hlt, hser⟩
  · intro d y hd
    by_cases hdc : d = c
    · subst hdc
      cases (consumer_setConsumer_self hc').symm.trans hd
    · have hd' : s.queue.consumer d = some y :=
        (consumer_congr (q := s.queue) htrim.registered).symm.trans
          ((consumer_setConsumer_ne hdc).symm.trans hd)
      exact htrim.behind (hs.behind d y hd')

/-- Each step keeps the invariant, whatever the consumers do. -/
theorem stamped_bqStep {e : BqEvent α} (hs : Stamped s) (h : bqStep s e = some s') :
    Stamped s' := by
  have hreg := registered_bqStep hs.toRegistered h
  have hop := operate_of_bqStep h
  have hs' : s' = ⟨s'.queue, s.history.after s.queue e s'.queue⟩ := by
    simp only [bqStep, hop, Option.some.injEq] at h
    exact h.symm
  rw [hs'] at hreg ⊢
  cases e with
  | newConsumer =>
    obtain ⟨hstamps, hbehind⟩ := hs.join (Option.some.inj hop)
    exact ⟨hreg, hstamps, hbehind⟩
  | put payload =>
    obtain ⟨hstamps, hbehind⟩ := hs.put (Option.some.inj hop)
    exact ⟨hreg, hstamps, hbehind⟩
  | resetQueue =>
    obtain ⟨hstamps, hbehind⟩ := hs.reset (Option.some.inj hop)
    exact ⟨hreg, hstamps, hbehind⟩
  | freeConsumer c =>
    obtain ⟨x, hc, hfree⟩ := Option.map_eq_some_iff.1 hop
    obtain ⟨hstamps, hbehind⟩ := hs.free hc hfree
    exact ⟨hreg, hstamps, hbehind⟩
  | get c =>
    obtain ⟨x, hc, hget⟩ := Option.map_eq_some_iff.1 hop
    cases hr : s.queue.consumerGet c x with
    | error fault =>
      rw [hr] at hget
      cases hget
    | ok v =>
      rw [hr] at hget
      have hq : v.1 = s'.queue := Except.ok.inj hget
      rcases consumerGet_goes hs.running hr with ⟨hsame, -, hobj⟩ | ⟨q₁, next, hgo, hgone⟩
      · -- The consumer stays where it is.
        obtain ⟨id, hid⟩ := Option.ne_none_iff_exists'.1 hobj
        have hleft : leftAfter s.queue s.queue c (s.history.left c) = s.history.left c := by
          simp [leftAfter, hc, hid]
        rw [← hq, hsame]
        show Stamped ⟨s.queue, { s.history with left := Function.update s.history.left c _ }⟩
        rw [hleft, Function.update_eq_self]
        exact hs
      · exact hs.goes hc hgo (hq.symm.trans hgone)
  | move c =>
    obtain ⟨x, hc, hmove⟩ := Option.map_eq_some_iff.1 hop
    cases hr : s.queue.consumerMove c x with
    | error fault =>
      rw [hr] at hmove
      cases hmove
    | ok v =>
      rw [hr] at hmove
      have hq : v.1 = s'.queue := Except.ok.inj hmove
      obtain ⟨q₁, next, hgo, hgone⟩ := consumerMove_goes hs.running hr
      exact hs.goes hc hgo (hq.symm.trans hgone)

theorem stamped_producerNew : Stamped (⟨producerNew, {}⟩ : Traced α) := by
  have hs := (sound_producerNew (α := α)).1
  refine ⟨hs.toRegistered, ⟨hs.numbered, Nat.le_refl _, Nat.le_refl _, Nat.two_pow_pos 64,
    fun el hel => by cases hel⟩, fun c x hc => by cases hc⟩

theorem stamped_exec {es : List (BqEvent α)} (h : Run.exec bqStep ⟨producerNew, {}⟩ es = some s) :
    Stamped s :=
  Run.exec_inv (fun _ _ _ hs h => stamped_bqStep hs h) h stamped_producerNew

/-! ## Counting -/

/-- The elements of the current queue that the consumer has not moved past. -/
def waiting (s : Traced α) (c : Nat) : List (BufferQueueElement α) :=
  s.queue.queue.filter fun el => el.id ∉ s.history.left c

/-- No element of the current queue has been freed, and the consumer has moved past none. -/
structure Untouched (s : Traced α) (c : Nat) : Prop where
  length_eq : s.queue.queue.length = s.queue.nextSerial
  unpassed : ∀ el ∈ s.queue.queue, el.id ∉ s.history.left c

/-- The consumer is at a queued element, and it has moved past none from there on: it did not come back
to the head. Above `2 ^ 63`, the signed comparison of the serials asks for more. -/
structure AtUnpassed (s : Traced α) (c id : Nat) : Prop where
  queued : ∃ el ∈ s.queue.queue, el.id = id ∧ (2 ^ 63 ≤ s.queue.nextSerial → 2 ^ 63 ≤ el.serial)
  unpassed : ∀ el ∈ s.queue.queue, id ≤ el.id → el.id ∉ s.history.left c

/-- When the serials count what waits: the consumer is at an element that it has not been at before;
or it is at the end of an empty queue; or nothing has gone from the queue yet, for any consumer. -/
def CountsWaiting (s : Traced α) (c : Nat) (x : BufferQueueConsumer) : Prop :=
  if x.queueSerial = s.queue.queueSerial then
    match x.currentElementObject with
    | some id => AtUnpassed s c id
    | none => s.queue.queue = [] ∨ Untouched s c
  else Untouched s c

theorem length_waiting (s : Traced α) (c : Nat) : (waiting s c).length =
    ((s.queue.queue.map (·.id)).filter fun i => i ∉ s.history.left c).length := by
  rw [List.filter_map, List.length_map]
  rfl

theorem gint64_lt {k n : Nat} (hkn : k < n) (hn : n < gulongSize) :
    gint64 k < gint64 n ↔ (2 ^ 63 ≤ n → 2 ^ 63 ≤ k) := by
  have hsize : gulongSize = 18446744073709551616 := rfl
  unfold gint64
  rw [hsize] at hn ⊢
  have hcast : ((18446744073709551616 : Nat) : Int) = 18446744073709551616 := rfl
  rw [Int.bmod_def, Int.bmod_def, hcast, Int.emod_eq_of_lt (by omega) (by omega),
    Int.emod_eq_of_lt (by omega) (by omega)]
  split <;> split <;> omega

theorem length_waiting_le (s : Traced α) (c : Nat) : (waiting s c).length ≤ s.queue.queue.length :=
  List.length_filter_le ..

theorem Stamped.untouched_iff (hs : Stamped s) :
    s.queue.nextSerial = (waiting s c).length ↔ Untouched s c := by
  have hle := length_waiting_le s c
  have hserial := hs.stamps.length_le_serial
  constructor
  · intro heq
    have hall : (waiting s c).length = s.queue.queue.length := by omega
    refine ⟨by omega, fun el hel => ?_⟩
    exact of_decide_eq_true (List.length_filter_eq_length_iff.1 hall el hel)
  · intro h
    rw [← h.length_eq]
    exact (List.length_filter_eq_length_iff.2 fun el hel => decide_eq_true (h.unpassed el hel)).symm

/-- At a queued element, what waits is counted if none of it has been moved past. -/
theorem Stamped.length_waiting_iff (hs : Stamped s) (hc : s.queue.consumer c = some x)
    (hid : x.currentElementObject = some id) (hlo : s.queue.oldest ≤ id) (hhi : id < s.queue.nextId) :
    (waiting s c).length = s.queue.nextId - id ↔
      ∀ el ∈ s.queue.queue, id ≤ el.id → el.id ∉ s.history.left c := by
  have hn := hs.stamps.toNumbered
  have hadd := hn.oldest_add
  have hpast := (hs.behind c x hc id hid).2 hlo
  have hsplit := List.range'_append_1 (s := s.queue.oldest) (m := id - s.queue.oldest)
    (n := s.queue.nextId - id)
  rw [Nat.add_sub_of_le hlo, show id - s.queue.oldest + (s.queue.nextId - id) = s.queue.queue.length by
    omega] at hsplit
  have hgone : (List.range' s.queue.oldest (id - s.queue.oldest)).filter
      (fun i => i ∉ s.history.left c) = [] := by
    rw [List.filter_eq_nil_iff]
    intro i hi
    rw [List.mem_range'_1] at hi
    simpa using hpast i hi.1 (by omega)
  have hcount : (waiting s c).length = s.queue.nextId - id ↔
      ∀ i ∈ List.range' id (s.queue.nextId - id), i ∉ s.history.left c := by
    rw [length_waiting, hn.ids, ← hsplit, List.filter_append, hgone, List.nil_append]
    have hall := List.length_filter_eq_length_iff (p := fun i => decide (i ∉ s.history.left c))
      (l := List.range' id (s.queue.nextId - id))
    rw [List.length_range'] at hall
    simpa using hall
  rw [hcount]
  constructor
  · intro h el hel hle
    obtain ⟨-, hlt⟩ := hn.id_lt hel
    exact h el.id (List.mem_range'_1.2 ⟨hle, by omega⟩)
  · intro h i hi
    rw [List.mem_range'_1] at hi
    obtain ⟨el, hel, rfl⟩ := hn.mem_queue.2 ⟨hlo.trans hi.1, show i < s.queue.nextId by omega⟩
    exact h el hel hi.1

/-- The element of a queued number. -/
theorem Stamped.element (hs : Stamped s) (hlo : s.queue.oldest ≤ id) (hhi : id < s.queue.nextId) :
    ∃ el ∈ s.queue.queue, el.id = id ∧ s.queue.element id = some el := by
  obtain ⟨before, el, after, hq, rfl, hbefore, -⟩ := hs.stamps.toNumbered.split hlo hhi
  exact ⟨el, by simp [hq], rfl, element_eq hq hbefore⟩

theorem element_eq_none (h : ¬ ∃ el ∈ q.queue, el.id = id) : q.element id = none := by
  unfold element
  rw [List.find?_eq_none]
  intro el hel
  simpa using fun heq => h ⟨el, hel, heq⟩

theorem consumerUnseen_freed (hrun : q.stopped = false) (hser : x.queueSerial = q.queueSerial)
    (hid : x.currentElementObject = some id) (h : q.element id = none) :
    q.consumerUnseen x = none := by
  unfold consumerUnseen
  rw [if_neg (by simp [hrun]), if_neg (not_not.2 hser), hid]
  dsimp only
  rw [h]

theorem consumerUnseen_at {el : BufferQueueElement α} (hrun : q.stopped = false)
    (hser : x.queueSerial = q.queueSerial) (hid : x.currentElementObject = some id)
    (h : q.element id = some el) : q.consumerUnseen x =
      if gint64 el.serial < gint64 q.nextSerial then some (q.nextSerial - el.serial) else none := by
  unfold consumerUnseen
  rw [if_neg (by simp [hrun]), if_neg (not_not.2 hser), hid]
  dsimp only
  rw [h]

/-- At an element of the current queue. -/
theorem Stamped.unseen_current (hs : Stamped s) (hc : s.queue.consumer c = some x)
    (hser : x.queueSerial = s.queue.queueSerial) (hid : x.currentElementObject = some id) :
    s.queue.consumerUnseen x = some (waiting s c).length ↔ AtUnpassed s c id := by
  by_cases hin : ∃ el ∈ s.queue.queue, el.id = id
  · obtain ⟨hlo, hhi⟩ := hs.stamps.toNumbered.mem_queue.1 hin
    obtain ⟨el, hel, hel_id, helem⟩ := hs.element hlo hhi
    have hserial := hs.stamps.serial el hel
    have hle := hs.stamps.serial_le
    have hlt : el.serial < s.queue.nextSerial := by omega
    have hcount : s.queue.nextSerial - el.serial = s.queue.nextId - id := by omega
    have hwait := hs.length_waiting_iff hc hid hlo hhi
    rw [consumerUnseen_at hs.running hser hid helem, hcount]
    constructor
    · intro h
      split at h
      · rename_i hless
        refine ⟨⟨el, hel, hel_id, (gint64_lt hlt hs.stamps.serial_lt).1 hless⟩, hwait.1 ?_⟩
        exact (Option.some.inj h).symm
      · cases h
    · rintro ⟨⟨el', hel', hid', hhalf⟩, hunpassed⟩
      have hserial' := hs.stamps.serial el' hel'
      rw [show el'.serial = el.serial by omega] at hhalf
      rw [if_pos ((gint64_lt hlt hs.stamps.serial_lt).2 hhalf), hwait.2 hunpassed]
  · rw [consumerUnseen_freed hs.running hser hid (element_eq_none hin)]
    refine ⟨fun h => (by cases h), fun h => ?_⟩
    obtain ⟨el, hel, hel_id, -⟩ := h.queued
    exact absurd ⟨el, hel, hel_id⟩ hin

theorem head_eq_none_iff : q.head = none ↔ q.queue = [] := by
  unfold head
  rw [Option.map_eq_none_iff, List.head?_eq_none_iff]

theorem Stamped.unseen_iff (hs : Stamped s) (hc : s.queue.consumer c = some x) :
    s.queue.consumerUnseen x = some (waiting s c).length ↔ CountsWaiting s c x := by
  unfold CountsWaiting
  by_cases hser : x.queueSerial = s.queue.queueSerial
  case neg =>
    rw [if_neg hser, ← hs.untouched_iff]
    unfold consumerUnseen
    rw [if_neg (by simp [hs.running]), if_pos hser, Option.some_inj]
  rw [if_pos hser]
  cases hobj : x.currentElementObject with
  | some id => exact hs.unseen_current hc hser hobj
  | none =>
    dsimp only
    unfold consumerUnseen
    rw [if_neg (by simp [hs.running]), if_neg (not_not.2 hser), hobj]
    dsimp only
    by_cases hempty : s.queue.queue = []
    · rw [if_pos (head_eq_none_iff.2 hempty)]
      refine iff_of_true ?_ (.inl hempty)
      unfold waiting
      rw [hempty]
      rfl
    · rw [if_neg fun h => hempty (head_eq_none_iff.1 h), Option.some_inj, hs.untouched_iff]
      exact ⟨.inr, fun h => h.resolve_left hempty⟩

/-! ## Filling -/

/-- The loop puts elements; it ends with `full` if what the serials count is enough. -/
theorem fill_end {n : Nat} {e : FillEnd} {rounds : List (FillRound α)}
    (h : fill n c s rounds = some (t, e)) (hread : e ≠ .readFailed) :
    (∃ es, Run.exec bqStep s es = some t) ∧ ∃ y k, t.queue.consumer c = some y ∧
      t.queue.consumerUnseen y = some k ∧ (e = .full ↔ n ≤ k) := by
  induction rounds generalizing s with
  | nil =>
    unfold fill at h
    obtain ⟨y, hy, h⟩ := Option.bind_eq_some_iff.1 h
    obtain ⟨k, hk, h⟩ := Option.bind_eq_some_iff.1 h
    split at h
    · rename_i hlt
      cases h
      exact ⟨⟨[], rfl⟩, y, k, hy, hk, iff_of_false (by decide) (Nat.not_le.2 hlt)⟩
    · rename_i hge
      cases h
      exact ⟨⟨[], rfl⟩, y, k, hy, hk, iff_of_true rfl (Nat.le_of_not_lt hge)⟩
  | cons round rounds ih =>
    unfold fill at h
    obtain ⟨y, hy, h⟩ := Option.bind_eq_some_iff.1 h
    obtain ⟨k, hk, h⟩ := Option.bind_eq_some_iff.1 h
    split at h
    · rename_i hlt
      dsimp only at h
      split at h
      · cases h
        exact ⟨⟨[], rfl⟩, y, k, hy, hk, iff_of_false (by decide) (Nat.not_le.2 hlt)⟩
      · split at h
        · cases h
          exact ⟨⟨[], rfl⟩, y, k, hy, hk, iff_of_false (by decide) (Nat.not_le.2 hlt)⟩
        · obtain ⟨s₁, hput, h⟩ := Option.bind_eq_some_iff.1 h
          split at h
          · cases h
            exact absurd rfl hread
          · obtain ⟨⟨es, hes⟩, hend⟩ := ih h
            refine ⟨⟨round.puts.map .put ++ es, ?_⟩, hend⟩
            unfold putAll at hput
            rw [Run.exec_append, hput]
            exact hes
    · rename_i hge
      cases h
      exact ⟨⟨[], rfl⟩, y, k, hy, hk, iff_of_true rfl (Nat.le_of_not_lt hge)⟩

/-- In every state of every run, `bq_consumer_unseen` tells how many elements wait for the consumer if
and only if `CountsWaiting`; a fill loop that gets to such a state stops there for that reason if and only
if enough elements wait. -/
theorem consumerUnseen_iff {es : List (BqEvent α)}
    (hrun : Run.exec bqStep ⟨producerNew, {}⟩ es = some s) (hc : s.queue.consumer c = some x) :
    (s.queue.consumerUnseen x = some (waiting s c).length ↔ CountsWaiting s c x) ∧
    ∀ n rounds t e y, fill n c s rounds = some (t, e) → e ≠ .readFailed →
      t.queue.consumer c = some y → CountsWaiting t c y →
      (e = .full ↔ n ≤ (waiting t c).length) := by
  refine ⟨(stamped_exec hrun).unseen_iff hc, fun n rounds t e y hfill hread hy hcounts => ?_⟩
  obtain ⟨⟨more, hmore⟩, z, k, hz, hk, hfull⟩ := fill_end hfill hread
  cases hy.symm.trans hz
  have hrun' : Run.exec bqStep ⟨producerNew, {}⟩ (es ++ more) = some t := by
    rw [Run.exec_append, hrun]
    exact hmore
  have hcount := ((stamped_exec hrun').unseen_iff hy).2 hcounts
  cases hk.symm.trans hcount
  exact hfull

def getFirst : List (BqEvent Nat) := [.newConsumer, .put 7, .put 8, .get 0]

def afterGetFirst : Traced Nat :=
  (Run.exec bqStep ⟨producerNew, {}⟩ getFirst).getD ⟨producerNew, {}⟩

theorem consumerUnseen_getFirst :
    (afterGetFirst.queue.consumerUnseen ⟨1, some 0, some 0⟩ = some (waiting afterGetFirst 0).length ↔
      CountsWaiting afterGetFirst 0 ⟨1, some 0, some 0⟩) ∧
    ∀ n rounds t e y, fill n 0 afterGetFirst rounds = some (t, e) → e ≠ .readFailed →
      t.queue.consumer 0 = some y → CountsWaiting t 0 y → (e = .full ↔ n ≤ (waiting t 0).length) :=
  consumerUnseen_iff (show Run.exec bqStep ⟨producerNew, {}⟩ getFirst = some afterGetFirst from rfl)
    (by decide)

/-- One consumer takes an element, comes to the end, and another element is put. -/
def endAndPut : List (BqEvent Nat) := [.newConsumer, .put 7, .get 0, .move 0, .put 8]

/-- One element waits, and two are reported. -/
theorem unseen_not_waiting : ¬ ∀ es s, Run.exec bqStep (⟨producerNew, {}⟩ : Traced Nat) es = some s →
    ∀ c x, s.queue.consumer c = some x →
      s.queue.consumerUnseen x = some (waiting s c).length := by
  intro h
  have hcount := h endAndPut _ rfl 0 ⟨1, none, none⟩ (by decide)
  revert hcount
  decide

end BufferQueue

end StreamSwitch
