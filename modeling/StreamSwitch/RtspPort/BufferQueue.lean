import Mathlib.Algebra.GroupWithZero.Nat
import StreamSwitch.Lib.Run

/-!
# The buffer queue of the RTSP port

`bufferqueue.c`: one producer, any number of consumers, every operation atomic under
the lock of the producer. An element and the list node that holds it are known by
one number, `id`, in the order they were put; memory is not used again. An operation
that fails an assertion or follows a pointer to a freed node has no result but a
`Fault`. The positions of the consumers are not all in the state, so a `History`
goes along with a run.
-/

namespace StreamSwitch

/-- Values of a `gulong`. -/
def gulongSize : Nat := 2 ^ 64

structure BufferQueueElement (α : Type) where
  id : Nat
  payload : α
  seen : Nat
  serial : Nat
deriving DecidableEq, Repr

structure BufferQueueConsumer where
  queueSerial : Nat := 0
  currentElementPointer : Option Nat := none
  currentElementObject : Option Nat := none
deriving DecidableEq, Repr

/-- A producer and its consumers; a consumer is known by its position and gone when it is `none`.
`freed` are the elements given to the free function, the last one first. -/
structure BufferQueue (α : Type) where
  queue : List (BufferQueueElement α) := []
  nextSerial : Nat := 0
  queueSerial : Nat := 0
  consumers : Nat := 0
  stopped : Bool := false
  registered : List (Option BufferQueueConsumer) := []
  nextId : Nat := 0
  freed : List Nat := []
deriving DecidableEq, Repr

namespace BufferQueue

inductive Fault
  /-- A counter would overflow: the assertions of `bq_producer_put` and `bq_consumer_new`. -/
  | overflow
  /-- The producer is stopped. -/
  | stopped
  /-- `current_element_pointer == producer->queue->head` fails. -/
  | notHead
  /-- `elem->seen <= producer->consumers` fails. -/
  | seenTooOften
  /-- `producer->consumers > 0` fails. -/
  | noConsumer
  | useAfterFree
deriving DecidableEq, Repr

variable {α : Type}

/-- `bq_element_free_internal` for all elements, and `g_queue_clear`. -/
def clearQueue (q : BufferQueue α) : BufferQueue α :=
  { q with queue := [], freed := (q.queue.map (·.id)).reverse ++ q.freed }

def producerResetQueue (q : BufferQueue α) : Except Fault (BufferQueue α) :=
  if q.stopped then .error .stopped
  else .ok { q.clearQueue with
    queueSerial := (q.queueSerial + 1) % gulongSize
    nextSerial := 0 }

def producerPut (q : BufferQueue α) (payload : α) : Except Fault (BufferQueue α) :=
  if q.stopped then .error .stopped
  else if (q.nextSerial + 1) % gulongSize = 0 then .error .overflow
  else .ok { q with
    queue := q.queue ++ [⟨q.nextId, payload, 0, q.nextSerial⟩]
    nextSerial := (q.nextSerial + 1) % gulongSize
    nextId := q.nextId + 1 }

/-- The consumer is appended to the registered ones. -/
def consumerNew (q : BufferQueue α) : Except Fault (BufferQueue α) :=
  if q.stopped then .ok { q with registered := q.registered ++ [none] }
  else if q.consumers < gulongSize - 1 then
    .ok { q with consumers := q.consumers + 1, registered := q.registered ++ [some {}] }
  else .error .overflow

def head (q : BufferQueue α) : Option Nat := q.queue.head?.map (·.id)

def element (q : BufferQueue α) (id : Nat) : Option (BufferQueueElement α) :=
  q.queue.find? fun el => el.id = id

/-- The node behind the node `id`, which has to be in the queue. -/
def nextOf (q : BufferQueue α) (id : Nat) : Except Fault (Option Nat) :=
  match q.queue.dropWhile fun el => el.id ≠ id with
  | [] => .error .useAfterFree
  | _ :: rest => .ok (rest.head?.map (·.id))

def setSeen (q : BufferQueue α) (id seen : Nat) : BufferQueue α :=
  { q with queue := q.queue.map fun el => if el.id = id then { el with seen } else el }

def consumerElemUnref (q : BufferQueue α) (x : BufferQueueConsumer) :
    Except Fault (BufferQueue α × BufferQueueConsumer) :=
  match x.currentElementObject with
  | none => .ok (q, x)
  | some id =>
    if q.queueSerial ≠ x.queueSerial then .ok (q, x)
    else
      match q.element id with
      | none => .error .useAfterFree
      | some elem =>
        let seen := (elem.seen + 1) % gulongSize
        let q := q.setSeen id seen
        if seen < q.consumers then .ok (q, x)
        else if x.currentElementPointer ≠ q.head then .error .notHead
        else .ok ({ q with queue := q.queue.tail, freed := id :: q.freed },
          { x with currentElementObject := none })

/-- The element the consumer goes to, and the queue once it has left the current one. -/
def expectedNext (q : BufferQueue α) (x : BufferQueueConsumer) :
    Except Fault (Option Nat × BufferQueue α) :=
  match x.currentElementPointer with
  | none => .ok (q.head, q)
  | some id =>
    if q.queueSerial ≠ x.queueSerial then .ok (q.head, q)
    else do
      let next ← q.nextOf id
      let (q, _) ← q.consumerElemUnref x
      return (next, q)

def consumerMoveInternal (q : BufferQueue α) (x : BufferQueueConsumer) :
    Except Fault (BufferQueue α × BufferQueueConsumer × Bool) := do
  let (next, q) ← q.expectedNext x
  return (q, ⟨q.queueSerial, next, next⟩, next.isSome)

def setConsumer (q : BufferQueue α) (c : Nat) (x : Option BufferQueueConsumer) : BufferQueue α :=
  { q with registered := q.registered.set c x }

def consumerMove (q : BufferQueue α) (c : Nat) (x : BufferQueueConsumer) :
    Except Fault (BufferQueue α × Bool) :=
  if q.stopped then .ok (q, false)
  else do
    let (q, x, moved) ← q.consumerMoveInternal x
    return (q.setConsumer c (some x), moved)

/-- The payload of the current element. -/
def currentPayload (q : BufferQueue α) (x : BufferQueueConsumer) : Except Fault (Option α) :=
  match x.currentElementObject with
  | none => .ok none
  | some id =>
    match q.element id with
    | none => .error .useAfterFree
    | some elem => .ok (some elem.payload)

def consumerGet (q : BufferQueue α) (c : Nat) (x : BufferQueueConsumer) :
    Except Fault (BufferQueue α × Option α) :=
  if q.stopped then .ok (q, none)
  else if x.queueSerial ≠ q.queueSerial ∨ x.currentElementObject = none then do
    let (q, x, moved) ← q.consumerMoveInternal x
    let q := q.setConsumer c (some x)
    if moved then
      let payload ← q.currentPayload x
      return (q, payload)
    else return (q, none)
  else do
    let payload ← q.currentPayload x
    return (q, payload)

/-- The loop from the node `id` back to the head: all elements up to it were seen once less. -/
def unseeUpTo (q : BufferQueue α) (id : Nat) : Except Fault (BufferQueue α) :=
  match q.queue.dropWhile fun el => el.id ≠ id with
  | [] => .error .useAfterFree
  | elem :: rest =>
    let walked := q.queue.takeWhile (fun el => el.id ≠ id) ++ [elem]
    if walked.all fun el => el.seen ≤ q.consumers then
      .ok { q with
        queue := walked.map (fun el => { el with seen := (el.seen + (gulongSize - 1)) % gulongSize })
          ++ rest }
    else .error .seenTooOften

def consumerFree (q : BufferQueue α) (c : Nat) (x : BufferQueueConsumer) :
    Except Fault (BufferQueue α) :=
  if q.consumers = 0 then .error .noConsumer
  else do
    let (q, x) ← q.consumerElemUnref x
    let q := { q with consumers := q.consumers - 1 }
    let q ←
      if q.consumers = 0 then
        if q.stopped then pure q else pure q.clearQueue
      else
        match x.currentElementObject, x.currentElementPointer with
        | some _, some id => q.unseeUpTo id
        | some _, none => .error .useAfterFree
        | none, _ => pure q
    return q.setConsumer c none

inductive BqEvent (α : Type)
  | newConsumer
  | freeConsumer (c : Nat)
  | put (payload : α)
  | resetQueue
  | get (c : Nat)
  | move (c : Nat)
deriving DecidableEq, Repr

/-- The live consumer at a position. -/
def consumer (q : BufferQueue α) (c : Nat) : Option BufferQueueConsumer := q.registered[c]?.join

/-- An operation; a consumer that is gone takes part in none. -/
def operate (q : BufferQueue α) : BqEvent α → Option (Except Fault (BufferQueue α))
  | .newConsumer => some q.consumerNew
  | .freeConsumer c => (q.consumer c).map (q.consumerFree c)
  | .put payload => some (q.producerPut payload)
  | .resetQueue => some q.producerResetQueue
  | .get c => (q.consumer c).map fun x => (q.consumerGet c x).map (·.1)
  | .move c => (q.consumer c).map fun x => (q.consumerMove c x).map (·.1)

/-! ## Histories -/

/-- The payloads put so far, by `id`, and the elements of the current queue that each consumer has
moved past. -/
structure History (α : Type) where
  puts : List α := []
  left : Nat → List Nat := fun _ => []

/-- What a consumer has moved past after an operation of its own. -/
def leftAfter (q q' : BufferQueue α) (c : Nat) (left : List Nat) : List Nat :=
  match q.consumer c, q'.consumer c with
  | some x, some x' =>
    match x.currentElementObject with
    | some id =>
      if x.queueSerial = q.queueSerial ∧ x'.currentElementObject ≠ some id then left ++ [id]
      else left
    | none => left
  | _, _ => left

def History.after (h : History α) (q : BufferQueue α) (e : BqEvent α) (q' : BufferQueue α) :
    History α :=
  match e with
  | .newConsumer => { h with left := Function.update h.left q.registered.length [] }
  | .freeConsumer _ => h
  | .put payload => { h with puts := h.puts ++ [payload] }
  | .resetQueue => { h with left := fun _ => [] }
  | .get c | .move c => { h with left := Function.update h.left c (leftAfter q q' c (h.left c)) }

/-- A queue and its history. -/
structure Traced (α : Type) where
  queue : BufferQueue α
  history : History α := {}

/-- `none` also where the operation faults. -/
def bqStep (s : Traced α) (e : BqEvent α) : Option (Traced α) :=
  match s.queue.operate e with
  | some (.ok q') => some ⟨q', s.history.after s.queue e q'⟩
  | _ => none

end BufferQueue

end StreamSwitch
