import StreamSwitch.Lib.Tasks
import StreamSwitch.Sink.Metadata

/-!
# The worker thread of a stream sink

`Start`, `Stop` and the loop of `InternalRoutine` of `stsw_stream_sink.cc` as the
steps of threads: any number of `Start` and `Stop` calls, and the worker threads that
were created. A step is what a thread does from one access that another thread can
see to the next: taking `lock_` and the checks behind it, `pthread_create`, setting
STARTED, clearing it, `pthread_join`, and each evaluation of the loop condition.

`started_worker_loops`: in every run in which no worker evaluates its loop condition
between the `pthread_create` that made it and the setting of STARTED by the same
`Start`, a started sink has a worker that has not left its loop. `Start` creates the
thread before it sets the flag that the thread tests.
-/

namespace StreamSwitch

namespace StreamSink

/-- `Start` behind the lock, up to `pthread_create`: what it returns, or `none` to go on. -/
def startLocked (s : StreamSink) (subscriber : Option String) : Option Ret × StreamSink :=
  if s.isStarted then (some ⟨.ok, ""⟩, s)
  else if s.workerThread then
    (some ⟨.busy, "An other thread is stopping the receiver, try later"⟩, s)
  else
    let r := s.createSubscriberSocket { subscriber := subscriber }
    if r.1.code ≠ .ok then (some r.1, r.2)
    else
      (none, { r.2 with
        lastSendClientHeartbeatMsec := 0
        nextSendClientHeartbeatMsec := 0
        lastFrameSsrc := r.2.streamMeta.ssrc })

/-- `Start` when `pthread_create` failed. -/
def startFailed (s : StreamSink) (text : String) : Ret × StreamSink :=
  (⟨.system, s!"pthread_create failed:{text}"⟩, { s with subscriberSocket := false })

/-- What the locked part can do. -/
theorem startLocked_cases (s : StreamSink) (subscriber : Option String) :
    (∃ ret, s.startLocked subscriber = (some ret, s) ∧
      (ret.code = .ok → s.isStarted = true)) ∨
    (s.isStarted = false ∧ s.workerThread = false ∧
      ∃ s', s.startLocked subscriber = (none, s') ∧ s'.isStarted = false ∧
        s'.workerThread = false) := by
  unfold startLocked
  by_cases hs : s.isStarted = true
  · rw [if_pos hs]
    exact .inl ⟨_, rfl, fun _ => hs⟩
  · rw [if_neg hs]
    by_cases hw : s.workerThread = true
    · rw [if_pos hw]
      exact .inl ⟨_, rfl, fun h => by cases h⟩
    · rw [if_neg hw]
      have hs' := Bool.eq_false_iff.2 hs
      have hw' := Bool.eq_false_iff.2 hw
      rcases createSubscriberSocket_cases s { subscriber := subscriber } with
        ⟨h1, h2⟩ | ⟨h1, -, b, h2⟩
      · simp only
        rw [if_pos h1, h2]
        exact .inl ⟨_, rfl, fun h => absurd h h1⟩
      · simp only
        rw [if_neg (not_not.2 h1), h2]
        exact .inr ⟨hs', hw', _, rfl, hs', hw'⟩

theorem stopBegin_isStarted (s : StreamSink) : s.stopBegin.isStarted = false := by
  unfold stopBegin
  by_cases hs : s.isStarted = true
  · rw [if_neg (by simp [hs])]
    split <;> rfl
  · rw [if_pos (by simp [hs])]
    exact Bool.eq_false_iff.2 hs

theorem stopBegin_workerThread (s : StreamSink) : s.stopBegin.workerThread = s.workerThread := by
  unfold stopBegin
  repeat' split
  all_goals rfl

end StreamSink

/-! ## The system -/

/-- How far a `Start` or a `Stop` has come. -/
inductive SinkCall
  /-- `Start` waits for the lock. -/
  | starting
  /-- `Start` holds the lock and is about to create the worker thread. -/
  | creating
  /-- It created the thread `w`, and has not set STARTED. -/
  | created (w : Nat)
  | startReturned (ret : Ret)
  | stopping
  /-- `Stop` cleared STARTED, gave the lock back and waits for the thread `w`. -/
  | joining (w : Nat)
  | stopReturned
deriving DecidableEq

/-- A worker thread: about to evaluate the loop condition, in the body, or out of the loop. -/
inductive SinkWorker | loop | body | left
deriving DecidableEq

structure WorkerSystem where
  sink : StreamSink
  /-- `worker_thread_id_`, when not 0; the sink has `workerThread` accordingly. -/
  workerThreadId : Option Nat := none
  /-- The call that holds `lock_` between two steps. -/
  lock : Option Nat := none
  calls : List SinkCall := []
  workers : List SinkWorker := []

inductive WorkerEvent
  | start
  | stop
  /-- `Start` takes the lock; `subscriber` is the error of creating the socket. -/
  | lockStart (c : Nat) (subscriber : Option String)
  /-- `pthread_create`, with its error. -/
  | create (c : Nat) (thread : Option String)
  | setStarted (c : Nat)
  | lockStop (c : Nat)
  /-- `pthread_join` returns, and `Stop` takes the lock again. -/
  | join (c : Nat)
  /-- The worker evaluates its loop condition. -/
  | check (w : Nat)
  /-- It ends an iteration. -/
  | iterate (w : Nat)

namespace WorkerSystem

def goto (s : WorkerSystem) (c : Nat) (call : SinkCall) : WorkerSystem :=
  { s with calls := s.calls.set c call }

def step (s : WorkerSystem) : WorkerEvent → Option WorkerSystem
  | .start =>
    if !s.sink.isInit then
      some { s with calls := s.calls ++ [.startReturned ⟨.general, "Receiver not init"⟩] }
    else some { s with calls := s.calls ++ [.starting] }
  | .stop => some { s with calls := s.calls ++ [.stopping] }
  | .lockStart c subscriber =>
    if s.calls[c]? = some .starting ∧ s.lock = none then
      match s.sink.startLocked subscriber with
      | (some ret, sink) => some ({ s with sink := sink }.goto c (.startReturned ret))
      | (none, sink) => some ({ s with sink := sink, lock := some c }.goto c .creating)
    else none
  | .create c thread =>
    if s.calls[c]? = some .creating then
      match thread with
      | some text =>
        let r := s.sink.startFailed text
        some ({ s with sink := r.2, lock := none }.goto c (.startReturned r.1))
      | none =>
        let w := s.workers.length
        some ({ s with
          sink := { s.sink with workerThread := true }
          workerThreadId := some w
          workers := s.workers ++ [SinkWorker.loop] }.goto c (.created w))
    else none
  | .setStarted c =>
    match s.calls[c]? with
    | some (.created _) =>
      some ({ s with sink := { s.sink with isStarted := true }, lock := none }.goto c
        (.startReturned ⟨.ok, ""⟩))
    | _ => none
  | .lockStop c =>
    if s.calls[c]? = some .stopping ∧ s.lock = none then
      let s' := { s with sink := s.sink.stopBegin }
      match s.sink.isStarted, s.workerThreadId with
      | true, some w => some (s'.goto c (.joining w))
      | _, _ => some (s'.goto c .stopReturned)
    else none
  | .join c =>
    match s.calls[c]? with
    | some (.joining w) =>
      if s.workers[w]? = some .left ∧ s.lock = none then
        some ({ s with sink := s.sink.stopEnd, workerThreadId := none }.goto c .stopReturned)
      else none
    | _ => none
  | .check w =>
    if s.workers[w]? = some .loop then
      some { s with workers := s.workers.set w (if s.sink.isStarted then .body else .left) }
    else none
  | .iterate w =>
    if s.workers[w]? = some .body then some { s with workers := s.workers.set w .loop } else none

/-! ## What is kept -/

/-- The worker `w` runs and has not left its loop. -/
def Loops (s : WorkerSystem) (w : Nat) : Prop :=
  ∃ st, s.workers[w]? = some st ∧ st ≠ .left

/-- A started sink has a worker that has not left its loop. -/
def Served (s : WorkerSystem) : Prop :=
  s.sink.isStarted = true → ∃ w, s.workerThreadId = some w ∧ s.Loops w

/-- The step leaves the sink served, and a `Start` that returns 0 in it leaves the sink started. -/
def Serves (s : WorkerSystem) (e : WorkerEvent) : Prop :=
  ∀ s', s.step e = some s' → s'.Served ∧
    ∀ c : Nat, s.calls[c]? ≠ s'.calls[c]? →
      (∃ ret, s'.calls[c]? = some (.startReturned ret) ∧ ret.code = .ok) →
      s'.sink.isStarted = true

/-- No worker evaluates its loop condition while the `Start` that made it has not set STARTED. -/
def WaitsForFlag (s : WorkerSystem) : WorkerEvent → Prop
  | .check w => ∀ c : Nat, s.calls[c]? ≠ some (.created w)
  | _ => True

/-- What the position of a call says about the sink. -/
def CallInv (s : WorkerSystem) (c : Nat) : SinkCall → Prop
  | .creating => s.lock = some c ∧ s.sink.isStarted = false ∧ s.workerThreadId = none
  | .created w =>
    s.lock = some c ∧ s.sink.isStarted = false ∧ s.workerThreadId = some w ∧ s.Loops w
  | .joining w => s.sink.isStarted = false ∧ s.workerThreadId = some w
  | _ => True

/-- The call has the worker thread in its hands: it just made it, or it waits for its end. -/
def HasThread : SinkCall → Prop
  | .created _ | .joining _ => True
  | _ => False

structure Inv (s : WorkerSystem) : Prop where
  thread : s.sink.workerThread = s.workerThreadId.isSome
  served : s.Served
  calls : Tasks.Each s.CallInv s.calls
  oneThread : Tasks.AtMostOne HasThread s.calls

variable {s s' : WorkerSystem} {c : Nat}

/-- A call that is not the one that moves keeps its property, where no other call holds the lock
and the calls that wait for the thread keep theirs. -/
theorem callInv_other (hlock : ∀ i, s.lock = some i → i = c) {i : Nat} {a : SinkCall}
    (hjoin : ∀ w, a = .joining w → s'.sink.isStarted = false ∧ s'.workerThreadId = some w)
    (hne : i ≠ c) (h : s.CallInv i a) : s'.CallInv i a := by
  cases a with
  | creating => exact absurd (hlock i h.1) hne
  | created w => exact absurd (hlock i h.1) hne
  | joining w => exact hjoin w rfl
  | starting | startReturned ret | stopping | stopReturned => trivial

/-! ## The steps -/

theorem inv_call (h : s.Inv) {call : SinkCall} (hc : s.CallInv s.calls.length call)
    (ht : ¬ HasThread call) : { s with calls := s.calls ++ [call] }.Inv :=
  ⟨h.thread, h.served, h.calls.append hc fun _ _ _ hi => hi, h.oneThread.append ht⟩

theorem inv_lockStart (h : s.Inv) {subscriber : Option String} (hl : s.lock = none)
    (he : s.step (.lockStart c subscriber) = some s') : s'.Inv := by
  have hlock : ∀ i, s.lock = some i → i = c := fun i hi => by rw [hl] at hi; cases hi
  simp only [step] at he
  split at he
  · next hc =>
    rcases s.sink.startLocked_cases subscriber with ⟨ret, h1, -⟩ | ⟨hs, hw, sink, h1, hs', hw'⟩
    · rw [h1] at he
      cases he
      exact ⟨h.thread, h.served, h.calls.set trivial fun _ _ _ _ hi => hi,
        h.oneThread.set fun hp => hp.elim⟩
    · have hid : s.workerThreadId = none := by
        rw [← Option.not_isSome_iff_eq_none, ← h.thread, hw]
        exact Bool.false_ne_true
      rw [h1] at he
      cases he
      refine ⟨?_, fun hst => ?_, h.calls.set ⟨rfl, hs', hid⟩ ?_,
        h.oneThread.set fun hp => hp.elim⟩
      · show sink.workerThread = s.workerThreadId.isSome
        rw [hw', hid]
        rfl
      · exact absurd (hs'.symm.trans hst) Bool.false_ne_true
      · intro i a hne _ hi
        refine callInv_other hlock (fun w ha => ?_) hne hi
        subst ha
        exact ⟨hs', hi.2⟩
  · cases he

theorem inv_create (h : s.Inv) {thread : Option String}
    (he : s.step (.create c thread) = some s') : s'.Inv := by
  simp only [step] at he
  split at he
  · next hc =>
    obtain ⟨hl, hs, hid⟩ := h.calls c _ hc
    have hlock : ∀ i, s.lock = some i → i = c := fun i hi => by rw [hl] at hi; cases hi; rfl
    cases thread with
    | some text =>
      cases he
      refine ⟨h.thread, h.served, h.calls.set trivial fun i a hne _ hi => ?_,
        h.oneThread.set fun hp => hp.elim⟩
      refine callInv_other hlock (fun w ha => ?_) hne hi
      subst ha
      exact hi
    | none =>
      cases he
      have hnew : (s.workers ++ [SinkWorker.loop])[s.workers.length]? = some .loop :=
        List.getElem?_concat_length
      have hno : ∀ i a, i ≠ c → s.calls[i]? = some a → ∀ w, a ≠ .joining w := by
        rintro i a - ha w rfl
        have := (h.calls i _ ha).2
        rw [hid] at this
        cases this
      refine ⟨rfl, fun _ => ⟨_, rfl, _, hnew, by decide⟩, h.calls.set ?_ fun i a hne ha hi => ?_,
        h.oneThread.set fun _ i a hne ha hp => ?_⟩
      · exact ⟨hl, hs, rfl, _, hnew, by decide⟩
      · exact callInv_other hlock (fun w hj => absurd hj (hno i a hne ha w)) hne hi
      · cases a with
        | created w => exact hne (hlock i (h.calls i _ ha).1)
        | joining w => exact hno i _ hne ha w rfl
        | _ => exact hp
  · cases he

theorem inv_setStarted (h : s.Inv) (he : s.step (.setStarted c) = some s') : s'.Inv := by
  simp only [step] at he
  split at he
  · next w hc =>
    obtain ⟨hl, hs, hid, hw⟩ := h.calls c _ hc
    have hlock : ∀ i, s.lock = some i → i = c := fun i hi => by rw [hl] at hi; cases hi; rfl
    cases he
    refine ⟨h.thread, fun _ => ⟨w, hid, hw⟩, h.calls.set trivial fun i a hne ha hi => ?_,
      h.oneThread.set fun hp => hp.elim⟩
    -- the creator has the thread, so no call waits for it
    refine callInv_other hlock (fun w' hj => absurd ?_ hne) hne hi
    subst hj
    exact h.oneThread i c _ _ ha hc trivial trivial
  · cases he

theorem inv_lockStop (h : s.Inv) (hl : s.lock = none)
    (he : s.step (.lockStop c) = some s') : s'.Inv := by
  have hlock : ∀ i, s.lock = some i → i = c := fun i hi => by rw [hl] at hi; cases hi
  have hs' := s.sink.stopBegin_isStarted
  have hthread : s.sink.stopBegin.workerThread = s.workerThreadId.isSome := by
    rw [StreamSink.stopBegin_workerThread, h.thread]
  have hserved : ∀ call, ({ s with sink := s.sink.stopBegin }.goto c call).Served :=
    fun _ hst => absurd (hs'.symm.trans hst) Bool.false_ne_true
  have hother : ∀ call i a, i ≠ c → s.calls[i]? = some a → s.CallInv i a →
      ({ s with sink := s.sink.stopBegin }.goto c call).CallInv i a := by
    intro call i a hne _ hi
    refine callInv_other hlock (fun w ha => ?_) hne hi
    subst ha
    exact ⟨hs', hi.2⟩
  simp only [step] at he
  split at he
  · split at he
    · next w hs hid =>
      cases he
      refine ⟨hthread, hserved _, h.calls.set ⟨hs', hid⟩ (hother _),
        h.oneThread.set fun _ i a hne ha hp => ?_⟩
      -- a call that has the thread finds the sink not started
      have hi := h.calls i a ha
      cases a with
      | created w => exact absurd (hi.2.1.symm.trans hs) Bool.false_ne_true
      | joining w => exact absurd (hi.1.symm.trans hs) Bool.false_ne_true
      | _ => exact hp
    · cases he
      exact ⟨hthread, hserved _, h.calls.set trivial (hother _),
        h.oneThread.set fun hp => hp.elim⟩
  · cases he

theorem inv_join (h : s.Inv) (he : s.step (.join c) = some s') : s'.Inv := by
  simp only [step] at he
  split at he
  · next w hc =>
    split at he
    · next hw =>
      obtain ⟨hs, hid⟩ := h.calls c _ hc
      have hlock : ∀ i, s.lock = some i → i = c := fun i hi => by rw [hw.2] at hi; cases hi
      cases he
      refine ⟨rfl, fun hst => absurd (hs.symm.trans hst) Bool.false_ne_true,
        h.calls.set trivial fun i a hne ha hi => ?_, h.oneThread.set fun hp => hp.elim⟩
      refine callInv_other hlock (fun w' hj => absurd ?_ hne) hne hi
      subst hj
      exact h.oneThread i c _ _ ha hc trivial trivial
    · cases he
  · cases he

/-- A step of a worker that leaves the workers that have to loop in their loops. -/
theorem inv_worker (h : s.Inv) (w : Nat) (st : SinkWorker)
    (hst : ∀ v, v = w → s.sink.isStarted = true ∨ (∃ c : Nat, s.calls[c]? = some (.created v)) →
      st ≠ .left) :
    { s with workers := s.workers.set w st }.Inv := by
  have hloops : ∀ v, s.sink.isStarted = true ∨ (∃ c : Nat, s.calls[c]? = some (.created v)) →
      s.Loops v → { s with workers := s.workers.set w st }.Loops v := by
    rintro v hv ⟨old, hold, hne⟩
    by_cases hvw : v = w
    · subst hvw
      exact ⟨st, Tasks.getElem?_set_self hold, hst v rfl hv⟩
    · exact ⟨old, by rw [List.getElem?_set_ne (Ne.symm hvw)]; exact hold, hne⟩
  refine ⟨h.thread, fun hs => ?_, h.calls.mono fun i a ha hi => ?_, h.oneThread⟩
  · obtain ⟨v, hid, hl⟩ := h.served hs
    exact ⟨v, hid, hloops v (.inl hs) hl⟩
  · cases a with
    | created v => exact ⟨hi.1, hi.2.1, hi.2.2.1, hloops v (.inr ⟨i, ha⟩) hi.2.2.2⟩
    | _ => exact hi

theorem lock_none_of_lockStart {subscriber : Option String}
    (he : s.step (.lockStart c subscriber) = some s') : s.lock = none := by
  simp only [step] at he
  split at he
  · next hc => exact hc.2
  · cases he

theorem lock_none_of_lockStop (he : s.step (.lockStop c) = some s') : s.lock = none := by
  simp only [step] at he
  split at he
  · next hc => exact hc.2
  · cases he

/-- One step in which no worker is too early keeps the invariant. -/
theorem inv_step (h : s.Inv) {e : WorkerEvent} (hw : s.WaitsForFlag e)
    (he : s.step e = some s') : s'.Inv := by
  cases e with
  | start =>
    simp only [step] at he
    split at he
    · cases he
      exact inv_call h trivial id
    · cases he
      exact inv_call h trivial id
  | stop =>
    cases he
    exact inv_call h trivial id
  | lockStart c subscriber => exact inv_lockStart h (lock_none_of_lockStart he) he
  | create c thread => exact inv_create h he
  | setStarted c => exact inv_setStarted h he
  | lockStop c => exact inv_lockStop h (lock_none_of_lockStop he) he
  | join c => exact inv_join h he
  | check w =>
    simp only [step] at he
    split at he
    · cases he
      refine inv_worker h w _ fun v hv hk => ?_
      subst hv
      rcases hk with hs | ⟨c, hc⟩
      · rw [if_pos hs]
        decide
      · exact absurd hc (hw c)
    · cases he
  | iterate w =>
    simp only [step] at he
    split at he
    · cases he
      exact inv_worker h w _ fun _ _ _ => by decide
    · cases he

/-! ## A `Start` that returns 0 -/

/-- The one call that a `goto` moves. -/
theorem goto_returned {call : SinkCall} {i : Nat} {ret : Ret}
    (hne : s.calls[i]? ≠ (s'.goto c call).calls[i]?) (hcalls : s'.calls = s.calls)
    (hr : (s'.goto c call).calls[i]? = some (.startReturned ret)) :
    call = .startReturned ret := by
  rcases Tasks.getElem?_set_some hr with ⟨-, h⟩ | ⟨-, h⟩
  · exact h.symm
  · exact absurd (by rw [hr, ← hcalls, h]) hne

theorem append_returned {call : SinkCall} {i : Nat} {ret : Ret}
    (hne : s.calls[i]? ≠ (s.calls ++ [call])[i]?)
    (hr : (s.calls ++ [call])[i]? = some (.startReturned ret)) : call = .startReturned ret := by
  rcases Tasks.getElem?_append_some hr with ⟨-, h⟩ | ⟨-, h⟩
  · exact h.symm
  · exact absurd (by rw [hr, h]) hne

/-- A `Start` returns 0 in a step only when the sink is started after it. -/
theorem isStarted_of_returned {e : WorkerEvent} (he : s.step e = some s') {i : Nat} {ret : Ret}
    (hne : s.calls[i]? ≠ s'.calls[i]?) (hr : s'.calls[i]? = some (.startReturned ret))
    (hok : ret.code = .ok) : s'.sink.isStarted = true := by
  cases e with
  | start =>
    simp only [step] at he
    split at he
    · cases he
      cases append_returned hne hr
      cases hok
    · cases he
      cases append_returned hne hr
  | stop =>
    cases he
    cases append_returned hne hr
  | lockStart c subscriber =>
    simp only [step] at he
    split at he
    · rcases s.sink.startLocked_cases subscriber with ⟨ret', h1, h2⟩ | ⟨-, -, sink, h1, -⟩
      · rw [h1] at he
        cases he
        cases goto_returned hne rfl hr
        exact h2 hok
      · rw [h1] at he
        cases he
        cases goto_returned hne rfl hr
    · cases he
  | create c thread =>
    simp only [step] at he
    split at he
    · cases thread with
      | some text =>
        cases he
        cases goto_returned hne rfl hr
        cases hok
      | none =>
        cases he
        cases goto_returned hne rfl hr
    · cases he
  | setStarted c =>
    simp only [step] at he
    split at he
    · cases he
      rfl
    · cases he
  | lockStop c =>
    simp only [step] at he
    split at he
    · split at he
      · cases he
        cases goto_returned hne rfl hr
      · cases he
        cases goto_returned hne rfl hr
    · cases he
  | join c =>
    simp only [step] at he
    split at he
    · split at he
      · cases he
        cases goto_returned hne rfl hr
      · cases he
    · cases he
  | check w =>
    simp only [step] at he
    split at he
    · cases he
      exact absurd rfl hne
    · cases he
  | iterate w =>
    simp only [step] at he
    split at he
    · cases he
      exact absurd rfl hne
    · cases he

/-! ## Runs -/

/-- A new sink, before any call. -/
def initial (clientInfo : StreamClientInfo) (listener : Bool) : WorkerSystem :=
  { sink := StreamSink.initBase clientInfo listener }

theorem inv_initial (clientInfo : StreamClientInfo) (listener : Bool) :
    (initial clientInfo listener).Inv := by
  refine ⟨rfl, ?_, Tasks.Each.nil, Tasks.AtMostOne.nil⟩
  intro h
  cases h

/-- **A started sink has a worker in its loop**, in every interleaving in which no worker
evaluates its loop condition before the `Start` that created it has set STARTED. -/
theorem started_worker_loops (clientInfo : StreamClientInfo) (listener : Bool)
    (es : List WorkerEvent) (h : Run.Each step WaitsForFlag (initial clientInfo listener) es) :
    Run.Each step Serves (initial clientInfo listener) es := by
  refine Run.each_of_inv (fun s e s' (hi : s.Inv) hw he => inv_step hi hw he) ?_ h
    (inv_initial clientInfo listener)
  intro s e hi hw s' he
  refine ⟨(inv_step hi hw he).served, ?_⟩
  rintro c hne ⟨ret, hr, hok⟩
  exact isStarted_of_returned he hne hr hok

/-- The worker evaluates its condition after `Start` has returned, and again after a frame. -/
theorem started_worker_loops_demo :
    Run.Each step Serves (initial {} true)
      [.start, .lockStart 0 none, .create 0 none, .setStarted 0, .check 0, .iterate 0, .check 0,
        .stop, .lockStop 1, .iterate 0, .check 0, .join 1] := by
  have hcheck : ∀ (s : WorkerSystem) (w : Nat), .created w ∉ s.calls → s.WaitsForFlag (.check w) :=
    fun s w h c hc => h (List.mem_of_getElem? hc)
  refine started_worker_loops {} true _ ?_
  refine .cons rfl trivial (.cons rfl trivial (.cons rfl trivial (.cons rfl trivial ?_)))
  refine .cons rfl (hcheck _ _ (by decide)) (.cons rfl trivial ?_)
  refine .cons rfl (hcheck _ _ (by decide)) (.cons rfl trivial (.cons rfl trivial ?_))
  refine .cons rfl trivial (.cons rfl (hcheck _ _ (by decide)) (.cons rfl trivial ?_))
  trivial

/-- The worker evaluates its condition right after it was created: it leaves its loop, and
`Start` returns 0. -/
theorem worker_left_before_flag :
    ¬ Run.Each step Serves (initial {} true)
      [.start, .lockStart 0 none, .create 0 none, .check 0, .setStarted 0] := by
  intro h
  have h5 := ((((h.2 _ rfl).2 _ rfl).2 _ rfl).2 _ rfl).1
  obtain ⟨w, hid, st, hst, hne⟩ := (h5 _ rfl).1 rfl
  cases hid
  cases hst
  exact hne rfl

end WorkerSystem

end StreamSwitch
