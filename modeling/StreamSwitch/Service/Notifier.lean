import StreamSwitch.Lib.Run
import StreamSwitch.Process.Stream

/-!
# Waiting for the info of a stream

`StreamInfoNotifier`, `on_stream_event` and `wait_subsequent_stream_info` of
`stream_service.py`, with what `new_stream` and `del_stream` do to the notifiers. A
greenlet that waits is in `Event.wait` of a notifier until an event sets it, its
timeout is over, or an exception is raised in it. A notifier is known by its position.

`waiters_accounted_iff`: along every run, the number a notifier keeps is that of the
greenlets waiting on it, a call is refused exactly when `MAX_WAITER` of them wait, and
an event wakes all that wait for its stream, if and only if nobody leaves a wait but
by an event (a greenlet on its own at the notifier of a deleted stream apart), no call
comes when just `MAX_WAITER` wait, and no event while someone waits at a notifier that
`del_stream` has removed.
-/

namespace StreamSwitch

open Run

structure StreamInfoNotifier (ι : Type) where
  streamName : String
  streamInfo : Option ι := none
  /-- `ready_event.is_set()`. -/
  readyEvent : Bool := false
  curWaiterNum : Nat := 0

/-- `StreamInfoNotifier.MAX_WAITER`. -/
def maxWaiter : Nat := 1000

/-- Where a call of `wait_subsequent_stream_info` is. -/
inductive WaitState (ι : Type)
  /-- In `ready_event.wait` of the notifier `k`. -/
  | waiting (k : Nat)
  | returned (streamInfo : Option ι)
  | raised (err : StreamError)

structure InfoWaiter (ι : Type) where
  streamName : String
  state : WaitState ι

/-- The part of a `StreamService` that waits for stream infos. -/
structure InfoService (ι : Type) where
  /-- The names in `_stream_map`. -/
  hasStream : String → Bool := fun _ => false
  /-- `_stream_info_notifier`. -/
  notifierMap : String → Option Nat := fun _ => none
  notifiers : List (StreamInfoNotifier ι) := []
  waiters : List (InfoWaiter ι) := []

inductive InfoServiceEvent (ι : Type)
  | waitSubsequentStreamInfo (streamName : String)
  /-- The timeout of a call is over. -/
  | timeout (c : Nat)
  /-- An exception is raised in the greenlet of a call. -/
  | kill (c : Nat) (err : StreamError)
  | onStreamInfoEvent (streamName : String) (streamInfo : ι)
  | newStream (streamName : String)
  | delStream (streamName : String)

def tooManyWaiter (streamName : String) : StreamError :=
  .streamSwitch ("Too Many Waiter for Stream Info (" ++ streamName ++ ")") 503

variable {ι : Type}

/-- The call waits on the notifier `k`. -/
def InfoWaiter.waitsOn (k : Nat) (w : InfoWaiter ι) : Bool :=
  match w.state with
  | .waiting j => j = k
  | _ => false

/-- `put_stream_info` of the notifier `k` wakes the call. -/
def InfoWaiter.wake (k : Nat) (streamInfo : ι) (w : InfoWaiter ι) : InfoWaiter ι :=
  if w.waitsOn k then { w with state := .returned (some streamInfo) } else w

namespace InfoService

def push (y : InfoService ι) (streamName : String) (state : WaitState ι) : InfoService ι :=
  { y with waiters := y.waiters ++ [⟨streamName, state⟩] }

/-- `wait_stream_info` of the notifier `k`, up to the wait. -/
def waitStreamInfo (y : InfoService ι) (streamName : String) (k : Nat)
    (n : StreamInfoNotifier ι) : InfoService ι :=
  if n.curWaiterNum > maxWaiter then y.push streamName (.raised (tooManyWaiter n.streamName))
  else
    let n := { n with curWaiterNum := n.curWaiterNum + 1 }
    let y := { y with notifiers := y.notifiers.set k n }
    if n.readyEvent then y.push streamName (.returned n.streamInfo)
    else y.push streamName (.waiting k)

def waitSubsequentStreamInfo (y : InfoService ι) (streamName : String) :
    Option (InfoService ι) :=
  if !y.hasStream streamName then
    some (y.push streamName
      (.raised (.streamSwitch ("Stream (" ++ streamName ++ ") Not Found") 404)))
  else
    match y.notifierMap streamName with
    | some k => (y.notifiers[k]?).map fun n => y.waitStreamInfo streamName k n
    | none =>
      let n : StreamInfoNotifier ι := { streamName := streamName }
      let k := y.notifiers.length
      let y := { y with
        notifiers := y.notifiers ++ [n]
        notifierMap := fun name => if name = streamName then some k else y.notifierMap name }
      some (y.waitStreamInfo streamName k n)

/-- The call `c` leaves its wait. -/
def leave (y : InfoService ι) (c : Nat) (err : InfoWaiter ι → StreamError) :
    Option (InfoService ι) :=
  (y.waiters[c]?).bind fun w =>
    match w.state with
    | .waiting _ => some { y with waiters := y.waiters.set c { w with state := .raised (err w) } }
    | _ => none

def onStreamInfoEvent (y : InfoService ι) (streamName : String) (streamInfo : ι) :
    InfoService ι :=
  match y.notifierMap streamName with
  | none => y
  | some k =>
    { y with
      notifierMap := fun name => if name = streamName then none else y.notifierMap name
      notifiers := y.notifiers.modify k fun n =>
        { n with streamInfo := some streamInfo, readyEvent := true }
      waiters := y.waiters.map (·.wake k streamInfo) }

/-- `del_stream`; one that is not found changes nothing. -/
def delStream (y : InfoService ι) (streamName : String) : InfoService ι :=
  if !y.hasStream streamName then y
  else { y with
    hasStream := fun name => if name = streamName then false else y.hasStream name
    notifierMap := fun name => if name = streamName then none else y.notifierMap name }

def infoServiceStep (y : InfoService ι) : InfoServiceEvent ι → Option (InfoService ι)
  | .waitSubsequentStreamInfo streamName => y.waitSubsequentStreamInfo streamName
  | .timeout c => y.leave c fun w =>
    .streamSwitch ("Stream Info (" ++ w.streamName ++ ") Not Ready") 408
  | .kill c err => y.leave c fun _ => err
  | .onStreamInfoEvent streamName streamInfo => some (y.onStreamInfoEvent streamName streamInfo)
  | .newStream streamName => some { y with
      hasStream := fun name => if name = streamName then true else y.hasStream name }
  | .delStream streamName => some (y.delStream streamName)

/-! ## What is promised -/

/-- The greenlets that wait on the notifier `k`. -/
def blocked (y : InfoService ι) (k : Nat) : Nat := y.waiters.countP (·.waitsOn k)

/-- The notifier `k` is in use: in the map, or somebody waits on it. -/
def InUse (y : InfoService ι) (k : Nat) : Prop :=
  (∃ streamName, y.notifierMap streamName = some k) ∨ 0 < y.blocked k

/-- Every notifier in use knows how many greenlets wait on it. -/
def Counted (y : InfoService ι) : Prop :=
  ∀ k n, y.notifiers[k]? = some n → y.InUse k → n.curWaiterNum = y.blocked k

/-- The call that has just been made was refused because too many wait. -/
def LastRefused (y : InfoService ι) : Prop :=
  ∃ w streamName, y.waiters.getLast? = some w ∧ w.state = .raised (tooManyWaiter streamName)

/-- A call for a stream is refused exactly when `MAX_WAITER` greenlets wait. -/
def RefusesRight (y : InfoService ι) (e : InfoServiceEvent ι) (y' : InfoService ι) : Prop :=
  ∀ streamName, e = .waitSubsequentStreamInfo streamName → y.hasStream streamName = true →
    (y'.LastRefused ↔ ∃ k, y.notifierMap streamName = some k ∧ maxWaiter ≤ y.blocked k)

/-- An event wakes all that wait for its stream, with its info. -/
def WakesAll (y : InfoService ι) (e : InfoServiceEvent ι) (y' : InfoService ι) : Prop :=
  ∀ streamName streamInfo, e = .onStreamInfoEvent streamName streamInfo →
    ∀ (c k : Nat), y.waiters[c]? = some ⟨streamName, .waiting k⟩ →
      y'.waiters[c]? = some ⟨streamName, .returned (some streamInfo)⟩

structure Accounts (y : InfoService ι) (e : InfoServiceEvent ι) (y' : InfoService ι) : Prop where
  counted : y'.Counted
  refuses : y.RefusesRight e y'
  wakes : y.WakesAll e y'

def Accounted (y : InfoService ι) (e : InfoServiceEvent ι) : Prop :=
  ∀ y', y.infoServiceStep e = some y' → y.Accounts e y'

/-- The call `c` is alone on a notifier that is not in the map any more. -/
def LeavesLast (y : InfoService ι) (c : Nat) : Prop :=
  ∀ w k, y.waiters[c]? = some w → w.state = .waiting k →
    (∀ streamName, y.notifierMap streamName ≠ some k) ∧ y.blocked k = 1

def Undisturbed (y : InfoService ι) : InfoServiceEvent ι → Prop
  | .waitSubsequentStreamInfo streamName => y.hasStream streamName = true →
    ∀ k, y.notifierMap streamName = some k → y.blocked k ≠ maxWaiter
  | .timeout c => y.LeavesLast c
  | .kill c _ => y.LeavesLast c
  | .onStreamInfoEvent streamName _ => ∀ (c k : Nat),
    y.waiters[c]? = some ⟨streamName, .waiting k⟩ → y.notifierMap streamName = some k
  | _ => True

/-- Map and waits lead to notifiers of their stream that are not set. -/
structure NotifierInv (y : InfoService ι) : Prop where
  mapped : ∀ streamName k, y.notifierMap streamName = some k → ∃ n, y.notifiers[k]? = some n ∧
    n.streamName = streamName ∧ n.readyEvent = false
  waiting : ∀ (c k : Nat) streamName, y.waiters[c]? = some ⟨streamName, .waiting k⟩ →
    ∃ n, y.notifiers[k]? = some n ∧ n.streamName = streamName ∧ n.readyEvent = false
  counted : y.Counted

variable {y y' : InfoService ι} {k : Nat} {n : StreamInfoNotifier ι} {streamName : String}

/-! ## Counting the waits -/

theorem blocked_push (y : InfoService ι) (streamName : String) (state : WaitState ι) (k : Nat) :
    (y.push streamName state).blocked k =
      y.blocked k + if InfoWaiter.waitsOn k ⟨streamName, state⟩ then 1 else 0 := by
  unfold blocked push
  rw [List.countP_append, List.countP_singleton]

theorem blocked_pos {c : Nat} (hc : y.waiters[c]? = some ⟨streamName, .waiting k⟩) :
    0 < y.blocked k := by
  unfold blocked
  rw [List.countP_pos_iff]
  exact ⟨_, List.mem_of_getElem? hc, decide_eq_true rfl⟩

/-- Nobody waits on a notifier that does not exist. -/
theorem NotifierInv.blocked_eq_zero (h : y.NotifierInv) (hk : y.notifiers[k]? = none) :
    y.blocked k = 0 := by
  unfold blocked
  rw [List.countP_eq_zero]
  intro w hw hon
  obtain ⟨c, hc⟩ := List.getElem?_of_mem hw
  obtain ⟨name, state⟩ := w
  cases state with
  | waiting j =>
    obtain rfl : j = k := of_decide_eq_true hon
    obtain ⟨n, hn, -⟩ := h.waiting c j name hc
    rw [hk] at hn
    cases hn
  | returned info => cases hon
  | raised err => cases hon

/-- One that leaves is not counted any more. -/
theorem blocked_left {c : Nat} (hc : y.waiters[c]? = some ⟨streamName, .waiting k⟩)
    (err : StreamError) (j : Nat) :
    ({ y with waiters := y.waiters.set c ⟨streamName, .raised err⟩ } : InfoService ι).blocked j =
      if j = k then y.blocked k - 1 else y.blocked j := by
  obtain ⟨hlt, hget⟩ := List.getElem?_eq_some_iff.1 hc
  have hold : InfoWaiter.waitsOn j (⟨streamName, .waiting k⟩ : InfoWaiter ι) = decide (k = j) := rfl
  have hnew : InfoWaiter.waitsOn j (⟨streamName, .raised err⟩ : InfoWaiter ι) = false := rfl
  unfold blocked
  dsimp only
  rw [List.countP_set hlt, hget, hold, hnew]
  by_cases hj : j = k
  · subst hj
    simp
  · simp [hj, Ne.symm hj]

theorem waitsOn_wake (w : InfoWaiter ι) (k j : Nat) (streamInfo : ι) :
    (w.wake k streamInfo).waitsOn j = if j = k then false else w.waitsOn j := by
  unfold InfoWaiter.wake
  split
  · next hw =>
    split
    · rfl
    · next hj =>
      -- it waited on `k`, so not on `j`
      obtain ⟨name, state⟩ := w
      cases state with
      | waiting i =>
        obtain rfl : i = k := of_decide_eq_true hw
        exact (decide_eq_false (Ne.symm hj)).symm
      | returned info => rfl
      | raised err => rfl
  · next hw =>
    split
    · next hj =>
      rw [hj]
      exact Bool.eq_false_iff.2 hw
    · rfl

theorem blocked_woken (y : InfoService ι) (k j : Nat) (streamInfo : ι) :
    (y.waiters.map (·.wake k streamInfo)).countP (·.waitsOn j) =
      if j = k then 0 else y.blocked j := by
  rw [List.countP_map]
  split
  · next hj =>
    rw [List.countP_eq_zero]
    intro w _
    simp [waitsOn_wake, hj]
  · next hj =>
    unfold blocked
    congr 1
    funext w
    simp [waitsOn_wake, hj]

/-! ## A call -/

/-- The service after a notifier was created for a stream. -/
def withNotifier (y : InfoService ι) (streamName : String) : InfoService ι :=
  { y with
    notifiers := y.notifiers ++ [{ streamName := streamName }]
    notifierMap := fun name =>
      if name = streamName then some y.notifiers.length else y.notifierMap name }

theorem withNotifier_notifiers {m : StreamInfoNotifier ι} (hk : y.notifiers[k]? = some m) :
    (y.withNotifier streamName).notifiers[k]? = some m := by
  show (y.notifiers ++ _)[k]? = _
  rw [List.getElem?_append_left (List.getElem?_eq_some_iff.1 hk).1, hk]

theorem notifierInv_withNotifier (h : y.NotifierInv) (streamName : String) :
    (y.withNotifier streamName).NotifierInv where
  mapped name k hk := by
    change (if name = streamName then some y.notifiers.length else y.notifierMap name) = some k at hk
    split at hk
    · next hname =>
      cases hk
      refine ⟨{ streamName := streamName }, ?_, hname.symm, rfl⟩
      exact List.getElem?_concat_length
    · obtain ⟨n, hn, hrest⟩ := h.mapped name k hk
      exact ⟨n, withNotifier_notifiers hn, hrest⟩
  waiting c k name hc := by
    obtain ⟨n, hn, hrest⟩ := h.waiting c k name hc
    exact ⟨n, withNotifier_notifiers hn, hrest⟩
  counted k n hn huse := by
    rcases Nat.lt_trichotomy k y.notifiers.length with hlt | rfl | hgt
    · have hold : y.notifiers[k]? = some n := by
        rw [← hn]
        exact (List.getElem?_append_left hlt).symm
      refine h.counted k n hold (huse.imp_left ?_)
      rintro ⟨name, hname⟩
      change (if name = streamName then some y.notifiers.length else y.notifierMap name) = some k
        at hname
      split at hname
      · cases hname
        exact absurd hlt (Nat.lt_irrefl _)
      · exact ⟨name, hname⟩
    · have hnew : (y.withNotifier streamName).notifiers[y.notifiers.length]? =
          some { streamName := streamName } := List.getElem?_concat_length
      rw [hnew] at hn
      cases hn
      exact (h.blocked_eq_zero (List.getElem?_eq_none (Nat.le_refl _))).symm
    · have hnone : (y.withNotifier streamName).notifiers[k]? = none := by
        apply List.getElem?_eq_none
        show (y.notifiers ++ [_]).length ≤ k
        rw [List.length_append]
        exact hgt
      rw [hnone] at hn
      cases hn

/-- A call that is refused leaves things as they are. -/
theorem notifierInv_pushRaised (h : y.NotifierInv) (name : String) (err : StreamError) :
    (y.push name (.raised err)).NotifierInv := by
  have hblocked : ∀ k, (y.push name (.raised err)).blocked k = y.blocked k :=
    fun k => blocked_push y name (.raised err) k
  refine ⟨h.mapped, fun c k name' hc => ?_, fun k n hn huse => ?_⟩
  · change (y.waiters ++ [⟨name, .raised err⟩])[c]? = _ at hc
    rw [List.getElem?_append] at hc
    split at hc
    · exact h.waiting c k name' hc
    · have := List.mem_of_getElem? hc
      cases List.mem_singleton.1 this
  · rw [hblocked]
    refine h.counted k n hn ?_
    rcases huse with hmap | hpos
    · exact .inl hmap
    · rw [hblocked] at hpos
      exact .inr hpos

/-- The service after a call was let in at the notifier `k`. -/
def letIn (y : InfoService ι) (streamName : String) (k : Nat) (n : StreamInfoNotifier ι) :
    InfoService ι :=
  ({ y with notifiers := y.notifiers.set k { n with curWaiterNum := n.curWaiterNum + 1 } } :
    InfoService ι).push streamName (.waiting k)

theorem blocked_letIn (y : InfoService ι) (streamName : String) (k : Nat)
    (n : StreamInfoNotifier ι) (j : Nat) :
    (y.letIn streamName k n).blocked j = y.blocked j + if k = j then 1 else 0 := by
  have hon : InfoWaiter.waitsOn j (⟨streamName, .waiting k⟩ : InfoWaiter ι) = decide (k = j) := rfl
  rw [letIn, blocked_push, hon]
  simp only [decide_eq_true_eq]
  rfl

theorem letIn_notifiers (y : InfoService ι) (streamName : String) (k : Nat)
    (n : StreamInfoNotifier ι) (j : Nat) (hk : y.notifiers[k]? = some n) :
    (y.letIn streamName k n).notifiers[j]? =
      if j = k then some { n with curWaiterNum := n.curWaiterNum + 1 } else y.notifiers[j]? := by
  have hlt := (List.getElem?_eq_some_iff.1 hk).1
  show (y.notifiers.set k _)[j]? = _
  split
  · next hj => rw [hj, List.getElem?_set_self hlt]
  · next hj => rw [List.getElem?_set_ne (Ne.symm hj)]

theorem notifierInv_letIn (h : y.NotifierInv) (hm : y.notifierMap streamName = some k)
    (hn : y.notifiers[k]? = some n) : (y.letIn streamName k n).NotifierInv := by
  obtain ⟨n', hn', hname, hready⟩ := h.mapped streamName k hm
  rw [hn] at hn'
  cases hn'
  -- the notifiers keep their name and their event
  have hkept : ∀ (j : Nat) (m : StreamInfoNotifier ι), y.notifiers[j]? = some m →
      ∃ m', (y.letIn streamName k n).notifiers[j]? = some m' ∧ m'.streamName = m.streamName ∧
        m'.readyEvent = m.readyEvent := by
    intro j m hj
    rw [letIn_notifiers y streamName k n j hn]
    by_cases hjk : j = k
    · subst hjk
      rw [hn] at hj
      cases hj
      exact ⟨_, if_pos rfl, rfl, rfl⟩
    · exact ⟨m, by rw [if_neg hjk, hj], rfl, rfl⟩
  refine ⟨fun name j hj => ?_, fun c j name hc => ?_, fun j m hm' huse => ?_⟩
  · obtain ⟨m, hmj, hmn, hmr⟩ := h.mapped name j hj
    obtain ⟨m', hm', hn', hr'⟩ := hkept j m hmj
    exact ⟨m', hm', hn'.trans hmn, hr'.trans hmr⟩
  · change (y.waiters ++ [⟨streamName, .waiting k⟩])[c]? = _ at hc
    rw [List.getElem?_append] at hc
    split at hc
    · obtain ⟨m, hmj, hmn, hmr⟩ := h.waiting c j name hc
      obtain ⟨m', hm', hn', hr'⟩ := hkept j m hmj
      exact ⟨m', hm', hn'.trans hmn, hr'.trans hmr⟩
    · cases List.mem_singleton.1 (List.mem_of_getElem? hc)
      obtain ⟨m', hm', hn', hr'⟩ := hkept k n hn
      exact ⟨m', hm', hn'.trans hname, hr'.trans hready⟩
  · rw [letIn_notifiers y streamName k n j hn] at hm'
    rw [blocked_letIn]
    by_cases hjk : j = k
    · subst hjk
      rw [if_pos rfl] at hm'
      cases hm'
      rw [if_pos rfl, ← h.counted j n hn (.inl ⟨streamName, hm⟩)]
    · rw [if_neg hjk] at hm'
      rw [if_neg (Ne.symm hjk), Nat.add_zero]
      refine h.counted j m hm' ?_
      rcases huse with hmap | hpos
      · exact .inl hmap
      · rw [blocked_letIn, if_neg (Ne.symm hjk), Nat.add_zero] at hpos
        exact .inr hpos

/-- What `wait_stream_info` does at a notifier in the map. -/
theorem waitStreamInfo_eq (h : y.NotifierInv) (hm : y.notifierMap streamName = some k)
    (hn : y.notifiers[k]? = some n) :
    y.waitStreamInfo streamName k n =
      if maxWaiter < y.blocked k then y.push streamName (.raised (tooManyWaiter streamName))
      else y.letIn streamName k n := by
  obtain ⟨n', hn', hname, hready⟩ := h.mapped streamName k hm
  rw [hn] at hn'
  cases hn'
  have hcount := h.counted k n hn (.inl ⟨streamName, hm⟩)
  unfold waitStreamInfo
  by_cases hmax : maxWaiter < y.blocked k
  · rw [if_pos hmax, if_pos (by rw [hcount]; exact hmax), hname]
  · rw [if_neg hmax, if_neg (by rw [hcount]; exact hmax)]
    dsimp only
    rw [if_neg (by rw [hready]; decide)]
    rfl

/-- The service in which the call goes to its notifier, which may be a new one. -/
theorem waitSubsequentStreamInfo_eq (h : y.NotifierInv) (hs : y.hasStream streamName = true) :
    ∃ (z : InfoService ι) (k : Nat) (n : StreamInfoNotifier ι), z.NotifierInv ∧
      z.notifierMap streamName = some k ∧ z.notifiers[k]? = some n ∧
      y.waitSubsequentStreamInfo streamName = some (z.waitStreamInfo streamName k n) ∧
      (y.notifierMap streamName = none ∧ z.blocked k = 0 ∨
        y.notifierMap streamName = some k ∧ z.blocked k = y.blocked k) := by
  unfold waitSubsequentStreamInfo
  rw [if_neg (by rw [hs]; decide)]
  cases hm : y.notifierMap streamName with
  | some k =>
    obtain ⟨n, hn, -⟩ := h.mapped streamName k hm
    refine ⟨y, k, n, h, hm, hn, ?_, .inr ⟨rfl, rfl⟩⟩
    dsimp only
    rw [hn]
    rfl
  | none =>
    refine ⟨y.withNotifier streamName, y.notifiers.length, { streamName := streamName },
      notifierInv_withNotifier h streamName, if_pos rfl, List.getElem?_concat_length, rfl,
      .inl ⟨rfl, ?_⟩⟩
    exact h.blocked_eq_zero (List.getElem?_eq_none (Nat.le_refl _))

theorem not_lastRefused_letIn (y : InfoService ι) (streamName : String) (k : Nat)
    (n : StreamInfoNotifier ι) : ¬ (y.letIn streamName k n).LastRefused := by
  rintro ⟨w, name, hlast, hw⟩
  change (y.waiters ++ [_]).getLast? = _ at hlast
  rw [List.getLast?_concat] at hlast
  cases hlast
  cases hw

theorem lastRefused_push (y : InfoService ι) (streamName : String) :
    (y.push streamName (.raised (tooManyWaiter streamName))).LastRefused :=
  ⟨_, streamName, List.getLast?_concat, rfl⟩

/-- A call is let in or refused by the number of the notifier, one too late. -/
theorem wait_accounts_iff (h : y.NotifierInv) (hs : y.hasStream streamName = true) :
    ∃ y', y.waitSubsequentStreamInfo streamName = some y' ∧ y'.NotifierInv ∧
      ((y'.LastRefused ↔ ∃ k, y.notifierMap streamName = some k ∧ maxWaiter ≤ y.blocked k) ↔
        ∀ k, y.notifierMap streamName = some k → y.blocked k ≠ maxWaiter) := by
  obtain ⟨z, k, n, hz, hm, hn, heq, hfrom⟩ := waitSubsequentStreamInfo_eq h hs
  rw [heq, waitStreamInfo_eq hz hm hn]
  refine ⟨_, rfl, ?_, ?_⟩
  · split
    · exact notifierInv_pushRaised hz _ _
    · exact notifierInv_letIn hz hm hn
  rcases hfrom with ⟨hnone, hzero⟩ | ⟨hsome, hsame⟩
  · -- a new notifier has no waiters
    rw [hzero, if_neg (by decide)]
    have hno := not_lastRefused_letIn z streamName k n
    simp [hnone, hno]
  · rw [hsame, hsome]
    have hex : (∃ j, some k = some j ∧ maxWaiter ≤ y.blocked j) ↔ maxWaiter ≤ y.blocked k := by simp
    have hall : (∀ j, some k = some j → y.blocked j ≠ maxWaiter) ↔ y.blocked k ≠ maxWaiter := by simp
    rw [hex, hall]
    by_cases hmax : maxWaiter < y.blocked k
    · rw [if_pos hmax]
      have hyes := lastRefused_push z streamName
      simp only [hyes, true_iff]
      omega
    · rw [if_neg hmax]
      have hno := not_lastRefused_letIn z streamName k n
      simp only [hno, false_iff]
      omega

/-! ## Leaving a wait -/

theorem leave_eq {c : Nat} {err : InfoWaiter ι → StreamError} (he : y.leave c err = some y') :
    ∃ name k, y.waiters[c]? = some ⟨name, .waiting k⟩ ∧
      y' = { y with waiters := y.waiters.set c ⟨name, .raised (err ⟨name, .waiting k⟩)⟩ } := by
  obtain ⟨w, hc, he⟩ := Option.bind_eq_some_iff.1 he
  obtain ⟨name, state⟩ := w
  cases state with
  | waiting k =>
    cases he
    exact ⟨name, k, hc, rfl⟩
  | returned info => cases he
  | raised err => cases he

/-- Only the last one at a removed notifier may leave. -/
theorem counted_left_iff (h : y.NotifierInv) {c : Nat}
    (hc : y.waiters[c]? = some ⟨streamName, .waiting k⟩) (err : StreamError) :
    ({ y with waiters := y.waiters.set c ⟨streamName, .raised err⟩ } : InfoService ι).Counted ↔
      (∀ name, y.notifierMap name ≠ some k) ∧ y.blocked k = 1 := by
  have hpos := blocked_pos hc
  have hleft := blocked_left hc err
  obtain ⟨n, hn, -⟩ := h.waiting c k streamName hc
  have hcount := h.counted k n hn (.inr hpos)
  constructor
  · intro hcounted
    have hunused : ¬ InUse { y with waiters := y.waiters.set c ⟨streamName, .raised err⟩ } k := by
      intro huse
      have heq := hcounted k n hn huse
      rw [hleft, if_pos rfl] at heq
      omega
    refine ⟨fun name hname => hunused (.inl ⟨name, hname⟩), ?_⟩
    by_contra hne
    refine hunused (.inr ?_)
    rw [hleft, if_pos rfl]
    omega
  · rintro ⟨hmap, hone⟩ j m hm huse
    by_cases hj : j = k
    · subst hj
      rcases huse with ⟨name, hname⟩ | huse
      · exact absurd hname (hmap name)
      · rw [hleft, if_pos rfl, hone] at huse
        exact absurd huse (by decide)
    · rw [hleft, if_neg hj]
      refine h.counted j m hm (huse.imp_right fun hp => ?_)
      rw [hleft, if_neg hj] at hp
      exact hp

theorem leave_accounted_iff (h : y.NotifierInv) (c : Nat) (err : InfoWaiter ι → StreamError) :
    (∀ y', y.leave c err = some y' → y'.Counted) ↔ y.LeavesLast c := by
  constructor
  · rintro hcounted ⟨name, state⟩ k hc hstate
    cases hstate
    have he : y.leave c err =
        some { y with waiters := y.waiters.set c ⟨name, .raised (err ⟨name, .waiting k⟩)⟩ } := by
      unfold leave
      rw [hc]
      rfl
    exact (counted_left_iff h hc _).1 (hcounted _ he)
  · intro hlast y' he
    obtain ⟨name, k, hc, rfl⟩ := leave_eq he
    exact (counted_left_iff h hc _).2 (hlast _ k hc rfl)

theorem notifierInv_leave (h : y.NotifierInv) {c : Nat} {err : InfoWaiter ι → StreamError}
    (hlast : y.LeavesLast c) (he : y.leave c err = some y') : y'.NotifierInv := by
  obtain ⟨name, k, hc, rfl⟩ := leave_eq he
  have hcounted := (counted_left_iff h hc (err ⟨name, .waiting k⟩)).2 (hlast _ k hc rfl)
  refine ⟨h.mapped, fun c' j name' hc' => ?_, hcounted⟩
  change (y.waiters.set c _)[c']? = _ at hc'
  by_cases hcc : c = c'
  · subst hcc
    rw [List.getElem?_set_self (List.getElem?_eq_some_iff.1 hc).1] at hc'
    cases hc'
  · rw [List.getElem?_set_ne hcc] at hc'
    exact h.waiting c' j name' hc'

/-! ## Events -/

theorem wake_waiting (name : String) (j k : Nat) (streamInfo : ι) :
    InfoWaiter.wake k streamInfo ⟨name, .waiting j⟩ =
      if j = k then ⟨name, .returned (some streamInfo)⟩ else ⟨name, .waiting j⟩ := by
  have hon : InfoWaiter.waitsOn k (⟨name, .waiting j⟩ : InfoWaiter ι) = decide (j = k) := rfl
  unfold InfoWaiter.wake
  rw [hon]
  simp only [decide_eq_true_eq]

/-- Who still waits after a notifier was set waited before, on another one. -/
theorem waiting_of_wake {w : InfoWaiter ι} {name : String} {j k : Nat} {streamInfo : ι}
    (h : w.wake k streamInfo = ⟨name, .waiting j⟩) : w = ⟨name, .waiting j⟩ ∧ j ≠ k := by
  obtain ⟨name', state⟩ := w
  cases state with
  | waiting i =>
    rw [wake_waiting] at h
    split at h
    · cases h
    · next hne =>
      cases h
      exact ⟨rfl, hne⟩
  | returned info => cases h
  | raised err => cases h

/-- An event wakes all that wait for its stream if they wait on the notifier in the map. -/
theorem wakesAll_iff (y : InfoService ι) (streamName : String) (streamInfo : ι) :
    y.WakesAll (.onStreamInfoEvent streamName streamInfo)
      (y.onStreamInfoEvent streamName streamInfo) ↔
    ∀ (c k : Nat), y.waiters[c]? = some ⟨streamName, .waiting k⟩ →
      y.notifierMap streamName = some k := by
  cases hm : y.notifierMap streamName with
  | none =>
    have heq : y.onStreamInfoEvent streamName streamInfo = y := by
      unfold onStreamInfoEvent
      rw [hm]
    rw [heq]
    constructor
    · intro h c k hc
      have hwoken := h streamName streamInfo rfl c k hc
      rw [hc] at hwoken
      cases hwoken
    · intro h name info he c k hc
      cases he
      cases h c k hc
  | some k =>
    have hwaiters : (y.onStreamInfoEvent streamName streamInfo).waiters =
        y.waiters.map (·.wake k streamInfo) := by
      unfold onStreamInfoEvent
      rw [hm]
    constructor
    · intro h c j hc
      have hwoken := h streamName streamInfo rfl c j hc
      rw [hwaiters, List.getElem?_map, hc, Option.map_some, wake_waiting] at hwoken
      split at hwoken
      · next hjk => rw [hjk]
      · cases hwoken
    · intro h name info he c j hc
      cases he
      cases h c j hc
      rw [hwaiters, List.getElem?_map, hc, Option.map_some, wake_waiting, if_pos rfl]

theorem notifierInv_event (h : y.NotifierInv) (streamName : String) (streamInfo : ι) :
    (y.onStreamInfoEvent streamName streamInfo).NotifierInv := by
  unfold onStreamInfoEvent
  cases hm : y.notifierMap streamName with
  | none => exact h
  | some k =>
    -- no other name leads to the notifier that is set
    have hother : ∀ name j, (if name = streamName then none else y.notifierMap name) = some j →
        y.notifierMap name = some j ∧ k ≠ j := by
      intro name j hj
      split at hj
      · cases hj
      · next hne =>
        refine ⟨hj, ?_⟩
        rintro rfl
        obtain ⟨n, hn, hname, -⟩ := h.mapped streamName k hm
        obtain ⟨n', hn', hname', -⟩ := h.mapped name k hj
        rw [hn] at hn'
        cases hn'
        exact hne (hname'.symm.trans hname)
    have hsame : ∀ j, k ≠ j → (y.notifiers.modify k fun n =>
        { n with streamInfo := some streamInfo, readyEvent := true })[j]? = y.notifiers[j]? :=
      fun j hj => List.getElem?_modify_ne _ _ hj
    refine ⟨fun name j hj => ?_, fun c j name hc => ?_, fun j n hn huse => ?_⟩
    · obtain ⟨hmap, hne⟩ := hother name j hj
      obtain ⟨n, hn, hrest⟩ := h.mapped name j hmap
      exact ⟨n, (hsame j hne).trans hn, hrest⟩
    · change (y.waiters.map _)[c]? = _ at hc
      rw [List.getElem?_map] at hc
      obtain ⟨w, hw, hwake⟩ := Option.map_eq_some_iff.1 hc
      obtain ⟨rfl, hne⟩ := waiting_of_wake hwake
      obtain ⟨n, hn, hrest⟩ := h.waiting c j name hw
      exact ⟨n, (hsame j (Ne.symm hne)).trans hn, hrest⟩
    · have hblocked := blocked_woken y k j streamInfo
      by_cases hj : j = k
      · rcases huse with ⟨name, hname⟩ | hpos
        · exact absurd hj.symm (hother name j hname).2
        · change 0 < (y.waiters.map _).countP _ at hpos
          rw [hblocked, if_pos hj] at hpos
          exact absurd hpos (Nat.lt_irrefl 0)
      · have hn' : y.notifiers[j]? = some n := (hsame j (Ne.symm hj)).symm.trans hn
        show n.curWaiterNum = (y.waiters.map _).countP _
        rw [hblocked, if_neg hj]
        refine h.counted j n hn' ?_
        rcases huse with ⟨name, hname⟩ | hpos
        · exact .inl ⟨name, (hother name j hname).1⟩
        · change 0 < (y.waiters.map _).countP _ at hpos
          rw [hblocked, if_neg hj] at hpos
          exact .inr hpos

theorem notifierInv_delStream (h : y.NotifierInv) (streamName : String) :
    (y.delStream streamName).NotifierInv := by
  unfold delStream
  split
  · exact h
  · have hmap : ∀ name k, (if name = streamName then none else y.notifierMap name) = some k →
        y.notifierMap name = some k := by
      intro name k hk
      split at hk
      · cases hk
      · exact hk
    refine ⟨fun name k hk => h.mapped name k (hmap name k hk), h.waiting, fun k n hn huse => ?_⟩
    refine h.counted k n hn (huse.imp_left ?_)
    rintro ⟨name, hname⟩
    exact ⟨name, hmap name k hname⟩

/-! ## Runs -/

theorem accounted_iff (h : y.NotifierInv) (e : InfoServiceEvent ι) :
    y.Accounted e ↔ y.Undisturbed e := by
  cases e with
  | waitSubsequentStreamInfo streamName =>
    cases hs : y.hasStream streamName with
    | false =>
      refine ⟨fun _ hs' => absurd (hs.symm.trans hs') (by decide), fun _ y' he => ?_⟩
      change y.waitSubsequentStreamInfo streamName = some y' at he
      rw [waitSubsequentStreamInfo, if_pos (by rw [hs]; rfl)] at he
      cases he
      refine ⟨(notifierInv_pushRaised h _ _).counted, ?_, nofun⟩
      intro name hname hs'
      cases hname
      exact absurd (hs.symm.trans hs') (by decide)
    | true =>
      obtain ⟨y', he, hinv, hiff⟩ := wait_accounts_iff h hs
      constructor
      · intro hacc _
        exact hiff.1 ((hacc y' he).refuses streamName rfl hs)
      · intro hund y'' he'
        change y.waitSubsequentStreamInfo streamName = some y'' at he'
        rw [he] at he'
        cases he'
        refine ⟨hinv.counted, fun name hname _ => ?_, nofun⟩
        cases hname
        exact hiff.2 (hund hs)
  | timeout c =>
    have hiff := leave_accounted_iff h c fun w =>
      .streamSwitch ("Stream Info (" ++ w.streamName ++ ") Not Ready") 408
    exact ⟨fun hacc => hiff.1 fun y' he => (hacc y' he).counted,
      fun hlast y' he => ⟨hiff.2 hlast y' he, nofun, nofun⟩⟩
  | kill c err =>
    have hiff := leave_accounted_iff h c fun _ => err
    exact ⟨fun hacc => hiff.1 fun y' he => (hacc y' he).counted,
      fun hlast y' he => ⟨hiff.2 hlast y' he, nofun, nofun⟩⟩
  | onStreamInfoEvent streamName streamInfo =>
    have hiff := wakesAll_iff y streamName streamInfo
    constructor
    · intro hacc
      exact hiff.1 (hacc _ rfl).wakes
    · intro hund y' he
      cases he
      exact ⟨(notifierInv_event h streamName streamInfo).counted, nofun, hiff.2 hund⟩
  | newStream streamName =>
    refine ⟨fun _ => trivial, fun _ y' he => ?_⟩
    cases he
    exact ⟨h.counted, nofun, nofun⟩
  | delStream streamName =>
    refine ⟨fun _ => trivial, fun _ y' he => ?_⟩
    cases he
    exact ⟨(notifierInv_delStream h streamName).counted, nofun, nofun⟩

theorem notifierInv_step (h : y.NotifierInv) {e : InfoServiceEvent ι} (hu : y.Undisturbed e)
    (he : y.infoServiceStep e = some y') : y'.NotifierInv := by
  cases e with
  | waitSubsequentStreamInfo streamName =>
    change y.waitSubsequentStreamInfo streamName = some y' at he
    cases hs : y.hasStream streamName with
    | false =>
      rw [waitSubsequentStreamInfo, if_pos (by rw [hs]; rfl)] at he
      cases he
      exact notifierInv_pushRaised h _ _
    | true =>
      obtain ⟨y'', he', hinv, -⟩ := wait_accounts_iff h hs
      rw [he] at he'
      cases he'
      exact hinv
  | timeout c => exact notifierInv_leave h hu he
  | kill c err => exact notifierInv_leave h hu he
  | onStreamInfoEvent streamName streamInfo =>
    cases he
    exact notifierInv_event h streamName streamInfo
  | newStream streamName =>
    cases he
    exact ⟨h.mapped, h.waiting, h.counted⟩
  | delStream streamName =>
    cases he
    exact notifierInv_delStream h streamName

theorem notifierInv_new : NotifierInv ({} : InfoService ι) :=
  ⟨nofun, nofun, nofun⟩

/-- **Waiters are counted, refused and woken right along every run exactly when nobody disturbs
the count.** -/
theorem waiters_accounted_iff (es : List (InfoServiceEvent ι)) :
    Each infoServiceStep Accounted {} es ↔ Each infoServiceStep Undisturbed {} es :=
  each_iff (fun _ _ _ h hu he => notifierInv_step h hu he) (fun _ e h => accounted_iff h e)
    notifierInv_new

/-- A call whose timeout is over is still counted. -/
theorem timeout_still_counted :
    (∃ y n, exec infoServiceStep ({} : InfoService Unit)
      [.newStream "s", .waitSubsequentStreamInfo "s", .timeout 0] = some y ∧
      y.notifiers[0]? = some n ∧ n.curWaiterNum = 1 ∧ y.blocked 0 = 0) ∧
    ¬ Each infoServiceStep Accounted ({} : InfoService Unit)
      [.newStream "s", .waitSubsequentStreamInfo "s", .timeout 0] := by
  refine ⟨⟨_, _, rfl, rfl, rfl, rfl⟩, fun h => ?_⟩
  have hcounted := (((h.2 _ rfl).2 _ rfl).1 _ rfl).counted 0 _ rfl (.inl ⟨"s", rfl⟩)
  exact absurd hcounted (by decide)

end InfoService

end StreamSwitch
