import StreamSwitch.Lib.Run
import StreamSwitch.Lib.Tasks

/-!
# Process watchers

`ProcWatcher` of `process_mngr.py` with its children and the greenlets that are inside
its methods. A greenlet runs until it gives up control: in `sleep`, in `popen.wait`,
or in `subprocess.Popen`, which waits for the status of the `exec`. What such a call
comes back with is part of the event that resumes the greenlet.

`children_kept`: in every run in which no `start` that passes its checks, and no
`stop` or `async_stop` that finds the watcher started, happens while a `Popen` of the
watcher is in progress, no child is lost. A child that is alive and was not told to
terminate is the one in `_popen`; a watcher that is not started and idle has no child
left but those that are being terminated, and can be started; and once a `stop`
returns no child is left but those that `async_stop` handed over.

`Popen` gives up control before its result is in `_popen`. The checks of the
operations that run in between see a watcher without a child.
-/

namespace StreamSwitch

/-- A child process. -/
structure Child where
  /-- The exit code, once it has exited. -/
  exited : Option Int := none
  /-- It was sent SIGTERM or SIGKILL. -/
  told : Bool := false
  /-- It was sent SIGKILL. -/
  killed : Bool := false
  /-- The operation that told it to terminate did not wait for it. -/
  handed : Bool := false
deriving DecidableEq

/-- The attributes of a `ProcWatcher`; a child is known by its position. -/
structure ProcWatcher where
  processReturnCode : Int := 0
  processExitTime : Int := 0
  autoRestartCount : Nat := 0
  ageTime : Int := 0
  procStartTime : Int := 0
  errorRestartInterval : Int := 30
  popen : Option Nat := none
  started : Bool := false
  pollGreenlet : Option Nat := none
  hasAged : Bool := false

/-- Where a greenlet has given up control. -/
inductive Greenlet
  /-- `start`, in `Popen`. -/
  | startPopen
  /-- `stop`, in `popen.wait(wait_timeout)`. -/
  | stopWait (popen : Nat)
  /-- `stop`, in `popen.wait()` after `kill`. -/
  | stopKill (popen : Nat)
  /-- `_terminate_run`, in the same two calls. -/
  | termWait (popen : Nat)
  | termKill (popen : Nat)
  /-- `_polling_run`, new or in `sleep`. -/
  | pollSleep
  /-- `_polling_run`, in `Popen`. -/
  | pollPopen
  | done
deriving DecidableEq

/-- What a greenlet is resumed with. -/
inductive Wake
  /-- `Popen` returns. -/
  | launched
  /-- `Popen` raises. -/
  | failed
  /-- `wait` returns the exit code. -/
  | waited
  /-- `wait` raises, `TimeoutExpired` or other. -/
  | timeout
  /-- `sleep` returns. `poll` then sees that the child has exited, or not yet. -/
  | slept (sees : Bool)
deriving DecidableEq

/-- How a call comes back: it returned, it raised, or the greenlet gave up control. -/
inductive CallResult | returned | raised | blocked (g : Nat)
deriving DecidableEq

structure WatcherSystem where
  watcher : ProcWatcher := {}
  children : List Child := []
  greenlets : List Greenlet := []

namespace WatcherSystem

/-! ## Parts of the methods -/

/-- `popen.terminate()`. -/
def terminate (s : WatcherSystem) (c : Nat) : WatcherSystem :=
  { s with children := s.children.modify c fun child => { child with told := true } }

/-- `popen.kill()`. -/
def kill (s : WatcherSystem) (c : Nat) : WatcherSystem :=
  { s with children := s.children.modify c fun child =>
      { child with told := true, killed := true } }

/-- No greenlet of the caller waits for the child. -/
def handOver (s : WatcherSystem) (c : Nat) : WatcherSystem :=
  { s with children := s.children.modify c fun child => { child with handed := true } }

def onProcessTerminate (s : WatcherSystem) (ret now : Int) : WatcherSystem :=
  { s with watcher := { s.watcher with
      popen := none
      processReturnCode := ret
      processExitTime := now
      procStartTime := 0 } }

/-- `_launch_process` once `Popen` has returned. -/
def launched (s : WatcherSystem) (now : Int) : WatcherSystem :=
  { s with
    children := s.children ++ [{}]
    watcher := { s.watcher with
      popen := some s.children.length
      hasAged := false
      procStartTime := now } }

/-- The exit code that `wait` or `poll` gives. -/
def exitCode (s : WatcherSystem) (c : Nat) : Option Int := (s.children[c]?).bind Child.exited

/-- The greenlet `g` goes on to `pos`. -/
def goto (s : WatcherSystem) (g : Nat) (pos : Greenlet) : WatcherSystem :=
  { s with greenlets := s.greenlets.set g pos }

/-- A new greenlet. -/
def spawn (s : WatcherSystem) (pos : Greenlet) : WatcherSystem :=
  { s with greenlets := s.greenlets ++ [pos] }

/-- The watcher is marked as stopped, and its polling greenlet detached. -/
def detach (s : WatcherSystem) : WatcherSystem :=
  { s with watcher := { s.watcher with started := false, pollGreenlet := none } }

/-! ## The methods -/

def start (s : WatcherSystem) : WatcherSystem × CallResult :=
  if s.watcher.started then (s, .returned)
  -- another greenlet is stopping this watcher
  else if s.watcher.popen.isSome then (s, .raised)
  else (s.spawn .startPopen, .blocked s.greenlets.length)

/-- `start`, when `Popen` has returned. -/
def startLaunched (s : WatcherSystem) (g : Nat) (now : Int) : WatcherSystem :=
  let s := (s.launched now).goto g .done
  { s.spawn .pollSleep with watcher := { s.watcher with
      autoRestartCount := 0
      started := true
      pollGreenlet := some s.greenlets.length } }

/-- `start`, when `Popen` has raised. -/
def startFailed (s : WatcherSystem) (g : Nat) (now : Int) : WatcherSystem :=
  let s := s.detach.goto g .done
  match s.watcher.popen with
  | none => s
  | some c => ((s.kill c).handOver c).onProcessTerminate (-1) now

def stop (s : WatcherSystem) : WatcherSystem × CallResult :=
  if !s.watcher.started then (s, .returned)
  else
    match s.watcher.popen with
    | none => (s.detach, .returned)
    | some c => ((s.detach.terminate c).spawn (.stopWait c), .blocked s.greenlets.length)

/-- `stop`, when the child `c` has terminated. -/
def stopWaited (s : WatcherSystem) (g c : Nat) (ret now : Int) : WatcherSystem :=
  let s := s.goto g .done
  if s.watcher.popen = some c then s.onProcessTerminate ret now else s

/-- `async_stop`, which is also `destroy`. `terminate` may raise `OSError` when the process is
gone. -/
def asyncStop (s : WatcherSystem) (oserror : Bool) (now : Int) : Option WatcherSystem :=
  if !s.watcher.started then some s
  else
    match s.watcher.popen with
    | none => some s.detach
    | some c =>
      if oserror then
        (s.exitCode c).map fun ret => s.detach.onProcessTerminate ret now
      else
        some ((((s.detach.terminate c).handOver c).spawn (.termWait c)).onProcessTerminate 0 now)

/-- `__del__`. -/
def del (s : WatcherSystem) : WatcherSystem :=
  let s := { s with watcher := { s.watcher with started := false } }
  match s.watcher.popen with
  | none => s
  | some c =>
    let s := (s.kill c).handOver c
    { s with watcher := { s.watcher with popen := none } }

/-- One turn of the loop of `_polling_run` up to its `sleep`. -/
def pollTurn (s : WatcherSystem) (g : Nat) (sees : Bool) (now : Int) : WatcherSystem :=
  if !s.watcher.started ∨ s.watcher.pollGreenlet ≠ some g then s.goto g .done
  else
    match s.watcher.popen with
    | none =>
      -- restart
      { s.goto g .pollPopen with watcher := { s.watcher with
          autoRestartCount := s.watcher.autoRestartCount + 1 } }
    | some c =>
      match if sees then s.exitCode c else none with
      | some ret =>
        let s := s.onProcessTerminate ret now
        -- without an interval the process is not restarted
        if s.watcher.errorRestartInterval > 0 then s else s.goto g .done
      | none =>
        if s.watcher.ageTime > 0 then
          let procStartTime := min s.watcher.procStartTime now
          let s := { s with watcher := { s.watcher with procStartTime := procStartTime } }
          if s.watcher.hasAged then
            if now - procStartTime > s.watcher.ageTime + 5 then s.kill c else s
          else if now - procStartTime > s.watcher.ageTime then
            { s with watcher := { s.watcher with hasAged := true } }.terminate c
          else s
        else s

/-- The greenlet `g` is resumed; `none` when it cannot be resumed like this. -/
def resume (s : WatcherSystem) (g : Nat) (wake : Wake) (now : Int) :
    Option (WatcherSystem × CallResult) :=
  match s.greenlets[g]?, wake with
  | some .startPopen, .launched => some (s.startLaunched g now, .returned)
  | some .startPopen, .failed => some (s.startFailed g now, .raised)
  | some (.stopWait c), .waited =>
    (s.exitCode c).map fun ret => (s.stopWaited g c ret now, .returned)
  | some (.stopWait c), .timeout => some ((s.kill c).goto g (.stopKill c), .blocked g)
  | some (.stopKill c), .waited =>
    (s.exitCode c).map fun ret => (s.stopWaited g c ret now, .returned)
  | some (.termWait c), .waited => (s.exitCode c).map fun _ => (s.goto g .done, .returned)
  | some (.termWait c), .timeout => some ((s.kill c).goto g (.termKill c), .blocked g)
  | some (.termKill c), .waited => (s.exitCode c).map fun _ => (s.goto g .done, .returned)
  | some .pollSleep, .slept sees => some (s.pollTurn g sees now, .blocked g)
  | some .pollPopen, .launched => some ((s.launched now).goto g .pollSleep, .blocked g)
  -- the exception is printed and ignored
  | some .pollPopen, .failed => some (s.goto g .pollSleep, .blocked g)
  | _, _ => none

/-- A child exits by itself or by a signal. -/
def exit (s : WatcherSystem) (c : Nat) (code : Int) : Option WatcherSystem :=
  match s.children[c]? with
  | some child =>
    if child.exited = none then
      some { s with children := s.children.set c { child with exited := some code } }
    else none
  | none => none

inductive WatcherEvent
  | start
  | stop
  | asyncStop (oserror : Bool) (now : Int)
  | resume (g : Nat) (wake : Wake) (now : Int)
  | exit (c : Nat) (code : Int)
deriving DecidableEq

def watcherStep (s : WatcherSystem) : WatcherEvent → Option WatcherSystem
  | .start => some s.start.1
  | .stop => some s.stop.1
  | .asyncStop oserror now => s.asyncStop oserror now
  | .resume g wake now => (s.resume g wake now).map Prod.fst
  | .exit c code => s.exit c code

/-! ## What is kept -/

end WatcherSystem

/-- The greenlet is in `Popen`. -/
def Greenlet.Launching (pos : Greenlet) : Prop := pos = .startPopen ∨ pos = .pollPopen

instance : DecidablePred Greenlet.Launching := fun _ => inferInstanceAs (Decidable (_ ∨ _))

/-- The greenlet is in `stop`, waiting for the child `c`. -/
def Greenlet.InStop (pos : Greenlet) (c : Nat) : Prop := pos = .stopWait c ∨ pos = .stopKill c

/-- The greenlet terminates the child `c` in the background. -/
def Greenlet.InTerminate (pos : Greenlet) (c : Nat) : Prop := pos = .termWait c ∨ pos = .termKill c

namespace WatcherSystem

/-- No `Popen` is in progress. -/
def NotLaunching (s : WatcherSystem) : Prop :=
  ∀ (g : Nat) pos, s.greenlets[g]? = some pos → ¬ pos.Launching

/-- No operation is in progress. -/
def Idle (s : WatcherSystem) : Prop :=
  ∀ (g : Nat) pos, s.greenlets[g]? = some pos → ¬ pos.Launching ∧ ∀ c, ¬ pos.InStop c

/-- A child that is alive and was not told to terminate is the one in `_popen`. -/
def Guarded (s : WatcherSystem) : Prop :=
  ∀ (c : Nat) child, s.children[c]? = some child → child.exited = none → child.told = false →
    s.watcher.popen = some c

/-- The termination of the child is pending. -/
def Pending (s : WatcherSystem) (c : Nat) (child : Child) : Prop :=
  child.killed = true ∨ ∃ (g : Nat) (pos : Greenlet), s.greenlets[g]? = some pos ∧ pos.InTerminate c

/-- `start` succeeds when `Popen` does. -/
def CanStart (s : WatcherSystem) : Prop :=
  ∃ t, Run.exec watcherStep s [.start, .resume s.greenlets.length .launched 0] = some t ∧
    t.watcher.started = true

/-- A watcher that is stopped and idle has no child but those that are being terminated, and can
be started. -/
def Restartable (s : WatcherSystem) : Prop :=
  s.watcher.started = false → s.Idle →
    (∀ (c : Nat) child, s.children[c]? = some child → child.exited = none → s.Pending c child) ∧
    s.CanStart

/-- A `stop` that found the watcher started returns. -/
def StopReturned (s : WatcherSystem) : WatcherEvent → Prop
  | .stop => s.watcher.started = true ∧ s.stop.2 = .returned
  | .resume g wake now => (∃ pos c, s.greenlets[g]? = some pos ∧ pos.InStop c) ∧
    ∃ t, s.resume g wake now = some (t, .returned)
  | _ => False

/-- The step loses no child: but for `exempt` ones, none is left when a `stop` returns. -/
def KeepsChildren (exempt : Child → Prop) (s : WatcherSystem) (e : WatcherEvent) : Prop :=
  ∀ t, s.watcherStep e = some t → t.Guarded ∧ t.Restartable ∧
    (s.StopReturned e → ∀ child ∈ t.children, child.exited ≠ none ∨ exempt child)

/-- No operation that gets past its check runs while a `Popen` of the watcher is in progress. -/
def Undisturbed (s : WatcherSystem) : WatcherEvent → Prop
  | .start => s.watcher.started = false → s.watcher.popen = none → s.NotLaunching
  | .stop | .asyncStop _ _ => s.watcher.started = true → s.NotLaunching
  | _ => True

/-- A new watcher. -/
def fresh (ageTime errorRestartInterval : Int) : WatcherSystem :=
  { watcher := { ageTime := ageTime, errorRestartInterval := errorRestartInterval } }

/-! ## The invariant -/

/-- A child that is alive is in `_popen` or was handed over, and then its termination is
pending. -/
structure ChildOk (s : WatcherSystem) (c : Nat) (child : Child) : Prop where
  alive : child.exited = none → s.watcher.popen = some c ∨ child.handed = true
  told : child.handed = true → child.told = true
  pending : child.handed = true → child.exited = none → s.Pending c child

/-- What a greenlet relies on. -/
def GreenletOk (w : ProcWatcher) (g : Nat) : Greenlet → Prop
  | .startPopen => w.started = false ∧ w.popen = none
  | .pollPopen => w.started = true ∧ w.popen = none ∧ w.pollGreenlet = some g
  | .stopWait c | .stopKill c => w.started = false ∧ w.popen = some c
  | _ => True

/-- At every moment. -/
structure WatcherInv (s : WatcherSystem) : Prop where
  children : Tasks.Each s.ChildOk s.children
  greenlets : Tasks.Each (GreenletOk s.watcher) s.greenlets
  launching : Tasks.AtMostOne Greenlet.Launching s.greenlets
  stopping : Tasks.AtMostOne (fun pos => ∃ c, pos.InStop c) s.greenlets
  /-- Only a `stop` in progress leaves a child in `_popen` of a stopped watcher. -/
  popen : s.watcher.started = false → ∀ c, s.watcher.popen = some c →
    ∃ (g : Nat) (pos : Greenlet), s.greenlets[g]? = some pos ∧ pos.InStop c

variable {s : WatcherSystem} {g c : Nat} {pos : Greenlet}

theorem Pending.spawn {child : Child} (h : s.Pending c child) (pos : Greenlet) :
    (s.spawn pos).Pending c child := by
  rcases h with hk | ⟨g, pos', hg, ht⟩
  · exact .inl hk
  · exact .inr ⟨g, pos', Tasks.getElem?_append_of_some hg, ht⟩

/-- A greenlet that does not terminate the child may go on. -/
theorem Pending.goto {child : Child} (h : s.Pending c child) (hg : s.greenlets[g]? = some pos)
    (hpos : ¬ pos.InTerminate c) (pos' : Greenlet) : (s.goto g pos').Pending c child := by
  rcases h with hk | ⟨g', p, hg', ht⟩
  · exact .inl hk
  · by_cases he : g' = g
    · subst he
      rw [hg] at hg'
      cases hg'
      exact absurd ht hpos
    · exact .inr ⟨g', p, by rw [← hg']; exact List.getElem?_set_ne (Ne.symm he), ht⟩

/-- The children are as they were, and nothing was lost. -/
theorem children_of_eq (h : Tasks.Each s.ChildOk s.children) {t : WatcherSystem}
    (hch : t.children = s.children)
    (hp : ∀ c child, s.children[c]? = some child → child.exited = none →
      s.watcher.popen = some c → t.watcher.popen = some c)
    (hpend : ∀ c child, s.children[c]? = some child → child.exited = none → s.Pending c child →
      t.Pending c child) : Tasks.Each t.ChildOk t.children := by
  rw [hch]
  refine h.mono fun c child hc ok => ⟨fun ha => ?_, ok.told, fun hh ha => ?_⟩
  · exact (ok.alive ha).imp (hp c child hc ha) id
  · exact hpend c child hc ha (ok.pending hh ha)

/-- A signal changes no child but its receiver, which is told. -/
theorem children_signal (h : Tasks.Each s.ChildOk s.children) {t : WatcherSystem} {f : Child → Child}
    (hch : t.children = s.children.modify c f) (hw : t.watcher.popen = s.watcher.popen)
    (hg : t.greenlets = s.greenlets) (hx : ∀ child, (f child).exited = child.exited)
    (hh : ∀ child, (f child).handed = child.handed) (ht : ∀ child, (f child).told = true)
    (hk : ∀ child, child.killed = true → (f child).killed = true) :
    Tasks.Each t.ChildOk t.children := by
  have hpend : ∀ i child child', s.Pending i child → (child.killed = true → child'.killed = true) →
      t.Pending i child' := by
    rintro i child child' (hp | ⟨g, pos, hpos, hterm⟩) himp
    · exact .inl (himp hp)
    · exact .inr ⟨g, pos, by rw [hg]; exact hpos, hterm⟩
  rw [hch]
  refine h.modify ?_ ?_
  · intro child _ ok
    refine ⟨fun ha => ?_, fun _ => ht child, fun h1 h2 => ?_⟩
    · rw [hx] at ha
      rw [hw, hh]
      exact ok.alive ha
    · rw [hh] at h1
      rw [hx] at h2
      exact hpend c child _ (ok.pending h1 h2) (hk child)
  · intro i child _ _ ok
    refine ⟨fun ha => ?_, ok.told, fun h1 h2 => hpend i child _ (ok.pending h1 h2) id⟩
    rw [hw]
    exact ok.alive ha

theorem children_terminate (h : Tasks.Each s.ChildOk s.children) (c : Nat) :
    Tasks.Each (s.terminate c).ChildOk (s.terminate c).children :=
  children_signal h rfl rfl rfl (fun _ => rfl) (fun _ => rfl) (fun _ => rfl) fun _ hk => hk

theorem children_kill (h : Tasks.Each s.ChildOk s.children) (c : Nat) :
    Tasks.Each (s.kill c).ChildOk (s.kill c).children :=
  children_signal h rfl rfl rfl (fun _ => rfl) (fun _ => rfl) (fun _ => rfl) fun _ _ => rfl

/-- A signal to a child changes nothing that the greenlets rely on. -/
theorem WatcherInv.terminate (h : s.WatcherInv) (c : Nat) : (s.terminate c).WatcherInv :=
  ⟨children_terminate h.children c, h.greenlets, h.launching, h.stopping, h.popen⟩

theorem WatcherInv.kill (h : s.WatcherInv) (c : Nat) : (s.kill c).WatcherInv :=
  ⟨children_kill h.children c, h.greenlets, h.launching, h.stopping, h.popen⟩

/-- A greenlet goes on to a place where it relies on nothing. -/
theorem WatcherInv.gotoFree (h : s.WatcherInv) (hg : s.greenlets[g]? = some pos)
    (hstop : ∀ c, ¬ pos.InStop c) {pos' : Greenlet} (hfree : pos' = .done ∨ pos' = .pollSleep)
    (hterm : ∀ c, pos.InTerminate c → ∀ child, s.children[c]? = some child →
      child.exited ≠ none) : (s.goto g pos').WatcherInv := by
  constructor
  · refine children_of_eq h.children rfl (fun _ _ _ _ hp => hp) fun c child hc ha hp => ?_
    exact hp.goto hg (fun ht => hterm c ht child hc ha) pos'
  · refine h.greenlets.set ?_ fun _ _ _ _ ok => ok
    rcases hfree with rfl | rfl <;> trivial
  · refine h.launching.set fun hl => ?_
    rcases hfree with rfl | rfl <;> rcases hl with hl | hl <;> cases hl
  · refine h.stopping.set fun ⟨c, hl⟩ => ?_
    rcases hfree with rfl | rfl <;> rcases hl with hl | hl <;> cases hl
  · intro hs c hp
    obtain ⟨g', p, hg', hin⟩ := h.popen hs c hp
    refine ⟨g', p, ?_, hin⟩
    have hne : g ≠ g' := by
      rintro rfl
      rw [hg] at hg'
      cases hg'
      exact hstop c hin
    rw [← hg']
    exact List.getElem?_set_ne hne

/-! ## The methods keep it -/

theorem inv_start (h : s.WatcherInv) (hc : s.Undisturbed .start) : s.start.1.WatcherInv := by
  unfold start
  split
  · exact h
  · next hs =>
    split
    · exact h
    · next hp =>
      have hs' := Bool.eq_false_iff.2 hs
      have hp' : s.watcher.popen = none := by simpa using hp
      refine ⟨?_, h.greenlets.append ⟨hs', hp'⟩ fun _ _ _ ok => ok,
        .append_of_none (hc hs' hp'), h.stopping.append ?_, ?_⟩
      · exact children_of_eq h.children rfl (fun _ _ _ _ hp => hp) fun _ _ _ _ hp => hp.spawn _
      · rintro ⟨c, hin⟩
        rcases hin with hin | hin <;> cases hin
      · intro _ c hpc
        have hpc' : s.watcher.popen = some c := hpc
        rw [hp'] at hpc'
        cases hpc'

/-- While there is no child in `_popen`, no `stop` is in progress. -/
theorem WatcherInv.no_stop (h : s.WatcherInv) (hp : s.watcher.popen = none) {g : Nat}
    {pos : Greenlet} (hg : s.greenlets[g]? = some pos) : ∀ c, ¬ pos.InStop c := by
  rintro c (rfl | rfl)
  · have := (h.greenlets g _ hg).2
    rw [hp] at this
    cases this
  · have := (h.greenlets g _ hg).2
    rw [hp] at this
    cases this

/-- Nor while the watcher is started. -/
theorem WatcherInv.no_stop_of_started (h : s.WatcherInv) (hs : s.watcher.started = true) {g : Nat}
    {pos : Greenlet} (hg : s.greenlets[g]? = some pos) : ∀ c, ¬ pos.InStop c := by
  rintro c (rfl | rfl)
  · have := (h.greenlets g _ hg).1
    rw [hs] at this
    cases this
  · have := (h.greenlets g _ hg).1
    rw [hs] at this
    cases this

/-- A new child in the place of none. -/
theorem children_launched (h : Tasks.Each s.ChildOk s.children) (hp : s.watcher.popen = none)
    (now : Int) : Tasks.Each (s.launched now).ChildOk (s.launched now).children := by
  refine h.append ⟨fun _ => .inl rfl, fun hh => ?_, fun hh => ?_⟩ fun c child _ ok =>
    ⟨fun ha => ?_, ok.told, fun hh ha => ok.pending hh ha⟩
  · cases hh
  · cases hh
  · rcases ok.alive ha with hpc | hh
    · rw [hp] at hpc
      cases hpc
    · exact .inr hh

/-- A greenlet that is neither in `Popen` nor in `stop` relies on nothing. -/
theorem greenletOk_of_free (w : ProcWatcher) (g : Nat) (hl : ¬ pos.Launching)
    (hs : ∀ c, ¬ pos.InStop c) : GreenletOk w g pos := by
  cases pos with
  | startPopen => exact absurd (.inl rfl) hl
  | pollPopen => exact absurd (.inr rfl) hl
  | stopWait c => exact absurd (.inl rfl) (hs c)
  | stopKill c => exact absurd (.inr rfl) (hs c)
  | _ => trivial

/-- While one greenlet is in `Popen` the others rely on nothing. -/
theorem WatcherInv.free_of_launching (h : s.WatcherInv) (hg : s.greenlets[g]? = some pos)
    (hl : pos.Launching) (hp : s.watcher.popen = none) {g' : Nat} {pos' : Greenlet} (hne : g' ≠ g)
    (hg' : s.greenlets[g']? = some pos') : ¬ pos'.Launching ∧ ∀ c, ¬ pos'.InStop c :=
  ⟨fun hl' => hne (h.launching g' g _ _ hg' hg hl' hl), h.no_stop hp hg'⟩

theorem inv_startLaunched (h : s.WatcherInv) (hg : s.greenlets[g]? = some .startPopen)
    (now : Int) : (s.startLaunched g now).WatcherInv := by
  have hp := (h.greenlets g _ hg).2
  constructor
  · have hch := children_launched h.children hp now
    refine children_of_eq hch rfl (fun _ _ _ _ hp => hp) fun c child _ _ hpend => ?_
    refine Pending.spawn (hpend.goto (s := s.launched now) hg ?_ .done) _
    rintro (ht | ht) <;> cases ht
  · refine Tasks.Each.append (P := fun _ pos => ¬ pos.Launching ∧ ∀ c, ¬ pos.InStop c) ?_ trivial
      fun g' pos' _ hf => greenletOk_of_free _ g' hf.1 hf.2
    refine h.greenlets.set ?_ fun g' pos' hne hg' _ =>
      h.free_of_launching hg (.inl rfl) hp hne hg'
    refine ⟨?_, fun c => ?_⟩
    · rintro (hl | hl) <;> cases hl
    · rintro (hl | hl) <;> cases hl
  · refine (h.launching.set ?_).append ?_
    · rintro (hl | hl) <;> cases hl
    · rintro (hl | hl) <;> cases hl
  · refine (h.stopping.set ?_).append ?_
    · rintro ⟨c, hl | hl⟩ <;> cases hl
    · rintro ⟨c, hl | hl⟩ <;> cases hl
  · intro hs
    cases hs

theorem inv_startFailed (h : s.WatcherInv) (hg : s.greenlets[g]? = some .startPopen)
    (now : Int) : (s.startFailed g now).WatcherInv := by
  have hp := (h.greenlets g _ hg).2
  have heq : s.startFailed g now = s.detach.goto g .done := by
    have hp' : (s.detach.goto g .done).watcher.popen = none := hp
    simp only [startFailed, hp']
  rw [heq]
  constructor
  · refine children_of_eq h.children rfl (fun _ _ _ _ hp => hp) fun c child _ _ hpend => ?_
    refine Pending.goto (s := s.detach) hpend hg ?_ .done
    rintro (ht | ht) <;> cases ht
  · refine h.greenlets.set trivial fun g' pos' hne hg' _ => ?_
    have hf := h.free_of_launching hg (.inl rfl) hp hne hg'
    exact greenletOk_of_free _ g' hf.1 hf.2
  · refine h.launching.set ?_
    rintro (hl | hl) <;> cases hl
  · refine h.stopping.set ?_
    rintro ⟨c, hl | hl⟩ <;> cases hl
  · intro _ c hpc
    have hpc' : s.watcher.popen = some c := hpc
    rw [hp] at hpc'
    cases hpc'

/-- An operation that stops the watcher finds no greenlet that relies on it. -/
theorem WatcherInv.free_of_stop (h : s.WatcherInv) (hs : s.watcher.started = true)
    (hl : s.NotLaunching) (w : ProcWatcher) : Tasks.Each (GreenletOk w) s.greenlets :=
  fun g _ hg => greenletOk_of_free w g (hl g _ hg) (h.no_stop_of_started hs hg)

theorem children_detach (h : Tasks.Each s.ChildOk s.children) :
    Tasks.Each s.detach.ChildOk s.detach.children :=
  children_of_eq h rfl (fun _ _ _ _ hp => hp) fun _ _ _ _ hp => hp

theorem inv_stop (h : s.WatcherInv) (hc : s.Undisturbed .stop) : s.stop.1.WatcherInv := by
  unfold stop
  split
  · exact h
  · next hs =>
    have hs' : s.watcher.started = true := by simpa using hs
    have hfree := h.free_of_stop hs' (hc hs')
    cases hp : s.watcher.popen with
    | none =>
      refine ⟨children_detach h.children, hfree _, h.launching, h.stopping, fun _ c hpc => ?_⟩
      have hpc' : s.watcher.popen = some c := hpc
      rw [hp] at hpc'
      cases hpc'
    | some c =>
      constructor
      · have hch := children_terminate (children_detach h.children) c
        exact children_of_eq hch rfl (fun _ _ _ _ hp => hp) fun _ _ _ _ hpend => hpend.spawn _
      · exact (hfree _).append ⟨rfl, hp⟩ fun _ _ _ ok => ok
      · refine h.launching.append ?_
        rintro (hl | hl) <;> cases hl
      · exact .append_of_none fun g pos hg ⟨c, hin⟩ => h.no_stop_of_started hs' hg c hin
      · intro _ c' hpc
        have hpc' : s.watcher.popen = some c' := hpc
        rw [hp] at hpc'
        cases hpc'
        exact ⟨s.greenlets.length, _, List.getElem?_concat_length .., .inl rfl⟩

/-- Once the child in `_popen` has exited, or there is none, `_popen` can be cleared. -/
theorem children_clear (h : Tasks.Each s.ChildOk s.children) {t : WatcherSystem}
    (hch : t.children = s.children)
    (hx : ∀ c, s.watcher.popen = some c → ∀ child, s.children[c]? = some child →
      child.exited ≠ none)
    (hpend : ∀ c child, s.children[c]? = some child → child.exited = none → s.Pending c child →
      t.Pending c child) : Tasks.Each t.ChildOk t.children := by
  rw [hch]
  refine h.mono fun c child hc ok => ⟨fun ha => ?_, ok.told, fun hh ha => ?_⟩
  · rcases ok.alive ha with hp | hh
    · exact absurd ha (hx c hp child hc)
    · exact .inr hh
  · exact hpend c child hc ha (ok.pending hh ha)

theorem exited_of_exitCode {ret : Int} (h : s.exitCode c = some ret) {child : Child}
    (hc : s.children[c]? = some child) : child.exited ≠ none := by
  unfold exitCode at h
  rw [hc] at h
  intro he
  rw [Option.bind_some, he] at h
  cases h

theorem inv_stopWaited (h : s.WatcherInv) (hg : s.greenlets[g]? = some pos) (hin : pos.InStop c)
    {ret : Int} (hx : s.exitCode c = some ret) (now : Int) :
    (s.stopWaited g c ret now).WatcherInv := by
  have hw : s.watcher.started = false ∧ s.watcher.popen = some c := by
    rcases hin with rfl | rfl <;> exact h.greenlets g _ hg
  have heq : s.stopWaited g c ret now = (s.goto g .done).onProcessTerminate ret now := by
    unfold stopWaited
    exact if_pos hw.2
  rw [heq]
  constructor
  · refine children_clear h.children rfl ?_ fun c' child _ _ hpend => ?_
    · intro c' hp child hc
      rw [hw.2] at hp
      cases hp
      exact exited_of_exitCode hx hc
    · refine hpend.goto hg ?_ .done
      rintro (rfl | rfl) <;> rcases hin with hin | hin <;> cases hin
  · refine h.greenlets.set trivial fun g' pos' hne hg' ok => ?_
    refine greenletOk_of_free _ g' ?_ fun c' hin' => ?_
    · rintro (rfl | rfl)
      · cases hw.2.symm.trans ok.2
      · cases hw.1.symm.trans ok.1
    · exact hne (h.stopping g' g _ _ hg' hg ⟨c', hin'⟩ ⟨c, hin⟩)
  · refine h.launching.set ?_
    rintro (hl | hl) <;> cases hl
  · refine h.stopping.set ?_
    rintro ⟨c, hl | hl⟩ <;> cases hl
  · intro _ c' hp
    cases hp

/-- A child that is told to terminate and handed over to a new greenlet. -/
theorem children_handOver (h : Tasks.Each s.ChildOk s.children) (hp : s.watcher.popen = some c)
    (now : Int) {t : WatcherSystem}
    (ht : t = (((s.terminate c).handOver c).spawn (.termWait c)).onProcessTerminate 0 now) :
    Tasks.Each t.ChildOk t.children := by
  have hch : t.children = (s.children.modify c fun child => { child with told := true }).modify c
      fun child => { child with handed := true } := by rw [ht]; rfl
  have hgr : t.greenlets = s.greenlets ++ [.termWait c] := by rw [ht]; rfl
  rw [hch]
  refine Tasks.Each.modify (P := fun i child => (i ≠ c → t.ChildOk i child) ∧
    (i = c → child.told = true)) (h.modify ?_ ?_) ?_ ?_
  · intro child _ _
    exact ⟨fun hne => absurd rfl hne, fun _ => rfl⟩
  · intro i child hne _ ok
    refine ⟨fun _ => ⟨fun ha => ?_, ok.told, fun hh ha => ?_⟩, fun he => absurd he hne⟩
    · rcases ok.alive ha with hpi | hh
      · rw [hp] at hpi
        cases hpi
        exact absurd rfl hne
      · exact .inr hh
    · rcases ok.pending hh ha with hk | ⟨g, pos, hg, hterm⟩
      · exact .inl hk
      · refine .inr ⟨g, pos, ?_, hterm⟩
        rw [hgr]
        exact Tasks.getElem?_append_of_some hg
  · intro child _ ok
    refine ⟨fun _ => .inr rfl, fun _ => ok.2 rfl, fun _ _ => .inr ⟨s.greenlets.length, _, ?_, .inl rfl⟩⟩
    rw [hgr]
    exact List.getElem?_concat_length ..
  · exact fun i child hne _ ok => ok.1 hne

theorem inv_asyncStop (h : s.WatcherInv) {oserror : Bool} {now : Int}
    (hc : s.Undisturbed (.asyncStop oserror now)) {t : WatcherSystem}
    (ht : s.asyncStop oserror now = some t) : t.WatcherInv := by
  unfold asyncStop at ht
  split at ht
  · cases ht
    exact h
  · next hs =>
    have hs' : s.watcher.started = true := by simpa using hs
    have hfree := h.free_of_stop hs' (hc hs')
    have hdetach := children_detach h.children
    cases hp : s.watcher.popen with
    | none =>
      rw [hp] at ht
      cases ht
      refine ⟨hdetach, hfree _, h.launching, h.stopping, fun _ c hpc => ?_⟩
      have hpc' : s.watcher.popen = some c := hpc
      rw [hp] at hpc'
      cases hpc'
    | some c =>
      rw [hp] at ht
      simp only at ht
      split at ht
      · rw [Option.map_eq_some_iff] at ht
        obtain ⟨ret, hx, rfl⟩ := ht
        refine ⟨children_clear hdetach rfl ?_ fun _ _ _ _ hp => hp, hfree _, h.launching,
          h.stopping, fun _ c hpc => ?_⟩
        · intro c' hpc child hc
          have hpc' : s.watcher.popen = some c' := hpc
          rw [hp] at hpc'
          cases hpc'
          exact exited_of_exitCode hx hc
        · cases hpc
      · cases ht
        refine ⟨children_handOver hdetach hp now rfl, (hfree _).append trivial fun _ _ _ ok => ok,
          h.launching.append ?_, h.stopping.append ?_, fun _ c hpc => ?_⟩
        · rintro (hl | hl) <;> cases hl
        · rintro ⟨c', hl | hl⟩ <;> cases hl
        · cases hpc

/-- Times and counters do not matter. -/
theorem WatcherInv.of_watcher (h : s.WatcherInv) {w : ProcWatcher}
    (h1 : w.started = s.watcher.started) (h2 : w.popen = s.watcher.popen)
    (h3 : w.pollGreenlet = s.watcher.pollGreenlet) : { s with watcher := w }.WatcherInv := by
  constructor
  · exact children_of_eq h.children rfl (fun _ _ _ _ hp => h2.trans hp) fun _ _ _ _ hp => hp
  · refine h.greenlets.mono fun g pos _ ok => ?_
    cases pos with
    | startPopen => exact ⟨h1.trans ok.1, h2.trans ok.2⟩
    | pollPopen => exact ⟨h1.trans ok.1, h2.trans ok.2.1, h3.trans ok.2.2⟩
    | stopWait c => exact ⟨h1.trans ok.1, h2.trans ok.2⟩
    | stopKill c => exact ⟨h1.trans ok.1, h2.trans ok.2⟩
    | _ => trivial
  · exact h.launching
  · exact h.stopping
  · intro hs c hp
    exact h.popen (h1.symm.trans hs) c (h2.symm.trans hp)

/-- A started watcher with a child is not launching another. -/
theorem WatcherInv.notLaunching (h : s.WatcherInv) (hs : s.watcher.started = true)
    (hp : s.watcher.popen = some c) : s.NotLaunching := by
  rintro g pos hg (rfl | rfl)
  · cases hs.symm.trans (h.greenlets g _ hg).1
  · cases hp.symm.trans (h.greenlets g _ hg).2.1

theorem inv_pollTurn (h : s.WatcherInv) (hg : s.greenlets[g]? = some .pollSleep) (sees : Bool)
    (now : Int) : (s.pollTurn g sees now).WatcherInv := by
  have hstop : ∀ c, ¬ Greenlet.pollSleep.InStop c := by
    rintro c (hl | hl) <;> cases hl
  have hterm : ∀ c, ¬ Greenlet.pollSleep.InTerminate c := by
    rintro c (hl | hl) <;> cases hl
  unfold pollTurn
  split
  · exact h.gotoFree hg hstop (.inl rfl) fun c ht => absurd ht (hterm c)
  · next hcur =>
    have hs : s.watcher.started = true := by
      by_contra hs
      exact hcur (.inl (by simpa using hs))
    have hgreen : s.watcher.pollGreenlet = some g := by
      by_contra hne
      exact hcur (.inr hne)
    cases hp : s.watcher.popen with
    | none =>
      simp only
      constructor
      · refine children_of_eq h.children rfl (fun _ _ _ _ hp => hp) fun c _ _ _ hpend => ?_
        exact hpend.goto hg (hterm c) .pollPopen
      · refine h.greenlets.set ⟨hs, hp, hgreen⟩ fun g' pos' _ hg' ok => ?_
        cases pos' with
        | startPopen => exact ok
        | pollPopen => exact ok
        | stopWait c => exact ok
        | stopKill c => exact ok
        | _ => trivial
      · -- the other greenlet in `Popen` would be this one
        refine h.launching.set fun _ g' pos' hne hg' => ?_
        rintro (rfl | rfl)
        · cases hs.symm.trans (h.greenlets g' _ hg').1
        · have := hgreen.symm.trans (h.greenlets g' _ hg').2.2
          cases this
          exact hne rfl
      · refine h.stopping.set ?_
        rintro ⟨c, hl | hl⟩ <;> cases hl
      · intro hs'
        cases hs.symm.trans hs'
    | some c =>
      simp only
      split
      · next ret hret =>
        have hx : s.exitCode c = some ret := by
          split at hret
          · exact hret
          · cases hret
        have hinv : (s.onProcessTerminate ret now).WatcherInv := by
          refine ⟨children_clear h.children rfl ?_ fun _ _ _ _ hp => hp,
            h.free_of_stop hs (h.notLaunching hs hp) _, h.launching, h.stopping, fun hs' => ?_⟩
          · intro c' hpc child hc
            rw [hp] at hpc
            cases hpc
            exact exited_of_exitCode hx hc
          · cases hs.symm.trans hs'
        split
        · exact hinv
        · exact hinv.gotoFree hg hstop (.inl rfl) fun c ht => absurd ht (hterm c)
      · split
        · split
          · split
            · apply WatcherInv.kill
              exact h.of_watcher rfl rfl rfl
            · exact h.of_watcher rfl rfl rfl
          · split
            · apply WatcherInv.terminate
              exact h.of_watcher rfl rfl rfl
            · exact h.of_watcher rfl rfl rfl
        · exact h

theorem inv_pollLaunched (h : s.WatcherInv) (hg : s.greenlets[g]? = some .pollPopen) (now : Int) :
    ((s.launched now).goto g .pollSleep).WatcherInv := by
  obtain ⟨hs, hp, -⟩ := h.greenlets g _ hg
  constructor
  · have hch := children_launched h.children hp now
    refine children_of_eq hch rfl (fun _ _ _ _ hp => hp) fun c child _ _ hpend => ?_
    refine hpend.goto (s := s.launched now) hg ?_ .pollSleep
    rintro (ht | ht) <;> cases ht
  · refine h.greenlets.set trivial fun g' pos' hne hg' _ => ?_
    have hf := h.free_of_launching hg (.inr rfl) hp hne hg'
    exact greenletOk_of_free _ g' hf.1 hf.2
  · refine h.launching.set ?_
    rintro (hl | hl) <;> cases hl
  · refine h.stopping.set ?_
    rintro ⟨c, hl | hl⟩ <;> cases hl
  · intro hs'
    cases hs.symm.trans hs'

theorem inv_exit (h : s.WatcherInv) {code : Int} {t : WatcherSystem}
    (ht : s.exit c code = some t) : t.WatcherInv := by
  unfold exit at ht
  cases hc : s.children[c]? with
  | none => rw [hc] at ht; cases ht
  | some child =>
    rw [hc] at ht
    simp only at ht
    split at ht
    · cases ht
      refine ⟨h.children.set ?_ ?_, h.greenlets, h.launching, h.stopping, h.popen⟩
      · refine ⟨fun ha => ?_, (h.children c child hc).told, fun _ ha => ?_⟩
        · cases ha
        · cases ha
      · exact fun i child' _ _ ok => ⟨ok.alive, ok.told, ok.pending⟩
    · cases ht

/-- The wait of `stop` or of `_terminate_run` has timed out: the child is killed. -/
theorem inv_waitKill (h : s.WatcherInv) (hg : s.greenlets[g]? = some pos)
    {pos' : Greenlet} (hpos : (pos = .stopWait c ∧ pos' = .stopKill c) ∨
      (pos = .termWait c ∧ pos' = .termKill c)) : ((s.kill c).goto g pos').WatcherInv := by
  have hlt := (List.getElem?_eq_some_iff.1 hg).1
  have hself : ((s.kill c).greenlets.set g pos')[g]? = some pos' := List.getElem?_set_self hlt
  have hk := h.kill c
  constructor
  · refine children_of_eq hk.children rfl (fun _ _ _ _ hp => hp) fun c' child _ _ hpend => ?_
    by_cases hin : pos.InTerminate c'
    · -- the greenlet goes on terminating the same child
      refine .inr ⟨g, pos', hself, ?_⟩
      rcases hpos with ⟨rfl, rfl⟩ | ⟨rfl, rfl⟩
      · rcases hin with hin | hin <;> cases hin
      · rcases hin with hin | hin
        · cases hin
          exact .inr rfl
        · cases hin
    · exact hpend.goto hg hin pos'
  · refine hk.greenlets.set ?_ fun _ _ _ _ ok => ok
    rcases hpos with ⟨rfl, rfl⟩ | ⟨rfl, rfl⟩
    · have ok := h.greenlets g _ hg
      exact ok
    · trivial
  · refine hk.launching.set ?_
    rcases hpos with ⟨rfl, rfl⟩ | ⟨rfl, rfl⟩ <;> rintro (hl | hl) <;> cases hl
  · refine hk.stopping.set fun ⟨c', hin⟩ g' pos'' hne hg' ⟨c'', hin'⟩ => ?_
    rcases hpos with ⟨rfl, rfl⟩ | ⟨rfl, rfl⟩
    · exact hne (h.stopping g' g _ _ hg' hg ⟨c'', hin'⟩ ⟨c, .inl rfl⟩)
    · rcases hin with hin | hin <;> cases hin
  · intro hs c' hp
    obtain ⟨g', p, hg', hin⟩ := h.popen hs c' hp
    by_cases he : g = g'
    · subst he
      rw [hg] at hg'
      cases hg'
      refine ⟨g, pos', hself, ?_⟩
      rcases hpos with ⟨rfl, rfl⟩ | ⟨rfl, rfl⟩
      · rcases hin with hin | hin
        · cases hin
          exact .inr rfl
        · cases hin
      · rcases hin with hin | hin <;> cases hin
    · exact ⟨g', p, by rw [← hg']; exact List.getElem?_set_ne he, hin⟩

/-- **Inversion of a resumed greenlet.** -/
theorem resume_cases {wake : Wake} {now : Int} {t : WatcherSystem} {r : CallResult}
    (h : s.resume g wake now = some (t, r)) :
    (s.greenlets[g]? = some .startPopen ∧
      ((t = s.startLaunched g now ∧ r = .returned) ∨ (t = s.startFailed g now ∧ r = .raised))) ∨
    (∃ c ret, (s.greenlets[g]? = some (.stopWait c) ∨ s.greenlets[g]? = some (.stopKill c)) ∧
      s.exitCode c = some ret ∧ t = s.stopWaited g c ret now ∧ r = .returned) ∨
    (∃ c, s.greenlets[g]? = some (.stopWait c) ∧ t = (s.kill c).goto g (.stopKill c) ∧
      r = .blocked g) ∨
    (∃ c ret, (s.greenlets[g]? = some (.termWait c) ∨ s.greenlets[g]? = some (.termKill c)) ∧
      s.exitCode c = some ret ∧ t = s.goto g .done ∧ r = .returned) ∨
    (∃ c, s.greenlets[g]? = some (.termWait c) ∧ t = (s.kill c).goto g (.termKill c) ∧
      r = .blocked g) ∨
    (s.greenlets[g]? = some .pollSleep ∧ ∃ sees, t = s.pollTurn g sees now ∧ r = .blocked g) ∨
    (s.greenlets[g]? = some .pollPopen ∧ r = .blocked g ∧
      (t = (s.launched now).goto g .pollSleep ∨ t = s.goto g .pollSleep)) := by
  unfold resume at h
  split at h
  · next hg =>
    cases h
    exact .inl ⟨hg, .inl ⟨rfl, rfl⟩⟩
  · next hg =>
    cases h
    exact .inl ⟨hg, .inr ⟨rfl, rfl⟩⟩
  · next c hg =>
    rw [Option.map_eq_some_iff] at h
    obtain ⟨ret, hx, he⟩ := h
    cases he
    exact .inr (.inl ⟨c, ret, .inl hg, hx, rfl, rfl⟩)
  · next c hg =>
    cases h
    exact .inr (.inr (.inl ⟨c, hg, rfl, rfl⟩))
  · next c hg =>
    rw [Option.map_eq_some_iff] at h
    obtain ⟨ret, hx, he⟩ := h
    cases he
    exact .inr (.inl ⟨c, ret, .inr hg, hx, rfl, rfl⟩)
  · next c hg =>
    rw [Option.map_eq_some_iff] at h
    obtain ⟨ret, hx, he⟩ := h
    cases he
    exact .inr (.inr (.inr (.inl ⟨c, ret, .inl hg, hx, rfl, rfl⟩)))
  · next c hg =>
    cases h
    exact .inr (.inr (.inr (.inr (.inl ⟨c, hg, rfl, rfl⟩))))
  · next c hg =>
    rw [Option.map_eq_some_iff] at h
    obtain ⟨ret, hx, he⟩ := h
    cases he
    exact .inr (.inr (.inr (.inl ⟨c, ret, .inr hg, hx, rfl, rfl⟩)))
  · next sees hg =>
    cases h
    exact .inr (.inr (.inr (.inr (.inr (.inl ⟨hg, sees, rfl, rfl⟩)))))
  · next hg =>
    cases h
    exact .inr (.inr (.inr (.inr (.inr (.inr ⟨hg, rfl, .inl rfl⟩)))))
  · next hg =>
    cases h
    exact .inr (.inr (.inr (.inr (.inr (.inr ⟨hg, rfl, .inr rfl⟩)))))
  · cases h

theorem inv_resume (h : s.WatcherInv) {wake : Wake} {now : Int} {t : WatcherSystem}
    {r : CallResult} (ht : s.resume g wake now = some (t, r)) : t.WatcherInv := by
  rcases resume_cases ht with ⟨hg, ⟨rfl, -⟩ | ⟨rfl, -⟩⟩ | ⟨c, ret, hg, hx, rfl, -⟩ | ⟨c, hg, rfl, -⟩ |
    ⟨c, ret, hg, hx, rfl, -⟩ | ⟨c, hg, rfl, -⟩ | ⟨hg, sees, rfl, -⟩ | ⟨hg, -, rfl | rfl⟩
  · exact inv_startLaunched h hg now
  · exact inv_startFailed h hg now
  · rcases hg with hg | hg
    · exact inv_stopWaited h hg (.inl rfl) hx now
    · exact inv_stopWaited h hg (.inr rfl) hx now
  · exact inv_waitKill h hg (.inl ⟨rfl, rfl⟩)
  · -- the child has exited
    have hterm : ∀ {pos : Greenlet}, (pos = .termWait c ∨ pos = .termKill c) →
        ∀ c', pos.InTerminate c' → ∀ child, s.children[c']? = some child →
          child.exited ≠ none := by
      rintro pos (rfl | rfl) c' (hin | hin) child hc <;> cases hin <;>
        exact exited_of_exitCode hx hc
    rcases hg with hg | hg
    · refine h.gotoFree hg ?_ (.inl rfl) (hterm (.inl rfl))
      rintro c' (hin | hin) <;> cases hin
    · refine h.gotoFree hg ?_ (.inl rfl) (hterm (.inr rfl))
      rintro c' (hin | hin) <;> cases hin
  · exact inv_waitKill h hg (.inr ⟨rfl, rfl⟩)
  · exact inv_pollTurn h hg sees now
  · exact inv_pollLaunched h hg now
  · refine h.gotoFree hg ?_ (.inr rfl) ?_
    · rintro c' (hin | hin) <;> cases hin
    · rintro c' (hin | hin) <;> cases hin

/-- One step keeps the invariant. -/
theorem watcherInv_step {e : WatcherEvent} {t : WatcherSystem} (h : s.WatcherInv)
    (hc : s.Undisturbed e) (ht : s.watcherStep e = some t) : t.WatcherInv := by
  cases e with
  | start =>
    cases ht
    exact inv_start h hc
  | stop =>
    cases ht
    exact inv_stop h hc
  | asyncStop oserror now => exact inv_asyncStop h hc ht
  | resume g wake now =>
    rw [watcherStep, Option.map_eq_some_iff] at ht
    obtain ⟨⟨t', r⟩, hr, rfl⟩ := ht
    exact inv_resume h hr
  | exit c code => exact inv_exit h ht

/-! ## Runs -/

theorem WatcherInv.guarded (h : s.WatcherInv) : s.Guarded := by
  intro c child hc ha ht
  have ok := h.children c child hc
  rcases ok.alive ha with hp | hh
  · exact hp
  · cases (ok.told hh).symm.trans ht

/-- A stopped watcher without an operation in progress has no child in `_popen`. -/
theorem WatcherInv.popen_none (h : s.WatcherInv) (hs : s.watcher.started = false) (hi : s.Idle) :
    s.watcher.popen = none := by
  cases hp : s.watcher.popen with
  | none => rfl
  | some c =>
    obtain ⟨g, pos, hg, hin⟩ := h.popen hs c hp
    exact absurd hin ((hi g pos hg).2 c)

theorem canStart_of_popen_none (hs : s.watcher.started = false) (hp : s.watcher.popen = none) :
    s.CanStart := by
  have hstart : s.watcherStep .start = some (s.spawn .startPopen) := by
    simp [watcherStep, start, hs, hp]
  have hg : (s.spawn .startPopen).greenlets[s.greenlets.length]? = some .startPopen :=
    List.getElem?_concat_length ..
  have hresume : (s.spawn .startPopen).watcherStep (.resume s.greenlets.length .launched 0) =
      some ((s.spawn .startPopen).startLaunched s.greenlets.length 0) := by
    simp only [watcherStep, resume, hg, Option.map_some]
  exact ⟨_, Run.exec_cons_some.2 ⟨_, hstart, Run.exec_cons_some.2 ⟨_, hresume, rfl⟩⟩, rfl⟩

theorem WatcherInv.restartable (h : s.WatcherInv) : s.Restartable := by
  intro hs hi
  have hp := h.popen_none hs hi
  refine ⟨fun c child hc ha => ?_, canStart_of_popen_none hs hp⟩
  have ok := h.children c child hc
  rcases ok.alive ha with hpc | hh
  · cases hp.symm.trans hpc
  · exact ok.pending hh ha

/-- Without a child in `_popen`, only children that were handed over are alive. -/
theorem WatcherInv.exited_or_handed (h : s.WatcherInv) (hp : s.watcher.popen = none) :
    ∀ child ∈ s.children, child.exited ≠ none ∨ child.handed = true := by
  intro child hmem
  obtain ⟨c, hc⟩ := List.getElem?_of_mem hmem
  by_cases ha : child.exited = none
  · rcases (h.children c child hc).alive ha with hpc | hh
    · cases hp.symm.trans hpc
    · exact .inr hh
  · exact .inl ha

/-- When a `stop` that found the watcher started returns, there is no child in `_popen`. -/
theorem popen_of_stopReturned (h : s.WatcherInv) {e : WatcherEvent} {t : WatcherSystem}
    (hr : s.StopReturned e) (ht : s.watcherStep e = some t) : t.watcher.popen = none := by
  cases e with
  | stop =>
    obtain ⟨hs, hret⟩ := hr
    cases ht
    unfold stop at hret ⊢
    rw [if_neg (by simp [hs])] at hret ⊢
    cases hp : s.watcher.popen with
    | none => exact hp
    | some c => rw [hp] at hret; cases hret
  | resume g wake now =>
    obtain ⟨⟨pos, c, hg, hin⟩, t', hr⟩ := hr
    have hw : s.watcher.popen = some c := by
      rcases hin with rfl | rfl <;> exact (h.greenlets g _ hg).2
    simp only [watcherStep, hr, Option.map_some] at ht
    cases ht
    rcases resume_cases hr with ⟨hg', -⟩ | ⟨c', ret, hg', hx, rfl, -⟩ | ⟨c', -, -, he⟩ |
      ⟨c', ret, hg', -⟩ | ⟨c', -, -, he⟩ | ⟨-, sees, -, he⟩ | ⟨-, he, -⟩
    · rw [hg] at hg'
      cases hg'
      rcases hin with hin | hin <;> cases hin
    · have hc : c' = c := by
        rw [hg] at hg'
        rcases hin with rfl | rfl <;> rcases hg' with hg' | hg' <;> cases hg' <;> rfl
      subst hc
      unfold stopWaited
      simp only [goto, hw, if_true]
      rfl
    · cases he
    · rw [hg] at hg'
      rcases hin with rfl | rfl <;> rcases hg' with hg' | hg' <;> cases hg'
    · cases he
    · cases he
    · cases he
  | start => exact hr.elim
  | asyncStop oserror now => exact hr.elim
  | exit c code => exact hr.elim

theorem keepsChildren_of_undisturbed {e : WatcherEvent} (h : s.WatcherInv)
    (hc : s.Undisturbed e) : s.KeepsChildren (fun child => child.handed = true) e := by
  intro t ht
  have hinv := watcherInv_step h hc ht
  refine ⟨hinv.guarded, hinv.restartable, fun hr => ?_⟩
  exact hinv.exited_or_handed (popen_of_stopReturned h hr ht)

theorem watcherInv_fresh (ageTime errorRestartInterval : Int) :
    (fresh ageTime errorRestartInterval).WatcherInv := by
  refine ⟨.nil, .nil, .nil, .nil, fun _ c hp => ?_⟩
  cases hp

/-- **No child is lost** in a run in which no operation that gets past its check runs while a
`Popen` of the watcher is in progress. -/
theorem children_kept (ageTime errorRestartInterval : Int) (es : List WatcherEvent)
    (h : Run.Each watcherStep Undisturbed (fresh ageTime errorRestartInterval) es) :
    Run.Each watcherStep (KeepsChildren fun child => child.handed = true)
      (fresh ageTime errorRestartInterval) es :=
  Run.each_of_inv (fun _ _ _ h hc ht => watcherInv_step h hc ht)
    (fun _ _ h hc => keepsChildren_of_undisturbed h hc) h
    (watcherInv_fresh ageTime errorRestartInterval)

theorem notLaunching_of_forall (h : ∀ pos ∈ s.greenlets, ¬ pos.Launching) : s.NotLaunching :=
  fun _ pos hg => h pos (List.mem_of_getElem? hg)

/-- A child that ignores SIGTERM is stopped, and the watcher is started again. -/
def stopRun : List WatcherEvent :=
  [.start, .resume 0 .launched 0, .stop, .resume 2 .timeout 3, .exit 0 (-9), .resume 2 .waited 3,
   .start]

theorem children_kept_stopRun :
    Run.Each watcherStep (KeepsChildren fun child => child.handed = true) (fresh 0 30) stopRun := by
  refine children_kept 0 30 stopRun ?_
  refine .cons rfl (fun _ _ => notLaunching_of_forall (by decide)) (.cons rfl trivial ?_)
  refine .cons rfl (fun _ => notLaunching_of_forall (by decide)) (.cons rfl trivial ?_)
  refine .cons rfl trivial (.cons rfl trivial ?_)
  exact .cons rfl (fun _ _ => notLaunching_of_forall (by decide)) trivial

/-- Two `start`s that are in `Popen` at the same time leave a child that is not in `_popen`. And
when a `stop` returns, a child that `async_stop` told to terminate before may still be alive. -/
theorem children_lost :
    ¬ Run.Each watcherStep (KeepsChildren fun _ => False) (fresh 0 30)
      [.start, .start, .resume 0 .launched 0, .resume 1 .launched 0] ∧
    ¬ Run.Each watcherStep (KeepsChildren fun _ => False) (fresh 0 30)
      [.start, .resume 0 .launched 0, .asyncStop false 0, .start, .resume 3 .launched 0, .stop,
       .exit 1 0, .resume 5 .waited 0] := by
  constructor
  · intro h
    have hstep := (((h.2 _ rfl).2 _ rfl).2 _ rfl).1
    have hpopen := (hstep _ rfl).1 0 {} rfl rfl rfl
    cases hpopen
  · intro h
    have hstep := (((((((h.2 _ rfl).2 _ rfl).2 _ rfl).2 _ rfl).2 _ rfl).2 _ rfl).2 _ rfl).1
    have hlost := (hstep _ rfl).2.2 ⟨⟨.stopWait 1, 1, rfl, .inl rfl⟩, _, rfl⟩
      { told := true, handed := true } List.mem_cons_self
    rcases hlost with hlost | hlost
    · exact hlost rfl
    · exact hlost

end WatcherSystem

end StreamSwitch
