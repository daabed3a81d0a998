import StreamSwitch.Process.Phase

/-!
# Ports that run a process

`SubProcessPort` of `port_mngr.py` with the `start`, `stop`, `restart` and `reload`
calls that are in progress. The watchers that the port has had are kept in a list,
each with the time at which the `start` that created it began.

`requests_safe`: along every run in which no call begins to stop a watcher while
another call is stopping it or while it relaunches its process, and no call begins
to spawn a watcher while another does, no call uses a watcher that is `None` or
destroys one of a later `start`, at most one watcher is started, and a `stop` that
returns when no other call is in progress leaves no process behind.

`stop` reads `_proc_watcher` again after the `stop` of the watcher, which gives up
control: another `stop` has then set it to `None`, or a `start` after that to a new
watcher.
-/

namespace StreamSwitch

open WatcherSystem

inductive PortOp | start | stop | restart | reload
deriving DecidableEq

/-- How far a call has come. -/
inductive PortPos
  /-- In `spawn_watcher`, in the `start` of the watcher `w`. -/
  | spawning (w g : Nat)
  /-- In `self._proc_watcher.stop()`, for the watcher `w`; `restart` goes on with `start`. -/
  | stopping (w g : Nat) (restart : Bool)
  | returned
  /-- `spawn_watcher` raised. -/
  | spawnFailed
  /-- `AttributeError`: `None` has no method. -/
  | attributeError
deriving DecidableEq

structure PortCall where
  began : Nat
  pos : PortPos

/-- A watcher, and when the `start` that created it began. -/
structure PortWatcher where
  born : Nat
  sys : WatcherSystem

structure SubProcessPort where
  errRestartInterval : Int := 30
  /-- The position of `_proc_watcher`. -/
  procWatcher : Option Nat := none
  watchers : List PortWatcher := []
  calls : List PortCall := []
  clock : Nat := 0
  /-- For each `destroy` by a `stop`: when the call began, and the birth of the watcher. -/
  destroyed : List (Nat × Nat) := []

namespace SubProcessPort

def goto (s : SubProcessPort) (i : Nat) (pos : PortPos) : SubProcessPort :=
  { s with calls := s.calls.modify i fun call => { call with pos := pos } }

def setWatcher (s : SubProcessPort) (w : Nat) (x : WatcherSystem) : SubProcessPort :=
  { s with watchers := s.watchers.modify w fun pw => { pw with sys := x } }

/-- `start`, in the call `i`. -/
def start (s : SubProcessPort) (i : Nat) : SubProcessPort :=
  match s.procWatcher with
  | some _ => s.goto i .returned
  | none =>
    -- `spawn_watcher`: a new watcher, and its `start`
    match (fresh 0 s.errRestartInterval).start with
    | (x, .blocked g) =>
      let watchers := s.watchers ++ [PortWatcher.mk s.clock x]
      { s with watchers := watchers }.goto i (.spawning s.watchers.length g)
    | (_, _) => s.goto i .spawnFailed

/-- After `stop` a `restart` goes on with `start`. -/
def afterStop (s : SubProcessPort) (i : Nat) (restart : Bool) : SubProcessPort :=
  if restart then s.start i else s.goto i .returned

/-- `stop` from the second line on: `self._proc_watcher` is read again. -/
def stopEnd (s : SubProcessPort) (i : Nat) (restart oserror : Bool) (now : Int) :
    Option SubProcessPort :=
  match s.procWatcher with
  | none => some (s.goto i .attributeError)
  | some w =>
    match s.watchers[w]?, s.calls[i]? with
    | some pw, some call => (pw.sys.asyncStop oserror now).map fun x =>
      { s.setWatcher w x with
        procWatcher := none
        destroyed := s.destroyed ++ [(call.began, pw.born)] }.afterStop i restart
    | _, _ => none

def stop (s : SubProcessPort) (i : Nat) (restart oserror : Bool) (now : Int) :
    Option SubProcessPort :=
  match s.procWatcher with
  | none => some (s.afterStop i restart)
  | some w =>
    match s.watchers[w]? with
    | none => none
    | some pw =>
      match pw.sys.stop with
      | (x, .blocked g) => some ((s.setWatcher w x).goto i (.stopping w g restart))
      | (x, _) => (s.setWatcher w x).stopEnd i restart oserror now

/-- A call `i` begins. -/
def call (s : SubProcessPort) (i : Nat) (op : PortOp) (oserror : Bool) (now : Int) :
    Option SubProcessPort :=
  match op with
  | .start => some (s.start i)
  | .stop => s.stop i false oserror now
  | .restart => s.stop i true oserror now
  | .reload =>
    if s.procWatcher.isSome then s.stop i true oserror now else some (s.goto i .returned)

/-- The greenlet of the call `i` is resumed. -/
def resume (s : SubProcessPort) (i : Nat) (wake : Wake) (oserror : Bool) (now : Int) :
    Option SubProcessPort :=
  match (s.calls[i]?).map PortCall.pos with
  | some (.spawning w g) =>
    (s.watchers[w]?).bind fun pw =>
      match pw.sys.resume g wake now with
      | some (x, .returned) => some ({ s.setWatcher w x with procWatcher := some w }.goto i .returned)
      | some (x, .raised) =>
        -- `watcher.destroy()`
        (x.asyncStop oserror now).map fun x => (s.setWatcher w x).goto i .spawnFailed
      | _ => none
  | some (.stopping w g restart) =>
    (s.watchers[w]?).bind fun pw =>
      match pw.sys.resume g wake now with
      | some (x, .returned) => (s.setWatcher w x).stopEnd i restart oserror now
      | some (x, .blocked _) => some (s.setWatcher w x)
      | _ => none
  | _ => none

/-- A call of the port is in a method of the watcher `w`. -/
def inUse (s : SubProcessPort) (w : Nat) : Bool :=
  s.calls.any fun call =>
    match call.pos with
    | .spawning w' _ | .stopping w' _ _ => w' = w
    | _ => false

inductive PortEvent
  | call (op : PortOp) (oserror : Bool) (now : Int)
  | resume (i : Nat) (wake : Wake) (oserror : Bool) (now : Int)
  /-- A greenlet of the watcher `w` that no call waits for. -/
  | background (w g : Nat) (wake : Wake) (now : Int)
  | exit (w c : Nat) (code : Int)
  /-- A watcher that nothing refers to is deleted. -/
  | collect (w : Nat)

/-- A new call, which has not done anything yet. -/
def newCall (s : SubProcessPort) : SubProcessPort :=
  { s with calls := s.calls ++ [⟨s.clock, .returned⟩] }

/-- What happens at a moment. -/
def react (s : SubProcessPort) : PortEvent → Option SubProcessPort
  | .call op oserror now => s.newCall.call s.calls.length op oserror now
  | .resume i wake oserror now => s.resume i wake oserror now
  | .background w g wake now =>
    (s.watchers[w]?).bind fun pw =>
      if pw.sys.background g then
        (pw.sys.resume g wake now).map fun r => s.setWatcher w r.1
      else none
  | .exit w c code =>
    (s.watchers[w]?).bind fun pw => (pw.sys.exit c code).map fun x => s.setWatcher w x
  | .collect w =>
    (s.watchers[w]?).bind fun pw =>
      if s.procWatcher = some w ∨ s.inUse w ∨ .pollPopen ∈ pw.sys.greenlets then none
      else some (s.setWatcher w pw.sys.del)

def portStep (s : SubProcessPort) (e : PortEvent) : Option SubProcessPort :=
  { s with clock := s.clock + 1 }.react e

/-! ## What is promised -/

/-- The call has come back. -/
def PortPos.Done (pos : PortPos) : Prop :=
  pos = .returned ∨ pos = .spawnFailed ∨ pos = .attributeError

/-- The process of no watcher is alive or being launched. -/
def NoProcess (s : SubProcessPort) : Prop :=
  ∀ pw ∈ s.watchers, pw.sys.NotLaunching ∧ ∀ child ∈ pw.sys.children, child.exited ≠ none

/-- The call `i` is a `stop` that returns in this step. -/
def StopReturns (s : SubProcessPort) (e : PortEvent) (t : SubProcessPort) (i : Nat) : Prop :=
  (∃ call, t.calls[i]? = some call ∧ call.pos = .returned) ∧
    ((∃ oserror now, e = .call .stop oserror now ∧ i = s.calls.length) ∨
     (∃ wake oserror now call w g, e = .resume i wake oserror now ∧ s.calls[i]? = some call ∧
       call.pos = .stopping w g false))

/-- The promises about requests. -/
structure Safe (s : SubProcessPort) (e : PortEvent) (t : SubProcessPort) : Prop where
  noNone : ∀ call ∈ t.calls, call.pos ≠ .attributeError
  noLater : ∀ d ∈ t.destroyed, d.2 ≤ d.1
  oneStarted : Tasks.AtMostOne (fun pw : PortWatcher => pw.sys.watcher.started = true) t.watchers
  noProcess : ∀ i, s.StopReturns e t i →
    (∀ call ∈ t.calls, PortPos.Done call.pos) → t.NoProcess

def KeepsSafe (s : SubProcessPort) (e : PortEvent) : Prop :=
  ∀ t, s.portStep e = some t → s.Safe e t

/-- A call may begin to stop the watcher: no other call is stopping it, and it is not
relaunching. -/
def MayStop (s : SubProcessPort) : Prop :=
  ∀ w, s.procWatcher = some w →
    (∀ call ∈ s.calls, ∀ w g r, call.pos ≠ .stopping w g r) ∧
    ∀ pw, s.watchers[w]? = some pw → pw.sys.NotLaunching

/-- A call may begin to spawn a watcher: no other call does. -/
def MaySpawn (s : SubProcessPort) : Prop :=
  s.procWatcher = none → ∀ call ∈ s.calls, ∀ w g, call.pos ≠ .spawning w g

/-- Calls that overlap do not get in each other's way. -/
def Orderly (s : SubProcessPort) : PortEvent → Prop
  | .call .start _ _ => s.MaySpawn
  | .call .stop _ _ | .call .reload _ _ => s.MayStop
  | .call .restart _ _ => s.MayStop ∧ s.MaySpawn
  | _ => True

/-! ## The invariant -/

/-- The call has come back, not with an `AttributeError`. -/
def PortPos.Finished (pos : PortPos) : Prop := pos = .returned ∨ pos = .spawnFailed

/-- The watchers are in these phases, and `cur` is the one of the port. -/
structure Watchers (s : SubProcessPort) (cur : Option Nat) (phase : Nat → Phase) : Prop where
  procWatcher : s.procWatcher = cur
  held : ∀ (w : Nat) pw, s.watchers[w]? = some pw → pw.sys.Held (phase w) ∧ pw.born ≤ s.clock
  destroyed : ∀ d ∈ s.destroyed, d.2 ≤ d.1

/-- The calls, and the one in progress. -/
def Calls (s : SubProcessPort) (active : Option (Nat × PortPos)) : Prop :=
  Tasks.OneActive PortCall.pos PortPos.Finished active s.calls

/-- What the port is doing. -/
inductive Mode
  | idle
  | spawning (i w g : Nat)
  | running (w : Nat)
  | stopping (i w g : Nat) (restart : Bool)

/-- One watcher in a phase, the others are off. -/
def only (w : Nat) (ph : Phase) : Nat → Phase := Function.update (fun _ => .off) w ph

namespace Mode

/-- The watcher of the port. -/
def cur : Mode → Option Nat
  | .idle | .spawning _ _ _ => none
  | .running w | .stopping _ w _ _ => some w

/-- The watcher that is in use. -/
def watcher : Mode → Option Nat
  | .idle => none
  | .spawning _ w _ | .running w | .stopping _ w _ _ => some w

def phase : Mode → Nat → Phase
  | .idle => fun _ => .off
  | .spawning _ w g => only w (.starting g)
  | .running w => only w .on
  | .stopping _ w g _ => only w (.stopping g)

/-- The call in progress. -/
def active : Mode → Option (Nat × PortPos)
  | .idle | .running _ => none
  | .spawning i w g => some (i, .spawning w g)
  | .stopping i w g r => some (i, .stopping w g r)

end Mode

structure InMode (s : SubProcessPort) (m : Mode) : Prop where
  watchers : s.Watchers m.cur m.phase
  exists_watcher : ∀ w, m.watcher = some w → w < s.watchers.length
  calls : s.Calls m.active
  /-- A watcher is stopped by a call that began after its birth. -/
  born : ∀ i w g r, m = .stopping i w g r → ∀ pw, s.watchers[w]? = some pw →
    ∃ call, s.calls[i]? = some call ∧ pw.born ≤ call.began

def HasMode (s : SubProcessPort) : Prop := ∃ m, s.InMode m

variable {s t : SubProcessPort} {m : Mode} {cur : Option Nat} {phase : Nat → Phase} {w g i : Nat}
  {x : WatcherSystem} {ph : Phase} {active : Option (Nat × PortPos)}

theorem Watchers.goto (h : s.Watchers cur phase) (i : Nat) (pos : PortPos) :
    (s.goto i pos).Watchers cur phase :=
  ⟨h.procWatcher, h.held, h.destroyed⟩

theorem Watchers.setWatcher (h : s.Watchers cur phase) (hx : x.Held ph) :
    (s.setWatcher w x).Watchers cur (Function.update phase w ph) := by
  refine ⟨h.procWatcher, ?_, h.destroyed⟩
  refine Tasks.Each.modify (P := fun i (pw : PortWatcher) => pw.sys.Held (phase i) ∧
    pw.born ≤ s.clock) h.held ?_ ?_
  · intro pw _ hp
    rw [Function.update_self]
    exact ⟨hx, hp.2⟩
  · intro w' pw hne _ hp
    rw [Function.update_of_ne hne]
    exact hp

/-- The watcher stays in its phase. -/
theorem Watchers.setWatcher_same (h : s.Watchers cur phase) (hx : x.Held (phase w)) :
    (s.setWatcher w x).Watchers cur phase := by
  have h' := h.setWatcher (w := w) hx
  rwa [Function.update_eq_self] at h'

theorem only_update (w : Nat) (ph ph' : Phase) : Function.update (only w ph) w ph' = only w ph' :=
  Function.update_idem ..

theorem only_off (w : Nat) : only w .off = fun _ => .off := Function.update_eq_self ..

theorem only_self (w : Nat) (ph : Phase) : only w ph w = ph := Function.update_self ..

theorem only_of_ne {w w' : Nat} (h : w' ≠ w) (ph : Phase) : only w ph w' = .off :=
  Function.update_of_ne h ..

/-- The watcher that is in use moves to another phase. -/
theorem Watchers.moved (h : s.Watchers cur (only w ph)) {ph' : Phase} (hx : x.Held ph') :
    (s.setWatcher w x).Watchers cur (only w ph') := by
  have h' := h.setWatcher (w := w) hx
  rwa [only_update] at h'

/-- The watcher that was in use is off. -/
theorem Watchers.stopped (h : s.Watchers cur (only w ph)) (hx : x.Held .off) :
    (s.setWatcher w x).Watchers cur fun _ => .off := by
  have h' := h.moved hx
  rwa [only_off] at h'

theorem setWatcher_length (s : SubProcessPort) (w : Nat) (x : WatcherSystem) :
    (s.setWatcher w x).watchers.length = s.watchers.length :=
  List.length_modify ..

theorem setWatcher_getElem? {pw : PortWatcher} (hpw : s.watchers[w]? = some pw)
    (x : WatcherSystem) : (s.setWatcher w x).watchers[w]? = some { pw with sys := x } := by
  show (s.watchers.modify w _)[w]? = _
  rw [List.getElem?_modify_eq, hpw]
  rfl

/-- A call that is not the active one comes back. -/
theorem Calls.other (h : s.Calls active) (hi : ∀ p, active ≠ some (i, p)) {pos : PortPos}
    (hpos : PortPos.Finished pos) : (s.goto i pos).Calls active :=
  Tasks.OneActive.modify_other h hi fun _ => hpos

/-- A call comes back, and none is in progress. -/
theorem Calls.finish (h : s.Calls active) (hact : ∀ j p, active = some (j, p) → j = i)
    {pos : PortPos} (hpos : PortPos.Finished pos) : (s.goto i pos).Calls none :=
  Tasks.OneActive.finish h hact fun _ => hpos

/-- A call becomes the active one, or goes on. -/
theorem Calls.become (h : s.Calls active) (hact : ∀ j p, active = some (j, p) → j = i)
    (hi : i < s.calls.length) (pos : PortPos) : (s.goto i pos).Calls (some (i, pos)) :=
  Tasks.OneActive.become h hact hi fun _ => rfl

/-- The position of the active call. -/
theorem Calls.pos_of_active {call : PortCall} {pos : PortPos} (h : s.Calls (some (i, pos)))
    (hcall : s.calls[i]? = some call) : call.pos = pos := by
  obtain ⟨call', hcall', hpos⟩ := h.underway i pos rfl
  rw [hcall] at hcall'
  cases hcall'
  exact hpos

theorem Calls.exists_active {pos : PortPos} (h : s.Calls (some (i, pos))) :
    ∃ call ∈ s.calls, call.pos = pos := by
  obtain ⟨call, hcall, hpos⟩ := h.underway i pos rfl
  exact ⟨call, List.mem_of_getElem? hcall, hpos⟩

/-! ## Calls keep it -/

theorem start_of_some (hw : s.procWatcher = some w) (i : Nat) : s.start i = s.goto i .returned := by
  simp only [start, hw]

/-- Spawning a watcher. -/
theorem start_mode (hw : s.Watchers none fun _ => .off) (hc : s.Calls active)
    (hact : ∀ j p, active = some (j, p) → j = i) (hi : i < s.calls.length) :
    ∃ g, (s.start i).InMode (.spawning i s.watchers.length g) := by
  obtain ⟨x, g, hx, hheld⟩ := (held_fresh 0 s.errRestartInterval).start
  have he : s.start i = { s with watchers := s.watchers ++ [PortWatcher.mk s.clock x] }.goto i
      (.spawning s.watchers.length g) := by
    simp only [start, hw.procWatcher, hx]
  rw [he]
  refine ⟨g, ⟨hw.procWatcher, ?_, hw.destroyed⟩, fun w hw' => ?_, ?_, fun i' w' g' r hm => ?_⟩
  · refine Tasks.Each.append (P := fun _ (pw : PortWatcher) => pw.sys.Held .off ∧
      pw.born ≤ s.clock) hw.held ?_ fun w pw hpw hp => ?_
    · show _ ∧ _
      rw [Mode.phase, only_self]
      exact ⟨hheld, Nat.le_refl _⟩
    · have hlt := (List.getElem?_eq_some_iff.1 hpw).1
      rw [Mode.phase, only_of_ne (by omega)]
      exact hp
  · cases hw'
    show s.watchers.length < (s.watchers ++ [_]).length
    rw [List.length_append]
    exact Nat.lt_succ_self _
  · exact Calls.become (s := { s with watchers := _ }) hc hact hi _
  · cases hm

/-- The port without its watcher, and with the record of who destroyed it. -/
theorem Watchers.dropped (h : s.Watchers cur phase) {began born : Nat} (hborn : born ≤ began) :
    Watchers { s with procWatcher := none, destroyed := s.destroyed ++ [(began, born)] } none
      phase := by
  refine ⟨rfl, h.held, fun d hd => ?_⟩
  rcases List.mem_append.1 hd with hd | hd
  · exact h.destroyed d hd
  · rw [List.mem_singleton.1 hd]
    exact hborn

/-- Without a watcher and a call in progress the port is idle. -/
theorem inMode_idle (hw : s.Watchers none fun _ => .off) (hc : s.Calls none) : s.InMode .idle := by
  refine ⟨hw, fun w hw' => ?_, hc, fun i w g r hm => ?_⟩
  · cases hw'
  · cases hm

/-- `stop` after the watcher has stopped: the port is left without a watcher. -/
theorem stopEnd_mode {restart oserror : Bool} {now : Int} {call : PortCall} {pw : PortWatcher}
    (hw : s.Watchers (some w) fun _ => .off) (hc : s.Calls active)
    (hact : ∀ j p, active = some (j, p) → j = i) (hcall : s.calls[i]? = some call)
    (hpw : s.watchers[w]? = some pw) (hborn : pw.born ≤ call.began)
    (ht : s.stopEnd i restart oserror now = some t) :
    (restart = false → t.InMode .idle) ∧ t.HasMode := by
  have hheld := (hw.held w pw hpw).1
  have hasync := asyncStop_of_not_started hheld.phase.1 oserror now
  have hw' := (hw.setWatcher_same (w := w) hheld).dropped hborn
  have hc' : Calls { s.setWatcher w pw.sys with
    procWatcher := none
    destroyed := s.destroyed ++ [(call.began, pw.born)] } active := hc
  simp only [stopEnd, hw.procWatcher, hpw, hcall, hasync, Option.map_some, Option.some.injEq] at ht
  subst ht
  unfold afterStop
  cases restart with
  | false =>
    have hidle := inMode_idle (hw'.goto i .returned) (hc'.finish hact (.inl rfl))
    exact ⟨fun _ => hidle, .idle, hidle⟩
  | true =>
    refine ⟨fun h => ?_, ?_⟩
    · cases h
    · obtain ⟨g, hg⟩ := start_mode hw' hc' hact (List.getElem?_eq_some_iff.1 hcall).1
      exact ⟨_, hg⟩

/-- Time passes. -/
theorem InMode.tick (h : s.InMode m) : { s with clock := s.clock + 1 }.InMode m := by
  have hw := h.watchers
  refine ⟨⟨hw.procWatcher, fun w pw hpw => ?_, hw.destroyed⟩, h.exists_watcher, h.calls, h.born⟩
  exact ⟨(hw.held w pw hpw).1, Nat.le_succ_of_le (hw.held w pw hpw).2⟩

theorem InMode.newCall (h : s.InMode m) : s.newCall.InMode m := by
  have hw := h.watchers
  refine ⟨⟨hw.procWatcher, hw.held, hw.destroyed⟩, h.exists_watcher,
    Tasks.OneActive.append h.calls (.inl rfl), fun i w g r hm pw hpw => ?_⟩
  obtain ⟨call, hcall, hborn⟩ := h.born i w g r hm pw hpw
  exact ⟨call, Tasks.getElem?_append_of_some hcall, hborn⟩

/-- A call that is not the active one comes back. -/
theorem InMode.other (h : s.InMode m) (hi : ∀ p, m.active ≠ some (i, p)) {pos : PortPos}
    (hpos : PortPos.Finished pos) : (s.goto i pos).InMode m := by
  refine ⟨h.watchers.goto i pos, h.exists_watcher, h.calls.other hi hpos,
    fun i' w g r hm pw hpw => ?_⟩
  obtain ⟨call, hcall, hborn⟩ := h.born i' w g r hm pw hpw
  have hne : i ≠ i' := by
    rintro rfl
    rw [hm] at hi
    exact hi _ rfl
  refine ⟨call, ?_, hborn⟩
  show (s.calls.modify i _)[i']? = some call
  rw [List.getElem?_modify_ne _ _ hne]
  exact hcall

/-- A new call comes back at once. -/
theorem InMode.answered (h : s.InMode m) :
    (s.newCall.goto s.calls.length .returned).InMode m :=
  h.newCall.other (Tasks.OneActive.length_free h.calls) (.inl rfl)

/-- A call that begins to stop the watcher of a running port. -/
theorem stop_running {restart oserror : Bool} {now : Int} {call : PortCall}
    (h : s.InMode (.running w)) (hcall : s.calls[i]? = some call) (hbegan : call.began = s.clock)
    (hl : ∀ pw, s.watchers[w]? = some pw → pw.sys.NotLaunching)
    (ht : s.stop i restart oserror now = some t) :
    (∃ g, t.InMode (.stopping i w g restart)) ∨
      ((restart = false → t.InMode .idle) ∧ t.HasMode) := by
  have hw : s.Watchers (some w) (only w .on) := h.watchers
  have hc : s.Calls none := h.calls
  have hlt := h.exists_watcher w rfl
  have hpw := List.getElem?_eq_getElem hlt
  obtain ⟨hheld, hborn⟩ := hw.held w _ hpw
  rw [only_self] at hheld
  have hact : ∀ (j : Nat) (p : PortPos), none = some (j, p) → j = i := fun j p hp => by cases hp
  simp only [stop, hw.procWatcher, hpw] at ht
  rcases hheld.stop (hl _ hpw) with ⟨y, hy, hoff⟩ | ⟨y, g, hy, hstop⟩
  · rw [hy] at ht
    exact .inr (stopEnd_mode (s := s.setWatcher w y) (hw.stopped hoff) hc hact hcall
      (setWatcher_getElem? hpw y) (hbegan ▸ hborn) ht)
  · rw [hy] at ht
    cases ht
    have hset := (hw.moved hstop).goto i (.stopping w g restart)
    refine .inl ⟨g, hset, fun w' hw' => ?_, ?_, fun i' w' g' r hm pw hpw' => ?_⟩
    · cases hw'
      exact (setWatcher_length s w y).symm ▸ hlt
    · exact Calls.become (s := s.setWatcher w y) hc hact (List.getElem?_eq_some_iff.1 hcall).1 _
    · cases hm
      refine ⟨{ call with pos := .stopping w g restart }, ?_, ?_⟩
      · show (s.calls.modify i _)[i]? = _
        rw [List.getElem?_modify_eq, hcall]
        rfl
      · exact hbegan ▸ (hset.held w pw hpw').2

/-- The call `i` has returned. -/
def Returned (s : SubProcessPort) (i : Nat) : Prop :=
  ∃ call, s.calls[i]? = some call ∧ call.pos = .returned

/-- A new call of `stop`, or the first half of a new `restart`. -/
theorem stop_mode {restart oserror : Bool} {now : Int} (h : s.InMode m)
    (hstop : s.MayStop) (hspawn : restart = true → s.MaySpawn)
    (ht : s.newCall.stop s.calls.length restart oserror now = some t) :
    t.HasMode ∧
      (restart = false → t.Returned s.calls.length → t.procWatcher = none) := by
  have hnew := h.newCall
  have hcall : s.newCall.calls[s.calls.length]? = some ⟨s.clock, .returned⟩ :=
    List.getElem?_concat_length ..
  have hlt := (List.getElem?_eq_some_iff.1 hcall).1
  cases m with
  | idle =>
    simp only [stop, hnew.watchers.procWatcher, Mode.cur, Option.some.injEq] at ht
    subst ht
    cases restart with
    | false => exact ⟨⟨.idle, h.answered⟩, fun _ _ => h.watchers.procWatcher⟩
    | true =>
      obtain ⟨g, hg⟩ := start_mode hnew.watchers hnew.calls (fun j p hp => by cases hp) hlt
      refine ⟨⟨_, hg⟩, fun hr => ?_⟩
      cases hr
  | spawning i w g =>
    simp only [stop, hnew.watchers.procWatcher, Mode.cur, Option.some.injEq] at ht
    subst ht
    cases restart with
    | false => exact ⟨⟨.spawning i w g, h.answered⟩, fun _ _ => h.watchers.procWatcher⟩
    | true =>
      obtain ⟨call, hmem, hpos⟩ := Calls.exists_active h.calls
      exact absurd hpos (hspawn rfl h.watchers.procWatcher call hmem w g)
  | running w =>
    have hl := (hstop w h.watchers.procWatcher).2
    rcases stop_running hnew hcall rfl hl ht with ⟨g, hm⟩ | ⟨hidle, hm⟩
    · refine ⟨⟨_, hm⟩, fun _ ⟨call, hcall', hret⟩ => ?_⟩
      cases hret.symm.trans (Calls.pos_of_active hm.calls hcall')
    · exact ⟨hm, fun hr _ => (hidle hr).watchers.procWatcher⟩
  | stopping i w g r =>
    obtain ⟨call, hmem, hpos⟩ := Calls.exists_active h.calls
    exact absurd hpos ((hstop w h.watchers.procWatcher).1 call hmem w g r)

theorem call_mode {op : PortOp} {oserror : Bool} {now : Int} (h : s.InMode m)
    (hc : s.Orderly (.call op oserror now))
    (ht : s.newCall.call s.calls.length op oserror now = some t) :
    t.HasMode ∧ (op = .stop → t.Returned s.calls.length → t.procWatcher = none) := by
  have hnew := h.newCall
  cases op with
  | start =>
    cases ht
    refine ⟨?_, fun hop => by cases hop⟩
    cases hp : s.procWatcher with
    | some w =>
      rw [start_of_some (s := s.newCall) hp]
      exact ⟨m, h.answered⟩
    | none =>
      cases m with
      | idle =>
        obtain ⟨g, hg⟩ := start_mode hnew.watchers hnew.calls (fun j p hp => by cases hp)
          (i := s.calls.length) (List.getElem?_eq_some_iff.1 (List.getElem?_concat_length ..)).1
        exact ⟨_, hg⟩
      | spawning i w g =>
        obtain ⟨call, hmem, hpos⟩ := Calls.exists_active h.calls
        exact absurd hpos (hc hp call hmem w g)
      | running w => cases hp.symm.trans h.watchers.procWatcher
      | stopping i w g r => cases hp.symm.trans h.watchers.procWatcher
  | stop =>
    obtain ⟨h1, h2⟩ := stop_mode h hc (fun hr => by cases hr) ht
    exact ⟨h1, fun _ => h2 rfl⟩
  | restart =>
    refine ⟨(stop_mode h hc.1 (fun _ => hc.2) ht).1, fun hop => ?_⟩
    cases hop
  | reload =>
    refine ⟨?_, fun hop => by cases hop⟩
    simp only [call] at ht
    split at ht
    · next hsome =>
      refine (stop_mode h hc (fun _ hp => ?_) ht).1
      rw [show s.newCall.procWatcher = none from hp] at hsome
      cases hsome
    · cases ht
      exact ⟨m, h.answered⟩

/-- A call that has come back is not resumed. -/
theorem resume_of_finished {call : PortCall} (hcall : s.calls[i]? = some call)
    (hpos : PortPos.Finished call.pos) (wake : Wake) (oserror : Bool) (now : Int) :
    s.resume i wake oserror now = none := by
  unfold resume
  rw [hcall, Option.map_some]
  rcases hpos with hpos | hpos <;> rw [hpos]

/-- The call that is resumed is the active one. -/
theorem InMode.resume_active {wake : Wake} {oserror : Bool} {now : Int}
    (h : s.InMode m) (ht : s.resume i wake oserror now = some t) :
    ∃ call, s.calls[i]? = some call ∧
      ((∃ w g, m = .spawning i w g ∧ call.pos = .spawning w g) ∨
       (∃ w g r, m = .stopping i w g r ∧ call.pos = .stopping w g r)) := by
  cases hcall : s.calls[i]? with
  | none =>
    unfold resume at ht
    rw [hcall] at ht
    cases ht
  | some call =>
    have hactive : m.active = some (i, call.pos) := by
      refine Tasks.OneActive.eq_active h.calls hcall fun hfin => ?_
      rw [resume_of_finished hcall hfin] at ht
      cases ht
    refine ⟨call, rfl, ?_⟩
    cases m with
    | idle => cases hactive
    | spawning i' w g =>
      injection hactive with hactive
      injection hactive with hi hpos
      exact .inl ⟨w, g, by rw [hi], hpos.symm⟩
    | running w => cases hactive
    | stopping i' w g r =>
      injection hactive with hactive
      injection hactive with hi hpos
      exact .inr ⟨w, g, r, by rw [hi], hpos.symm⟩

theorem resume_spawning {wake : Wake} {oserror : Bool} {now : Int} {call : PortCall}
    (h : s.InMode (.spawning i w g)) (hcall : s.calls[i]? = some call)
    (hpos : call.pos = .spawning w g) (ht : s.resume i wake oserror now = some t) :
    t.HasMode := by
  have hw : s.Watchers none (only w (.starting g)) := h.watchers
  have hlt := h.exists_watcher w rfl
  have hpw := List.getElem?_eq_getElem hlt
  have hheld := (hw.held w _ hpw).1
  rw [only_self] at hheld
  have hact : ∀ j p, (Mode.spawning i w g).active = some (j, p) → j = i := by
    intro j p hp
    cases hp
    rfl
  simp only [resume, hcall, Option.map_some, hpos, hpw, Option.bind_some] at ht
  cases hr : (s.watchers[w]).sys.resume g wake now with
  | none => rw [hr] at ht; cases ht
  | some p =>
    obtain ⟨x, r⟩ := p
    rw [hr] at ht
    rcases hheld.resumeStart hr with ⟨rfl, hon⟩ | ⟨rfl, hoff⟩
    · cases ht
      have hset := hw.moved hon
      refine ⟨.running w, ⟨rfl, hset.held, hset.destroyed⟩, fun w' hw' => ?_, ?_,
        fun i' w' g' r hm => ?_⟩
      · cases hw'
        exact (setWatcher_length s w x).symm ▸ hlt
      · exact Calls.finish (s := { s.setWatcher w x with procWatcher := some w }) h.calls hact
          (.inl rfl)
      · cases hm
    · simp only [asyncStop_of_not_started hoff.phase.1, Option.map_some] at ht
      cases ht
      exact ⟨.idle, inMode_idle ((hw.stopped hoff).goto i _)
        (Calls.finish (s := s.setWatcher w x) h.calls hact (.inr rfl))⟩

theorem resume_stopping {restart : Bool} {wake : Wake} {oserror : Bool} {now : Int}
    {call : PortCall} (h : s.InMode (.stopping i w g restart)) (hcall : s.calls[i]? = some call)
    (hpos : call.pos = .stopping w g restart) (ht : s.resume i wake oserror now = some t) :
    t.InMode (.stopping i w g restart) ∨ ((restart = false → t.InMode .idle) ∧ t.HasMode) := by
  have hw : s.Watchers (some w) (only w (.stopping g)) := h.watchers
  have hlt := h.exists_watcher w rfl
  have hpw := List.getElem?_eq_getElem hlt
  have hheld := (hw.held w _ hpw).1
  rw [only_self] at hheld
  obtain ⟨call', hcall', hborn⟩ := h.born i w g restart rfl _ hpw
  rw [hcall] at hcall'
  cases hcall'
  simp only [resume, hcall, Option.map_some, hpos, hpw, Option.bind_some] at ht
  cases hr : (s.watchers[w]).sys.resume g wake now with
  | none => rw [hr] at ht; cases ht
  | some p =>
    obtain ⟨x, r⟩ := p
    rw [hr] at ht
    rcases hheld.resumeStop hr with ⟨rfl, hoff⟩ | ⟨rfl, hstop⟩
    · refine .inr (stopEnd_mode (s := s.setWatcher w x) (hw.stopped hoff) h.calls ?_ hcall
        (setWatcher_getElem? hpw x) hborn ht)
      intro j p hp
      cases hp
      rfl
    · cases ht
      refine .inl ⟨hw.moved hstop, fun w' hw' => ?_, h.calls, fun i' w' g' r hm pw hpw' => ?_⟩
      · cases hw'
        exact (setWatcher_length s w x).symm ▸ hlt
      · cases hm
        rw [setWatcher_getElem? hpw x] at hpw'
        cases hpw'
        exact ⟨call, hcall, hborn⟩

/-- A watcher changes by itself, in its phase. -/
theorem InMode.setWatcher {pw : PortWatcher} (h : s.InMode m)
    (hpw : s.watchers[w]? = some pw) (hx : ∀ ph, pw.sys.Held ph → x.Held ph) :
    (s.setWatcher w x).InMode m := by
  refine ⟨h.watchers.setWatcher_same (hx _ (h.watchers.held w pw hpw).1), fun w' hw' => ?_, h.calls,
    fun i w' g r hm pw' hpw' => ?_⟩
  · rw [setWatcher_length]
    exact h.exists_watcher w' hw'
  · rcases Tasks.getElem?_modify_some hpw' with ⟨rfl, pw₀, hpw₀, rfl⟩ | ⟨-, hpw'⟩
    · exact h.born i w' g r hm pw₀ hpw₀
    · exact h.born i w' g r hm pw' hpw'

/-- A watcher that nothing refers to is off. -/
theorem InMode.off_of_unused {pw : PortWatcher} (h : s.InMode m)
    (hpw : s.watchers[w]? = some pw) (hcur : s.procWatcher ≠ some w) (huse : s.inUse w = false) :
    pw.sys.Held .off := by
  have hheld := (h.watchers.held w pw hpw).1
  rw [h.watchers.procWatcher] at hcur
  cases m with
  | idle => exact hheld
  | spawning i w' g =>
    have hne : w ≠ w' := by
      rintro rfl
      obtain ⟨call, hmem, hpos⟩ := Calls.exists_active h.calls
      have huse' := List.any_eq_false.1 huse call hmem
      simp [hpos] at huse'
    rwa [Mode.phase, only_of_ne hne] at hheld
  | running w' =>
    have hne : w ≠ w' := by
      rintro rfl
      exact hcur rfl
    rwa [Mode.phase, only_of_ne hne] at hheld
  | stopping i w' g r =>
    have hne : w ≠ w' := by
      rintro rfl
      exact hcur rfl
    rwa [Mode.phase, only_of_ne hne] at hheld

/-! ## Runs -/

/-- **One step**: the port is in a mode again, and a `stop` that returns leaves it without a
watcher. -/
theorem mode_step {e : PortEvent} (h : s.InMode m) (hc : s.Orderly e)
    (ht : s.portStep e = some t) :
    t.HasMode ∧ ∀ i, s.StopReturns e t i → t.procWatcher = none := by
  have htick := h.tick
  cases e with
  | call op oserror now =>
    obtain ⟨h1, h2⟩ := call_mode (s := { s with clock := s.clock + 1 }) htick hc ht
    refine ⟨h1, fun i hi => ?_⟩
    obtain ⟨hret, ⟨_, _, he, rfl⟩ | ⟨_, _, _, _, _, _, he, -⟩⟩ := hi
    · cases he
      exact h2 rfl hret
    · cases he
  | resume i wake oserror now =>
    obtain ⟨call, hcall, ⟨w, g, rfl, hpos⟩ | ⟨w, g, r, rfl, hpos⟩⟩ := htick.resume_active ht
    · refine ⟨resume_spawning htick hcall hpos ht, fun i' hi => ?_⟩
      obtain ⟨-, ⟨_, _, he, -⟩ | ⟨_, _, _, call', w', g', he, hcall', hpos'⟩⟩ := hi
      · cases he
      · cases he
        cases hcall.symm.trans hcall'
        cases hpos.symm.trans hpos'
    · rcases resume_stopping htick hcall hpos ht with hm | ⟨hidle, hm⟩
      · refine ⟨⟨_, hm⟩, fun i' hi => ?_⟩
        obtain ⟨⟨call', hcall', hret⟩, ⟨_, _, he, -⟩ | ⟨_, _, _, _, _, _, he, -⟩⟩ := hi
        · cases he
        · cases he
          cases hret.symm.trans (Calls.pos_of_active hm.calls hcall')
      · refine ⟨hm, fun i' hi => ?_⟩
        obtain ⟨-, ⟨_, _, he, -⟩ | ⟨_, _, _, call', w', g', he, hcall', hpos'⟩⟩ := hi
        · cases he
        · cases he
          cases hcall.symm.trans hcall'
          cases hpos.symm.trans hpos'
          exact (hidle rfl).watchers.procWatcher
  | background w g wake now =>
    refine ⟨?_, fun i hi => ?_⟩
    · simp only [portStep, react, Option.bind_eq_some_iff] at ht
      obtain ⟨pw, hpw, ht⟩ := ht
      split at ht
      · next hb =>
        rw [Option.map_eq_some_iff] at ht
        obtain ⟨⟨x, r⟩, hr, rfl⟩ := ht
        exact ⟨m, htick.setWatcher hpw fun ph hheld => hheld.background hb hr⟩
      · cases ht
    · obtain ⟨-, ⟨_, _, he, -⟩ | ⟨_, _, _, _, _, _, he, -⟩⟩ := hi <;> cases he
  | exit w c code =>
    refine ⟨?_, fun i hi => ?_⟩
    · simp only [portStep, react, Option.bind_eq_some_iff, Option.map_eq_some_iff] at ht
      obtain ⟨pw, hpw, x, hx, rfl⟩ := ht
      exact ⟨m, htick.setWatcher hpw fun ph hheld => hheld.exit hx⟩
    · obtain ⟨-, ⟨_, _, he, -⟩ | ⟨_, _, _, _, _, _, he, -⟩⟩ := hi <;> cases he
  | collect w =>
    refine ⟨?_, fun i hi => ?_⟩
    · simp only [portStep, react, Option.bind_eq_some_iff] at ht
      obtain ⟨pw, hpw, ht⟩ := ht
      split at ht
      · cases ht
      · next hfree =>
        cases ht
        rw [not_or, not_or] at hfree
        have hoff := htick.off_of_unused hpw hfree.1 (Bool.eq_false_iff.2 hfree.2.1)
        exact ⟨m, htick.setWatcher hpw fun ph hheld => hoff.del hheld⟩
    · obtain ⟨-, ⟨_, _, he, -⟩ | ⟨_, _, _, _, _, _, he, -⟩⟩ := hi <;> cases he

/-- No call in progress or finished has met `None`. -/
theorem InMode.noNone (h : s.InMode m) : ∀ call ∈ s.calls, call.pos ≠ .attributeError := by
  intro call hmem hpos
  obtain ⟨i, hi⟩ := List.getElem?_of_mem hmem
  have hactive : m.active = some (i, call.pos) := by
    refine Tasks.OneActive.eq_active h.calls hi ?_
    rw [hpos]
    rintro (hfin | hfin) <;> cases hfin
  rw [hpos] at hactive
  cases m <;> cases hactive

theorem InMode.oneStarted (h : s.InMode m) :
    Tasks.AtMostOne (fun pw : PortWatcher => pw.sys.watcher.started = true) s.watchers := by
  -- only the watcher in use can be started
  have hstarted : ∀ (w : Nat) pw, s.watchers[w]? = some pw → pw.sys.watcher.started = true →
      m.watcher = some w := by
    intro w pw hpw hs
    have hheld := (h.watchers.held w pw hpw).1
    have hphase := hheld.started_iff.1 hs
    cases m with
    | idle => cases hphase
    | spawning i w' g =>
      by_contra hne
      rw [Mode.phase, only_of_ne fun hw => hne (congrArg some hw.symm)] at hphase
      cases hphase
    | running w' =>
      by_contra hne
      rw [Mode.phase, only_of_ne fun hw => hne (congrArg some hw.symm)] at hphase
      cases hphase
    | stopping i w' g r =>
      by_contra hne
      rw [Mode.phase, only_of_ne fun hw => hne (congrArg some hw.symm)] at hphase
      cases hphase
  intro i j a b ha hb hsa hsb
  have hi := hstarted i a ha hsa
  rw [hstarted j b hb hsb] at hi
  cases hi
  rfl

/-- A port without a watcher and without a call in progress has no process. -/
theorem InMode.noProcess (h : s.InMode m) (hp : s.procWatcher = none)
    (hdone : ∀ call ∈ s.calls, PortPos.Done call.pos) : s.NoProcess := by
  cases m with
  | idle =>
    intro pw hmem
    obtain ⟨w, hw⟩ := List.getElem?_of_mem hmem
    have hheld := (h.watchers.held w pw hw).1
    exact ⟨hheld.phase.2.2, hheld.exited⟩
  | spawning i w g =>
    obtain ⟨call, hmem, hpos⟩ := Calls.exists_active h.calls
    rcases hdone call hmem with hd | hd | hd <;> cases hpos.symm.trans hd
  | running w => cases hp.symm.trans h.watchers.procWatcher
  | stopping i w g r => cases hp.symm.trans h.watchers.procWatcher

theorem keepsSafe_of_orderly {e : PortEvent} (h : s.InMode m) (hc : s.Orderly e) :
    s.KeepsSafe e := by
  intro t ht
  obtain ⟨⟨m', hm⟩, hstop⟩ := mode_step h hc ht
  exact ⟨hm.noNone, hm.watchers.destroyed, hm.oneStarted,
    fun i hi hdone => hm.noProcess (hstop i hi) hdone⟩

/-- **Requests are safe** in a run in which no call begins to stop a watcher that another call is
stopping or that is relaunching, and no call begins to spawn a watcher while another does. -/
theorem requests_safe (errRestartInterval : Int) (es : List PortEvent)
    (h : Run.Each portStep Orderly { errRestartInterval := errRestartInterval } es) :
    Run.Each portStep KeepsSafe { errRestartInterval := errRestartInterval } es := by
  have hinit : HasMode { errRestartInterval := errRestartInterval } := by
    refine ⟨.idle, inMode_idle ⟨rfl, fun w pw hpw => ?_, fun d hd => ?_⟩ .nil⟩
    · cases hpw
    · cases hd
  refine Run.each_of_inv ?_ ?_ h hinit
  · rintro s e t ⟨m, hm⟩ hc ht
    exact (mode_step hm hc ht).1
  · rintro s e ⟨m, hm⟩ hc
    exact keepsSafe_of_orderly hm hc

/-- A port is started, restarted and stopped. -/
def restartRun : List PortEvent :=
  [.call .start false 0, .resume 0 .launched false 0, .call .restart false 0, .exit 0 0 0,
   .resume 1 .waited false 0, .resume 1 .launched false 0, .call .stop false 0, .exit 1 0 0,
   .resume 2 .waited false 0]

/-- When all calls have returned and no watcher launches, every call may begin. -/
theorem orderly_of_quiet (hcalls : ∀ call ∈ s.calls, call.pos = .returned)
    (hl : ∀ pw ∈ s.watchers, ∀ pos ∈ pw.sys.greenlets, ¬ pos.Launching) (e : PortEvent) :
    s.Orderly e := by
  have hstop : s.MayStop := by
    intro w _
    refine ⟨fun call hmem w' g r hpos => ?_, fun pw hpw => ?_⟩
    · cases (hcalls call hmem).symm.trans hpos
    · exact notLaunching_of_forall (hl pw (List.mem_of_getElem? hpw))
  have hspawn : s.MaySpawn := by
    intro _ call hmem w g hpos
    cases (hcalls call hmem).symm.trans hpos
  cases e with
  | call op oserror now =>
    cases op with
    | start => exact hspawn
    | stop => exact hstop
    | restart => exact ⟨hstop, hspawn⟩
    | reload => exact hstop
  | resume i wake oserror now => trivial
  | background w g wake now => trivial
  | exit w c code => trivial
  | collect w => trivial

theorem requests_safe_restartRun : Run.Each portStep KeepsSafe {} restartRun := by
  refine requests_safe 30 restartRun ?_
  refine .cons rfl (orderly_of_quiet (by decide) (by decide) _) (.cons rfl trivial ?_)
  refine .cons rfl (orderly_of_quiet (by decide) (by decide) _) (.cons rfl trivial ?_)
  refine .cons rfl trivial (.cons rfl trivial ?_)
  refine .cons rfl (orderly_of_quiet (by decide) (by decide) _) (.cons rfl trivial ?_)
  exact .cons rfl trivial trivial

/-- Two calls of `stop`: the first one comes back from the watcher after the second has set
`_proc_watcher` to `None`. -/
theorem second_stop_not_safe :
    ¬ Run.Each portStep KeepsSafe {}
      [.call .start false 0, .resume 0 .launched false 0, .call .stop false 0, .call .stop false 0,
       .exit 0 0 0, .resume 1 .waited false 0] := by
  intro h
  have hstep := (((((h.2 _ rfl).2 _ rfl).2 _ rfl).2 _ rfl).2 _ rfl).1
  have hnone := (hstep _ rfl).noNone ⟨3, .attributeError⟩ (List.mem_of_getElem? (i := 1) rfl)
  exact hnone rfl

end SubProcessPort

end StreamSwitch
