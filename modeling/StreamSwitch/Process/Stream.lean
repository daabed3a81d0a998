import StreamSwitch.Process.Phase

/-!
# A stream with a source process

`start`, `restart` and `destroy` of a `SourceProcessStream` of `stream_mngr.py`, with
the calls that are in progress on it. The name of a stream and `_stream_map` are in
`StreamMngr`: a turn of a call says whether it has removed the name.

`step_ok` says what each event does to a stream, when `restart` is not called while
the watcher launches a process and `destroy` only when no other call is in progress
either: the stream is in one of seven modes, and once a `destroy` has returned it is
destroyed, has no process that is alive, and launches none.
-/

namespace StreamSwitch

open WatcherSystem

/-- What a call raises. -/
inductive StreamError
  /-- A `StreamSwitchError`. -/
  | streamSwitch (info : String) (code : Nat)
  /-- What the `start` of the watcher raised. -/
  | watcher
  /-- A constructor or a function outside raised. -/
  | other
deriving DecidableEq

/-- How far a call has come. -/
inductive StreamPos
  /-- `create_stream`, in `spawn_watcher`. -/
  | spawning (w g : Nat)
  /-- `restart`, in `self._proc_watcher.stop()`. -/
  | restartStop (w g : Nat)
  /-- `restart`, in `self._proc_watcher.start()`. -/
  | restartStart (w g : Nat)
  /-- `destroy`, in `self._proc_watcher.stop()`; `create_stream` then raises `err`. -/
  | destroyStop (w g : Nat) (err : Option StreamError)
  /-- The call has returned, or raised `err`. -/
  | done (err : Option StreamError)
deriving DecidableEq

/-- The call has come back. -/
def StreamPos.isDone : StreamPos → Bool
  | .done _ => true
  | _ => false

structure SourceProcessStream where
  errRestartInterval : Int := 30
  ageTime : Int := 0
  hasDestroy : Bool := false
  hasStarted : Bool := false
  /-- The position of `_proc_watcher`. -/
  procWatcher : Option Nat := none
  watchers : List WatcherSystem := []
  calls : List StreamPos := []

/-- What a call has done when it gives up control or comes back. -/
structure StreamTurn where
  stream : SourceProcessStream
  /-- `destroy` has come to its end, and has removed the name from `_stream_map`. -/
  popped : Bool := false

namespace SourceProcessStream

def goto (s : SourceProcessStream) (c : Nat) (pos : StreamPos) : SourceProcessStream :=
  { s with calls := s.calls.modify c fun _ => pos }

def setWatcher (s : SourceProcessStream) (w : Nat) (x : WatcherSystem) : SourceProcessStream :=
  { s with watchers := s.watchers.modify w fun _ => x }

/-- `destroy` from the second line of `_destroy_internal` on: `self._proc_watcher` is read
again. -/
def destroyEnd (s : SourceProcessStream) (c : Nat) (err : Option StreamError) (oserror : Bool)
    (now : Int) : Option StreamTurn :=
  match s.procWatcher with
  -- the exception of `None.destroy()` is ignored
  | none => some ⟨s.goto c (.done err), true⟩
  | some w =>
    match s.watchers[w]? with
    | none => none
    | some x => (x.asyncStop oserror now).map fun x =>
      ⟨{ s.setWatcher w x with procWatcher := none }.goto c (.done err), true⟩

/-- `_destroy_internal`, and `destroy` from there on. -/
def destroyInternal (s : SourceProcessStream) (c : Nat) (err : Option StreamError)
    (oserror : Bool) (now : Int) : Option StreamTurn :=
  match s.procWatcher with
  | none => some ⟨s.goto c (.done err), true⟩
  | some w =>
    match s.watchers[w]? with
    | none => none
    | some x =>
      match x.stop with
      | (x, .blocked g) => some ⟨(s.setWatcher w x).goto c (.destroyStop w g err), false⟩
      | (x, _) => (s.setWatcher w x).destroyEnd c err oserror now

/-- `destroy`, in the call `c`, which then raises `err`. -/
def destroy (s : SourceProcessStream) (c : Nat) (err : Option StreamError) (oserror : Bool)
    (now : Int) : Option StreamTurn :=
  if s.hasDestroy then some ⟨s.goto c (.done err), false⟩
  else { s with hasDestroy := true }.destroyInternal c err oserror now

/-- `_start_internal` -/
def startInternal (s : SourceProcessStream) (c : Nat) (oserror : Bool) (now : Int) :
    Option SourceProcessStream :=
  let spawned (s : SourceProcessStream) : Option SourceProcessStream :=
    match (fresh s.ageTime s.errRestartInterval).start with
    | (x, .blocked g) =>
      some ({ s with watchers := s.watchers ++ [x] }.goto c (.spawning s.watchers.length g))
    -- a new watcher always gets to `Popen`
    | (_, _) => none
  match s.procWatcher with
  | none => spawned s
  | some w => (s.watchers[w]?).bind fun x => (x.asyncStop oserror now).bind fun x =>
    spawned (s.setWatcher w x)

/-- `start` in `create_stream`. When it raises, the stream is destroyed. -/
def start (s : SourceProcessStream) (c : Nat) (oserror : Bool) (now : Int) : Option StreamTurn :=
  if s.hasDestroy then
    s.destroy c (some (.streamSwitch "Stream Already Destroy" 503)) oserror now
  else if s.hasStarted then some ⟨s.goto c (.done none), false⟩
  else
    ({ s with hasStarted := true }.startInternal c oserror now).map fun s => ⟨s, false⟩

/-- `_restart_internal` from its second check on. -/
def restartEnd (s : SourceProcessStream) (c : Nat) : Option SourceProcessStream :=
  match s.procWatcher with
  | none => some (s.goto c (.done none))
  | some w =>
    match s.watchers[w]? with
    | none => none
    | some x =>
      match x.start with
      | (x, .blocked g) => some ((s.setWatcher w x).goto c (.restartStart w g))
      | (x, .returned) => some ((s.setWatcher w x).goto c (.done none))
      | (x, .raised) => some ((s.setWatcher w x).goto c (.done (some .watcher)))

def restartInternal (s : SourceProcessStream) (c : Nat) : Option SourceProcessStream :=
  match s.procWatcher with
  | none => s.restartEnd c
  | some w =>
    match s.watchers[w]? with
    | none => none
    | some x =>
      match x.stop with
      | (x, .blocked g) => some ((s.setWatcher w x).goto c (.restartStop w g))
      | (x, _) => (s.setWatcher w x).restartEnd c

def restart (s : SourceProcessStream) (c : Nat) : Option SourceProcessStream :=
  if s.hasDestroy then
    some (s.goto c (.done (some (.streamSwitch "Stream Already Destroy" 503))))
  else if !s.hasStarted then
    some (s.goto c (.done (some (.streamSwitch "Stream Not Start" 503))))
  else s.restartInternal c

/-- The greenlet of the call `c` is resumed. -/
def resume (s : SourceProcessStream) (c : Nat) (wake : Wake) (oserror : Bool) (now : Int) :
    Option StreamTurn :=
  match s.calls[c]? with
  | some (.spawning w g) =>
    (s.watchers[w]?).bind fun x =>
      match x.resume g wake now with
      | some (x, .returned) =>
        some ⟨{ s.setWatcher w x with procWatcher := some w }.goto c (.done none), false⟩
      | some (x, .raised) =>
        -- `watcher.destroy()`, and `stream.destroy()`
        (x.asyncStop oserror now).bind fun x =>
          { s.setWatcher w x with hasStarted := false }.destroy c (some .watcher) oserror now
      | _ => none
  | some (.restartStop w g) =>
    (s.watchers[w]?).bind fun x =>
      match x.resume g wake now with
      | some (x, .returned) => ((s.setWatcher w x).restartEnd c).map fun s => ⟨s, false⟩
      | some (x, .blocked _) => some ⟨s.setWatcher w x, false⟩
      | _ => none
  | some (.restartStart w g) =>
    (s.watchers[w]?).bind fun x =>
      match x.resume g wake now with
      | some (x, .returned) => some ⟨(s.setWatcher w x).goto c (.done none), false⟩
      | some (x, .raised) => some ⟨(s.setWatcher w x).goto c (.done (some .watcher)), false⟩
      | _ => none
  | some (.destroyStop w g err) =>
    (s.watchers[w]?).bind fun x =>
      match x.resume g wake now with
      | some (x, .returned) => (s.setWatcher w x).destroyEnd c err oserror now
      | some (x, .blocked _) => some ⟨s.setWatcher w x, false⟩
      | _ => none
  | _ => none

/-- A call is in a method of the watcher `w`. -/
def inUse (s : SourceProcessStream) (w : Nat) : Bool :=
  s.calls.any fun pos =>
    match pos with
    | .spawning w' _ | .restartStop w' _ | .restartStart w' _ | .destroyStop w' _ _ => w' = w
    | .done _ => false

inductive StreamEvent
  | restart
  | destroy (oserror : Bool) (now : Int)
  | resume (c : Nat) (wake : Wake) (oserror : Bool) (now : Int)
  /-- A greenlet of the watcher `w` that no call waits for. -/
  | background (w g : Nat) (wake : Wake) (now : Int)
  /-- A child exits. -/
  | exit (w child : Nat) (code : Int)
  /-- A watcher that nothing refers to is deleted. -/
  | delWatcher (w : Nat)
deriving DecidableEq

/-- A new call, which has not done anything yet. -/
def newCall (s : SourceProcessStream) : SourceProcessStream :=
  { s with calls := s.calls ++ [.done none] }

def streamStep (s : SourceProcessStream) : StreamEvent → Option StreamTurn
  | .restart => (s.newCall.restart s.calls.length).map fun s => ⟨s, false⟩
  | .destroy oserror now => s.newCall.destroy s.calls.length none oserror now
  | .resume c wake oserror now => s.resume c wake oserror now
  | .background w g wake now =>
    (s.watchers[w]?).bind fun x =>
      if x.background g then (x.resume g wake now).map fun r => ⟨s.setWatcher w r.1, false⟩
      else none
  | .exit w child code =>
    (s.watchers[w]?).bind fun x => (x.exit child code).map fun x => ⟨s.setWatcher w x, false⟩
  | .delWatcher w =>
    (s.watchers[w]?).bind fun x =>
      if s.procWatcher = some w ∨ s.inUse w ∨ .pollPopen ∈ x.greenlets then none
      else some ⟨s.setWatcher w x.del, false⟩

/-- The event needs the stream object: it is a call, or goes on with one. -/
def StreamEvent.needsObject : StreamEvent → Bool
  | .restart | .destroy _ _ | .resume _ _ _ _ => true
  | _ => false

/-- A new stream, with the call of `create_stream` that made it. -/
def create (errRestartInterval ageTime : Int) : SourceProcessStream :=
  { errRestartInterval := errRestartInterval, ageTime := ageTime, calls := [.done none] }

/-! ## What is promised -/

/-- No process of the stream is alive or being launched. -/
def NoProcess (s : SourceProcessStream) : Prop :=
  ∀ x ∈ s.watchers, x.NotLaunching ∧ ∀ child ∈ x.children, child.exited ≠ none

/-- The number of processes that each watcher has launched. -/
def launched (s : SourceProcessStream) : List Nat := s.watchers.map fun x => x.children.length

/-- A `destroy` returns in this step, also one that `create_stream` has called. -/
def DestroyReturns (s : SourceProcessStream) (e : StreamEvent) (t : SourceProcessStream) : Prop :=
  ∃ c pos, t.calls[c]? = some pos ∧ pos.isDone = true ∧
    ((∃ oserror now, e = .destroy oserror now ∧ c = s.calls.length) ∨
     (∃ wake oserror now, e = .resume c wake oserror now ∧
       ((∃ w g err, s.calls[c]? = some (.destroyStop w g err)) ∨
        (∃ w g, s.calls[c]? = some (.spawning w g) ∧ pos = .done (some .watcher)))))

/-- The watcher is not in `Popen`. -/
def WatcherReady (s : SourceProcessStream) : Prop :=
  ∀ w x, s.procWatcher = some w → s.watchers[w]? = some x → x.NotLaunching

/-- `restart` is not called while the watcher is in `Popen`, `destroy` only when no other call is
in progress either. -/
def Orderly (s : SourceProcessStream) : StreamEvent → Prop
  | .restart => s.WatcherReady
  | .destroy _ _ => (∀ pos ∈ s.calls, pos.isDone = true) ∧ s.WatcherReady
  | _ => True

/-! ## Modes -/

/-- What a stream is doing, with the call and the greenlet of the watcher. -/
inductive Mode
  | unstarted
  | spawning (c g : Nat)
  /-- No call is in progress. The watcher is off when the last `restart` could not start it. -/
  | resting (on : Bool)
  | restartStop (c g : Nat)
  | restartStart (c g : Nat)
  | destroying (c g : Nat) (err : Option StreamError)
  | destroyed

namespace Mode

def hasDestroy : Mode → Bool
  | .destroying _ _ _ | .destroyed => true
  | _ => false

def procWatcher : Mode → Option Nat
  | .unstarted | .spawning _ _ | .destroyed => none
  | _ => some 0

/-- There is exactly one watcher. -/
def single : Mode → Bool
  | .unstarted | .destroyed => false
  | _ => true

def phase : Mode → Phase
  | .unstarted | .resting false | .destroyed => .off
  | .resting true => .on
  | .spawning _ g | .restartStart _ g => .starting g
  | .restartStop _ g | .destroying _ g _ => .stopping g

/-- The call in progress. -/
def active : Mode → Option (Nat × StreamPos)
  | .unstarted | .resting _ | .destroyed => none
  | .spawning c g => some (c, .spawning 0 g)
  | .restartStop c g => some (c, .restartStop 0 g)
  | .restartStart c g => some (c, .restartStart 0 g)
  | .destroying c g err => some (c, .destroyStop 0 g err)

end Mode

/-- The calls, and the one in progress. -/
def Calls (s : SourceProcessStream) (active : Option (Nat × StreamPos)) : Prop :=
  Tasks.OneActive id (fun pos : StreamPos => pos.isDone = true) active s.calls

structure InMode (s : SourceProcessStream) (m : Mode) : Prop where
  hasDestroy : s.hasDestroy = m.hasDestroy
  hasStarted : m.hasDestroy = false → s.hasStarted = m.single
  procWatcher : s.procWatcher = m.procWatcher
  held : ∀ x ∈ s.watchers, x.Held m.phase
  single : m.single = true → s.watchers.length = 1
  calls : s.Calls m.active

def HasMode (s : SourceProcessStream) : Prop := ∃ m, s.InMode m

variable {s t : SourceProcessStream} {m : Mode} {c g w : Nat} {x y : WatcherSystem} {ph : Phase}
  {active : Option (Nat × StreamPos)} {err : Option StreamError}

theorem InMode.exists_watcher (h : s.InMode m) (hm : m.single = true) :
    ∃ x, s.watchers = [x] ∧ s.watchers[0]? = some x ∧ x.Held m.phase := by
  obtain ⟨x, hx⟩ := List.length_eq_one_iff.1 (h.single hm)
  have hw : s.watchers[0]? = some x := by rw [hx]; rfl
  exact ⟨x, hx, hw, h.held x (List.mem_of_getElem? hw)⟩

theorem setWatcher_single (hx : s.watchers = [x]) (y : WatcherSystem) :
    (s.setWatcher 0 y).watchers = [y] := by
  simp [setWatcher, hx]

theorem Calls.newCall (h : s.Calls active) : s.newCall.Calls active :=
  Tasks.OneActive.append h rfl

theorem Calls.newCall_free (h : s.Calls active) (pos : StreamPos) :
    active ≠ some (s.calls.length, pos) :=
  Tasks.OneActive.length_free h pos

/-- A call comes back while another one is in progress. -/
theorem Calls.other (h : s.Calls active) (hc : ∀ pos, active ≠ some (c, pos))
    (err : Option StreamError) : (s.goto c (.done err)).Calls active :=
  Tasks.OneActive.modify_other h hc fun _ => rfl

/-- A call comes back, and none is in progress. -/
theorem Calls.finish (h : s.Calls active) (hact : ∀ j pos, active = some (j, pos) → j = c)
    (err : Option StreamError) : (s.goto c (.done err)).Calls none :=
  Tasks.OneActive.finish h hact fun _ => rfl

/-- A call gives up control. -/
theorem Calls.become (h : s.Calls active) (hact : ∀ j pos, active = some (j, pos) → j = c)
    (hc : c < s.calls.length) (pos : StreamPos) : (s.goto c pos).Calls (some (c, pos)) :=
  Tasks.OneActive.become h hact hc fun _ => rfl

theorem length_newCall (s : SourceProcessStream) : s.calls.length < s.newCall.calls.length := by
  simp [SourceProcessStream.newCall]

/-- The call that is resumed is the one in progress. -/
theorem InMode.active_eq (h : s.InMode m) {pos : StreamPos} (hc : s.calls[c]? = some pos)
    (hpos : pos.isDone = false) : m.active = some (c, pos) := by
  refine Tasks.OneActive.eq_active h.calls hc ?_
  rw [id, hpos]
  exact Bool.false_ne_true

/-- When all calls have come back, none is in progress. -/
theorem InMode.active_none (h : s.InMode m) (hd : ∀ pos ∈ s.calls, pos.isDone = true) :
    m.active = none := by
  cases ha : m.active with
  | none => rfl
  | some a =>
    obtain ⟨pos, hpos, hid⟩ := h.calls.underway a.1 a.2 ha
    have hdone : a.2.isDone = true := hid ▸ hd pos (List.mem_of_getElem? hpos)
    cases m <;> cases ha <;> cases hdone

theorem InMode.noProcess (h : s.InMode .destroyed) : s.NoProcess := by
  intro x hx
  have hheld := h.held x hx
  exact ⟨hheld.phase.2.2, hheld.exited⟩

/-! ## Calls -/

/-- The mode of a stream with one watcher. -/
theorem inMode_of_single (hd : s.hasDestroy = m.hasDestroy)
    (hs : m.hasDestroy = false → s.hasStarted = m.single) (hp : s.procWatcher = m.procWatcher)
    (hx : s.watchers = [x]) (hheld : x.Held m.phase) (hcalls : s.Calls m.active) : s.InMode m := by
  refine ⟨hd, hs, hp, fun y hy => ?_, fun _ => ?_, hcalls⟩
  · rw [hx, List.mem_singleton] at hy
    rw [hy]
    exact hheld
  · rw [hx]
    rfl

theorem launched_setWatcher (hx : s.watchers[w]? = some x)
    (hy : y.children.length = x.children.length) : (s.setWatcher w y).launched = s.launched := by
  refine List.ext_getElem? fun i => ?_
  unfold launched setWatcher
  rw [List.getElem?_map, List.getElem?_map]
  by_cases hi : i = w
  · subst hi
    rw [List.getElem?_modify_eq, hx]
    simp [hy]
  · rw [List.getElem?_modify_ne _ _ (Ne.symm hi)]

section destroy
variable (err) (oserror : Bool) (now : Int)

/-- The end of `destroy`, once the watcher has stopped. -/
theorem destroyEnd_mode (hd : s.hasDestroy = true) (hp : s.procWatcher = some 0)
    (hx : s.watchers = [x]) (hheld : x.Held .off) (hcalls : s.Calls active)
    (hact : ∀ j pos, active = some (j, pos) → j = c) :
    ∃ t, s.destroyEnd c err oserror now = some ⟨t, true⟩ ∧ t.InMode .destroyed ∧
      t.launched = s.launched := by
  have hasync := asyncStop_of_not_started hheld.phase.1 oserror now
  have hw : s.watchers[0]? = some x := by rw [hx]; rfl
  refine ⟨{ s.setWatcher 0 x with procWatcher := none }.goto c (.done err), ?_, ?_,
    launched_setWatcher hw rfl⟩
  · simp [destroyEnd, hp, hx, hasync]
  · refine inMode_of_single hd ?_ rfl (setWatcher_single hx x) hheld ?_
    · intro h
      cases h
    · exact Calls.finish (s := { s.setWatcher 0 x with procWatcher := none }) hcalls hact err

/-- `destroy` of a stream that no other call is using. -/
theorem destroyInternal_mode (hd : s.hasDestroy = true) (hp : s.procWatcher = some 0)
    (hx : s.watchers = [x]) (hheld : x.Held .on ∨ x.Held .off) (hl : x.NotLaunching)
    (hcalls : s.Calls none) (hc : c < s.calls.length) :
    ∃ turn, s.destroyInternal c err oserror now = some turn ∧
      ((turn.popped = true ∧ turn.stream.InMode .destroyed) ∨
       (turn.popped = false ∧ ∃ g, turn.stream.InMode (.destroying c g err))) := by
  have hw : s.watchers[0]? = some x := by rw [hx]; rfl
  have hact : ∀ j pos, (none : Option (Nat × StreamPos)) = some (j, pos) → j = c := by
    intro j pos h
    cases h
  -- the watcher stops at once
  have hstopped : ∀ y : WatcherSystem, x.stop = (y, .returned) → y.Held .off →
      ∃ turn, s.destroyInternal c err oserror now = some turn ∧
        turn.popped = true ∧ turn.stream.InMode .destroyed := by
    intro y hstop hy
    obtain ⟨t, ht, hm, -⟩ := destroyEnd_mode (s := s.setWatcher 0 y) err oserror now hd hp
      (setWatcher_single hx y) hy hcalls hact
    refine ⟨⟨t, true⟩, ?_, rfl, hm⟩
    simp only [destroyInternal, hp, hw, hstop, ht]
  rcases hheld with hon | hoff
  · rcases hon.stop hl with ⟨y, hstop, hy⟩ | ⟨y, g, hstop, hy⟩
    · obtain ⟨turn, hturn, hm⟩ := hstopped y hstop hy
      exact ⟨turn, hturn, .inl hm⟩
    · refine ⟨⟨(s.setWatcher 0 y).goto c (.destroyStop 0 g err), false⟩, ?_, .inr ⟨rfl, g, ?_⟩⟩
      · simp only [destroyInternal, hp, hw, hstop]
      · refine inMode_of_single hd ?_ hp (setWatcher_single hx y) hy ?_
        · intro h
          cases h
        · exact Calls.become (s := s.setWatcher 0 y) hcalls hact hc _
  · obtain ⟨turn, hturn, hm⟩ := hstopped x (stop_of_not_started hoff.phase.1) hoff
    exact ⟨turn, hturn, .inl hm⟩

/-- `destroy` of a stream without a watcher. -/
theorem destroyInternal_of_none (hd : s.hasDestroy = true) (hp : s.procWatcher = none)
    (hheld : ∀ x ∈ s.watchers, x.Held .off) (hcalls : s.Calls active)
    (hact : ∀ j pos, active = some (j, pos) → j = c) :
    ∃ t, s.destroyInternal c err oserror now = some ⟨t, true⟩ ∧ t.InMode .destroyed := by
  refine ⟨s.goto c (.done err), ?_, hd, ?_, hp, hheld, ?_, hcalls.finish hact err⟩
  · simp only [destroyInternal, hp]
  · intro h
    cases h
  · intro h
    cases h

end destroy

section restart

/-- `_restart_internal` from its second check on, once the watcher is off. -/
theorem restartEnd_mode (hd : s.hasDestroy = false) (hs : s.hasStarted = true)
    (hp : s.procWatcher = some 0) (hx : s.watchers = [x]) (hheld : x.Held .off)
    (hcalls : s.Calls active) (hact : ∀ j pos, active = some (j, pos) → j = c)
    (hc : c < s.calls.length) :
    ∃ t g, s.restartEnd c = some t ∧ t.InMode (.restartStart c g) := by
  have hw : s.watchers[0]? = some x := by rw [hx]; rfl
  obtain ⟨y, g, hstart, hy⟩ := hheld.start
  refine ⟨(s.setWatcher 0 y).goto c (.restartStart 0 g), g, ?_, ?_⟩
  · simp only [restartEnd, hp, hw, hstart]
  · refine inMode_of_single hd (fun _ => hs) hp (setWatcher_single hx y) hy ?_
    exact Calls.become (s := s.setWatcher 0 y) hcalls hact hc _

/-- A call is answered at once. -/
theorem InMode.answered (h : s.InMode m) (err : Option StreamError) :
    (s.newCall.goto s.calls.length (.done err)).InMode m :=
  ⟨h.hasDestroy, h.hasStarted, h.procWatcher, h.held, h.single,
    Calls.other h.calls.newCall h.calls.newCall_free err⟩

theorem restart_of_destroyed (h : s.InMode m) (hm : m.hasDestroy = true) :
    ∃ err, s.newCall.restart s.calls.length = some (s.newCall.goto s.calls.length (.done err)) := by
  have hd : s.newCall.hasDestroy = true := h.hasDestroy.trans hm
  refine ⟨some (.streamSwitch "Stream Already Destroy" 503), ?_⟩
  simp only [restart, hd, if_true]

/-- `restart` of a stream that was not destroyed. -/
theorem restart_mode (h : s.InMode m) (hm : m.hasDestroy = false) (hr : s.WatcherReady)
    (ht : s.newCall.restart s.calls.length = some t) : t.HasMode := by
  have hd : s.newCall.hasDestroy = false := h.hasDestroy.trans hm
  have hs : s.newCall.hasStarted = m.single := h.hasStarted hm
  have hp : s.newCall.procWatcher = m.procWatcher := h.procWatcher
  have hcalls : s.newCall.Calls m.active := h.calls.newCall
  have hlen := length_newCall s
  cases m with
  | unstarted =>
    simp only [restart, hd, hs] at ht
    cases ht
    exact ⟨_, h.answered _⟩
  | spawning c g =>
    simp only [restart, hd, hs, restartInternal, hp, restartEnd] at ht
    cases ht
    exact ⟨_, h.answered _⟩
  | resting on =>
    obtain ⟨x, hx, hw, hheld⟩ := h.exists_watcher rfl
    have hx : s.newCall.watchers = [x] := hx
    have hw : s.newCall.watchers[0]? = some x := hw
    have hl : x.NotLaunching := hr 0 x h.procWatcher hw
    have hact : ∀ j pos, (Mode.resting on).active = some (j, pos) → j = s.calls.length := by
      intro j pos hj
      cases hj
    -- the watcher stops at once
    have hstopped : ∀ y : WatcherSystem, x.stop = (y, .returned) → y.Held .off → t.HasMode := by
      intro y hstop hy
      obtain ⟨t', g, ht', hm'⟩ := restartEnd_mode (s := s.newCall.setWatcher 0 y) hd hs hp
        (setWatcher_single hx y) hy hcalls hact hlen
      simp only [restart, hd, hs, Mode.single, restartInternal, hp, Mode.procWatcher, hw, hstop,
        ht'] at ht
      cases ht
      exact ⟨_, hm'⟩
    cases on with
    | false => exact hstopped x (stop_of_not_started hheld.phase.1) hheld
    | true =>
      rcases Held.stop hheld hl with ⟨y, hstop, hy⟩ | ⟨y, g, hstop, hy⟩
      · exact hstopped y hstop hy
      · simp only [restart, hd, hs, Mode.single, restartInternal, hp, Mode.procWatcher, hw,
          hstop] at ht
        cases ht
        refine ⟨.restartStop s.calls.length g, ?_⟩
        refine inMode_of_single hd (fun _ => hs) hp (setWatcher_single hx y) hy ?_
        exact Calls.become (s := s.newCall.setWatcher 0 y) hcalls hact hlen _
  | restartStop c g =>
    -- another `restart` is stopping the watcher
    obtain ⟨x, hx, hw, hheld⟩ := h.exists_watcher rfl
    have hx : s.newCall.watchers = [x] := hx
    have hw : s.newCall.watchers[0]? = some x := hw
    have hstop : x.stop = (x, .returned) := by
      refine stop_of_not_started (Bool.eq_false_iff.2 fun hs => ?_)
      cases hheld.started_iff.1 hs
    have hset : (s.newCall.setWatcher 0 x).watchers = [x] := setWatcher_single hx x
    have hw' : (s.newCall.setWatcher 0 x).watchers[0]? = some x := by rw [hset]; rfl
    have hp' : (s.newCall.setWatcher 0 x).procWatcher = some 0 := hp
    have hstart := Held.start_of_stopping hheld
    simp only [restart, hd, hs, Mode.single, restartInternal, hp, Mode.procWatcher, hw, hstop,
      restartEnd, hp', hw', hstart] at ht
    cases ht
    refine ⟨.restartStop c g, ?_⟩
    refine inMode_of_single hd (fun _ => hs) hp (setWatcher_single hset x) hheld ?_
    exact Calls.other (s := (s.newCall.setWatcher 0 x).setWatcher 0 x) hcalls h.calls.newCall_free _
  | restartStart c g =>
    obtain ⟨x, -, hw, hheld⟩ := h.exists_watcher rfl
    have hl : x.NotLaunching := hr 0 x h.procWatcher hw
    exact absurd (.inl rfl) (hl g _ hheld.phase)
  | destroying c g err => cases hm
  | destroyed => cases hm

end restart

/-! ## Calls that go on -/

section resume
variable {wake : Wake} {oserror : Bool} {now : Int} {turn : StreamTurn}

/-- `create_stream` comes back. -/
theorem resume_spawning (h : s.InMode (.spawning c g)) (hc : s.calls[c]? = some (.spawning 0 g))
    (ht : s.resume c wake oserror now = some turn) :
    (turn.popped = false ∧ turn.stream.InMode (.resting true) ∧
      turn.stream.calls[c]? = some (.done none)) ∨
    (turn.popped = true ∧ turn.stream.InMode .destroyed) := by
  obtain ⟨x, hx, hw, hheld⟩ := h.exists_watcher rfl
  have hd : s.hasDestroy = false := h.hasDestroy
  have hact : ∀ j pos, (Mode.spawning c g).active = some (j, pos) → j = c := by
    intro j pos hj
    cases hj
    rfl
  simp only [resume, hc, hw, Option.bind_some] at ht
  cases hr : x.resume g wake now with
  | none => rw [hr] at ht; cases ht
  | some r =>
    obtain ⟨y, res⟩ := r
    rw [hr] at ht
    rcases Held.resumeStart hheld hr with ⟨rfl, hy⟩ | ⟨rfl, hy⟩
    · cases ht
      refine .inl ⟨rfl, ?_, ?_⟩
      · refine inMode_of_single hd (fun _ => h.hasStarted rfl) rfl (setWatcher_single hx y) hy ?_
        exact Calls.finish (s := { s.setWatcher 0 y with procWatcher := some 0 }) h.calls hact none
      · show (s.calls.modify c fun _ => StreamPos.done none)[c]? = _
        rw [List.getElem?_modify_eq, hc]
        rfl
    · have hset := setWatcher_single hx y
      simp only [asyncStop_of_not_started hy.phase.1, Option.bind_some] at ht
      obtain ⟨t, hdes, hm⟩ := destroyInternal_of_none (c := c)
        (s := { s.setWatcher 0 y with hasStarted := false, hasDestroy := true }) (some .watcher)
        oserror now rfl h.procWatcher (fun z hz => by
          have hz : z ∈ (s.setWatcher 0 y).watchers := hz
          rw [hset, List.mem_singleton] at hz
          rw [hz]
          exact hy) h.calls hact
      have he : { s.setWatcher 0 y with hasStarted := false }.destroy c (some .watcher) oserror now =
          some ⟨t, true⟩ := by
        have hd' : (s.setWatcher 0 y).hasDestroy = false := hd
        simp only [destroy, hd']
        exact hdes
      rw [he] at ht
      cases ht
      exact .inr ⟨rfl, hm⟩

/-- `restart` waits on, or goes on to start the watcher. -/
theorem resume_restartStop (h : s.InMode (.restartStop c g))
    (hc : s.calls[c]? = some (.restartStop 0 g))
    (ht : s.resume c wake oserror now = some turn) :
    turn.popped = false ∧ turn.stream.HasMode := by
  obtain ⟨x, hx, hw, hheld⟩ := h.exists_watcher rfl
  have hd : s.hasDestroy = false := h.hasDestroy
  have hs : s.hasStarted = true := h.hasStarted rfl
  have hp : s.procWatcher = some 0 := h.procWatcher
  simp only [resume, hc, hw, Option.bind_some] at ht
  cases hr : x.resume g wake now with
  | none => rw [hr] at ht; cases ht
  | some r =>
    obtain ⟨y, res⟩ := r
    rw [hr] at ht
    rcases Held.resumeStop hheld hr with ⟨rfl, hy⟩ | ⟨rfl, hy⟩
    · obtain ⟨t', g', ht', hm⟩ := restartEnd_mode (s := s.setWatcher 0 y) hd hs hp
        (setWatcher_single hx y) hy h.calls (c := c) (fun j pos hj => by cases hj; rfl)
        (List.getElem?_eq_some_iff.1 hc).1
      simp only [ht', Option.map_some] at ht
      cases ht
      exact ⟨rfl, _, hm⟩
    · cases ht
      exact ⟨rfl, .restartStop c g,
        inMode_of_single hd (fun _ => hs) hp (setWatcher_single hx y) hy h.calls⟩

/-- `restart` comes back. -/
theorem resume_restartStart (h : s.InMode (.restartStart c g))
    (hc : s.calls[c]? = some (.restartStart 0 g))
    (ht : s.resume c wake oserror now = some turn) :
    turn.popped = false ∧ turn.stream.HasMode := by
  obtain ⟨x, hx, hw, hheld⟩ := h.exists_watcher rfl
  have hd : s.hasDestroy = false := h.hasDestroy
  have hs : s.hasStarted = true := h.hasStarted rfl
  have hp : s.procWatcher = some 0 := h.procWatcher
  have hact : ∀ j pos, (Mode.restartStart c g).active = some (j, pos) → j = c := by
    intro j pos hj
    cases hj
    rfl
  simp only [resume, hc, hw, Option.bind_some] at ht
  cases hr : x.resume g wake now with
  | none => rw [hr] at ht; cases ht
  | some r =>
    obtain ⟨y, res⟩ := r
    rw [hr] at ht
    rcases Held.resumeStart hheld hr with ⟨rfl, hy⟩ | ⟨rfl, hy⟩
    · cases ht
      refine ⟨rfl, .resting true, inMode_of_single hd (fun _ => hs) hp (setWatcher_single hx y) hy ?_⟩
      exact Calls.finish (s := s.setWatcher 0 y) h.calls hact none
    · cases ht
      refine ⟨rfl, .resting false,
        inMode_of_single hd (fun _ => hs) hp (setWatcher_single hx y) hy ?_⟩
      exact Calls.finish (s := s.setWatcher 0 y) h.calls hact (some .watcher)

/-- `destroy` waits on, or comes back. -/
theorem resume_destroyStop (h : s.InMode (.destroying c g err))
    (hc : s.calls[c]? = some (.destroyStop 0 g err))
    (ht : s.resume c wake oserror now = some turn) :
    ((turn.popped = false ∧ turn.stream.InMode (.destroying c g err)) ∨
     (turn.popped = true ∧ turn.stream.InMode .destroyed)) ∧
      turn.stream.launched = s.launched := by
  obtain ⟨x, hx, hw, hheld⟩ := h.exists_watcher rfl
  have hd : s.hasDestroy = true := h.hasDestroy
  have hp : s.procWatcher = some 0 := h.procWatcher
  simp only [resume, hc, hw, Option.bind_some] at ht
  cases hr : x.resume g wake now with
  | none => rw [hr] at ht; cases ht
  | some r =>
    obtain ⟨y, res⟩ := r
    rw [hr] at ht
    have hlen := resume_children_length (Held.notLaunching_of_stopping hheld) hr
    rcases Held.resumeStop hheld hr with ⟨rfl, hy⟩ | ⟨rfl, hy⟩
    · obtain ⟨t', ht', hm, hl'⟩ := destroyEnd_mode (s := s.setWatcher 0 y) (c := c) err oserror now
        hd hp (setWatcher_single hx y) hy h.calls (fun j pos hj => by cases hj; rfl)
      simp only [ht'] at ht
      cases ht
      exact ⟨.inr ⟨rfl, hm⟩, hl'.trans (launched_setWatcher hw hlen)⟩
    · cases ht
      refine ⟨.inl ⟨rfl, ?_⟩, launched_setWatcher hw hlen⟩
      refine inMode_of_single hd (fun h' => ?_) hp (setWatcher_single hx y) hy h.calls
      cases h'

end resume

theorem create_calls (errRestartInterval ageTime : Int) :
    (create errRestartInterval ageTime).Calls none :=
  Tasks.OneActive.append Tasks.OneActive.nil rfl

theorem create_unstarted (errRestartInterval ageTime : Int) (err : Option StreamError) :
    ((create errRestartInterval ageTime).goto 0 (.done err)).InMode .unstarted := by
  refine ⟨rfl, fun _ => rfl, rfl, fun x hx => ?_, fun hm => ?_, ?_⟩
  · cases hx
  · cases hm
  · exact (create_calls errRestartInterval ageTime).finish (fun j pos hj => by cases hj) err

/-- `start` of a new stream spawns a watcher. -/
theorem create_start (errRestartInterval ageTime : Int) (oserror : Bool) (now : Int) :
    ∃ t g, (create errRestartInterval ageTime).start 0 oserror now = some ⟨t, false⟩ ∧
      t.InMode (.spawning 0 g) := by
  obtain ⟨x, g, hstart, hx⟩ := (held_fresh ageTime errRestartInterval).start
  refine ⟨{ create errRestartInterval ageTime with hasStarted := true, watchers := [x] }.goto 0
    (.spawning 0 g), g, ?_, ?_⟩
  · simp only [start, startInternal, create, hstart]
    rfl
  · refine inMode_of_single rfl (fun _ => rfl) rfl rfl hx ?_
    exact Calls.become (create_calls errRestartInterval ageTime) (fun j pos hj => by cases hj)
      Nat.zero_lt_one _

/-! ## What goes on beside the calls -/

/-- A watcher changes, and stays in its phase. -/
theorem InMode.setWatcher (h : s.InMode m) (hx : s.watchers[w]? = some x)
    (hy : x.Held m.phase → y.Held m.phase) : (s.setWatcher w y).InMode m := by
  refine ⟨h.hasDestroy, h.hasStarted, h.procWatcher, fun z hz => ?_, fun hm => ?_, h.calls⟩
  · obtain ⟨i, hi⟩ := List.getElem?_of_mem hz
    rcases Tasks.getElem?_modify_some hi with ⟨-, a, -, rfl⟩ | ⟨-, hi⟩
    · exact hy (h.held x (List.mem_of_getElem? hx))
    · exact h.held z (List.mem_of_getElem? hi)
  · exact (List.length_modify ..).trans (h.single hm)

/-- No watcher of a stream on which `destroy` was called launches. -/
theorem InMode.notLaunching (h : s.InMode m) (hd : s.hasDestroy = true)
    (hx : s.watchers[w]? = some x) : x.NotLaunching := by
  have hheld := h.held x (List.mem_of_getElem? hx)
  have hm := h.hasDestroy.symm.trans hd
  cases m with
  | destroying c g err => exact Held.notLaunching_of_stopping hheld
  | destroyed => exact hheld.phase.2.2
  | unstarted => cases hm
  | spawning c g => cases hm
  | resting on => cases hm
  | restartStop c g => cases hm
  | restartStart c g => cases hm

/-! ## Steps -/

/-- What an event leaves of a stream. -/
structure StepOk (s : SourceProcessStream) (e : StreamEvent) (turn : StreamTurn) : Prop where
  mode : turn.stream.HasMode
  popped : turn.popped = true → turn.stream.InMode .destroyed
  returns : s.DestroyReturns e turn.stream → turn.stream.InMode .destroyed
  stays : s.InMode .destroyed → turn.stream.InMode .destroyed ∧ turn.popped = false
  quiet : s.hasDestroy = true → turn.stream.launched = s.launched

/-- The event is neither a `destroy` nor a call that goes on. -/
def StreamEvent.Aside (e : StreamEvent) : Prop :=
  (∀ oserror now, e ≠ .destroy oserror now) ∧ ∀ c wake oserror now, e ≠ .resume c wake oserror now

theorem not_destroyReturns {e : StreamEvent} (he : StreamEvent.Aside e) :
    ¬ s.DestroyReturns e t := by
  rintro ⟨c, pos, -, -, ⟨oserror, now, h, -⟩ | ⟨wake, oserror, now, h, -⟩⟩
  · exact he.1 _ _ h
  · exact he.2 _ _ _ _ h

/-- The `destroy` in progress has not come back. -/
theorem InMode.not_done (h : s.InMode (.destroying c g err)) {pos : StreamPos}
    (hc : s.calls[c]? = some pos) : pos.isDone = false := by
  obtain ⟨pos', hpos', hid⟩ := h.calls.underway c _ rfl
  rw [hc] at hpos'
  cases hpos'
  rw [show pos = _ from hid]
  rfl

theorem ne_destroyed (h : s.InMode m) (hm : m.hasDestroy = false) : s.hasDestroy ≠ true := by
  intro hd
  cases (h.hasDestroy.symm.trans hd).symm.trans hm

theorem restart_ok (h : s.InMode m) (hr : s.WatcherReady)
    (ht : s.newCall.restart s.calls.length = some t) : s.StepOk .restart ⟨t, false⟩ := by
  have hreturns : ¬ s.DestroyReturns .restart t := by
    refine not_destroyReturns ⟨fun _ _ he => ?_, fun _ _ _ _ he => ?_⟩
    · cases he
    · cases he
  cases hm : m.hasDestroy with
  | true =>
    obtain ⟨err, he⟩ := restart_of_destroyed h hm
    rw [he] at ht
    cases ht
    refine ⟨⟨m, h.answered err⟩, fun hp => ?_, fun hret => absurd hret hreturns,
      fun hdes => ⟨hdes.answered err, rfl⟩, fun _ => rfl⟩
    cases hp
  | false =>
    refine ⟨restart_mode h hm hr ht, fun hp => ?_, fun hret => absurd hret hreturns,
      fun hdes => absurd hdes.hasDestroy (ne_destroyed h hm),
      fun hd => absurd hd (ne_destroyed h hm)⟩
    cases hp

theorem destroy_ok {oserror : Bool} {now : Int} {turn : StreamTurn} (h : s.InMode m)
    (hdone : ∀ pos ∈ s.calls, pos.isDone = true) (hr : s.WatcherReady)
    (ht : s.newCall.destroy s.calls.length none oserror now = some turn) :
    s.StepOk (.destroy oserror now) turn := by
  -- a stream that was not destroyed before
  have hnew : m.hasDestroy = false → ((turn.popped = true ∧ turn.stream.InMode .destroyed) ∨
      (turn.popped = false ∧ ∃ g, turn.stream.InMode (.destroying s.calls.length g none))) →
      s.StepOk (.destroy oserror now) turn := by
    intro hm hturn
    refine ⟨?_, fun hp => ?_, fun hret => ?_, fun hdes => absurd hdes.hasDestroy (ne_destroyed h hm),
      fun hd => absurd hd (ne_destroyed h hm)⟩
    · rcases hturn with ⟨-, hm'⟩ | ⟨-, g, hm'⟩
      · exact ⟨_, hm'⟩
      · exact ⟨_, hm'⟩
    · rcases hturn with ⟨-, hm'⟩ | ⟨hp', -⟩
      · exact hm'
      · cases hp.symm.trans hp'
    · rcases hturn with ⟨-, hm'⟩ | ⟨-, g, hm'⟩
      · exact hm'
      · obtain ⟨c, pos, hc, hpos, ⟨o, n, -, rfl⟩ | ⟨wake, o, n, he, -⟩⟩ := hret
        · cases hpos.symm.trans (hm'.not_done hc)
        · cases he
  have hactive := h.active_none hdone
  have hcalls : { s.newCall with hasDestroy := true }.Calls m.active := h.calls.newCall
  cases m with
  | unstarted =>
    have hd : s.newCall.hasDestroy = false := h.hasDestroy
    obtain ⟨t, hdes, hm⟩ := destroyInternal_of_none (c := s.calls.length)
      (s := { s.newCall with hasDestroy := true }) none oserror now rfl h.procWatcher h.held hcalls
      fun j pos hj => by cases hj
    simp only [destroy, hd] at ht
    cases hdes.symm.trans ht
    exact hnew rfl (.inl ⟨rfl, hm⟩)
  | resting on =>
    have hd : s.newCall.hasDestroy = false := h.hasDestroy
    obtain ⟨x, hx, hw, hheld⟩ := h.exists_watcher rfl
    have hl : x.NotLaunching := hr 0 x h.procWatcher hw
    have hheld' : x.Held .on ∨ x.Held .off := by
      cases on with
      | false => exact .inr hheld
      | true => exact .inl hheld
    obtain ⟨turn', hdes, hm⟩ := destroyInternal_mode (c := s.calls.length)
      (s := { s.newCall with hasDestroy := true }) none oserror now rfl h.procWatcher hx hheld' hl
      hcalls (length_newCall s)
    simp only [destroy, hd] at ht
    cases hdes.symm.trans ht
    exact hnew rfl hm
  | destroyed =>
    have hd : s.newCall.hasDestroy = true := h.hasDestroy
    simp only [destroy, hd, if_true] at ht
    cases ht
    have hm := h.answered none
    exact ⟨⟨_, hm⟩, fun _ => hm, fun _ => hm, fun _ => ⟨hm, rfl⟩, fun _ => rfl⟩
  | spawning c g => cases hactive
  | restartStop c g => cases hactive
  | restartStart c g => cases hactive
  | destroying c g err => cases hactive

/-- A call that comes back from a `destroy` was in one, or was spawning a watcher. -/
theorem destroyReturns_resume {wake : Wake} {oserror : Bool} {now : Int} {pos : StreamPos}
    (hc : s.calls[c]? = some pos) (h : s.DestroyReturns (.resume c wake oserror now) t) :
    ∃ pos', t.calls[c]? = some pos' ∧ pos'.isDone = true ∧
      ((∃ w g err, pos = .destroyStop w g err) ∨
       (∃ w g, pos = .spawning w g) ∧ pos' = .done (some .watcher)) := by
  obtain ⟨c', pos', hc', hdone, ⟨o, n, he, -⟩ | ⟨wk, o, n, he, hpos⟩⟩ := h
  · cases he
  · cases he
    refine ⟨pos', hc', hdone, ?_⟩
    rcases hpos with ⟨w, g, err, hpos⟩ | ⟨w, g, hpos, hpos'⟩
    · rw [hc] at hpos
      cases hpos
      exact .inl ⟨w, g, err, rfl⟩
    · rw [hc] at hpos
      cases hpos
      exact .inr ⟨⟨w, g, rfl⟩, hpos'⟩

/-- What a `restart` that goes on leaves. -/
theorem resume_restart_ok {e : StreamEvent} {turn : StreamTurn} (h : s.InMode m)
    (hm : m.hasDestroy = false) (hturn : turn.popped = false ∧ turn.stream.HasMode)
    (hret : ¬ s.DestroyReturns e turn.stream) : s.StepOk e turn := by
  refine ⟨hturn.2, fun hp => ?_, fun h' => absurd h' hret,
    fun hdes => absurd hdes.hasDestroy (ne_destroyed h hm), fun hd => absurd hd (ne_destroyed h hm)⟩
  cases hp.symm.trans hturn.1

theorem resume_ok {wake : Wake} {oserror : Bool} {now : Int} {turn : StreamTurn} (h : s.InMode m)
    (ht : s.resume c wake oserror now = some turn) :
    s.StepOk (.resume c wake oserror now) turn := by
  cases hc : s.calls[c]? with
  | none => simp [resume, hc] at ht
  | some pos =>
    -- a call that goes on is in progress: the stream is in its mode
    have hmode : pos.isDone = false → m.active = some (c, pos) := h.active_eq hc
    cases pos with
    | done err => simp [resume, hc] at ht
    | spawning w g =>
      cases m <;> cases hmode rfl
      rcases resume_spawning h hc ht with ⟨hp, hm, hcall⟩ | ⟨hp, hm⟩
      · refine resume_restart_ok h rfl ⟨hp, _, hm⟩ fun hret => ?_
        obtain ⟨pos', hc', -, ⟨w, g, err, he⟩ | ⟨-, rfl⟩⟩ := destroyReturns_resume hc hret
        · cases he
        · cases hcall.symm.trans hc'
      · exact ⟨⟨_, hm⟩, fun _ => hm, fun _ => hm,
          fun hdes => absurd hdes.hasDestroy (ne_destroyed h rfl),
          fun hd => absurd hd (ne_destroyed h rfl)⟩
    | restartStop w g =>
      cases m <;> cases hmode rfl
      refine resume_restart_ok h rfl (resume_restartStop h hc ht) fun hret => ?_
      obtain ⟨pos', -, -, ⟨w, g, err, he⟩ | ⟨⟨w, g, he⟩, -⟩⟩ := destroyReturns_resume hc hret
      · cases he
      · cases he
    | restartStart w g =>
      cases m <;> cases hmode rfl
      refine resume_restart_ok h rfl (resume_restartStart h hc ht) fun hret => ?_
      obtain ⟨pos', -, -, ⟨w, g, err, he⟩ | ⟨⟨w, g, he⟩, -⟩⟩ := destroyReturns_resume hc hret
      · cases he
      · cases he
    | destroyStop w g err =>
      cases m <;> cases hmode rfl
      obtain ⟨hturn, hl⟩ := resume_destroyStop h hc ht
      refine ⟨?_, fun hp => ?_, fun hret => ?_, fun hdes => ?_, fun _ => hl⟩
      · rcases hturn with ⟨-, hm⟩ | ⟨-, hm⟩ <;> exact ⟨_, hm⟩
      · rcases hturn with ⟨hp', -⟩ | ⟨-, hm⟩
        · cases hp.symm.trans hp'
        · exact hm
      · rcases hturn with ⟨-, hm⟩ | ⟨-, hm⟩
        · obtain ⟨pos', hc', hdone, -⟩ := destroyReturns_resume hc hret
          cases hdone.symm.trans (hm.not_done hc')
        · exact hm
      · cases hdes.procWatcher.symm.trans h.procWatcher

/-- A watcher changes beside the calls. -/
theorem aside_ok {e : StreamEvent} (h : s.InMode m) (he : StreamEvent.Aside e)
    (hx : s.watchers[w]? = some x) (hy : ∀ ph, x.Held ph → y.Held ph)
    (hlen : x.NotLaunching → y.children.length = x.children.length) :
    s.StepOk e ⟨s.setWatcher w y, false⟩ := by
  refine ⟨⟨m, h.setWatcher hx (hy _)⟩, fun hp => ?_, fun hret => absurd hret (not_destroyReturns he),
    fun hdes => ⟨hdes.setWatcher hx (hy _), rfl⟩, fun hd => ?_⟩
  · cases hp
  · exact launched_setWatcher hx (hlen (h.notLaunching hd hx))

/-- A watcher that nothing refers to is off. -/
theorem InMode.held_off (h : s.InMode m) (hx : s.watchers[w]? = some x)
    (hp : s.procWatcher ≠ some w) (hu : s.inUse w = false) : x.Held .off := by
  have hheld := h.held x (List.mem_of_getElem? hx)
  have hzero : m.single = true → w = 0 := by
    intro hm
    have hlt := (List.getElem?_eq_some_iff.1 hx).1
    rw [h.single hm] at hlt
    omega
  have hcur : m.procWatcher = some 0 → m.single = false := by
    intro hm
    by_contra hne
    have hw := hzero (Bool.not_eq_false _ ▸ hne)
    rw [h.procWatcher, hm, hw] at hp
    exact hp rfl
  cases m with
  | unstarted => exact hheld
  | destroyed => exact hheld
  | spawning c g =>
    obtain ⟨pos, hpos, hid⟩ := h.calls.underway c _ rfl
    have hw := hzero rfl
    subst hw
    have hany : s.inUse 0 = true := by
      refine List.any_eq_true.2 ⟨pos, List.mem_of_getElem? hpos, ?_⟩
      rw [show pos = _ from hid]
      rfl
    cases hu.symm.trans hany
  | resting on => cases hcur rfl
  | restartStop c g => cases hcur rfl
  | restartStart c g => cases hcur rfl
  | destroying c g err => cases hcur rfl

/-- **What an event leaves of a stream** whose calls are orderly. -/
theorem step_ok {e : StreamEvent} {turn : StreamTurn} (h : s.InMode m) (ho : s.Orderly e)
    (ht : s.streamStep e = some turn) : s.StepOk e turn := by
  cases e with
  | restart =>
    obtain ⟨t, hr, rfl⟩ := Option.map_eq_some_iff.1 ht
    exact restart_ok h ho hr
  | destroy oserror now => exact destroy_ok h ho.1 ho.2 ht
  | resume c wake oserror now => exact resume_ok h ht
  | background w g wake now =>
    obtain ⟨x, hx, ht⟩ := Option.bind_eq_some_iff.1 ht
    split at ht
    · next hb =>
      obtain ⟨r, hr, rfl⟩ := Option.map_eq_some_iff.1 ht
      refine aside_ok h ⟨fun _ _ he => ?_, fun _ _ _ _ he => ?_⟩ hx
        (fun ph hx' => hx'.background hb hr) fun hl => resume_children_length hl hr
      · cases he
      · cases he
    · cases ht
  | exit w child code =>
    obtain ⟨x, hx, ht⟩ := Option.bind_eq_some_iff.1 ht
    obtain ⟨y, hy, rfl⟩ := Option.map_eq_some_iff.1 ht
    refine aside_ok h ⟨fun _ _ he => ?_, fun _ _ _ _ he => ?_⟩ hx (fun ph hx' => hx'.exit hy)
      fun _ => exit_children_length hy
    · cases he
    · cases he
  | delWatcher w =>
    obtain ⟨x, hx, ht⟩ := Option.bind_eq_some_iff.1 ht
    split at ht
    · cases ht
    · next hfree =>
      cases ht
      have hoff : x.Held .off := by
        refine h.held_off hx (fun hp => hfree (.inl hp)) (Bool.eq_false_iff.2 fun hu => ?_)
        exact hfree (.inr (.inl hu))
      refine aside_ok h ⟨fun _ _ he => ?_, fun _ _ _ _ he => ?_⟩ hx (fun ph hx' => hoff.del hx')
        fun _ => del_children_length x
      · cases he
      · cases he

theorem step_frame {e : StreamEvent} {turn : StreamTurn} (he : e.needsObject = false)
    (ht : s.streamStep e = some turn) :
    turn.popped = false ∧ turn.stream.hasDestroy = s.hasDestroy := by
  cases e with
  | restart => cases he
  | destroy oserror now => cases he
  | resume c wake oserror now => cases he
  | background w g wake now =>
    obtain ⟨x, -, ht⟩ := Option.bind_eq_some_iff.1 ht
    split at ht
    · obtain ⟨r, -, rfl⟩ := Option.map_eq_some_iff.1 ht
      exact ⟨rfl, rfl⟩
    · cases ht
  | exit w child code =>
    obtain ⟨x, -, ht⟩ := Option.bind_eq_some_iff.1 ht
    obtain ⟨y, -, rfl⟩ := Option.map_eq_some_iff.1 ht
    exact ⟨rfl, rfl⟩
  | delWatcher w =>
    obtain ⟨x, -, ht⟩ := Option.bind_eq_some_iff.1 ht
    split at ht
    · cases ht
    · cases ht
      exact ⟨rfl, rfl⟩

end SourceProcessStream

end StreamSwitch
