import StreamSwitch.Process.Stream

/-!
# The streams and their names

`create_stream`, `find_stream` and `_stream_map` of `stream_mngr.py`, for streams that
are run by a process. `_stream_map` refers to the streams weakly: a stream that nothing
else refers to is deleted, and is then no longer in it.

`one_stream_per_name`: along every run in which the names are strings, `restart` is not
called while the watcher of the stream launches a process, and `destroy` only when no
other call on the stream is in progress either, a name has at most one stream that is
not destroyed, `find_stream` returns it, a destroyed stream launches no process, and
when a `destroy` returns the process of the stream has terminated.

`destroy` marks the stream and stops the watcher. A watcher that another call is
stopping or starting counts as stopped, so that `destroy` returns before that call.
-/

namespace StreamSwitch

open WatcherSystem SourceProcessStream

/-- The `stream_name` argument: a string, or a value of another type with what `STRING` makes
of it. -/
inductive NameArg
  | str (s : String)
  | other (s : String)

/-- `STRING(stream_name)` -/
def NameArg.string : NameArg → String
  | .str s | .other s => s

structure StreamObject where
  /-- `__stream_name` -/
  name : String
  proc : SourceProcessStream
  /-- The object was deleted. -/
  collected : Bool := false

/-- The arguments of `create_stream`. -/
structure StreamArgs where
  sourceType : Option String
  streamName : Option NameArg
  errRestartInterval : Int := 30
  ageTime : Int := 0
  /-- `_generate_cmd_args` raises, as for an option whose name is no string. -/
  cmdArgsRaises : Bool := false

structure StreamMngr where
  /-- The names in `_source_type_map`. -/
  sourceTypes : List String := []
  streamMap : String → Option Nat := fun _ => none
  streams : List StreamObject := []

namespace StreamMngr

def findStream (s : StreamMngr) (streamName : String) : Option Nat := s.streamMap streamName

/-- `stream_name in _stream_map`: the keys are strings. -/
def isRegistered (s : StreamMngr) : NameArg → Bool
  | .str n => (s.streamMap n).isSome
  | .other _ => false

/-- A turn of a call on the stream `i`. -/
def put (s : StreamMngr) (i : Nat) (obj : StreamObject) (turn : StreamTurn) : StreamMngr :=
  { s with
    streams := s.streams.set i { obj with proc := turn.stream }
    streamMap := if turn.popped then Function.update s.streamMap obj.name none else s.streamMap }

/-- `BaseStream.__init__`, after its check. -/
def register (s : StreamMngr) (obj : StreamObject) : StreamMngr :=
  { s with
    streams := s.streams ++ [obj]
    streamMap := Function.update s.streamMap obj.name (some s.streams.length) }

/-- `create_stream` up to where it gives up control, or what it raises without a stream. -/
def createStream (s : StreamMngr) (a : StreamArgs) (oserror : Bool) (now : Int) :
    Option (Except StreamError StreamMngr) :=
  match a.sourceType, a.streamName with
  | some sourceType, some streamName =>
    if sourceType ∉ s.sourceTypes then
      some (.error (.streamSwitch ("source_type(" ++ sourceType ++ ") Not Register") 404))
    else if s.isRegistered streamName then
      some (.error (.streamSwitch ("Stream(" ++ streamName.string ++ ") already exists") 400))
    else
      let obj := StreamObject.mk streamName.string (.create a.errRestartInterval a.ageTime) false
      if a.cmdArgsRaises then
        some (.ok (s.register { obj with proc := obj.proc.goto 0 (.done (some .other)) }))
      else
        (obj.proc.start 0 oserror now).map fun turn =>
          .ok ((s.register obj).put s.streams.length obj turn)
  | _, _ => some (.error (.streamSwitch "Param error" 404))

/-- A stream on which no call is in progress is deleted. -/
def collect (s : StreamMngr) (i : Nat) : Option StreamMngr :=
  (s.streams[i]?).bind fun obj =>
    if !obj.collected ∧ obj.proc.calls.all StreamPos.isDone then
      some { s with
        streams := s.streams.set i { obj with
          collected := true
          proc := { obj.proc with procWatcher := none } }
        streamMap := fun n => if s.streamMap n = some i then none else s.streamMap n }
    else none

inductive MngrEvent
  | create (a : StreamArgs) (oserror : Bool) (now : Int)
  | stream (i : Nat) (e : StreamEvent)
  | collect (i : Nat)

def mngrStep (s : StreamMngr) : MngrEvent → Option StreamMngr
  | .create a oserror now =>
    (s.createStream a oserror now).map fun
      | .ok t => t
      | .error _ => s
  | .stream i e =>
    (s.streams[i]?).bind fun obj =>
      if obj.collected ∧ e.needsObject then none
      else (obj.proc.streamStep e).map fun turn => s.put i obj turn
  | .collect i => s.collect i

/-! ## What is promised -/

end StreamMngr

namespace StreamObject

/-- The stream exists and was not destroyed. -/
def Live (obj : StreamObject) : Prop := obj.collected = false ∧ obj.proc.hasDestroy = false

/-- The stream was deleted without a `destroy`. -/
def Abandoned (obj : StreamObject) : Prop := obj.collected = true ∧ obj.proc.hasDestroy = false

end StreamObject

namespace StreamMngr

/-- The promises about the streams. -/
structure Promised (s : StreamMngr) (e : MngrEvent) (t : StreamMngr) : Prop where
  unique : ∀ (i j : Nat) a b, t.streams[i]? = some a → t.streams[j]? = some b → a.Live → b.Live →
    a.name = b.name → i = j
  found : ∀ (i : Nat) a, t.streams[i]? = some a → a.Live → t.findStream a.name = some i
  quiet : ∀ (i : Nat) a b, s.streams[i]? = some a → t.streams[i]? = some b →
    a.proc.hasDestroy = true → b.proc.launched = a.proc.launched
  terminated : ∀ i e' a b, e = .stream i e' → s.streams[i]? = some a → t.streams[i]? = some b →
    a.proc.DestroyReturns e' b.proc → b.proc.NoProcess
  apart : ∀ (i j : Nat) a b, t.streams[i]? = some a → t.streams[j]? = some b → i ≠ j →
    a.name = b.name → ¬ a.Abandoned → ¬ b.Abandoned → a.proc.NoProcess ∨ b.proc.NoProcess

def KeepsPromises (s : StreamMngr) (e : MngrEvent) : Prop :=
  ∀ t, s.mngrStep e = some t → s.Promised e t

/-- A name that is no string is not that of a stream, and the calls on a stream are orderly. -/
def Orderly (s : StreamMngr) : MngrEvent → Prop
  | .create a _ _ => ∀ n, a.streamName = some (.other n) → s.streamMap n = none
  | .stream i e => ∀ obj, s.streams[i]? = some obj → obj.proc.Orderly e
  | .collect _ => True

/-! ## The invariant -/

/-- A stream that was neither abandoned nor destroyed is the one in `_stream_map`. -/
def ObjectOk (streamMap : String → Option Nat) (i : Nat) (obj : StreamObject) : Prop :=
  obj.Abandoned ∨ obj.proc.InMode .destroyed ∨
    (obj.collected = false ∧ obj.proc.HasMode ∧ streamMap obj.name = some i)

def MngrInv (s : StreamMngr) : Prop := Tasks.Each (ObjectOk s.streamMap) s.streams

variable {s t : StreamMngr} {i : Nat} {obj : StreamObject} {turn : StreamTurn}
  {streamMap streamMap' : String → Option Nat}

/-- The other streams stay in `_stream_map`. -/
theorem ObjectOk.of_map {j : Nat} (h : ObjectOk streamMap j obj)
    (hmap : streamMap obj.name = some j → streamMap' obj.name = some j) :
    ObjectOk streamMap' j obj := by
  rcases h with ha | hd | ⟨hc, hm, hn⟩
  · exact .inl ha
  · exact .inr (.inl hd)
  · exact .inr (.inr ⟨hc, hm, hmap hn⟩)

/-- Only the name of a stream that is in `_stream_map` is removed. -/
theorem MngrInv.put (h : s.MngrInv)
    (hnew : ObjectOk (s.put i obj turn).streamMap i { obj with proc := turn.stream })
    (hpop : turn.popped = true → s.streamMap obj.name = some i) : (s.put i obj turn).MngrInv := by
  refine Tasks.Each.set h hnew fun j b hne hb hok => hok.of_map fun hname => ?_
  unfold StreamMngr.put
  cases hp : turn.popped with
  | false => exact hname
  | true =>
    have hn : b.name ≠ obj.name := by
      intro hn
      rw [hn, hpop hp] at hname
      cases hname
      exact hne rfl
    show Function.update s.streamMap obj.name none b.name = some j
    rw [Function.update_of_ne hn]
    exact hname

theorem put_streamMap (hp : turn.popped = false) : (s.put i obj turn).streamMap = s.streamMap := by
  simp [put, hp]

theorem inv_stream {e : StreamEvent} (h : s.MngrInv) (hobj : s.streams[i]? = some obj)
    (hfree : ¬ (obj.collected = true ∧ e.needsObject = true)) (ho : obj.proc.Orderly e)
    (ht : obj.proc.streamStep e = some turn) : (s.put i obj turn).MngrInv := by
  rcases h i obj hobj with ha | hd | ⟨hc, ⟨m, hm⟩, hn⟩
  · have he : e.needsObject = false := by
      by_contra hne
      exact hfree ⟨ha.1, Bool.not_eq_false _ ▸ hne⟩
    obtain ⟨hp, hflag⟩ := step_frame he ht
    refine h.put (.inl ⟨ha.1, hflag.trans ha.2⟩) fun hp' => ?_
    cases hp.symm.trans hp'
  · have hok := step_ok hd ho ht
    refine h.put (.inr (.inl (hok.stays hd).1)) fun hp' => ?_
    cases (hok.stays hd).2.symm.trans hp'
  · have hok := step_ok hm ho ht
    refine h.put ?_ fun _ => hn
    cases hp : turn.popped with
    | true => exact .inr (.inl (hok.popped hp))
    | false => exact .inr (.inr ⟨hc, hok.mode, (congrFun (put_streamMap hp) _).trans hn⟩)

theorem inv_register (h : s.MngrInv) (hname : s.streamMap obj.name = none)
    (hc : obj.collected = false) (hm : obj.proc.HasMode) : (s.register obj).MngrInv := by
  refine Tasks.Each.append h (.inr (.inr ⟨hc, hm, Function.update_self ..⟩)) ?_
  intro j b hb hok
  refine hok.of_map fun hn => ?_
  have hne : b.name ≠ obj.name := by
    intro he
    rw [he, hname] at hn
    cases hn
  show Function.update s.streamMap obj.name _ b.name = some j
  rw [Function.update_of_ne hne]
  exact hn

theorem register_put (hp : turn.popped = false) :
    (s.register obj).put s.streams.length obj turn =
      s.register { obj with proc := turn.stream } := by
  simp [put, register, hp]

/-- A call of `create_stream` raises at once, or it registers a stream under a new name. -/
theorem createStream_cases {a : StreamArgs} {oserror : Bool} {now : Int}
    {r : Except StreamError StreamMngr} (h : s.createStream a oserror now = some r) :
    (∃ err, r = .error err) ∨
    (∃ name proc m, a.streamName = some name ∧ s.isRegistered name = false ∧
      r = .ok (s.register ⟨name.string, proc, false⟩) ∧ proc.InMode m ∧ m.hasDestroy = false) := by
  unfold createStream at h
  split at h
  · next sourceType name hty hn =>
    split at h
    · cases h
      exact .inl ⟨_, rfl⟩
    · split at h
      · cases h
        exact .inl ⟨_, rfl⟩
      · next hreg =>
        have hreg : s.isRegistered name = false := Bool.eq_false_iff.2 hreg
        simp only at h
        split at h
        · cases h
          exact .inr ⟨name, _, _, hn, hreg, rfl, create_unstarted _ _ _, rfl⟩
        · obtain ⟨p, g, hstart, hm⟩ := create_start a.errRestartInterval a.ageTime oserror now
          rw [hstart] at h
          cases h
          exact .inr ⟨name, p, _, hn, hreg, congrArg Except.ok (register_put rfl), hm, rfl⟩
  · cases h
    exact .inl ⟨_, rfl⟩

/-- The name of a new stream is free. -/
theorem streamMap_of_not_registered {name : NameArg} (h : s.isRegistered name = false)
    (ho : ∀ n, name = .other n → s.streamMap n = none) : s.streamMap name.string = none := by
  cases name with
  | str n => simpa [isRegistered, NameArg.string] using h
  | other n => exact ho n rfl

theorem inv_create {a : StreamArgs} {oserror : Bool} {now : Int} (h : s.MngrInv)
    (ho : s.Orderly (.create a oserror now)) (ht : s.mngrStep (.create a oserror now) = some t) :
    t.MngrInv := by
  obtain ⟨r, hr, rfl⟩ := Option.map_eq_some_iff.1 ht
  rcases createStream_cases hr with ⟨err, rfl⟩ | ⟨name, proc, m, hn, hreg, rfl, hm, -⟩
  · exact h
  · refine inv_register h (streamMap_of_not_registered hreg fun n hname => ?_) rfl ⟨m, hm⟩
    rw [hname] at hn
    exact ho n hn

/-- Without a call in progress, a stream on which `destroy` was called is destroyed. -/
theorem destroyed_of_done {p : SourceProcessStream} {m : Mode} (h : p.InMode m)
    (hd : p.hasDestroy = true) (hdone : ∀ pos ∈ p.calls, pos.isDone = true) :
    p.InMode .destroyed := by
  have hactive := h.active_none hdone
  have hm := h.hasDestroy.symm.trans hd
  cases m with
  | destroyed => exact h
  | destroying c g err => cases hactive
  | unstarted => cases hm
  | spawning c g => cases hm
  | resting on => cases hm
  | restartStop c g => cases hm
  | restartStart c g => cases hm

theorem inv_collect (h : s.MngrInv) (ht : s.collect i = some t) : t.MngrInv := by
  obtain ⟨obj, hobj, ht⟩ := Option.bind_eq_some_iff.1 ht
  split at ht
  · next hc =>
    cases ht
    have hdone : ∀ pos ∈ obj.proc.calls, pos.isDone = true := List.all_eq_true.1 hc.2
    -- deleting the object drops its reference to the watcher
    have hdes : obj.proc.InMode .destroyed →
        InMode { obj.proc with procWatcher := none } .destroyed := fun hd =>
      ⟨hd.hasDestroy, hd.hasStarted, rfl, hd.held, hd.single, hd.calls⟩
    refine Tasks.Each.set h ?_ fun j b hne hb hok => hok.of_map fun hname => ?_
    · rcases h i obj hobj with ha | hd | ⟨-, ⟨m, hm⟩, -⟩
      · exact .inl ⟨rfl, ha.2⟩
      · exact .inr (.inl (hdes hd))
      · cases hflag : obj.proc.hasDestroy with
        | false => exact .inl ⟨rfl, hflag⟩
        | true => exact .inr (.inl (hdes (destroyed_of_done hm hflag hdone)))
    · simp only [hname, Option.some.injEq, if_neg hne]
  · cases ht

theorem inv_mngrStep {e : MngrEvent} (h : s.MngrInv) (ho : s.Orderly e)
    (ht : s.mngrStep e = some t) : t.MngrInv := by
  cases e with
  | create a oserror now => exact inv_create h ho ht
  | stream i e =>
    obtain ⟨obj, hobj, ht⟩ := Option.bind_eq_some_iff.1 ht
    split at ht
    · cases ht
    · next hfree =>
      obtain ⟨turn, hturn, rfl⟩ := Option.map_eq_some_iff.1 ht
      exact inv_stream h hobj hfree (ho obj hobj) hturn
  | collect i => exact inv_collect h ht

/-! ## The promises -/

theorem ObjectOk.registered (h : ObjectOk streamMap i obj) (hl : obj.Live) :
    streamMap obj.name = some i := by
  rcases h with ha | hd | ⟨-, -, hn⟩
  · cases ha.1.symm.trans hl.1
  · cases hd.hasDestroy.symm.trans hl.2
  · exact hn

/-- Two streams of one name that were not abandoned do not both have a process. -/
theorem MngrInv.apart (h : s.MngrInv) {j : Nat} {a b : StreamObject}
    (ha : s.streams[i]? = some a) (hb : s.streams[j]? = some b) (hne : i ≠ j)
    (hname : a.name = b.name) (hna : ¬ a.Abandoned) (hnb : ¬ b.Abandoned) :
    a.proc.NoProcess ∨ b.proc.NoProcess := by
  rcases h i a ha with hab | hd | ⟨-, -, hi⟩
  · exact absurd hab hna
  · exact .inl hd.noProcess
  · rcases h j b hb with hab | hd | ⟨-, -, hj⟩
    · exact absurd hab hnb
    · exact .inr hd.noProcess
    · rw [hname, hj] at hi
      cases hi
      exact absurd rfl hne

/-- The step of a stream leaves it as the step of its process does. -/
theorem MngrInv.stepOk {e : StreamEvent} (h : s.MngrInv) (hobj : s.streams[i]? = some obj)
    (ho : obj.proc.Orderly e) (ht : obj.proc.streamStep e = some turn) :
    obj.Abandoned ∨ obj.proc.StepOk e turn := by
  rcases h i obj hobj with ha | hd | ⟨-, ⟨m, hm⟩, -⟩
  · exact .inl ha
  · exact .inr (step_ok hd ho ht)
  · exact .inr (step_ok hm ho ht)

theorem quiet_stream {e : StreamEvent} (h : s.MngrInv) (hobj : s.streams[i]? = some obj)
    (ho : obj.proc.Orderly e) (ht : obj.proc.streamStep e = some turn) (j : Nat)
    (a b : StreamObject) (ha : s.streams[j]? = some a) (hb : (s.put i obj turn).streams[j]? = some b)
    (hd : a.proc.hasDestroy = true) : b.proc.launched = a.proc.launched := by
  rcases Tasks.getElem?_set_some hb with ⟨rfl, rfl⟩ | ⟨-, hb⟩
  · rw [hobj] at ha
    cases ha
    rcases h.stepOk hobj ho ht with hab | hok
    · cases hab.2.symm.trans hd
    · exact hok.quiet hd
  · rw [hb] at ha
    cases ha
    rfl

theorem destroyReturns_needsObject {p q : SourceProcessStream} {e : StreamEvent}
    (h : p.DestroyReturns e q) : e.needsObject = true := by
  obtain ⟨c, pos, -, -, ⟨oserror, now, rfl, -⟩ | ⟨wake, oserror, now, rfl, -⟩⟩ := h
  · rfl
  · rfl

theorem terminated_stream {e : StreamEvent} (h : s.MngrInv) (hobj : s.streams[i]? = some obj)
    (hfree : ¬ (obj.collected = true ∧ e.needsObject = true)) (ho : obj.proc.Orderly e)
    (ht : obj.proc.streamStep e = some turn) (hret : obj.proc.DestroyReturns e turn.stream) :
    turn.stream.NoProcess := by
  rcases h.stepOk hobj ho ht with hab | hok
  · exact absurd ⟨hab.1, destroyReturns_needsObject hret⟩ hfree
  · exact (hok.returns hret).noProcess

theorem promised_of_inv {e : MngrEvent} (h : t.MngrInv)
    (hquiet : ∀ (i : Nat) a b, s.streams[i]? = some a → t.streams[i]? = some b →
      a.proc.hasDestroy = true → b.proc.launched = a.proc.launched)
    (hterm : ∀ i e' a b, e = .stream i e' → s.streams[i]? = some a → t.streams[i]? = some b →
      a.proc.DestroyReturns e' b.proc → b.proc.NoProcess) : s.Promised e t := by
  have hfound : ∀ (i : Nat) a, t.streams[i]? = some a → a.Live → t.streamMap a.name = some i :=
    fun i a ha hl => (h i a ha).registered hl
  refine ⟨fun i j a b ha hb hla hlb hname => ?_, hfound, hquiet, hterm,
    fun i j a b ha hb hne hname => h.apart ha hb hne hname⟩
  have hi := hfound i a ha hla
  rw [hname, hfound j b hb hlb] at hi
  cases hi
  rfl

/-- A step that changes no process is quiet. -/
theorem quiet_of_same (hproc : ∀ (i : Nat) a b, s.streams[i]? = some a → t.streams[i]? = some b →
    b.proc.watchers = a.proc.watchers) (i : Nat) (a b : StreamObject)
    (ha : s.streams[i]? = some a) (hb : t.streams[i]? = some b) :
    b.proc.launched = a.proc.launched := by
  unfold SourceProcessStream.launched
  rw [hproc i a b ha hb]

theorem keepsPromises_of_orderly {e : MngrEvent} (h : s.MngrInv) (ho : s.Orderly e) :
    s.KeepsPromises e := by
  intro t ht
  have hinv := inv_mngrStep h ho ht
  cases e with
  | create a oserror now =>
    refine promised_of_inv hinv (fun i a b ha hb _ => ?_) fun i e' a b he => ?_
    · refine quiet_of_same (fun i a b ha hb => ?_) i a b ha hb
      obtain ⟨r, hr, rfl⟩ := Option.map_eq_some_iff.1 ht
      rcases createStream_cases hr with ⟨err, rfl⟩ | ⟨name, proc, m, -, -, rfl, -⟩
      · cases ha.symm.trans hb
        rfl
      · have hb' := Tasks.getElem?_append_of_some (a := ⟨name.string, proc, false⟩) ha
        cases hb'.symm.trans hb
        rfl
    · cases he
  | stream i e =>
    obtain ⟨obj, hobj, ht⟩ := Option.bind_eq_some_iff.1 ht
    split at ht
    · cases ht
    · next hfree =>
      obtain ⟨turn, hturn, rfl⟩ := Option.map_eq_some_iff.1 ht
      refine promised_of_inv hinv (quiet_stream h hobj (ho obj hobj) hturn) fun j e' a b he ha hb => ?_
      cases he
      rw [hobj] at ha
      cases ha
      have hb' : (s.put i obj turn).streams[i]? = some { obj with proc := turn.stream } :=
        Tasks.getElem?_set_self hobj
      cases hb'.symm.trans hb
      exact terminated_stream h hobj hfree (ho obj hobj) hturn
  | collect i =>
    obtain ⟨obj, hobj, ht⟩ := Option.bind_eq_some_iff.1 ht
    split at ht
    · cases ht
      refine promised_of_inv hinv (fun i a b ha hb _ => ?_) fun i e' a b he => ?_
      · refine quiet_of_same (fun j a b ha hb => ?_) i a b ha hb
        rcases Tasks.getElem?_set_some hb with ⟨rfl, rfl⟩ | ⟨-, hb⟩
        · cases hobj.symm.trans ha
          rfl
        · cases ha.symm.trans hb
          rfl
      · cases he
    · cases ht

/-- **One stream per name**, in a run in which the names are strings and the calls on each stream
are orderly. -/
theorem one_stream_per_name (sourceTypes : List String) (es : List MngrEvent)
    (h : Run.Each mngrStep Orderly { sourceTypes := sourceTypes } es) :
    Run.Each mngrStep KeepsPromises { sourceTypes := sourceTypes } es := by
  refine Run.each_of_inv (fun _ _ _ hi ho ht => inv_mngrStep hi ho ht)
    (fun _ _ hi ho => keepsPromises_of_orderly hi ho) h ?_
  exact Tasks.Each.nil

/-- A stream without a call in progress and with a watcher that is not in `Popen`. -/
theorem orderly_of_quiet {p : SourceProcessStream} (hcalls : ∀ pos ∈ p.calls, pos.isDone = true)
    (hl : ∀ x ∈ p.watchers, ∀ pos ∈ x.greenlets, ¬ pos.Launching) (e : StreamEvent) :
    p.Orderly e := by
  have hready : p.WatcherReady := fun w x _ hx =>
    notLaunching_of_forall (hl x (List.mem_of_getElem? hx))
  cases e with
  | restart => exact hready
  | destroy oserror now => exact ⟨hcalls, hready⟩
  | resume c wake oserror now => trivial
  | background w g wake now => trivial
  | exit w child code => trivial
  | delWatcher w => trivial

/-- Streams on which no call is in progress and whose watchers are not in `Popen`. -/
theorem orderly_stream (hcalls : ∀ obj ∈ s.streams, ∀ pos ∈ obj.proc.calls, pos.isDone = true)
    (hl : ∀ obj ∈ s.streams, ∀ x ∈ obj.proc.watchers, ∀ pos ∈ x.greenlets, ¬ pos.Launching)
    (i : Nat) (e : StreamEvent) : s.Orderly (.stream i e) := fun obj hobj =>
  orderly_of_quiet (hcalls obj (List.mem_of_getElem? hobj)) (hl obj (List.mem_of_getElem? hobj)) e

def cam : StreamArgs := { sourceType := some "rtsp", streamName := some (.str "cam") }

/-- A stream is created, restarted and destroyed, and another one is created under its name. -/
def recreateRun : List MngrEvent :=
  [.create cam false 0, .stream 0 (.resume 0 .launched false 0), .stream 0 .restart,
   .stream 0 (.exit 0 0 0), .stream 0 (.resume 1 .waited false 0),
   .stream 0 (.resume 1 .launched false 0), .stream 0 (.destroy false 0), .stream 0 (.exit 0 1 0),
   .stream 0 (.resume 2 .waited false 0), .create cam false 0]

theorem one_stream_per_name_recreateRun :
    Run.Each mngrStep KeepsPromises { sourceTypes := ["rtsp"] } recreateRun := by
  have hcam : ∀ {s : StreamMngr}, s.Orderly (.create cam false 0) := by
    intro s n hn
    cases hn
  refine one_stream_per_name ["rtsp"] recreateRun ?_
  refine .cons rfl hcam (.cons rfl (fun _ _ => trivial) ?_)
  refine .cons rfl (orderly_stream (by decide) (by decide) _ _) (.cons rfl (fun _ _ => trivial) ?_)
  refine .cons rfl (fun _ _ => trivial) (.cons rfl (fun _ _ => trivial) ?_)
  refine .cons rfl (orderly_stream (by decide) (by decide) _ _) (.cons rfl (fun _ _ => trivial) ?_)
  exact .cons rfl (fun _ _ => trivial) (.cons rfl hcam trivial)

/-- A `destroy` returns while a `restart` still waits for the process; a `destroy` during the
start of the process leaves a destroyed stream that launches it; and a name that is no string
gets a second stream. -/
theorem promises_broken :
    ¬ Run.Each mngrStep KeepsPromises { sourceTypes := ["rtsp"] }
      [.create cam false 0, .stream 0 (.resume 0 .launched false 0), .stream 0 .restart,
       .stream 0 (.destroy false 0)] ∧
    ¬ Run.Each mngrStep KeepsPromises { sourceTypes := ["rtsp"] }
      [.create cam false 0, .stream 0 (.destroy false 0),
       .stream 0 (.resume 0 .launched false 0)] ∧
    ¬ Run.Each mngrStep KeepsPromises { sourceTypes := ["rtsp"] }
      [.create { cam with streamName := some (.str "5") } false 0,
       .create { cam with streamName := some (.other "5") } false 0] := by
  refine ⟨fun h => ?_, fun h => ?_, fun h => ?_⟩
  · have hstep := (((h.2 _ rfl).2 _ rfl).2 _ rfl).1
    have hnone := (hstep _ rfl).terminated 0 _ _ _ rfl rfl rfl
      ⟨2, .done none, rfl, rfl, .inl ⟨false, 0, rfl, rfl⟩⟩ _ List.mem_cons_self
    exact hnone.2 _ List.mem_cons_self rfl
  · have hstep := ((h.2 _ rfl).2 _ rfl).1
    have hquiet := (hstep _ rfl).quiet 0 _ _ rfl rfl rfl
    cases hquiet
  · have hstep := (h.2 _ rfl).1
    cases (hstep _ rfl).unique 0 1 _ _ rfl rfl ⟨rfl, rfl⟩ ⟨rfl, rfl⟩ rfl

end StreamMngr

end StreamSwitch
