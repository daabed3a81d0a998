import StreamSwitch.Lib.Run
import StreamSwitch.Lib.Txn
import StreamSwitch.Process.Stream

/-!
# The stream service

`load`, `new_stream` and `del_stream` of `StreamService` in `stream_service.py`. The
service keeps its streams in `_stream_map` and `_stream_list`, and their configurations
in a table, within the DAO context of a call. What fails in a call is part of the
event.

`KeepsConsistent` is what a call promises: the names in `_stream_map`, in
`_stream_list`, of the streams that are not destroyed and of the persisted
configurations agree after it, and a `new_stream` or `del_stream` that raises changes
none of them. `Orderly` is the condition on a call under which it does.
-/

namespace StreamSwitch

open Txn Txn.Call

/-- A row of `stream_confs`. -/
structure StreamConf where
  streamName : String
  sourceType : String
deriving DecidableEq

abbrev ConfTable := Table StreamConf.streamName

structure ServiceStream where
  name : String
  hasDestroy : Bool
deriving DecidableEq

structure StreamService where
  /-- `list_source_types()` of the stream manager. -/
  sourceTypes : List String
  streamMap : String → Option Nat := fun _ => none
  streamList : List Nat := []
  /-- The streams that the service has created; a stream is known by its position. -/
  streams : List ServiceStream := []

/-- How the creation of a stream ends. -/
inductive CreateOutcome
  | created
  | factoryRaises
  /-- `start` raises, and the stream is destroyed. -/
  | startRaises
deriving DecidableEq

/-- What fails in a call. -/
structure Faults where
  /-- `session.begin` of the outermost context. -/
  begins : Option StreamError := none
  /-- `StreamConf(**stream_configs)` -/
  construct : Option StreamError := none
  query : Option StreamError := none
  /-- The commit of an inner context. -/
  flush : Option StreamError := none
  /-- The commit of the outermost context. -/
  commit : Option StreamError := none
  destroy : Option StreamError := none
  create : String → CreateOutcome := fun _ => .created

namespace StreamService

abbrev ServiceStore := Store StreamService ConfTable

abbrev ServiceCall := Call StreamService ConfTable StreamError

/-! ## The DAO -/

def getAllStreamConf (f : Faults) : ServiceCall (List StreamConf) :=
  context none f.flush do
    check f.query
    return (← getSession).rows

def addStreamConf (conf : StreamConf) (f : Faults) : ServiceCall Unit :=
  context none f.flush do
    match (← getSession).insert conf with
    -- the primary key exists
    | none => raise .other
    | some rows => setSession rows

def delStreamConf (streamName : String) (f : Faults) : ServiceCall Unit :=
  context none f.flush do
    check f.query
    match (← getSession).delete streamName with
    -- `one()` finds no row
    | none => raise .other
    | some rows => setSession rows

/-! ## Streams -/

/-- A stream of that name is in the stream manager. -/
def isRegistered (m : StreamService) (streamName : String) : Bool :=
  m.streams.any fun stream => stream.name = streamName ∧ !stream.hasDestroy

/-- A new stream, perhaps one that was destroyed at once. -/
def push (m : StreamService) (streamName : String) (hasDestroy : Bool) : StreamService :=
  { m with streams := m.streams ++ [⟨streamName, hasDestroy⟩] }

/-- `create_stream` of the stream manager. -/
def createStream (conf : StreamConf) (outcome : CreateOutcome) : ServiceCall Nat := do
  let m ← getMem
  if conf.sourceType ∉ m.sourceTypes then
    raise (.streamSwitch ("source_type(" ++ conf.sourceType ++ ") Not Register") 404)
  else if m.isRegistered conf.streamName then
    raise (.streamSwitch ("Stream(" ++ conf.streamName ++ ") already exists") 400)
  else
    match outcome with
    | .factoryRaises => raise .other
    | .startRaises => do
      setMem (m.push conf.streamName true)
      raise .watcher
    | .created => do
      setMem (m.push conf.streamName false)
      return m.streams.length

/-- `destroy` of the stream `i`; it marks the stream first. -/
def destroy (i : Nat) (err : Option StreamError) : ServiceCall Unit := do
  let m ← getMem
  match m.streams[i]? with
  | some ⟨_, true⟩ => return ()
  | _ => do
    setMem { m with streams := m.streams.modify i fun stream => { stream with hasDestroy := true } }
    check err

/-- `self._stream_map[stream_name] = stream` and `self._stream_list.append(stream)` -/
def keep (streamName : String) (i : Nat) : ServiceCall Unit := do
  let m ← getMem
  setMem { m with
    streamMap := Function.update m.streamMap streamName (some i)
    streamList := m.streamList ++ [i] }

/-! ## Calls -/

/-- The loop of `load`. -/
def loadConfs (supportedSourceTypes : List String) (create : String → CreateOutcome) :
    List StreamConf → ServiceCall Unit
  | [] => return ()
  | conf :: rest => do
    if conf.sourceType ∈ supportedSourceTypes then
      let i ← createStream conf (create conf.streamName)
      keep conf.streamName i
      loadConfs supportedSourceTypes create rest
    else loadConfs supportedSourceTypes create rest

def load (f : Faults) : ServiceCall Unit := do
  let confs ← context f.begins f.commit (getAllStreamConf f)
  loadConfs (← getMem).sourceTypes f.create confs

def newStream (conf : StreamConf) (f : Faults) : ServiceCall Nat :=
  context f.begins f.commit do
    check f.construct
    addStreamConf conf f
    let i ← createStream conf (f.create conf.streamName)
    keep conf.streamName i
    return i

def delStream (streamName : String) (f : Faults) : ServiceCall Unit :=
  context f.begins f.commit do
    let m ← getMem
    match m.streamMap streamName with
    | none => raise (.streamSwitch ("Stream (" ++ streamName ++ ") Not Found") 404)
    | some i => do
      setMem { m with
        streamMap := Function.update m.streamMap streamName none
        streamList := m.streamList.erase i }
      destroy i f.destroy
      delStreamConf streamName f

inductive ServiceEvent
  | load (f : Faults)
  | newStream (conf : StreamConf) (f : Faults)
  | delStream (streamName : String) (f : Faults)

/-- What a call raises, and what it leaves. -/
def outcome {α : Type} (call : ServiceCall α) (s : ServiceStore) :
    Option StreamError × ServiceStore :=
  match call.run s with
  | (.ok _, t) => (none, t)
  | (.error e, t) => (some e, t)

def run (s : ServiceStore) : ServiceEvent → Option StreamError × ServiceStore
  | .load f => outcome (load f) s
  | .newStream conf f => outcome (newStream conf f) s
  | .delStream streamName f => outcome (delStream streamName f) s

def serviceStep (s : ServiceStore) (e : ServiceEvent) : Option ServiceStore := some (run s e).2

/-- A service that has not loaded anything. -/
def fresh (sourceTypes : List String) (confs : ConfTable) : ServiceStore :=
  ⟨{ sourceTypes := sourceTypes }, confs, confs, 0⟩

/-! ## What is promised -/

def listNames (m : StreamService) : List String :=
  m.streamList.filterMap fun i => (m.streams[i]?).map ServiceStream.name

/-- The streams that are not destroyed. -/
def liveStreams (m : StreamService) : List ServiceStream :=
  m.streams.filter fun stream => !stream.hasDestroy

/-- The names of the persisted configurations of supported types. -/
def supportedNames (s : ServiceStore) : List String :=
  (s.persisted.rows.filter fun conf => conf.sourceType ∈ s.mem.sourceTypes).map
    StreamConf.streamName

/-- The four stores have the same names. -/
structure Consistent (s : ServiceStore) : Prop where
  listed : ∀ n, n ∈ s.mem.listNames ↔ (s.mem.streamMap n).isSome = true
  once : s.mem.listNames.Nodup
  live : ∀ n, n ∈ s.mem.liveStreams.map ServiceStream.name ↔ (s.mem.streamMap n).isSome = true
  persisted : ∀ n, n ∈ supportedNames s ↔ (s.mem.streamMap n).isSome = true

structure Unchanged (s t : ServiceStore) : Prop where
  streamMap : t.mem.streamMap = s.mem.streamMap
  streamList : t.mem.streamList = s.mem.streamList
  live : t.mem.liveStreams = s.mem.liveStreams
  persisted : t.persisted = s.persisted

def ServiceEvent.isLoad : ServiceEvent → Bool
  | .load _ => true
  | _ => false

/-- After the call the stores agree, and a `new_stream` or `del_stream` that raises has changed
none of them. -/
def KeepsConsistent (s : ServiceStore) (e : ServiceEvent) : Prop :=
  Consistent (run s e).2 ∧
    (e.isLoad = false → (run s e).1 ≠ none → Unchanged s (run s e).2)

/-- A persisted configuration of a supported type was not loaded. -/
def Unloaded (s : ServiceStore) : Prop := ∃ n ∈ supportedNames s, s.mem.streamMap n = none

/-- Nothing fails in `load`. -/
structure LoadSucceeds (s : ServiceStore) (f : Faults) : Prop where
  begins : f.begins = none
  query : f.query = none
  flush : f.flush = none
  commit : f.commit = none
  create : ∀ n ∈ supportedNames s, f.create n = .created

/-- The block of `new_stream` comes to its end. -/
structure NewCompletes (s : ServiceStore) (conf : StreamConf) (f : Faults) : Prop where
  begins : f.begins = none
  construct : f.construct = none
  free : conf.streamName ∉ s.persisted.keys
  flush : f.flush = none
  supported : conf.sourceType ∈ s.mem.sourceTypes
  create : f.create conf.streamName = .created

/-- Nothing fails in `del_stream`. -/
structure DelSucceeds (f : Faults) : Prop where
  destroy : f.destroy = none
  query : f.query = none
  flush : f.flush = none
  commit : f.commit = none

def Orderly (s : ServiceStore) : ServiceEvent → Prop
  | .load f => Unloaded s → LoadSucceeds s f
  | .newStream conf f => ¬ Unloaded s ∧ (NewCompletes s conf f → f.commit = none)
  | .delStream streamName f => ¬ Unloaded s ∧
    (f.begins = none → (s.mem.streamMap streamName).isSome = true → DelSucceeds f)

end StreamService

end StreamSwitch
