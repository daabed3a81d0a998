import StreamSwitch.Rpc.Sink

/-!
# Concurrent requests of a controller stream

`send_rpc_request` of `stream_mngr.py`, as the greenlets of the controller run it.
It keeps its cached socket like the sink does, with other rules for the rest: an
exception closes the socket, the socket is put back before the reply is looked at,
and a stream may be destroyed while calls are under way.

`api_socket_reuse`: on a sink and on a controller stream alike, in every
interleaving, the sockets of the calls are used as a `Pool` prescribes, and what a
call returns is the reply to its own request.
-/

namespace StreamSwitch

inductive PyError
  | streamSwitchError (info : String) (httpStatusCode : Int)
  /-- An exception of pyzmq, of protobuf or of an index. -/
  | other
deriving DecidableEq, Repr

/-- The arguments of `send_rpc_request`. -/
structure StreamRpcArgs where
  requestPacket : Option ProtoCommonPacket
  blob : Option Bytes := none
  timeout : Rat := 5

inductive StreamRpcState
  /-- The arguments are checked. -/
  | checked
  /-- `_api_client_socket` was taken; the socket of the call or `None`. -/
  | taken (apiSocket : Option Nat)
  | sent (apiSocket : Nat)
  | received (apiSocket : Nat) (recvBytesList : List Bytes)
  /-- The socket is put back or closed. -/
  | replied (recvBytesList : List Bytes)
  | raised (e : PyError)
  | returned (repPacket : ProtoCommonPacket) (blob : Option Bytes)

def StreamRpcState.isDone : StreamRpcState → Bool
  | .raised _ | .returned _ _ => true
  | _ => false

structure StreamRpcCall where
  requestPacket : ProtoCommonPacket
  blob : Option Bytes
  state : StreamRpcState

/-- A stream of the controller with the calls that were made on it. -/
structure BaseStream where
  hasDestroy : Bool := false
  hasStarted : Bool := false
  apiClientSocket : Option Nat := none
  apiSeq : Nat := 1
  calls : List StreamRpcCall := []
  net : Pool.Net (Nat × List Bytes) (List Bytes) := {}

/-- A step of one call. -/
inductive StreamCallEvent
  | takeSocket
  | newSocket (created : Bool)
  | send
  /-- An exception between `SerializeToString` and `recv_multipart`. -/
  | raise
  | timeout
  | recv
  | cacheSocket
  | parseReply

inductive StreamEvent
  | start
  | startFailed
  | destroy
  /-- `__del__`: no call is under way. -/
  | del
  /-- A request is made with the number it is given, and `send_rpc_request` is called. -/
  | call (args : UInt32 → StreamRpcArgs)
  | step (c : Nat) (e : StreamCallEvent)
  | answer (i : Nat) (frames : List Bytes)

namespace StreamRpcCall

variable (pb : Protobuf)

def sendBytesList (call : StreamRpcCall) : List Bytes :=
  pb.commonPacket.encode call.requestPacket :: call.blob.toList

/-- `_parse_rep_bytes` and the checks of the reply. -/
def parseReply (call : StreamRpcCall) : List Bytes → StreamRpcState
  | [] => .raised .other
  | bytes :: rest =>
    match pb.commonPacket.decode bytes with
    | none => .raised .other
    | some repPacket =>
      if repPacket.type ≠ .reply ∨ repPacket.seq ≠ call.requestPacket.seq ∨
          repPacket.code ≠ call.requestPacket.code then
        .raised (.streamSwitchError "Reply invalid" 500)
      else if repPacket.status < 200 ∨ repPacket.status ≥ 300 then
        .raised (.streamSwitchError repPacket.info repPacket.status.toInt)
      else .returned repPacket rest.head?

/-- The call as a caller of the pool. -/
def phase (c : Nat) (call : StreamRpcCall) : Pool.Phase (Nat × List Bytes) :=
  match call.state with
  | .taken (some k) | .received k _ => .holding k
  | .sent k => .waiting k (c, call.sendBytesList pb)
  | _ => .out

end StreamRpcCall

namespace BaseStream

variable (pb : Protobuf)

/-- `_get_next_api_seq`, with `API_SEQ_MASK`. -/
def getNextApiSeq (s : BaseStream) : UInt32 × BaseStream :=
  (UInt32.ofNat (s.apiSeq &&& 0xffffffff), { s with apiSeq := s.apiSeq + 1 })

/-- The checks at the head of `send_rpc_request`. -/
def checkArgs (s : BaseStream) (args : StreamRpcArgs) : Except PyError ProtoCommonPacket :=
  match args.requestPacket with
  | none => .error (.streamSwitchError "request_packet cannot be None" 400)
  | some requestPacket =>
    if args.timeout ≤ 0 then .error (.streamSwitchError "timeout invalid" 400)
    else if requestPacket.type ≠ .request then
      .error (.streamSwitchError "packet type invalid" 400)
    else if s.hasDestroy then .error (.streamSwitchError "stream already destroy" 503)
    else if !s.hasStarted then .error (.streamSwitchError "stream not start" 500)
    else .ok requestPacket

/-- A call, once its arguments are checked. -/
def beginCall (s : BaseStream) (args : StreamRpcArgs) : StreamRpcCall :=
  match s.checkArgs args with
  | .ok requestPacket => ⟨requestPacket, args.blob, .checked⟩
  | .error e => ⟨args.requestPacket.getD {}, args.blob, .raised e⟩

def goto (s : BaseStream) (c : Nat) (call : StreamRpcCall) (state : StreamRpcState) : BaseStream :=
  { s with calls := s.calls.set c { call with state := state } }

/-- The call closes its socket and goes on without one. -/
def close (s : BaseStream) (c : Nat) (call : StreamRpcCall) (k : Nat) (state : StreamRpcState) :
    BaseStream :=
  { s with net := s.net.destroy k }.goto c call state

def callStep (s : BaseStream) (c : Nat) (call : StreamRpcCall) (e : StreamCallEvent) :
    Option BaseStream :=
  match call.state, e with
  | .checked, .takeSocket =>
    some ({ s with apiClientSocket := none }.goto c call (.taken s.apiClientSocket))
  | .taken none, .newSocket true =>
    some ({ s with net := s.net.create }.goto c call (.taken (some s.net.next)))
  | .taken none, .newSocket false => some (s.goto c call (.raised .other))
  | .taken (some k), .send =>
    match s.net.send k (c, call.sendBytesList pb) with
    | some n => some ({ s with net := n }.goto c call (.sent k))
    -- a busy socket raises
    | none => some (s.close c call k (.raised .other))
  | .taken (some k), .raise => some (s.close c call k (.raised .other))
  | .sent k, .raise => some (s.close c call k (.raised .other))
  | .sent k, .timeout => some (s.close c call k (.raised (.streamSwitchError "Requet Timeout" 503)))
  | .sent k, .recv =>
    (s.net.recv k).map fun r => { s with net := r.2 }.goto c call (.received k r.1)
  | .received k recvBytesList, .cacheSocket =>
    if !s.hasDestroy ∧ s.apiClientSocket = none then
      some ({ s with apiClientSocket := some k }.goto c call (.replied recvBytesList))
    else some (s.close c call k (.replied recvBytesList))
  | .replied recvBytesList, .parseReply =>
    some (s.goto c call (call.parseReply pb recvBytesList))
  | _, _ => none

/-- Close the cached socket. -/
def closeCached (s : BaseStream) : BaseStream :=
  match s.apiClientSocket with
  | none => s
  | some k => { s with apiClientSocket := none, net := s.net.destroy k }

def destroy (s : BaseStream) : BaseStream :=
  if s.hasDestroy then s else { s with hasDestroy := true }.closeCached

def streamStep (s : BaseStream) : StreamEvent → Option BaseStream
  | .start => if s.hasDestroy then some s else some { s with hasStarted := true }
  | .startFailed => some { s with hasStarted := false }
  | .destroy => some s.destroy
  | .del => if s.calls.all (·.state.isDone) then some s.closeCached else none
  | .call args => some
    { s.getNextApiSeq.2 with calls := s.calls ++ [s.beginCall (args s.getNextApiSeq.1)] }
  | .step c e => s.calls[c]?.bind fun call => s.callStep pb c call e
  | .answer i frames => (s.net.answer i frames).map fun n => { s with net := n }

/-- The calls as callers of a pool with the cache `_api_client_socket`. -/
def pool (s : BaseStream) : Pool.State Nat (Nat × List Bytes) (List Bytes) :=
  { cache := s.apiClientSocket
    phase := Pool.phases (StreamRpcCall.phase pb) s.calls
    net := s.net }

variable {pb} {s s' : BaseStream} {c : Nat} {call : StreamRpcCall}

/-! ## The calls are callers of a pool -/

theorem pool_phase (h : s.calls[c]? = some call) : (s.pool pb).phase c = call.phase pb c :=
  Pool.phases_of h

theorem pool_goto (h : s.calls[c]? = some call) (state : StreamRpcState) :
    (s.goto c call state).pool pb =
      (s.pool pb).goto c (StreamRpcCall.phase pb c { call with state := state }) := by
  unfold pool goto Pool.State.goto
  rw [Pool.phases_set _ h]

theorem pool_goto_self (h : s.calls[c]? = some call) {state : StreamRpcState}
    (hp : call.phase pb c = StreamRpcCall.phase pb c { call with state := state }) :
    (s.goto c call state).pool pb = s.pool pb := by
  rw [pool_goto h]
  exact Pool.goto_eq_self ((pool_phase h).trans hp)

theorem pool_close (h : s.calls[c]? = some call) {k : Nat}
    (hp : (call.phase pb c).socket = some k) {state : StreamRpcState}
    (hout : StreamRpcCall.phase pb c { call with state := state } = .out) :
    Pool.step (s.pool pb) (.destroy c) = some ((s.close c call k state).pool pb) := by
  rw [close, pool_goto (s := { s with net := s.net.destroy k }) h, hout]
  exact Pool.step_destroy ((congrArg Pool.Phase.socket (pool_phase h)).trans hp)

variable (pb) in
theorem parseReply_cases (call : StreamRpcCall) (recvBytesList : List Bytes) :
    (∃ e, call.parseReply pb recvBytesList = .raised e) ∨
    ∃ bytes rest repPacket, recvBytesList = bytes :: rest ∧
      pb.commonPacket.decode bytes = some repPacket ∧ repPacket.type = .reply ∧
      repPacket.seq = call.requestPacket.seq ∧ repPacket.code = call.requestPacket.code ∧
      call.parseReply pb recvBytesList = .returned repPacket rest.head? := by
  unfold StreamRpcCall.parseReply
  split
  · exact .inl ⟨_, rfl⟩
  · next bytes rest =>
    split
    · exact .inl ⟨_, rfl⟩
    · next repPacket hd =>
      split
      · exact .inl ⟨_, rfl⟩
      · next hc =>
        simp only [not_or, ne_eq, not_not] at hc
        split
        · exact .inl ⟨_, rfl⟩
        · exact .inr ⟨bytes, rest, repPacket, rfl, hd, hc.1, hc.2.1, hc.2.2, rfl⟩

theorem callStep_refines (h : s.calls[c]? = some call) {e : StreamCallEvent}
    (he : s.callStep pb c call e = some s') :
    s'.pool pb = s.pool pb ∨ ∃ a, Pool.step (s.pool pb) a = some (s'.pool pb) := by
  have hp : (s.pool pb).phase c = call.phase pb c := pool_phase h
  simp only [callStep] at he
  split at he
  · next hst =>
    cases he
    rw [StreamRpcCall.phase, hst] at hp
    cases hk : s.apiClientSocket with
    | none =>
      have hs : { s with apiClientSocket := none } = s := by rw [← hk]
      rw [hs]
      exact .inl (pool_goto_self h (by rw [StreamRpcCall.phase, hst]; rfl))
    | some k =>
      refine .inr ⟨.take c, ?_⟩
      rw [pool_goto (s := { s with apiClientSocket := none }) h]
      exact Pool.step_take hp hk
  · next hst =>
    cases he
    rw [StreamRpcCall.phase, hst] at hp
    refine .inr ⟨.create c, ?_⟩
    rw [pool_goto (s := { s with net := s.net.create }) h]
    exact Pool.step_create hp
  · next hst =>
    cases he
    exact .inl (pool_goto_self h (by rw [StreamRpcCall.phase, hst]; rfl))
  · next k hst =>
    rw [StreamRpcCall.phase, hst] at hp
    split at he
    · next n hn =>
      cases he
      refine .inr ⟨.send c (c, call.sendBytesList pb), ?_⟩
      rw [pool_goto (s := { s with net := n }) h, Pool.step_send hp]
      show some ({ s.pool pb with net := (s.net.send k _).getD s.net }.goto c _) = _
      rw [hn]
      rfl
    · cases he
      exact .inr ⟨.destroy c, pool_close h (by rw [StreamRpcCall.phase, hst]; rfl) rfl⟩
  · next k hst =>
    cases he
    exact .inr ⟨.destroy c, pool_close h (by rw [StreamRpcCall.phase, hst]; rfl) rfl⟩
  · next k hst =>
    cases he
    exact .inr ⟨.destroy c, pool_close h (by rw [StreamRpcCall.phase, hst]; rfl) rfl⟩
  · next k hst =>
    cases he
    exact .inr ⟨.destroy c, pool_close h (by rw [StreamRpcCall.phase, hst]; rfl) rfl⟩
  · next k hst =>
    obtain ⟨r, hr, rfl⟩ := Option.map_eq_some_iff.1 he
    rw [StreamRpcCall.phase, hst] at hp
    refine .inr ⟨.receive c, ?_⟩
    rw [pool_goto (s := { s with net := r.2 }) h]
    exact Pool.step_receive hp hr
  · next k recvBytesList hst =>
    split at he
    · next hc =>
      cases he
      rw [StreamRpcCall.phase, hst] at hp
      refine .inr ⟨.putBack c, ?_⟩
      rw [pool_goto (s := { s with apiClientSocket := some k }) h]
      exact Pool.step_putBack hp hc.2
    · cases he
      exact .inr ⟨.destroy c, pool_close h (by rw [StreamRpcCall.phase, hst]; rfl) rfl⟩
  · next recvBytesList hst =>
    cases he
    refine .inl (pool_goto_self h ?_)
    rcases parseReply_cases pb call recvBytesList with
      ⟨e, hr⟩ | ⟨_, rest, repPacket, -, -, -, -, -, hr⟩
    · rw [hr, StreamRpcCall.phase, hst]
      rfl
    · rw [hr, StreamRpcCall.phase, hst]
      rfl
  · cases he

variable (pb) in
theorem closeCached_refines (s : BaseStream) :
    s.closeCached.pool pb = s.pool pb ∨
      ∃ a, Pool.step (s.pool pb) a = some (s.closeCached.pool pb) := by
  unfold closeCached
  cases hk : s.apiClientSocket with
  | none => exact .inl rfl
  | some k => exact .inr ⟨.flush, Option.map_eq_some_iff.2 ⟨k, hk, rfl⟩⟩

/-- **The calls on a controller stream are callers of a pool.** -/
theorem refines_pool (pb : Protobuf) : Run.Refines (streamStep pb) Pool.step (pool pb) := by
  intro s e s' he
  cases e with
  | start =>
    simp only [streamStep] at he
    split at he <;> (cases he; exact .inl rfl)
  | startFailed =>
    cases he
    exact .inl rfl
  | destroy =>
    cases he
    unfold destroy
    split
    · exact .inl rfl
    · exact closeCached_refines pb { s with hasDestroy := true }
  | del =>
    simp only [streamStep] at he
    split at he
    · cases he
      exact closeCached_refines pb s
    · cases he
  | call args =>
    cases he
    left
    unfold pool
    rw [Pool.phases_append]
    · rfl
    · unfold beginCall
      split <;> rfl
  | step c e =>
    obtain ⟨call, hc, he⟩ := Option.bind_eq_some_iff.1 he
    exact callStep_refines hc he
  | answer i frames =>
    obtain ⟨n, hn, rfl⟩ := Option.map_eq_some_iff.1 he
    refine .inr ⟨.answer i frames, ?_⟩
    exact Option.map_eq_some_iff.2 ⟨n, hn, rfl⟩

/-! ## Results -/

variable (pb) in
/-- What is known of a call that has received a message, or returns. -/
def CallOk (log : List ((Nat × List Bytes) × List Bytes)) (c : Nat) (call : StreamRpcCall) : Prop :=
  match call.state with
  | .received _ recvBytesList | .replied recvBytesList =>
    ((c, call.sendBytesList pb), recvBytesList) ∈ log
  | .returned repPacket blob =>
    IsReplyTo pb log c (call.sendBytesList pb) call.requestPacket repPacket blob
  | _ => True

variable (pb) in
structure StreamInv (s : BaseStream) : Prop where
  sound : Pool.Sound (s.pool pb)
  calls : Pool.EachCall (CallOk pb s.net.log) s.calls

theorem CallOk.mono {log log' : List ((Nat × List Bytes) × List Bytes)}
    (hsub : ∀ p ∈ log, p ∈ log') (c : Nat) (call : StreamRpcCall) (h : CallOk pb log c call) :
    CallOk pb log' c call := by
  unfold CallOk at h ⊢
  split at h
  · exact hsub _ h
  · exact hsub _ h
  · exact h.mono hsub
  · trivial

theorem callOk_step (hs : Pool.Sound (s.pool pb)) (h : s.calls[c]? = some call)
    (hok : CallOk pb s.net.log c call) {e : StreamCallEvent}
    (he : s.callStep pb c call e = some s') :
    ∃ state, s'.calls = s.calls.set c { call with state := state } ∧ s'.net.log = s.net.log ∧
      CallOk pb s.net.log c { call with state := state } := by
  have hp : (s.pool pb).phase c = call.phase pb c := pool_phase h
  simp only [callStep] at he
  split at he
  · cases he
    exact ⟨_, rfl, rfl, trivial⟩
  · cases he
    exact ⟨_, rfl, rfl, trivial⟩
  · cases he
    exact ⟨_, rfl, rfl, trivial⟩
  · next k hst =>
    have hlog := Pool.Net.send_log s.net k (c, call.sendBytesList pb)
    split at he
    · next n hn =>
      cases he
      rw [hn] at hlog
      exact ⟨_, rfl, hlog, trivial⟩
    · cases he
      exact ⟨_, rfl, rfl, trivial⟩
  · cases he
    exact ⟨_, rfl, rfl, trivial⟩
  · cases he
    exact ⟨_, rfl, rfl, trivial⟩
  · cases he
    exact ⟨_, rfl, rfl, trivial⟩
  · -- the message that is received answers the request
    next k hst =>
    obtain ⟨r, hr, rfl⟩ := Option.map_eq_some_iff.1 he
    rw [StreamRpcCall.phase, hst] at hp
    exact ⟨_, rfl, Pool.Net.recv_log hr, hs.received hp hr⟩
  · next k recvBytesList hst =>
    rw [CallOk, hst] at hok
    split at he
    · cases he
      exact ⟨_, rfl, rfl, hok⟩
    · cases he
      exact ⟨_, rfl, rfl, hok⟩
  · next recvBytesList hst =>
    cases he
    rw [CallOk, hst] at hok
    refine ⟨_, rfl, rfl, ?_⟩
    rcases parseReply_cases pb call recvBytesList with
      ⟨e, hr⟩ | ⟨bytes, rest, repPacket, rfl, hd, ht, hseq, hcode, hr⟩
    · rw [hr]
      trivial
    · rw [hr]
      exact ⟨bytes, rest, hok, hd, rfl, ht, hseq, hcode⟩
  · cases he

theorem closeCached_calls (s : BaseStream) :
    s.closeCached.calls = s.calls ∧ s.closeCached.net.log = s.net.log := by
  unfold closeCached
  split <;> exact ⟨rfl, rfl⟩

theorem calls_step (h : StreamInv pb s) {e : StreamEvent} (he : streamStep pb s e = some s') :
    Pool.EachCall (CallOk pb s'.net.log) s'.calls := by
  cases e with
  | start =>
    simp only [streamStep] at he
    split at he <;> (cases he; exact h.calls)
  | startFailed =>
    cases he
    exact h.calls
  | destroy =>
    cases he
    unfold destroy
    split
    · exact h.calls
    · obtain ⟨hc, hl⟩ := closeCached_calls { s with hasDestroy := true }
      rw [hc, hl]
      exact h.calls
  | del =>
    simp only [streamStep] at he
    split at he
    · cases he
      rw [(closeCached_calls s).1, (closeCached_calls s).2]
      exact h.calls
    · cases he
  | call args =>
    cases he
    refine h.calls.append ?_
    unfold beginCall
    split <;> trivial
  | step c e =>
    obtain ⟨call, hc, he⟩ := Option.bind_eq_some_iff.1 he
    obtain ⟨state, hcalls, hlog, hok⟩ := callOk_step h.sound hc (h.calls c call hc) he
    rw [hcalls, hlog]
    exact h.calls.set hok
  | answer i frames =>
    obtain ⟨n, hn, rfl⟩ := Option.map_eq_some_iff.1 he
    exact h.calls.mono (CallOk.mono (Pool.Net.answer_log hn))

/-- **Every step keeps the sockets in order and the results right.** -/
theorem streamInv_step (h : StreamInv pb s) {e : StreamEvent} (he : streamStep pb s e = some s') :
    StreamInv pb s' :=
  ⟨(refines_pool pb).inv (fun _ _ _ ht ha => Pool.sound_step ht ha) h.sound he, calls_step h he⟩

theorem streamInv_init : StreamInv pb {} := by
  refine ⟨?_, Pool.EachCall.nil _⟩
  unfold pool
  rw [Pool.phases_nil]
  exact Pool.sound_init

variable (pb) in
/-- What a call returns is the reply to its own request. -/
def ResultsOk (s : BaseStream) : Prop :=
  ∀ c call repPacket blob, s.calls[c]? = some call → call.state = .returned repPacket blob →
    IsReplyTo pb s.net.log c (call.sendBytesList pb) call.requestPacket repPacket blob

theorem StreamInv.resultsOk (h : StreamInv pb s) : s.ResultsOk pb := by
  intro c call repPacket blob hc hst
  have hok := h.calls c call hc
  rw [CallOk, hst] at hok
  exact hok

end BaseStream

/-- **The sockets of concurrent requests**, on a sink and on a controller stream: in every
interleaving no socket is shared, leaked or destroyed while it is held, the cached one has no
unanswered request, and every result is the reply to the request of its own call. -/
theorem api_socket_reuse (pb : Protobuf) :
    (∀ (sink : StreamSink) (es : List RpcEvent) (y : RpcSystem),
      Run.exec (RpcSystem.rpcStep pb) { sink := sink } es = some y →
        Pool.Sound (y.pool pb) ∧ y.ResultsOk pb) ∧
    ∀ (es : List StreamEvent) (s : BaseStream),
      Run.exec (BaseStream.streamStep pb) {} es = some s →
        Pool.Sound (s.pool pb) ∧ s.ResultsOk pb := by
  constructor
  · intro sink es y h
    have hinv : y.RpcInv pb :=
      Run.exec_inv (fun _ _ _ hi he => RpcSystem.rpcInv_step hi he) h (RpcSystem.rpcInv_init sink)
    exact ⟨hinv.sound, hinv.resultsOk⟩
  · intro es s h
    have hinv : s.StreamInv pb :=
      Run.exec_inv (fun _ _ _ hi he => BaseStream.streamInv_step hi he) h BaseStream.streamInv_init
    exact ⟨hinv.sound, hinv.resultsOk⟩

/-- The arguments and the reply of a key frame request with number `seq`. -/
def demoArgs (seq : UInt32) : RpcArgs :=
  { request := some
      { header := some { type := some .request, seq := some seq, code := some codeKeyFrame } }
    timeout := 1000 }

def demoReply (seq : UInt32) : List Bytes :=
  [wireProtobuf.commonPacket.encode (replyTo ((demoArgs seq).request.getD {}) statusOk "")]

/-- Two calls overlap; the first times out and its reply comes late; a third call reuses the
socket of the second. -/
def demoEvents : List RpcEvent :=
  [.call demoArgs, .call demoArgs, .step 0 .takeSocket, .step 1 .takeSocket,
    .step 0 (.newSocket true), .step 1 (.newSocket true), .step 0 (.send .sent),
    .step 1 (.send .sent), .answer 1 (demoReply 2), .step 1 .recv, .step 1 .checkReply,
    .step 1 .cacheSocket, .step 0 .timeout, .call demoArgs, .step 2 .takeSocket,
    .step 0 .destroySocket, .step 2 (.send .sent), .answer 0 (demoReply 1),
    .answer 0 (demoReply 3), .step 2 .recv, .step 2 .checkReply, .step 2 .cacheSocket]

def demoStreamArgs (seq : UInt32) : StreamRpcArgs := { requestPacket := (demoArgs seq).request }

/-- The same on a stream of the controller. -/
def demoStreamEvents : List StreamEvent :=
  [.start, .call demoStreamArgs, .call demoStreamArgs, .step 0 .takeSocket, .step 1 .takeSocket,
    .step 0 (.newSocket true), .step 1 (.newSocket true), .step 0 .send, .step 1 .send,
    .answer 1 (demoReply 2), .step 1 .recv, .step 1 .cacheSocket, .step 1 .parseReply,
    .call demoStreamArgs, .step 2 .takeSocket, .step 0 .timeout, .step 2 .send,
    .answer 0 (demoReply 1), .answer 0 (demoReply 3), .step 2 .recv, .step 2 .cacheSocket,
    .step 2 .parseReply]

theorem api_socket_reuse_demoEvents :
    (∃ y, Run.exec (RpcSystem.rpcStep wireProtobuf) { sink := StreamSink.initBase {} true }
        demoEvents = some y ∧
      y.lastApiSocket = some 1 ∧ y.calls.all (·.state.isReturned) = true ∧
      Pool.Sound (y.pool wireProtobuf) ∧ y.ResultsOk wireProtobuf) ∧
    ∃ s, Run.exec (BaseStream.streamStep wireProtobuf) {} demoStreamEvents = some s ∧
      s.apiClientSocket = some 1 ∧ s.calls.all (·.state.isDone) = true ∧
      Pool.Sound (s.pool wireProtobuf) ∧ s.ResultsOk wireProtobuf := by
  have hrun : (Run.exec (RpcSystem.rpcStep wireProtobuf)
      { sink := StreamSink.initBase {} true } demoEvents).map
        (fun y => (y.lastApiSocket, y.calls.all (·.state.isReturned))) = some (some 1, true) := by
    decide +kernel
  have hstream : (Run.exec (BaseStream.streamStep wireProtobuf) {} demoStreamEvents).map
      (fun s => (s.apiClientSocket, s.calls.all (·.state.isDone))) = some (some 1, true) := by
    decide +kernel
  obtain ⟨y, hy, heq⟩ := Option.map_eq_some_iff.1 hrun
  obtain ⟨s, hs, heq'⟩ := Option.map_eq_some_iff.1 hstream
  rw [Prod.mk.injEq] at heq heq'
  exact ⟨⟨y, hy, heq.1, heq.2, (api_socket_reuse wireProtobuf).1 _ _ y hy⟩,
    s, hs, heq'.1, heq'.2, (api_socket_reuse wireProtobuf).2 _ s hs⟩

end StreamSwitch
