import StreamSwitch.Lib.Pool
import StreamSwitch.Sink.Metadata

/-!
# Concurrent requests of a stream sink

`SendRpcRequest` of `stsw_stream_sink.cc`, as the threads of the application run
it: a call is a list of steps, from one access to the shared state or the network
to the next, and the steps of different calls may come in any order. The sockets of
all calls, the requests under way and the log of what the source answered are a
`Pool.Net`; a message is its list of frames, and the request of call `c` is `c` and
the frames that were sent.

`refines_pool`: the calls are callers of a `Pool`. `rpcInv_step`: a result that a
call stores is the reply to its own request.
-/

namespace StreamSwitch

/-- The arguments of `SendRpcRequest`. -/
structure RpcArgs where
  /-- `request`, when not NULL. -/
  request : Option ProtoCommonPacket
  /-- `extra_blob`, when not NULL, of `blob_size` bytes. -/
  extraBlob : Option Bytes := none
  timeout : Int32
  /-- `result != NULL`. -/
  hasResult : Bool := true

/-- `MsgRpcResult`. -/
structure RpcResult where
  reply : ProtoCommonPacket
  extraBlob : Option Bytes
deriving DecidableEq, Repr

/-- What a call returns, and what it stored in `*result`. -/
structure RpcReturn where
  ret : Ret := {}
  result : Option RpcResult := none
deriving DecidableEq, Repr

/-- How far a call has come. -/
inductive RpcState
  /-- The arguments are checked. -/
  | checked
  /-- `last_api_socket_` was taken; the socket of the call or NULL. -/
  | taken (apiSocket : Option Nat)
  /-- After `zmsg_send`, whose result is ignored. -/
  | sent (apiSocket : Nat) (ok : Bool)
  /-- After `zmsg_recv`. -/
  | received (apiSocket : Nat) (inZmsg : List Bytes)
  | error2 (apiSocket : Nat) (r : RpcReturn)
  | error1 (apiSocket : Nat) (r : RpcReturn)
  | returned (r : RpcReturn)

def RpcState.isReturned : RpcState → Bool
  | .returned _ => true
  | _ => false

structure RpcCall where
  request : ProtoCommonPacket
  extraBlob : Option Bytes
  state : RpcState

/-- A sink with the calls that were made on it. -/
structure RpcSystem where
  sink : StreamSink
  lastApiSocket : Option Nat := none
  calls : List RpcCall := []
  net : Pool.Net (Nat × List Bytes) (List Bytes) := {}

/-- How `SerializeToString` and `zmsg_send` end. -/
inductive SendOutcome | notSerialized | failed | sent
deriving DecidableEq

/-- A step of one call. -/
inductive CallEvent
  | takeSocket
  | newSocket (created : Bool)
  | send (outcome : SendOutcome)
  /-- `zpoller_wait` returns no socket. -/
  | timeout
  | recv
  /-- `zmsg_recv` is interrupted. -/
  | interrupted
  | checkReply
  | cacheSocket
  | destroySocket

inductive RpcEvent
  /-- The heartbeat takes a number. -/
  | getNextSeq
  /-- A request is made with the number it is given, and `SendRpcRequest` is called. -/
  | call (args : UInt32 → RpcArgs)
  | step (c : Nat) (e : CallEvent)
  /-- The source answers the `i`-th unanswered request. -/
  | answer (i : Nat) (frames : List Bytes)
  /-- `Uninit`, which may not run together with other methods. -/
  | uninit

namespace StreamSink

def getNextSeq (s : StreamSink) : UInt32 × StreamSink :=
  (s.nextSeq, { s with nextSeq := s.nextSeq + 1 })

def uninit (s : StreamSink) : StreamSink :=
  if !s.isInit then s
  else
    let s := if s.isStarted then s.stopBegin.stopEnd else s
    { s with
      isInit := false
      subscriberSocket := false
      subsriberHandlerMap := fun _ => none
      clientHearbeatSocket := none }

/-- The checks at the head of `SendRpcRequest`. -/
def checkArgs (s : StreamSink) (args : RpcArgs) : Except Ret ProtoCommonPacket :=
  match args.request with
  | none => .error ⟨.param, "request/result cannot be NULL"⟩
  | some request =>
    if !args.hasResult then .error ⟨.param, "request/result cannot be NULL"⟩
    else if args.timeout < 0 then .error ⟨.param, "timeout cannot be less than 0"⟩
    else if request.type ≠ .request then .error ⟨.param, "Request' packet type is incorrect"⟩
    else if !s.isInit then .error ⟨.param, "Receiver not init"⟩
    else .ok request

/-- A call, once its arguments are checked. -/
def beginCall (s : StreamSink) (args : RpcArgs) : RpcCall :=
  match s.checkArgs args with
  | .ok request => ⟨request, args.extraBlob, .checked⟩
  | .error ret => ⟨args.request.getD {}, args.extraBlob, .returned { ret := ret }⟩

end StreamSink

/-- `reply` and `blob` are what was answered to `request`, which call `c` sent as `message`. -/
def IsReplyTo (pb : Protobuf) (log : List ((Nat × List Bytes) × List Bytes)) (c : Nat)
    (message : List Bytes) (request reply : ProtoCommonPacket) (blob : Option Bytes) : Prop :=
  ∃ frame rest, ((c, message), frame :: rest) ∈ log ∧ pb.commonPacket.decode frame = some reply ∧
    blob = rest.head? ∧ reply.type = .reply ∧ reply.seq = request.seq ∧ reply.code = request.code

theorem IsReplyTo.mono {pb : Protobuf} {log log' : List ((Nat × List Bytes) × List Bytes)} {c : Nat}
    {message : List Bytes} {request reply : ProtoCommonPacket} {blob : Option Bytes}
    (h : IsReplyTo pb log c message request reply blob) (hsub : ∀ p ∈ log, p ∈ log') :
    IsReplyTo pb log' c message request reply blob := by
  obtain ⟨frame, rest, hlog, h⟩ := h
  exact ⟨frame, rest, hsub _ hlog, h⟩

namespace RpcCall

variable (pb : Protobuf)

/-- The frames of the request. -/
def outZmsg (call : RpcCall) : List Bytes :=
  pb.commonPacket.encode call.request :: (call.extraBlob.filter fun b => !b.isEmpty).toList

/-- What is made of a received message: where the call goes on. -/
def checkReply (call : RpcCall) (apiSocket : Nat) : List Bytes → RpcState
  | [] => .error1 apiSocket {}
  | inFrame :: rest =>
    match pb.commonPacket.decode inFrame with
    | none => .error1 apiSocket { ret := ⟨.general, "Reply Parse Error"⟩ }
    | some reply =>
      if reply.type ≠ .reply ∨ call.request.seq ≠ reply.seq ∨ call.request.code ≠ reply.code then
        .error2 apiSocket { ret := ⟨.general, "Received Reply basic info error"⟩ }
      else .error2 apiSocket { result := some ⟨reply, rest.head?⟩ }

/-- The call as a caller of the pool. -/
def phase (c : Nat) (call : RpcCall) : Pool.Phase (Nat × List Bytes) :=
  match call.state with
  | .checked | .taken none | .returned _ => .out
  | .sent k true => .waiting k (c, call.outZmsg pb)
  | .taken (some k) | .sent k false | .received k _ | .error2 k _ => .holding k
  | .error1 k _ => .closing k

end RpcCall

namespace RpcSystem

variable (pb : Protobuf)

def goto (y : RpcSystem) (c : Nat) (call : RpcCall) (state : RpcState) : RpcSystem :=
  { y with calls := y.calls.set c { call with state := state } }

def callStep (y : RpcSystem) (c : Nat) (call : RpcCall) (e : CallEvent) : Option RpcSystem :=
  match call.state, e with
  | .checked, .takeSocket =>
    some ({ y with lastApiSocket := none }.goto c call (.taken y.lastApiSocket))
  | .taken none, .newSocket true =>
    some ({ y with net := y.net.create }.goto c call (.taken (some y.net.next)))
  | .taken none, .newSocket false =>
    some (y.goto c call (.returned
      { ret := ⟨.system, "zsock_new_req create api socket failed: maybe address error"⟩ }))
  | .taken (some k), .send .notSerialized =>
    some (y.goto c call (.error1 k { ret := ⟨.system, "failed to serialize the request"⟩ }))
  | .taken (some k), .send .failed => some (y.goto c call (.sent k false))
  | .taken (some k), .send .sent =>
    -- a busy socket refuses, which is not noticed
    let net := (y.net.send k (c, call.outZmsg pb)).getD y.net
    some ({ y with net := net }.goto c call (.sent k true))
  | .sent k _, .timeout =>
    some (y.goto c call (.error1 k { ret := ⟨.timeout, "Request Timeout"⟩ }))
  | .sent k true, .recv =>
    (y.net.recv k).map fun r => { y with net := r.2 }.goto c call (.received k r.1)
  | .sent k true, .interrupted =>
    (y.net.recv k).map fun _ => y.goto c call (.error1 k {})
  | .received k inZmsg, .checkReply => some (y.goto c call (call.checkReply pb k inZmsg))
  | .error2 k r, .cacheSocket =>
    if y.sink.isInit ∧ y.lastApiSocket = none then
      some ({ y with lastApiSocket := some k }.goto c call (.returned r))
    else some (y.goto c call (.error1 k r))
  | .error1 k r, .destroySocket =>
    some ({ y with net := y.net.destroy k }.goto c call (.returned r))
  | _, _ => none

/-- `Uninit` destroys the cached socket. -/
def uninit (y : RpcSystem) : RpcSystem :=
  if !y.sink.isInit then y
  else
    match y.lastApiSocket with
    | none => { y with sink := y.sink.uninit }
    | some k =>
      { y with sink := y.sink.uninit, lastApiSocket := none, net := y.net.destroy k }

def rpcStep (y : RpcSystem) : RpcEvent → Option RpcSystem
  | .getNextSeq => some { y with sink := y.sink.getNextSeq.2 }
  | .call args => some
    { y with
      sink := y.sink.getNextSeq.2
      calls := y.calls ++ [y.sink.beginCall (args y.sink.getNextSeq.1)] }
  | .step c e => y.calls[c]?.bind fun call => y.callStep pb c call e
  | .answer i frames => (y.net.answer i frames).map fun n => { y with net := n }
  | .uninit => if y.calls.all (·.state.isReturned) then some y.uninit else none

/-- The calls as callers of a pool with the cache `last_api_socket_`. -/
def pool (y : RpcSystem) : Pool.State Nat (Nat × List Bytes) (List Bytes) :=
  { cache := y.lastApiSocket, phase := Pool.phases (RpcCall.phase pb) y.calls, net := y.net }

variable {pb} {y y' : RpcSystem} {c : Nat} {call : RpcCall}

/-! ## The calls are callers of a pool -/

theorem pool_phase (h : y.calls[c]? = some call) : (y.pool pb).phase c = call.phase pb c :=
  Pool.phases_of h

theorem pool_goto (h : y.calls[c]? = some call) (state : RpcState) :
    (y.goto c call state).pool pb =
      (y.pool pb).goto c (RpcCall.phase pb c { call with state := state }) := by
  unfold pool goto Pool.State.goto
  rw [Pool.phases_set _ h]

/-- A step of a call that stays in its phase. -/
theorem pool_goto_self (h : y.calls[c]? = some call) {state : RpcState}
    (hp : call.phase pb c = RpcCall.phase pb c { call with state := state }) :
    (y.goto c call state).pool pb = y.pool pb := by
  rw [pool_goto h]
  exact Pool.goto_eq_self ((pool_phase h).trans hp)

/-- A step of a call that gives up its request. -/
theorem pool_giveUp (h : y.calls[c]? = some call) {k : Nat}
    (hp : (call.phase pb c).socket = some k) (r : RpcReturn) :
    Pool.step (y.pool pb) (.giveUp c) = some ((y.goto c call (.error1 k r)).pool pb) := by
  rw [pool_goto h]
  exact Pool.step_giveUp ((congrArg Pool.Phase.socket (pool_phase h)).trans hp)

variable (pb) in
/-- A reply of the right kind or not, its socket is idle; without a reply it is destroyed. -/
theorem checkReply_cases (call : RpcCall) (k : Nat) (inZmsg : List Bytes) :
    (∃ r, call.checkReply pb k inZmsg = .error1 k r ∧ r.result = none) ∨
    (∃ r, call.checkReply pb k inZmsg = .error2 k r ∧ r.result = none) ∨
    ∃ inFrame rest reply, inZmsg = inFrame :: rest ∧
      pb.commonPacket.decode inFrame = some reply ∧ reply.type = .reply ∧
      reply.seq = call.request.seq ∧ reply.code = call.request.code ∧
      call.checkReply pb k inZmsg = .error2 k { result := some ⟨reply, rest.head?⟩ } := by
  unfold RpcCall.checkReply
  split
  · exact .inl ⟨_, rfl, rfl⟩
  · next inFrame rest =>
    split
    · exact .inl ⟨_, rfl, rfl⟩
    · next reply hd =>
      split
      · exact .inr (.inl ⟨_, rfl, rfl⟩)
      · next hc =>
        simp only [not_or, ne_eq, not_not] at hc
        exact .inr (.inr ⟨inFrame, rest, reply, rfl, hd, hc.1, hc.2.1.symm, hc.2.2.symm, rfl⟩)

theorem callStep_refines (h : y.calls[c]? = some call) {e : CallEvent}
    (he : y.callStep pb c call e = some y') :
    y'.pool pb = y.pool pb ∨ ∃ a, Pool.step (y.pool pb) a = some (y'.pool pb) := by
  have hp : (y.pool pb).phase c = call.phase pb c := pool_phase h
  simp only [callStep] at he
  split at he
  · -- take the cached socket
    next hst =>
    cases he
    rw [RpcCall.phase, hst] at hp
    cases hk : y.lastApiSocket with
    | none =>
      have hy : { y with lastApiSocket := none } = y := by rw [← hk]
      rw [hy]
      exact .inl (pool_goto_self h (by rw [RpcCall.phase, hst]; rfl))
    | some k =>
      refine .inr ⟨.take c, ?_⟩
      rw [pool_goto (y := { y with lastApiSocket := none }) h]
      exact Pool.step_take hp hk
  · next hst =>
    cases he
    rw [RpcCall.phase, hst] at hp
    refine .inr ⟨.create c, ?_⟩
    rw [pool_goto (y := { y with net := y.net.create }) h]
    exact Pool.step_create hp
  · next hst =>
    cases he
    exact .inl (pool_goto_self h (by rw [RpcCall.phase, hst]; rfl))
  · next k hst =>
    cases he
    exact .inr ⟨.giveUp c, pool_giveUp h (by rw [RpcCall.phase, hst]; rfl) _⟩
  · next k hst =>
    cases he
    exact .inl (pool_goto_self h (by rw [RpcCall.phase, hst]; rfl))
  · -- send
    next k hst =>
    cases he
    rw [RpcCall.phase, hst] at hp
    refine .inr ⟨.send c (c, call.outZmsg pb), ?_⟩
    rw [pool_goto (y := { y with net := (y.net.send k (c, call.outZmsg pb)).getD y.net }) h]
    exact Pool.step_send hp _
  · next k ok hst =>
    cases he
    exact .inr ⟨.giveUp c, pool_giveUp h (by rw [RpcCall.phase, hst]; cases ok <;> rfl) _⟩
  · -- receive
    next k hst =>
    obtain ⟨r, hr, rfl⟩ := Option.map_eq_some_iff.1 he
    rw [RpcCall.phase, hst] at hp
    refine .inr ⟨.receive c, ?_⟩
    rw [pool_goto (y := { y with net := r.2 }) h]
    exact Pool.step_receive hp hr
  · next k hst =>
    obtain ⟨r, hr, rfl⟩ := Option.map_eq_some_iff.1 he
    exact .inr ⟨.giveUp c, pool_giveUp h (by rw [RpcCall.phase, hst]; rfl) _⟩
  · -- check the reply
    next k inZmsg hst =>
    cases he
    rcases checkReply_cases pb call k inZmsg with
      ⟨r, hr, -⟩ | ⟨r, hr, -⟩ | ⟨_, rest, reply, -, -, -, -, -, hr⟩
    · rw [hr]
      exact .inr ⟨.giveUp c, pool_giveUp h (by rw [RpcCall.phase, hst]; rfl) _⟩
    · rw [hr]
      exact .inl (pool_goto_self h (by rw [RpcCall.phase, hst]; rfl))
    · rw [hr]
      exact .inl (pool_goto_self h (by rw [RpcCall.phase, hst]; rfl))
  · -- put the socket back
    next k r hst =>
    split at he
    · next hc =>
      cases he
      rw [RpcCall.phase, hst] at hp
      refine .inr ⟨.putBack c, ?_⟩
      rw [pool_goto (y := { y with lastApiSocket := some k }) h]
      exact Pool.step_putBack hp hc.2
    · cases he
      exact .inr ⟨.giveUp c, pool_giveUp h (by rw [RpcCall.phase, hst]; rfl) _⟩
  · -- destroy the socket
    next k r hst =>
    cases he
    rw [RpcCall.phase, hst] at hp
    refine .inr ⟨.destroy c, ?_⟩
    rw [pool_goto (y := { y with net := y.net.destroy k }) h]
    exact Pool.step_destroy (congrArg Pool.Phase.socket hp)
  · cases he

/-- **The calls on a sink are callers of a pool.** -/
theorem refines_pool (pb : Protobuf) : Run.Refines (rpcStep pb) Pool.step (pool pb) := by
  intro y e y' he
  cases e with
  | getNextSeq =>
    cases he
    exact .inl rfl
  | call args =>
    cases he
    left
    unfold pool
    rw [Pool.phases_append]
    unfold StreamSink.beginCall
    split <;> rfl
  | step c e =>
    obtain ⟨call, hc, he⟩ := Option.bind_eq_some_iff.1 he
    exact callStep_refines hc he
  | answer i frames =>
    obtain ⟨n, hn, rfl⟩ := Option.map_eq_some_iff.1 he
    refine .inr ⟨.answer i frames, ?_⟩
    exact Option.map_eq_some_iff.2 ⟨n, hn, rfl⟩
  | uninit =>
    simp only [rpcStep] at he
    split at he
    · cases he
      unfold uninit
      split
      · exact .inl rfl
      · cases hk : y.lastApiSocket with
        | none =>
          left
          unfold pool
          rw [hk]
        | some k =>
          refine .inr ⟨.flush, ?_⟩
          exact Option.map_eq_some_iff.2 ⟨k, hk, rfl⟩
    · cases he

/-! ## Results -/

variable (pb) in
/-- What is known of a call that has received a message, or has a result. -/
def CallOk (log : List ((Nat × List Bytes) × List Bytes)) (c : Nat) (call : RpcCall) : Prop :=
  match call.state with
  | .received _ inZmsg => ((c, call.outZmsg pb), inZmsg) ∈ log
  | .error2 _ r | .error1 _ r | .returned r => ∀ res, r.result = some res →
    IsReplyTo pb log c (call.outZmsg pb) call.request res.reply res.extraBlob
  | _ => True

variable (pb) in
structure RpcInv (y : RpcSystem) : Prop where
  sound : Pool.Sound (y.pool pb)
  calls : Pool.EachCall (CallOk pb y.net.log) y.calls

theorem CallOk.mono {log log' : List ((Nat × List Bytes) × List Bytes)}
    (hsub : ∀ p ∈ log, p ∈ log') (c : Nat) (call : RpcCall) (h : CallOk pb log c call) :
    CallOk pb log' c call := by
  unfold CallOk at h ⊢
  split at h
  · exact hsub _ h
  all_goals first | exact fun res hres => (h res hres).mono hsub | trivial

theorem noResult {r : RpcReturn} (h : r.result = none) {P : RpcResult → Prop} (res : RpcResult)
    (hres : r.result = some res) : P res :=
  absurd (h.symm.trans hres) nofun

theorem callOk_step (hs : Pool.Sound (y.pool pb)) (h : y.calls[c]? = some call)
    (hok : CallOk pb y.net.log c call) {e : CallEvent} (he : y.callStep pb c call e = some y') :
    ∃ state, y'.calls = y.calls.set c { call with state := state } ∧ y'.net.log = y.net.log ∧
      CallOk pb y.net.log c { call with state := state } := by
  have hp : (y.pool pb).phase c = call.phase pb c := pool_phase h
  simp only [callStep] at he
  split at he
  · cases he
    exact ⟨_, rfl, rfl, trivial⟩
  · cases he
    exact ⟨_, rfl, rfl, trivial⟩
  · cases he
    exact ⟨_, rfl, rfl, noResult rfl⟩
  · cases he
    exact ⟨_, rfl, rfl, noResult rfl⟩
  · cases he
    exact ⟨_, rfl, rfl, trivial⟩
  · cases he
    exact ⟨_, rfl, Pool.Net.send_log .., trivial⟩
  · cases he
    exact ⟨_, rfl, rfl, noResult rfl⟩
  · -- the message that is received answers the request
    next k hst =>
    obtain ⟨r, hr, rfl⟩ := Option.map_eq_some_iff.1 he
    rw [RpcCall.phase, hst] at hp
    exact ⟨_, rfl, Pool.Net.recv_log hr, hs.received hp hr⟩
  · obtain ⟨r, hr, rfl⟩ := Option.map_eq_some_iff.1 he
    exact ⟨_, rfl, rfl, noResult rfl⟩
  · next k inZmsg hst =>
    cases he
    rw [CallOk, hst] at hok
    refine ⟨_, rfl, rfl, ?_⟩
    rcases checkReply_cases pb call k inZmsg with
      ⟨r, hr, hn⟩ | ⟨r, hr, hn⟩ | ⟨inFrame, rest, reply, rfl, hd, ht, hseq, hcode, hr⟩
    · rw [hr]
      exact noResult hn
    · rw [hr]
      exact noResult hn
    · rw [hr]
      rintro res ⟨⟩
      exact ⟨inFrame, rest, hok, hd, rfl, ht, hseq, hcode⟩
  · next k r hst =>
    rw [CallOk, hst] at hok
    split at he
    · cases he
      exact ⟨_, rfl, rfl, hok⟩
    · cases he
      exact ⟨_, rfl, rfl, hok⟩
  · next k r hst =>
    cases he
    rw [CallOk, hst] at hok
    exact ⟨_, rfl, rfl, hok⟩
  · cases he

theorem calls_step (h : RpcInv pb y) {e : RpcEvent} (he : rpcStep pb y e = some y') :
    Pool.EachCall (CallOk pb y'.net.log) y'.calls := by
  cases e with
  | getNextSeq =>
    cases he
    exact h.calls
  | call args =>
    cases he
    refine h.calls.append ?_
    unfold StreamSink.beginCall
    split
    · trivial
    · exact noResult rfl
  | step c e =>
    obtain ⟨call, hc, he⟩ := Option.bind_eq_some_iff.1 he
    obtain ⟨state, hcalls, hlog, hok⟩ := callOk_step h.sound hc (h.calls c call hc) he
    rw [hcalls, hlog]
    exact h.calls.set hok
  | answer i frames =>
    obtain ⟨n, hn, rfl⟩ := Option.map_eq_some_iff.1 he
    exact h.calls.mono (CallOk.mono (Pool.Net.answer_log hn))
  | uninit =>
    simp only [rpcStep] at he
    split at he
    · cases he
      unfold uninit
      split
      · exact h.calls
      · split <;> exact h.calls
    · cases he

/-- **Every step keeps the sockets in order and the results right.** -/
theorem rpcInv_step (h : RpcInv pb y) {e : RpcEvent} (he : rpcStep pb y e = some y') :
    RpcInv pb y' :=
  ⟨(refines_pool pb).inv (fun _ _ _ ht ha => Pool.sound_step ht ha) h.sound he, calls_step h he⟩

theorem rpcInv_init (sink : StreamSink) : RpcInv pb { sink := sink } := by
  refine ⟨?_, Pool.EachCall.nil _⟩
  unfold pool
  rw [Pool.phases_nil]
  exact Pool.sound_init

variable (pb) in
/-- What a call that returned 0 has stored in `*result` is the reply to its own request. -/
def ResultsOk (y : RpcSystem) : Prop :=
  ∀ c call r, y.calls[c]? = some call → call.state = .returned r → r.ret.code = .ok →
    ∀ res, r.result = some res →
      IsReplyTo pb y.net.log c (call.outZmsg pb) call.request res.reply res.extraBlob

theorem RpcInv.resultsOk (h : RpcInv pb y) : y.ResultsOk pb := by
  intro c call r hc hst _ res hres
  have hok := h.calls c call hc
  rw [CallOk, hst] at hok
  exact hok res hres

end RpcSystem

end StreamSwitch
