import StreamSwitch.Sink.Metadata

/-!
# Client heartbeats of a stream sink

`ClientHeartbeatHandler` of `stsw_stream_sink.cc`, called on every tick of the
worker thread. It talks to the source over a request socket that has to be used in
lockstep, and remembers in `last_send_client_heartbeat_msec_` whether a request is
unanswered.

`lockstep_of_careful`: the handler sends only on an idle socket, and that time is 0
exactly when the socket is idle, in every run in which no `Start` resets the time
of an unanswered request, every reply that is read is one frame, and no tick comes
at time 0. `Start` breaks it: the socket survives `Stop`, its unanswered request is
forgotten, and the next tick sends on the busy socket.
-/

namespace StreamSwitch

open ReqRep

/-- `lease * 1000 / 3` on `int`. -/
def leaseThird (lease : Int32) : Int := (lease * 1000 / 3).toInt

/-- `STSW_RECEIVER_CLIENT_HEARTBEAT_TIMEOUT`. -/
def clientHeartbeatTimeout : Int := 3000

namespace StreamSink

variable (pb : Protobuf)

/-- What the sockets do in one call of the handler. -/
structure TickEnv where
  /-- `zpoller_wait` is interrupted. -/
  pollInterrupted : Bool := false
  /-- `zframe_recv` is interrupted. -/
  recvInterrupted : Bool := false
  /-- `zsock_new_req` succeeds. -/
  created : Bool := true

/-- When to send again after the reply `frame` to the request of time `lastSend`. -/
def nextSendAfter (lastSend now : Int) (frame : Bytes) : Int :=
  match pb.commonPacket.decode frame with
  | some reply =>
    if reply.code = codeClientHeartbeat ∧ reply.status = statusOk ∧ reply.type = .reply then
      match pb.clientHeartbeatRep.decode reply.getBody with
      -- send next heartbeat request at 1/3 lease
      | some rep => lastSend + leaseThird (rep.lease.getD 0)
      | none => now + 5000
    else now + 5000
  | none => now + 5000

/-- The heartbeat socket when a reply is ready on it. -/
def readySocket (s : StreamSink) (env : TickEnv) : Option (ReqSocket Bytes) :=
  if env.pollInterrupted then none
  else s.clientHearbeatSocket.filter fun sock => !sock.inbox.isEmpty

/-- The first half of the handler: look for the reply; `none` when it returns early. -/
def checkReply (s : StreamSink) (now : Int) (env : TickEnv) : Option StreamSink :=
  if s.lastSendClientHeartbeatMsec = 0 then some s
  else
    match s.readySocket env with
    | some sock =>
      if env.recvInterrupted then none
      else sock.recvFrame.map fun r => { s with
        clientHearbeatSocket := some r.2
        nextSendClientHeartbeatMsec :=
          nextSendAfter pb s.lastSendClientHeartbeatMsec now r.1
        lastSendClientHeartbeatMsec := 0 }
    | none =>
      if now - s.lastSendClientHeartbeatMsec ≥ clientHeartbeatTimeout then
        -- reset the socket and sending state which result into resend
        some { s with
          clientHearbeatSocket := none
          lastSendClientHeartbeatMsec := 0
          nextSendClientHeartbeatMsec := 0 }
      else some s

def clientHeartbeatReq (s : StreamSink) : ProtoClientHeartbeatReq :=
  { clientIpVersion := some s.clientInfo.clientIpVersion
    clientIp := some s.clientInfo.clientIp
    clientProtocol := some s.clientInfo.clientProtocol
    clientPort := some s.clientInfo.clientPort
    clientText := some s.clientInfo.clientText
    clientToken := some s.clientInfo.clientToken }

/-- The request of the sink's next heartbeat. -/
def heartbeatPacket (s : StreamSink) : ProtoCommonPacket :=
  { header := some
      { type := some .request, seq := some s.nextSeq, code := some codeClientHeartbeat }
    body := some (pb.clientHeartbeatReq.encode s.clientHeartbeatReq) }

/-- What a call leaves, and what it sent: the socket as it was before, and the packet. -/
structure Ticked where
  sink : StreamSink
  sent : Option (ReqSocket Bytes × ProtoCommonPacket) := none

/-- The socket to send on; it is created when there is none. -/
def socketToSend (s : StreamSink) (env : TickEnv) : Option (ReqSocket Bytes) :=
  match s.clientHearbeatSocket with
  | some sock => some sock
  | none => if env.created then some {} else none

/-- The second half: send the request when it is time to. -/
def sendHeartbeat (s : StreamSink) (now : Int) (env : TickEnv) : Ticked :=
  if s.lastSendClientHeartbeatMsec = 0 ∧ now ≥ s.nextSendClientHeartbeatMsec then
    match s.socketToSend env with
    | none => { sink := s }
    | some sock =>
      { sink := { s with
          -- a busy socket refuses, which the handler does not notice
          clientHearbeatSocket := some (sock.send.getD sock)
          nextSeq := s.nextSeq + 1
          lastSendClientHeartbeatMsec := now
          nextSendClientHeartbeatMsec := 0 }
        sent := some (sock, s.heartbeatPacket pb) }
  else { sink := s }

def clientHeartbeatHandler (s : StreamSink) (now : Int) (env : TickEnv) : Ticked :=
  match s.checkReply pb now env with
  | none => { sink := s }
  | some s => s.sendHeartbeat pb now env

/-! ## What one tick does -/

section tick
variable {s : StreamSink} {now : Int} {sock : ReqSocket Bytes}

/-- The sink after a request was sent on an idle socket. -/
def sentAt (s : StreamSink) (now : Int) : StreamSink :=
  { s with
    clientHearbeatSocket := some { awaiting := true }
    nextSeq := s.nextSeq + 1
    lastSendClientHeartbeatMsec := now
    nextSendClientHeartbeatMsec := 0 }

theorem sendHeartbeat_of_idle (h0 : s.lastSendClientHeartbeatMsec = 0)
    (hn : s.nextSendClientHeartbeatMsec ≤ now) {env : TickEnv}
    (hs : s.socketToSend env = some sock) (hi : sock.Idle) :
    s.sendHeartbeat pb now env =
      { sink := s.sentAt now, sent := some (sock, s.heartbeatPacket pb) } := by
  have hsend : sock.send.getD sock = { awaiting := true } := by
    rw [ReqSocket.send, if_neg (by rw [hi]; exact Bool.false_ne_true)]
    rfl
  rw [sendHeartbeat, if_pos ⟨h0, hn⟩, hs]
  simp only [hsend]
  rfl

/-- Nothing is unanswered and it is not yet time. -/
theorem tick_early (h0 : s.lastSendClientHeartbeatMsec = 0)
    (hn : now < s.nextSendClientHeartbeatMsec) :
    s.clientHeartbeatHandler pb now {} = { sink := s } := by
  rw [clientHeartbeatHandler, checkReply, if_pos h0]
  exact if_neg (by omega)

/-- Nothing is unanswered and it is time. -/
theorem tick_send (h0 : s.lastSendClientHeartbeatMsec = 0)
    (hn : s.nextSendClientHeartbeatMsec ≤ now) (hs : s.clientHearbeatSocket = some sock)
    (hi : sock.Idle) :
    s.clientHeartbeatHandler pb now {} =
      { sink := s.sentAt now, sent := some (sock, s.heartbeatPacket pb) } := by
  rw [clientHeartbeatHandler, checkReply, if_pos h0]
  exact sendHeartbeat_of_idle pb h0 hn (by rw [socketToSend, hs]) hi

theorem readySocket_of_empty (hs : s.clientHearbeatSocket = some sock) (hin : sock.inbox = []) :
    s.readySocket {} = none := by
  simp [readySocket, hs, hin, Option.filter]

/-- The request is unanswered and not yet timed out. -/
theorem tick_wait (h0 : s.lastSendClientHeartbeatMsec ≠ 0)
    (hs : s.clientHearbeatSocket = some sock) (hin : sock.inbox = [])
    (ht : now - s.lastSendClientHeartbeatMsec < clientHeartbeatTimeout) :
    s.clientHeartbeatHandler pb now {} = { sink := s } := by
  rw [clientHeartbeatHandler, checkReply, if_neg h0, readySocket_of_empty hs hin]
  simp only
  rw [if_neg (by omega)]
  exact if_neg fun h => h0 h.1

/-- The request has timed out: it is sent again, on a new socket. -/
theorem tick_timeout (h0 : s.lastSendClientHeartbeatMsec ≠ 0)
    (hs : s.clientHearbeatSocket = some sock) (hin : sock.inbox = [])
    (ht : clientHeartbeatTimeout ≤ now - s.lastSendClientHeartbeatMsec) (hnow : 0 ≤ now) :
    s.clientHeartbeatHandler pb now {} =
      { sink := s.sentAt now, sent := some ({}, s.heartbeatPacket pb) } := by
  rw [clientHeartbeatHandler, checkReply, if_neg h0, readySocket_of_empty hs hin]
  simp only
  rw [if_pos ht]
  exact sendHeartbeat_of_idle pb rfl hnow rfl rfl

/-- A reply of one frame is there, and puts the next request off. -/
theorem tick_reply (h0 : s.lastSendClientHeartbeatMsec ≠ 0) {f : Bytes}
    (hs : s.clientHearbeatSocket = some sock) (hin : sock.inbox = [f])
    (hn : now < nextSendAfter pb s.lastSendClientHeartbeatMsec now f) :
    s.clientHeartbeatHandler pb now {} =
      { sink := { s with
          clientHearbeatSocket := some {}
          nextSendClientHeartbeatMsec := nextSendAfter pb s.lastSendClientHeartbeatMsec now f
          lastSendClientHeartbeatMsec := 0 } } := by
  have hready : s.readySocket {} = some sock := by
    simp [readySocket, hs, hin, Option.filter]
  have hrecv : sock.recvFrame = some (f, {}) := by
    rw [ReqSocket.recvFrame, hin]
    rfl
  rw [clientHeartbeatHandler, checkReply, if_neg h0, hready]
  simp only [Bool.false_eq_true, if_false, hrecv, Option.map_some]
  exact if_neg fun h => Int.not_lt.2 h.2 hn

end tick

/-! ## Runs -/

inductive HeartbeatEvent
  | start (env : StartEnv)
  | stopBegin
  | stopEnd
  | tick (now : Int) (env : TickEnv)
  | arrive (frames : List Bytes)

/-- One event. Ticks come from the worker thread; `Stop` ends once it has joined the thread. -/
def heartbeatStep (s : StreamSink) : HeartbeatEvent → Option StreamSink
  | .start env => some (s.start env).2
  | .stopBegin => some s.stopBegin
  | .stopEnd => if s.workerThread ∧ s.isStarted = false then some s.stopEnd else none
  | .tick now env =>
    if s.workerThread then some (s.clientHeartbeatHandler pb now env).sink else none
  | .arrive frames => some
    { s with clientHearbeatSocket := s.clientHearbeatSocket.map (·.arrive frames) }

/-- The current socket, if any, is idle. -/
def SocketIdle (s : StreamSink) : Prop := ∀ sock, s.clientHearbeatSocket = some sock → sock.Idle

/-- The time of the last send mirrors the state of the socket. -/
def Mirrors (s : StreamSink) : Prop := s.lastSendClientHeartbeatMsec = 0 ↔ s.SocketIdle

/-- The step sends on an idle socket only, and leaves the mirror intact. -/
def Lockstep (s : StreamSink) (e : HeartbeatEvent) : Prop :=
  (∀ now env, e = .tick now env → ∀ sock packet,
    (s.clientHeartbeatHandler pb now env).sent = some (sock, packet) → sock.Idle) ∧
  ∀ s', heartbeatStep pb s e = some s' → s'.Mirrors

/-- A `Start` that resets the time finds no request unanswered; a reply that is read is one frame;
no tick comes at time 0. -/
def Careful (s : StreamSink) : HeartbeatEvent → Prop
  | .start env => s.Restarts env → s.lastSendClientHeartbeatMsec = 0
  | .tick now env => now ≠ 0 ∧ ∀ sock, s.readySocket env = some sock → sock.inbox.length ≤ 1
  | _ => True

/-! ## The handler on a sink that mirrors its socket -/

variable {pb} {s : StreamSink}

theorem readySocket_some {env : TickEnv} {sock : ReqSocket Bytes}
    (h : s.readySocket env = some sock) :
    s.clientHearbeatSocket = some sock ∧ ∃ f fs, sock.inbox = f :: fs := by
  unfold readySocket at h
  split at h
  · cases h
  · obtain ⟨h1, h2⟩ := Option.filter_eq_some_iff.1 h
    refine ⟨h1, ?_⟩
    cases hi : sock.inbox with
    | nil => rw [hi] at h2; cases h2
    | cons f fs => exact ⟨f, fs, rfl⟩

/-- A reply of one frame, or a timeout, leaves the mirror intact. -/
theorem checkReply_mirrors (h : s.Mirrors) {now : Int} {env : TickEnv}
    (hc : ∀ sock, s.readySocket env = some sock → sock.inbox.length ≤ 1) {s' : StreamSink}
    (hs : s.checkReply pb now env = some s') : s'.Mirrors := by
  unfold checkReply at hs
  split at hs
  · cases hs
    exact h
  · split at hs
    · next sock hready =>
      obtain ⟨-, f, fs, hin⟩ := readySocket_some hready
      have hfs : fs = [] := by
        have := hc sock hready
        rw [hin, List.length_cons] at this
        exact List.length_eq_zero_iff.1 (by omega)
      split at hs
      · cases hs
      · rw [ReqSocket.recvFrame, hin, hfs] at hs
        cases hs
        exact ⟨fun _ sock' he => by cases he; rfl, fun _ => rfl⟩
    · split at hs
      · cases hs
        exact ⟨fun _ => nofun, fun _ => rfl⟩
      · cases hs
        exact h

/-- Sending from a sink that mirrors its socket: only on an idle socket, and mirrored after. -/
theorem sendHeartbeat_mirrors (h : s.Mirrors) {now : Int} (hnow : now ≠ 0) (env : TickEnv) :
    (s.sendHeartbeat pb now env).sink.Mirrors ∧
      ∀ sock packet, (s.sendHeartbeat pb now env).sent = some (sock, packet) → sock.Idle := by
  unfold sendHeartbeat
  split
  · next hsend =>
    have hidle : s.SocketIdle := h.1 hsend.1
    cases hsock : s.socketToSend env with
    | none => exact ⟨h, fun _ _ hs => by cases hs⟩
    | some sock =>
      have hi : sock.Idle := by
        unfold socketToSend at hsock
        split at hsock
        · next sock' he =>
          cases hsock
          exact hidle sock he
        · split at hsock
          · cases hsock
            rfl
          · cases hsock
      refine ⟨⟨fun h0 => absurd h0 hnow, fun hall => ?_⟩, ?_⟩
      · -- the request just sent is unanswered
        have hb := hall _ rfl
        rw [ReqSocket.send, if_neg (by rw [hi]; exact Bool.false_ne_true)] at hb
        cases hb
      · intro sock' packet he
        cases he
        exact hi
  · exact ⟨h, fun _ _ hs => by cases hs⟩

variable (pb) in
theorem clientHeartbeatHandler_mirrors (h : s.Mirrors) {now : Int} {env : TickEnv}
    (hnow : now ≠ 0) (hc : ∀ sock, s.readySocket env = some sock → sock.inbox.length ≤ 1) :
    (s.clientHeartbeatHandler pb now env).sink.Mirrors ∧
      ∀ sock packet, (s.clientHeartbeatHandler pb now env).sent = some (sock, packet) →
        sock.Idle := by
  unfold clientHeartbeatHandler
  cases hs : s.checkReply pb now env with
  | none => exact ⟨h, fun _ _ hs => by cases hs⟩
  | some s' => exact sendHeartbeat_mirrors (checkReply_mirrors h hc hs) hnow env

/-- A careful step is in lockstep. -/
theorem lockstep_step (h : s.Mirrors) {e : HeartbeatEvent} (hc : s.Careful e) :
    s.Lockstep pb e := by
  cases e with
  | start env =>
    refine ⟨nofun, fun s' hs => ?_⟩
    cases hs
    rcases start_cases s env with he | ⟨hr, b, w, v, he⟩
    · rw [he]
      exact h
    · rw [he]
      exact ⟨fun _ => h.1 (hc hr), fun _ => rfl⟩
  | stopBegin =>
    refine ⟨nofun, fun s' hs => ?_⟩
    cases hs
    unfold stopBegin
    split
    · exact h
    · split <;> exact h
  | stopEnd =>
    refine ⟨nofun, fun s' hs => ?_⟩
    simp only [heartbeatStep] at hs
    split at hs
    · cases hs
      exact h
    · cases hs
  | tick now env =>
    obtain ⟨hm, hi⟩ := clientHeartbeatHandler_mirrors pb h hc.1 hc.2
    refine ⟨fun now' env' he => by cases he; exact hi, fun s' hs => ?_⟩
    simp only [heartbeatStep] at hs
    split at hs
    · cases hs
      exact hm
    · cases hs
  | arrive frames =>
    refine ⟨nofun, fun s' hs => ?_⟩
    cases hs
    refine h.trans ⟨fun hall sock he => ?_, fun hall sock he => ?_⟩
    · obtain ⟨sock', he', rfl⟩ := Option.map_eq_some_iff.1 he
      exact (ReqSocket.arrive_awaiting sock' frames).trans (hall sock' he')
    · exact (ReqSocket.arrive_awaiting sock frames).symm.trans
        (hall _ (by rw [he]; rfl))

theorem initBase_mirrors (clientInfo : StreamClientInfo) (listener : Bool) :
    (initBase clientInfo listener).Mirrors :=
  ⟨fun _ sock he => by cases he; rfl, fun _ => rfl⟩

variable (pb) in
/-- **Lockstep**: every careful run sends only on an idle socket, and mirrors the state of the
socket at every step. -/
theorem lockstep_of_careful (clientInfo : StreamClientInfo) (listener : Bool)
    (es : List HeartbeatEvent)
    (h : Run.Each (heartbeatStep pb) Careful (initBase clientInfo listener) es) :
    Run.Each (heartbeatStep pb) (Lockstep pb) (initBase clientInfo listener) es :=
  Run.each_of_inv (fun _ _ s' hm hc he => (lockstep_step hm hc).2 s' he)
    (fun _ _ hm hc => lockstep_step hm hc) h (initBase_mirrors clientInfo listener)

/-- Start, send, stop, restart: no request is answered, and the next tick sends again. -/
def restartRun : List HeartbeatEvent :=
  [.start {}, .tick 1000 {}, .stopBegin, .stopEnd, .start {}, .tick 2000 {}]

theorem restart_breaks_lockstep :
    ¬ Run.Each (heartbeatStep wireProtobuf) (Lockstep wireProtobuf) (initBase {} true)
      restartRun := by
  intro h
  have h1 := h.2 _ rfl
  have h2 := h1.2 _ rfl
  have h3 := h2.2 _ rfl
  have h4 := h3.2 _ rfl
  have h5 := h4.2 _ rfl
  -- the socket of the second request still waits for the first reply
  have hidle := h5.1.1 2000 {} rfl _ _ rfl
  exact absurd hidle (by decide)

/-- The same run with the reply read before the restart. -/
theorem lockstep_of_careful_answered :
    Run.Each (heartbeatStep wireProtobuf) (Lockstep wireProtobuf) (initBase {} true)
      [.start {}, .tick 1000 {}, .arrive [[]], .tick 1500 {}, .stopBegin, .stopEnd, .start {}] := by
  refine lockstep_of_careful wireProtobuf {} true _ ⟨fun _ => rfl, fun s1 h1 => ?_⟩
  cases h1
  refine ⟨⟨by decide, nofun⟩, fun s2 h2 => ?_⟩
  cases h2
  refine ⟨trivial, fun s3 h3 => ?_⟩
  cases h3
  refine ⟨⟨by decide, fun sock h => by cases h; decide⟩, fun s4 h4 => ?_⟩
  cases h4
  refine ⟨trivial, fun s5 h5 => ?_⟩
  cases h5
  refine ⟨trivial, fun s6 h6 => ?_⟩
  cases h6
  exact ⟨fun _ => by decide, fun _ _ => trivial⟩

end StreamSink

end StreamSwitch
