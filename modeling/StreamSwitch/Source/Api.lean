import StreamSwitch.Proto
import StreamSwitch.ProtoWire
import StreamSwitch.Lib.ReqRep
import StreamSwitch.Lib.Run

/-!
# The API socket of a stream source

`OnApiSocketRead`, `OnRpcRequest` and `SendRpcReply` of `stsw_stream_source.cc`. A
registered handler is arbitrary code: `HandlerRun` is what one call of it does, a
sequence of `SendRpcReply` calls, each choosing how to go on from the value that
call returned, and at the end a return value and a new state of its user data `σ`.
The built-in handlers are the instance where `σ` is the data of the source.

`reply_iff`: along a run of messages and (un)registrations, every message is
answered by exactly one reply and leaves the socket ready for the next one, if
and only if every message parses and has a registered handler. On the other two
paths `SendRpcReply` refuses to send, because `WAITING_REPLY` is only set once a
handler has been found.
-/

namespace StreamSwitch

open ReqRep

/-- What a call returns: the code, and the text stored in `err_info`. -/
structure Ret where
  code : ErrorCode := .ok
  errInfo : String := ""
deriving DecidableEq, Repr

/-- A message of an API socket: at least one frame. -/
structure ApiMsg where
  inFrame : Bytes
  rest : List Bytes := []

/-- The extra blob of a received message: its second frame, `NULL` when empty. -/
def ApiMsg.extraBlob (m : ApiMsg) : Option Bytes :=
  match m.rest.head? with
  | some (b :: bs) => some (b :: bs)
  | _ => none

/-- What one call of a handler does. -/
inductive HandlerRun (σ : Type) where
  | ret (value : Int) (user : σ)
  | sendRpcReply (reply : ProtoCommonPacket) (extraBlob : Option Bytes)
      (k : Ret → HandlerRun σ)

/-- A handler, called with `time(NULL)`, its user data, the request and the blob. -/
abbrev SourceApiHandler (σ : Type) :=
  Int64 → σ → ProtoCommonPacket → Option Bytes → HandlerRun σ

/-- The part of a stream source that serves its API socket. -/
structure ApiSource (σ : Type) where
  isInit : Bool := false
  isWaitingReply : Bool := false
  isStarted : Bool := false
  apiHandlerMap : Int32 → Option (SourceApiHandler σ) := fun _ => none
  apiSocket : RepSocket (List Bytes) := {}
  user : σ

variable {σ : Type} (pb : Protobuf)

/-- The frames of a reply: the packet, and the blob when there is one. -/
def replyFrames (reply : ProtoCommonPacket) (extraBlob : Option Bytes) : List Bytes :=
  pb.commonPacket.encode reply ::
    match extraBlob with
    | some (b :: bs) => [b :: bs]
    | _ => []

namespace ApiSource

def sendRpcReply (s : ApiSource σ) (reply : ProtoCommonPacket) (extraBlob : Option Bytes) :
    Ret × ApiSource σ :=
  if !s.isInit then (⟨.general, "Source not init"⟩, s)
  else if reply.type ≠ .reply then (⟨.param, "Packet Type Not Reply"⟩, s)
  else if !s.isWaitingReply then (⟨.general, "Not Waiting Reply"⟩, s)
  else
    (⟨.ok, ""⟩, { s with
      isWaitingReply := false
      apiSocket := s.apiSocket.send (replyFrames pb reply extraBlob) })

/-- Carry out what a handler does. -/
def runHandler (s : ApiSource σ) : HandlerRun σ → Int × ApiSource σ
  | .ret value user => (value, { s with user := user })
  | .sendRpcReply reply extraBlob k =>
    let r := s.sendRpcReply pb reply extraBlob
    r.2.runHandler (k r.1)

def onRpcRequest (now : Int64) (s : ApiSource σ) (request : ProtoCommonPacket)
    (extraBlob : Option Bytes) : ApiSource σ :=
  let opCode := request.code
  match s.apiHandlerMap opCode with
  | none =>
    (s.sendRpcReply pb
      (replyTo request statusInternalErr s!"Handler for code({opCode}) Not Found") none).2
  | some handler =>
    let s' := ({ s with isWaitingReply := true }.runHandler pb
      (handler now s.user request extraBlob)).2
    -- the handler forgot to reply
    if s'.isWaitingReply then
      (s'.sendRpcReply pb
        (replyTo request statusInternalErr "API Handler Error (Not send reply)") none).2
    else s'

def onApiSocketRead (now : Int64) (s : ApiSource σ) (msg : ApiMsg) : ApiSource σ :=
  match pb.commonPacket.decode msg.inFrame with
  | some request => s.onRpcRequest pb now request msg.extraBlob
  | none =>
    let errReply : ProtoCommonPacket :=
      { header := some
          { type := some .reply, status := some statusBadRequest,
            info := some "Request Parse Error" } }
    (s.sendRpcReply pb errReply none).2

def registerApiHandler (s : ApiSource σ) (opCode : Int32) (h : SourceApiHandler σ) :
    ApiSource σ :=
  { s with apiHandlerMap := fun c => if c = opCode then some h else s.apiHandlerMap c }

def unregisterApiHandler (s : ApiSource σ) (opCode : Int32) : ApiSource σ :=
  { s with apiHandlerMap := fun c => if c = opCode then none else s.apiHandlerMap c }

def unregisterAllApiHandler (s : ApiSource σ) : ApiSource σ :=
  { s with apiHandlerMap := fun _ => none }

/-! ## `SendRpcReply` -/

section spec
variable (s : ApiSource σ) (reply : ProtoCommonPacket) (extraBlob : Option Bytes)

/-- Without a waiting request a reply is refused. -/
theorem sendRpcReply_of_not_waiting (h : s.isWaitingReply = false) :
    (s.sendRpcReply pb reply extraBlob).2 = s := by
  unfold sendRpcReply
  rw [h]
  split
  · rfl
  · split <;> rfl

/-- A packet that is not a reply is refused. -/
theorem sendRpcReply_of_type (h : reply.type ≠ .reply) :
    (s.sendRpcReply pb reply extraBlob).2 = s := by
  simp only [sendRpcReply, ne_eq, h, not_false_eq_true, if_true]
  split <;> rfl

theorem sendRpcReply_of_waiting (hi : s.isInit = true) (hw : s.isWaitingReply = true)
    (ht : reply.type = .reply) :
    (s.sendRpcReply pb reply extraBlob).2 =
      { s with isWaitingReply := false,
               apiSocket := s.apiSocket.send (replyFrames pb reply extraBlob) } := by
  simp [sendRpcReply, hi, hw, ht]

theorem runHandler_sendRpcReply (k : Ret → HandlerRun σ) :
    s.runHandler pb (.sendRpcReply reply extraBlob k) =
      (s.sendRpcReply pb reply extraBlob).2.runHandler pb
        (k (s.sendRpcReply pb reply extraBlob).1) := rfl

end spec

/-! ## Handlers -/

/-- The packets a handler passes to `SendRpcReply` when it runs on `s`. -/
def replies (s : ApiSource σ) : HandlerRun σ → List ProtoCommonPacket
  | .ret _ _ => []
  | .sendRpcReply reply extraBlob k =>
    let r := s.sendRpcReply pb reply extraBlob
    reply :: r.2.replies (k r.1)

/-- Once the request is answered, a handler sends nothing more. -/
theorem runHandler_of_not_waiting (hr : HandlerRun σ) (s : ApiSource σ)
    (h : s.isWaitingReply = false) :
    (s.runHandler pb hr).2.isWaitingReply = false ∧
      (s.runHandler pb hr).2.apiSocket = s.apiSocket ∧
      (s.runHandler pb hr).2.isInit = s.isInit := by
  induction hr generalizing s with
  | ret value user => exact ⟨h, rfl, rfl⟩
  | sendRpcReply reply extraBlob k ih =>
    rw [runHandler_sendRpcReply, sendRpcReply_of_not_waiting pb s reply extraBlob h]
    exact ih _ s h

/-- **What a handler does to the socket**: nothing, and the request is still
waiting; or it answers the request once, with one of the packets it passed. -/
theorem runHandler_spec (hr : HandlerRun σ) (s : ApiSource σ) (hi : s.isInit = true)
    (hw : s.isWaitingReply = true) :
    (s.runHandler pb hr).2.isInit = true ∧
      (((s.runHandler pb hr).2.isWaitingReply = true ∧
          (s.runHandler pb hr).2.apiSocket = s.apiSocket) ∨
        ((s.runHandler pb hr).2.isWaitingReply = false ∧
          ∃ reply ∈ s.replies pb hr, ∃ blob,
            (s.runHandler pb hr).2.apiSocket = s.apiSocket.send (replyFrames pb reply blob))) := by
  induction hr generalizing s with
  | ret value user => exact ⟨hi, .inl ⟨hw, rfl⟩⟩
  | sendRpcReply reply extraBlob k ih =>
    rw [runHandler_sendRpcReply]
    by_cases ht : reply.type = .reply
    · -- this is the reply; whatever the handler does afterwards is refused
      have hs := sendRpcReply_of_waiting pb s reply extraBlob hi hw ht
      obtain ⟨h1, h2, h3⟩ := runHandler_of_not_waiting pb
        (k (s.sendRpcReply pb reply extraBlob).1) (s.sendRpcReply pb reply extraBlob).2
        (by rw [hs])
      refine ⟨?_, .inr ⟨h1, reply, List.mem_cons_self, extraBlob, ?_⟩⟩
      · rw [h3, hs]; exact hi
      · rw [h2, hs]
    · have hs := sendRpcReply_of_type pb s reply extraBlob ht
      obtain ⟨h1, h2⟩ := ih (s.sendRpcReply pb reply extraBlob).1
        (s.sendRpcReply pb reply extraBlob).2 (by rw [hs]; exact hi) (by rw [hs]; exact hw)
      refine ⟨h1, ?_⟩
      rcases h2 with ⟨h2, h3⟩ | ⟨h2, p, hp, b, h3⟩
      · exact .inl ⟨h2, by rw [h3, hs]⟩
      · exact .inr ⟨h2, p, List.mem_cons_of_mem _ hp, b, by rw [h3, hs]⟩

end ApiSource

/-! ## Runs -/

/-- What can happen to the API of a source: a message is read, or the application changes the
handler table. -/
inductive ApiEvent (σ : Type) where
  | read (now : Int64) (msg : ApiMsg)
  | register (opCode : Int32) (h : SourceApiHandler σ)
  | unregister (opCode : Int32)
  | unregisterAll

namespace ApiSource

/-- One event. A message is read only when the socket hands one out. -/
def apiStep (s : ApiSource σ) : ApiEvent σ → Option (ApiSource σ)
  | .read now msg => s.apiSocket.recv.map fun sock =>
    { s with apiSocket := sock }.onApiSocketRead pb now msg
  | .register opCode h => some (s.registerApiHandler opCode h)
  | .unregister opCode => some (s.unregisterApiHandler opCode)
  | .unregisterAll => some s.unregisterAllApiHandler

/-- A source after `Init`, with any handlers. -/
def afterInit (handlers : Int32 → Option (SourceApiHandler σ)) (user : σ) : ApiSource σ :=
  { isInit := true, apiHandlerMap := handlers, user := user }

/-- Between two messages: initialised, nothing to reply to, the socket ready. -/
structure Ready (s : ApiSource σ) : Prop where
  init : s.isInit = true
  waiting : s.isWaitingReply = false
  socket : s.apiSocket.pending = false

/-- The source once its socket has handed out a message. -/
def received (s : ApiSource σ) : ApiSource σ :=
  { s with apiSocket := { s.apiSocket with pending := true } }

/-- The handler of `request`, if there is one, echoes code and seq in what it replies. -/
def Echoes (s : ApiSource σ) (now : Int64) (request : ProtoCommonPacket)
    (extraBlob : Option Bytes) : Prop :=
  ∀ handler, s.apiHandlerMap request.code = some handler →
    ∀ p ∈ { s.received with isWaitingReply := true }.replies pb
        (handler now s.user request extraBlob),
      p.code = request.code ∧ p.seq = request.seq

/-- The message has been answered: exactly one reply was sent, nothing waits for a reply, the
socket is ready, and the reply carries the code and seq of the request. -/
structure Answered (s : ApiSource σ) (now : Int64) (msg : ApiMsg) (s' : ApiSource σ) : Prop where
  one : ∃ out, s'.apiSocket.sent = s.apiSocket.sent ++ [out] ∧
    ∀ request, pb.commonPacket.decode msg.inFrame = some request →
      s.Echoes pb now request msg.extraBlob →
      ∃ reply blob, out = replyFrames pb reply blob ∧
        reply.code = request.code ∧ reply.seq = request.seq
  waiting : s'.isWaitingReply = false
  socket : s'.apiSocket.pending = false

/-- Every message that is read is answered. -/
def Answers (s : ApiSource σ) : ApiEvent σ → Prop
  | .read now msg => ∃ s', s.apiStep pb (.read now msg) = some s' ∧ s.Answered pb now msg s'
  | _ => True

/-- The message parses and its code has a registered handler. -/
def HasHandler (s : ApiSource σ) : ApiEvent σ → Prop
  | .read _ msg => ∃ request, pb.commonPacket.decode msg.inFrame = some request ∧
    (s.apiHandlerMap request.code).isSome
  | _ => True

theorem ready_afterInit (handlers : Int32 → Option (SourceApiHandler σ)) (user : σ) :
    (afterInit handlers user).Ready := ⟨rfl, rfl, rfl⟩

/-- Reading from a ready source. -/
theorem apiStep_read {s : ApiSource σ} (h : s.Ready) (now : Int64) (msg : ApiMsg) :
    s.apiStep pb (.read now msg) = some (s.received.onApiSocketRead pb now msg) := by
  rw [apiStep, RepSocket.recv_of_idle h.socket]
  rfl

/-- A request with a registered handler is answered once. -/
theorem onRpcRequest_answered {s : ApiSource σ} (h : s.Ready) (now : Int64) (blob : Option Bytes)
    {request : ProtoCommonPacket} {handler : SourceApiHandler σ}
    (hh : s.apiHandlerMap request.code = some handler) :
    (s.received.onRpcRequest pb now request blob).Ready ∧
      ∃ reply b,
        (s.received.onRpcRequest pb now request blob).apiSocket.sent =
          s.apiSocket.sent ++ [replyFrames pb reply b] ∧
        (s.Echoes pb now request blob → reply.code = request.code ∧ reply.seq = request.seq) := by
  -- `s1` is the source while the handler runs, `s2` the one it leaves
  let s1 : ApiSource σ := { s.received with isWaitingReply := true }
  let s2 := (s1.runHandler pb (handler now s.user request blob)).2
  have hs1 : s1.apiSocket.pending = true := rfl
  obtain ⟨hi, hd⟩ := runHandler_spec pb (handler now s.user request blob) s1 h.init rfl
  have hh' : s.received.apiHandlerMap request.code = some handler := hh
  rcases hd with ⟨hw, hsock⟩ | ⟨hw, p, hp, b, hsock⟩
  · have he : s.received.onRpcRequest pb now request blob = (s2.sendRpcReply pb
        (replyTo request statusInternalErr "API Handler Error (Not send reply)") none).2 := by
      simp only [onRpcRequest, hh']
      exact if_pos hw
    rw [he, sendRpcReply_of_waiting pb _ _ _ hi hw rfl, hsock, RepSocket.send_of_pending hs1]
    exact ⟨⟨hi, rfl, rfl⟩, _, none, rfl, fun _ => ⟨replyTo_code .., replyTo_seq ..⟩⟩
  · have he : s.received.onRpcRequest pb now request blob = s2 := by
      simp only [onRpcRequest, hh']
      exact if_neg (by rw [Bool.not_eq_true]; exact hw)
    rw [RepSocket.send_of_pending hs1] at hsock
    rw [he]
    refine ⟨⟨hi, hw, ?_⟩, p, b, ?_, fun hecho => hecho handler hh p hp⟩
    · rw [hsock]
    · rw [hsock]; rfl

/-- A handler that sends one reply and returns, as the built-in ones do. -/
theorem onRpcRequest_of_reply {s : ApiSource σ} (h : s.Ready) {now : Int64} {blob b : Option Bytes}
    {request reply : ProtoCommonPacket} {handler : SourceApiHandler σ} {value : Int} {user : σ}
    (hh : s.apiHandlerMap request.code = some handler)
    (hr : handler now s.user request blob = .sendRpcReply reply b fun _ => .ret value user)
    (ht : reply.type = .reply) :
    s.received.onRpcRequest pb now request blob =
      { s with user := user,
               apiSocket := { s.apiSocket with sent := s.apiSocket.sent ++
                 [replyFrames pb reply b] } } := by
  have hh' : s.received.apiHandlerMap request.code = some handler := hh
  have hr' : handler now s.received.user request blob =
      .sendRpcReply reply b fun _ => .ret value user := hr
  have hsend := sendRpcReply_of_waiting pb { s.received with isWaitingReply := true } reply b
    h.init rfl ht
  simp only [onRpcRequest, hh', hr', runHandler_sendRpcReply, hsend, runHandler]
  rw [RepSocket.send_of_pending rfl, if_neg (by simp)]
  simp only [received, h.waiting, h.socket]

/-- On the two error paths nothing is sent and the request stays unanswered. -/
theorem onApiSocketRead_of_no_handler {s : ApiSource σ} (h : s.Ready) {now : Int64} {msg : ApiMsg}
    (hno : ¬ s.HasHandler pb (.read now msg)) :
    s.received.onApiSocketRead pb now msg = s.received := by
  have hw : s.received.isWaitingReply = false := h.waiting
  unfold onApiSocketRead
  cases hd : pb.commonPacket.decode msg.inFrame with
  | none => exact sendRpcReply_of_not_waiting pb _ _ _ hw
  | some request =>
    have hm : s.received.apiHandlerMap request.code = none := by
      cases hm : s.apiHandlerMap request.code with
      | none => exact hm
      | some handler => exact absurd ⟨request, hd, by rw [hm]; rfl⟩ hno
    simp only [onRpcRequest, hm]
    exact sendRpcReply_of_not_waiting pb _ _ _ hw

theorem read_answered {s : ApiSource σ} (h : s.Ready) {now : Int64} {msg : ApiMsg}
    (hh : s.HasHandler pb (.read now msg)) :
    (s.received.onApiSocketRead pb now msg).Ready ∧
      s.Answered pb now msg (s.received.onApiSocketRead pb now msg) := by
  obtain ⟨request, hd, hs⟩ := hh
  obtain ⟨handler, hm⟩ := Option.isSome_iff_exists.1 hs
  have he : s.received.onApiSocketRead pb now msg =
      s.received.onRpcRequest pb now request msg.extraBlob := by
    simp only [onApiSocketRead, hd]
  obtain ⟨hready, reply, b, hsent, hecho⟩ :=
    onRpcRequest_answered pb h now msg.extraBlob hm
  rw [he]
  refine ⟨hready, ⟨_, hsent, fun r hr hech => ?_⟩, hready.waiting, hready.socket⟩
  rw [hd] at hr
  cases hr
  exact ⟨reply, b, rfl, hecho hech⟩

/-- A message is answered exactly when it parses and has a handler. -/
theorem answers_iff_hasHandler {s : ApiSource σ} (h : s.Ready) (e : ApiEvent σ) :
    s.Answers pb e ↔ s.HasHandler pb e := by
  cases e with
  | read now msg =>
    constructor
    · rintro ⟨s', hs', ha⟩
      by_contra hno
      rw [apiStep_read pb h, onApiSocketRead_of_no_handler pb h hno] at hs'
      cases hs'
      exact absurd ha.socket (by simp [received])
    · intro hh
      exact ⟨_, apiStep_read pb h now msg, (read_answered pb h hh).2⟩
  | register _ _ => exact Iff.rfl
  | unregister _ => exact Iff.rfl
  | unregisterAll => exact Iff.rfl

theorem ready_step (s : ApiSource σ) (e : ApiEvent σ) (s' : ApiSource σ) (h : s.Ready)
    (hh : s.HasHandler pb e) (hs : s.apiStep pb e = some s') : s'.Ready := by
  cases e with
  | read now msg =>
    rw [apiStep_read pb h] at hs
    cases hs
    exact (read_answered pb h hh).1
  | register _ _ => cases hs; exact ⟨h.init, h.waiting, h.socket⟩
  | unregister _ => cases hs; exact ⟨h.init, h.waiting, h.socket⟩
  | unregisterAll => cases hs; exact ⟨h.init, h.waiting, h.socket⟩

/-- **Reply discipline.** From `Init` on, along any run of messages and changes of the handler
table, every message is answered by exactly one reply and leaves the socket ready, if and only if
every message parses and finds a handler for its code. -/
theorem reply_iff (handlers : Int32 → Option (SourceApiHandler σ)) (user : σ)
    (es : List (ApiEvent σ)) :
    Run.Each (apiStep pb) (Answers pb) (afterInit handlers user) es ↔
      Run.Each (apiStep pb) (HasHandler pb) (afterInit handlers user) es :=
  Run.each_iff (ready_step pb) (fun _ e h => answers_iff_hasHandler pb h e)
    (ready_afterInit handlers user)

/-- A byte that no packet starts with, and a request of code 99 at a source that only knows
code 1: neither is answered, and the socket stays blocked. -/
theorem reply_lost :
    let handlers : Int32 → Option (SourceApiHandler Unit) := fun c =>
      if c = 1 then some fun _ u request _ =>
        .sendRpcReply (replyTo request statusOk "") none fun _ => .ret 0 u
      else none
    let s := afterInit handlers ()
    ¬ Run.Each (apiStep wireProtobuf) (Answers wireProtobuf) s [.read 0 ⟨[0xff], []⟩] ∧
    ¬ Run.Each (apiStep wireProtobuf) (Answers wireProtobuf) s
      [.read 0 ⟨[0x0a, 0x04, 0x18, 0x63, 0x20, 0x07], []⟩] := by
  intro handlers s
  have h1 : wireProtobuf.commonPacket.decode [0xff] = none := by decide
  have h2 : wireProtobuf.commonPacket.decode [0x0a, 0x04, 0x18, 0x63, 0x20, 0x07] =
      some { header := some { code := some 99, seq := some 7 } } := by decide
  constructor
  · rintro ⟨h, -⟩
    obtain ⟨request, hd, -⟩ := (answers_iff_hasHandler _ (ready_afterInit handlers ()) _).1 h
    rw [h1] at hd
    cases hd
  · rintro ⟨h, -⟩
    obtain ⟨request, hd, hs⟩ := (answers_iff_hasHandler _ (ready_afterInit handlers ()) _).1 h
    rw [h2] at hd
    cases hd
    revert hs
    decide

end ApiSource

end StreamSwitch
