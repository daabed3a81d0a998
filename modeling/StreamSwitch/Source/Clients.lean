import StreamSwitch.Source.Media
import StreamSwitch.Lib.Registry

/-!
# The clients of a stream source

`ClientHeartbeatHandler` and `Heartbeat` of `stsw_stream_source.cc`. The list of
receivers is a `Registry` keyed by client ip, port and token: a heartbeat request
is an `upsert`, housekeeping an `expire`.

`registry_sound`: along every run of heartbeat requests and housekeeping, the list
has one entry for each key, at most `STSW_MAX_CLIENT_NUM` of them, each the latest
accepted heartbeat of its client; the status of a reply tells what happened to the
list; and housekeeping keeps exactly the entries younger than the lease.
-/

namespace StreamSwitch

/-- A value of `time(NULL)`. -/
structure UnixTime where
  sec : Int64
  nonneg : 0 ≤ sec.toInt

/-- What identifies a client: ip, port and token. -/
def clientKey (c : ProtoClientHeartbeatReq) : String × Int32 × String :=
  (c.clientIp.getD "", c.clientPort.getD 0, c.clientToken.getD "")

namespace StreamSource

variable (pb : Protobuf)

/-! ## Heartbeat requests -/

/-- The client of `receiver_list` that `clientHeartbeat` belongs to. -/
def findClient (receiverList : List ProtoClientHeartbeatReq)
    (clientHeartbeat : ProtoClientHeartbeatReq) : Option Nat :=
  receiverList.findIdx? fun it =>
    clientHeartbeat.clientIp.getD "" = it.clientIp.getD "" ∧
    clientHeartbeat.clientPort.getD 0 = it.clientPort.getD 0 ∧
    clientHeartbeat.clientToken.getD "" = it.clientToken.getD ""

/-- The list after a heartbeat; `none` when the client is new and the list is full. -/
def registerClient (receiverList : List ProtoClientHeartbeatReq)
    (clientHeartbeat : ProtoClientHeartbeatReq) : Option (List ProtoClientHeartbeatReq) :=
  match findClient receiverList clientHeartbeat with
  | some it => some (receiverList.set it clientHeartbeat)
  | none =>
    -- client no exist, check the max number and add
    if receiverList.length < stswMaxClientNum then some (receiverList ++ [clientHeartbeat])
    else none

/-- The heartbeat that a request carries, stamped with the time of its arrival. -/
def heartbeatOf (now : Int64) (request : ProtoCommonPacket) : Option ProtoClientHeartbeatReq :=
  (pb.clientHeartbeatReq.decode request.getBody).map fun c => { c with lastActiveTime := some now }

def heartbeatOkReply (now : Int64) (request : ProtoCommonPacket) : ProtoCommonPacket :=
  { replyTo request statusOk "" with
    body := some (pb.clientHeartbeatRep.encode
      { timestamp := some now, lease := some (Int32.ofInt stswClientLease) }) }

def heartbeatErrReply (request : ProtoCommonPacket) : ProtoCommonPacket :=
  replyTo request statusBadRequest "ProtoClientHeartbeatReq body Parse Error"

def clientHeartbeatHandler : SourceApiHandler SourceData := fun now d request _ =>
  match heartbeatOf pb now request with
  | none => .sendRpcReply (heartbeatErrReply request) none fun _ => .ret 0 d
  | some clientHeartbeat =>
    match registerClient d.receiverList clientHeartbeat with
    | some receiverList => .sendRpcReply (heartbeatOkReply pb now request) none fun _ =>
      .ret 0 { d with receiverList := receiverList }
    | none => .sendRpcReply (heartbeatErrReply request) none fun _ => .ret 0 d

/-! ## Housekeeping -/

/-- The loop that kicks out the clients whose lease is over. -/
def kickOut (nowSec : Int64) : List ProtoClientHeartbeatReq → List ProtoClientHeartbeatReq
  | [] => []
  | it :: rest =>
    if nowSec - it.lastActiveTime.getD 0 ≥ Int64.ofInt stswClientLease then kickOut nowSec rest
    else it :: kickOut nowSec rest

def sendStreamInfo (s : StreamSource) (sendTime : Int64) : List PublishMsg :=
  let d := s.user
  let streamInfo : ProtoStreamInfoMsg :=
    { state := some d.streamState
      playType := some d.streamMeta.playType
      ssrc := some d.streamMeta.ssrc
      sourceProto := some d.streamMeta.sourceProto
      curBps := some d.curBps
      lastFrameSec := some d.lastFrameSec
      lastFrameUsec := some d.lastFrameUsec
      sendTime := some sendTime
      streamName := some d.streamName
      clientNum := some (Int32.ofInt (int32OfSize d.receiverList.length)) }
  let infoMsg : ProtoCommonPacket :=
    { header := some { type := some .message, code := some codeStreamInfo }
      body := some (pb.streamInfoMsg.encode streamInfo) }
  s.sendPublishMsg pb infoChannel infoMsg none 0

/-- The clocks that one run of `Heartbeat` reads. -/
structure Clocks where
  /-- `zclock_mono()`. -/
  mono : Int64
  /-- `time(NULL)`. -/
  nowSec : UnixTime
  /-- `zclock_time()`. -/
  wall : Int64

/-- The first part of `Heartbeat`: the throughput since the last run. -/
def updateBps (d : SourceData) (now : Int64) : SourceData :=
  if d.lastHeartbeatTime ≠ 0 then
    let elapse := now - d.lastHeartbeatTime
    let d := { d with lastHeartbeatTime := now }
    if elapse ≠ 0 then
      { d with
        -- `uint32_t` arithmetic up to the division by the `int64_t`
        curBps := (Int64.ofNat (d.curBytes * 8 * 1000).toNat / elapse).toUInt64.toUInt32
        curBytes := 0 }
    else d
  else { d with lastHeartbeatTime := now, curBytes := 0 }

def heartbeat (s : StreamSource) (now : Int64) (c : Clocks) : StreamSource × List PublishMsg :=
  let d := updateBps s.user (if now = 0 then c.mono else now)
  let d := { d with receiverList := kickOut c.nowSec.sec d.receiverList }
  let s := { s with user := d }
  (s, s.sendStreamInfo pb c.wall)

theorem updateBps_receiverList (d : SourceData) (now : Int64) :
    (updateBps d now).receiverList = d.receiverList := by
  unfold updateBps
  split
  · simp only
    split <;> rfl
  · rfl

theorem heartbeat_receiverList (s : StreamSource) (now : Int64) (c : Clocks) :
    (s.heartbeat pb now c).1.user.receiverList = kickOut c.nowSec.sec s.user.receiverList := by
  show kickOut _ (updateBps s.user _).receiverList = _
  rw [updateBps_receiverList]

/-! ## The registry behind the list -/

/-- `receiver_list` as a registry. -/
abbrev ClientRegistry := Registry clientKey stswMaxClientNum

theorem findClient_eq_position (receiverList : List ProtoClientHeartbeatReq)
    (c : ProtoClientHeartbeatReq) :
    findClient receiverList c = Registry.position clientKey receiverList c := by
  unfold findClient Registry.position clientKey
  simp only [Prod.mk.injEq]

/-- A heartbeat is an `upsert`. -/
theorem registerClient_eq_upsert (r : ClientRegistry) (c : ProtoClientHeartbeatReq) :
    registerClient r.entries c = (r.upsert c).map Registry.entries := by
  rewrite [Registry.upsert_entries, registerClient, findClient_eq_position]
  cases Registry.position clientKey r.entries c <;> rfl

/-- The entry is younger than the lease at second `nowSec`. -/
def Fresh (nowSec : Int) (c : ProtoClientHeartbeatReq) : Prop :=
  nowSec - (c.lastActiveTime.getD 0).toInt < stswClientLease

instance (nowSec : Int) (c : ProtoClientHeartbeatReq) : Decidable (Fresh nowSec c) :=
  inferInstanceAs (Decidable (_ < _))

/-- The 64-bit test of the loop is the comparison of times. -/
theorem not_lease_iff_fresh (t : UnixTime) {c : ProtoClientHeartbeatReq}
    (hc : 0 ≤ (c.lastActiveTime.getD 0).toInt) :
    ¬ (t.sec - c.lastActiveTime.getD 0 ≥ Int64.ofInt stswClientLease) ↔
      Fresh t.sec.toInt c := by
  have h1 := t.nonneg
  have h2 := Int64.toInt_lt t.sec
  have h3 := Int64.toInt_lt (c.lastActiveTime.getD 0)
  have hsub : (t.sec - c.lastActiveTime.getD 0).toInt =
      t.sec.toInt - (c.lastActiveTime.getD 0).toInt := by
    rw [Int64.toInt_sub, Int.bmod_eq_of_le] <;> omega
  have hlease : (Int64.ofInt stswClientLease).toInt = stswClientLease := by decide
  rw [ge_iff_le, Int64.le_iff_toInt_le, hsub, hlease, Fresh]
  omega

/-- Housekeeping is an `expire`. -/
theorem kickOut_eq_filter (t : UnixTime) {receiverList : List ProtoClientHeartbeatReq}
    (h : ∀ c ∈ receiverList, 0 ≤ (c.lastActiveTime.getD 0).toInt) :
    kickOut t.sec receiverList = receiverList.filter fun c => Fresh t.sec.toInt c := by
  induction receiverList with
  | nil => rfl
  | cons c rest ih =>
    have hc := not_lease_iff_fresh t (h c List.mem_cons_self)
    have hrest := ih fun c' hc' => h c' (List.mem_cons_of_mem c hc')
    rw [kickOut, List.filter_cons, hrest]
    by_cases hf : Fresh t.sec.toInt c
    · rw [if_neg (hc.2 hf), if_pos (by simpa using hf)]
    · rw [if_pos (by simpa using fun hn => hf (hc.1 hn)), if_neg (by simpa using hf)]

/-! ## Runs -/

/-- A heartbeat request as it arrives at the API socket. -/
structure HeartbeatRequest where
  now : UnixTime
  packet : ProtoCommonPacket
  isHeartbeat : packet.code = codeClientHeartbeat
  rest : List Bytes := []

inductive ClientEvent
  | request (r : HeartbeatRequest)
  | heartbeat (now : Int64) (c : Clocks)

/-- A source, and the heartbeats it has accepted so far. -/
structure ClientSystem where
  source : StreamSource
  history : List ProtoClientHeartbeatReq := []

/-- The reply that was sent last. -/
def lastReply (s : StreamSource) : Option ProtoCommonPacket :=
  (s.apiSocket.sent.getLast?.bind List.head?).bind pb.commonPacket.decode

/-- The heartbeat is accepted when the reply to it has status OK. -/
def acceptedHeartbeat (s : StreamSource) (r : HeartbeatRequest) :
    List ProtoClientHeartbeatReq :=
  match lastReply pb s with
  | some reply =>
    if reply.status = statusOk then (heartbeatOf pb r.now.sec r.packet).toList else []
  | none => []

def clientStep (t : ClientSystem) : ClientEvent → Option ClientSystem
  | .request r =>
    (t.source.apiStep pb (.read r.now.sec ⟨pb.commonPacket.encode r.packet, r.rest⟩)).map fun s =>
      { source := s, history := t.history ++ acceptedHeartbeat pb s r }
  | .heartbeat now c => some { t with source := (t.source.heartbeat pb now c).1 }

/-- One entry for each key, not too many, each the latest accepted one. -/
structure RegistryOk (t : ClientSystem) : Prop where
  nodup : (t.source.user.receiverList.map clientKey).Nodup
  bounded : t.source.user.receiverList.length ≤ stswMaxClientNum
  latest : ∀ c ∈ t.source.user.receiverList,
    Registry.latest clientKey t.history (clientKey c) = some c

/-- A request gets one reply; its status says whether the client is registered now or the list is
as it was. Housekeeping keeps the entries younger than the lease, in order. -/
def ClientStepOk (t : ClientSystem) : ClientEvent → Prop
  | .request r => ∃ t' reply, clientStep pb t (.request r) = some t' ∧
    t'.source.apiSocket.sent = t.source.apiSocket.sent ++ [replyFrames pb reply none] ∧
    (reply.status = statusOk → ∃ c, heartbeatOf pb r.now.sec r.packet = some c ∧
      c ∈ t'.source.user.receiverList) ∧
    (reply.status ≠ statusOk → t'.source.user.receiverList = t.source.user.receiverList)
  | .heartbeat now c => (t.source.heartbeat pb now c).1.user.receiverList =
    t.source.user.receiverList.filter fun e => Fresh c.nowSec.sec.toInt e

/-- Between two events. -/
structure ClientInv (t : ClientSystem) : Prop where
  ready : t.source.Ready
  handler : t.source.apiHandlerMap codeClientHeartbeat = some (clientHeartbeatHandler pb)
  registry : ∃ r : ClientRegistry, r.entries = t.source.user.receiverList ∧ r.Current t.history
  times : ∀ c ∈ t.source.user.receiverList, 0 ≤ (c.lastActiveTime.getD 0).toInt

variable {pb}

theorem ClientInv.registryOk {t : ClientSystem} (h : ClientInv pb t) : RegistryOk t := by
  obtain ⟨r, hr, hc⟩ := h.registry
  refine ⟨?_, ?_, ?_⟩
  · rw [← hr]
    exact r.nodup
  · rw [← hr]
    exact r.bounded
  · rw [← hr]
    exact hc

/-- What the handler does with a request: it refuses it and leaves the data, or it registers the
heartbeat. -/
theorem clientHeartbeatHandler_cases (now : Int64) (d : SourceData) (request : ProtoCommonPacket)
    (blob : Option Bytes) :
    (clientHeartbeatHandler pb now d request blob =
        .sendRpcReply (heartbeatErrReply request) none (fun _ => .ret 0 d) ∧
      ∀ c, heartbeatOf pb now request = some c → registerClient d.receiverList c = none) ∨
    ∃ c receiverList, heartbeatOf pb now request = some c ∧
      registerClient d.receiverList c = some receiverList ∧
      clientHeartbeatHandler pb now d request blob =
        .sendRpcReply (heartbeatOkReply pb now request) none fun _ =>
          .ret 0 { d with receiverList := receiverList } := by
  unfold clientHeartbeatHandler
  cases hb : heartbeatOf pb now request with
  | none => exact .inl ⟨rfl, nofun⟩
  | some c =>
    cases hr : registerClient d.receiverList c with
    | none => exact .inl ⟨by simp only [hr], fun c' hc' => by cases hc'; exact hr⟩
    | some receiverList => exact .inr ⟨c, receiverList, rfl, hr, by simp only [hr]⟩

/-- A heartbeat request is served by the handler, whose one reply is sent. -/
theorem clientStep_request {t : ClientSystem} (h : ClientInv pb t) (r : HeartbeatRequest)
    {reply : ProtoCommonPacket} {d : SourceData}
    (hr : ∀ blob, clientHeartbeatHandler pb r.now.sec t.source.user r.packet blob =
      .sendRpcReply reply none fun _ => .ret 0 d) (ht : reply.type = .reply) :
    clientStep pb t (.request r) = some
      { source := { t.source with
          user := d
          apiSocket := { t.source.apiSocket with
            sent := t.source.apiSocket.sent ++ [replyFrames pb reply none] } }
        history := t.history ++ if reply.status = statusOk then
          (heartbeatOf pb r.now.sec r.packet).toList else [] } := by
  have hh : t.source.apiHandlerMap r.packet.code = some (clientHeartbeatHandler pb) := by
    rw [r.isHeartbeat]
    exact h.handler
  let msg : ApiMsg := ⟨pb.commonPacket.encode r.packet, r.rest⟩
  have hserve := ApiSource.onRpcRequest_of_reply pb h.ready hh (hr msg.extraBlob) ht
  have hread : t.source.received.onApiSocketRead pb r.now.sec msg =
      t.source.received.onRpcRequest pb r.now.sec r.packet msg.extraBlob := by
    simp only [ApiSource.onApiSocketRead, msg, Codec.decode_encode]
  rw [clientStep, ApiSource.apiStep_read pb h.ready, hread, hserve, Option.map_some,
    acceptedHeartbeat]
  simp only [lastReply, replyFrames, List.getLast?_append, List.getLast?_singleton,
    Option.some_or, Option.bind_some, List.head?_cons, Codec.decode_encode]

/-- **One event** keeps the invariant and does what it should. -/
theorem clientInv_step {t : ClientSystem} (h : ClientInv pb t) (e : ClientEvent) :
    ∃ t', clientStep pb t e = some t' ∧ ClientInv pb t' ∧ ClientStepOk pb t e := by
  cases e with
  | heartbeat now c =>
    have hk := (heartbeat_receiverList pb t.source now c).trans
      (kickOut_eq_filter c.nowSec h.times)
    obtain ⟨r, hr, hcur⟩ := h.registry
    refine ⟨_, rfl, ⟨⟨h.ready.init, h.ready.waiting, h.ready.socket⟩, h.handler, ?_, ?_⟩, hk⟩
    · refine ⟨r.expire fun e => Fresh c.nowSec.sec.toInt e, ?_, hcur.expire _⟩
      show r.entries.filter _ = (t.source.heartbeat pb now c).1.user.receiverList
      rw [hr, hk]
    · show ∀ e ∈ (t.source.heartbeat pb now c).1.user.receiverList, _
      rw [hk]
      exact fun e he => h.times e (List.mem_of_mem_filter he)
  | request r =>
    rcases clientHeartbeatHandler_cases r.now.sec t.source.user r.packet none with
      ⟨hhan, -⟩ | ⟨c, receiverList, hc, hreg, hhan⟩
    · -- refused: nothing changes but the reply that is sent
      have he := clientStep_request h r (fun _ => hhan) rfl
      have hst : ¬ (heartbeatErrReply r.packet).status = statusOk := by
        rw [heartbeatErrReply, replyTo_status]
        decide
      rw [if_neg hst, List.append_nil] at he
      exact ⟨_, he, ⟨⟨h.ready.init, h.ready.waiting, h.ready.socket⟩, h.handler, h.registry,
        h.times⟩, _, _, he, rfl, fun hok => absurd hok hst, fun _ => rfl⟩
    · have he := clientStep_request h r (fun _ => hhan) rfl
      have hst : (heartbeatOkReply pb r.now.sec r.packet).status = statusOk := rfl
      rw [if_pos hst, hc] at he
      obtain ⟨g, hg, hcur⟩ := h.registry
      rw [← hg, registerClient_eq_upsert] at hreg
      obtain ⟨g', hg', hent⟩ := Option.map_eq_some_iff.1 hreg
      have hmem := Registry.mem_upsert hg'
      rw [hent] at hmem
      refine ⟨_, he, ⟨⟨h.ready.init, h.ready.waiting, h.ready.socket⟩, h.handler,
        ⟨g', hent, hcur.upsert hg'⟩, ?_⟩, _, _, he, rfl, fun _ => ⟨c, hc, hmem.1⟩,
        fun hno => absurd hst hno⟩
      intro x hx
      rcases hmem.2 x hx with rfl | ⟨hx', -⟩
      · obtain ⟨req, -, rfl⟩ := Option.map_eq_some_iff.1 hc
        exact r.now.nonneg
      · exact h.times x (hg ▸ hx')

/-- A source after `Init`: the built-in heartbeat handler is registered, with any others. -/
def freshWithClients (pb : Protobuf) (handlers : Int32 → Option (SourceApiHandler SourceData))
    (streamName : String) : StreamSource :=
  ApiSource.afterInit (fun c => if c = codeClientHeartbeat then some (clientHeartbeatHandler pb)
    else handlers c) { streamName := streamName }

variable (pb) in
theorem clientInv_fresh (handlers : Int32 → Option (SourceApiHandler SourceData))
    (streamName : String) : ClientInv pb { source := freshWithClients pb handlers streamName } :=
  ⟨⟨rfl, rfl, rfl⟩, rfl, ⟨.empty, rfl, Registry.current_empty _⟩, nofun⟩

variable (pb) in
/-- **The client registry is sound**: every run goes through, leaves a registry with one, current
entry for each client, and each step of it did what it should. -/
theorem registry_sound (handlers : Int32 → Option (SourceApiHandler SourceData))
    (streamName : String) (es : List ClientEvent) :
    ∃ t, Run.exec (clientStep pb) { source := freshWithClients pb handlers streamName } es =
        some t ∧ RegistryOk t ∧
      Run.Each (clientStep pb) (ClientStepOk pb)
        { source := freshWithClients pb handlers streamName } es := by
  obtain ⟨t, he, hinv, heach⟩ := Run.exec_total (fun _ e h => clientInv_step h e) es
    (clientInv_fresh pb handlers streamName)
  exact ⟨t, he, hinv.registryOk, heach⟩

end StreamSource

end StreamSwitch
