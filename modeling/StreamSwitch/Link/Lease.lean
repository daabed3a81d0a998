import StreamSwitch.Source.Clients
import StreamSwitch.Sink.Heartbeat

/-!
# Leases between sink and source

The heartbeats of a started sink and the registry of its source, over a network
that may lose requests and replies. The sink's clock counts milliseconds, the
source's whole seconds of a clock that runs at the same rate, `off` ahead.

What is assumed about the world is in the guards of `leaseStep`: ticks come at most
500 ms apart; a request that is not lost reaches the source within 1000 ms; its
reply, if not lost, is there before the tick that would time it out; and no three
requests in a row are lost. The sink's own socket calls succeed. Other clients may
send what they like, and housekeeping may run at any time.

`lease_kept`: once a heartbeat of the sink has been accepted, its client stays
registered. The bound behind it: less than 13500 ms pass from one accepted
heartbeat to the next (5500 until the next request, 3500 for each lost one, 1000 on
the way), so that the truncated seconds differ by 14 at most.
-/

namespace StreamSwitch

open ReqRep StreamSource StreamSink

/-- The request that is under way. -/
inductive Flight
  /-- Nothing is under way. -/
  | none
  /-- The request is lost. -/
  | lost
  /-- The request has not reached the source yet. -/
  | request (packet : ProtoCommonPacket)
  /-- The reply has not reached the sink yet. -/
  | reply (frames : List Bytes)

def Flight.isRequest : Flight → Bool
  | .request _ => true
  | _ => false

def Flight.isReply : Flight → Bool
  | .reply _ => true
  | _ => false

structure LeaseSystem where
  /-- The sink's clock. -/
  now : Int
  lastTick : Int
  sink : StreamSink
  clients : ClientSystem
  flight : Flight := .none
  /-- How many requests in a row were lost, up to the last one sent. -/
  lostRow : Nat := 0
  /-- When the source last accepted a heartbeat of the sink. -/
  acceptedAt : Option Int := none

inductive LeaseEvent
  | advance (dt : Nat)
  /-- The handler runs; should it send a request, `lost` says whether that is lost. -/
  | tick (lost : Bool)
  | deliver (sec : UnixTime) (replyLost : Bool)
  | arrive
  | other (r : HeartbeatRequest)
  | housekeeping (now : Int64) (c : Clocks)

namespace LeaseSystem

variable (pb : Protobuf) (off : Int)

/-- The source's clock. -/
def sourceSec (y : LeaseSystem) : Int := (y.now + off) / 1000

/-- The sink's identity in the registry. -/
def key (y : LeaseSystem) : String × Int32 × String := clientKey y.sink.clientHeartbeatReq

/-- Time may pass: no tick and no request is overdue. -/
def MayAdvance (y : LeaseSystem) (dt : Nat) : Prop :=
  y.now + dt ≤ y.lastTick + 500 ∧
    (y.flight.isRequest → y.now + dt ≤ y.sink.lastSendClientHeartbeatMsec + 1000)

/-- A tick may come: it does not time out a reply that is under way. -/
def MayTick (y : LeaseSystem) : Prop :=
  y.flight.isReply → y.now - y.sink.lastSendClientHeartbeatMsec < clientHeartbeatTimeout

instance (y : LeaseSystem) (dt : Nat) : Decidable (y.MayAdvance dt) :=
  inferInstanceAs (Decidable (_ ∧ (_ → _)))

instance (y : LeaseSystem) : Decidable y.MayTick := inferInstanceAs (Decidable (_ → _))

/-- The handler has run; a request it sent on an idle socket goes to the network. -/
def afterTick (y : LeaseSystem) (r : Ticked) (lost : Bool) : Option LeaseSystem :=
  let y := { y with sink := r.sink, lastTick := y.now }
  match r.sent with
  | none => some y
  | some (sock, packet) =>
    if ¬ sock.Idle then some y
    else if lost then
      -- no three requests in a row are lost
      if y.lostRow < 2 then some { y with flight := .lost, lostRow := y.lostRow + 1 } else none
    else some { y with flight := .request packet, lostRow := 0 }

/-- The source has served the sink's request. -/
def afterDeliver (y : LeaseSystem) (t : ClientSystem) (replyLost : Bool) : LeaseSystem :=
  let frames := t.source.apiSocket.sent.getLast?.getD []
  let ok := (lastReply pb t.source).any fun reply => reply.status = statusOk
  { y with
    clients := t
    flight := if replyLost then .none else .reply frames
    acceptedAt := if ok then some y.now else y.acceptedAt }

def leaseStep (y : LeaseSystem) : LeaseEvent → Option LeaseSystem
  | .advance dt => if y.MayAdvance dt then some { y with now := y.now + dt } else none
  | .tick lost =>
    if y.MayTick then y.afterTick (y.sink.clientHeartbeatHandler pb y.now {}) lost else none
  | .deliver sec replyLost =>
    match y.flight with
    | .request packet =>
      if h : packet.code = codeClientHeartbeat ∧ sec.sec.toInt = y.sourceSec off then
        (clientStep pb y.clients (.request ⟨sec, packet, h.1, []⟩)).map fun t =>
          y.afterDeliver pb t replyLost
      else none
    | _ => none
  | .arrive =>
    match y.flight with
    | .reply frames => some
      { y with
        flight := .none
        sink := { y.sink with
          clientHearbeatSocket := y.sink.clientHearbeatSocket.map (·.arrive frames) } }
    | _ => none
  | .other r =>
    if r.now.sec.toInt = y.sourceSec off then
      (clientStep pb y.clients (.request r)).map fun t => { y with clients := t }
    else none
  | .housekeeping now c =>
    if c.nowSec.sec.toInt = y.sourceSec off then
      (clientStep pb y.clients (.heartbeat now c)).map fun t => { y with clients := t }
    else none

/-- A sink that has just been started, with a fresh source. The clock is positive. -/
def init (clientInfo : StreamClientInfo) (listener : Bool)
    (handlers : Int32 → Option (SourceApiHandler SourceData)) (streamName : String)
    (uptime : Nat) : LeaseSystem :=
  { now := uptime + 1
    lastTick := uptime + 1
    sink := ((initBase clientInfo listener).start {}).2
    clients := { source := freshWithClients pb handlers streamName } }

/-- The sink is registered. -/
def Registered (y : LeaseSystem) : Prop :=
  ∃ c ∈ y.clients.source.user.receiverList, clientKey c = y.key

/-- Housekeeping does not evict the sink, once it has been accepted. -/
def NotEvicted (y : LeaseSystem) : LeaseEvent → Prop
  | .housekeeping now c => y.acceptedAt.isSome → c.nowSec.sec.toInt = y.sourceSec off →
    ∀ e ∈ y.clients.source.user.receiverList, clientKey e = y.key →
      e ∈ (y.clients.source.heartbeat pb now c).1.user.receiverList
  | _ => True

/-! ## The replies of the source -/

/-- A reply that grants the lease: the next request follows after a third of it. -/
def Grants (f : Bytes) : Prop := ∀ last now, nextSendAfter pb last now f = last + 5000

/-- A reply that refuses it. -/
def Refuses (f : Bytes) : Prop := ∀ last now, nextSendAfter pb last now f = now + 5000

theorem grants_okReply (sec : Int64) {request : ProtoCommonPacket}
    (h : request.code = codeClientHeartbeat) :
    Grants pb (pb.commonPacket.encode (heartbeatOkReply pb sec request)) := by
  intro last now
  have hcode : (heartbeatOkReply pb sec request).code = codeClientHeartbeat := h
  have hbody : pb.clientHeartbeatRep.decode (heartbeatOkReply pb sec request).getBody =
      some { timestamp := some sec, lease := some (Int32.ofInt stswClientLease) } :=
    pb.clientHeartbeatRep.decode_encode _
  have hlease : leaseThird (Int32.ofInt stswClientLease) = 5000 := by decide
  rw [nextSendAfter, Codec.decode_encode]
  simp only
  rw [if_pos ⟨hcode, rfl, rfl⟩, hbody]
  simp only [Option.getD_some, hlease]

theorem refuses_errReply (request : ProtoCommonPacket) :
    Refuses pb (pb.commonPacket.encode (heartbeatErrReply request)) := by
  intro last now
  have hst : ¬ (heartbeatErrReply request).status = statusOk := by
    rw [heartbeatErrReply, replyTo_status]
    decide
  rw [nextSendAfter, Codec.decode_encode]
  exact if_neg fun hc => hst hc.2.1

/-- **What the source makes of a heartbeat request**: it registers the client and grants the
lease, or it refuses a client that it does not know. -/
theorem clientStep_request_cases {t : ClientSystem} (h : ClientInv pb t) (r : HeartbeatRequest) :
    ∃ t' f, clientStep pb t (.request r) = some t' ∧ ClientInv pb t' ∧
      t'.source.apiSocket.sent.getLast? = some [f] ∧
      ((Grants pb f ∧ ((lastReply pb t'.source).any fun p => p.status = statusOk) = true ∧
          ∃ c, heartbeatOf pb r.now.sec r.packet = some c ∧
            c ∈ t'.source.user.receiverList ∧
            ∀ x ∈ t.source.user.receiverList, clientKey x ≠ clientKey c →
              x ∈ t'.source.user.receiverList) ∨
        (Refuses pb f ∧ ((lastReply pb t'.source).any fun p => p.status = statusOk) = false ∧
          t'.source.user.receiverList = t.source.user.receiverList ∧
          ∀ c, heartbeatOf pb r.now.sec r.packet = some c →
            ∀ x ∈ t.source.user.receiverList, clientKey x ≠ clientKey c)) := by
  obtain ⟨t', he, hinv, -⟩ := clientInv_step h (.request r)
  obtain ⟨g, hg, -⟩ := h.registry
  rcases clientHeartbeatHandler_cases r.now.sec t.source.user r.packet none with
    ⟨hhan, hno⟩ | ⟨c, receiverList, hc, hreg, hhan⟩
  · have hstep := clientStep_request h r (fun _ => hhan) rfl
    rw [hstep] at he
    cases he
    refine ⟨_, _, hstep, hinv, List.getLast?_concat,
      .inr ⟨refuses_errReply pb r.packet, ?_, rfl, ?_⟩⟩
    · simp only [lastReply, replyFrames, List.getLast?_concat, Option.bind_some, List.head?_cons,
        Codec.decode_encode, Option.any_some, heartbeatErrReply, replyTo_status]
      rfl
    · intro c hc x hx
      have hnone := hno c hc
      rw [← hg, registerClient_eq_upsert, Option.map_eq_none_iff] at hnone
      exact Registry.not_mem_of_upsert hnone x (hg ▸ hx)
  · have hstep := clientStep_request h r (fun _ => hhan) rfl
    rw [hstep] at he
    cases he
    rw [← hg, registerClient_eq_upsert] at hreg
    obtain ⟨g', hg', hent⟩ := Option.map_eq_some_iff.1 hreg
    refine ⟨_, _, hstep, hinv, List.getLast?_concat,
      .inl ⟨grants_okReply pb r.now.sec r.isHeartbeat, ?_, c, hc, ?_, ?_⟩⟩
    · simp only [lastReply, replyFrames, List.getLast?_concat, Option.bind_some, List.head?_cons,
        Codec.decode_encode, Option.any_some]
      rfl
    · exact hent ▸ (Registry.mem_upsert hg').1
    · intro x hx hk
      exact hent ▸ Registry.mem_upsert_of_ne hg' (hg ▸ hx) hk

/-! ## The invariant -/

/-- No request is unanswered. Once a heartbeat was accepted, at `a`, the next request is due at
`a + 5000` at the latest, and the last tick came before. -/
structure Idle (y : LeaseSystem) : Prop where
  last : y.sink.lastSendClientHeartbeatMsec = 0
  socket : y.sink.clientHearbeatSocket = some {}
  flight : y.flight = .none
  due : ∀ a, y.acceptedAt = some a → y.lastTick < y.sink.nextSendClientHeartbeatMsec ∧
    y.sink.nextSendClientHeartbeatMsec ≤ a + 5000 ∧ y.lostRow = 0

/-- A frame that answers the unanswered request. It can only refuse a client that was never
accepted. -/
def Answer (y : LeaseSystem) (f : Bytes) : Prop :=
  Grants pb f ∨ (Refuses pb f ∧ y.acceptedAt = none)

/-- What has become of the unanswered request, sent at `last`, and of its reply, which is in the
`inbox` when it has arrived. -/
def Fate (y : LeaseSystem) (last : Int) (inbox : List Bytes) : Flight → Prop
  | .lost => inbox = [] ∧ 1 ≤ y.lostRow ∧ y.lostRow ≤ 2 ∧
    ∀ a, y.acceptedAt = some a → last + 3500 < a + 5500 + 3500 * y.lostRow
  | .request packet => inbox = [] ∧ y.lostRow = 0 ∧ y.now ≤ last + 1000 ∧
    packet.code = codeClientHeartbeat ∧
    (∃ c, pb.clientHeartbeatReq.decode packet.getBody = some c ∧ clientKey c = y.key) ∧
    ∀ a, y.acceptedAt = some a → last < a + 12500
  | .reply frames => inbox = [] ∧ y.lostRow = 0 ∧ (∃ f, frames = [f] ∧ y.Answer pb f) ∧
    ∀ a, y.acceptedAt = some a → last ≤ a
  | .none => y.lostRow = 0 ∧ (inbox = [] ∨ ∃ f, inbox = [f] ∧ y.Answer pb f) ∧
    ∀ a, y.acceptedAt = some a → last ≤ a

/-- A request is unanswered, and was not timed out by the last tick. -/
structure Waiting (y : LeaseSystem) : Prop where
  positive : 0 < y.sink.lastSendClientHeartbeatMsec
  sent : y.sink.lastSendClientHeartbeatMsec ≤ y.lastTick
  open_ : y.lastTick < y.sink.lastSendClientHeartbeatMsec + 3000
  fate : ∃ inbox, y.sink.clientHearbeatSocket = some { awaiting := true, inbox := inbox } ∧
    y.Fate pb y.sink.lastSendClientHeartbeatMsec inbox y.flight

structure LeaseInv (y : LeaseSystem) : Prop where
  positive : 0 < y.lastTick
  ticked : y.lastTick ≤ y.now
  tickDue : y.now ≤ y.lastTick + 500
  clients : ClientInv pb y.clients
  phase : y.Idle ∨ y.Waiting pb
  entry : ∀ a, y.acceptedAt = some a → a ≤ y.now ∧
    ∃ c ∈ y.clients.source.user.receiverList, clientKey c = y.key ∧
      (a + off) / 1000 ≤ (c.lastActiveTime.getD 0).toInt

variable {pb off} {y : LeaseSystem}

/-- Less than 13500 ms have passed since the last accepted heartbeat. -/
theorem LeaseInv.now_lt (h : LeaseInv pb off y) {a : Int} (ha : y.acceptedAt = some a) :
    y.now < a + 13500 := by
  have h1 := h.tickDue
  rcases h.phase with hi | hw
  · have := hi.due a ha
    omega
  · have h2 := hw.open_
    obtain ⟨inbox, -, hf⟩ := hw.fate
    cases hfl : y.flight with
    | none =>
      rw [hfl] at hf
      have := hf.2.2 a ha
      omega
    | lost =>
      rw [hfl] at hf
      have := hf.2.2.2 a ha
      have := hf.2.2.1
      omega
    | request packet =>
      rw [hfl] at hf
      have := hf.2.2.2.2.2 a ha
      have := hf.2.2.1
      omega
    | reply frames =>
      rw [hfl] at hf
      have := hf.2.2.2 a ha
      omega

/-- An entry as recent as the last accepted heartbeat is younger than the lease. -/
theorem LeaseInv.fresh (h : LeaseInv pb off y) {a : Int} (ha : y.acceptedAt = some a)
    {c : ProtoClientHeartbeatReq} (hc : (a + off) / 1000 ≤ (c.lastActiveTime.getD 0).toInt)
    {sec : Int} (hsec : sec = y.sourceSec off) : Fresh sec c := by
  have h1 := h.now_lt ha
  unfold Fresh stswClientLease
  rw [hsec, sourceSec]
  omega

/-! ## Steps of the clients -/

theorem entry_request {t t' : ClientSystem} {r : HeartbeatRequest} (h : ClientInv pb t)
    (he : clientStep pb t (.request r) = some t') {k : String × Int32 × String} {b : Int}
    (hb : b ≤ r.now.sec.toInt)
    (hk : ∃ c ∈ t.source.user.receiverList, clientKey c = k ∧
      b ≤ (c.lastActiveTime.getD 0).toInt) :
    ∃ c ∈ t'.source.user.receiverList, clientKey c = k ∧
      b ≤ (c.lastActiveTime.getD 0).toInt := by
  obtain ⟨x, hx, hxk, hxb⟩ := hk
  obtain ⟨t1, f, he1, -, -, hcase⟩ := clientStep_request_cases pb h r
  rw [he] at he1
  cases he1
  rcases hcase with ⟨-, -, c, hc, hmem, hkeep⟩ | ⟨-, -, hsame, -⟩
  · by_cases hck : clientKey x = clientKey c
    · -- a heartbeat under the same key renews the entry
      obtain ⟨req, -, rfl⟩ := Option.map_eq_some_iff.1 hc
      exact ⟨_, hmem, hck.symm.trans hxk, hb⟩
    · exact ⟨x, hkeep x hx hck, hxk, hxb⟩
  · exact ⟨x, hsame ▸ hx, hxk, hxb⟩

theorem LeaseInv.entry_housekeeping (h : LeaseInv pb off y) {now : Int64} {c : Clocks}
    (hsec : c.nowSec.sec.toInt = y.sourceSec off) {a : Int} (ha : y.acceptedAt = some a)
    {e : ProtoClientHeartbeatReq} (he : e ∈ y.clients.source.user.receiverList)
    (hk : clientKey e = y.key) :
    e ∈ (y.clients.source.heartbeat pb now c).1.user.receiverList := by
  obtain ⟨-, x, hx, hxk, hxa⟩ := h.entry a ha
  have hex : e = x := List.inj_on_of_nodup_map h.clients.registryOk.nodup he hx
    (hk.trans hxk.symm)
  rw [heartbeat_receiverList, kickOut_eq_filter c.nowSec h.clients.times]
  refine List.mem_filter.2 ⟨he, ?_⟩
  rw [hex]
  exact decide_eq_true (h.fresh ha hxa hsec)

/-! ## Steps of the link -/

theorem inv_advance (h : LeaseInv pb off y) {dt : Nat} (hm : y.MayAdvance dt) :
    LeaseInv pb off { y with now := y.now + dt } := by
  have h1 := h.ticked
  refine ⟨h.positive, ?_, hm.1, h.clients, ?_, fun a ha => ?_⟩
  · show y.lastTick ≤ y.now + dt
    omega
  · rcases h.phase with hi | hw
    · exact .inl ⟨hi.last, hi.socket, hi.flight, hi.due⟩
    · refine .inr ⟨hw.positive, hw.sent, hw.open_, ?_⟩
      obtain ⟨inbox, hs, hf⟩ := hw.fate
      refine ⟨inbox, hs, ?_⟩
      show Fate pb { y with now := y.now + dt } _ inbox y.flight
      have hreq := hm.2
      cases hfl : y.flight with
      | none => rw [hfl] at hf; exact hf
      | lost => rw [hfl] at hf; exact hf
      | reply frames => rw [hfl] at hf; exact hf
      | request packet =>
        rw [hfl] at hf hreq
        exact ⟨hf.1, hf.2.1, hreq rfl, hf.2.2.2⟩
  · obtain ⟨h2, hc⟩ := h.entry a ha
    refine ⟨?_, hc⟩
    show a ≤ y.now + dt
    omega

/-- A request is sent, at a time that leaves room for the losses still allowed. -/
theorem inv_sent (h : LeaseInv pb off y) {sock : ReqSocket Bytes} (hi : sock.Idle)
    (hroom : ∀ a, y.acceptedAt = some a → y.now < a + 5500 + 3500 * y.lostRow ∧ y.lostRow ≤ 2)
    {lost : Bool} {y' : LeaseSystem}
    (he : y.afterTick ⟨y.sink.sentAt y.now, some (sock, y.sink.heartbeatPacket pb)⟩ lost =
      some y') : LeaseInv pb off y' := by
  have h1 := h.positive
  have h2 := h.ticked
  have hpos : 0 < y.now := by omega
  simp only [afterTick] at he
  rw [if_neg (not_not.2 hi)] at he
  cases lost with
  | true =>
    simp only [if_true] at he
    split at he
    · next hrow =>
      cases he
      refine ⟨hpos, Int.le_refl _, ?_, h.clients, .inr ⟨hpos, Int.le_refl _, ?_, [], rfl, ?_⟩,
        h.entry⟩
      · show y.now ≤ y.now + 500
        omega
      · show y.now < y.now + 3000
        omega
      · refine ⟨rfl, Nat.le_add_left 1 _, hrow, fun a ha => ?_⟩
        have := hroom a ha
        show y.now + 3500 < a + 5500 + 3500 * ((y.lostRow + 1 : Nat) : Int)
        omega
    · cases he
  | false =>
    simp only [Bool.false_eq_true, if_false] at he
    cases he
    refine ⟨hpos, Int.le_refl _, ?_, h.clients, .inr ⟨hpos, Int.le_refl _, ?_, [], rfl, ?_⟩,
      h.entry⟩
    · show y.now ≤ y.now + 500
      omega
    · show y.now < y.now + 3000
      omega
    · refine ⟨rfl, rfl, ?_, rfl, ⟨_, pb.clientHeartbeatReq.decode_encode _, rfl⟩, fun a ha => ?_⟩
      · show y.now ≤ y.now + 1000
        omega
      · have := hroom a ha
        show y.now < a + 12500
        omega

/-- The tick changes nothing. -/
theorem inv_quiet (h : LeaseInv pb off y)
    (hphase : ({ y with lastTick := y.now } : LeaseSystem).Idle ∨
      ({ y with lastTick := y.now } : LeaseSystem).Waiting pb) :
    LeaseInv pb off { y with lastTick := y.now } := by
  have h1 := h.positive
  have h2 := h.ticked
  refine ⟨?_, Int.le_refl _, ?_, h.clients, hphase, h.entry⟩
  · show 0 < y.now
    omega
  · show y.now ≤ y.now + 500
    omega

theorem inv_tick_idle (h : LeaseInv pb off y) (hi : y.Idle) {lost : Bool} {y' : LeaseSystem}
    (he : y.afterTick (y.sink.clientHeartbeatHandler pb y.now {}) lost = some y') :
    LeaseInv pb off y' := by
  by_cases hn : y.now < y.sink.nextSendClientHeartbeatMsec
  · rw [tick_early pb hi.last hn] at he
    cases he
    exact inv_quiet h (.inl ⟨hi.last, hi.socket, hi.flight,
      fun a ha => ⟨hn, (hi.due a ha).2⟩⟩)
  · rw [tick_send pb hi.last (by omega) hi.socket rfl] at he
    refine inv_sent h ReqSocket.idle_new (fun a ha => ?_) he
    have h1 := h.tickDue
    have h2 := hi.due a ha
    omega

theorem inv_tick_waiting (h : LeaseInv pb off y) (hw : y.Waiting pb) (hm : y.MayTick)
    {lost : Bool} {y' : LeaseSystem}
    (he : y.afterTick (y.sink.clientHeartbeatHandler pb y.now {}) lost = some y') :
    LeaseInv pb off y' := by
  obtain ⟨inbox, hs, hf⟩ := hw.fate
  have h1 := h.tickDue
  have h2 := h.ticked
  have h3 := hw.open_
  have h4 := hw.sent
  have hpos := hw.positive
  have hne : y.sink.lastSendClientHeartbeatMsec ≠ 0 := by omega
  have hempty : inbox = [] ∨ ∃ f, inbox = [f] ∧ y.Answer pb f ∧ y.lostRow = 0 ∧
      y.flight = .none ∧
      ∀ a, y.acceptedAt = some a → y.sink.lastSendClientHeartbeatMsec ≤ a := by
    cases hfl : y.flight with
    | none =>
      rw [hfl] at hf
      rcases hf.2.1 with hin | ⟨f, hin, hans⟩
      · exact .inl hin
      · exact .inr ⟨f, hin, hans, hf.1, rfl, hf.2.2⟩
    | lost => rw [hfl] at hf; exact .inl hf.1
    | request packet => rw [hfl] at hf; exact .inl hf.1
    | reply frames => rw [hfl] at hf; exact .inl hf.1
  rcases hempty with rfl | ⟨f, rfl, hans, hrow, hfl, hle⟩
  · by_cases ht : y.now - y.sink.lastSendClientHeartbeatMsec < clientHeartbeatTimeout
    · rw [tick_wait pb hne hs rfl ht] at he
      cases he
      refine inv_quiet h (.inr ⟨hpos, ?_, ?_, [], hs, hf⟩)
      · show y.sink.lastSendClientHeartbeatMsec ≤ y.now
        omega
      · show y.now < y.sink.lastSendClientHeartbeatMsec + 3000
        unfold clientHeartbeatTimeout at ht
        omega
    · -- the request is timed out, so it was lost, or its reply was
      rw [tick_timeout pb hne hs rfl (by omega) (by omega)] at he
      refine inv_sent h ReqSocket.idle_new (fun a ha => ?_) he
      unfold clientHeartbeatTimeout at ht
      cases hfl : y.flight with
      | none =>
        rw [hfl] at hf
        have := hf.2.2 a ha
        have := hf.1
        omega
      | lost =>
        rw [hfl] at hf
        have := hf.2.2.2 a ha
        have := hf.2.2.1
        omega
      | request packet =>
        rw [hfl] at hf
        have := hf.2.2.1
        omega
      | reply frames =>
        rw [MayTick, hfl] at hm
        exact absurd (hm rfl) (by unfold clientHeartbeatTimeout; omega)
  · -- the reply is read, and the sink is idle again
    have hnext : y.now < nextSendAfter pb y.sink.lastSendClientHeartbeatMsec y.now f := by
      rcases hans with hg | ⟨hr, -⟩
      · rw [hg]
        omega
      · rw [hr]
        omega
    rw [tick_reply pb hne hs rfl hnext] at he
    cases he
    refine ⟨by show 0 < y.now; omega, Int.le_refl _, by show y.now ≤ y.now + 500; omega,
      h.clients, .inl ⟨rfl, rfl, hfl, fun a ha => ⟨hnext, ?_, hrow⟩⟩, h.entry⟩
    rcases hans with hg | ⟨-, hno⟩
    · show nextSendAfter pb y.sink.lastSendClientHeartbeatMsec y.now f ≤ a + 5000
      have := hle a ha
      rw [hg]
      omega
    · exact absurd (ha.symm.trans hno) nofun

theorem inv_deliver (h : LeaseInv pb off y) {packet : ProtoCommonPacket}
    (hfl : y.flight = .request packet) {sec : UnixTime} (hcode : packet.code = codeClientHeartbeat)
    (hsec : sec.sec.toInt = y.sourceSec off) {t : ClientSystem}
    (he : clientStep pb y.clients (.request ⟨sec, packet, hcode, []⟩) = some t)
    (replyLost : Bool) : LeaseInv pb off (y.afterDeliver pb t replyLost) := by
  obtain ⟨t', f, he', hinv, hlast, hcase⟩ :=
    clientStep_request_cases pb h.clients ⟨sec, packet, hcode, []⟩
  rw [he] at he'
  cases he'
  have hw : y.Waiting pb := by
    rcases h.phase with hi | hw
    · rw [hi.flight] at hfl
      cases hfl
    · exact hw
  obtain ⟨inbox, hs, hf⟩ := hw.fate
  rw [hfl] at hf
  obtain ⟨rfl, hrow, hnow, -, ⟨c, hc, hck⟩, -⟩ := hf
  have hbeat : heartbeatOf pb sec.sec packet = some { c with lastActiveTime := some sec.sec } := by
    rw [heartbeatOf, hc]
    rfl
  have h1 := hw.sent
  have h2 := h.ticked
  rcases hcase with ⟨hg, hok, c', hc', hmem, -⟩ | ⟨hr, hok, hsame, hno⟩
  · -- accepted now
    have hacc : (y.afterDeliver pb t replyLost).acceptedAt = some y.now := if_pos hok
    refine ⟨h.positive, h.ticked, h.tickDue, hinv,
      .inr ⟨hw.positive, hw.sent, hw.open_, [], hs, ?_⟩, fun a ha => ?_⟩
    · have hle : ∀ a, (y.afterDeliver pb t replyLost).acceptedAt = some a →
          y.sink.lastSendClientHeartbeatMsec ≤ a := by
        intro a ha
        rw [hacc] at ha
        cases ha
        omega
      cases replyLost with
      | true => exact ⟨hrow, .inl rfl, hle⟩
      | false => exact ⟨rfl, hrow, ⟨f, by rw [hlast]; rfl, .inl hg⟩, hle⟩
    · rw [hacc] at ha
      cases ha
      have hcc : some c' = some { c with lastActiveTime := some sec.sec } := hc'.symm.trans hbeat
      cases hcc
      refine ⟨Int.le_refl _, _, hmem, hck, ?_⟩
      exact Int.le_of_eq hsec.symm
  · -- refused: then the sink was never accepted, or its entry would have been found
    have hnone : y.acceptedAt = none := by
      cases ha : y.acceptedAt with
      | none => rfl
      | some a =>
        obtain ⟨-, x, hx, hxk, -⟩ := h.entry a ha
        exact absurd (hxk.trans hck.symm) (hno _ hbeat x hx)
    have hacc : (y.afterDeliver pb t replyLost).acceptedAt = none := by
      rw [← hnone]
      exact if_neg (by rw [hok]; exact Bool.false_ne_true)
    have hnever : ∀ {p : Int → Prop} a,
        (y.afterDeliver pb t replyLost).acceptedAt = some a → p a := by
      intro p a ha
      rw [hacc] at ha
      cases ha
    refine ⟨h.positive, h.ticked, h.tickDue, hinv,
      .inr ⟨hw.positive, hw.sent, hw.open_, [], hs, ?_⟩, hnever⟩
    cases replyLost with
    | true => exact ⟨hrow, .inl rfl, hnever⟩
    | false => exact ⟨rfl, hrow, ⟨f, by rw [hlast]; rfl, .inr ⟨hr, hacc⟩⟩, hnever⟩

theorem inv_arrive (h : LeaseInv pb off y) {frames : List Bytes} (hfl : y.flight = .reply frames) :
    LeaseInv pb off { y with
      flight := .none
      sink := { y.sink with
        clientHearbeatSocket := y.sink.clientHearbeatSocket.map (·.arrive frames) } } := by
  have hw : y.Waiting pb := by
    rcases h.phase with hi | hw
    · rw [hi.flight] at hfl
      cases hfl
    · exact hw
  obtain ⟨inbox, hs, hf⟩ := hw.fate
  rw [hfl] at hf
  obtain ⟨rfl, hrow, ⟨f, rfl, hans⟩, hle⟩ := hf
  refine ⟨h.positive, h.ticked, h.tickDue, h.clients,
    .inr ⟨hw.positive, hw.sent, hw.open_, [f], ?_, hrow, .inr ⟨f, rfl, hans⟩, hle⟩, h.entry⟩
  show y.sink.clientHearbeatSocket.map _ = _
  rw [hs]
  rfl

/-- A step of the source alone keeps what the sink knows. -/
theorem inv_clients (h : LeaseInv pb off y) {t : ClientSystem} (ht : ClientInv pb t)
    (he : ∀ a, y.acceptedAt = some a → ∃ c ∈ t.source.user.receiverList, clientKey c = y.key ∧
      (a + off) / 1000 ≤ (c.lastActiveTime.getD 0).toInt) :
    LeaseInv pb off { y with clients := t } := by
  refine ⟨h.positive, h.ticked, h.tickDue, ht, ?_, fun a ha => ⟨(h.entry a ha).1, he a ha⟩⟩
  rcases h.phase with hi | hw
  · exact .inl ⟨hi.last, hi.socket, hi.flight, hi.due⟩
  · obtain ⟨inbox, hs, hf⟩ := hw.fate
    refine .inr ⟨hw.positive, hw.sent, hw.open_, inbox, hs, ?_⟩
    show Fate pb { y with clients := t } _ inbox y.flight
    cases hfl : y.flight with
    | none => rw [hfl] at hf; exact hf
    | lost => rw [hfl] at hf; exact hf
    | request packet => rw [hfl] at hf; exact hf
    | reply frames => rw [hfl] at hf; exact hf

/-- **Every step keeps the invariant.** -/
theorem leaseInv_step (h : LeaseInv pb off y) {e : LeaseEvent} {y' : LeaseSystem}
    (he : leaseStep pb off y e = some y') : LeaseInv pb off y' := by
  cases e with
  | advance dt =>
    simp only [leaseStep] at he
    split at he
    · next hm => cases he; exact inv_advance h hm
    · cases he
  | tick lost =>
    simp only [leaseStep] at he
    split at he
    · next hm =>
      rcases h.phase with hi | hw
      · exact inv_tick_idle h hi he
      · exact inv_tick_waiting h hw hm he
    · cases he
  | deliver sec replyLost =>
    simp only [leaseStep] at he
    split at he
    · next packet hfl =>
      split at he
      · next hc =>
        obtain ⟨t, ht, rfl⟩ := Option.map_eq_some_iff.1 he
        exact inv_deliver h hfl hc.1 hc.2 ht replyLost
      · cases he
    · cases he
  | arrive =>
    simp only [leaseStep] at he
    split at he
    · next frames hfl => cases he; exact inv_arrive h hfl
    · cases he
  | other r =>
    simp only [leaseStep] at he
    split at he
    · next hsec =>
      obtain ⟨t, ht, rfl⟩ := Option.map_eq_some_iff.1 he
      obtain ⟨t', ht', hinv, -⟩ := clientInv_step h.clients (.request r)
      rw [ht] at ht'
      cases ht'
      refine inv_clients h hinv fun a ha => ?_
      obtain ⟨hle, hent⟩ := h.entry a ha
      refine entry_request h.clients ht ?_ hent
      rw [hsec, sourceSec]
      omega
    · cases he
  | housekeeping now c =>
    simp only [leaseStep] at he
    split at he
    · next hsec =>
      obtain ⟨t, ht, rfl⟩ := Option.map_eq_some_iff.1 he
      obtain ⟨t', ht', hinv, -⟩ := clientInv_step h.clients (.heartbeat now c)
      rw [ht] at ht'
      cases ht'
      cases ht
      refine inv_clients h hinv fun a ha => ?_
      obtain ⟨-, x, hx, hxk, hxa⟩ := h.entry a ha
      exact ⟨x, h.entry_housekeeping hsec ha hx hxk, hxk, hxa⟩
    · cases he

theorem leaseInv_init (clientInfo : StreamClientInfo) (listener : Bool)
    (handlers : Int32 → Option (SourceApiHandler SourceData)) (streamName : String)
    (uptime : Nat) :
    LeaseInv pb off (init pb clientInfo listener handlers streamName uptime) := by
  refine ⟨?_, Int.le_refl _, ?_, clientInv_fresh pb handlers streamName,
    .inl ⟨rfl, rfl, rfl, nofun⟩, nofun⟩
  · show (0 : Int) < uptime + 1
    omega
  · show (uptime : Int) + 1 ≤ uptime + 1 + 500
    omega

theorem LeaseInv.notEvicted (h : LeaseInv pb off y) (e : LeaseEvent) : y.NotEvicted pb off e := by
  cases e with
  | housekeeping now c =>
    intro hacc hsec x hx hk
    obtain ⟨a, ha⟩ := Option.isSome_iff_exists.1 hacc
    exact h.entry_housekeeping hsec ha hx hk
  | _ => trivial

theorem LeaseInv.registered (h : LeaseInv pb off y) (hacc : y.acceptedAt.isSome) :
    y.Registered := by
  obtain ⟨a, ha⟩ := Option.isSome_iff_exists.1 hacc
  obtain ⟨-, c, hc, hk, -⟩ := h.entry a ha
  exact ⟨c, hc, hk⟩

/-- **From its first accepted heartbeat on, no housekeeping evicts the sink**, and it is
registered in every state that is reached. -/
theorem lease_kept (pb : Protobuf) (off : Int) (clientInfo : StreamClientInfo) (listener : Bool)
    (handlers : Int32 → Option (SourceApiHandler SourceData)) (streamName : String)
    (uptime : Nat) (es : List LeaseEvent) :
    Run.Each (leaseStep pb off) (NotEvicted pb off)
        (init pb clientInfo listener handlers streamName uptime) es ∧
      ∀ y, Run.exec (leaseStep pb off)
          (init pb clientInfo listener handlers streamName uptime) es = some y →
        y.acceptedAt.isSome → y.Registered := by
  have hinit : LeaseInv pb off (init pb clientInfo listener handlers streamName uptime) :=
    leaseInv_init clientInfo listener handlers streamName uptime
  constructor
  · exact Run.each_inv (fun s e s' hs he => leaseInv_step hs he)
      (fun s e hs => hs.notEvicted e) es hinit
  · intro y hy hacc
    exact (Run.exec_inv (fun s e s' hs he => leaseInv_step hs he) hy hinit).registered hacc

/-- After an accepted heartbeat two requests are lost; housekeeping runs before the third
arrives, whose reply is lost. -/
def demoRun : List LeaseEvent :=
  [.tick false, .deliver ⟨0, by decide⟩ false, .arrive] ++
    (List.replicate 21 [LeaseEvent.advance 500, .tick true]).flatten ++
    [.advance 500, .tick false, .advance 500, .tick false, .advance 499,
      .housekeeping 0 ⟨0, ⟨12, by decide⟩, 0⟩, .deliver ⟨12, by decide⟩ true]

theorem lease_kept_demoRun :
    ∃ y, Run.exec (leaseStep wireProtobuf 0)
        (init wireProtobuf {} true (fun _ => none) "stsw" 0) demoRun = some y ∧
      y.acceptedAt = some 12000 ∧ y.Registered := by
  have hkept := lease_kept wireProtobuf 0 {} true (fun _ => none) "stsw" 0 demoRun
  have hrun : (Run.exec (leaseStep wireProtobuf 0)
      (init wireProtobuf {} true (fun _ => none) "stsw" 0) demoRun).map (·.acceptedAt) =
        some (some 12000) := by decide +kernel
  obtain ⟨y, hy, hacc⟩ := Option.map_eq_some_iff.1 hrun
  exact ⟨y, hy, hacc, hkept.2 y hy (by rw [hacc]; rfl)⟩

end LeaseSystem

end StreamSwitch
