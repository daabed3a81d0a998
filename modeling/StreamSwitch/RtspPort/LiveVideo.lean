import StreamSwitch.RtspPort.H264
import StreamSwitch.RtspPort.Interleaved
import StreamSwitch.RtspPort.SoleConsumer

/-!
# Live video over TCP

From `h264_parse` to the client: the thread that reads the resource puts the packets of a frame into
the queue of the track one by one, `rtp_write_cb` gets them, sends them and moves on, and the
callbacks of the connection go on in between. Only one part of this is atomic, what a lock protects.
What the client can put together of the packets are the NAL units of the frames.
-/

namespace StreamSwitch.LiveVideo

open Rtp RtspOutput Rtcp H264Parser
open Mp2p (MParserBuffer)

/-! ## The write callback -/

/-- What `rtp_write_cb` reads besides the buffer and the session. -/
structure Pacing where
  /-- `w->offset`, the time for which the callback was set. -/
  offset : ℚ
  playbackTime : ℚ
  endTime : ℚ
  live : Bool
  eor : Bool
  /-- `all_rtp_session_end`. -/
  allEnded : Bool
deriving DecidableEq

inductive WriteAction | bye | wait | send
deriving DecidableEq, Repr

open Binary64 in
/-- `rtp_write_cb` up to the packet: what is done with the buffer that was got. -/
def rtpWriteAction (p : Pacing) (s : RtpSession) (stopped : Bool) (buffer : Option MParserBuffer) :
    WriteAction :=
  if stopped then .bye
  else
    match buffer with
    | none => if p.eor && p.allEnded then .bye else .wait
    | some b =>
      let due := round64 (p.playbackTime + rtpScaler s (round64 (b.delivery - s.beginTime)))
      if !p.live && p.offset < due then .wait
      else if 0 < p.endTime && round64 (p.endTime + round64 (1 / 1000)) < b.timestamp then .bye
      else .send

/-- `RTCP_SR_INTERVAL`. -/
def rtcpSrInterval : UInt32 := 49

/-! ## The system -/

/-- The track of the session `i`, its queue with the consumer `c`, and the connection. -/
structure Pipeline where
  conn : Connection
  track : Track
  /-- The calls of `mparser_buffer_write` that the parser has yet to make. -/
  parsing : List MParserBuffer := []
  queue : BufferQueue MParserBuffer
  /-- The buffer that `rtp_write_cb` sends. -/
  held : Option MParserBuffer := none
  /-- `rtp_writer` is active: after a BYE it is not set again before PLAY. -/
  writing : Bool := true

structure Times where
  pts : ℚ
  dts : ℚ
  frameDuration : ℚ
deriving DecidableEq

inductive LiveEvent
  /-- `h264_parse` begins with a frame. -/
  | frame (f : Frame) (times : Times)
  /-- One call of `mparser_buffer_write`. -/
  | put
  /-- PLAY resumes the session. -/
  | resume (beginTime scale : ℚ)
  /-- `rtp_write_cb` begins: a buffer is got, and if the stream is over a BYE is sent. -/
  | get (p : Pacing) (now : Timestamps) (byeTaken : Bool)
  /-- `rtp_write_cb` goes on: the buffer is sent, now and then a report, and the consumer moves. -/
  | send (taken : Bool) (now : Timestamps) (reportTaken : Bool)
  /-- What else happens on the connection. -/
  | other (e : Event)

variable (server : Server) (i c : Nat)

def mparserBuffer (times : Times) (p : H264Parser.Payload) : MParserBuffer where
  timestamp := times.pts
  delivery := times.dts
  duration := times.frameDuration
  marker := p.marker
  data := p.data

/-- The queue behind `bq_consumer_get`, and the buffer. -/
def consumerGet (s : Pipeline) : Option (BufferQueue MParserBuffer × Option MParserBuffer) :=
  (s.queue.consumer c).bind fun x => (s.queue.consumerGet c x).toOption

def writeAction (s : Pipeline) (p : Pacing) : WriteAction :=
  match s.conn.interleaved[i]?, consumerGet c s with
  | some intlvd, some got => rtpWriteAction p intlvd.session s.queue.stopped got.2
  | _, _ => .wait

/-- Whether a report follows the packet. -/
def reportDue (conn : Connection) : Bool :=
  match conn.interleaved[i]? with
  | some intlvd => intlvd.session.pktCount % rtcpSrInterval = 1
  | none => false

/-- What the connection goes through in a step. -/
def connEvents (s : Pipeline) : LiveEvent → List Event
  | .frame _ _ | .put => []
  | .resume beginTime scale => [.rtpSessionResume i beginTime scale]
  | .get p now byeTaken =>
    if writeAction i c s p = .bye then [.rtcpSendSr i .bye now byeTaken] else []
  | .send taken now reportTaken =>
    match s.held with
    | none => []
    | some buffer =>
      let sent := Event.rtpPacketSend i buffer taken
      match step server s.conn sent with
      | none => [sent]
      | some conn => if reportDue i conn then [sent, .rtcpSendSr i .sdes now reportTaken] else [sent]
  | .other e => [e]

/-- An event that is none of the session. -/
def NotOf : Event → Prop
  | .rtpPacketSend j _ _ | .rtpSessionResume j _ _ => j ≠ i
  | _ => True

/-- A step of what is in front of the connection. -/
def trackStep (s : Pipeline) : LiveEvent → Option Pipeline
  | .frame f times =>
    if s.parsing = [] then
      match h264Parse s.track f.bytes with
      | .ok (track, payloads) => some { s with track, parsing := payloads.map (mparserBuffer times) }
      | .error _ => none
    else none
  | .put =>
    match s.parsing with
    | [] => none
    | buffer :: parsing =>
      if s.queue.consumers = 0 then some { s with parsing }
      else (s.queue.producerPut buffer).toOption.map fun queue => { s with parsing, queue }
  | .resume _ _ => some { s with writing := true }
  | .get p _ _ =>
    if s.writing then
      (consumerGet c s).map fun got =>
        match writeAction i c s p with
        | .bye => { s with queue := got.1, held := none, writing := false }
        | .wait => { s with queue := got.1, held := none }
        | .send => { s with queue := got.1, held := got.2 }
    else none
  | .send _ _ _ =>
    match s.held, s.queue.consumer c with
    | some _, some x =>
      (s.queue.consumerMove c x).toOption.map fun moved => { s with queue := moved.1, held := none }
    | _, _ => none
  | .other _ => some s

def liveStep (s : Pipeline) (e : LiveEvent) : Option Pipeline :=
  (Run.exec (step server) s.conn (connEvents server i c s e)).bind fun conn =>
    (trackStep i c s e).map fun s' => { s' with conn }

/-! ## What the client is to get -/

def framesOf (es : List LiveEvent) : List Frame :=
  es.filterMap fun e =>
    match e with
    | .frame f _ => some f
    | _ => none

/-- What a receiver makes of payloads so far: a part of a unit, and the units that are complete. -/
def collectUnits (pending : Option Bytes) : List Bytes → Option (Option Bytes × List Bytes)
  | [] => some (pending, [])
  | d :: ds =>
    (receive pending d).bind fun got =>
      (collectUnits got.1 ds).map fun rest => (rest.1, got.2 ++ rest.2)

/-- Of the payloads of whole units, any first part can be received. -/
theorem collectUnits_prefix {pending : Option Bytes} {ps : List H264Parser.Payload} {us ds : List Bytes}
    (h : depacketise pending ps = some us) (hds : ds <+: ps.map (·.data)) :
    ∃ part got, collectUnits pending ds = some (part, got) ∧ got <+: us ∧
      (ds = ps.map (·.data) → got = us ∧ part = none) := by
  induction ps generalizing pending us ds with
  | nil =>
    obtain rfl := List.prefix_nil.1 hds
    unfold depacketise at h
    split_ifs at h with hnone
    cases h
    exact ⟨pending, [], rfl, List.prefix_rfl, fun _ => ⟨rfl, hnone⟩⟩
  | cons p ps ih =>
    cases ds with
    | nil => exact ⟨pending, [], rfl, List.nil_prefix, fun hnil => by simp at hnil⟩
    | cons d ds =>
      rw [List.map_cons] at hds
      obtain ⟨rfl, hrest⟩ := List.cons_prefix_cons.1 hds
      rw [depacketise] at h
      obtain ⟨got, hgot, h⟩ := Option.bind_eq_some_iff.1 h
      obtain ⟨rest, hdep, h⟩ := Option.bind_eq_some_iff.1 h
      cases h
      obtain ⟨part, more, hcollect, hpre, hall⟩ := ih hdep hrest
      refine ⟨part, got.2 ++ more, ?_, (List.prefix_append_right_inj _).2 hpre, fun heq => ?_⟩
      · rw [collectUnits, hgot, Option.bind_some, hcollect, Option.map_some]
      · obtain ⟨rfl, hnone⟩ := hall (List.cons.inj heq).2
        exact ⟨rfl, hnone⟩

/-! ## What every step keeps -/

variable {server i c}
variable {s s' t : Pipeline} {e : LiveEvent} {es : List LiveEvent}

/-- What is parsed and not sent. -/
def Pipeline.unsent (s : Pipeline) : List MParserBuffer := s.queue.payloads ++ s.parsing

/-- The units of frames, as the packets they are sent in. -/
def packetBytes (units : List Bytes) : List Bytes := (units.flatMap packets).map (·.data)

theorem packetBytes_append (us vs : List Bytes) :
    packetBytes (us ++ vs) = packetBytes us ++ packetBytes vs := by
  simp [packetBytes]

/-- The session has the only consumer, and the buffer it sends is the first one that waits. -/
structure Ready (c : Nat) (s : Pipeline) (x : BufferQueueConsumer) : Prop where
  sole : s.queue.Sole c x
  held : ∀ b ∈ s.held, s.queue.payloads.head? = some b ∧ x.queueSerial = s.queue.queueSerial ∧
    x.currentElementObject = s.queue.head
  short : ∀ b ∈ s.unsent, b.data.length ≤ defaultMtu
  allFrames : s.track.onlyKeyFrame = false

/-- One step: what comes to the packets, and what goes to the connection. -/
structure Goes (server : Server) (i c : Nat) (s : Pipeline) (e : LiveEvent) (s' : Pipeline)
    (added : List MParserBuffer) : Prop where
  ready : ∃ x, Ready c s' x
  conn : Run.exec (step server) s.conn (connEvents server i c s e) = some s'.conn
  kept : s.unsent ++ added = buffersOf i (connEvents server i c s e) ++ s'.unsent
  added : added.map (·.data) = packetBytes (sent s.track.govStart ((framesOf [e]).flatMap Frame.units))
  govStart : s'.track.govStart =
    (s.track.govStart || ((framesOf [e]).flatMap Frame.units).any startsGov)
  fits : ∀ ev ∈ connEvents server i c s e, Fits ev

/-- A step without a frame. -/
theorem sent_nil (g : Bool) : packetBytes (sent g []) = [] := by
  cases g <;> rfl

theorem Ready.frame {x : BufferQueueConsumer} (h : Ready c s x) {f : Frame} {times : Times}
    (hstep : liveStep server i c s (.frame f times) = some s') :
    ∃ added, Goes server i c s (.frame f times) s' added := by
  obtain ⟨track, hparse, hgov, hkey⟩ := h264Parse_frame f h.allFrames
  simp only [liveStep, connEvents, Run.exec_nil, Option.bind_some, trackStep, hparse] at hstep
  split_ifs at hstep with hidle
  · cases hstep
    refine ⟨((sent s.track.govStart f.units).flatMap packets).map (mparserBuffer times),
      ⟨x, h.sole, h.held, fun b hb => ?_, hkey⟩, rfl, ?_, ?_, ?_, by simp [connEvents]⟩
    · rcases List.mem_append.1 hb with hb | hb
      · exact h.short b (List.mem_append_left _ hb)
      · obtain ⟨p, hp, rfl⟩ := List.mem_map.1 hb
        obtain ⟨u, -, hu⟩ := List.mem_flatMap.1 hp
        exact packets_length u p hu
    · simp [Pipeline.unsent, hidle, connEvents, buffersOf]
    · simp [packetBytes, framesOf, mparserBuffer, Function.comp_def]
    · simpa [framesOf] using hgov
  · simp at hstep

theorem Ready.put {x : BufferQueueConsumer} (h : Ready c s x)
    (hstep : liveStep server i c s .put = some s') : ∃ added, Goes server i c s .put s' added := by
  simp only [liveStep, connEvents, Run.exec_nil, Option.bind_some, trackStep] at hstep
  cases hparsing : s.parsing with
  | nil => simp [hparsing] at hstep
  | cons buffer parsing =>
    simp only [hparsing, h.sole.consumers, Nat.one_ne_zero, if_false] at hstep
    obtain ⟨mid, hmid, rfl⟩ := Option.map_eq_some_iff.1 hstep
    obtain ⟨queue, hqueue, rfl⟩ := Option.map_eq_some_iff.1 hmid
    have hput : s.queue.producerPut buffer = .ok queue := by
      cases hres : s.queue.producerPut buffer with
      | error fault => simp [hres, Except.toOption] at hqueue
      | ok q =>
        rw [hres] at hqueue
        cases hqueue
        rfl
    obtain ⟨hsole, hpayloads, hserial⟩ := h.sole.put hput
    have hunsent : s.unsent = queue.payloads ++ parsing := by
      simp [Pipeline.unsent, hparsing, hpayloads]
    refine ⟨[], ⟨x, hsole, fun b hb => ?_, fun b hb => h.short b (hunsent ▸ hb), h.allFrames⟩, rfl,
      ?_, (sent_nil _).symm, ?_, by simp [connEvents]⟩
    · obtain ⟨hfirst, hser, hobj⟩ := h.held b hb
      refine ⟨by rw [hpayloads, List.head?_append, hfirst]; rfl, hser.trans hserial.symm, ?_⟩
      obtain ⟨el, hel, -⟩ := Option.map_eq_some_iff.1 (List.head?_map.symm.trans hfirst)
      have hhead : s.queue.head = some el.id := by rw [BufferQueue.head, hel]; rfl
      rw [hobj, hhead]
      exact (hsole.atHead (hser.trans hserial.symm) el.id (hobj.trans hhead)).symm
    · rw [List.append_nil, hunsent]
      rfl
    · simp [framesOf]

theorem Ready.get {x : BufferQueueConsumer} (h : Ready c s x) {p : Pacing} {now : Timestamps}
    {taken : Bool} (hstep : liveStep server i c s (.get p now taken) = some s') :
    ∃ added, Goes server i c s (.get p now taken) s' added := by
  obtain ⟨q', x', hget, hsole, hpayloads, hserial, hobject⟩ := h.sole.get
  have hgot : consumerGet c s = some (q', s.queue.payloads.head?) := by
    simp [consumerGet, h.sole.consumer, hget, Except.toOption]
  obtain ⟨conn, hconn, hmid⟩ := Option.bind_eq_some_iff.1 hstep
  obtain ⟨mid, htrack, rfl⟩ := Option.map_eq_some_iff.1 hmid
  have hbuffers : buffersOf i (connEvents server i c s (.get p now taken)) = [] := by
    simp only [connEvents]
    split_ifs <;> rfl
  have hfits : ∀ ev ∈ connEvents server i c s (.get p now taken), Fits ev := by
    simp only [connEvents]
    split_ifs <;> simp [Fits]
  -- the queue is got from, and what is held is its first buffer, or nothing
  obtain ⟨hparsing, hsame, hqueue, hheld⟩ : mid.parsing = s.parsing ∧ mid.track = s.track ∧
      mid.queue = q' ∧ ∀ b ∈ mid.held, s.queue.payloads.head? = some b := by
    simp only [trackStep, hgot, Option.map_some] at htrack
    split_ifs at htrack
    cases htrack
    cases writeAction i c s p
    · exact ⟨rfl, rfl, rfl, by simp⟩
    · exact ⟨rfl, rfl, rfl, by simp⟩
    · exact ⟨rfl, rfl, rfl, fun b hb => hb⟩
  have hunsent : Pipeline.unsent { mid with conn } = s.unsent := by
    simp [Pipeline.unsent, hparsing, hqueue, hpayloads]
  refine ⟨[], ⟨x', hqueue ▸ hsole, fun b hb => ?_, fun b hb => h.short b (hunsent ▸ hb),
    hsame ▸ h.allFrames⟩, hconn, ?_, (sent_nil _).symm, ?_, hfits⟩
  · refine ⟨?_, ?_, ?_⟩
    · exact (congrArg (·.head?) (hqueue ▸ hpayloads)).trans (hheld b hb)
    · exact hqueue ▸ hserial
    · exact hqueue ▸ hobject
  · rw [hbuffers, hunsent, List.append_nil, List.nil_append]
  · simp [framesOf, hsame]

theorem Ready.send {x : BufferQueueConsumer} (h : Ready c s x) {taken reportTaken : Bool}
    {now : Timestamps} (hstep : liveStep server i c s (.send taken now reportTaken) = some s') :
    ∃ added, Goes server i c s (.send taken now reportTaken) s' added := by
  obtain ⟨conn, hconn, hmid⟩ := Option.bind_eq_some_iff.1 hstep
  obtain ⟨mid, htrack, rfl⟩ := Option.map_eq_some_iff.1 hmid
  cases hheld : s.held with
  | none => simp [trackStep, hheld] at htrack
  | some b =>
    obtain ⟨hfirst, hserial, hobject⟩ := h.held b hheld
    have hne : s.queue.payloads ≠ [] := fun hnil => by simp [hnil] at hfirst
    obtain ⟨q', x', moved, hmove, hsole, hpayloads⟩ := h.sole.move hserial hobject hne
    simp only [trackStep, hheld, h.sole.consumer, hmove, Except.toOption, Option.map_some,
      Option.some.injEq] at htrack
    subst htrack
    have hsplit : s.queue.payloads = b :: q'.payloads := by
      rw [hpayloads]
      exact (List.cons_head?_tail hfirst).symm
    have hunsent : s.unsent = b :: (q'.payloads ++ s.parsing) := by
      simp [Pipeline.unsent, hsplit]
    have hevents : buffersOf i (connEvents server i c s (.send taken now reportTaken)) = [b] ∧
        ∀ ev ∈ connEvents server i c s (.send taken now reportTaken), Fits ev := by
      have hb := h.short b (hunsent ▸ List.mem_cons_self)
      have hfits : 12 + b.data.length < 65536 := by
        unfold defaultMtu at hb
        omega
      simp only [connEvents, hheld]
      split
      · simp [buffersOf, Fits, hfits]
      · split_ifs <;> simp [buffersOf, Fits, hfits]
    refine ⟨[], ⟨x', hsole, by simp, fun b' hb' => h.short b' ?_, h.allFrames⟩, hconn, ?_,
      (sent_nil _).symm, by simp [framesOf], hevents.2⟩
    · rw [hunsent]
      exact List.mem_cons_of_mem b hb'
    · rw [hevents.1, hunsent, List.append_nil]
      rfl

/-- **One step**, of whatever thread. -/
theorem Ready.goes {x : BufferQueueConsumer} (h : Ready c s x)
    (hother : ∀ ev, e = .other ev → NotOf i ev ∧ Fits ev) (hstep : liveStep server i c s e = some s') :
    ∃ added, Goes server i c s e s' added := by
  cases e with
  | frame f times => exact h.frame hstep
  | put => exact h.put hstep
  | resume beginTime scale =>
    obtain ⟨conn, hconn, hmid⟩ := Option.bind_eq_some_iff.1 hstep
    obtain ⟨mid, htrack, rfl⟩ := Option.map_eq_some_iff.1 hmid
    cases htrack
    refine ⟨[], ⟨x, h.sole, h.held, h.short, h.allFrames⟩, hconn, ?_, (sent_nil _).symm,
      by simp [framesOf], by simp [connEvents, Fits]⟩
    simp [connEvents, buffersOf, Pipeline.unsent]
  | get p now taken => exact h.get hstep
  | send taken now reportTaken => exact h.send hstep
  | other ev =>
    obtain ⟨hnot, hfits⟩ := hother ev rfl
    obtain ⟨conn, hconn, hmid⟩ := Option.bind_eq_some_iff.1 hstep
    obtain ⟨mid, htrack, rfl⟩ := Option.map_eq_some_iff.1 hmid
    cases htrack
    have hbuffers : buffersOf i [ev] = [] := by
      cases ev with
      | rtpPacketSend j buffer taken => simp [buffersOf, show j ≠ i from hnot]
      | _ => rfl
    refine ⟨[], ⟨x, h.sole, h.held, h.short, h.allFrames⟩, hconn, ?_, (sent_nil _).symm,
      by simp [framesOf], by simpa [connEvents] using hfits⟩
    rw [show connEvents server i c s (.other ev) = [ev] from rfl, hbuffers, List.append_nil]
    rfl

/-! ## Runs -/

/-- What the connection goes through. -/
def connRun (server : Server) (i c : Nat) (s : Pipeline) (es : List LiveEvent) : List Event :=
  Run.collect (liveStep server i c) (connEvents server i c) s es

/-- **A whole run**: the packets of the frames go to the connection in order, or still wait. -/
theorem Ready.run {x : BufferQueueConsumer} (h : Ready c s x)
    (hother : ∀ ev, .other ev ∈ es → NotOf i ev ∧ Fits ev)
    (hrun : Run.exec (liveStep server i c) s es = some t) :
    Run.exec (step server) s.conn (connRun server i c s es) = some t.conn ∧
      (∀ ev ∈ connRun server i c s es, Fits ev) ∧
      s.unsent.map (·.data) ++ packetBytes (sent s.track.govStart ((framesOf es).flatMap Frame.units)) =
        (buffersOf i (connRun server i c s es)).map (·.data) ++ t.unsent.map (·.data) := by
  induction es generalizing s x with
  | nil =>
    cases hrun
    refine ⟨rfl, fun _ h => absurd h List.not_mem_nil, ?_⟩
    have hnone := sent_nil t.track.govStart
    simp [connRun, Run.collect, buffersOf, framesOf, hnone]
  | cons e es ih =>
    obtain ⟨s', hstep, hrest⟩ := Run.exec_cons_some.1 hrun
    obtain ⟨added, hgoes⟩ := h.goes (fun ev hev => hother ev (hev ▸ List.mem_cons_self)) hstep
    obtain ⟨x', hready⟩ := hgoes.ready
    obtain ⟨hconn, hfits, hkept⟩ := ih hready (fun ev hev => hother ev (List.mem_cons_of_mem e hev)) hrest
    have hcollect : connRun server i c s (e :: es) =
        connEvents server i c s e ++ connRun server i c s' es := by
      simp [connRun, Run.collect, hstep]
    have hframes : framesOf (e :: es) = framesOf [e] ++ framesOf es :=
      List.filterMap_append (l := [e])
    rw [hcollect]
    refine ⟨?_, fun ev hev => ?_, ?_⟩
    · rw [Run.exec_append, hgoes.conn]
      exact hconn
    · rcases List.mem_append.1 hev with hev | hev
      · exact hgoes.fits ev hev
      · exact hfits ev hev
    · have hdata := congrArg (List.map (·.data)) hgoes.kept
      rw [List.map_append, List.map_append, hgoes.added] at hdata
      rw [hframes, List.flatMap_append, sent_append, packetBytes_append, ← List.append_assoc, hdata,
        buffersOf_append, List.map_append, List.append_assoc, List.append_assoc, ← hgoes.govStart,
        hkept]

/-- What the client finds in the packets on a channel. -/
def payloadsOn (channel : UInt8) (ms : List Message) : List Bytes :=
  (packetsOn channel ms).filterMap fun d => (Rfc3550.data d).map (·.payload)

theorem payloadsOn_eq (channel : UInt8) (ms : List Message) :
    payloadsOn channel ms =
      ((packetsOn channel ms).map Rfc3550.data).filterMap fun d => d.map (·.payload) := by
  rw [List.filterMap_map]
  rfl

theorem payloads_some (packets : List Rfc3550.Data) :
    (packets.map some).filterMap (fun d => d.map (·.payload)) = packets.map (·.payload) := by
  rw [List.filterMap_map]
  exact congrFun List.filterMap_eq_map packets

/-- Nothing is on its way. -/
structure Drained (i : Nat) (t : Pipeline) : Prop where
  unsent : t.unsent = []
  outQueue : t.conn.outQueue = []
  waiting : ∀ y, t.conn.interleaved[i]? = some y → y.rtp.waiting = []

/-- **From the parser to the client**: whatever the threads and callbacks do in turn, where no write
fails the client puts together the NAL units of the frames, in order and from the first SPS or IDR
picture on, and has all of them once nothing is on its way. -/
theorem units_received {intlvd : Interleaved} {x : BufferQueueConsumer} (hserver : server.host.Ok)
    (hreason : ∀ n, 10 ∉ server.reasonPhrase n) (hfresh : Fresh s.conn)
    (hapart : Apart t.conn.channels) (hsession : t.conn.interleaved[i]? = some intlvd)
    (hready : Ready c s x) (hidle : s.unsent = [])
    (hother : ∀ ev, .other ev ∈ es → NotOf i ev ∧ Fits ev)
    (htypes : ∀ u ∈ sent s.track.govStart ((framesOf es).flatMap Frame.units), SingleType u)
    (hint : ∀ u ∈ sent s.track.govStart ((framesOf es).flatMap Frame.units), u.length < 2 ^ 31)
    (hrun : Run.exec (liveStep server i c) s es = some t)
    (hloss : Run.Each (step server) NoLoss s.conn (connRun server i c s es)) :
    ∃ part units,
      collectUnits none (payloadsOn intlvd.rtp.id (rtspCode.messages t.conn.wire).1) =
        some (part, units) ∧
      units <+: sent s.track.govStart ((framesOf es).flatMap Frame.units) ∧
      (Drained i t →
        units = sent s.track.govStart ((framesOf es).flatMap Frame.units) ∧ part = none) := by
  obtain ⟨hconn, hfits, hkept⟩ := hready.run hother hrun
  rw [hidle, List.map_nil, List.nil_append] at hkept
  have hstart : Along server s.conn [] True s.conn [] [] [] := .start hfresh
  obtain ⟨ms, queued, part, halong⟩ := along_run hserver hreason hapart hstart hfits hconn
    fun _ : True => ⟨trivial, hloss⟩
  have hall := halong.receivedAll
  have hpayloads := (halong.received.numbered i intlvd hsession).payloads
  rw [halong.messages]
  -- the client has a first part of what was sent, which is a first part of the packets
  have hsent := (hall.packets i intlvd hsession).filterMap fun d => d.map (·.payload)
  rw [← payloadsOn_eq, payloads_some, hpayloads] at hsent
  have hpackets : (buffersOf i (connRun server i c s es)).map (·.data) <+:
      packetBytes (sent s.track.govStart ((framesOf es).flatMap Frame.units)) := ⟨_, hkept.symm⟩
  have hfilled : ∀ u ∈ sent s.track.govStart ((framesOf es).flatMap Frame.units), u ≠ [] := by
    intro u hu
    obtain ⟨f, -, hf⟩ := List.mem_flatMap.1 (mem_of_sent hu)
    exact f.unit_ne_nil u hf
  have hdep := depacketise_flatMap hfilled htypes hint
  obtain ⟨rest, units, hcollect, hprefix, hdone⟩ := collectUnits_prefix hdep (hsent.trans hpackets)
  refine ⟨rest, units, hcollect, hprefix, fun hdrained => hdone ?_⟩
  have hequal := hall.packetsDone i intlvd hsession hdrained.outQueue
    (hdrained.waiting intlvd hsession)
  rw [payloadsOn_eq, hequal, payloads_some, hpayloads]
  rw [hdrained.unsent, List.map_nil, List.append_nil] at hkept
  exact hkept.symm

/-! ## A camera -/

/-- The connection is new, and the queue of the track has been made. -/
def camera : Pipeline where
  conn := { interleaved := [] }
  track := {}
  queue := { consumers := 1, queueSerial := 1, registered := [some {}] }
  writing := false

/-- The camera is set up and played, a frame is parsed, and its first packet is sent with a report
behind it and is on the connection. -/
def cameraLive : List LiveEvent :=
  [.other (.setup ⟨0, 0, 7, 90000, 96, 1⟩ none 0 1), .resume 0 1,
    .frame (spsFrame 0x65) ⟨0, 0, 0⟩, .put,
    .get { offset := 0, playbackTime := 0, endTime := 0, live := true, eor := false,
           allEnded := false } ⟨0, 0, 0⟩ true,
    .send true ⟨0, 0, 0⟩ true, .other (.readRtp 0), .other (.writeCb [18])]

theorem camera_ready : Ready 0 camera {} where
  sole := ⟨rfl, rfl, rfl, rfl, by simp, by simp [camera], by simp [camera], by simp [camera]⟩
  held := by simp [camera]
  short := by simp [Pipeline.unsent, BufferQueue.payloads, camera]
  allFrames := rfl

theorem units_received_camera :
    ∃ t part units, Run.exec (liveStep plainServer 0 0) camera cameraLive = some t ∧
      collectUnits none (payloadsOn 0 (rtspCode.messages t.conn.wire).1) = some (part, units) ∧
      units <+: [[0x67, 0x42], [0x65, 0x81]] := by
  obtain ⟨t, ht, hmap⟩ := Option.map_eq_some_iff.1
    (show (Run.exec (liveStep plainServer 0 0) camera cameraLive).map
      (fun t => (t.conn.channels, (t.conn.interleaved[0]?).map (·.rtp.id))) =
        some ([(0, 1)], some 0) by rfl)
  obtain ⟨hchannels, hid⟩ := Prod.mk.inj hmap
  obtain ⟨intlvd, hsession, hintlvd⟩ := Option.map_eq_some_iff.1 hid
  have hphrase : 10 ∉ RtspInput.ascii "OK" := by decide
  have hhost : plainServer.host.Ok := ⟨by decide, by decide⟩
  have hapart : Apart t.conn.channels := hchannels ▸ apart_singleton (by decide)
  obtain ⟨part, units, hcollect, hunits, -⟩ := units_received (i := 0) (c := 0) (s := camera)
    hhost (fun _ => hphrase) ⟨rfl, rfl, rfl, by simp [camera]⟩ hapart hsession camera_ready rfl
    (fun ev hev => by
      simp only [cameraLive, List.mem_cons, reduceCtorEq, false_or, LiveEvent.other.injEq,
        List.not_mem_nil, or_false] at hev
      rcases hev with rfl | rfl | rfl <;> exact ⟨trivial, trivial⟩)
    (List.forall_mem_cons.2 ⟨fun _ => by decide, List.forall_mem_singleton.2 fun _ => by decide⟩)
    (List.forall_mem_cons.2 ⟨by decide, List.forall_mem_singleton.2 (by decide)⟩) ht
    (.cons rfl trivial (.cons rfl trivial (.cons rfl rfl (.cons rfl rfl (.cons rfl trivial
      (.cons rfl rfl trivial))))))
  exact ⟨t, part, units, ht, hintlvd ▸ hcollect, hunits⟩

end StreamSwitch.LiveVideo
