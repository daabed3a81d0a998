import StreamSwitch.Lib.Lossy
import StreamSwitch.Lib.Run
import StreamSwitch.RtspPort.Answers
import StreamSwitch.RtspPort.RtpSession

/-!
# Interleaved RTSP connections

`network/rtsp_interleaved.c` and `rtsp_write_cb`: over TCP, the packets of every RTP session go
through socket pairs to the connection, where they wait in one queue with the responses. The
callbacks of the event loop come in any order, and so do sessions that are set up and resumed. What
`Sock_write` returns is compared as an unsigned number: a write that fails loses its packet, and one
that is cut short ends the process.
-/

namespace StreamSwitch.RtspOutput

open RtspInput Rtp Rtcp
open Mp2p (MParserBuffer)

/-! ## The connection -/

/-- `RTSP_interleaved_channel`, with the datagrams that wait in its socket pair. -/
structure InterleavedChannel where
  channel : Int
  waiting : List Bytes := []
deriving DecidableEq

/-- The channel as it is written on the connection. -/
def InterleavedChannel.id (ch : InterleavedChannel) : UInt8 := UInt8.ofInt ch.channel

/-- The session side of a socket pair is written to. -/
def InterleavedChannel.write (ch : InterleavedChannel) (datagram : Bytes) (taken : Bool) :
    InterleavedChannel :=
  if taken then { ch with waiting := ch.waiting ++ [datagram] } else ch

/-- `RTSP_interleaved` and its RTP session. -/
structure Interleaved where
  session : RtpSession
  localHost : Option HostName
  isBye : Bool := false
  rtp : InterleavedChannel
  rtcp : InterleavedChannel

/-- `RTSP_Client`; `outQueue` begins at its tail. -/
structure Connection where
  interleaved : List Interleaved
  outQueue : List Bytes := []
  wire : Bytes := []
  exited : Bool := false

/-- What the server says of itself, and the phrases of `rtsp_reason_phrase`. -/
structure Server where
  host : Host
  reasonPhrase : Nat → Bytes

inductive Event
  /-- What SETUP does for the connection before it answers 200. -/
  | setup (r : SessionStart) (localHost : Option HostName) (rtpCh rtcpCh : Int)
  /-- What PLAY does for each session before it answers. -/
  | rtpSessionResume (i : Nat) (beginTime scale : ℚ)
  | rtpPacketSend (i : Nat) (buffer : MParserBuffer) (taken : Bool)
  | rtcpSendSr (i : Nat) (type : RtcpPktType) (now : Timestamps) (taken : Bool)
  | readRtp (i : Nat)
  | readRtcp (i : Nat)
  | respond (memory : Bytes) (a : Answer)
  /-- The values that `Sock_write` returns, packet after packet. -/
  | writeCb (results : List Int)

def Connection.push (c : Connection) (pkt : Bytes) : Connection :=
  { c with outQueue := c.outQueue ++ [pkt] }

def Connection.setInterleaved (c : Connection) (i : Nat) (intlvd : Interleaved) : Connection :=
  { c with interleaved := c.interleaved.set i intlvd }

/-- `interleaved_setup_transport`, and `rtp_session_new` for the transport. -/
def interleavedSetupTransport (session : RtpSession) (localHost : Option HostName)
    (rtpCh rtcpCh : Int) : Interleaved where
  session := session
  localHost := localHost
  rtp := { channel := rtpCh }
  rtcp := { channel := rtcpCh }

def Interleaved.resume (intlvd : Interleaved) (beginTime scale : ℚ) : Interleaved :=
  { intlvd with session := rtpSessionResume intlvd.session beginTime scale, isBye := false }

/-- `interleaved_read_tcp_cb`: the channel and the packet. -/
def interleavedReadTcpCb (ch : InterleavedChannel) : Option (InterleavedChannel × Bytes) :=
  match ch.waiting with
  | [] => none
  | datagram :: waiting =>
    let buffer := datagram.take rtspBufferSize
    some ({ ch with waiting },
      36 :: ch.id :: (memory16 (htons (UInt16.ofNat buffer.length)) ++ buffer))

/-- An `int` where a `guint` is expected. -/
def asGuint (n : Int) : Nat := (n % 4294967296).toNat

/-- The loop of `rtsp_write_cb`: what stays in the queue, what is on the connection, and whether the
process has exited. -/
def writeLoop : (queue : List Bytes) → (results : List Int) → (wire : Bytes) →
    Option (List Bytes × Bytes × Bool)
  | [], [], wire => some ([], wire, false)
  | outpkt :: queue, n :: results, wire =>
    if -1 ≤ n ∧ n ≤ outpkt.length ∧ n < 2147483648 then
      let wire := wire ++ outpkt.take n.toNat
      if asGuint n < outpkt.length then
        if results = [] then some (queue, wire, true) else none
      else writeLoop queue results wire
    else none
  | _, _, _ => none

/-- The counters that a report is made of. -/
def Interleaved.report (intlvd : Interleaved) : Session where
  ssrc := intlvd.session.ssrc
  pktCount := intlvd.session.pktCount
  octetCount := intlvd.session.octetCount
  localHost := intlvd.localHost
  isBye := intlvd.isBye

def step (server : Server) (c : Connection) (e : Event) : Option Connection :=
  if c.exited then none
  else
    match e with
    | .setup r localHost rtpCh rtcpCh =>
      let intlvd := interleavedSetupTransport (rtpSessionNew r) localHost rtpCh rtcpCh
      some { c with interleaved := c.interleaved ++ [intlvd] }
    | .rtpSessionResume i beginTime scale =>
      c.interleaved[i]?.map fun intlvd => c.setInterleaved i (intlvd.resume beginTime scale)
    | .rtpPacketSend i buffer taken =>
      c.interleaved[i]?.map fun intlvd =>
        let sent := rtpPacketSend intlvd.session buffer taken
        c.setInterleaved i { intlvd with session := sent.1, rtp := intlvd.rtp.write sent.2 taken }
    | .rtcpSendSr i type now taken =>
      c.interleaved[i]?.bind fun intlvd =>
        (rtcpSendSr type intlvd.report now).map fun sent =>
          c.setInterleaved i
            { intlvd with isBye := sent.1.isBye, rtcp := intlvd.rtcp.write sent.2 taken }
    | .readRtp i =>
      c.interleaved[i]?.bind fun intlvd =>
        (interleavedReadTcpCb intlvd.rtp).map fun read =>
          (c.setInterleaved i { intlvd with rtp := read.1 }).push read.2
    | .readRtcp i =>
      c.interleaved[i]?.bind fun intlvd =>
        (interleavedReadTcpCb intlvd.rtcp).map fun read =>
          (c.setInterleaved i { intlvd with rtcp := read.1 }).push read.2
    | .respond memory a =>
      some (c.push (rtspResponseSend server.reasonPhrase (RtspOutput.respond server.host memory a)))
    | .writeCb results =>
      (writeLoop c.outQueue results c.wire).map fun written =>
        { c with outQueue := written.1, wire := written.2.1, exited := written.2.2 }

/-! ## What was to be sent -/

/-- The buffers that `rtp_packet_send` was called with for the session `i`. -/
def buffersOf (i : Nat) (es : List Event) : List MParserBuffer :=
  es.filterMap fun e =>
    match e with
    | .rtpPacketSend j buffer _ => if j = i then some buffer else none
    | _ => none

/-- The packet that the session `i` makes in a step, as a receiver is to read it. -/
def packetMade (i : Nat) (c : Connection) : Event → List Rfc3550.Data
  | .rtpPacketSend j buffer _ =>
    if j = i then (c.interleaved[i]?.map fun intlvd => intlvd.session.packetData buffer).toList
    else []
  | _ => []

def packetsMade (server : Server) (i : Nat) (c : Connection) (es : List Event) : List Rfc3550.Data :=
  Run.collect (step server) (packetMade i) c es

/-- The responses, as messages. -/
def answersOf (server : Server) (es : List Event) : List Message :=
  es.filterMap fun e =>
    match e with
    | .respond memory a =>
      some ((RtspOutput.respond server.host memory a).message server.reasonPhrase)
    | _ => none

def Message.isText : Message → Bool
  | .text _ _ => true
  | .frame _ _ => false

/-- The packet of a channel. -/
def Message.onChannel (channel : UInt8) : Message → Option Bytes
  | .frame ch data => if ch = channel then some data else none
  | .text _ _ => none

def packetsOn (channel : UInt8) (ms : List Message) : List Bytes := ms.filterMap (·.onChannel channel)

def textsOf (ms : List Message) : List Message := ms.filter (·.isText)

/-- A step that loses nothing. -/
def NoLoss (c : Connection) : Event → Prop
  | .rtpPacketSend _ _ taken | .rtcpSendSr _ _ _ taken => taken = true
  | .writeCb results => results = c.outQueue.map fun pkt => (pkt.length : Int)
  | _ => True

/-- A packet that fits the length field in front of it. -/
def Fits : Event → Prop
  | .rtpPacketSend _ buffer _ => 12 + buffer.data.length < 65536
  | _ => True

/-- A connection on which nothing has been sent. -/
structure Fresh (c : Connection) : Prop where
  outQueue : c.outQueue = []
  wire : c.wire = []
  exited : c.exited = false
  waiting : ∀ intlvd ∈ c.interleaved, intlvd.rtp.waiting = [] ∧ intlvd.rtcp.waiting = []

/-- The channels of the sessions, RTP and RTCP. -/
def Connection.channels (c : Connection) : List (UInt8 × UInt8) :=
  c.interleaved.map fun intlvd => (intlvd.rtp.id, intlvd.rtcp.id)

/-- No session sends on the RTP channel of another one, nor reports on one. -/
structure Apart (channels : List (UInt8 × UInt8)) : Prop where
  rtp : (channels.map (·.1)).Nodup
  rtcp : ∀ x ∈ channels, ∀ y ∈ channels, x.2 ≠ y.1

/-! ## The parts of a step -/

theorem memory16_length {n : Nat} (h : n < 65536) :
    memory16 (htons (UInt16.ofNat n)) = [UInt8.ofNat (n / 256), UInt8.ofNat (n % 256)] := by
  have hn : (UInt16.ofNat n).toNat = n := by
    rw [UInt16.toNat_ofNat']
    omega
  have hlow : UInt8.ofNat n = UInt8.ofNat (n % 256) := UInt8.toNat_inj.1 (by
    rw [UInt8.toNat_ofNat', UInt8.toNat_ofNat']
    omega)
  rw [memory16_htons, hn, ← hlow]
  rfl

/-- The packet in front of the socket pair is a frame of the channel. -/
theorem interleavedReadTcpCb_frame {ch : InterleavedChannel} {datagram : Bytes}
    {waiting : List Bytes} (hwaiting : ch.waiting = datagram :: waiting)
    (hfits : datagram.length < 65536) :
    interleavedReadTcpCb ch =
      some ({ ch with waiting }, (Message.frame ch.id datagram).bytes) := by
  have htake : datagram.take rtspBufferSize = datagram :=
    List.take_of_length_le (Nat.le_of_lt (Nat.lt_of_lt_of_le hfits (by decide)))
  simp only [interleavedReadTcpCb, hwaiting, htake, memory16_length hfits]
  rfl

theorem id_interleavedReadTcpCb {ch : InterleavedChannel} {read : InterleavedChannel × Bytes}
    (h : interleavedReadTcpCb ch = some read) : read.1.id = ch.id := by
  unfold interleavedReadTcpCb at h
  split at h
  · cases h
  · cases h
    rfl

theorem asGuint_of_nonneg {n : Int} (h : 0 ≤ n) (hint : n < 2147483648) : asGuint n = n.toNat := by
  unfold asGuint
  omega

variable {queued : List Message} {queue : List Bytes} {results : List Int} {wire : Bytes}

/-- What the loop makes of the messages in the queue. -/
structure Wrote (queued : List Message) (results : List Int) (wire : Bytes) (queue : List Bytes)
    (wire' : Bytes) (exited : Bool) (written rest : List Message) (part : Bytes) : Prop where
  wire : wire' = wire ++ (rtspCode.writeAll written ++ part)
  queue : queue = rest.map (·.bytes)
  kept : Within (results = queued.map fun m => (m.bytes.length : Int)) (written ++ rest) queued
  unfinished : rtspCode.Unfinished part
  whole : exited = false → part = [] ∧ rest = []

theorem Wrote.first {m : Message} {n : Int} {wire' : Bytes} {exited : Bool}
    {written rest : List Message} {part : Bytes}
    (h : Wrote queued results (wire ++ m.bytes) queue wire' exited written rest part) :
    Wrote (m :: queued) (n :: results) wire queue wire' exited (m :: written) rest part := by
  refine ⟨?_, h.queue, ⟨h.kept.1.cons_cons m, fun heq => ?_⟩, h.unfinished, h.whole⟩
  · rw [h.wire, StreamCode.writeAll_cons]
    simp [rtspCode]
  · rw [List.cons_append, h.kept.2 (List.cons.inj heq).2]

theorem Wrote.skip {m : Message} {n : Int} {wire' : Bytes} {exited : Bool}
    {written rest : List Message} {part : Bytes} (hn : n ≠ m.bytes.length)
    (h : Wrote queued results wire queue wire' exited written rest part) :
    Wrote (m :: queued) (n :: results) wire queue wire' exited written rest part :=
  ⟨h.wire, h.queue, ⟨h.kept.1.cons m, fun heq => absurd (List.cons.inj heq).1 hn⟩, h.unfinished, h.whole⟩

/-- By induction on the queue: each packet is written, lost, or the last one, of which a part is
written. -/
theorem writeLoop_wrote {queue' : List Bytes} {wire' : Bytes} {exited : Bool}
    (hvalid : ∀ m ∈ queued, m.Valid)
    (h : writeLoop (queued.map (·.bytes)) results wire = some (queue', wire', exited)) :
    ∃ written rest part, Wrote queued results wire queue' wire' exited written rest part := by
  induction queued generalizing results wire with
  | nil =>
    cases results with
    | cons n results => cases h
    | nil =>
      cases h
      exact ⟨[], [], [], by simp, rfl, Within.refl _ _, .inl rfl, fun _ => ⟨rfl, rfl⟩⟩
  | cons m queued ih =>
    cases results with
    | nil => cases h
    | cons n results =>
      rw [List.map_cons, writeLoop] at h
      split_ifs at h with hn hshort hlast
      · -- the process exits behind what was written of the packet
        cases h
        have hlt : n ≠ m.bytes.length := by
          rintro rfl
          rw [asGuint_of_nonneg (Int.natCast_nonneg _) hn.2.2] at hshort
          exact absurd hshort (by simp)
        refine ⟨[], queued, m.bytes.take n.toNat, ⟨by simp, rfl, ⟨by simp, fun heq => ?_⟩, ?_,
          by simp⟩⟩
        · exact absurd (List.cons.inj heq).1 hlt
        · refine .inr ⟨m, hvalid m List.mem_cons_self, List.take_prefix _ _, fun heq => hlt ?_⟩
          have hlen := congrArg List.length heq
          have hpos : 0 < m.bytes.length := List.length_pos_iff.2 (rtspCode.write_ne_nil m)
          change (m.bytes.take n.toNat).length = m.bytes.length at hlen
          rw [List.length_take] at hlen
          omega
      · obtain ⟨written, rest, part, hw⟩ :=
          ih (fun m' hm' => hvalid m' (List.mem_cons_of_mem m hm')) h
        by_cases hall : n = m.bytes.length
        · refine ⟨m :: written, rest, part, Wrote.first ?_⟩
          rwa [hall, Int.toNat_natCast, List.take_length] at hw
        · -- nothing was written, and the packet is gone
          have hneg : n = -1 := by
            by_contra hne
            have hpos : 0 ≤ n := by omega
            rw [asGuint_of_nonneg hpos hn.2.2] at hshort
            omega
          rw [hneg, show (-1 : Int).toNat = 0 from rfl, List.take_zero, List.append_nil] at hw
          exact ⟨written, rest, part, hw.skip hall⟩

theorem length_rtcpSendSr {type : RtcpPktType} {r r' : Session} {now : Timestamps} {packet : Bytes}
    (h : rtcpSendSr type r now = some (r', packet)) : packet.length < 65536 := by
  cases type
  case sdes =>
    cases h
    have hname := r.length_name_le
    have hpadding : paddingOf (38 + r.name.length) ≤ 4 := by
      unfold paddingOf
      split <;> omega
    simp only [rtcpPktSrSdes_eq, hdr, RtcpHeader.memory, memory16, length_rtcpSetSr,
      length_memory32, List.length_append, List.length_cons, List.length_nil, List.length_replicate]
    omega
  case bye =>
    cases h
    simp only [rtcpPktSrBye, overlay_eq, RtcpSRCompound.memory, Payload.memory, RtcpHeaderBYE.memory,
      length_rtcpSetSr, RtcpHeader.memory, memory16, length_memory32,
      List.length_append, List.length_cons, List.length_nil, List.length_replicate]
    decide
  all_goals cases h

/-! ## What every step keeps -/

variable {server : Server} {c t t' : Connection} {es : List Event} {e : Event} {ok ok' : Prop}
  {ms ms' : List Message} {y : Interleaved} {buffers : List MParserBuffer}
  {made : List Rfc3550.Data}

/-- A session behind the buffers, of which it has made the packets `made`, where `ms` is on the
connection and in the queue. -/
structure Lane (ok : Prop) (buffers : List MParserBuffer) (made : List Rfc3550.Data)
    (ms : List Message) (y : Interleaved) : Prop where
  numbered : Made y.session buffers made
  packets : Within ok ((packetsOn y.rtp.id ms ++ y.rtp.waiting).map Rfc3550.data) (made.map some)
  rtpFits : ∀ d ∈ y.rtp.waiting, d.length < 65536
  rtcpFits : ∀ d ∈ y.rtcp.waiting, d.length < 65536

theorem packetsOn_append (channel : UInt8) (ms ms' : List Message) :
    packetsOn channel (ms ++ ms') = packetsOn channel ms ++ packetsOn channel ms' :=
  List.filterMap_append

theorem packetsOn_eq_nil {channel : UInt8} (h : ∀ data, .frame channel data ∉ ms) :
    packetsOn channel ms = [] := by
  refine List.filterMap_eq_nil_iff.2 fun m hm => ?_
  cases m with
  | text lines body => rfl
  | frame ch data =>
    refine if_neg ?_
    rintro rfl
    exact h data hm

theorem Lane.mono (h : Lane ok buffers made ms y) (hok : ok' → ok) : Lane ok' buffers made ms y :=
  { h with packets := h.packets.mono hok }

/-- Messages are lost. -/
theorem Lane.lose (h : Lane ok buffers made ms y) (hms : Within ok' ms' ms) (hok : ok' → ok) :
    Lane ok' buffers made ms' y := by
  have hpackets := (hms.filterMap (·.onChannel y.rtp.id)).concat y.rtp.waiting
  exact { h with packets := (hpackets.map Rfc3550.data).trans (h.packets.mono hok) id }

/-- A message that is not of the channel. -/
theorem Lane.other (h : Lane ok buffers made ms y) {m : Message} (hm : m.onChannel y.rtp.id = none) :
    Lane ok buffers made (ms ++ [m]) y := by
  have hpackets : packetsOn y.rtp.id (ms ++ [m]) = packetsOn y.rtp.id ms := by
    simp [packetsOn, hm]
  exact { h with packets := hpackets ▸ h.packets }

theorem InterleavedChannel.id_write (ch : InterleavedChannel) (datagram : Bytes) (taken : Bool) :
    (ch.write datagram taken).id = ch.id := by
  cases taken <;> rfl

theorem InterleavedChannel.fits_write {ch : InterleavedChannel} (h : ∀ d ∈ ch.waiting, d.length < 65536)
    {datagram : Bytes} (hfits : datagram.length < 65536) (taken : Bool) :
    ∀ d ∈ (ch.write datagram taken).waiting, d.length < 65536 := by
  cases taken with
  | false => exact h
  | true =>
    intro d hd
    rcases List.mem_append.1 hd with hd | hd
    · exact h d hd
    · exact List.mem_singleton.1 hd ▸ hfits

theorem Lane.send (h : Lane ok buffers made ms y) {buffer : MParserBuffer}
    (hfits : 12 + buffer.data.length < 65536) {taken : Bool} (hok : ok' → ok ∧ taken = true) :
    Lane ok' (buffers ++ [buffer]) (made ++ [y.session.packetData buffer]) ms
      { y with
        session := (rtpPacketSend y.session buffer taken).1
        rtp := y.rtp.write (rtpPacketSend y.session buffer taken).2 taken } := by
  have hdata := rtpPacketSend_data y.session buffer taken
  have hmade : (made ++ [y.session.packetData buffer]).map some =
      made.map some ++ [some (y.session.packetData buffer)] := List.map_append
  refine ⟨h.numbered.send buffer taken, ?_, ?_, h.rtcpFits⟩
  · rw [hmade]
    cases taken with
    | false => exact h.packets.lost _ fun hgood => Bool.false_ne_true (hok hgood).2
    | true =>
      have hmore := (h.packets.mono fun hgood => (hok hgood).1).concat
        [some (y.session.packetData buffer)]
      nth_rewrite 1 [← hdata] at hmore
      rw [← List.map_singleton, ← List.map_append, List.append_assoc] at hmore
      exact hmore
  · exact InterleavedChannel.fits_write h.rtpFits (by rw [length_rtpPacketSend]; exact hfits) taken

/-- The first datagram goes from the socket pair to the queue. -/
theorem Lane.read (h : Lane ok buffers made ms y) {datagram : Bytes} {waiting : List Bytes}
    (hwaiting : y.rtp.waiting = datagram :: waiting) :
    Lane ok buffers made (ms ++ [.frame y.rtp.id datagram])
      { y with rtp := { y.rtp with waiting } } := by
  have hpackets : packetsOn y.rtp.id (ms ++ [.frame y.rtp.id datagram]) ++ waiting =
      packetsOn y.rtp.id ms ++ y.rtp.waiting := by
    simp [packetsOn, Message.onChannel, hwaiting]
  refine ⟨h.numbered, ?_, fun d hd => h.rtpFits d ?_, h.rtcpFits⟩
  · exact hpackets ▸ h.packets
  · exact hwaiting ▸ List.mem_cons_of_mem datagram hd

/-! ### Channels -/

theorem apart_singleton {x : UInt8 × UInt8} (h : x.2 ≠ x.1) : Apart [x] where
  rtp := List.nodup_singleton x.1
  rtcp y hy z hz := by
    rw [List.mem_singleton.1 hy, List.mem_singleton.1 hz]
    exact h

theorem Apart.mono {channels channels' : List (UInt8 × UInt8)} (h : Apart channels')
    (hsub : channels.Sublist channels') : Apart channels :=
  ⟨h.rtp.sublist (hsub.map _), fun x hx y hy => h.rtcp x (hsub.subset hx) y (hsub.subset hy)⟩

theorem mem_channels (hy : y ∈ c.interleaved) : (y.rtp.id, y.rtcp.id) ∈ c.channels :=
  List.mem_map_of_mem hy

theorem Apart.rtp_ne (h : Apart c.channels) {i j : Nat} {x : Interleaved} (hij : i ≠ j)
    (hx : c.interleaved[i]? = some x) (hy : c.interleaved[j]? = some y) : x.rtp.id ≠ y.rtp.id := by
  intro heq
  have hids : c.channels.map (·.1) = c.interleaved.map (·.rtp.id) := by
    simp [Connection.channels, Function.comp_def]
  have hlt : i < (c.interleaved.map (·.rtp.id)).length := by
    rw [List.length_map]
    exact (List.getElem?_eq_some_iff.1 hx).1
  refine hij ((List.getElem?_inj hlt (hids ▸ h.rtp)).1 ?_)
  rw [List.getElem?_map, List.getElem?_map, hx, hy, Option.map_some, Option.map_some, heq]

/-- The RTP channel of a session that comes last is one of its own. -/
theorem Apart.new {channels : List (UInt8 × UInt8)} {x : UInt8 × UInt8} (h : Apart (channels ++ [x]))
    {ch : UInt8 × UInt8} (hch : ch ∈ channels) : ch.1 ≠ x.1 ∧ ch.2 ≠ x.1 := by
  refine ⟨fun heq => ?_, h.rtcp ch (List.mem_append_left _ hch) x (by simp)⟩
  have hnodup := h.rtp
  rw [List.map_append, List.map_singleton] at hnodup
  exact List.disjoint_of_nodup_append hnodup (List.mem_map_of_mem hch) (List.mem_singleton.2 heq)

theorem Apart.rtcp_ne (h : Apart c.channels) {x : Interleaved} (hx : x ∈ c.interleaved)
    (hy : y ∈ c.interleaved) : x.rtcp.id ≠ y.rtp.id :=
  h.rtcp _ (mem_channels hx) _ (mem_channels hy)

/-- A session has the channels it had. -/
theorem channels_setInterleaved {i : Nat} {y' : Interleaved} (hy : c.interleaved[i]? = some y)
    (hrtp : y'.rtp.id = y.rtp.id) (hrtcp : y'.rtcp.id = y.rtcp.id) :
    c.channels <+: (c.setInterleaved i y').channels := by
  obtain ⟨hlt, hget⟩ := List.getElem?_eq_some_iff.1 hy
  have hlt : i < c.channels.length := by
    rwa [Connection.channels, List.length_map]
  have hi : c.channels[i] = (y'.rtp.id, y'.rtcp.id) := by
    simp [Connection.channels, hget, hrtp, hrtcp]
  have hset : (c.setInterleaved i y').channels = c.channels := by
    rw [Connection.channels, Connection.setInterleaved, List.map_set, ← hi]
    exact List.set_getElem_self _
  rw [hset]

/-- Channels come, and none goes. -/
theorem channels_step (hstep : step server t e = some t') : t.channels <+: t'.channels := by
  unfold step at hstep
  split_ifs at hstep
  cases e with
  | setup r localHost rtpCh rtcpCh =>
    cases hstep
    rw [Connection.channels, Connection.channels, List.map_append]
    exact List.prefix_append _ _
  | rtpSessionResume i beginTime scale =>
    obtain ⟨y, hy, rfl⟩ := Option.map_eq_some_iff.1 hstep
    exact channels_setInterleaved hy rfl rfl
  | rtpPacketSend i buffer taken =>
    obtain ⟨y, hy, rfl⟩ := Option.map_eq_some_iff.1 hstep
    exact channels_setInterleaved hy (InterleavedChannel.id_write ..) rfl
  | rtcpSendSr i type now taken =>
    obtain ⟨y, hy, hsend⟩ := Option.bind_eq_some_iff.1 hstep
    obtain ⟨sent, -, rfl⟩ := Option.map_eq_some_iff.1 hsend
    exact channels_setInterleaved hy rfl (InterleavedChannel.id_write ..)
  | readRtp i =>
    obtain ⟨y, hy, hread⟩ := Option.bind_eq_some_iff.1 hstep
    obtain ⟨read, hframe, rfl⟩ := Option.map_eq_some_iff.1 hread
    exact channels_setInterleaved hy (id_interleavedReadTcpCb hframe) rfl
  | readRtcp i =>
    obtain ⟨y, hy, hread⟩ := Option.bind_eq_some_iff.1 hstep
    obtain ⟨read, hframe, rfl⟩ := Option.map_eq_some_iff.1 hread
    exact channels_setInterleaved hy rfl (id_interleavedReadTcpCb hframe)
  | respond memory a =>
    cases hstep
    exact List.prefix_rfl
  | writeCb results =>
    obtain ⟨written, -, rfl⟩ := Option.map_eq_some_iff.1 hstep
    exact List.prefix_rfl

theorem channels_run (hrun : Run.exec (step server) c es = some t) : c.channels <+: t.channels := by
  have hkept : ∀ s e s', c.channels <+: s.channels → step server s e = some s' →
      c.channels <+: s'.channels := fun _ _ _ h hstep => h.trans (channels_step hstep)
  exact Run.exec_inv hkept hrun List.prefix_rfl

/-! ### Steps -/

theorem buffersOf_append (i : Nat) (es es' : List Event) :
    buffersOf i (es ++ es') = buffersOf i es ++ buffersOf i es' := List.filterMap_append

theorem answersOf_append (server : Server) (es es' : List Event) :
    answersOf server (es ++ es') = answersOf server es ++ answersOf server es' :=
  List.filterMap_append

theorem packetsMade_concat (hrun : Run.exec (step server) c es = some t)
    (hstep : step server t e = some t') (i : Nat) :
    packetsMade server i c (es ++ [e]) = packetsMade server i c es ++ packetMade i t e := by
  simp [packetsMade, Run.collect_append, hrun, Run.collect, hstep]

/-- Nothing is sent for the session `i`. -/
def Silent (i : Nat) (t : Connection) (e : Event) : Prop :=
  buffersOf i [e] = [] ∧ packetMade i t e = []

theorem Silent.concat {i : Nat} (h : Silent i t e) (hrun : Run.exec (step server) c es = some t)
    (hstep : step server t e = some t') :
    buffersOf i (es ++ [e]) = buffersOf i es ∧
      packetsMade server i c (es ++ [e]) = packetsMade server i c es := by
  rw [buffersOf_append, packetsMade_concat hrun hstep, h.1, h.2, List.append_nil, List.append_nil]
  exact ⟨rfl, rfl⟩

/-- The connection `c` and what has become of it, `t`: the messages `ms` and a part of one more are
written, and `queued` wait. -/
structure Along (server : Server) (c : Connection) (es : List Event) (ok : Prop) (t : Connection)
    (ms queued : List Message) (part : Bytes) : Prop where
  ran : Run.exec (step server) c es = some t
  wire : t.wire = rtspCode.writeAll ms ++ part
  outQueue : t.outQueue = queued.map (·.bytes)
  valid : ∀ m ∈ ms ++ queued, m.Valid
  unfinished : rtspCode.Unfinished part
  whole : t.exited = false → part = []
  texts : Within ok (textsOf (ms ++ queued)) (answersOf server es)
  frames : ∀ channel data, .frame channel data ∈ ms ++ queued →
    ∃ ch ∈ t.channels, channel = ch.1 ∨ channel = ch.2
  lanes : ∀ i y, t.interleaved[i]? = some y →
    Lane ok (buffersOf i es) (packetsMade server i c es) (ms ++ queued) y
  absent : ∀ i, t.interleaved.length ≤ i → buffersOf i es = [] ∧ packetsMade server i c es = []

theorem Along.start (h : Fresh c) : Along server c [] True c [] [] [] := by
  refine ⟨rfl, h.wire, h.outQueue, by simp, .inl rfl, fun _ => rfl, Within.refl _ _, by simp,
    fun i y hy => ?_, fun i _ => ⟨rfl, rfl⟩⟩
  obtain ⟨hrtp, hrtcp⟩ := h.waiting y (List.mem_of_getElem? hy)
  refine ⟨Made.nil _, ?_, ?_, ?_⟩
  · rw [hrtp]
    exact Within.refl _ _
  · simp [hrtp]
  · simp [hrtcp]

variable {part : Bytes}

theorem Along.ran_concat (h : Along server c es ok t ms queued part)
    (hstep : step server t e = some t') : Run.exec (step server) c (es ++ [e]) = some t' := by
  simp [Run.exec_append, h.ran, Run.exec_cons, hstep]

/-- A step of one session, which leaves the queue as it is. -/
theorem Along.session (h : Along server c es ok t ms queued part) {i : Nat} {y' : Interleaved}
    (hstep : step server t e = some (t.setInterleaved i y')) (hy : t.interleaved[i]? = some y)
    (hok : ok' → ok) (hanswers : answersOf server [e] = [])
    (hother : ∀ j ≠ i, Silent j t e)
    (hlane : Lane ok (buffersOf i es) (packetsMade server i c es) (ms ++ queued) y →
      Lane ok' (buffersOf i es ++ buffersOf i [e]) (packetsMade server i c es ++ packetMade i t e)
        (ms ++ queued) y') :
    Along server c (es ++ [e]) ok' (t.setInterleaved i y') ms queued part := by
  have hlt := (List.getElem?_eq_some_iff.1 hy).1
  have hsame (j : Nat) (hj : j ≠ i) := (hother j hj).concat h.ran hstep
  refine ⟨h.ran_concat hstep, h.wire, h.outQueue, h.valid, h.unfinished, h.whole, ?_,
    fun channel data hm => ?_, fun j z hz => ?_, fun j hj => ?_⟩
  · rw [answersOf_append, hanswers, List.append_nil]
    exact h.texts.mono hok
  · obtain ⟨ch, hch, heq⟩ := h.frames channel data hm
    exact ⟨ch, (channels_step hstep).subset hch, heq⟩
  · rw [Connection.setInterleaved, List.getElem?_set] at hz
    split_ifs at hz with hij
    · cases hz
      subst hij
      rw [buffersOf_append, packetsMade_concat h.ran hstep]
      exact hlane (h.lanes i y hy)
    · rw [(hsame j (Ne.symm hij)).1, (hsame j (Ne.symm hij)).2]
      exact (h.lanes j z hz).mono hok
  · rw [Connection.setInterleaved, List.length_set] at hj
    have hji : j ≠ i := by omega
    rw [(hsame j hji).1, (hsame j hji).2]
    exact h.absent j hj

/-- A message is pushed to the queue. -/
theorem Along.push (h : Along server c es ok t ms queued part) (hstep : step server t e = some t')
    {m : Message} (hm : m.Valid) (hanswers : answersOf server [e] = textsOf [m])
    (hframe : ∀ channel data, m = .frame channel data →
      ∃ ch ∈ t'.channels, channel = ch.1 ∨ channel = ch.2)
    (hsilent : ∀ i, Silent i t e)
    (hlanes : ∀ i y, t'.interleaved[i]? = some y →
      Lane ok (buffersOf i es) (packetsMade server i c es) (ms ++ queued ++ [m]) y)
    (hlength : t'.interleaved.length = t.interleaved.length)
    (hqueue : t'.outQueue = t.outQueue ++ [m.bytes]) (hwire : t'.wire = t.wire)
    (hexited : t'.exited = t.exited) :
    Along server c (es ++ [e]) ok t' ms (queued ++ [m]) part := by
  have hsame (i : Nat) := (hsilent i).concat h.ran hstep
  have hmem : ∀ m' ∈ ms ++ (queued ++ [m]), m' ∈ ms ++ queued ∨ m' = m := fun m' hm' => by
    rw [← List.append_assoc] at hm'
    exact (List.mem_append.1 hm').imp_right List.mem_singleton.1
  refine ⟨h.ran_concat hstep, hwire.trans h.wire, ?_, fun m' hm' => ?_, h.unfinished,
    fun hx => h.whole (hexited ▸ hx), ?_, fun channel data hm' => ?_, fun i y hy => ?_,
    fun i hi => ?_⟩
  · rw [hqueue, h.outQueue, List.map_append]
    rfl
  · rcases hmem m' hm' with hm' | rfl
    · exact h.valid m' hm'
    · exact hm
  · rw [answersOf_append, hanswers, ← List.append_assoc, textsOf, List.filter_append]
    exact h.texts.concat _
  · rcases hmem _ hm' with hm' | heq
    · obtain ⟨ch, hch, heq⟩ := h.frames channel data hm'
      exact ⟨ch, (channels_step hstep).subset hch, heq⟩
    · exact hframe channel data heq.symm
  · rw [(hsame i).1, (hsame i).2, ← List.append_assoc]
    exact hlanes i y hy
  · rw [(hsame i).1, (hsame i).2]
    exact h.absent i (hlength ▸ hi)

/-- The callback of one socket pair: the frame is pushed, and the session keeps the rest. -/
theorem Along.read (h : Along server c es ok t ms queued part) {i : Nat} {channel : UInt8}
    {datagram : Bytes} {y' : Interleaved}
    (hstep : step server t e =
      some ((t.setInterleaved i y').push (Message.frame channel datagram).bytes))
    (hy : t.interleaved[i]? = some y) (hfits : datagram.length < 65536)
    (hanswers : answersOf server [e] = [])
    (hsilent : ∀ j, Silent j t e)
    (hchannel : channel = y.rtp.id ∨ channel = y.rtcp.id)
    (hother : ∀ j z, t.interleaved[j]? = some z → j ≠ i → z.rtp.id ≠ channel)
    (hlane : Lane ok (buffersOf i es) (packetsMade server i c es) (ms ++ queued) y →
      Lane ok (buffersOf i es) (packetsMade server i c es)
        (ms ++ queued ++ [.frame channel datagram]) y') :
    Along server c (es ++ [e]) ok ((t.setInterleaved i y').push (Message.frame channel datagram).bytes)
      ms (queued ++ [.frame channel datagram]) part := by
  refine h.push hstep hfits hanswers (fun ch data hm => ?_) hsilent (fun j z hz => ?_)
    (by simp [Connection.push, Connection.setInterleaved]) rfl rfl rfl
  · cases hm
    exact ⟨_, (channels_step hstep).subset (mem_channels (List.mem_of_getElem? hy)), hchannel⟩
  · simp only [Connection.push, Connection.setInterleaved, List.getElem?_set] at hz
    split_ifs at hz with hij
    · cases hz
      exact hij ▸ hlane (h.lanes i y hy)
    · exact (h.lanes j z hz).other (if_neg (hother j z hz (Ne.symm hij)).symm)

/-- A session is set up on channels on which nothing has been sent. -/
theorem Along.setup (h : Along server c es ok t ms queued part) {r : SessionStart}
    {localHost : Option HostName} {rtpCh rtcpCh : Int}
    (hstep : step server t (.setup r localHost rtpCh rtcpCh) = some t') (hapart : Apart t'.channels) :
    Along server c (es ++ [.setup r localHost rtpCh rtcpCh]) ok t' ms queued part := by
  have hsilent (i : Nat) : Silent i t (.setup r localHost rtpCh rtcpCh) := ⟨rfl, rfl⟩
  have hsame (i : Nat) := (hsilent i).concat h.ran hstep
  have hran := h.ran_concat hstep
  have hchannels := (channels_step hstep).subset
  unfold step at hstep
  split_ifs at hstep
  obtain rfl := Option.some.inj hstep
  refine ⟨hran, h.wire, h.outQueue, h.valid, h.unfinished, h.whole, ?_, fun channel data hm => ?_,
    fun i y hy => ?_, fun i hi => ?_⟩
  · rw [answersOf_append]
    exact (List.append_nil (answersOf server es)).symm ▸ h.texts
  · obtain ⟨ch, hch, heq⟩ := h.frames channel data hm
    exact ⟨ch, hchannels hch, heq⟩
  · rw [(hsame i).1, (hsame i).2]
    rcases Nat.lt_or_ge i t.interleaved.length with hlt | hge
    · exact h.lanes i y (List.getElem?_append_left hlt ▸ hy)
    · -- the new session: of what was sent, nothing is on its channel
      rw [(h.absent i hge).1, (h.absent i hge).2]
      rw [List.getElem?_append_right hge] at hy
      obtain rfl := List.mem_singleton.1 (List.mem_of_getElem? hy)
      have hnone : packetsOn
          (interleavedSetupTransport (rtpSessionNew r) localHost rtpCh rtcpCh).rtp.id
          (ms ++ queued) = [] := packetsOn_eq_nil fun data hm => by
        obtain ⟨ch, hch, heq⟩ := h.frames _ data hm
        rw [Connection.channels, List.map_append] at hapart
        obtain ⟨hrtp, hrtcp⟩ := hapart.new hch
        exact heq.elim (fun heq => hrtp heq.symm) fun heq => hrtcp heq.symm
      refine ⟨Made.nil _, ?_, fun d hd => absurd hd List.not_mem_nil,
        fun d hd => absurd hd List.not_mem_nil⟩
      rw [hnone]
      exact Within.refl _ _
  · rw [(hsame i).1, (hsame i).2]
    exact h.absent i (by simp at hi; omega)

/-- What is written goes from the queue to the connection. -/
theorem Along.write (h : Along server c es ok t ms queued part) {results : List Int}
    (hstep : step server t (.writeCb results) = some t')
    (hok : ok' → ok ∧ NoLoss t (.writeCb results)) :
    ∃ ms' queued' part', Along server c (es ++ [.writeCb results]) ok' t' ms' queued' part' := by
  have hsilent (i : Nat) : Silent i t (.writeCb results) := ⟨rfl, rfl⟩
  have hsame (i : Nat) := (hsilent i).concat h.ran hstep
  have hran := h.ran_concat hstep
  have hok' : ok' → ok := fun hgood => (hok hgood).1
  unfold step at hstep
  split_ifs at hstep with hexited
  obtain ⟨written, hwritten, rfl⟩ := Option.map_eq_some_iff.1 hstep
  rw [h.outQueue] at hwritten
  obtain ⟨more, rest, part', hw⟩ := writeLoop_wrote
    (fun m hm => h.valid m (List.mem_append_right ms hm)) hwritten
  have hpart := h.whole (by simpa using hexited)
  have hkept : Within ok' (ms ++ more ++ rest) (ms ++ queued) := by
    rw [List.append_assoc]
    refine (Within.refl ok' ms).append (hw.kept.mono fun hgood => ?_)
    exact (hok hgood).2.trans (by rw [h.outQueue, List.map_map]; rfl)
  refine ⟨ms ++ more, rest, part', ⟨hran, ?_, hw.queue, fun m hm => ?_, hw.unfinished,
    fun hx => (hw.whole hx).1, ?_, fun channel data hm => ?_, fun i y hy => ?_, fun i hi => ?_⟩⟩
  · simp only [hw.wire, h.wire, hpart, List.append_nil, StreamCode.writeAll_append,
      List.append_assoc]
  · exact h.valid m (hkept.1.subset hm)
  · rw [answersOf_append, show answersOf server [.writeCb results] = [] from rfl, List.append_nil]
    exact (hkept.filter (·.isText)).trans (h.texts.mono hok') id
  · exact h.frames channel data (hkept.1.subset hm)
  · rw [(hsame i).1, (hsame i).2]
    exact ((h.lanes i y hy).mono hok').lose hkept id
  · rw [(hsame i).1, (hsame i).2]
    exact h.absent i hi

/-- **One step** keeps everything. -/
theorem along_step (hserver : server.host.Ok) (hreason : ∀ n, 10 ∉ server.reasonPhrase n)
    (h : Along server c es ok t ms queued part) (hapart : Apart t'.channels) (hfits : Fits e)
    (hstep : step server t e = some t') (hok : ok' → ok ∧ NoLoss t e) :
    ∃ ms' queued' part', Along server c (es ++ [e]) ok' t' ms' queued' part' := by
  have hchannels := hapart.mono (channels_step hstep).sublist
  have hok' : ok' → ok := fun hgood => (hok hgood).1
  have hmono : Along server c es ok' t ms queued part :=
    { h with
      texts := h.texts.mono hok'
      lanes := fun i y hy => (h.lanes i y hy).mono hok' }
  have hevent := hstep
  unfold step at hevent
  split_ifs at hevent
  cases e with
  | setup r localHost rtpCh rtcpCh => exact ⟨ms, queued, part, hmono.setup hstep hapart⟩
  | rtpSessionResume i beginTime scale =>
    obtain ⟨y, hy, rfl⟩ := Option.map_eq_some_iff.1 hevent
    refine ⟨ms, queued, part, hmono.session hstep hy id rfl (fun _ _ => ⟨rfl, rfl⟩) fun hlane => ?_⟩
    simp only [buffersOf, packetMade, List.filterMap_cons, List.filterMap_nil, List.append_nil]
    exact { hlane with numbered := hlane.numbered.resume beginTime scale }
  | rtpPacketSend i buffer taken =>
    obtain ⟨y, hy, rfl⟩ := Option.map_eq_some_iff.1 hevent
    refine ⟨ms, queued, part, h.session hstep hy hok' rfl (fun j hj => ?_) fun hlane => ?_⟩
    · simp [Silent, buffersOf, packetMade, Ne.symm hj]
    · have hmade : packetMade i t (.rtpPacketSend i buffer taken) =
          [y.session.packetData buffer] := by
        simp [packetMade, hy]
      rw [hmade, show buffersOf i [.rtpPacketSend i buffer taken] = [buffer] by simp [buffersOf]]
      exact hlane.send hfits hok
  | rtcpSendSr i type now taken =>
    obtain ⟨y, hy, hsend⟩ := Option.bind_eq_some_iff.1 hevent
    obtain ⟨sent, hsent, rfl⟩ := Option.map_eq_some_iff.1 hsend
    refine ⟨ms, queued, part, hmono.session hstep hy id rfl (fun _ _ => ⟨rfl, rfl⟩) fun hlane => ?_⟩
    simp only [buffersOf, packetMade, List.filterMap_cons, List.filterMap_nil, List.append_nil]
    exact { hlane with
      rtcpFits := InterleavedChannel.fits_write hlane.rtcpFits (length_rtcpSendSr hsent) taken }
  | readRtp i =>
    obtain ⟨y, hy, hread⟩ := Option.bind_eq_some_iff.1 hevent
    obtain ⟨read, hframe, rfl⟩ := Option.map_eq_some_iff.1 hread
    have hlane := hmono.lanes i y hy
    cases hwaiting : y.rtp.waiting with
    | nil => simp [interleavedReadTcpCb, hwaiting] at hframe
    | cons datagram waiting =>
      have hd := hlane.rtpFits datagram (hwaiting ▸ List.mem_cons_self)
      rw [interleavedReadTcpCb_frame hwaiting hd] at hframe
      cases hframe
      exact ⟨ms, _, part, hmono.read hstep hy hd rfl (fun _ => ⟨rfl, rfl⟩) (.inl rfl)
        (fun j z hz hji => hchannels.rtp_ne hji hz hy) fun hlane => hlane.read hwaiting⟩
  | readRtcp i =>
    obtain ⟨y, hy, hread⟩ := Option.bind_eq_some_iff.1 hevent
    obtain ⟨read, hframe, rfl⟩ := Option.map_eq_some_iff.1 hread
    have hlane := hmono.lanes i y hy
    have hother (z : Interleaved) (hz : z ∈ t.interleaved) : y.rtcp.id ≠ z.rtp.id :=
      hchannels.rtcp_ne (List.mem_of_getElem? hy) hz
    cases hwaiting : y.rtcp.waiting with
    | nil => simp [interleavedReadTcpCb, hwaiting] at hframe
    | cons datagram waiting =>
      have hd := hlane.rtcpFits datagram (hwaiting ▸ List.mem_cons_self)
      rw [interleavedReadTcpCb_frame hwaiting hd] at hframe
      cases hframe
      refine ⟨ms, _, part, hmono.read hstep hy hd rfl (fun _ => ⟨rfl, rfl⟩) (.inr rfl)
        (fun j z hz _ => (hother z (List.mem_of_getElem? hz)).symm) fun hlane => ?_⟩
      have hframe := hlane.other (m := .frame y.rtcp.id datagram)
        (if_neg (hother y (List.mem_of_getElem? hy)))
      exact { hframe with
        rtcpFits := fun d hd => hlane.rtcpFits d (hwaiting ▸ List.mem_cons_of_mem datagram hd) }
  | respond memory a =>
    have hvalid := (sound_respond hserver memory a).valid hreason
    obtain rfl := Option.some.inj hevent
    refine ⟨ms, _, part, hmono.push hstep hvalid rfl (fun _ _ hm => by cases hm)
      (fun _ => ⟨rfl, rfl⟩) (fun i y hy => (hmono.lanes i y hy).other rfl) rfl ?_ rfl rfl⟩
    rw [rtspResponseSend_eq]
    rfl
  | writeCb results => exact h.write hstep hok

/-! ## What the client reads -/

theorem along_run (hserver : server.host.Ok) (hreason : ∀ n, 10 ∉ server.reasonPhrase n)
    (hapart : Apart t'.channels) {es' : List Event} (h : Along server c es ok t ms queued part)
    (hfits : ∀ e ∈ es', Fits e) (hrun : Run.exec (step server) t es' = some t')
    (hok : ok' → ok ∧ Run.Each (step server) NoLoss t es') :
    ∃ ms' queued' part', Along server c (es ++ es') ok' t' ms' queued' part' := by
  induction es' generalizing es t ok ms queued part with
  | nil =>
    cases hrun
    rw [List.append_nil]
    exact ⟨ms, queued, part, { h with
      texts := h.texts.mono fun hgood => (hok hgood).1
      lanes := fun i y hy => (h.lanes i y hy).mono fun hgood => (hok hgood).1 }⟩
  | cons e es' ih =>
    obtain ⟨u, hstep, hrest⟩ := Run.exec_cons_some.1 hrun
    obtain ⟨ms', queued', part', hnext⟩ := along_step hserver hreason h
      (hapart.mono (channels_run hrest).sublist) (hfits e List.mem_cons_self) hstep
      fun hgood : ok ∧ NoLoss t e => hgood
    have hall := ih hnext (fun e' he' => hfits e' (List.mem_cons_of_mem e he')) hrest
      fun hgood => ⟨⟨(hok hgood).1, (hok hgood).2.1⟩, (hok hgood).2.2 u hstep⟩
    rwa [List.append_assoc] at hall

/-- What the client has read, `ms`, against what it was to be sent: nothing of it is made up, changed,
doubled or out of order. -/
structure Received (server : Server) (c : Connection) (es : List Event) (t : Connection)
    (ms : List Message) : Prop where
  responses : (textsOf ms).Sublist (answersOf server es)
  packets : ∀ i y, t.interleaved[i]? = some y →
    ((packetsOn y.rtp.id ms).map Rfc3550.data).Sublist ((packetsMade server i c es).map some)
  numbered : ∀ i y, t.interleaved[i]? = some y →
    Made y.session (buffersOf i es) (packetsMade server i c es)

/-- Nor is anything missing but what still waits. -/
structure ReceivedAll (server : Server) (c : Connection) (es : List Event) (t : Connection)
    (ms : List Message) : Prop where
  responses : textsOf ms <+: answersOf server es
  packets : ∀ i y, t.interleaved[i]? = some y →
    (packetsOn y.rtp.id ms).map Rfc3550.data <+: (packetsMade server i c es).map some
  responsesDone : t.outQueue = [] → textsOf ms = answersOf server es
  packetsDone : ∀ i y, t.interleaved[i]? = some y → t.outQueue = [] → y.rtp.waiting = [] →
    (packetsOn y.rtp.id ms).map Rfc3550.data = (packetsMade server i c es).map some

theorem Along.received (h : Along server c es ok t ms queued part) : Received server c es t ms := by
  refine ⟨?_, fun i y hy => ?_, fun i y hy => (h.lanes i y hy).numbered⟩
  · have htexts := h.texts
    rw [textsOf, List.filter_append] at htexts
    exact htexts.sublist_left
  · have hpackets := (h.lanes i y hy).packets
    rw [packetsOn_append, List.append_assoc, List.map_append] at hpackets
    exact hpackets.sublist_left

theorem Along.receivedAll (h : Along server c es True t ms queued part) :
    ReceivedAll server c es t ms := by
  have htexts := h.texts
  rw [textsOf, List.filter_append] at htexts
  have hnone : t.outQueue = [] → queued = [] := fun hnil =>
    List.map_eq_nil_iff.1 (h.outQueue.symm.trans hnil)
  refine ⟨htexts.prefix_left trivial, fun i y hy => ?_, fun hnil => ?_, fun i y hy hnil hw => ?_⟩
  · have hpackets := (h.lanes i y hy).packets
    rw [packetsOn_append, List.append_assoc, List.map_append] at hpackets
    exact hpackets.prefix_left trivial
  · have hall := htexts.2 trivial
    rw [hnone hnil, List.filter_nil, List.append_nil] at hall
    exact hall
  · have hall := (h.lanes i y hy).packets.2 trivial
    rw [hnone hnil, hw, List.append_nil, List.append_nil] at hall
    exact hall

theorem Along.messages (h : Along server c es ok t ms queued part) :
    rtspCode.messages t.wire = (ms, part) := by
  rw [h.wire]
  exact rtspCode.messages_writeAll h.unfinished fun m hm => h.valid m (List.mem_append_left _ hm)

/-- **One connection, many sessions**: in whatever order sessions are set up and resumed, their
packets are sent, the socket pairs are read, requests are answered and the queue is written, what is
on the connection can be taken apart, up to the packet at which the process ended. If the channels
are apart, the client finds on that of a session, in order and with their numbers, packets of the
session, and in between responses; and where no write failed it finds all of them. -/
theorem client_reads (hserver : server.host.Ok) (hreason : ∀ n, 10 ∉ server.reasonPhrase n)
    (hfresh : Fresh c) (hapart : Apart t.channels) (hfits : ∀ e ∈ es, Fits e)
    (hrun : Run.exec (step server) c es = some t) :
    (t.exited = false → (rtspCode.messages t.wire).2 = []) ∧
      Received server c es t (rtspCode.messages t.wire).1 ∧
      (Run.Each (step server) NoLoss c es →
        ReceivedAll server c es t (rtspCode.messages t.wire).1) := by
  have hstart : Along server c [] True c [] [] [] := .start hfresh
  obtain ⟨ms, queued, part, h⟩ := along_run hserver hreason hapart hstart hfits hrun
    fun hgood : False => hgood.elim
  rw [h.messages]
  refine ⟨h.whole, h.received, fun hloss => ?_⟩
  obtain ⟨ms', queued', part', h'⟩ := along_run hserver hreason hapart hstart hfits hrun
    fun _ : True => ⟨trivial, hloss⟩
  obtain ⟨rfl, rfl⟩ := Prod.mk.inj (h.messages.symm.trans h'.messages)
  exact h'.receivedAll

/-! ## A camera over TCP -/

def plainServer : Server where
  host := { server := ascii "stsw_rtsp_port", date := ascii "Thu, 01 Jan 1970 00:00:00 GMT" }
  reasonPhrase _ := ascii "OK"

def setupRequest : Bytes := ascii "SETUP rtsp://h/a/TrackID=1 RTSP/1.0\r\nCSeq: 1\r\n\r\n"

def playRequest : Bytes := ascii "PLAY rtsp://h/a RTSP/1.0\r\nCSeq: 2\r\n\r\n"

def cameraTrack : OneLine := ⟨ascii "rtsp://h/a/TrackID=1", by decide⟩

/-- The camera is set up and played. The reply to PLAY is lost, a packet is written, and what is there
of a report. -/
def cameraEvents : List Event :=
  [.setup ⟨0, 0, 7, 90000, 96, 1⟩ none 0 1,
    .respond setupRequest (.setup (.interleaved 0 1) 7 ⟨ascii "1", by decide⟩), .writeCb [155],
    .rtpSessionResume 0 0 1,
    .respond playRequest (.play ⟨0, 0, false, 1, 1, [⟨cameraTrack, 0, 0⟩]⟩),
    .rtpPacketSend 0 ⟨0, 0, 0, true, [65, 1]⟩ true, .readRtp 0, .writeCb [-1, 18],
    .rtcpSendSr 0 .sdes ⟨0, 0, 0⟩ true, .readRtcp 0, .writeCb [5]]

theorem client_reads_camera : ∃ t,
    Run.exec (step plainServer) { interleaved := [] } cameraEvents = some t ∧
      Received plainServer { interleaved := [] } cameraEvents t (rtspCode.messages t.wire).1 := by
  obtain ⟨t, ht, hchannels⟩ := Option.map_eq_some_iff.1
    (show (Run.exec (step plainServer) { interleaved := [] } cameraEvents).map (·.channels) =
      some [(0, 1)] by decide +kernel)
  have hphrase : 10 ∉ ascii "OK" := by decide
  have hapart : Apart t.channels := hchannels ▸ apart_singleton (by decide)
  exact ⟨t, ht, (client_reads ⟨by decide, by decide⟩ (fun _ => hphrase)
    ⟨rfl, rfl, rfl, by simp⟩ hapart (by simp [cameraEvents, Fits]) ht).2.1⟩

end StreamSwitch.RtspOutput
