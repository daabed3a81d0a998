import StreamSwitch.Lib.Binary64
import StreamSwitch.RtspPort.Rtcp
import StreamSwitch.RtspPort.RtpFrag

/-!
# RTP sessions of the RTSP server

`rtp_session_new`, `rtp_session_resume` and `rtp_packet_send` of `network/rtp.c`: a buffer of a
parser becomes an RTP packet, which is written to the socket of the session. A number is given to
every packet, also to one that the socket does not take; what counts packets and octets counts the
others. `double`s are rational numbers, rounded after each operation.
-/

namespace StreamSwitch.Rtp

open Rtcp Binary64
open Mp2p (MParserBuffer)

/-- `RTP_session`, with what it reads of its track, its range and the RTSP session. -/
structure RtpSession where
  ssrc : UInt32
  seqNo : UInt16
  startRtptime : UInt32
  lastTimestamp : ℚ
  lastRtptimestamp : UInt32
  pktCount : UInt32
  octetCount : UInt32
  /-- `track->properties.clock_rate`. -/
  clockRate : Int
  /-- `track->properties.payload_type`. -/
  payloadType : Int
  /-- `client->session->scale`. -/
  scale : ℚ
  /-- `range->begin_time`. -/
  beginTime : ℚ
deriving DecidableEq

/-- `RTP_packet`. -/
structure RtpPacket where
  csrcLen : BitVec 4
  extension : BitVec 1
  padding : BitVec 1
  version : BitVec 2
  payload : BitVec 7
  marker : BitVec 1
  seqNo : UInt16
  timestamp : UInt32
  ssrc : UInt32
  data : List UInt8
deriving DecidableEq, Repr

def RtpPacket.memory (p : RtpPacket) : List UInt8 :=
  UInt8.ofNat (p.csrcLen.toNat + 16 * p.extension.toNat + 32 * p.padding.toNat +
      64 * p.version.toNat) ::
    UInt8.ofNat (p.payload.toNat + 128 * p.marker.toNat) ::
    (memory16 p.seqNo ++ (memory32 p.timestamp ++ (memory32 p.ssrc ++ p.data)))

def rtpScaler (s : RtpSession) (sourceTime : ℚ) : ℚ :=
  if sourceTime < 0 then sourceTime
  else if s.scale ≠ 1 then round64 (sourceTime / s.scale)
  else sourceTime

/-- The conversion of a `double` to `uint32_t`: the low bits of the integral part. -/
def doubleToUInt32 (x : ℚ) : UInt32 := UInt32.ofInt (if 0 ≤ x then ⌊x⌋ else -⌊-x⌋)

/-- `RTP_calc_rtptime`. -/
def rtpCalcRtptime (s : RtpSession) (buffer : MParserBuffer) : UInt32 :=
  let sourceTime := round64 (buffer.timestamp - s.beginTime)
  s.startRtptime + doubleToUInt32 (round64 (rtpScaler s sourceTime * s.clockRate))

/-- The packet that `rtp_packet_send` writes under the number `seqNo`. -/
def packetOf (s : RtpSession) (seqNo : UInt16) (buffer : MParserBuffer) : RtpPacket where
  version := 2
  padding := 0
  extension := 0
  csrcLen := 0
  marker := if buffer.marker then 1 else 0
  payload := BitVec.ofInt 7 s.payloadType
  seqNo := htons seqNo
  timestamp := htonl (rtpCalcRtptime s buffer)
  ssrc := htonl s.ssrc
  data := buffer.data

/-- `rtp_packet_send`: the session behind it and the datagram; `taken` says whether `Sock_write`
takes it. -/
def rtpPacketSend (s : RtpSession) (buffer : MParserBuffer) (taken : Bool) :
    RtpSession × List UInt8 :=
  let timestamp := rtpCalcRtptime s buffer
  let s := { s with seqNo := s.seqNo + 1 }
  let packet := packetOf s s.seqNo buffer
  if taken then
    ({ s with
        lastTimestamp := buffer.timestamp
        lastRtptimestamp := timestamp
        pktCount := s.pktCount + 1
        octetCount := s.octetCount + UInt32.ofNat buffer.data.length }, packet.memory)
  else (s, packet.memory)

/-- What `rtp_session_new` draws at random, and what it finds at the track and the RTSP session. -/
structure SessionStart where
  startRtptime : UInt32
  startSeq : UInt16
  ssrc : UInt32
  clockRate : Int
  payloadType : Int
  scale : ℚ
deriving DecidableEq

/-- `rtp_session_new`: there is no range yet, which begins at 0 here. -/
def rtpSessionNew (r : SessionStart) : RtpSession where
  ssrc := r.ssrc
  seqNo := r.startSeq - 1
  startRtptime := r.startRtptime
  lastTimestamp := 0
  lastRtptimestamp := r.startRtptime
  pktCount := 0
  octetCount := 0
  clockRate := r.clockRate
  payloadType := r.payloadType
  scale := r.scale
  beginTime := 0

/-- `rtp_session_resume`, where PLAY has set the range and the scale. -/
def rtpSessionResume (s : RtpSession) (beginTime scale : ℚ) : RtpSession :=
  { s with startRtptime := s.lastRtptimestamp, lastTimestamp := beginTime, beginTime, scale }

/-! ## What is to be sent -/

/-- The next packet of the session. -/
def RtpSession.packetData (s : RtpSession) (buffer : MParserBuffer) : Rfc3550.Data where
  marker := buffer.marker
  payloadType := (s.payloadType % 128).toNat
  sequence := s.seqNo + 1
  timestamp := rtpCalcRtptime s buffer
  source := s.ssrc
  payload := buffer.data

/-- The packets that a session has made of its buffers so far: the numbers follow each other. -/
structure Made (s : RtpSession) (buffers : List MParserBuffer) (packets : List Rfc3550.Data) :
    Prop where
  payloads : packets.map (·.payload) = buffers.map (·.data)
  markers : packets.map (·.marker) = buffers.map (·.marker)
  source : ∀ d ∈ packets, d.source = s.ssrc ∧ d.payloadType = (s.payloadType % 128).toNat
  numbers : ∃ first : UInt16, s.seqNo + 1 = first + UInt16.ofNat packets.length ∧
    ∀ k d, packets[k]? = some d → d.sequence = first + UInt16.ofNat k

theorem Made.nil (s : RtpSession) : Made s [] [] :=
  ⟨rfl, rfl, by simp, s.seqNo + 1, by simp, by simp⟩

/-- Resuming the session changes the times of the packets behind it. -/
theorem Made.resume {s : RtpSession} {buffers : List MParserBuffer} {packets : List Rfc3550.Data}
    (h : Made s buffers packets) (beginTime scale : ℚ) :
    Made (rtpSessionResume s beginTime scale) buffers packets :=
  ⟨h.payloads, h.markers, h.source, h.numbers⟩

theorem memory16_read (v : UInt16) :
    ∃ hi lo, memory16 (htons v) = [hi, lo] ∧ UInt16.ofNat (hi.toNat * 256 + lo.toNat) = v := by
  refine ⟨_, _, memory16_htons v, UInt16.toNat_inj.1 ?_⟩
  have hv := v.toNat_lt
  rw [UInt16.toNat_ofNat', UInt8.toNat_ofNat', UInt8.toNat_ofNat']
  omega

theorem toNat_payloadType (n : Int) : (BitVec.ofInt 7 n).toNat = (n % 128).toNat := by
  simp [BitVec.toNat_ofInt]

/-- The datagram is read as the packet that was to be sent. -/
theorem data_packetOf (s : RtpSession) (seqNo : UInt16) (buffer : MParserBuffer) :
    Rfc3550.data (packetOf s seqNo buffer).memory = some
      { marker := buffer.marker
        payloadType := (s.payloadType % 128).toNat
        sequence := seqNo
        timestamp := rtpCalcRtptime s buffer
        source := s.ssrc
        payload := buffer.data } := by
  obtain ⟨hi, lo, hbytes, hvalue⟩ := memory16_read seqNo
  have htype := toNat_payloadType s.payloadType
  have htypelt : (s.payloadType % 128).toNat < 128 := by omega
  have hmarker : (if buffer.marker then 1 else 0 : BitVec 1).toNat = buffer.marker.toNat := by
    cases buffer.marker <;> rfl
  have hbit := Bool.toNat_lt buffer.marker
  have hsecond : (UInt8.ofNat ((s.payloadType % 128).toNat + 128 * buffer.marker.toNat)).toNat =
      (s.payloadType % 128).toNat + 128 * buffer.marker.toNat := by
    rw [UInt8.toNat_ofNat']
    omega
  have hset : decide (128 ≤ (s.payloadType % 128).toNat + 128 * buffer.marker.toNat) =
      buffer.marker := by
    cases buffer.marker
    · exact decide_eq_false (by simp; omega)
    · exact decide_eq_true (by simp)
  simp only [packetOf, RtpPacket.memory, hbytes, List.cons_append, List.nil_append, htype, hmarker]
  unfold Rfc3550.data
  simp only [word_htonl, hsecond, hvalue, hset, Option.bind_eq_bind, Option.bind_some]
  -- no sources, no extension and no padding
  have hfirst : (UInt8.ofNat (BitVec.toNat (0 : BitVec 4) + 16 * BitVec.toNat (0 : BitVec 1) +
      32 * BitVec.toNat (0 : BitVec 1) + 64 * BitVec.toNat (2 : BitVec 2))).toNat = 128 := by decide
  have hlow : ((s.payloadType % 128).toNat + 128 * buffer.marker.toNat) % 128 =
      (s.payloadType % 128).toNat := by
    rw [Nat.add_mul_mod_self_left, Nat.mod_eq_of_lt htypelt]
  rw [hfirst, hlow]
  rfl

theorem rtpPacketSend_data (s : RtpSession) (buffer : MParserBuffer) (taken : Bool) :
    Rfc3550.data (rtpPacketSend s buffer taken).2 = some (s.packetData buffer) := by
  cases taken
  all_goals
    simp only [rtpPacketSend, Bool.false_eq_true, if_false, if_true, RtpSession.packetData]
    exact data_packetOf _ _ buffer

theorem rtpPacketSend_keeps (s : RtpSession) (buffer : MParserBuffer) (taken : Bool) :
    (rtpPacketSend s buffer taken).1.ssrc = s.ssrc ∧
      (rtpPacketSend s buffer taken).1.payloadType = s.payloadType ∧
      (rtpPacketSend s buffer taken).1.seqNo = s.seqNo + 1 := by
  cases taken
  · exact ⟨rfl, rfl, rfl⟩
  · exact ⟨rfl, rfl, rfl⟩

/-- The next packet has the next number, whether it is taken or not. -/
theorem Made.send {s : RtpSession} {buffers : List MParserBuffer} {packets : List Rfc3550.Data}
    (h : Made s buffers packets) (buffer : MParserBuffer) (taken : Bool) :
    Made (rtpPacketSend s buffer taken).1 (buffers ++ [buffer])
      (packets ++ [s.packetData buffer]) := by
  obtain ⟨hssrc, htype, hseq⟩ := rtpPacketSend_keeps s buffer taken
  obtain ⟨first, hlast, hnumbers⟩ := h.numbers
  refine ⟨?_, ?_, fun d hd => ?_, first, ?_, fun k d hk => ?_⟩
  · rw [List.map_append, List.map_append, h.payloads]
    rfl
  · rw [List.map_append, List.map_append, h.markers]
    rfl
  · rw [hssrc, htype]
    rcases List.mem_append.1 hd with hd | hd
    · exact h.source d hd
    · rw [List.mem_singleton.1 hd]
      exact ⟨rfl, rfl⟩
  · rw [hseq, hlast, List.length_append, List.length_singleton, UInt16.ofNat_add, UInt16.add_assoc]
    rfl
  · rcases Nat.lt_trichotomy k packets.length with hlt | rfl | hgt
    · rw [List.getElem?_append_left hlt] at hk
      exact hnumbers k d hk
    · rw [List.getElem?_append_right (Nat.le_refl _), Nat.sub_self] at hk
      cases hk
      exact hlast
    · rw [List.getElem?_eq_none (by simp; omega)] at hk
      cases hk

theorem length_rtpPacketSend (s : RtpSession) (buffer : MParserBuffer) (taken : Bool) :
    (rtpPacketSend s buffer taken).2.length = 12 + buffer.data.length := by
  have hlen : ∀ p : RtpPacket, p.memory.length = 12 + p.data.length := fun p => by
    simp only [RtpPacket.memory, memory16, memory32, List.length_cons, List.length_append,
      List.length_nil]
    omega
  cases taken
  · exact hlen _
  · exact hlen _

end StreamSwitch.Rtp
