import StreamSwitch.Lib.Rfc3550
import Mathlib.Algebra.GroupWithZero.Nat

/-!
# RTCP packets of the RTSP server

`network/rtcp.c`: the sender report with a source description or a BYE behind it, laid over a buffer
of zeros on a little-endian host. The time in the report is a parameter.
-/

namespace StreamSwitch

namespace Rtcp

/-! ## Memory -/

def memory16 (v : UInt16) : List UInt8 := [UInt8.ofNat v.toNat, UInt8.ofNat (v.toNat / 2 ^ 8)]

def memory32 (v : UInt32) : List UInt8 :=
  [UInt8.ofNat v.toNat, UInt8.ofNat (v.toNat / 2 ^ 8), UInt8.ofNat (v.toNat / 2 ^ 16),
    UInt8.ofNat (v.toNat / 2 ^ 24)]

def htons (v : UInt16) : UInt16 := UInt16.ofNat (v.toNat % 2 ^ 8 * 2 ^ 8 + v.toNat / 2 ^ 8)

def htonl (v : UInt32) : UInt32 :=
  UInt32.ofNat (v.toNat % 2 ^ 8 * 2 ^ 24 + v.toNat / 2 ^ 8 % 2 ^ 8 * 2 ^ 16 +
    v.toNat / 2 ^ 16 % 2 ^ 8 * 2 ^ 8 + v.toNat / 2 ^ 24)

/-! ## The structures -/

structure RtcpHeader where
  count : BitVec 5
  padding : BitVec 1
  version : BitVec 2
  pt : UInt8
  length : UInt16
deriving DecidableEq, Repr

def RtcpHeader.memory (h : RtcpHeader) : List UInt8 :=
  UInt8.ofNat (h.count.toNat + 2 ^ 5 * h.padding.toNat + 2 ^ 6 * h.version.toNat) :: h.pt ::
    memory16 h.length

structure RtcpHeaderSR where
  ssrc : UInt32
  ntpTimestampH : UInt32
  ntpTimestampL : UInt32
  rtpTimestamp : UInt32
  pktCount : UInt32
  octetCount : UInt32
deriving DecidableEq, Repr

def RtcpHeaderSR.memory (h : RtcpHeaderSR) : List UInt8 :=
  memory32 h.ssrc ++ (memory32 h.ntpTimestampH ++ (memory32 h.ntpTimestampL ++
    (memory32 h.rtpTimestamp ++ (memory32 h.pktCount ++ memory32 h.octetCount))))

structure RtcpHeaderSDES where
  ssrc : UInt32
  attrName : UInt8
  len : UInt8
  name : List UInt8
deriving DecidableEq, Repr

def RtcpHeaderSDES.memory (h : RtcpHeaderSDES) : List UInt8 :=
  memory32 h.ssrc ++ h.attrName :: h.len :: h.name

structure RtcpHeaderBYE where
  ssrc : UInt32
  length : UInt8
  reason : List UInt8
deriving DecidableEq, Repr

def RtcpHeaderBYE.memory (h : RtcpHeaderBYE) : List UInt8 :=
  memory32 h.ssrc ++ h.length :: h.reason

/-- The union of `RTCP_SR_Compound`. -/
inductive Payload
  | sdes (h : RtcpHeaderSDES)
  | bye (h : RtcpHeaderBYE)
deriving DecidableEq, Repr

def Payload.memory : Payload → List UInt8
  | .sdes h => h.memory
  | .bye h => h.memory

structure RtcpSRCompound where
  srHdr : RtcpHeader
  srPkt : RtcpHeaderSR
  payloadHdr : RtcpHeader
  payload : Payload
deriving DecidableEq, Repr

def RtcpSRCompound.memory (c : RtcpSRCompound) : List UInt8 :=
  c.srHdr.memory ++ (c.srPkt.memory ++ (c.payloadHdr.memory ++ c.payload.memory))

/-! ## Sizes -/

def sizeofHeader : Nat := 4
def sizeofHeaderSR : Nat := 24
def sizeofHeaderSDES : Nat := 6
def sizeofHeaderBYE : Nat := 5

/-- What is set in a buffer of zeros. -/
def overlay (size : Nat) (memory : List UInt8) : List UInt8 :=
  memory ++ (List.replicate size 0).drop memory.length

/-- The padding to 32 bits. -/
def paddingOf (size : Nat) : Nat := if size % 4 ≠ 0 then 4 - size % 4 else 0

/-! ## The packets -/

/-- The name of a host. -/
structure HostName where
  bytes : List UInt8
  nonzero : 0 ∉ bytes
  fits : bytes.length ≤ 255

structure Session where
  ssrc : UInt32
  pktCount : UInt32
  octetCount : UInt32
  /-- `transport.rtcp_sock->local_host`. -/
  localHost : Option HostName
  isBye : Bool

/-- What `rtcp_set_sr` makes of the time. -/
structure Timestamps where
  ntpH : UInt32
  ntpL : UInt32
  rtp : UInt32
deriving DecidableEq, Repr

inductive RtcpPktType | sr | rr | sdes | bye | app
deriving DecidableEq, Repr

def RtcpPktType.code : RtcpPktType → UInt8
  | .sr => 200
  | .rr => 201
  | .sdes => 202
  | .bye => 203
  | .app => 204

/-- `rtcp_set_sr`. -/
def rtcpSetSr (s : Session) (now : Timestamps) : RtcpHeader × RtcpHeaderSR :=
  let srSize := sizeofHeader + sizeofHeaderSR
  ({ version := 2
     padding := 0
     count := 0
     pt := RtcpPktType.sr.code
     length := htons (UInt16.ofNat (srSize / 4 - 1)) },
    { ssrc := htonl s.ssrc
      ntpTimestampH := htonl now.ntpH
      ntpTimestampL := htonl now.ntpL
      rtpTimestamp := htonl now.rtp
      pktCount := htonl s.pktCount
      octetCount := htonl s.octetCount })

/-- The host name, or `::`. -/
def Session.name (s : Session) : List UInt8 :=
  match s.localHost with
  | some host => host.bytes
  | none => [58, 58]

/-- `rtcp_pkt_sr_sdes`. -/
def rtcpPktSrSdes (s : Session) (now : Timestamps) : List UInt8 :=
  let name := s.name
  let nameLen := name.length
  let sdesSize := sizeofHeader + sizeofHeaderSDES + nameLen
  let outpktSize := sizeofHeader + sizeofHeaderSR + sdesSize
  let padding := paddingOf outpktSize
  let sdesSize := sdesSize + padding
  let outpktSize := outpktSize + padding
  let (srHdr, srPkt) := rtcpSetSr s now
  overlay outpktSize (RtcpSRCompound.memory
    { srHdr
      srPkt
      payloadHdr :=
        { version := 2
          padding := 0
          count := 1
          pt := RtcpPktType.sdes.code
          length := htons (UInt16.ofNat (sdesSize / 4 - 1)) }
      payload := .sdes
        { ssrc := htonl s.ssrc
          attrName := 1
          len := UInt8.ofNat nameLen
          name := name } })

/-- `The medium is over.`, without the zero that ends it. -/
def mediumIsOver : List UInt8 := "The medium is over.".toList.map fun c => UInt8.ofNat c.toNat

/-- `rtcp_pkt_sr_bye`. -/
def rtcpPktSrBye (s : Session) (now : Timestamps) : List UInt8 :=
  let reason := mediumIsOver ++ [0]
  let byeSize := sizeofHeader + sizeofHeaderBYE + reason.length
  let outpktSize := sizeofHeader + sizeofHeaderSR + byeSize
  let padding := paddingOf outpktSize
  let byeSize := byeSize + padding
  let outpktSize := outpktSize + padding
  let (srHdr, srPkt) := rtcpSetSr s now
  overlay outpktSize (RtcpSRCompound.memory
    { srHdr
      srPkt
      payloadHdr :=
        { version := 2
          padding := 0
          count := 1
          pt := RtcpPktType.bye.code
          length := htons (UInt16.ofNat (byeSize / 4 - 1)) }
      payload := .bye
        { ssrc := htonl s.ssrc
          -- the byte keeps the low part of what `htonl` turned round
          length := UInt8.ofNat (htonl (UInt32.ofNat (reason.length - 1))).toNat
          reason := reason } })

/-- The packet that `rtcp_send_sr` sends, and what it sets; other types are not to be reached. -/
def rtcpSendSr (type : RtcpPktType) (s : Session) (now : Timestamps) :
    Option (Session × List UInt8) :=
  match type with
  | .sdes => some (s, rtcpPktSrSdes s now)
  | .bye => some ({ s with isBye := true }, rtcpPktSrBye s now)
  | _ => none

/-! ## What is to be sent -/

open Rfc3550 in
/-- The report of the session, and its CNAME or its reason for leaving. -/
def report (type : RtcpPktType) (s : Session) (now : Timestamps) : List Packet :=
  [.senderReport s.ssrc
      { ntpSeconds := now.ntpH
        ntpFraction := now.ntpL
        rtpTimestamp := now.rtp
        packetCount := s.pktCount
        octetCount := s.octetCount } [] [],
    match type with
    | .bye => .goodbye [s.ssrc] mediumIsOver
    | _ => .description [⟨s.ssrc, [⟨1, s.name⟩]⟩]]

/-! ## Network order -/

variable {s s' : Session} {now : Timestamps} {bytes rest : List UInt8}

theorem memory16_htons (v : UInt16) :
    memory16 (htons v) = [UInt8.ofNat (v.toNat / 2 ^ 8), UInt8.ofNat v.toNat] := by
  have hv := v.toNat_lt
  have hlow : v.toNat % 2 ^ 8 < 2 ^ 8 := Nat.mod_lt _ (by decide)
  have hhigh : v.toNat / 2 ^ 8 < 2 ^ 8 := by omega
  have hfirst : (htons v).toNat % 2 ^ 8 = v.toNat / 2 ^ 8 % 2 ^ 8 ∧
      (htons v).toNat / 2 ^ 8 % 2 ^ 8 = v.toNat % 2 ^ 8 := by
    unfold htons
    rw [UInt16.toNat_ofNat']
    generalize v.toNat % 2 ^ 8 = low at hlow
    generalize v.toNat / 2 ^ 8 = high at hhigh
    omega
  unfold memory16
  congr 1
  · refine UInt8.toNat_inj.1 ?_
    rw [UInt8.toNat_ofNat', UInt8.toNat_ofNat', hfirst.1]
  · congr 1
    refine UInt8.toNat_inj.1 ?_
    rw [UInt8.toNat_ofNat', UInt8.toNat_ofNat', hfirst.2]

/-- `htonl` turns the four digits round. -/
theorem htonl_digits (v : UInt32) : (htonl v).toNat % 2 ^ 8 = v.toNat / 2 ^ 24 ∧
    (htonl v).toNat / 2 ^ 8 % 2 ^ 8 = v.toNat / 2 ^ 16 % 2 ^ 8 ∧
    (htonl v).toNat / 2 ^ 16 % 2 ^ 8 = v.toNat / 2 ^ 8 % 2 ^ 8 ∧
    (htonl v).toNat / 2 ^ 24 % 2 ^ 8 = v.toNat % 2 ^ 8 := by
  have hv := v.toNat_lt
  have ha : v.toNat % 2 ^ 8 < 2 ^ 8 := Nat.mod_lt _ (by decide)
  have hb : v.toNat / 2 ^ 8 % 2 ^ 8 < 2 ^ 8 := Nat.mod_lt _ (by decide)
  have hc : v.toNat / 2 ^ 16 % 2 ^ 8 < 2 ^ 8 := Nat.mod_lt _ (by decide)
  have hd : v.toNat / 2 ^ 24 < 2 ^ 8 := by omega
  unfold htonl
  rw [UInt32.toNat_ofNat']
  generalize v.toNat % 2 ^ 8 = a at ha
  generalize v.toNat / 2 ^ 8 % 2 ^ 8 = b at hb
  generalize v.toNat / 2 ^ 16 % 2 ^ 8 = c at hc
  generalize v.toNat / 2 ^ 24 = d at hd
  have hfit : a * 2 ^ 24 + b * 2 ^ 16 + c * 2 ^ 8 + d < 2 ^ 32 := by omega
  rw [Nat.mod_eq_of_lt hfit]
  omega

/-- What `htonl` turned round is read again. -/
theorem word_htonl (v : UInt32) (rest : List UInt8) :
    Rfc3550.word (memory32 (htonl v) ++ rest) = some (v, rest) := by
  have hv := v.toNat_lt
  obtain ⟨ha, hb, hc, hd⟩ := htonl_digits v
  unfold memory32
  show some (UInt32.ofNat _, rest) = some (v, rest)
  rw [UInt8.toNat_ofNat', UInt8.toNat_ofNat', UInt8.toNat_ofNat', UInt8.toNat_ofNat', ha, hb, hc, hd]
  congr 2
  refine UInt32.toNat_inj.1 ?_
  rw [UInt32.toNat_ofNat', Nat.mod_eq_of_lt (by omega)]
  omega

theorem length_memory32 (v : UInt32) : (memory32 v).length = 4 := rfl

/-! ## The report and what is behind it -/

theorem overlay_eq (size : Nat) (memory : List UInt8) :
    overlay size memory = memory ++ List.replicate (size - memory.length) 0 := by
  unfold overlay
  rw [List.drop_replicate]

/-- A header without padding. -/
def hdr (count : BitVec 5) (pt : UInt8) (words : Nat) : RtcpHeader :=
  { version := 2, padding := 0, count := count, pt := pt, length := htons (UInt16.ofNat words) }

theorem hdr_memory {count : BitVec 5} {pt : UInt8} {words : Nat} (h : words < 2 ^ 16) :
    (hdr count pt words).memory =
      [UInt8.ofNat (count.toNat + 128), pt, UInt8.ofNat (words / 2 ^ 8), UInt8.ofNat words] := by
  have hwords : (UInt16.ofNat words).toNat = words := by
    rw [UInt16.toNat_ofNat', Nat.mod_eq_of_lt h]
  unfold RtcpHeader.memory hdr
  rw [memory16_htons, hwords]
  rfl

theorem rtcpSetSr_header (s : Session) (now : Timestamps) :
    (rtcpSetSr s now).1.memory = [128, 200, 0, 6] := by
  have heq : (rtcpSetSr s now).1 = hdr 0 200 6 := rfl
  rw [heq, hdr_memory (by decide)]
  rfl

theorem length_rtcpSetSr (s : Session) (now : Timestamps) :
    (rtcpSetSr s now).2.memory.length = 24 := rfl

theorem senderReport_rtcpSetSr (s : Session) (now : Timestamps) :
    Rfc3550.senderReport 0 (rtcpSetSr s now).2.memory =
      some (.senderReport s.ssrc ⟨now.ntpH, now.ntpL, now.rtp, s.pktCount, s.octetCount⟩ [] []) := by
  have hend : Rfc3550.word (memory32 (htonl s.octetCount)) = some (s.octetCount, []) := by
    have := word_htonl s.octetCount []
    rwa [List.append_nil] at this
  unfold Rfc3550.senderReport RtcpHeaderSR.memory rtcpSetSr
  simp only [Option.bind_eq_bind, word_htonl, hend, Option.bind_some, Rfc3550.many, Option.pure_def]

/-- The report is decoded, and what is behind it when its length is the one in its header. -/
theorem decode_compound (s : Session) (now : Timestamps) {pt : UInt8} {words : Nat}
    {payload : List UInt8} (h : words < 2 ^ 16) (hlength : payload.length = 4 * words) :
    Rfc3550.decode ((rtcpSetSr s now).1.memory ++ ((rtcpSetSr s now).2.memory ++
        ((hdr 1 pt words).memory ++ payload))) =
      (Rfc3550.body 1 pt payload).map fun packet =>
        [.senderReport s.ssrc ⟨now.ntpH, now.ntpL, now.rtp, s.pktCount, s.octetCount⟩ [] [],
          packet] := by
  have hlow : (UInt8.ofNat (words / 2 ^ 8)).toNat * 256 + (UInt8.ofNat words).toNat = words := by
    rw [UInt8.toNat_ofNat', UInt8.toNat_ofNat']
    omega
  have hbody : Rfc3550.body ((128 : UInt8).toNat % 32) 200 (rtcpSetSr s now).2.memory =
      some (.senderReport s.ssrc ⟨now.ntpH, now.ntpL, now.rtp, s.pktCount, s.octetCount⟩ [] []) :=
    senderReport_rtcpSetSr s now
  have hpayload : Rfc3550.decode ((hdr 1 pt words).memory ++ payload) =
      (Rfc3550.body 1 pt payload).map fun packet => [packet] := by
    have hdecode := Rfc3550.decode_append 129 pt _ _ payload [] (by decide) (by decide)
      (hlength.trans (congrArg _ hlow.symm))
    rw [List.append_nil, Rfc3550.decode_nil] at hdecode
    rw [hdr_memory h]
    refine hdecode.trans ?_
    rw [Option.map_eq_bind]
    rfl
  rw [rtcpSetSr_header]
  refine (Rfc3550.decode_append 128 200 0 6 (rtcpSetSr s now).2.memory _ (by decide) (by decide)
    (length_rtcpSetSr s now)).trans ?_
  rw [hbody, Option.bind_some, hpayload, Option.map_map]
  rfl

/-! ## SDES -/

/-- A chunk with the CNAME and some zeros is a chunk when there is a zero, at the boundary. -/
theorem description_cname {name : List UInt8} {ssrc : UInt32} {padding : Nat}
    (hname : name.length ≤ 255) (hfull : 4 ∣ name.length + 2 + padding) (hpadding : padding < 4) :
    Rfc3550.description 1 (memory32 (htonl ssrc) ++
        (1 :: UInt8.ofNat name.length :: (name ++ List.replicate padding 0))) =
      if padding = 0 then none else some (.description [⟨ssrc, [⟨1, name⟩]⟩]) := by
  have hlength : name.length = (UInt8.ofNat name.length).toNat := by
    rw [UInt8.toNat_ofNat', Nat.mod_eq_of_lt (by omega)]
  have hone : (1 : UInt8) ≠ 0 := by decide
  unfold Rfc3550.description Rfc3550.many Rfc3550.chunk Rfc3550.many
  rw [word_htonl]
  cases padding with
  | zero =>
    rw [if_pos rfl]
    simp only [Option.bind_eq_bind, Option.bind_some, Rfc3550.items_append hone hlength,
      List.replicate_zero, Rfc3550.items_nil, Option.map_none, Option.bind_none]
  | succ n =>
    have hread : 4 ∣ (1 :: UInt8.ofNat name.length :: (name ++ List.replicate (n + 1) (0 : UInt8))).length -
        (List.replicate n (0 : UInt8)).length + n := by
      rw [List.length_cons, List.length_cons, List.length_append, List.length_replicate,
        List.length_replicate]
      omega
    rw [if_neg (Nat.succ_ne_zero n)]
    simp only [Option.bind_eq_bind, Option.bind_some, Rfc3550.items_append hone hlength,
      List.replicate_succ, Rfc3550.items_zero, Option.map_some]
    rw [List.replicate_succ] at hread
    simp only [Rfc3550.toBoundary_replicate hread (by omega), Option.bind_some, Option.pure_def]
    rw [if_pos trivial]

theorem Session.length_name_le (s : Session) : s.name.length ≤ 255 := by
  unfold Session.name
  split
  · rename_i host _
    exact host.fits
  · decide

theorem rtcpPktSrSdes_eq (s : Session) (now : Timestamps) :
    rtcpPktSrSdes s now = (rtcpSetSr s now).1.memory ++ ((rtcpSetSr s now).2.memory ++
      ((hdr 1 202 ((10 + s.name.length + paddingOf (38 + s.name.length)) / 4 - 1)).memory ++
        (memory32 (htonl s.ssrc) ++ (1 :: UInt8.ofNat s.name.length ::
          (s.name ++ List.replicate (paddingOf (38 + s.name.length)) 0))))) := by
  have hsize : sizeofHeader + sizeofHeaderSR + (sizeofHeader + sizeofHeaderSDES + s.name.length) =
      38 + s.name.length := by
    unfold sizeofHeader sizeofHeaderSR sizeofHeaderSDES
    omega
  have hmemory : ((rtcpSetSr s now).1.memory ++ ((rtcpSetSr s now).2.memory ++
      ((hdr 1 202 ((10 + s.name.length + paddingOf (38 + s.name.length)) / 4 - 1)).memory ++
        (memory32 (htonl s.ssrc) ++ (1 :: UInt8.ofNat s.name.length :: s.name))))).length =
      38 + s.name.length := by
    rw [List.length_append, List.length_append, List.length_append, List.length_append,
      rtcpSetSr_header, length_rtcpSetSr, length_memory32]
    show 4 + (24 + (4 + (4 + (s.name.length + 1 + 1)))) = 38 + s.name.length
    omega
  have hoverlay : rtcpPktSrSdes s now = overlay (38 + s.name.length + paddingOf (38 + s.name.length))
      ((rtcpSetSr s now).1.memory ++ ((rtcpSetSr s now).2.memory ++
        ((hdr 1 202 ((10 + s.name.length + paddingOf (38 + s.name.length)) / 4 - 1)).memory ++
          (memory32 (htonl s.ssrc) ++ (1 :: UInt8.ofNat s.name.length :: s.name))))) := by
    unfold rtcpPktSrSdes
    dsimp only
    rw [hsize]
    rfl
  rw [hoverlay, overlay_eq, hmemory, Nat.add_sub_cancel_left]
  simp only [List.append_assoc, List.cons_append]

/-- A source description is decoded exactly when the length of the name leaves room for a zero. -/
theorem decode_rtcpPktSrSdes (s : Session) (now : Timestamps) :
    Rfc3550.decode (rtcpPktSrSdes s now) =
      if s.name.length % 4 = 2 then none else some (report .sdes s now) := by
  have hname := s.length_name_le
  have hpadding : paddingOf (38 + s.name.length) < 4 ∧
      4 ∣ s.name.length + 2 + paddingOf (38 + s.name.length) ∧
      (paddingOf (38 + s.name.length) = 0 ↔ s.name.length % 4 = 2) := by
    unfold paddingOf
    split <;> omega
  obtain ⟨hlt, hfull, hzero⟩ := hpadding
  have hlength : (memory32 (htonl s.ssrc) ++ (1 :: UInt8.ofNat s.name.length ::
      (s.name ++ List.replicate (paddingOf (38 + s.name.length)) 0))).length =
      4 * ((10 + s.name.length + paddingOf (38 + s.name.length)) / 4 - 1) := by
    rw [List.length_append, length_memory32, List.length_cons, List.length_cons, List.length_append,
      List.length_replicate]
    omega
  rw [rtcpPktSrSdes_eq, decode_compound s now (by omega) hlength]
  have hbody : Rfc3550.body 1 202 (memory32 (htonl s.ssrc) ++ (1 :: UInt8.ofNat s.name.length ::
      (s.name ++ List.replicate (paddingOf (38 + s.name.length)) 0))) =
      if s.name.length % 4 = 2 then none else some (.description [⟨s.ssrc, [⟨1, s.name⟩]⟩]) := by
    refine (description_cname hname hfull hlt).trans ?_
    by_cases h : s.name.length % 4 = 2
    · rw [if_pos (hzero.2 h), if_pos h]
    · rw [if_neg fun h' => h (hzero.1 h'), if_neg h]
  rw [hbody]
  split
  · rfl
  · rfl

/-! ## BYE -/

/-- The byte for the length of the reason is zero, and the reason is no padding. -/
theorem decode_rtcpPktSrBye (s : Session) (now : Timestamps) :
    Rfc3550.decode (rtcpPktSrBye s now) = none := by
  have hlen : (mediumIsOver ++ [0]).length = 20 := by decide
  have hoverlay : rtcpPktSrBye s now = overlay (57 + paddingOf 57)
      ((rtcpSetSr s now).1.memory ++ ((rtcpSetSr s now).2.memory ++
        ((hdr 1 203 ((29 + paddingOf 57) / 4 - 1)).memory ++ (memory32 (htonl s.ssrc) ++
          (UInt8.ofNat (htonl (UInt32.ofNat (20 - 1))).toNat :: (mediumIsOver ++ [0])))))) := by
    unfold rtcpPktSrBye
    dsimp only
    rw [hlen]
    rfl
  have hmemory : ∀ length : UInt8, ((rtcpSetSr s now).1.memory ++ ((rtcpSetSr s now).2.memory ++
      ((hdr 1 203 7).memory ++ (memory32 (htonl s.ssrc) ++
        (length :: (mediumIsOver ++ [0])))))).length = 57 := by
    intro length
    rw [List.length_append, List.length_append, List.length_append, List.length_append,
      List.length_cons, hlen, rtcpSetSr_header, length_rtcpSetSr, length_memory32]
    rfl
  have hzero : UInt8.ofNat (htonl (UInt32.ofNat (20 - 1))).toNat = 0 := by decide
  have heq : rtcpPktSrBye s now = (rtcpSetSr s now).1.memory ++ ((rtcpSetSr s now).2.memory ++
      ((hdr 1 203 7).memory ++
        (memory32 (htonl s.ssrc) ++ (0 :: (mediumIsOver ++ List.replicate 4 0))))) := by
    have hpadding : paddingOf 57 = 3 := rfl
    rw [hoverlay, hpadding, overlay_eq, hmemory, hzero]
    simp only [List.append_assoc, List.cons_append]
    rfl
  have hreason : Rfc3550.reason (0 :: (mediumIsOver ++ List.replicate 4 0)) = none := by decide
  rw [heq, decode_compound s now (by decide) rfl]
  show ((Rfc3550.goodbye 1 _).map _) = none
  unfold Rfc3550.goodbye Rfc3550.many
  rw [word_htonl]
  simp only [Option.bind_eq_bind, Option.bind_some, Rfc3550.many, Option.pure_def, hreason,
    Option.bind_none, Option.map_none]

/-! ## What is sent -/

/-- What is sent is the report of the session exactly when it is a source description and the length of
the name is not 2 modulo 4. -/
theorem rtcpSendSr_decodes_iff (type : RtcpPktType) (s s' : Session) (now : Timestamps)
    (bytes : List UInt8) (h : rtcpSendSr type s now = some (s', bytes)) :
    Rfc3550.decode bytes = some (report type s now) ↔ type = .sdes ∧ s.name.length % 4 ≠ 2 := by
  unfold rtcpSendSr at h
  split at h
  · cases h
    rw [decode_rtcpPktSrSdes]
    by_cases hname : s.name.length % 4 = 2
    · rw [if_pos hname]
      constructor
      · intro heq
        cases heq
      · rintro ⟨-, hne⟩
        exact absurd hname hne
    · rw [if_neg hname]
      exact ⟨fun _ => ⟨rfl, hname⟩, fun _ => rfl⟩
  · cases h
    rw [decode_rtcpPktSrBye]
    constructor
    · intro heq
      cases heq
    · rintro ⟨⟨⟩, -⟩
  · cases h

/-- A session of a host with the name `host`. -/
def hostSession : Session where
  ssrc := 0x01020304
  pktCount := 7
  octetCount := 1400
  localHost := some ⟨[104, 111, 115, 116], by decide, by decide⟩
  isBye := false

/-- The same without a host. -/
def strangerSession : Session := { hostSession with localHost := none }

theorem hostSession_decodes :
    Rfc3550.decode (rtcpPktSrSdes hostSession ⟨1, 2, 3⟩) = some (report .sdes hostSession ⟨1, 2, 3⟩) :=
  (rtcpSendSr_decodes_iff .sdes hostSession hostSession ⟨1, 2, 3⟩ _ rfl).2 ⟨rfl, by decide⟩

/-- Without a host name, `::` fills the packet, and nothing ends the list of items. -/
theorem missingHost_not_decodes : ¬ ∀ (type : RtcpPktType) (s s' : Session) (now : Timestamps)
    (bytes : List UInt8), rtcpSendSr type s now = some (s', bytes) →
    Rfc3550.decode bytes = some (report type s now) := by
  intro h
  have hdecode := h .sdes strangerSession _ ⟨1, 2, 3⟩ _ rfl
  have hname : strangerSession.name.length % 4 = 2 := rfl
  rw [decode_rtcpPktSrSdes, if_pos hname] at hdecode
  cases hdecode

end Rtcp

end StreamSwitch
