import StreamSwitch.Lib.BitFields
import StreamSwitch.RtspPort.Mp2p

/-!
# The bytes of PES packets

`StreamParser::EncodePes` of `media/parser/mp2p.cc` again, now with what `put_pes_header` writes
into the buffer that `StreamParser::Parse` allocates. `encodeLoop_eq` says that the packets are those
of the model without bytes, and `encodes` that a receiver gets the frame back: the fields of lengths
are exact, payloads are aligned, and the first packet is the only one with a PTS. A frame that the
client did not ask for, because it wants key frames only, is not written.
-/

namespace StreamSwitch

namespace Mp2p

open Bits

abbrev Bytes := List UInt8

/-! ## Writing -/

/-- An assertion of `put_bits`: a value does not fit its width, or the bytes not the buffer. -/
inductive Fault | assertion
deriving DecidableEq, Repr

/-- A record written with `put_bits`; a size below zero is that of no buffer. -/
def putFields (bufSize : Int) (fs : List Field) : Except Fault Bytes :=
  if (∀ f ∈ fs, f.2 < 2 ^ f.1) ∧ (pack (fieldBits fs)).length ≤ bufSize.toNat then
    .ok (pack (fieldBits fs))
  else .error .assertion

/-- A time of a PES header. -/
def putTimestamp (mark ts : Nat) : List Field :=
  [(4, mark), (3, ts / 2 ^ 30 % 8), (1, 1), (15, ts / 2 ^ 15 % 2 ^ 15), (1, 1), (15, ts % 2 ^ 15),
    (1, 1)]

def putTimestamps (p : PesPacket) : List Field :=
  if p.ptsDtsFlag = 2 then putTimestamp 2 p.pts
  else if p.ptsDtsFlag = 3 then putTimestamp 3 p.pts ++ putTimestamp 1 p.dts
  else []

/-- `header_data_length`. -/
def headerDataLength (p : PesPacket) : Nat :=
  p.stuffSize + (if p.firstFrag then 3 else 0) +
    (if p.ptsDtsFlag = 2 then 5 else if p.ptsDtsFlag = 3 then 10 else 0)

/-- The nine bytes of every header. -/
def putFixed (p : PesPacket) : List Field :=
  [(32, 0x100 ||| p.streamId), (16, p.length % 2 ^ 16), (2, 2), (2, 0),
    (1, if p.streamId &&& 0xe0 = 0xe0 then 1 else 0), (1, p.dataAlignment.toNat), (1, 0), (1, 0),
    (2, p.ptsDtsFlag % 4), (1, 0), (1, 0), (1, 0), (1, 0), (1, 0), (1, p.firstFrag.toNat),
    (8, headerDataLength p % 2 ^ 8)]

/-- The buffer size of the decoder, in the first packet. -/
def putExtension (p : PesPacket) : List Field :=
  if p.firstFrag then
    [(8, 0x10), (16, if p.streamId &&& 0xe0 = 0xc0 then 0x4000 ||| p.maxBufferSize / 128
      else 0x6000 ||| p.maxBufferSize / 1024)]
  else []

/-- `put_pes_header`: the arguments are those of a packet. -/
def putPesHeader (p : PesPacket) : List Field :=
  putFixed p ++ putTimestamps p ++ putExtension p ++ List.replicate p.stuffSize (8, 0xff)

/-- What the loop of `EncodePes` leaves in the buffer; `none` where the source returns -1. The bytes
`buf` are in it before. -/
def encodeLoop (stream : StreamInfo) (pts dts maxSize : Nat) (buf : Bytes) (ptsDtsFlag : Nat)
    (firstFrag : Bool) (data : Bytes) : Except Fault (Option Bytes) :=
  if data = [] then .ok (some buf)
  else
    let header := getPesHeaderSize buf.length ptsDtsFlag firstFrag
    let partialSize :=
      if header.1 + data.length > maxPesSize then maxPesSize - header.1 else data.length
    let pesSize := header.1 + partialSize
    if pesSize + buf.length > maxSize then .ok none
    else
      let packet : PesPacket := {
        streamId := stream.streamId
        length := pesSize - 6
        stuffSize := header.2
        firstFrag
        dataAlignment := decide (stream.mediaType = .video) && firstFrag
        ptsDtsFlag
        pts
        dts
        maxBufferSize := stream.maxBufferSize
        payload := data.take partialSize }
      -- the buffer grows by the bytes written, not by those expected
      match putFields (int32OfSize (maxSize - buf.length)) (putPesHeader packet) with
      | .error fault => .error fault
      | .ok bytes =>
        encodeLoop stream pts dts maxSize (buf ++ bytes ++ packet.payload) 0 false
          (data.drop partialSize)
termination_by data.length
decreasing_by
  rename_i hdata _
  have hlt := getPesHeaderSize_lt buf.length ptsDtsFlag firstFrag
  have hpos := List.length_pos_iff.2 hdata
  rw [List.length_drop]
  split
  · omega
  · omega

/-- The frame is for a client that wants other frames. -/
def withheld (tr : Track) (stream : StreamInfo) (isKeyFrame : Bool) : Bool :=
  tr.onlyKeyFrame && !isKeyFrame && !decide (stream.mediaType = .audio)

/-- `StreamParser::EncodePes` behind the bytes `start`: what it returns, and the buffer if that is
not -1. -/
def encodeBytes (tr : Track) (stream : StreamInfo) (pts dts : ℚ) (data : Bytes) (isKeyFrame : Bool)
    (start : Bytes) (maxSize : Nat) : Except Fault (Int × Bytes) :=
  if !tr.onlyKeyFrame || isKeyFrame || decide (stream.mediaType = .audio) then
    match encodeLoop stream (pts2PsTimestamp tr pts) (pts2PsTimestamp tr dts) maxSize start 2 true
        data with
    | .error fault => .error fault
    | .ok none => .ok (-1, start)
    | .ok (some buf) => .ok (int32OfSize (buf.length - start.length), buf)
  else .ok (0, start)

/-- The headers before the packets, and the size of the buffer, in `StreamParser::Parse`. -/
def headersSize (priv : Priv) (stream : StreamInfo) (isKeyFrame : Bool) : Nat :=
  if stream.mediaType = .video then
    packHeaderSize +
      if isKeyFrame then (putSystemHeader priv).size + (putSystemMapHeader priv).size else 0
  else 0

def allocSize (len : Nat) : Nat :=
  256 + (len + maxPesSize - 100 - 1) / (maxPesSize - 100) * 256 + len + 1024

/-- The `max_buffer_size` of a stream that `mp2p_init` makes; there are no others. -/
def bufferSizeOf : SubStreamMediaType → Option Nat
  | .audio => some (8 * 1024)
  | .video => some (4 * 1024 * 1024)
  | _ => none

structure Created (stream : StreamInfo) : Prop where
  streamId : stream.streamId < 256
  maxBufferSize : bufferSizeOf stream.mediaType = some stream.maxBufferSize

/-! ## Reading -/

/-- A PES packet as a receiver reads it. -/
structure Pes where
  streamId : Nat
  /-- `PES_packet_length`. -/
  packetLength : Nat
  ptsDtsFlags : Nat
  extension : Bool
  /-- `PES_header_data_length`. -/
  headerDataLength : Nat
  pts : Option Nat
  payload : Bytes
deriving DecidableEq, Repr

namespace Pes

/-- What its lengths say. -/
def size (p : Pes) : Nat := 6 + p.packetLength

def headerSize (p : Pes) : Nat := 9 + p.headerDataLength

end Pes

/-- A time, with its marker bits. -/
def readTimestamp (bits : List Bool) : Option Nat :=
  match readFields [4, 3, 1, 15, 1, 15, 1] bits with
  | some ([_, high, 1, middle, 1, low, 1], _) => some (high * 2 ^ 30 + middle * 2 ^ 15 + low)
  | _ => none

/-- The packet at the head of the bytes, as its lengths say, and what is behind it. -/
def readPes (bytes : Bytes) : Option (Pes × Bytes) :=
  match readFields [32, 16, 2, 2, 1, 1, 1, 1, 2, 1, 1, 1, 1, 1, 1, 8] (unpack bytes) with
  | some ([code, length, 2, _, _, _, _, _, flags, _, _, _, _, _, extension, dataLength], bits) =>
    if code / 256 = 1 ∧ 3 + dataLength ≤ length ∧ 6 + length ≤ bytes.length then
      some (⟨code % 256, length, flags, decide (extension = 1), dataLength,
        if 2 ≤ flags then readTimestamp bits else none,
        (bytes.take (6 + length)).drop (9 + dataLength)⟩, bytes.drop (6 + length))
    else none
  | _ => none

/-- The packets that bytes are, one behind the other. -/
def splitPes : Nat → Bytes → Option (List Pes)
  | _, [] => some []
  | 0, _ => none
  | fuel + 1, bytes => do
    let (p, rest) ← readPes bytes
    let ps ← splitPes fuel rest
    return p :: ps

/-- What is promised of packets from an offset in the buffer on. -/
def Promised (pts : Nat) : (offset : Nat) → (first : Bool) → List Pes → Prop
  | _, _, [] => True
  | offset, first, p :: ps =>
    p.size ≤ maxPesSize ∧ p.headerSize = (getPesHeaderSize offset p.ptsDtsFlags p.extension).1 ∧
      (offset + p.headerSize) % 4 = 0 ∧ p.pts = (if first then some (pts % 2 ^ 33) else none) ∧
      Promised pts (offset + p.size) false ps

/-- **The promise**: whatever headers are before, the packets are in the buffer behind them, and a
receiver gets the frame out of them. -/
def Encodes (tr : Track) (priv : Priv) (stream : StreamInfo) (pts dts : ℚ) (data : Bytes)
    (isKeyFrame : Bool) : Prop :=
  ∀ start : Bytes, start.length = headersSize priv stream isKeyFrame →
    ∃ out packets, encodeBytes tr stream pts dts data isKeyFrame start (allocSize data.length) =
        .ok (out.length, start ++ out) ∧
      splitPes out.length out = some packets ∧
      Promised (pts2PsTimestamp tr pts) start.length true packets ∧
      packets.flatMap Pes.payload = data

/-! ## A header -/

/-- The bytes that `put_pes_header` writes. -/
def PesPacket.header (p : PesPacket) : Bytes := pack (fieldBits (putPesHeader p))

def PesPacket.bytes (p : PesPacket) : Bytes := p.header ++ p.payload

/-- What `EncodePes` hands to `put_pes_header` for a packet at an offset: the header expected and the
size of the whole packet. -/
structure PesPacket.At (stream : StreamInfo) (offset : Nat) (p : PesPacket) : Prop where
  streamId : p.streamId = stream.streamId
  maxBufferSize : p.maxBufferSize = stream.maxBufferSize
  flag : p.ptsDtsFlag = if p.firstFrag then 2 else 0
  stuffSize : p.stuffSize = (getPesHeaderSize offset p.ptsDtsFlag p.firstFrag).2
  length : p.length + 6 = (getPesHeaderSize offset p.ptsDtsFlag p.firstFrag).1 + p.payload.length
  bounded : p.length + 6 ≤ maxPesSize

theorem Created.maxBufferSize_lt {stream : StreamInfo} (h : Created stream) :
    stream.maxBufferSize < 2 ^ 23 := by
  have hsize := h.maxBufferSize
  cases hm : stream.mediaType with
  | audio | video =>
    rw [hm] at hsize
    injection hsize with hsize
    omega
  | text | priv =>
    rw [hm] at hsize
    cases hsize

/-- Headers end at a multiple of four, with one to four bytes of stuffing. -/
theorem getPesHeaderSize_aligned (preSize ptsDtsFlag : Nat) (firstFrag : Bool) :
    (preSize + (getPesHeaderSize preSize ptsDtsFlag firstFrag).1) % 4 = 0 ∧
      (getPesHeaderSize preSize ptsDtsFlag firstFrag).2 ≤ 4 := by
  unfold getPesHeaderSize
  dsimp only
  generalize 9 + (if ptsDtsFlag = 2 then 5 else if ptsDtsFlag = 3 then 10 else 0) +
    (if firstFrag then 3 else 0) = headerSize
  omega

/-- **The size expected is that of the fields**. -/
theorem getPesHeaderSize_eq {p : PesPacket} {offset : Nat}
    (h : p.stuffSize = (getPesHeaderSize offset p.ptsDtsFlag p.firstFrag).2) :
    (getPesHeaderSize offset p.ptsDtsFlag p.firstFrag).1 = 9 + headerDataLength p := by
  rw [headerDataLength, h]
  unfold getPesHeaderSize
  dsimp only
  omega

theorem width_putPesHeader (p : PesPacket) :
    width (putPesHeader p) = 8 * (9 + headerDataLength p) := by
  have hstuff : width (List.replicate p.stuffSize (8, 0xff)) = p.stuffSize * 8 := width_replicate ..
  have htimes : width (putTimestamps p) =
      8 * (if p.ptsDtsFlag = 2 then 5 else if p.ptsDtsFlag = 3 then 10 else 0) := by
    unfold putTimestamps
    split
    · rfl
    · split <;> rfl
  have hext : width (putExtension p) = 8 * (if p.firstFrag then 3 else 0) := by
    unfold putExtension
    split <;> rfl
  have hfixed : width (putFixed p) = 72 := by simp [width, putFixed]
  rw [putPesHeader, width_append, width_append, width_append, hstuff, htimes, hext, hfixed,
    headerDataLength]
  omega

theorem dvd_putPesHeader (p : PesPacket) : 8 ∣ (fieldBits (putPesHeader p)).length := by
  rw [length_fieldBits, width_putPesHeader]
  exact Nat.dvd_mul_right 8 _

theorem length_header (p : PesPacket) : p.header.length = 9 + headerDataLength p := by
  rw [PesPacket.header, length_pack (dvd_putPesHeader p), length_fieldBits, width_putPesHeader,
    Nat.mul_div_cancel_left _ (by decide)]

theorem fits_putTimestamp {mark : Nat} (hmark : mark < 16) (ts : Nat) :
    ∀ f ∈ putTimestamp mark ts, f.2 < 2 ^ f.1 := by
  simp only [putTimestamp, List.forall_mem_cons]
  refine ⟨hmark, ?_, by decide, ?_, by decide, ?_, by decide, by simp⟩
  · exact Nat.mod_lt _ (by decide)
  · exact Nat.mod_lt _ (by decide)
  · exact Nat.mod_lt _ (by decide)

theorem fits_putFixed {p : PesPacket} (hid : p.streamId < 256) :
    ∀ f ∈ putFixed p, f.2 < 2 ^ f.1 := by
  have hcode : 0x100 ||| p.streamId < 2 ^ 32 := Nat.or_lt_two_pow (by decide) (by omega)
  have hbit : ∀ b : Bool, b.toNat < 2 ^ 1 := by decide
  simp only [putFixed, List.forall_mem_cons]
  refine ⟨hcode, ?_, by decide, by decide, ?_, hbit _, by decide, by decide, ?_, by decide, by decide,
    by decide, by decide, by decide, hbit _, ?_, by simp⟩
  · exact Nat.mod_lt _ (by decide)
  · show (if _ then 1 else 0) < 2 ^ 1
    split <;> decide
  · exact Nat.mod_lt _ (by decide)
  · exact Nat.mod_lt _ (by decide)

theorem fits_putExtension {p : PesPacket} (hsize : p.maxBufferSize < 2 ^ 23) :
    ∀ f ∈ putExtension p, f.2 < 2 ^ f.1 := by
  unfold putExtension
  split
  · simp only [List.forall_mem_cons]
    refine ⟨by decide, ?_, by simp⟩
    show (if _ then _ else _) < 2 ^ 16
    split
    · exact Nat.or_lt_two_pow (by decide) (by omega)
    · exact Nat.or_lt_two_pow (by decide) (by omega)
  · simp

/-- No assertion fails in a header. -/
theorem fits_putPesHeader {p : PesPacket} (hid : p.streamId < 256)
    (hsize : p.maxBufferSize < 2 ^ 23) : ∀ f ∈ putPesHeader p, f.2 < 2 ^ f.1 := by
  simp only [putPesHeader, List.forall_mem_append]
  refine ⟨⟨⟨fits_putFixed hid, ?_⟩, fits_putExtension hsize⟩, ?_⟩
  · unfold putTimestamps
    split
    · exact fits_putTimestamp (by decide) _
    · split
      · rw [List.forall_mem_append]
        exact ⟨fits_putTimestamp (by decide) _, fits_putTimestamp (by decide) _⟩
      · simp
  · intro f hf
    rw [List.eq_of_mem_replicate hf]
    decide

theorem putFields_putPesHeader {p : PesPacket} (hid : p.streamId < 256)
    (hsize : p.maxBufferSize < 2 ^ 23) {room : Int} (hroom : (p.header.length : Int) ≤ room) :
    putFields room (putPesHeader p) = .ok p.header := by
  have hfits : p.header.length ≤ room.toNat := by omega
  exact if_pos ⟨fits_putPesHeader hid hsize, hfits⟩

/-! ## A packet -/

/-- What a receiver reads of a packet. -/
def PesPacket.received (p : PesPacket) : Pes where
  streamId := p.streamId
  packetLength := p.length
  ptsDtsFlags := p.ptsDtsFlag
  extension := p.firstFrag
  headerDataLength := headerDataLength p
  pts := if p.firstFrag then some (p.pts % 2 ^ 33) else none
  payload := p.payload

theorem readTimestamp_eq {bits rest : List Bool} {mark a b c : Nat}
    (h : readFields [4, 3, 1, 15, 1, 15, 1] bits = some ([mark, a, 1, b, 1, c, 1], rest)) :
    readTimestamp bits = some (a * 2 ^ 30 + b * 2 ^ 15 + c) := by
  rw [readTimestamp, h]
  rfl

theorem readTimestamp_put (mark ts : Nat) (rest : List Bool) :
    readTimestamp (fieldBits (putTimestamp mark ts) ++ rest) = some (ts % 2 ^ 33) := by
  have hread := readFields_fieldBits (putTimestamp mark ts) rest
  have hvalues : (putTimestamp mark ts).map (fun f => f.2 % 2 ^ f.1) =
      [mark % 16, ts / 2 ^ 30 % 8, 1, ts / 2 ^ 15 % 2 ^ 15, 1, ts % 2 ^ 15, 1] := by
    simp [putTimestamp]
  have hwidths : (putTimestamp mark ts).map Prod.fst = [4, 3, 1, 15, 1, 15, 1] := rfl
  rw [hvalues, hwidths] at hread
  have hsum : ts / 2 ^ 30 % 8 * 2 ^ 30 + ts / 2 ^ 15 % 2 ^ 15 * 2 ^ 15 + ts % 2 ^ 15 =
      ts % 2 ^ 33 := by omega
  rw [readTimestamp_eq hread, hsum]

theorem readFixed {p : PesPacket} (hid : p.streamId < 256) (hlength : p.length < 2 ^ 16)
    (hflag : p.ptsDtsFlag < 4) (hdata : headerDataLength p < 2 ^ 8) (rest : List Bool) :
    ∃ priority alignment,
      readFields [32, 16, 2, 2, 1, 1, 1, 1, 2, 1, 1, 1, 1, 1, 1, 8] (fieldBits (putFixed p) ++ rest) =
        some ([0x100 + p.streamId, p.length, 2, 0, priority, alignment, 0, 0, p.ptsDtsFlag, 0, 0, 0,
          0, 0, p.firstFrag.toNat, headerDataLength p], rest) := by
  have hread := readFields_fieldBits (putFixed p) rest
  have hcode : (0x100 ||| p.streamId) = 0x100 + p.streamId :=
    (Nat.two_pow_add_eq_or_of_lt (i := 8) hid 1).symm
  have hcode32 : (0x100 + p.streamId) % 2 ^ 32 = 0x100 + p.streamId := Nat.mod_eq_of_lt (by omega)
  have hflag2 : p.ptsDtsFlag % 2 ^ 2 = p.ptsDtsFlag := Nat.mod_eq_of_lt hflag
  have hfirst : p.firstFrag.toNat % 2 = p.firstFrag.toNat :=
    Nat.mod_eq_of_lt (Bool.toNat_lt p.firstFrag)
  refine ⟨(if p.streamId &&& 0xe0 = 0xe0 then 1 else 0) % 2 ^ 1, p.dataAlignment.toNat % 2 ^ 1, ?_⟩
  have hwidths : (putFixed p).map Prod.fst = [32, 16, 2, 2, 1, 1, 1, 1, 2, 1, 1, 1, 1, 1, 1, 8] := rfl
  have hvalues : (putFixed p).map (fun f => f.2 % 2 ^ f.1) =
      [0x100 + p.streamId, p.length, 2, 0, (if p.streamId &&& 0xe0 = 0xe0 then 1 else 0) % 2 ^ 1,
        p.dataAlignment.toNat % 2 ^ 1, 0, 0, p.ptsDtsFlag, 0, 0, 0, 0, 0, p.firstFrag.toNat,
        headerDataLength p] := by
    simp only [putFixed, List.map_cons, List.map_nil, hcode, hcode32, Nat.mod_eq_of_lt hlength,
      Nat.mod_eq_of_lt hflag, hflag2, Nat.mod_eq_of_lt hdata, Nat.pow_one, hfirst]
    norm_num
  rw [hwidths, hvalues] at hread
  exact hread

theorem readPes_eq {bytes : Bytes} {bits : List Bool} {code length dataLength flags extension : Nat}
    {priority alignment : Nat} {p : Pes}
    (h : readFields [32, 16, 2, 2, 1, 1, 1, 1, 2, 1, 1, 1, 1, 1, 1, 8] (unpack bytes) =
      some ([code, length, 2, 0, priority, alignment, 0, 0, flags, 0, 0, 0, 0, 0, extension,
        dataLength], bits))
    (hcode : code / 256 = 1) (hdata : 3 + dataLength ≤ length) (hlength : 6 + length ≤ bytes.length)
    (hp : p = ⟨code % 256, length, flags, decide (extension = 1), dataLength,
      if 2 ≤ flags then readTimestamp bits else none,
      (bytes.take (6 + length)).drop (9 + dataLength)⟩) :
    readPes bytes = some (p, bytes.drop (6 + length)) := by
  rw [readPes, h, hp]
  exact if_pos ⟨hcode, hdata, hlength⟩

/-- The lengths of a packet are those of its bytes. -/
structure PesPacket.Sized (p : PesPacket) : Prop where
  streamId : p.streamId < 256
  flag : p.ptsDtsFlag = if p.firstFrag then 2 else 0
  stuffSize : p.stuffSize ≤ 4
  length : p.length + 6 = 9 + headerDataLength p + p.payload.length
  bounded : p.length + 6 ≤ maxPesSize

theorem PesPacket.At.sized {stream : StreamInfo} (hc : Created stream) {offset : Nat} {p : PesPacket}
    (h : p.At stream offset) : p.Sized where
  streamId := by
    rw [h.streamId]
    exact hc.streamId
  flag := h.flag
  stuffSize := by
    rw [h.stuffSize]
    exact (getPesHeaderSize_aligned ..).2
  length := by rw [h.length, getPesHeaderSize_eq h.stuffSize]
  bounded := h.bounded

theorem PesPacket.Sized.length_bytes {p : PesPacket} (h : p.Sized) :
    p.bytes.length = 6 + p.length := by
  rw [PesPacket.bytes, List.length_append, length_header, ← h.length, Nat.add_comm]

/-- **A packet is read as it was written**, whatever is behind it. -/
theorem PesPacket.Sized.readPes {p : PesPacket} (h : p.Sized) (rest : Bytes) :
    readPes (p.bytes ++ rest) = some (p.received, rest) := by
  have hstuff := h.stuffSize
  have hbounded := h.bounded
  unfold maxPesSize at hbounded
  have hflag4 : p.ptsDtsFlag < 4 := by
    rw [h.flag]
    split <;> decide
  have hdata : headerDataLength p < 2 ^ 8 := by
    have hfirst : (if p.firstFrag then 3 else 0) ≤ 3 := by split <;> decide
    have htimes : (if p.ptsDtsFlag = 2 then 5 else if p.ptsDtsFlag = 3 then 10 else 0) ≤ 10 := by
      split
      · decide
      · split <;> decide
    unfold headerDataLength
    omega
  have hlength := h.length
  have hstream := h.streamId
  obtain ⟨priority, alignment, hfixed⟩ := readFixed h.streamId (by omega) hflag4 hdata
    (fieldBits (putTimestamps p) ++ (fieldBits (putExtension p) ++
      (fieldBits (List.replicate p.stuffSize (8, 0xff)) ++ unpack (p.payload ++ rest))))
  have hbits : unpack (p.bytes ++ rest) = fieldBits (putFixed p) ++ (fieldBits (putTimestamps p) ++
      (fieldBits (putExtension p) ++ (fieldBits (List.replicate p.stuffSize (8, 0xff)) ++
        unpack (p.payload ++ rest)))) := by
    rw [PesPacket.bytes, List.append_assoc, unpack_append, PesPacket.header,
      unpack_pack (dvd_putPesHeader p), putPesHeader, fieldBits_append, fieldBits_append,
      fieldBits_append, List.append_assoc, List.append_assoc, List.append_assoc]
  rw [← hbits] at hfixed
  have hsize : (p.bytes ++ rest).length = 6 + p.length + rest.length := by
    rw [List.length_append, h.length_bytes]
  have hdrop : (p.bytes ++ rest).drop (6 + p.length) = rest := List.drop_left' h.length_bytes
  have htake : ((p.bytes ++ rest).take (6 + p.length)).drop (9 + headerDataLength p) =
      p.payload := by
    rw [List.take_left' h.length_bytes, PesPacket.bytes, List.drop_left' (length_header p)]
  rw [readPes_eq (p := p.received) hfixed (by omega) (by omega) (by omega) ?_, hdrop]
  rw [htake]
  have hid : (0x100 + p.streamId) % 256 = p.streamId := by omega
  unfold PesPacket.received
  rw [hid, h.flag]
  cases hfirst : p.firstFrag with
  | false => rfl
  | true =>
    have htimes : putTimestamps p = putTimestamp 2 p.pts := by
      rw [putTimestamps, h.flag, hfirst]
      rfl
    rw [htimes, readTimestamp_put]
    rfl

/-! ## The loop -/

section Loop

variable (stream : StreamInfo) (pts dts maxSize : Nat)

/-- The payload that goes into a packet. -/
def partialSize (headerSize len : Nat) : Nat :=
  if headerSize + len > maxPesSize then maxPesSize - headerSize else len

theorem partialSize_le (headerSize len : Nat) : partialSize headerSize len ≤ len := by
  unfold partialSize
  split <;> omega

theorem add_partialSize_le {headerSize : Nat} (h : headerSize < maxPesSize) (len : Nat) :
    headerSize + partialSize headerSize len ≤ maxPesSize := by
  unfold partialSize
  split <;> omega

theorem partialSize_pos {headerSize len : Nat} (h : headerSize < maxPesSize) (hlen : 0 < len) :
    0 < partialSize headerSize len := by
  unfold partialSize
  split <;> omega

/-- The packet of a turn of the loop. -/
def nextPacket (bufSize : Nat) (firstFrag : Bool) (data : Bytes) : PesPacket :=
  let header := getPesHeaderSize bufSize (if firstFrag then 2 else 0) firstFrag
  { streamId := stream.streamId
    length := header.1 + partialSize header.1 data.length - 6
    stuffSize := header.2
    firstFrag
    dataAlignment := decide (stream.mediaType = .video) && firstFrag
    ptsDtsFlag := if firstFrag then 2 else 0
    pts
    dts
    maxBufferSize := stream.maxBufferSize
    payload := data.take (partialSize header.1 data.length) }

theorem six_le_getPesHeaderSize (preSize ptsDtsFlag : Nat) (firstFrag : Bool) :
    6 ≤ (getPesHeaderSize preSize ptsDtsFlag firstFrag).1 := by
  unfold getPesHeaderSize
  dsimp only
  omega

theorem length_payload (bufSize : Nat) (firstFrag : Bool) (data : Bytes) :
    (nextPacket stream pts dts bufSize firstFrag data).payload.length =
      partialSize (getPesHeaderSize bufSize (if firstFrag then 2 else 0) firstFrag).1
        data.length :=
  (List.length_take ..).trans (Nat.min_eq_left (partialSize_le ..))

theorem nextPacket_at (bufSize : Nat) (firstFrag : Bool) (data : Bytes) :
    (nextPacket stream pts dts bufSize firstFrag data).At stream bufSize := by
  have hsix := six_le_getPesHeaderSize bufSize (if firstFrag then 2 else 0) firstFrag
  have hlt := getPesHeaderSize_lt bufSize (if firstFrag then 2 else 0) firstFrag
  refine ⟨rfl, rfl, rfl, rfl, ?_, ?_⟩
  · rw [length_payload]
    show _ - 6 + 6 = _
    exact Nat.sub_add_cancel (by omega)
  · show _ - 6 + 6 ≤ _
    rw [Nat.sub_add_cancel (by omega)]
    exact add_partialSize_le hlt _

theorem encodePesLoop_step (bufSize : Nat) (firstFrag : Bool) {data : Bytes} (hne : data ≠ []) :
    encodePesLoop stream pts dts maxSize bufSize (if firstFrag then 2 else 0) firstFrag data =
      let p := nextPacket stream pts dts bufSize firstFrag data
      if p.length + 6 + bufSize > maxSize then none
      else (encodePesLoop stream pts dts maxSize (bufSize + (p.length + 6)) 0 false
        (data.drop p.payload.length)).map fun r => (p :: r.1, r.2) := by
  have hlength : (nextPacket stream pts dts bufSize firstFrag data).length + 6 =
      (getPesHeaderSize bufSize (if firstFrag then 2 else 0) firstFrag).1 +
        (nextPacket stream pts dts bufSize firstFrag data).payload.length :=
    (nextPacket_at ..).length
  dsimp only
  rw [encodePesLoop, if_neg hne, hlength, length_payload]
  rfl

theorem encodeLoop_step (buf : Bytes) (firstFrag : Bool) {data : Bytes} (hne : data ≠ []) :
    encodeLoop stream pts dts maxSize buf (if firstFrag then 2 else 0) firstFrag data =
      let p := nextPacket stream pts dts buf.length firstFrag data
      if p.length + 6 + buf.length > maxSize then .ok none
      else match putFields (int32OfSize (maxSize - buf.length)) (putPesHeader p) with
        | .error fault => .error fault
        | .ok bytes => encodeLoop stream pts dts maxSize (buf ++ bytes ++ p.payload) 0 false
          (data.drop p.payload.length) := by
  have hlength : (nextPacket stream pts dts buf.length firstFrag data).length + 6 =
      (getPesHeaderSize buf.length (if firstFrag then 2 else 0) firstFrag).1 +
        (nextPacket stream pts dts buf.length firstFrag data).payload.length :=
    (nextPacket_at ..).length
  dsimp only
  rw [encodeLoop, if_neg hne, hlength, length_payload]
  rfl

theorem payload_pos (bufSize : Nat) (firstFrag : Bool) {data : Bytes} (hne : data ≠ []) :
    0 < (nextPacket stream pts dts bufSize firstFrag data).payload.length := by
  rw [length_payload]
  exact partialSize_pos (getPesHeaderSize_lt ..) (List.length_pos_iff.2 hne)

variable {stream maxSize}

/-- **The bytes are those of the packets** that the model without bytes gives. -/
theorem encodeLoop_eq (hc : Created stream) (hmax : maxSize < 2 ^ 31) (buf : Bytes)
    (firstFrag : Bool) (data : Bytes) :
    encodeLoop stream pts dts maxSize buf (if firstFrag then 2 else 0) firstFrag data =
      .ok ((encodePesLoop stream pts dts maxSize buf.length (if firstFrag then 2 else 0) firstFrag
        data).map fun r => buf ++ r.1.flatMap PesPacket.bytes) := by
  induction hn : data.length using Nat.strongRecOn generalizing buf firstFrag data with
  | ind n ih =>
    by_cases hnil : data = []
    · subst hnil
      rw [encodeLoop, encodePesLoop, if_pos rfl, if_pos rfl]
      simp
    · rw [encodeLoop_step _ _ _ _ _ _ hnil, encodePesLoop_step _ _ _ _ _ _ hnil]
      have hpos := payload_pos stream pts dts buf.length firstFrag hnil
      have hat := nextPacket_at stream pts dts buf.length firstFrag data
      generalize nextPacket stream pts dts buf.length firstFrag data = p at hpos hat ⊢
      have hsized := hat.sized hc
      dsimp only
      by_cases hfull : p.length + 6 + buf.length > maxSize
      · rw [if_pos hfull, if_pos hfull]
        rfl
      · have hbytes : p.header.length + p.payload.length = p.length + 6 := by
          rw [length_header, hsized.length]
        have hroom : (p.header.length : Int) ≤ int32OfSize (maxSize - buf.length) := by
          rw [int32OfSize_eq (by omega)]
          omega
        have hput := putFields_putPesHeader hsized.streamId
          (hat.maxBufferSize ▸ hc.maxBufferSize_lt) hroom
        have hlen : (buf ++ p.header ++ p.payload).length = buf.length + (p.length + 6) := by
          rw [List.length_append, List.length_append]
          omega
        have hdrop : (data.drop p.payload.length).length = data.length - p.payload.length :=
          List.length_drop
        have hdata := List.length_pos_iff.2 hnil
        have hrec := ih _ (by omega) (buf ++ p.header ++ p.payload) false
          (data.drop p.payload.length) rfl
        rw [hlen] at hrec
        rw [if_neg hfull, if_neg hfull, hput]
        refine hrec.trans ?_
        rw [Option.map_map]
        congr 2
        funext r
        simp [PesPacket.bytes]

/-- Packets from an offset on, as the loop makes them. -/
def Laid (stream : StreamInfo) (pts : Nat) : (offset : Nat) → (first : Bool) → List PesPacket → Prop
  | _, _, [] => True
  | offset, first, p :: ps =>
    p.At stream offset ∧ p.firstFrag = first ∧ p.pts = pts ∧
      Laid stream pts (offset + (p.length + 6)) false ps

theorem getPesHeaderSize_le (preSize ptsDtsFlag : Nat) (firstFrag : Bool) :
    (getPesHeaderSize preSize ptsDtsFlag firstFrag).1 ≤ 100 := by
  unfold getPesHeaderSize
  dsimp only
  split
  · split <;> omega
  · split <;> split <;> omega

/-- What a frame can take in packets: 256 bytes for each header are more than enough. -/
def pesRoom (len : Nat) : Nat :=
  (len + maxPesSize - 100 - 1) / (maxPesSize - 100) * 256 + len

theorem pesRoom_eq (len : Nat) : pesRoom len = (len + 8091) / 8092 * 256 + len := by
  unfold pesRoom maxPesSize
  omega

/-- A packet leaves room for what is behind it. -/
theorem pesRoom_drop {headerSize len : Nat} (hheader : headerSize ≤ 100) (hlen : 0 < len) :
    headerSize + partialSize headerSize len + pesRoom (len - partialSize headerSize len) ≤
      pesRoom len := by
  unfold partialSize maxPesSize
  split
  · rw [pesRoom_eq, pesRoom_eq]
    omega
  · rw [Nat.sub_self, pesRoom_eq, pesRoom_eq]
    omega

variable (stream)

/-- **There is always room**: the loop ends with packets that are the frame. -/
theorem encodePesLoop_room (bufSize : Nat) (firstFrag : Bool) (data : Bytes)
    (hroom : bufSize + pesRoom data.length ≤ maxSize) :
    ∃ packets, encodePesLoop stream pts dts maxSize bufSize (if firstFrag then 2 else 0) firstFrag
        data = some (packets, bufSize + (packets.map fun p => p.length + 6).sum) ∧
      (packets.map fun p => p.length + 6).sum ≤ pesRoom data.length ∧
      Laid stream pts bufSize firstFrag packets ∧ packets.flatMap PesPacket.payload = data := by
  induction hn : data.length using Nat.strongRecOn generalizing bufSize firstFrag data with
  | ind n ih =>
    subst hn
    by_cases hnil : data = []
    · subst hnil
      refine ⟨[], ?_, Nat.zero_le _, trivial, rfl⟩
      rw [encodePesLoop, if_pos rfl]
      rfl
    · have hlen := length_payload stream pts dts bufSize firstFrag data
      have hat := nextPacket_at stream pts dts bufSize firstFrag data
      have hle := getPesHeaderSize_le bufSize (if firstFrag then 2 else 0) firstFrag
      have hpos := payload_pos stream pts dts bufSize firstFrag hnil
      have hlength := hat.length
      have hbounded := hat.bounded
      have hpts : (nextPacket stream pts dts bufSize firstFrag data).pts = pts := rfl
      have hfirst : (nextPacket stream pts dts bufSize firstFrag data).firstFrag = firstFrag := rfl
      have hflag := hat.flag
      have htake : (nextPacket stream pts dts bufSize firstFrag data).payload =
          data.take (nextPacket stream pts dts bufSize firstFrag data).payload.length := by
        rw [hlen]
        rfl
      rw [encodePesLoop_step _ _ _ _ _ _ hnil]
      generalize nextPacket stream pts dts bufSize firstFrag data = p at *
      rw [hflag, hfirst] at hlength
      have hdrop := pesRoom_drop hle (List.length_pos_iff.2 hnil)
      rw [← hlen] at hdrop
      have hrest : (data.drop p.payload.length).length = data.length - p.payload.length :=
        List.length_drop
      have hdata := List.length_pos_iff.2 hnil
      obtain ⟨packets, hloop, hsum, hlaid, hpayload⟩ := ih _ (by omega) (bufSize + (p.length + 6)) false
        (data.drop p.payload.length) (by rw [hrest]; omega) rfl
      have hloop' : encodePesLoop stream pts dts maxSize (bufSize + (p.length + 6)) 0 false
          (data.drop p.payload.length) = _ := hloop
      refine ⟨p :: packets, ?_, ?_, ⟨hat, hfirst, hpts, hlaid⟩, ?_⟩
      · dsimp only
        rw [if_neg (by omega), hloop', Option.map_some, List.map_cons, List.sum_cons,
          Nat.add_assoc bufSize]
      · rw [List.map_cons, List.sum_cons]
        rw [hrest] at hsum
        omega
      · rw [List.flatMap_cons, hpayload]
        exact (congrArg (· ++ _) htake).trans (List.take_append_drop ..)

end Loop

/-! ## The whole frame -/

theorem splitPes_eq {p : Pes} {bytes rest : Bytes} (fuel : Nat) (hne : bytes ≠ [])
    (h : readPes bytes = some (p, rest)) :
    splitPes (fuel + 1) bytes = (splitPes fuel rest).map (p :: ·) := by
  obtain ⟨b, bs, rfl⟩ := List.exists_cons_of_ne_nil hne
  show (readPes (b :: bs) >>= _) = _
  rw [h]
  show (splitPes fuel rest >>= _) = _
  cases splitPes fuel rest <;> rfl

theorem Laid.splitPes {stream : StreamInfo} (hc : Created stream) {pts offset : Nat} {first : Bool}
    {ps : List PesPacket} (h : Laid stream pts offset first ps) {fuel : Nat}
    (hfuel : (ps.flatMap PesPacket.bytes).length ≤ fuel) :
    splitPes fuel (ps.flatMap PesPacket.bytes) = some (ps.map PesPacket.received) := by
  induction ps generalizing offset first fuel with
  | nil => cases fuel <;> rfl
  | cons p ps ih =>
    obtain ⟨hat, -, -, hrest⟩ := h
    have hsized := hat.sized hc
    have hlen := hsized.length_bytes
    rw [List.flatMap_cons] at hfuel ⊢
    rw [List.length_append] at hfuel
    have hne : p.bytes ++ ps.flatMap PesPacket.bytes ≠ [] := by
      refine List.length_pos_iff.1 ?_
      rw [List.length_append]
      omega
    cases fuel with
    | zero => omega
    | succ fuel =>
      rw [splitPes_eq fuel hne (hsized.readPes _), ih hrest (by omega)]
      rfl

theorem Laid.promised {stream : StreamInfo} {pts offset : Nat} {first : Bool} {ps : List PesPacket} (h : Laid stream pts offset first ps) :
    Promised pts offset first (ps.map PesPacket.received) := by
  induction ps generalizing offset first with
  | nil => trivial
  | cons p ps ih =>
    obtain ⟨hat, hfirst, hpts, hrest⟩ := h
    have hsize : p.received.size = p.length + 6 := Nat.add_comm 6 p.length
    have hheader : p.received.headerSize =
        (getPesHeaderSize offset p.ptsDtsFlag p.firstFrag).1 := (getPesHeaderSize_eq hat.stuffSize).symm
    refine ⟨?_, hheader, ?_, ?_, ?_⟩
    · rw [hsize]
      exact hat.bounded
    · rw [hheader]
      exact (getPesHeaderSize_aligned ..).1
    · rw [← hfirst, ← hpts]
      rfl
    · rw [hsize]
      exact ih hrest

theorem Laid.length_bytes {stream : StreamInfo} (hc : Created stream) {pts offset : Nat}
    {first : Bool} {ps : List PesPacket} (h : Laid stream pts offset first ps) :
    (ps.flatMap PesPacket.bytes).length = (ps.map fun p => p.length + 6).sum := by
  induction ps generalizing offset first with
  | nil => rfl
  | cons p ps ih =>
    obtain ⟨hat, -, -, hrest⟩ := h
    rw [List.flatMap_cons, List.length_append, ih hrest, (hat.sized hc).length_bytes, List.map_cons,
      List.sum_cons, Nat.add_comm 6]

theorem length_systemStreams (privateCoded : Bool) (ss : List StreamInfo) :
    (systemStreams privateCoded ss).length ≤ ss.length := by
  induction ss generalizing privateCoded with
  | nil => exact le_rfl
  | cons s ss ih =>
    unfold systemStreams
    split
    · split
      · exact (ih _).trans (Nat.le_succ _)
      · exact Nat.succ_le_succ (ih _)
    · split
      · exact Nat.succ_le_succ (ih _)
      · exact Nat.succ_le_succ (ih _)

/-- What is set aside for the headers is enough for eight streams. -/
theorem headersSize_le {priv : Priv} (h : priv.streams.length ≤ 8) (stream : StreamInfo)
    (isKeyFrame : Bool) : headersSize priv stream isKeyFrame ≤ 256 := by
  have hreduce : priv.streams.reduceOption.length ≤ 8 :=
    (List.length_filterMap_le id priv.streams).trans h
  have hsystem : (putSystemHeader priv).streams.length ≤ priv.streams.reduceOption.length :=
    length_systemStreams false _
  have hmap : (putSystemMapHeader priv).streams.length = priv.streams.reduceOption.length :=
    List.length_map _
  unfold headersSize packHeaderSize SystemHeader.size SystemMapHeader.size
  split
  · split <;> omega
  · omega

theorem allocSize_eq (len : Nat) : allocSize len = 256 + pesRoom len + 1024 := by
  unfold allocSize pesRoom
  omega

/-- **PES encoding is lossless and bounded**, for every frame that is not withheld; of a frame that
is, nothing is written. -/
theorem encodes (tr : Track) (priv : Priv) (stream : StreamInfo) (pts dts : ℚ) (data : Bytes)
    (isKeyFrame : Bool) (hc : Created stream) (hstreams : priv.streams.length ≤ 8)
    (hsize : allocSize data.length < 2 ^ 31) :
    (withheld tr stream isKeyFrame = false → Encodes tr priv stream pts dts data isKeyFrame) ∧
      (withheld tr stream isKeyFrame = true → ∀ start maxSize,
        encodeBytes tr stream pts dts data isKeyFrame start maxSize = .ok (0, start)) := by
  have hgate : (!tr.onlyKeyFrame || isKeyFrame || decide (stream.mediaType = .audio)) =
      !withheld tr stream isKeyFrame := by
    unfold withheld
    cases tr.onlyKeyFrame <;> cases isKeyFrame <;> simp
  constructor
  · intro hwithheld start hstart
    have hroom : start.length + pesRoom data.length ≤ allocSize data.length := by
      have := headersSize_le hstreams stream isKeyFrame
      rw [hstart, allocSize_eq]
      omega
    obtain ⟨packets, hloop, hsum, hlaid, hpayload⟩ := encodePesLoop_room stream
      (pts2PsTimestamp tr pts) (pts2PsTimestamp tr dts) start.length true data hroom
    have hbytes : encodeLoop stream (pts2PsTimestamp tr pts) (pts2PsTimestamp tr dts)
        (allocSize data.length) start 2 true data =
          .ok (some (start ++ packets.flatMap PesPacket.bytes)) := by
      refine (encodeLoop_eq _ _ hc hsize start true data).trans ?_
      rw [hloop]
      rfl
    have hlen : (packets.flatMap PesPacket.bytes).length = (packets.map fun p => p.length + 6).sum :=
      hlaid.length_bytes hc
    refine ⟨packets.flatMap PesPacket.bytes, packets.map PesPacket.received, ?_,
      hlaid.splitPes hc le_rfl, hlaid.promised, ?_⟩
    · have hout : (start ++ packets.flatMap PesPacket.bytes).length - start.length =
          (packets.flatMap PesPacket.bytes).length := by
        rw [List.length_append, Nat.add_sub_cancel_left]
      have hret : int32OfSize (packets.flatMap PesPacket.bytes).length =
          (packets.flatMap PesPacket.bytes).length := int32OfSize_eq (by omega)
      rw [encodeBytes, hgate, hwithheld, hbytes, ← hret, ← hout]
      rfl
    · rw [List.flatMap_map]
      exact hpayload
  · intro hwithheld start maxSize
    rw [encodeBytes, hgate, hwithheld]
    rfl

/-- A video stream and a client that wants key frames only. -/
def keyFrameTrack : Track := ⟨90000, none, true⟩

def videoStream : StreamInfo := ⟨0xe0, 0x1b, .video, 4 * 1024 * 1024⟩

def videoPriv : Priv := { muxRate := 1, audioBound := 0, videoBound := 1, streams := [some videoStream] }

theorem videoStream_created : Created videoStream := ⟨by decide, rfl⟩

/-- A frame that is not a key frame is not written for such a client. -/
theorem other_frame_withheld : ¬ ∀ (tr : Track) (priv : Priv) (stream : StreamInfo) (pts dts : ℚ)
    (data : Bytes) (isKeyFrame : Bool), Created stream → priv.streams.length ≤ 8 → data ≠ [] →
      allocSize data.length < 2 ^ 31 → Encodes tr priv stream pts dts data isKeyFrame := by
  intro h
  obtain ⟨out, packets, hret, hsplit, -, hdata⟩ := h keyFrameTrack videoPriv videoStream 0 0 [1] false
    videoStream_created (by decide) (by decide) (by decide) (List.replicate 14 0) (by decide)
  have hnothing : encodeBytes keyFrameTrack videoStream 0 0 [1] false (List.replicate 14 0)
      (allocSize 1) = .ok (0, List.replicate 14 0) := rfl
  have hout : out = [] := by
    rw [List.length_singleton, hnothing] at hret
    injection hret with hret
    exact List.length_eq_zero_iff.1 (Int.ofNat.inj (Prod.mk.inj hret).1.symm)
  subst hout
  cases hsplit
  cases hdata

/-- A byte of a stream for a client that wants all frames. -/
theorem encodes_byte : Encodes ⟨90000, none, false⟩ videoPriv videoStream 0 0 [1] false :=
  (encodes ⟨90000, none, false⟩ videoPriv videoStream 0 0 [1] false videoStream_created (by decide)
    (by decide)).1 rfl

end Mp2p

end StreamSwitch
