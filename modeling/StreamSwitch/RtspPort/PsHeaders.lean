import Mathlib.Data.List.ReduceOption
import StreamSwitch.Lib.Crc
import StreamSwitch.RtspPort.PesEncoding
import StreamSwitch.RtspPort.PutBits

/-!
# The headers of a program stream

`put_pack_header`, `put_system_header`, `put_system_map_header` and `av_crc` of `media/parser/mp2p.cc`,
with the bits that they write. A header is a record for the bit writer; its length is patched
afterwards, and the checksum of the map is stored behind it without a look at the buffer.
-/

namespace StreamSwitch

namespace ProgramStream

open Bits PutBits
open Mp2p (Priv)

/-! ## The checksum -/

def avCrcTable : List (BitVec 32) := [
  0x00000000, 0xB71DC104, 0x6E3B8209, 0xD926430D, 0xDC760413, 0x6B6BC517,
  0xB24D861A, 0x0550471E, 0xB8ED0826, 0x0FF0C922, 0xD6D68A2F, 0x61CB4B2B,
  0x649B0C35, 0xD386CD31, 0x0AA08E3C, 0xBDBD4F38, 0x70DB114C, 0xC7C6D048,
  0x1EE09345, 0xA9FD5241, 0xACAD155F, 0x1BB0D45B, 0xC2969756, 0x758B5652,
  0xC836196A, 0x7F2BD86E, 0xA60D9B63, 0x11105A67, 0x14401D79, 0xA35DDC7D,
  0x7A7B9F70, 0xCD665E74, 0xE0B62398, 0x57ABE29C, 0x8E8DA191, 0x39906095,
  0x3CC0278B, 0x8BDDE68F, 0x52FBA582, 0xE5E66486, 0x585B2BBE, 0xEF46EABA,
  0x3660A9B7, 0x817D68B3, 0x842D2FAD, 0x3330EEA9, 0xEA16ADA4, 0x5D0B6CA0,
  0x906D32D4, 0x2770F3D0, 0xFE56B0DD, 0x494B71D9, 0x4C1B36C7, 0xFB06F7C3,
  0x2220B4CE, 0x953D75CA, 0x28803AF2, 0x9F9DFBF6, 0x46BBB8FB, 0xF1A679FF,
  0xF4F63EE1, 0x43EBFFE5, 0x9ACDBCE8, 0x2DD07DEC, 0x77708634, 0xC06D4730,
  0x194B043D, 0xAE56C539, 0xAB068227, 0x1C1B4323, 0xC53D002E, 0x7220C12A,
  0xCF9D8E12, 0x78804F16, 0xA1A60C1B, 0x16BBCD1F, 0x13EB8A01, 0xA4F64B05,
  0x7DD00808, 0xCACDC90C, 0x07AB9778, 0xB0B6567C, 0x69901571, 0xDE8DD475,
  0xDBDD936B, 0x6CC0526F, 0xB5E61162, 0x02FBD066, 0xBF469F5E, 0x085B5E5A,
  0xD17D1D57, 0x6660DC53, 0x63309B4D, 0xD42D5A49, 0x0D0B1944, 0xBA16D840,
  0x97C6A5AC, 0x20DB64A8, 0xF9FD27A5, 0x4EE0E6A1, 0x4BB0A1BF, 0xFCAD60BB,
  0x258B23B6, 0x9296E2B2, 0x2F2BAD8A, 0x98366C8E, 0x41102F83, 0xF60DEE87,
  0xF35DA999, 0x4440689D, 0x9D662B90, 0x2A7BEA94, 0xE71DB4E0, 0x500075E4,
  0x892636E9, 0x3E3BF7ED, 0x3B6BB0F3, 0x8C7671F7, 0x555032FA, 0xE24DF3FE,
  0x5FF0BCC6, 0xE8ED7DC2, 0x31CB3ECF, 0x86D6FFCB, 0x8386B8D5, 0x349B79D1,
  0xEDBD3ADC, 0x5AA0FBD8, 0xEEE00C69, 0x59FDCD6D, 0x80DB8E60, 0x37C64F64,
  0x3296087A, 0x858BC97E, 0x5CAD8A73, 0xEBB04B77, 0x560D044F, 0xE110C54B,
  0x38368646, 0x8F2B4742, 0x8A7B005C, 0x3D66C158, 0xE4408255, 0x535D4351,
  0x9E3B1D25, 0x2926DC21, 0xF0009F2C, 0x471D5E28, 0x424D1936, 0xF550D832,
  0x2C769B3F, 0x9B6B5A3B, 0x26D61503, 0x91CBD407, 0x48ED970A, 0xFFF0560E,
  0xFAA01110, 0x4DBDD014, 0x949B9319, 0x2386521D, 0x0E562FF1, 0xB94BEEF5,
  0x606DADF8, 0xD7706CFC, 0xD2202BE2, 0x653DEAE6, 0xBC1BA9EB, 0x0B0668EF,
  0xB6BB27D7, 0x01A6E6D3, 0xD880A5DE, 0x6F9D64DA, 0x6ACD23C4, 0xDDD0E2C0,
  0x04F6A1CD, 0xB3EB60C9, 0x7E8D3EBD, 0xC990FFB9, 0x10B6BCB4, 0xA7AB7DB0,
  0xA2FB3AAE, 0x15E6FBAA, 0xCCC0B8A7, 0x7BDD79A3, 0xC660369B, 0x717DF79F,
  0xA85BB492, 0x1F467596, 0x1A163288, 0xAD0BF38C, 0x742DB081, 0xC3307185,
  0x99908A5D, 0x2E8D4B59, 0xF7AB0854, 0x40B6C950, 0x45E68E4E, 0xF2FB4F4A,
  0x2BDD0C47, 0x9CC0CD43, 0x217D827B, 0x9660437F, 0x4F460072, 0xF85BC176,
  0xFD0B8668, 0x4A16476C, 0x93300461, 0x242DC565, 0xE94B9B11, 0x5E565A15,
  0x87701918, 0x306DD81C, 0x353D9F02, 0x82205E06, 0x5B061D0B, 0xEC1BDC0F,
  0x51A69337, 0xE6BB5233, 0x3F9D113E, 0x8880D03A, 0x8DD09724, 0x3ACD5620,
  0xE3EB152D, 0x54F6D429, 0x7926A9C5, 0xCE3B68C1, 0x171D2BCC, 0xA000EAC8,
  0xA550ADD6, 0x124D6CD2, 0xCB6B2FDF, 0x7C76EEDB, 0xC1CBA1E3, 0x76D660E7,
  0xAFF023EA, 0x18EDE2EE, 0x1DBDA5F0, 0xAAA064F4, 0x738627F9, 0xC49BE6FD,
  0x09FDB889, 0xBEE0798D, 0x67C63A80, 0xD0DBFB84, 0xD58BBC9A, 0x62967D9E,
  0xBBB03E93, 0x0CADFF97, 0xB110B0AF, 0x060D71AB, 0xDF2B32A6, 0x6836F3A2,
  0x6D66B4BC, 0xDA7B75B8, 0x035D36B5, 0xB440F7B1, 0x00000001]

/-- `av_crc`. -/
def avCrc (crc : BitVec 32) (buffer : Bytes) : BitVec 32 :=
  buffer.foldl (fun crc b => avCrcTable.getD (crc.setWidth 8 ^^^ b.toBitVec).toNat 0 ^^^ crc >>> 8) crc

/-! ## Headers -/

/-- A field for `put_bits`, or for `put_bits32`. -/
def callOf (f : Field) : Call := if f.1 = 32 then .bits32 (UInt32.ofNat f.2) else .bits f.1 f.2

/-- A record at the head of a buffer: the buffer then, and the size of the record. -/
def putRecord (buffer : Bytes) (fs : List Field) : Except PutBits.Fault (Bytes × Nat) :=
  writeCalls buffer (fs.map callOf)

def packFields (priv : Priv) (timestamp : Nat) : List Field :=
  [(32, 0x1ba), (2, 1), (3, timestamp / 2 ^ 30 % 8), (1, 1), (15, timestamp / 2 ^ 15 % 2 ^ 15), (1, 1),
    (15, timestamp % 2 ^ 15), (1, 1), (9, 0), (1, 1), (22, priv.muxRate), (1, 1), (1, 1), (5, 0x1f),
    (3, 0)]

def putPackHeader (priv : Priv) (buffer : Bytes) (timestamp : Nat) :
    Except PutBits.Fault (Bytes × Nat) :=
  putRecord buffer (packFields priv timestamp)

/-- A stream in the system header. -/
def infoFields (id maxBufferSize : Nat) : List Field :=
  [(8, id), (2, 3)] ++
    if id < 0xe0 then [(1, 0), (13, maxBufferSize / 128)] else [(1, 1), (13, maxBufferSize / 1024)]

/-- The loop over the streams: of the private ones, only the first is listed. -/
def infosFields : Bool → List (Option Mp2p.StreamInfo) → List Field
  | _, [] => []
  | privateStreamCoded, none :: rest => infosFields privateStreamCoded rest
  | privateStreamCoded, some s :: rest =>
    if s.streamId < 0xc0 then
      if privateStreamCoded then infosFields privateStreamCoded rest
      else infoFields 0xbd s.maxBufferSize ++ infosFields true rest
    else infoFields s.streamId s.maxBufferSize ++ infosFields privateStreamCoded rest

/-- The fields before the streams, with a length. -/
def systemFixed (priv : Priv) (length : Nat) : List Field :=
  [(32, 0x1bb), (16, length), (1, 1), (22, priv.muxRate), (1, 1), (6, priv.audioBound), (1, 0), (1, 0),
    (1, 0), (1, 0), (1, 1), (5, priv.videoBound), (8, 0xff)]

/-- The packet size in the bytes behind the start code. -/
def patchSize (out : Bytes) (size : Nat) : Bytes :=
  store out 4 [UInt8.ofNat ((size - 6) / 2 ^ 8), UInt8.ofNat (size - 6)]

def putSystemHeader (priv : Priv) (buffer : Bytes) : Except PutBits.Fault (Bytes × Nat) := do
  let (out, size) ← putRecord buffer (systemFixed priv 0 ++ infosFields false priv.streams)
  return (patchSize out size, size)

def mapFixed (length streamNum : Nat) : List Field :=
  [(32, 0x1bc), (16, length), (1, 1), (2, 3), (5, 0), (7, 0x7f), (1, 1), (16, 0), (16, streamNum * 4)]

def mapFields (s : Mp2p.StreamInfo) : List Field := [(8, s.streamType), (8, s.streamId), (16, 0)]

/-- The bytes of a word, the lowest one first. -/
def littleEndian (crc : BitVec 32) : Bytes :=
  [.ofBitVec (crc.setWidth 8), .ofBitVec ((crc >>> 8).setWidth 8), .ofBitVec ((crc >>> 16).setWidth 8),
    .ofBitVec ((crc >>> 24).setWidth 8)]

def putSystemMapHeader (priv : Priv) (buffer : Bytes) : Except PutBits.Fault (Bytes × Nat) := do
  let streams := priv.streams.reduceOption
  let (out, nonCrcSize) ← putRecord buffer (mapFixed 0 streams.length ++ streams.flatMap mapFields)
  let size := nonCrcSize + 4
  let out := patchSize out size
  let crc := avCrc 0 (out.take nonCrcSize)
  if size ≤ out.length then return (store out nonCrcSize (littleEndian crc), size)
  else throw .outOfBuffer

/-! ## Reading -/

/-- The generator of CRC-32. -/
def generator : BitVec 32 := 0x04c11db7

/-- What there is in a program stream. -/
inductive Element
  | pack (clock muxRate : Nat)
  /-- Id, unit and bound of the buffer of each stream. -/
  | system (muxRate audioBound videoBound : Nat) (streams : List (Nat × Nat × Nat))
  /-- Type and id of each stream. -/
  | streamMap (streams : List (Nat × Nat))
  | pes (p : Mp2p.Pes)
deriving DecidableEq, Repr

/-- Where an element ends, if its first bytes tell. -/
def elementSize : Bytes → Option Nat
  | 0 :: 0 :: 1 :: code :: rest =>
    if code = 0xba then rest[9]?.map fun b => 14 + b.toNat % 8
    else if 0xbb ≤ code then
      match rest with
      | high :: low :: _ => some (6 + (256 * high.toNat + low.toNat))
      | _ => none
    else none
  | _ => none

def readPack (bytes : Bytes) : Option Element :=
  match readFields [32, 2, 3, 1, 15, 1, 15, 1, 9, 1, 22, 1, 1, 5, 3] (unpack bytes) with
  | some ([_, 1, high, 1, middle, 1, low, 1, _, 1, rate, 1, 1, _, _], _) =>
    some (.pack (high * 2 ^ 30 + middle * 2 ^ 15 + low) rate)
  | _ => none

def infoOf : List Nat → Option (Nat × Nat × Nat)
  | [id, 3, unit, bound] => some (id, unit, bound)
  | _ => none

def readSystem (bytes : Bytes) : Option Element :=
  match readFields [32, 16, 1, 22, 1, 6, 1, 1, 1, 1, 1, 5, 8] (unpack bytes) with
  | some ([_, _, 1, rate, 1, audioBound, _, _, _, _, 1, videoBound, _], bits) =>
    (readRecords [8, 2, 1, 13] bits.length bits).bind fun rs =>
      (rs.mapM infoOf).map (.system rate audioBound videoBound)
  | _ => none

/-- The streams of a map, each with descriptors that are skipped. -/
def readMapStreams : (fuel : Nat) → List Bool → Option (List (Nat × Nat))
  | 0, bs => if bs = [] then some [] else none
  | fuel + 1, bs =>
    if bs = [] then some []
    else match readFields [8, 8, 16] bs with
      | some ([type, id, infoLength], rest) =>
        (readMapStreams fuel (rest.drop (8 * infoLength))).map ((type, id) :: ·)
      | _ => none

/-- The elementary stream map. -/
def readMapLoop (bits : List Bool) : Option Element :=
  match readFields [16] bits with
  | some ([mapLength], bits) =>
    (readMapStreams bits.length (bits.take (8 * mapLength))).map .streamMap
  | _ => none

/-- A map whose checksum leaves nothing in a register that started with `init`. -/
def readMap (init : BitVec 32) (bytes : Bytes) : Option Element :=
  if Crc.register generator init bytes = 0 then
    match readFields [32, 16, 1, 2, 5, 7, 1, 16] (unpack bytes) with
    | some ([_, _, _, _, _, _, 1, infoLength], bits) => readMapLoop (bits.drop (8 * infoLength))
    | _ => none
  else none

/-- An element of a program stream. -/
def readElement (init : BitVec 32) (bytes : Bytes) : Option Element :=
  match bytes with
  | _ :: _ :: _ :: code :: _ =>
    if code = 0xba then readPack bytes
    else if code = 0xbb then readSystem bytes
    else if code = 0xbc then readMap init bytes
    else (Mp2p.readPes bytes).map fun r => .pes r.1
  | _ => none

/-! ## The checksum is that of the polynomial -/

theorem generator_low : generator.getLsbD 0 = true := by decide

def tableOf (i : BitVec 8) : BitVec 32 := avCrcTable.getD i.toNat 0

theorem tableOf_eq (i : BitVec 8) : tableOf i = Crc.swap (Crc.shifts generator 8 (Crc.high i)) := by
  have hall : ∀ n : Fin 256, tableOf (BitVec.ofFin n) =
      Crc.swap (Crc.shifts generator 8 (Crc.high (BitVec.ofFin n))) := by decide +kernel
  exact hall i.toFin

theorem avCrc_eq (r : BitVec 32) (buffer : Bytes) :
    avCrc (Crc.swap r) buffer = Crc.swap (Crc.register generator r buffer) :=
  Crc.swapped_eq tableOf_eq r buffer

theorem littleEndian_swap (r : BitVec 32) : littleEndian (Crc.swap r) = Crc.bytes r := by
  have h0 := Crc.low_swap r (k := 0) (by decide)
  have h1 := Crc.low_swap r (k := 1) (by decide)
  have h2 := Crc.low_swap r (k := 2) (by decide)
  have h3 := Crc.low_swap r (k := 3) (by decide)
  simp only [Nat.mul_zero, BitVec.shiftLeft_zero, BitVec.ushiftRight_zero] at h0
  unfold littleEndian Crc.bytes
  rw [h0, h1, h2, h3]

/-! ## Records -/

variable {buffer : Bytes} {fs : List Field}

/-- What a header asks of the bit writer. -/
structure Puts (fs : List Field) : Prop where
  widths : ∀ f ∈ fs, f.1 ≤ 32
  fits : Fits fs
  bytes : 8 ∣ width fs

/-- The bytes of a record. -/
def bytesOf (fs : List Field) : Bytes := pack (fieldBits fs)

theorem field_callOf {f : Field} (h : f.2 < 2 ^ f.1) : (callOf f).field = f := by
  unfold callOf
  split
  · next h32 =>
    rw [h32] at h
    have hval : (UInt32.ofNat f.2).toNat = f.2 := by
      rw [UInt32.toNat_ofNat']
      exact Nat.mod_eq_of_lt h
    show (32, (UInt32.ofNat f.2).toNat) = f
    rw [hval, ← h32]
  · rfl

theorem fits_callOf {f : Field} (hwidth : f.1 ≤ 32) (h : f.2 < 2 ^ f.1) : (callOf f).Fits := by
  unfold callOf
  split
  · trivial
  · exact ⟨by omega, h⟩

theorem callBits_callOf (h : Fits fs) : callBits (fs.map callOf) = fieldBits fs := by
  have hfields : fs.map (Call.field ∘ callOf) = fs :=
    (List.map_congr_left fun f hf => field_callOf (h f hf)).trans (List.map_id' fs)
  rw [callBits, List.map_map, hfields]

theorem Puts.length_bytesOf (h : Puts fs) : (bytesOf fs).length = width fs / 8 := by
  rw [bytesOf, length_pack (by rw [length_fieldBits]; exact h.bytes), length_fieldBits]

theorem Puts.unpack_bytesOf (h : Puts fs) : unpack (bytesOf fs) = fieldBits fs :=
  unpack_pack (by rw [length_fieldBits]; exact h.bytes)

theorem Puts.putRecord (h : Puts fs) {buffer : Bytes} (hroom : (bytesOf fs).length ≤ buffer.length) :
    putRecord buffer fs =
      .ok (bytesOf fs ++ buffer.drop (bytesOf fs).length, (bytesOf fs).length) := by
  have hbits := callBits_callOf h.fits
  have hcalls : ∀ c ∈ fs.map callOf, c.Fits := by
    rw [List.forall_mem_map]
    exact fun f hf => fits_callOf (h.widths f hf) (h.fits f hf)
  have hwrite := writeCalls_ok buffer hcalls
    (by rw [hbits, length_fieldBits]; exact h.bytes) (by rw [hbits]; exact hroom)
  rw [hbits] at hwrite
  exact hwrite

theorem Puts.append {gs : List Field} (h : Puts fs) (hg : Puts gs) : Puts (fs ++ gs) where
  widths := List.forall_mem_append.2 ⟨h.widths, hg.widths⟩
  fits := List.forall_mem_append.2 ⟨h.fits, hg.fits⟩
  bytes := by
    rw [width_append]
    exact Nat.dvd_add h.bytes hg.bytes

theorem Puts.bytesOf_append {gs : List Field} (h : Puts fs) :
    bytesOf (fs ++ gs) = bytesOf fs ++ bytesOf gs := by
  rw [bytesOf, fieldBits_append, pack_append (by rw [length_fieldBits]; exact h.bytes)]
  rfl

theorem puts_flatten {rs : List (List Field)} (h : ∀ r ∈ rs, Puts r) : Puts rs.flatten := by
  induction rs with
  | nil => exact ⟨fun f hf => absurd hf List.not_mem_nil, fun f hf => absurd hf List.not_mem_nil,
      Nat.dvd_zero 8⟩
  | cons r rs ih =>
    rw [List.forall_mem_cons] at h
    rw [List.flatten_cons]
    exact h.1.append (ih h.2)

theorem bytesOf_code {code : Nat} (hcode : code < 2 ^ 32) : bytesOf [(32, code)] = avWb32 code := by
  have hbits : fieldBits [(32, code)] = ofNat 32 code := List.append_nil _
  rw [bytesOf, hbits, pack_word (length_ofNat ..), value_ofNat, Nat.mod_eq_of_lt hcode]

/-- A start code and a length. -/
theorem bytesOf_start {code length : Nat} (hcode : code < 2 ^ 32) (fs : List Field) :
    bytesOf ((32, code) :: (16, length) :: fs) =
      avWb32 code ++ [UInt8.ofNat (length / 2 ^ 8), UInt8.ofNat length] ++ bytesOf fs := by
  have hword : pack (ofNat 32 code) = avWb32 code := by
    have hbits : fieldBits [(32, code)] = ofNat 32 code := List.append_nil _
    rw [← bytesOf_code hcode, bytesOf, hbits]
  have hhalf : pack (ofNat 16 length) = [UInt8.ofNat (length / 2 ^ 8), UInt8.ofNat length] := by
    have hsplit : ofNat 16 length = ofNat 8 (length / 2 ^ 8) ++ (ofNat 8 length ++ []) := by
      rw [List.append_nil]
      exact ofNat_add 8 8 length
    have hnil : pack [] = [] := by rw [pack]
    rw [hsplit, pack_byte (length_ofNat ..), pack_byte (length_ofNat ..), hnil, value_ofNat,
      value_ofNat, ofNat_toNat_mod, ofNat_toNat_mod]
  have hbits : fieldBits ((32, code) :: (16, length) :: fs) =
      ofNat 32 code ++ (ofNat 16 length ++ fieldBits fs) := by
    simp [fieldBits]
  rw [bytesOf, hbits, pack_append (by simp), pack_append (by simp), hword, hhalf, bytesOf,
    List.append_assoc]

/-! ## What is written -/

/-- A stream as `mp2p_init` makes it. -/
structure Created (s : Mp2p.StreamInfo) : Prop extends Mp2p.Created s where
  streamType : s.streamType < 256
  id : (s.mediaType = .audio ∧ 0xc0 ≤ s.streamId ∧ s.streamId < 0xe0) ∨
    (s.mediaType = .video ∧ 0xe0 ≤ s.streamId)

/-- What the assertions of the headers ask for. -/
structure Sound (priv : Priv) : Prop where
  muxRate : priv.muxRate < 2 ^ 22
  audioBound : priv.audioBound < 2 ^ 6
  videoBound : priv.videoBound < 2 ^ 5
  length : priv.streams.length ≤ 8
  created : ∀ s, some s ∈ priv.streams → Created s

variable {priv : Priv}

theorem puts_packFields (h : Sound priv) (timestamp : Nat) : Puts (packFields priv timestamp) where
  widths := by simp [packFields]
  fits := by
    have hrate := h.muxRate
    simp only [packFields, Fits, List.forall_mem_cons]
    refine ⟨by decide, by decide, ?_, by decide, ?_, by decide, ?_, by decide, by decide, by decide, hrate,
      by decide, by decide, by decide, by decide, by simp⟩
    · exact Nat.mod_lt _ (by decide)
    · exact Nat.mod_lt _ (by decide)
    · exact Nat.mod_lt _ (by decide)
  bytes := by simp [packFields, width]

/-- The streams of the system header. -/
def infoRecords (streams : List (Option Mp2p.StreamInfo)) : List (List Field) :=
  streams.reduceOption.map fun s => infoFields s.streamId s.maxBufferSize

theorem infosFields_eq {streams : List (Option Mp2p.StreamInfo)}
    (h : ∀ s, some s ∈ streams → Created s)
    (privateStreamCoded : Bool) :
    infosFields privateStreamCoded streams = (infoRecords streams).flatten := by
  induction streams with
  | nil => rfl
  | cons s streams ih =>
    have hrest := ih fun t ht => h t (List.mem_cons_of_mem s ht)
    cases s with
    | none => exact hrest
    | some s =>
      have hid : ¬s.streamId < 0xc0 := by
        rcases (h s List.mem_cons_self).id with ⟨-, hge, -⟩ | ⟨-, hge⟩ <;> omega
      rw [infosFields, if_neg hid, hrest]
      rfl

theorem puts_infoFields {s : Mp2p.StreamInfo} (h : Created s) :
    Puts (infoFields s.streamId s.maxBufferSize) := by
  have hid := h.streamId
  have hsize := h.maxBufferSize
  rcases h.id with ⟨hmedia, -, hlt⟩ | ⟨hmedia, hge⟩
  · rw [hmedia] at hsize
    rw [← Option.some.inj hsize, infoFields, if_pos hlt]
    refine ⟨by simp, ?_, by simp [width]⟩
    simp only [Fits, List.forall_mem_append, List.forall_mem_cons]
    exact ⟨⟨hid, by decide, by simp⟩, by decide, by decide, by simp⟩
  · rw [hmedia] at hsize
    rw [← Option.some.inj hsize, infoFields, if_neg (Nat.not_lt.2 hge)]
    refine ⟨by simp, ?_, by simp [width]⟩
    simp only [Fits, List.forall_mem_append, List.forall_mem_cons]
    exact ⟨⟨hid, by decide, by simp⟩, by decide, by decide, by simp⟩

theorem width_infoFields (id maxBufferSize : Nat) : width (infoFields id maxBufferSize) = 24 := by
  unfold infoFields
  split <;> rfl

theorem mem_reduceOption {s : Mp2p.StreamInfo} {streams : List (Option Mp2p.StreamInfo)}
    (h : s ∈ streams.reduceOption) : some s ∈ streams := List.reduceOption_mem_iff.1 h

theorem puts_infoRecords (h : Sound priv) : Puts (infoRecords priv.streams).flatten := by
  refine puts_flatten fun r hr => ?_
  obtain ⟨s, hs, rfl⟩ := List.mem_map.1 hr
  exact puts_infoFields (h.created s (mem_reduceOption hs))

theorem length_reduceOption_le (h : Sound priv) : priv.streams.reduceOption.length ≤ 8 :=
  (List.length_filterMap_le id priv.streams).trans h.length

/-- Records of one width. -/
theorem width_flatten {rs : List (List Field)} {n : Nat} (h : ∀ r ∈ rs, width r = n) :
    width rs.flatten = rs.length * n := by
  induction rs with
  | nil => simp [width]
  | cons r rs ih =>
    rw [List.forall_mem_cons] at h
    rw [List.flatten_cons, width_append, h.1, ih h.2, List.length_cons, Nat.succ_mul, Nat.add_comm]

theorem puts_systemFixed (h : Sound priv) {length : Nat} (hlength : length < 2 ^ 16) :
    Puts (systemFixed priv length) where
  widths := by simp [systemFixed]
  fits := by
    simp only [systemFixed, Fits, List.forall_mem_cons]
    exact ⟨by decide, hlength, by decide, h.muxRate, by decide, h.audioBound, by decide, by decide,
      by decide, by decide, by decide, h.videoBound, by decide, by simp⟩
  bytes := by simp [systemFixed, width]

theorem puts_mapFixed {length streamNum : Nat} (hlength : length < 2 ^ 16) (hnum : streamNum ≤ 8) :
    Puts (mapFixed length streamNum) where
  widths := by simp [mapFixed]
  fits := by
    simp only [mapFixed, Fits, List.forall_mem_cons]
    refine ⟨by decide, hlength, by decide, by decide, by decide, by decide, by decide, by decide, ?_,
      by simp⟩
    show streamNum * 4 < 2 ^ 16
    omega
  bytes := by simp [mapFixed, width]

theorem puts_mapRecords (h : Sound priv) : Puts (priv.streams.reduceOption.map mapFields).flatten := by
  refine puts_flatten fun r hr => ?_
  obtain ⟨s, hs, rfl⟩ := List.mem_map.1 hr
  have hc := h.created s (mem_reduceOption hs)
  refine ⟨by simp [mapFields], ?_, by simp [mapFields, width]⟩
  simp only [mapFields, Fits, List.forall_mem_cons]
  exact ⟨hc.streamType, hc.streamId, by decide, by simp⟩

/-- The pack header. -/
def packBytes (priv : Priv) (timestamp : Nat) : Bytes := bytesOf (packFields priv timestamp)

def systemRecord (priv : Priv) : List Field :=
  systemFixed priv (6 + 3 * priv.streams.reduceOption.length) ++ (infoRecords priv.streams).flatten

/-- The system header, with its length. -/
def systemBytes (priv : Priv) : Bytes := bytesOf (systemRecord priv)

def mapRecord (priv : Priv) : List Field :=
  mapFixed (10 + 4 * priv.streams.reduceOption.length) priv.streams.reduceOption.length ++
    (priv.streams.reduceOption.map mapFields).flatten

/-- The program stream map, with its length and its checksum. -/
def mapBytes (priv : Priv) : Bytes :=
  bytesOf (mapRecord priv) ++ Crc.bytes (Crc.register generator 0 (bytesOf (mapRecord priv)))

theorem puts_systemRecord (h : Sound priv) : Puts (systemRecord priv) := by
  have hlength := length_reduceOption_le h
  exact (puts_systemFixed h (by omega)).append (puts_infoRecords h)

theorem puts_mapRecord (h : Sound priv) : Puts (mapRecord priv) := by
  have hlength := length_reduceOption_le h
  exact (puts_mapFixed (by omega) hlength).append (puts_mapRecords h)

theorem length_packBytes (h : Sound priv) (timestamp : Nat) :
    (packBytes priv timestamp).length = 14 := by
  rw [packBytes, (puts_packFields h timestamp).length_bytesOf]
  simp [packFields, width]

theorem length_systemBytes (h : Sound priv) :
    (systemBytes priv).length = 12 + 3 * priv.streams.reduceOption.length := by
  have hrecords : width (infoRecords priv.streams).flatten = priv.streams.reduceOption.length * 24 := by
    have hwidth : ∀ r ∈ infoRecords priv.streams, width r = 24 := fun r hr => by
      obtain ⟨s, -, rfl⟩ := List.mem_map.1 hr
      exact width_infoFields ..
    rw [width_flatten hwidth, infoRecords, List.length_map]
  rw [systemBytes, (puts_systemRecord h).length_bytesOf, systemRecord, width_append, hrecords]
  show (96 + _) / 8 = _
  omega

theorem length_mapRecord (h : Sound priv) :
    (bytesOf (mapRecord priv)).length = 12 + 4 * priv.streams.reduceOption.length := by
  have hrecords : width (priv.streams.reduceOption.map mapFields).flatten =
      priv.streams.reduceOption.length * 32 := by
    have hwidth : ∀ r ∈ priv.streams.reduceOption.map mapFields, width r = 32 := fun r hr => by
      obtain ⟨s, -, rfl⟩ := List.mem_map.1 hr
      rfl
    rw [width_flatten hwidth, List.length_map]
  rw [(puts_mapRecord h).length_bytesOf, mapRecord, width_append, hrecords]
  show (96 + _) / 8 = _
  omega

theorem length_mapBytes (h : Sound priv) :
    (mapBytes priv).length = 12 + 4 * priv.streams.reduceOption.length + 4 := by
  rw [mapBytes, List.length_append, length_mapRecord h]
  rfl

theorem putPackHeader_eq (h : Sound priv) (timestamp : Nat) (hroom : 14 ≤ buffer.length) :
    putPackHeader priv buffer timestamp =
      .ok (packBytes priv timestamp ++ buffer.drop 14, 14) := by
  have hlength := length_packBytes h timestamp
  have hput := (puts_packFields h timestamp).putRecord (hlength.trans_le hroom)
  rw [show (bytesOf (packFields priv timestamp)).length = 14 from hlength] at hput
  exact hput

/-- The size is patched where the record has its length. -/
theorem patchSize_eq {code : Nat} (hcode : code < 2 ^ 32) (size : Nat) (fs : List Field)
    (rest : Bytes) :
    patchSize (bytesOf ((32, code) :: (16, 0) :: fs) ++ rest) size =
      bytesOf ((32, code) :: (16, size - 6) :: fs) ++ rest := by
  rw [bytesOf_start hcode, bytesOf_start hcode, patchSize]
  simp only [List.append_assoc]
  have hstore := store_append (avWb32 code) ([UInt8.ofNat (0 / 2 ^ 8), UInt8.ofNat 0] ++
    (bytesOf fs ++ rest)) [UInt8.ofNat ((size - 6) / 2 ^ 8), UInt8.ofNat (size - 6)]
  rw [List.append_assoc] at hstore
  exact hstore

theorem putSystemHeader_eq (h : Sound priv) (hroom : (systemBytes priv).length ≤ buffer.length) :
    putSystemHeader priv buffer =
      .ok (systemBytes priv ++ buffer.drop (systemBytes priv).length, (systemBytes priv).length) := by
  have hzero : Puts (systemFixed priv 0 ++ (infoRecords priv.streams).flatten) :=
    (puts_systemFixed h (by decide)).append (puts_infoRecords h)
  have hsize : (bytesOf (systemFixed priv 0 ++ (infoRecords priv.streams).flatten)).length =
      (systemBytes priv).length := by
    rw [hzero.length_bytesOf, systemBytes, (puts_systemRecord h).length_bytesOf, systemRecord,
      width_append, width_append]
    rfl
  have hput := hzero.putRecord (hsize.trans_le hroom)
  have hlength : (systemBytes priv).length - 6 = 6 + 3 * priv.streams.reduceOption.length := by
    rw [length_systemBytes h]
    omega
  have hpatch : patchSize (bytesOf (systemFixed priv 0 ++ (infoRecords priv.streams).flatten) ++
      buffer.drop (systemBytes priv).length) (systemBytes priv).length =
        systemBytes priv ++ buffer.drop (systemBytes priv).length := by
    have hpatch := patchSize_eq (by decide : 0x1bb < 2 ^ 32) (systemBytes priv).length
      ((systemFixed priv 0).drop 2 ++ (infoRecords priv.streams).flatten)
      (buffer.drop (systemBytes priv).length)
    rw [hlength] at hpatch
    exact hpatch
  rw [putSystemHeader, infosFields_eq h.created, hput, hsize]
  show Except.ok (patchSize _ _, _) = _
  rw [hpatch]

theorem avCrc_zero (bytes : Bytes) :
    littleEndian (avCrc 0 bytes) = Crc.bytes (Crc.register generator 0 bytes) := by
  have hcrc := avCrc_eq 0 bytes
  rw [show Crc.swap 0 = 0 by decide] at hcrc
  rw [hcrc, littleEndian_swap]

theorem putSystemMapHeader_eq (h : Sound priv) (hroom : (mapBytes priv).length ≤ buffer.length) :
    putSystemMapHeader priv buffer =
      .ok (mapBytes priv ++ buffer.drop (mapBytes priv).length, (mapBytes priv).length) := by
  have hnum := length_reduceOption_le h
  have hzero : Puts (mapFixed 0 priv.streams.reduceOption.length ++
      (priv.streams.reduceOption.map mapFields).flatten) :=
    (puts_mapFixed (by decide) hnum).append (puts_mapRecords h)
  have hrecord := length_mapRecord h
  have hlength := length_mapBytes h
  have hsize : (bytesOf (mapFixed 0 priv.streams.reduceOption.length ++
      (priv.streams.reduceOption.map mapFields).flatten)).length = (bytesOf (mapRecord priv)).length := by
    rw [hzero.length_bytesOf, (puts_mapRecord h).length_bytesOf, mapRecord, width_append, width_append]
    rfl
  have hput := hzero.putRecord (Nat.le_trans (by omega) hroom)
  have hpatch : patchSize (bytesOf (mapFixed 0 priv.streams.reduceOption.length ++
      (priv.streams.reduceOption.map mapFields).flatten) ++ buffer.drop (bytesOf (mapRecord priv)).length)
        ((bytesOf (mapRecord priv)).length + 4) =
      bytesOf (mapRecord priv) ++ buffer.drop (bytesOf (mapRecord priv)).length := by
    have hpatch := patchSize_eq (by decide : 0x1bc < 2 ^ 32)
      ((bytesOf (mapRecord priv)).length + 4)
      ((mapFixed 0 priv.streams.reduceOption.length).drop 2 ++
        (priv.streams.reduceOption.map mapFields).flatten)
      (buffer.drop (bytesOf (mapRecord priv)).length)
    have hsix : (bytesOf (mapRecord priv)).length + 4 - 6 =
        10 + 4 * priv.streams.reduceOption.length := by
      omega
    rw [hsix] at hpatch
    exact hpatch
  -- there is room for the checksum too
  have hfits : (bytesOf (mapRecord priv)).length + 4 ≤
      (bytesOf (mapRecord priv) ++ buffer.drop (bytesOf (mapRecord priv)).length).length := by
    rw [List.length_append, List.length_drop]
    omega
  have hmap : (mapBytes priv).length = (bytesOf (mapRecord priv)).length + 4 := by omega
  have hstore : store (bytesOf (mapRecord priv) ++ buffer.drop (bytesOf (mapRecord priv)).length)
      (bytesOf (mapRecord priv)).length (littleEndian (avCrc 0 (bytesOf (mapRecord priv)))) =
        mapBytes priv ++ buffer.drop (mapBytes priv).length := by
    rw [store_append, avCrc_zero, hmap, ← List.drop_drop]
    rfl
  rw [hmap]
  simp only [putSystemMapHeader, List.flatMap_def, hput]
  show (if (bytesOf _).length + 4 ≤ (patchSize _ _).length then Except.ok (store _ _ _, _) else _) = _
  rw [hsize, hpatch, if_pos hfits, List.take_left, hstore, hmap]

/-! ## What is read -/

theorem elementSize_pack (nine : Bytes) (last : UInt8) (rest : Bytes) (h : nine.length = 9) :
    elementSize ([0, 0, 1, 0xba] ++ nine ++ last :: rest) = some (14 + last.toNat % 8) := by
  have hlast : (nine ++ last :: rest)[9]? = some last := by
    rw [← h, List.getElem?_append_right (Nat.le_refl _), Nat.sub_self]
    rfl
  show (nine ++ last :: rest)[9]?.map _ = _
  rw [hlast]
  rfl

theorem elementSize_start {code : UInt8} (hcode : 0xbb ≤ code) {length : Nat}
    (hlength : length < 2 ^ 16)
    (rest : Bytes) :
    elementSize ([0, 0, 1, code] ++ [UInt8.ofNat (length / 2 ^ 8), UInt8.ofNat length] ++ rest) =
      some (6 + length) := by
  have hne : code ≠ 0xba := by
    rintro rfl
    exact absurd hcode (by decide)
  have hhigh : (UInt8.ofNat (length / 2 ^ 8)).toNat = length / 2 ^ 8 := by
    rw [UInt8.toNat_ofNat']
    omega
  have hlow : (UInt8.ofNat length).toNat = length % 2 ^ 8 := UInt8.toNat_ofNat'
  show (if code = 0xba then _ else if 0xbb ≤ code then some (6 + (256 * (UInt8.ofNat _).toNat +
    (UInt8.ofNat _).toNat)) else none) = _
  rw [if_neg hne, if_pos hcode, hhigh, hlow]
  congr 2
  omega

theorem packBytes_eq (h : Sound priv) (timestamp : Nat) :
    ∃ nine, nine.length = 9 ∧ packBytes priv timestamp = [0, 0, 1, 0xba] ++ nine ++ [0xf8] := by
  have hall := puts_packFields h timestamp
  have hpart : ∀ {fs : List Field}, (∀ f ∈ fs, f ∈ packFields priv timestamp) → 8 ∣ width fs →
      Puts fs :=
    fun hmem hwidth =>
      ⟨fun f hf => hall.widths f (hmem f hf), fun f hf => hall.fits f (hmem f hf), hwidth⟩
  have hcode : Puts [(32, 0x1ba)] := hpart (by simp [packFields]) (by decide)
  have hnine : Puts (((packFields priv timestamp).drop 1).take 12) :=
    hpart (fun f hf => List.mem_of_mem_drop (List.mem_of_mem_take hf)) (by simp [packFields, width])
  refine ⟨bytesOf (((packFields priv timestamp).drop 1).take 12), ?_, ?_⟩
  · rw [hnine.length_bytesOf]
    simp [packFields, width]
  · have hsplit : packFields priv timestamp = [(32, 0x1ba)] ++
        ((packFields priv timestamp).drop 1).take 12 ++ [(5, 0x1f), (3, 0)] := rfl
    conv_lhs => rw [packBytes, hsplit]
    have hlast : bytesOf [(5, 0x1f), (3, 0)] = [0xf8] := by
      have hnil : pack [] = [] := by rw [pack]
      have hbits : (fieldBits [(5, 0x1f), (3, 0)]).length = 8 := rfl
      have hbyte := pack_byte hbits []
      rw [List.append_nil, hnil] at hbyte
      exact hbyte
    rw [(hcode.append hnine).bytesOf_append, hcode.bytesOf_append, hlast, bytesOf_code (by decide)]
    rfl

theorem elementSize_packBytes (h : Sound priv) (timestamp : Nat) (rest : Bytes) :
    elementSize (packBytes priv timestamp ++ rest) = some (packBytes priv timestamp).length := by
  obtain ⟨nine, hnine, heq⟩ := packBytes_eq h timestamp
  rw [length_packBytes h, heq, List.append_assoc]
  exact elementSize_pack nine 0xf8 rest hnine

theorem readPack_packBytes (h : Sound priv) (timestamp : Nat) :
    readPack (packBytes priv timestamp) = some (.pack (timestamp % 2 ^ 33) priv.muxRate) := by
  have hputs := puts_packFields h timestamp
  have hread := readFields_fits hputs.fits []
  rw [List.append_nil, ← hputs.unpack_bytesOf] at hread
  have hclock : timestamp / 2 ^ 30 % 8 * 2 ^ 30 + timestamp / 2 ^ 15 % 2 ^ 15 * 2 ^ 15 +
      timestamp % 2 ^ 15 = timestamp % 2 ^ 33 := by omega
  rw [readPack, packBytes]
  rw [show [32, 2, 3, 1, 15, 1, 15, 1, 9, 1, 22, 1, 1, 5, 3] =
    (packFields priv timestamp).map Prod.fst from rfl, hread, ← hclock]
  rfl

theorem readElement_packBytes (h : Sound priv) (init : BitVec 32) (timestamp : Nat) :
    readElement init (packBytes priv timestamp) = some (.pack (timestamp % 2 ^ 33) priv.muxRate) := by
  obtain ⟨nine, -, heq⟩ := packBytes_eq h timestamp
  rw [← readPack_packBytes h timestamp, heq]
  rfl

/-- Id, unit and bound of the buffer of a stream. -/
def infoValues (s : Mp2p.StreamInfo) : Nat × Nat × Nat :=
  if s.streamId < 0xe0 then (s.streamId, 0, s.maxBufferSize / 128)
  else (s.streamId, 1, s.maxBufferSize / 1024)

theorem infoOf_infoFields (s : Mp2p.StreamInfo) :
    infoOf ((infoFields s.streamId s.maxBufferSize).map Prod.snd) = some (infoValues s) := by
  unfold infoFields infoValues
  split
  · rfl
  · rfl

theorem mapM_infoOf (streams : List (Option Mp2p.StreamInfo)) :
    ((infoRecords streams).map fun r => r.map Prod.snd).mapM infoOf =
      some (streams.reduceOption.map infoValues) := by
  unfold infoRecords
  induction streams.reduceOption with
  | nil => rfl
  | cons s ss ih =>
    rw [List.map_cons, List.map_cons, List.mapM_cons, ih, infoOf_infoFields]
    rfl

theorem length_le_fieldBits {rs : List (List Field)} {n : Nat} (hn : 0 < n)
    (h : ∀ r ∈ rs, width r = n) : rs.length ≤ (fieldBits rs.flatten).length := by
  rw [length_fieldBits, width_flatten h]
  exact Nat.le_mul_of_pos_right _ hn

/-- The first four bytes, the length, and what is behind them. -/
theorem systemBytes_eq (priv : Priv) : ∃ rest, systemBytes priv = [0, 0, 1, 0xbb] ++
    [UInt8.ofNat ((6 + 3 * priv.streams.reduceOption.length) / 2 ^ 8),
      UInt8.ofNat (6 + 3 * priv.streams.reduceOption.length)] ++ rest :=
  ⟨_, bytesOf_start (by decide) _⟩

theorem elementSize_systemBytes (h : Sound priv) (rest : Bytes) :
    elementSize (systemBytes priv ++ rest) = some (systemBytes priv).length := by
  have hnum := length_reduceOption_le h
  have hlength := length_systemBytes h
  obtain ⟨more, heq⟩ := systemBytes_eq priv
  rw [hlength, heq, List.append_assoc, elementSize_start (by decide) (by omega)]
  congr 1
  omega

theorem readElement_systemBytes (h : Sound priv) (init : BitVec 32) :
    readElement init (systemBytes priv) = some (.system priv.muxRate priv.audioBound priv.videoBound
      (priv.streams.reduceOption.map infoValues)) := by
  have hputs := puts_systemRecord h
  have hnum := length_reduceOption_le h
  have hshort : 6 + 3 * priv.streams.reduceOption.length < 2 ^ 16 := by omega
  have hfixed := readFields_fits (puts_systemFixed h hshort).fits
    (fieldBits (infoRecords priv.streams).flatten)
  rw [← fieldBits_append, ← systemRecord, ← hputs.unpack_bytesOf] at hfixed
  have hwidth : ∀ r ∈ infoRecords priv.streams, r.map Prod.fst = [8, 2, 1, 13] := fun r hr => by
    obtain ⟨s, -, rfl⟩ := List.mem_map.1 hr
    unfold infoFields
    split <;> rfl
  have hfits : ∀ r ∈ infoRecords priv.streams, Fits r := fun r hr => by
    obtain ⟨s, hs, rfl⟩ := List.mem_map.1 hr
    exact (puts_infoFields (h.created s (mem_reduceOption hs))).fits
  have hcount := length_le_fieldBits (n := 24) (by decide) fun r hr => by
    rw [width, hwidth r hr]
    rfl
  have hrecords := readRecords_fieldBits (by decide) hwidth hfits hcount
  have hsystem : readSystem (systemBytes priv) = some (.system priv.muxRate priv.audioBound
      priv.videoBound (priv.streams.reduceOption.map infoValues)) := by
    rw [readSystem, systemBytes]
    rw [show [32, 16, 1, 22, 1, 6, 1, 1, 1, 1, 1, 5, 8] = (systemFixed priv
      (6 + 3 * priv.streams.reduceOption.length)).map Prod.fst from rfl, hfixed]
    show (readRecords [8, 2, 1, 13] _ _).bind _ = _
    rw [hrecords, Option.bind_some, mapM_infoOf]
    rfl
  rw [← hsystem]
  obtain ⟨rest, heq⟩ := systemBytes_eq priv
  rw [heq]
  rfl

theorem mapRecord_eq (priv : Priv) : ∃ rest, bytesOf (mapRecord priv) = [0, 0, 1, 0xbc] ++
    [UInt8.ofNat ((10 + 4 * priv.streams.reduceOption.length) / 2 ^ 8),
      UInt8.ofNat (10 + 4 * priv.streams.reduceOption.length)] ++ rest :=
  ⟨_, bytesOf_start (by decide) _⟩

theorem elementSize_mapBytes (h : Sound priv) (rest : Bytes) :
    elementSize (mapBytes priv ++ rest) = some (mapBytes priv).length := by
  have hnum := length_reduceOption_le h
  have hlength := length_mapBytes h
  obtain ⟨more, heq⟩ := mapRecord_eq priv
  rw [hlength, mapBytes, heq, List.append_assoc, List.append_assoc,
    elementSize_start (by decide) (by omega)]
  congr 1
  omega

theorem readMapStreams_eq {streams : List Mp2p.StreamInfo} (h : ∀ s ∈ streams, Created s) {fuel : Nat}
    (hfuel : streams.length ≤ fuel) :
    readMapStreams fuel (fieldBits (streams.map mapFields).flatten) =
      some (streams.map fun s => (s.streamType, s.streamId)) := by
  induction streams generalizing fuel with
  | nil => cases fuel <;> rfl
  | cons s streams ih =>
    obtain ⟨hs, hstreams⟩ := List.forall_mem_cons.1 h
    obtain ⟨fuel, rfl⟩ : ∃ n, fuel = n + 1 := ⟨fuel - 1, by simp at hfuel; omega⟩
    have hfits : Fits (mapFields s) := by
      simp only [mapFields, Fits, List.forall_mem_cons]
      exact ⟨hs.streamType, hs.streamId, by decide, by simp⟩
    have hread := readFields_fits hfits (fieldBits (streams.map mapFields).flatten)
    rw [← fieldBits_append, ← List.flatten_cons, ← List.map_cons] at hread
    have hne : fieldBits ((s :: streams).map mapFields).flatten ≠ [] := by
      refine List.length_pos_iff.1 ?_
      rw [List.map_cons, List.flatten_cons, length_fieldBits, width_append]
      exact Nat.add_pos_left (Nat.zero_lt_succ 31) _
    rw [readMapStreams, if_neg hne, show [8, 8, 16] = (mapFields s).map Prod.fst from rfl, hread]
    show (readMapStreams fuel (List.drop (8 * 0) _)).map _ = _
    rw [Nat.mul_zero, List.drop_zero, ih hstreams (Nat.le_of_succ_le_succ hfuel)]
    rfl

theorem readMap_mapBytes (h : Sound priv) : readMap 0 (mapBytes priv) =
    some (.streamMap (priv.streams.reduceOption.map fun s => (s.streamType, s.streamId))) := by
  have hputs := puts_mapRecord h
  have hnum := length_reduceOption_le h
  have hshort : 10 + 4 * priv.streams.reduceOption.length < 2 ^ 16 := by omega
  have hfixed := (puts_mapFixed hshort hnum).fits
  generalize hcrc : unpack (Crc.bytes (Crc.register generator 0 (bytesOf (mapRecord priv)))) = crc
  have hbits : unpack (mapBytes priv) =
      fieldBits ((mapFixed (10 + 4 * priv.streams.reduceOption.length)
        priv.streams.reduceOption.length).take 8) ++
      (fieldBits [(16, priv.streams.reduceOption.length * 4)] ++
        (fieldBits (priv.streams.reduceOption.map mapFields).flatten ++ crc)) := by
    rw [mapBytes, unpack_append, hputs.unpack_bytesOf, hcrc, mapRecord, fieldBits_append,
      List.append_assoc, ← List.append_assoc (fieldBits (List.take 8 _)), ← fieldBits_append]
    rfl
  have hfirst := readFields_fits (fun f hf => hfixed f (List.mem_of_mem_take hf) : Fits
    ((mapFixed (10 + 4 * priv.streams.reduceOption.length) priv.streams.reduceOption.length).take 8))
    (fieldBits [(16, priv.streams.reduceOption.length * 4)] ++
      (fieldBits (priv.streams.reduceOption.map mapFields).flatten ++ crc))
  have hlast : Fits [(16, priv.streams.reduceOption.length * 4)] := fun f hf => by
    rw [List.mem_singleton.1 hf]
    show _ * 4 < 2 ^ 16
    omega
  have hsecond := readFields_fits hlast
    (fieldBits (priv.streams.reduceOption.map mapFields).flatten ++ crc)
  rw [← hbits] at hfirst
  have hwidth : ∀ r ∈ priv.streams.reduceOption.map mapFields, width r = 32 := fun r hr => by
    obtain ⟨s, -, rfl⟩ := List.mem_map.1 hr
    rfl
  have hrecords : (fieldBits (priv.streams.reduceOption.map mapFields).flatten).length =
      8 * (priv.streams.reduceOption.length * 4) := by
    rw [length_fieldBits, width_flatten hwidth, List.length_map]
    omega
  have hfuel : priv.streams.reduceOption.length ≤
      (fieldBits (priv.streams.reduceOption.map mapFields).flatten ++ crc).length := by
    rw [List.length_append, hrecords]
    omega
  have hstreams := readMapStreams_eq (fun s hs => h.created s (mem_reduceOption hs)) hfuel
  have hcheck := (Crc.register_check generator_low (s := 0) (r := 0) (bytesOf (mapRecord priv))).2 rfl
  rw [← mapBytes] at hcheck
  rw [readMap, if_pos hcheck]
  rw [show [32, 16, 1, 2, 5, 7, 1, 16] = ((mapFixed (10 + 4 * priv.streams.reduceOption.length)
    priv.streams.reduceOption.length).take 8).map Prod.fst from rfl, hfirst]
  show readMapLoop (List.drop (8 * 0) _) = _
  rw [Nat.mul_zero, List.drop_zero, readMapLoop, show [16] = [(16, priv.streams.reduceOption.length * 4)].map Prod.fst
    from rfl, hsecond]
  show (readMapStreams _ (List.take (8 * (priv.streams.reduceOption.length * 4)) _)).map _ = _
  rw [List.take_left' hrecords, hstreams]
  rfl

/-- **The checksum of a map**: it is good for a register that starts with zeros, and bad for any
other. -/
theorem readElement_mapBytes (h : Sound priv) (init : BitVec 32) :
    readElement init (mapBytes priv) = if init = 0 then
        some (.streamMap (priv.streams.reduceOption.map fun s => (s.streamType, s.streamId)))
      else none := by
  have hread : readElement init (mapBytes priv) = readMap init (mapBytes priv) := by
    obtain ⟨rest, heq⟩ := mapRecord_eq priv
    rw [mapBytes, heq]
    rfl
  rw [hread]
  by_cases hinit : init = 0
  · rw [if_pos hinit, hinit, readMap_mapBytes h]
  · have hcheck := Crc.register_check generator_low (s := init) (r := 0) (bytesOf (mapRecord priv))
    rw [if_neg hinit, readMap]
    exact if_neg fun hzero => hinit (hcheck.1 hzero)

end ProgramStream

end StreamSwitch
