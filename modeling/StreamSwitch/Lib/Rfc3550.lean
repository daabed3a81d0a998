import Mathlib.Data.List.Basic

/-!
# RTP and RTCP packets

What RFC 3550 says of RTP data packets (5.1) and of compound packets, as decoders: the header of
section 6.4.1 in front of every packet, sender reports, source descriptions (6.5) and BYE packets
(6.6). Other packets are kept as they are.
-/

namespace Rfc3550

structure SenderInfo where
  ntpSeconds : UInt32
  ntpFraction : UInt32
  rtpTimestamp : UInt32
  packetCount : UInt32
  octetCount : UInt32
deriving DecidableEq, Repr

/-- An item of a source description; 1 is CNAME. -/
structure Item where
  type : UInt8
  text : List UInt8
deriving DecidableEq, Repr

structure Chunk where
  source : UInt32
  items : List Item
deriving DecidableEq, Repr

inductive Packet
  | senderReport (source : UInt32) (info : SenderInfo) (blocks : List (List UInt8))
      (extension : List UInt8)
  | description (chunks : List Chunk)
  | goodbye (sources : List UInt32) (reason : List UInt8)
  | other (type : UInt8) (body : List UInt8)
deriving DecidableEq, Repr

/-! ## Decoding -/

/-- A number of 32 bits, in network order. -/
def word : List UInt8 → Option (UInt32 × List UInt8)
  | a :: b :: c :: d :: rest =>
    some (UInt32.ofNat (((a.toNat * 256 + b.toNat) * 256 + c.toNat) * 256 + d.toNat), rest)
  | _ => none

/-- A report block, which is not taken apart. -/
def block (bytes : List UInt8) : Option (List UInt8 × List UInt8) :=
  if 24 ≤ bytes.length then some (bytes.take 24, bytes.drop 24) else none

/-- As many as the header counts. -/
def many {α : Type} (read : List UInt8 → Option (α × List UInt8)) :
    Nat → List UInt8 → Option (List α × List UInt8)
  | 0, bytes => some ([], bytes)
  | n + 1, bytes => do
    let (first, bytes) ← read bytes
    let (others, bytes) ← many read n bytes
    return (first :: others, bytes)

/-- The items up to the null octet that ends the list. -/
def items (bytes : List UInt8) : Option (List Item × List UInt8) :=
  match bytes with
  | [] => none
  | [type] => if type = 0 then some ([], []) else none
  | type :: length :: rest =>
    if type = 0 then some ([], length :: rest)
    else if length.toNat ≤ rest.length then do
      let (others, bytes) ← items (rest.drop length.toNat)
      return (⟨type, rest.take length.toNat⟩ :: others, bytes)
    else none
termination_by bytes.length
decreasing_by
  rw [List.length_drop, List.length_cons, List.length_cons]
  omega

/-- Null octets up to the next 32-bit boundary. -/
def toBoundary (read : Nat) (bytes : List UInt8) : Option (List UInt8) :=
  let n := (4 - read % 4) % 4
  if bytes.take n = List.replicate n 0 then some (bytes.drop n) else none

def chunk (bytes : List UInt8) : Option (Chunk × List UInt8) := do
  let (source, bytes) ← word bytes
  let (is, rest) ← items bytes
  let rest ← toBoundary (bytes.length - rest.length) rest
  return (⟨source, is⟩, rest)

/-- The reason for leaving, which may be missing, and its padding. -/
def reason : List UInt8 → Option (List UInt8)
  | [] => some []
  | length :: rest =>
    if length.toNat ≤ rest.length ∧
        toBoundary (length.toNat + 1) (rest.drop length.toNat) = some [] then
      some (rest.take length.toNat)
    else none

def senderReport (count : Nat) (bytes : List UInt8) : Option Packet := do
  let (source, bytes) ← word bytes
  let (ntpSeconds, bytes) ← word bytes
  let (ntpFraction, bytes) ← word bytes
  let (rtpTimestamp, bytes) ← word bytes
  let (packetCount, bytes) ← word bytes
  let (octetCount, bytes) ← word bytes
  let (blocks, extension) ← many block count bytes
  return .senderReport source
    { ntpSeconds, ntpFraction, rtpTimestamp, packetCount, octetCount } blocks extension

def description (count : Nat) (bytes : List UInt8) : Option Packet := do
  let (chunks, rest) ← many chunk count bytes
  if rest = [] then some (.description chunks) else none

def goodbye (count : Nat) (bytes : List UInt8) : Option Packet := do
  let (sources, rest) ← many word count bytes
  let text ← reason rest
  return .goodbye sources text

/-- What is behind the header, without the padding. -/
def body (count : Nat) (type : UInt8) (bytes : List UInt8) : Option Packet :=
  if type = 200 then senderReport count bytes
  else if type = 202 then description count bytes
  else if type = 203 then goodbye count bytes
  else some (.other type bytes)

/-- The last octet of a padding counts it. -/
def unpadded (bytes : List UInt8) : Option (List UInt8) := do
  let n ← bytes.getLast?
  if n ≠ 0 ∧ n.toNat ≤ bytes.length then some (bytes.take (bytes.length - n.toNat)) else none

/-- The packets of a compound packet, which fill it. -/
def decode (bytes : List UInt8) : Option (List Packet) :=
  match bytes with
  | [] => some []
  | first :: type :: hi :: lo :: rest =>
    let length := 4 * (hi.toNat * 256 + lo.toNat)
    if first.toNat / 64 = 2 ∧ length ≤ rest.length then do
      let bytes ← if first.toNat / 32 % 2 = 1 then unpadded (rest.take length)
        else some (rest.take length)
      let packet ← body (first.toNat % 32) type bytes
      let packets ← decode (rest.drop length)
      return packet :: packets
    else none
  | _ => none
termination_by bytes.length
decreasing_by
  rw [List.length_drop, List.length_cons, List.length_cons, List.length_cons, List.length_cons]
  omega

/-! ## Data packets -/

structure Data where
  marker : Bool
  payloadType : Nat
  sequence : UInt16
  timestamp : UInt32
  source : UInt32
  payload : List UInt8
deriving DecidableEq, Repr

/-- The header extension, which is passed over. -/
def extension : List UInt8 → Option (List UInt8)
  | _ :: _ :: hi :: lo :: rest =>
    let length := 4 * (hi.toNat * 256 + lo.toNat)
    if length ≤ rest.length then some (rest.drop length) else none
  | _ => none

/-- A data packet; the contributing sources are passed over. -/
def data : List UInt8 → Option Data
  | first :: second :: hi :: lo :: rest => do
    if first.toNat / 64 ≠ 2 then none
    else
      let (timestamp, rest) ← word rest
      let (source, rest) ← word rest
      let (_, rest) ← many word (first.toNat % 16) rest
      let rest ← if first.toNat / 16 % 2 = 1 then extension rest else some rest
      let payload ← if first.toNat / 32 % 2 = 1 then unpadded rest else some rest
      return { marker := 128 ≤ second.toNat
               payloadType := second.toNat % 128
               sequence := UInt16.ofNat (hi.toNat * 256 + lo.toNat)
               timestamp, source, payload }
  | _ => none

/-! ## What is decoded -/

variable {rest text : List UInt8} {type length : UInt8}

/-- A packet without padding, when its length is the one in its header. -/
theorem decode_append (first type hi lo : UInt8) (bytes rest : List UInt8)
    (hversion : first.toNat / 64 = 2) (hpadding : first.toNat / 32 % 2 = 0)
    (hlength : bytes.length = 4 * (hi.toNat * 256 + lo.toNat)) :
    decode (first :: type :: hi :: lo :: (bytes ++ rest)) =
      (body (first.toNat % 32) type bytes).bind fun packet => (decode rest).map (packet :: ·) := by
  have hle : 4 * (hi.toNat * 256 + lo.toNat) ≤ (bytes ++ rest).length := by
    rw [List.length_append]
    omega
  conv_lhs => unfold decode
  dsimp only
  rw [if_pos ⟨hversion, hle⟩, if_neg (by omega), ← hlength, List.take_left, List.drop_left]
  simp only [Option.bind_eq_bind, Option.bind_some, Option.pure_def, Option.map_eq_bind,
    Function.comp_def]

theorem decode_nil : decode [] = some [] := by
  unfold decode
  rfl

theorem items_nil : items [] = none := by
  unfold items
  rfl

theorem items_zero : items (0 :: rest) = some ([], rest) := by
  unfold items
  cases rest with
  | nil => rfl
  | cons x xs => rfl

theorem items_append (htype : type ≠ 0) (hlength : text.length = length.toNat) :
    items (type :: length :: (text ++ rest)) =
      (items rest).map fun r => (⟨type, text⟩ :: r.1, r.2) := by
  have hle : length.toNat ≤ (text ++ rest).length := by
    rw [List.length_append]
    omega
  conv_lhs => unfold items
  dsimp only
  rw [if_neg htype, if_pos hle, ← hlength, List.drop_left, List.take_left]
  simp only [Option.bind_eq_bind, Option.pure_def, Option.map_eq_bind, Function.comp_def]

theorem toBoundary_replicate {read n : Nat} (hread : 4 ∣ read + n) (hn : n < 4) :
    toBoundary read (List.replicate n 0) = some [] := by
  unfold toBoundary
  have h : (4 - read % 4) % 4 = n := by omega
  have hlen : (List.replicate n (0 : UInt8)).length ≤ n := Nat.le_of_eq List.length_replicate
  dsimp only
  rw [h, List.take_of_length_le hlen, if_pos rfl, List.drop_of_length_le hlen]

end Rfc3550
