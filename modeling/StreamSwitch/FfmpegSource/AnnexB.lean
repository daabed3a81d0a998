import StreamSwitch.FfmpegSource.AvcC
import StreamSwitch.FfmpegSource.Cache

/-!
# Packets in Annex-B form

`H264or5Parser::Parse` takes a packet that does not start with 00 00 00 01 for one whose units have
length fields, and follows them to the end of the packet, with a start code in place of each.

`avcc_to_annexB`: of every sequence of packets that have length fields, each is handed on with
start codes instead of them and behind the extra data where it has to be. `annexB_safe_iff`: the
loop ends and stays inside a packet of any content, and leaves what has start codes alone, exactly
if no length field leads in front of the packet, the packet is not too short for one and its start
codes are not of three bytes.
-/

namespace StreamSwitch.Ffmpeg

open Buffer Run

/-! ## Length fields -/

/-- A unit behind its 32-bit length. -/
def prefixed32 (nal : Bytes) : Bytes :=
  UInt8.ofNat (nal.length / 2 ^ 24) :: UInt8.ofNat (nal.length / 2 ^ 16) ::
    UInt8.ofNat (nal.length / 2 ^ 8) :: UInt8.ofNat nal.length :: nal

/-- The units of a packet. -/
structure IsAccessUnit (nals : List Bytes) : Prop where
  nonempty : ∀ nal ∈ nals, nal ≠ []
  short : ∀ nal ∈ nals, nal.length < 2 ^ 31
  /-- The length of the first one does not look like a start code. -/
  first : ∃ nal rest, nals = nal :: rest ∧ 1 < nal.length

theorem lengthField_prefixed32 {nal : Bytes} (h : nal.length < 2 ^ 31) (rest : Bytes) :
    lengthField (prefixed32 nal ++ rest) = nal.length := by
  have hvalue : (((UInt8.ofNat (nal.length / 2 ^ 24)).toNat * 256 +
      (UInt8.ofNat (nal.length / 2 ^ 16)).toNat) * 256 +
      (UInt8.ofNat (nal.length / 2 ^ 8)).toNat) * 256 + (UInt8.ofNat nal.length).toNat =
      nal.length := by
    simp only [UInt8.toNat_ofNat']
    omega
  simp only [prefixed32, List.cons_append, lengthField, hvalue]
  exact int32OfSize_eq h

theorem length_prefixed32 (nal : Bytes) : (prefixed32 nal).length = nal.length + 4 := rfl

theorem length_startCoded (nals : List Bytes) :
    (startCoded nals).length = (nals.flatMap prefixed32).length := by
  induction nals with
  | nil => rfl
  | cons nal nals ih =>
    rw [startCoded_cons, List.flatMap_cons, List.length_append, List.length_append, ih,
      List.length_append, length_prefixed32, Nat.add_comm nal.length]
    rfl

theorem length_le_prefixed32 (nals : List Bytes) :
    nals.length ≤ (nals.flatMap prefixed32).length := by
  induction nals with
  | nil => exact Nat.le_refl 0
  | cons nal nals ih =>
    simp only [List.flatMap_cons, List.length_append, List.length_cons, length_prefixed32]
    omega

/-- The loop from the length field of the first of `nals` on. -/
theorem addStartCodes_prefixed {size fuel : Nat} {nals : List Bytes} (hnil : nals ≠ [])
    (hne : ∀ nal ∈ nals, nal ≠ []) (hshort : ∀ nal ∈ nals, nal.length < 2 ^ 31)
    (hfuel : nals.length ≤ fuel) (a rest : Bytes)
    (hsize : size = a.length + (nals.flatMap prefixed32).length) :
    addStartCodes size fuel (a ++ (nals.flatMap prefixed32 ++ rest)) a.length =
      some (a ++ (startCoded nals ++ rest)) := by
  induction nals generalizing a fuel with
  | nil => exact absurd rfl hnil
  | cons nal nals ih =>
    cases fuel with
    | zero => cases hfuel
    | succ fuel =>
      have hpos : 0 < nal.length := List.length_pos_of_ne_nil (hne nal (.head _))
      have hlen := lengthField_prefixed32 (hshort nal (.head _)) (nals.flatMap prefixed32 ++ rest)
      have hmem : a ++ ((nal :: nals).flatMap prefixed32 ++ rest) =
          a ++ (prefixed32 nal ++ (nals.flatMap prefixed32 ++ rest)) := by simp
      have hsize' : size = a.length + (nal.length + 4 + (nals.flatMap prefixed32).length) := by
        rw [hsize, List.flatMap_cons, List.length_append, length_prefixed32]
      have hnew : (a ++ (prefixed32 nal ++ (nals.flatMap prefixed32 ++ rest))).take a.length ++
          startCode ++ (a ++ (prefixed32 nal ++ (nals.flatMap prefixed32 ++ rest))).drop
            (a.length + 4) = a ++ startCode ++ nal ++ (nals.flatMap prefixed32 ++ rest) := by
        simp [prefixed32]
      rw [hmem]
      unfold addStartCodes
      simp only [Int.toNat_natCast]
      have hroom : a.length + 4 ≤
          (a ++ (prefixed32 nal ++ (nals.flatMap prefixed32 ++ rest))).length := by
        rw [List.length_append, List.length_append, length_prefixed32]
        omega
      rw [if_pos ⟨by omega, by omega⟩, List.drop_left, hlen, hnew]
      have hat : (a.length : Int) + 4 + nal.length = (a ++ startCode ++ nal).length := by
        simp only [List.length_append, startCode, List.length_cons, List.length_nil]
        omega
      cases nals with
      | nil =>
        rw [if_pos (by simp at hsize'; omega)]
        simp [startCoded]
      | cons nal' nals =>
        have hnext := length_prefixed32 nal'
        have hpos' : 0 < nal'.length :=
          List.length_pos_of_ne_nil (hne nal' (.tail _ (.head _)))
        rw [if_neg (by simp at hsize'; omega), hat]
        have hrest := @ih fuel (by simp) (fun n hn => hne n (.tail _ hn))
          (fun n hn => hshort n (.tail _ hn)) (by simpa using hfuel) (a ++ startCode ++ nal)
          (by rw [hsize']; simp [startCode]; omega)
        rw [hrest]
        simp [startCoded]

/-- A packet with length fields gets start codes in place of them. -/
theorem annexB_prefixed {nals : List Bytes} (h : IsAccessUnit nals) :
    annexB (nals.flatMap prefixed32) = some (startCoded nals) := by
  obtain ⟨nal, rest, rfl, hlong⟩ := h.first
  have hfield := lengthField_prefixed32 (h.short nal (.head _))
    (rest.flatMap prefixed32 ++ padding)
  have hcode : ((nal :: rest).flatMap prefixed32 ++ padding).take 4 ≠ startCode := by
    intro heq
    rw [List.flatMap_cons, List.append_assoc] at heq
    have hone : lengthField (prefixed32 nal ++ (rest.flatMap prefixed32 ++ padding)) = 1 := by
      simp only [prefixed32, List.cons_append, List.take_succ_cons, startCode, List.cons.injEq]
        at heq
      simp only [prefixed32, List.cons_append, lengthField, heq.1, heq.2.1, heq.2.2.1, heq.2.2.2.1]
      decide
    omega
  have hfuel : (nal :: rest).length ≤ (((nal :: rest).flatMap prefixed32).length + 1) *
      (((nal :: rest).flatMap prefixed32).length + 1) := by
    have hcount := length_le_prefixed32 (nal :: rest)
    exact (hcount.trans (Nat.le_succ _)).trans (Nat.le_mul_self _)
  have hloop := addStartCodes_prefixed (by simp) h.nonempty h.short hfuel [] padding
    (Nat.zero_add _).symm
  unfold annexB
  simp only
  rw [if_neg hcode]
  simp only [List.nil_append, List.length_nil, Nat.cast_zero] at hloop
  rw [hloop, Option.map_some, ← length_startCoded, List.take_left]

/-! ## Sequences of packets -/

/-- A call of `Parse`. The packets of other streams may have changed the base and the metadata. -/
structure ParseCall where
  base : Base
  subs : List SubStreamMetadata
  packet : Packet

namespace StreamParser

/-- The parser after a call. -/
def parseStep (p : StreamParser) (c : ParseCall) : Option StreamParser :=
  (p.parse c.base c.subs c.packet).map (·.parser)

/-- The bytes of a payload while the parser is as it is; `none` if they cannot be read. -/
def payloadBytes (p : StreamParser) : Payload → Option Bytes
  | .own bytes => some bytes
  | .keyFrameBuf ptr => p.keyFrameBuf.bind fun buf => buf.deref ptr

/-- The bytes of the packet that a call hands on when it returns. -/
def handedOn (p : StreamParser) (c : ParseCall) : Option (Option Bytes) :=
  (p.parse c.base c.subs c.packet).bind fun out => out.frame.map fun x =>
    out.parser.payloadBytes x.2.data

/-- The first unit is a slice of a picture. -/
def startsWithVCL (h : HNumber) (nals : List Bytes) : Bool :=
  match nals.head?.bind List.head? with
  | some b => isVCL h (nalUnitType h b)
  | none => false

/-- What is handed on of a packet with these units. -/
def normalised (h : HNumber) (extra : Bytes) (key : Bool) (nals : List Bytes) : Bytes :=
  if key ∧ 5 < (startCoded nals).length ∧ startsWithVCL h nals ∧ extra ≠ [] then
    extra ++ startCoded nals
  else startCoded nals

/-- The buffer of the parser starts with the extra data. -/
def Buffers (h : HNumber) (extra : Bytes) (p : StreamParser) : Prop :=
  ∃ buf, p.kind = .h264or5 h extra.length buf ∧ buf.contents.take extra.length = extra

variable {h : HNumber} {extra : Bytes} {p q : StreamParser}

theorem Buffers.init (h : HNumber) (extra : Bytes) (i : Nat) (st : AVStream)
    (playType : StreamPlayType) : Buffers h extra (baseInit (headerKind h extra) i st playType) := by
  refine ⟨_, rfl, ?_⟩
  rw [Buf.contents_assign, List.take_length]

/-- The condition for the extra data in terms of the units. -/
theorem insertsHeader_iff (h : HNumber) (extra : Bytes) {nals : List Bytes} (hu : IsAccessUnit nals)
    (key : Bool) :
    insertsHeader h extra.length key (startCoded nals) = true ↔
      key ∧ 5 < (startCoded nals).length ∧ startsWithVCL h nals ∧ extra ≠ [] := by
  obtain ⟨nal, rest, rfl, hlong⟩ := hu.first
  cases nal with
  | nil => exact absurd hlong (by decide)
  | cons b nal =>
    have hfourth : (startCoded ((b :: nal) :: rest))[4]? = some b := rfl
    simp only [insertsHeader, hfourth, startsWithVCL]
    simp
    tauto

theorem contents_resize {buf : Buf UInt8} {n : Nat} (hn : n ≤ buf.size) :
    (buf.resize n).contents = buf.contents.take n := by
  unfold Buf.resize
  rw [if_pos hn, Buf.contents_write, List.append_nil]

/-- What `Parse` hands on is the payload that was prepared. -/
theorem handedOn_eq {c : ParseCall} {data : Payload} (hprep : p.prepare c.packet = some (q, data))
    {bytes : Option Bytes} (hb : bytes ∈ p.handedOn c) :
    bytes = q.payloadBytes data := by
  have hparse : p.parse c.base c.subs c.packet = some (q.baseParse c.base c.subs c.packet data) :=
    parse_eq_some.2 ⟨q, data, hprep, rfl⟩
  have hkind := (baseParse_keeps q c.base c.subs c.packet data).2
  rw [Option.mem_def, handedOn, hparse, Option.bind_some] at hb
  obtain ⟨x, hx, rfl⟩ := Option.map_eq_some_iff.1 hb
  rw [baseParse_frame hx]
  cases data with
  | own bytes => rfl
  | keyFrameBuf ptr => simp only [payloadBytes, keyFrameBuf, AVPacket.withData, hkind]

/-- One packet: `Parse` returns, the buffer still starts with the extra data, and what is handed
on is right. -/
theorem Buffers.parse (hp : Buffers h extra p) {c : ParseCall} {nals : List Bytes}
    (hu : IsAccessUnit nals) (hdata : c.packet.pkt.data = nals.flatMap prefixed32) :
    ∃ q, p.parseStep c = some q ∧ Buffers h extra q ∧
      ∀ bytes ∈ p.handedOn c, bytes = some (normalised h extra c.packet.pkt.key nals) := by
  obtain ⟨buf, hkind, hbuf⟩ := hp
  have hannex := annexB_prefixed hu
  rw [← hdata] at hannex
  have hiff := insertsHeader_iff h extra hu c.packet.pkt.key
  by_cases hins : insertsHeader h extra.length c.packet.pkt.key (startCoded nals) = true
  · -- the header is in the buffer, and the packet is put behind it
    have hsize : extra.length ≤ buf.size := by
      have hlen := congrArg List.length hbuf
      rw [List.length_take, Buf.length_contents] at hlen
      omega
    have hcontents : ((buf.resize extra.length).append (startCoded nals)).contents =
        extra ++ startCoded nals := by
      rw [Buf.contents_append, contents_resize hsize, hbuf]
    have hprep : p.prepare c.packet = some ({ p with
        kind := .h264or5 h extra.length ((buf.resize extra.length).append (startCoded nals)) },
        .keyFrameBuf ((buf.resize extra.length).append (startCoded nals)).ptr) := by
      simp only [prepare, hkind, hannex, Option.map_some, hins, if_true]
    refine ⟨_, Option.map_eq_some_iff.2 ⟨_, parse_eq_some.2 ⟨_, _, hprep, rfl⟩, rfl⟩, ?_, ?_⟩
    · refine ⟨_, (baseParse_keeps ..).2, ?_⟩
      rw [hcontents, List.take_left]
    · intro bytes hb
      rw [handedOn_eq hprep hb, normalised, if_pos (hiff.1 hins), ← hcontents]
      exact Buf.deref_ptr _
  · have hprep : p.prepare c.packet = some (p, .own (startCoded nals)) := by
      simp only [prepare, hkind, hannex, Option.map_some, hins, if_false, Bool.false_eq_true]
    refine ⟨_, Option.map_eq_some_iff.2 ⟨_, parse_eq_some.2 ⟨_, _, hprep, rfl⟩, rfl⟩, ?_, ?_⟩
    · exact ⟨buf, (baseParse_keeps ..).2.trans hkind, hbuf⟩
    · intro bytes hb
      rw [handedOn_eq hprep hb, normalised, if_neg (fun hc => hins (hiff.2 hc))]
      rfl

/-- The packet has units behind length fields, and what is handed on of it is right. -/
def Normalises (h : HNumber) (extra : Bytes) (p : StreamParser) (c : ParseCall) : Prop :=
  ∀ nals, IsAccessUnit nals → c.packet.pkt.data = nals.flatMap prefixed32 →
    annexB c.packet.pkt.data = some (startCoded nals) ∧
      ∀ bytes ∈ p.handedOn c, bytes = some (normalised h extra c.packet.pkt.key nals)

/-- **Packets with length fields become Annex-B.** In every sequence of such packets of a stream,
`Parse` returns and puts start codes in place of the length fields and changes nothing else, and a
key frame that starts with a slice is handed on behind the extra data of the stream. -/
theorem avcc_to_annexB {i : Nat} {st : AVStream} {playType : StreamPlayType}
    {subs subs' : List SubStreamMetadata} {p₀ : StreamParser} (hextra : annexBExtra h
      (extraDataOf subs i) = .ok extra) (hinit : h264or5Init h i st playType subs = .ok (p₀, subs'))
    {cs : List ParseCall}
    (hcs : ∀ c ∈ cs, ∃ nals, IsAccessUnit nals ∧ c.packet.pkt.data = nals.flatMap prefixed32) :
    (∃ p, exec parseStep p₀ cs = some p) ∧ Each parseStep (Normalises h extra) p₀ cs := by
  have hstep : ∀ (p : StreamParser) (c : ParseCall), Buffers h extra p →
      (∃ nals, IsAccessUnit nals ∧ c.packet.pkt.data = nals.flatMap prefixed32) →
      (∃ q, p.parseStep c = some q ∧ Buffers h extra q) ∧ Normalises h extra p c := by
    intro p c hp ⟨nals, hu, hdata⟩
    obtain ⟨q, hq, hb, -⟩ := hp.parse hu hdata
    refine ⟨⟨q, hq, hb⟩, fun nals hu hdata => ?_⟩
    obtain ⟨-, -, -, hon⟩ := hp.parse hu hdata
    exact ⟨hdata ▸ annexB_prefixed hu, hon⟩
  have hp₀ : Buffers h extra p₀ := by
    obtain ⟨extra', hextra', rfl, -⟩ := h264or5Init_ok hinit
    cases hextra.symm.trans hextra'
    exact .init ..
  clear hinit
  induction cs generalizing p₀ with
  | nil => exact ⟨⟨p₀, rfl⟩, trivial⟩
  | cons c cs ih =>
    obtain ⟨⟨q, hq, hb⟩, hnorm⟩ := hstep p₀ c hp₀ (hcs c (.head _))
    obtain ⟨⟨p, hexec⟩, heach⟩ := ih (fun c hc => hcs c (.tail _ hc)) hb
    exact ⟨⟨p, exec_cons_some.2 ⟨q, hq, hexec⟩⟩, .cons hq hnorm heach⟩

/-- An H.264 stream with an SPS as its extra data. -/
def avcStream : AVStream :=
  { codecId := .h264, codecType := .video, timeBase := ⟨1, 1000, Int.one_pos, thousand_pos⟩
    extradata := [0, 0, 0, 1, 0x67] }

def avcSubs : List SubStreamMetadata := [{ extraData := avcStream.extradata }]

/-- A key frame with these units. -/
def keyUnits (pts : Int) (nals : List Bytes) : ParseCall :=
  { base := {}, subs := avcSubs
    packet := { pkt := ⟨0, pts, 0, true, false, nals.flatMap prefixed32⟩ } }

/-- A key frame of two slices, and a shorter one behind it. -/
def twoAccessUnits : List ParseCall :=
  [keyUnits 0 [[0x65, 1, 2], [0x65, 3]], keyUnits 40 [[0x65, 4]]]

theorem avcc_to_annexB_twice : ∃ p₀ subs',
    h264or5Init .h264 0 avcStream .live avcSubs = .ok (p₀, subs') ∧
      collect parseStep (fun p c => (p.handedOn c).toList) p₀ twoAccessUnits =
        [some [0, 0, 0, 1, 0x67, 0, 0, 0, 1, 0x65, 1, 2, 0, 0, 0, 1, 0x65, 3],
          some [0, 0, 0, 1, 0x67, 0, 0, 0, 1, 0x65, 4]] ∧
      Each parseStep (Normalises .h264 [0, 0, 0, 1, 0x67]) p₀ twoAccessUnits := by
  have hextra : annexBExtra .h264 (extraDataOf avcSubs 0) = .ok [0, 0, 0, 1, 0x67] := rfl
  have hinit : h264or5Init .h264 0 avcStream .live avcSubs =
      .ok (baseInit (headerKind .h264 [0, 0, 0, 1, 0x67]) 0 avcStream .live, avcSubs) := rfl
  refine ⟨_, _, hinit, by decide +kernel, (avcc_to_annexB hextra hinit ?_).2⟩
  intro c hc
  rcases List.mem_pair.1 hc with rfl | rfl
  · exact ⟨[[0x65, 1, 2], [0x65, 3]], ⟨by decide, by decide, _, _, rfl, by decide⟩, rfl⟩
  · exact ⟨[[0x65, 4]], ⟨by decide, by decide, _, _, rfl, by decide⟩, rfl⟩

end StreamParser

/-! ## Packets of any content -/

/-- The memory after a start code was written at `p`. -/
def writeCode (mem : Bytes) (p : Nat) : Bytes := mem.take p ++ startCode ++ mem.drop (p + 4)

/-- Where the length field at `p` leads. -/
def nextField (mem : Bytes) (p : Nat) : Int := p + 4 + lengthField (mem.drop p)

/-- The length fields that the loop comes to, each with the memory it finds. -/
inductive Reached (bytes : Bytes) : Bytes → Nat → Prop
  | first : Reached bytes bytes 0
  | next {mem : Bytes} {p q : Nat} (h : Reached bytes mem p) (hq : nextField mem p = q)
      (hlt : q + 4 < bytes.length) : Reached bytes (writeCode mem p) q

/-- What `Parse` should do with a packet of any content. The packet is all of the memory that the
loop may use. -/
structure Normalisable (bytes : Bytes) : Prop where
  inside : startCode <+: bytes ∨ ∃ fuel out, addStartCodes bytes.length fuel bytes 0 = some out
  unchanged : startCode <+: bytes ∨ [0, 0, 1] <+: bytes → annexB bytes = some bytes

variable {bytes mem out : Bytes} {n fuel p : Nat}

theorem addStartCodes_succ (n fuel : Nat) (mem : Bytes) (p : Nat) :
    addStartCodes n (fuel + 1) mem p =
      if p + 4 ≤ mem.length then
        if (n : Int) - 4 ≤ nextField mem p then some (writeCode mem p)
        else addStartCodes n fuel (writeCode mem p) (nextField mem p)
      else none := by
  have hguard : (0 ≤ (p : Int) ∧ (p : Int) + 4 ≤ mem.length) ↔ p + 4 ≤ mem.length := by omega
  rw [addStartCodes]
  simp only [hguard, Int.toNat_natCast]
  rfl

theorem length_writeCode (h : p + 4 ≤ mem.length) : (writeCode mem p).length = mem.length := by
  simp only [writeCode, List.length_append, List.length_take, List.length_drop, startCode,
    List.length_cons, List.length_nil]
  omega

/-! ### Where a run succeeds -/

/-- A run that succeeds does not lead in front of the packet, and goes on successfully. -/
theorem addStartCodes_some (hlen : mem.length = n) (h : addStartCodes n fuel mem p = some out) :
    p + 4 ≤ n ∧ 0 ≤ nextField mem p ∧ (nextField mem p < (n : Int) - 4 →
      ∃ fuel', addStartCodes n fuel' (writeCode mem p) (nextField mem p) = some out) := by
  cases fuel with
  | zero => cases h
  | succ fuel =>
    rw [addStartCodes_succ] at h
    split at h
    · rename_i hp
      split at h
      · rename_i hend
        exact ⟨by omega, by omega, fun hlt => by omega⟩
      · rename_i hgo
        have hnonneg : 0 ≤ nextField mem p := by
          cases fuel with
          | zero => cases h
          | succ fuel =>
            rw [addStartCodes] at h
            split at h
            · rename_i hguard
              exact hguard.1
            · cases h
        exact ⟨by omega, hnonneg, fun _ => ⟨fuel, h⟩⟩
    · cases h

/-- Every length field that is reached in a run that succeeds. -/
theorem Reached.succeeds (hr : Reached bytes mem p)
    (h : addStartCodes bytes.length fuel bytes 0 = some out) :
    mem.length = bytes.length ∧
      ∃ fuel', addStartCodes bytes.length fuel' mem p = some out := by
  induction hr with
  | first => exact ⟨rfl, fuel, h⟩
  | next hr hq hlt ih =>
    obtain ⟨hlen, fuel', hrun⟩ := ih
    obtain ⟨hp, -, hgo⟩ := addStartCodes_some hlen hrun
    rw [hq] at hgo
    exact ⟨(length_writeCode (by omega)).trans hlen, hgo (by omega)⟩

/-! ### The loop ends -/

/-- The bytes that make a length negative. -/
def highBytes (mem : Bytes) : Nat := mem.countP (0x80 ≤ ·)

theorem lengthField_nonneg {b : UInt8} (hb : b < 0x80) (rest : Bytes) :
    0 ≤ lengthField (b :: rest) := by
  unfold lengthField
  split
  · rename_i b0 b1 b2 b3 rest' heq
    cases heq
    have h0 : b.toNat < 128 := hb
    have h1 := b1.toNat_lt
    have h2 := b2.toNat_lt
    have h3 := b3.toNat_lt
    rw [int32OfSize_eq (by omega)]
    omega
  · exact Int.le_refl 0

theorem highBytes_writeCode (h : p + 4 ≤ mem.length) :
    highBytes (writeCode mem p) ≤ highBytes mem ∧
      (lengthField (mem.drop p) < 0 → highBytes (writeCode mem p) < highBytes mem) := by
  obtain ⟨b, rest, hdrop⟩ : ∃ b rest, mem.drop p = b :: rest :=
    List.exists_cons_of_length_pos (by rw [List.length_drop]; omega)
  have hrest : mem.drop (p + 4) = rest.drop 3 := by
    rw [← List.drop_drop, hdrop]
    rfl
  have hsplit : highBytes mem = highBytes (mem.take p) +
      (highBytes [b] + (highBytes (rest.take 3) + highBytes (rest.drop 3))) := by
    unfold highBytes
    rw [← List.countP_append, List.take_append_drop, ← List.countP_append, List.singleton_append,
      ← hdrop, ← List.countP_append, List.take_append_drop]
  have hnew : highBytes (writeCode mem p) =
      highBytes (mem.take p) + highBytes (rest.drop 3) := by
    unfold writeCode highBytes
    rw [List.countP_append, List.countP_append, hrest]
    rfl
  refine ⟨by omega, fun hneg => ?_⟩
  have hhigh : ¬ b < 0x80 := by
    intro hb
    rw [hdrop] at hneg
    have := lengthField_nonneg hb rest
    omega
  have hone : highBytes [b] = 1 := by
    unfold highBytes
    rw [List.countP_singleton, if_pos]
    simpa using hhigh
  omega

/-- The loop ends: a turn goes forwards, or takes a byte away that made a length negative. -/
theorem addStartCodes_total (hall : ∀ mem p, Reached bytes mem p → 0 ≤ nextField mem p)
    (hr : Reached bytes mem p) (hlen : mem.length = bytes.length) (hp : p + 4 ≤ bytes.length)
    (hfuel : highBytes mem * (bytes.length + 1) + (bytes.length - p) < fuel) :
    ∃ out, addStartCodes bytes.length fuel mem p = some out := by
  induction fuel generalizing mem p with
  | zero => omega
  | succ fuel ih =>
    rw [addStartCodes_succ, if_pos (by omega)]
    split
    · exact ⟨_, rfl⟩
    · rename_i hgo
      have hnonneg := hall mem p hr
      obtain ⟨q, hq⟩ := Int.eq_ofNat_of_zero_le hnonneg
      rw [hq] at hgo ⊢
      obtain ⟨hle, hlt⟩ := highBytes_writeCode (show p + 4 ≤ mem.length by omega)
      refine ih (hr.next hq (by omega)) ((length_writeCode (by omega)).trans hlen) (by omega) ?_
      by_cases hneg : lengthField (mem.drop p) < 0
      · have hmul : (highBytes (writeCode mem p) + 1) * (bytes.length + 1) ≤
            highBytes mem * (bytes.length + 1) := Nat.mul_le_mul_right _ (hlt hneg)
        rw [Nat.succ_mul] at hmul
        omega
      · have hmul : highBytes (writeCode mem p) * (bytes.length + 1) ≤
            highBytes mem * (bytes.length + 1) := Nat.mul_le_mul_right _ hle
        have hq' : (p : Int) + 4 + lengthField (mem.drop p) = q := hq
        omega

/-! ### Start codes of three bytes -/

theorem third_writeCode (hp : p + 4 ≤ mem.length) (h : p = 0 ∨ mem[2]? = some 0) :
    (writeCode mem p)[2]? = some 0 := by
  unfold writeCode
  rw [List.append_assoc, List.getElem?_append, List.length_take, Nat.min_eq_left (by omega)]
  split
  · rename_i hlt
    rw [List.getElem?_take_of_lt hlt]
    rcases h with rfl | h
    · omega
    · exact h
  · rename_i hge
    have hcases : p = 0 ∨ p = 1 ∨ p = 2 := by omega
    rcases hcases with rfl | rfl | rfl <;> rfl

/-- The third byte is 0 once a start code was written over it. -/
theorem third_addStartCodes {p : Int} (hmem : mem[2]? = some 0 ∨ p = 0)
    (h : addStartCodes n fuel mem p = some out) : out[2]? = some 0 := by
  induction fuel generalizing mem p with
  | zero => cases h
  | succ fuel ih =>
    by_cases hp : 0 ≤ p
    · obtain ⟨q, rfl⟩ := Int.eq_ofNat_of_zero_le hp
      rw [addStartCodes_succ] at h
      split at h
      · rename_i hq
        have hthird := third_writeCode hq (hmem.symm.imp_left Int.natCast_eq_zero.1)
        split at h
        · cases h
          exact hthird
        · exact ih (.inl hthird) h
      · cases h
    · rw [addStartCodes, if_neg (fun hc => hp hc.1)] at h
      cases h

theorem annexB_three_bytes (h : [0, 0, 1] <+: bytes) : annexB bytes ≠ some bytes := by
  obtain ⟨rest, rfl⟩ := h
  intro heq
  unfold annexB at heq
  simp only at heq
  rw [if_neg (by simp [startCode])] at heq
  obtain ⟨out, hrun, hout⟩ := Option.map_eq_some_iff.1 heq
  have hthird := third_addStartCodes (.inr rfl) hrun
  have htake : (out.take ([0, 0, 1] ++ rest).length)[2]? = out[2]? :=
    List.getElem?_take_of_lt (by simp)
  rw [hthird, hout] at htake
  exact absurd htake (by simp)

/-! ### The condition -/

theorem annexB_of_startCode (h : startCode <+: bytes) : annexB bytes = some bytes := by
  obtain ⟨rest, rfl⟩ := h
  rfl

/-- **Packets of any content.** The loop ends, stays inside the packet and leaves a packet that has
start codes alone, exactly if the packet starts with 00 00 00 01; or it does not start with
00 00 01, has room for a length field, and no length field that is reached leads in front of it. -/
theorem annexB_safe_iff (bytes : Bytes) :
    Normalisable bytes ↔ startCode <+: bytes ∨
      (4 ≤ bytes.length ∧ ¬ [0, 0, 1] <+: bytes ∧
        ∀ mem p, Reached bytes mem p → 0 ≤ nextField mem p) := by
  constructor
  · rintro ⟨hcode | ⟨fuel, out, hrun⟩, hunchanged⟩
    · exact .inl hcode
    · refine .inr ⟨?_, fun hthree => annexB_three_bytes hthree (hunchanged (.inr hthree)), ?_⟩
      · have := (addStartCodes_some (p := 0) rfl hrun).1
        omega
      · intro mem p hr
        obtain ⟨hlen, fuel', hrun'⟩ := hr.succeeds hrun
        exact (addStartCodes_some hlen hrun').2.1
  · rintro (hcode | ⟨hlen, hthree, hall⟩)
    · exact ⟨.inl hcode, fun _ => annexB_of_startCode hcode⟩
    · refine ⟨.inr ⟨_, addStartCodes_total hall .first rfl (by omega) (Nat.lt_succ_self _)⟩, ?_⟩
      rintro (hcode | hc)
      · exact annexB_of_startCode hcode
      · exact absurd hc hthree

/-- A slice behind a start code of three bytes is taken for a length field, and a negative length
leads in front of the packet. -/
theorem packets_not_normalised :
    annexB [0, 0, 1, 0x65, 0x88] = some [0, 0, 0, 1, 0x88] ∧
      ¬ Normalisable [0, 0, 1, 0x65, 0x88] ∧
      nextField [0xFF, 0xFF, 0xFF, 0, 1, 2, 3, 4, 5] 0 = -252 ∧
      ¬ Normalisable [0xFF, 0xFF, 0xFF, 0, 1, 2, 3, 4, 5] := by
  have hback : nextField [0xFF, 0xFF, 0xFF, 0, 1, 2, 3, 4, 5] 0 = -252 := by decide
  refine ⟨by decide +kernel, ?_, hback, ?_⟩
  · intro h
    have hsame := h.unchanged (.inr ⟨[0x65, 0x88], rfl⟩)
    exact absurd hsame (by decide +kernel)
  · rintro ⟨hcode | ⟨fuel, out, hrun⟩, -⟩
    · exact absurd hcode (by decide)
    · have hnonneg := (addStartCodes_some (p := 0) rfl hrun).2.1
      rw [hback] at hnonneg
      exact absurd hnonneg (by decide)

end StreamSwitch.Ffmpeg
