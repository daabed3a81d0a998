import Mathlib.Data.Rat.Floor
import StreamSwitch.Defs

/-!
# The H.264 parser of the RTSP port

`media/parser/h264.c`: a frame is cut at its start codes, and each NAL unit goes out as one
RTP payload or, where it is longer than `DEFAULT_MTU`, as FU-A fragments. A pointer into a
buffer is the list of bytes from it to the end of the buffer, so that reading behind the end
is a fault. `is_avc` is never set (`h264_init` has that part compiled out), so its branch is
left out. What is put out is what `mparser_buffer_write` is called with.

`lossless`: what a receiver makes of the payloads of frames is their NAL units from the first
SPS or IDR picture on.
-/

namespace StreamSwitch

namespace H264Parser

inductive Fault where
  /-- A read outside the buffer. -/
  | read
  /-- A pointer before the start of the buffer. -/
  | pointer
deriving DecidableEq, Repr

def defaultMtu : Nat := 1440

/-- A call of `mparser_buffer_write`. -/
structure Payload where
  marker : Bool
  data : Bytes
deriving DecidableEq, Repr

/-- What the parser keeps between frames, and what it reads of the RTSP session of its track. -/
structure Track where
  govStart : Bool := false
  packetTotalNum : UInt32 := 0
  scale : ℚ := 1
  onlyKeyFrame : Bool := false
deriving DecidableEq

/-- `p[i]`. -/
def byteAt (p : Bytes) (i : Nat) : Except Fault UInt8 :=
  match p[i]? with
  | some b => .ok b
  | none => .error .read

/-- `memcpy` of so many bytes from `p`. -/
def copy (p : Bytes) (n : Nat) : Except Fault Bytes :=
  if n ≤ p.length then .ok (p.take n) else .error .read

/-- `p[0] == 0 && p[1] == 0 && p[2] == 0 && p[3] == 1`. -/
def startCodeAt (p : Bytes) : Except Fault Bool := do
  if (← byteAt p 0) ≠ 0 then return false
  if (← byteAt p 1) ≠ 0 then return false
  if (← byteAt p 2) ≠ 0 then return false
  return (← byteAt p 3) = 1

/-- The loop over `q` from `q` on while it is before `data + len - 4`: how far it goes, and `q`
behind it. -/
def seek : Bytes → Except Fault (Nat × Bytes)
  | [] => .ok (0, [])
  | b :: q => do
    if (b :: q).length > 4 then
      if ← startCodeAt (b :: q) then return (0, b :: q)
      let r ← seek q
      return (r.1 + 1, r.2)
    else return (0, b :: q)

/-! ## Packets -/

/-- The loop of `frag_fu_a` with `nal` as far as it is not sent; `fragsize` is an `int`. -/
def fragments (fuIndicator fuHeader : UInt8) (mtu : Nat) : Nat → Bool → Int → Bytes → List Payload
  | 0, _, _, _ => []
  | fuel + 1, start, fragsize, nal =>
    if fragsize > 0 then
      let fraglen : Int := min (mtu - 2) fragsize
      let flags := if start then fuHeader ||| 0x80 else fuHeader
      let flags := if fraglen = fragsize then fuHeader ||| 0x40 else flags
      ⟨fragsize ≤ fraglen, fuIndicator :: flags :: nal.take fraglen.toNat⟩ ::
        fragments fuIndicator fuHeader mtu fuel false (fragsize - fraglen) (nal.drop fraglen.toNat)
    else []

/-- `frag_fu_a` is given the `size_t` of the unit as an `int`. -/
def fragFuA (nal : Bytes) (mtu : Nat) : List Payload :=
  let fragsize := (nal.length : Int).bmod (2 ^ 32)
  match nal with
  | [] => []
  | b :: nal =>
    fragments ((b &&& 0xE0) ||| 28) (b &&& 0x1F) mtu nal.length true (fragsize - 1) nal

def nalType (b : UInt8) : UInt8 := b &&& 0x1F

/-- An SPS or an IDR picture starts a group. -/
def Track.see (tr : Track) (nalUnitType : UInt8) : Track :=
  if nalUnitType = 5 ∨ nalUnitType = 7 then { tr with govStart := true } else tr

def Track.useScale (tr : Track) : Nat := if tr.scale ≤ 1 then 1 else ⌊tr.scale⌋₊

def h264SendNal (tr : Track) (data : Bytes) (len : Nat) :
    Except Fault (Track × List Payload) := do
  let nalUnitType := nalType (← byteAt data 0)
  let tr := tr.see nalUnitType
  if !tr.govStart then return (tr, [])
  let tr := { tr with packetTotalNum := tr.packetTotalNum + 1 }
  if !tr.onlyKeyFrame ∨ nalUnitType ≥ 5 then
    let nal ← copy data len
    return (tr, if defaultMtu ≥ len then [⟨true, nal⟩] else fragFuA nal defaultMtu)
  else if tr.packetTotalNum.toNat % tr.useScale = 0 then return (tr, [⟨true, [0x09, 0x30]⟩])
  else return (tr, [])

/-- The loop of `h264_parse` from the start code at `p` on. -/
def sendUnits : Nat → Track → Bytes → Except Fault (Track × List Payload)
  | 0, tr, _ => .ok (tr, [])
  | fuel + 1, tr, p => do
    let (n, q) ← seek (p.drop 4)
    if q.length ≤ 4 then h264SendNal tr (p.drop 4) (p.length - 4)
    else
      let (tr, sent) ← h264SendNal tr (p.drop 4) n
      let (tr, rest) ← sendUnits fuel tr q
      return (tr, sent ++ rest)

def h264Parse (tr : Track) (data : Bytes) : Except Fault (Track × List Payload) := do
  if ← startCodeAt data then
    if data.length < 4 then throw .pointer
    sendUnits data.length tr data
  else h264SendNal tr data data.length

/-! ## The SDP fields -/

/-- What `encode_header` prints. -/
structure Sprop where
  profile : UInt8 × UInt8 × UInt8
  packetMode : Nat
  sps : Bytes
  pps : Bytes
deriving DecidableEq, Repr

/-- The parameter sets found: where they begin and their size. -/
structure Found where
  sps : Option (Bytes × Nat) := none
  pps : Option (Bytes × Nat) := none
deriving DecidableEq, Repr

/-- The loop of `encode_header` from the start code at `p` on. -/
def findUnits : Nat → Found → Bytes → Except Fault Found
  | 0, found, _ => .ok found
  | fuel + 1, found, p => do
    if p.length > 4 then
      let (n, q) ← seek (p.drop 4)
      let nalSize := if q.length ≤ 4 then p.length - 4 else n
      let nalUnitType := nalType (← byteAt p 4)
      let found :=
        if nalUnitType = 7 then { found with sps := some (p.drop 4, nalSize) }
        else if nalUnitType = 8 then { found with pps := some (p.drop 4, nalSize) }
        else found
      findUnits fuel found q
    else return found

def encodeHeader (data : Bytes) (packetMode : Nat) : Except Fault (Option Sprop) := do
  if data.length ≤ 4 then return none
  if !(← startCodeAt data) then return none
  let found ← findUnits data.length {} data
  match found.sps, found.pps with
  | some (sps, spsSize), some (pps, ppsSize) =>
    let spsBytes ← copy sps spsSize
    let ppsBytes ← copy pps ppsSize
    let profile := ((← byteAt sps 1), (← byteAt sps 2), (← byteAt sps 3))
    return some ⟨profile, packetMode, spsBytes, ppsBytes⟩
  | _, _ => return none

/-- The parser is given one frame after another. -/
def parseAll : Track → List Bytes → Except Fault (Track × List Payload)
  | tr, [] => .ok (tr, [])
  | tr, data :: frames => do
    let (tr, sent) ← h264Parse tr data
    let (tr, rest) ← parseAll tr frames
    return (tr, sent ++ rest)

/-! ## The receiver -/

/-- A receiver gets a payload while it has a part of a unit or not: the part it has then, and the
units that are complete. Only single NAL unit packets and FU-A packets are taken. -/
def receive (pending : Option Bytes) : Bytes → Option (Option Bytes × List Bytes)
  | [] => none
  | b :: rest =>
    if 1 ≤ nalType b ∧ nalType b ≤ 23 then
      if pending = none then some (none, [b :: rest]) else none
    else if nalType b = 28 then
      match rest with
      | [] => none
      | h :: fragment =>
        let part :=
          if h &&& 0x80 ≠ 0 then
            if pending = none then some (((b &&& 0xE0) ||| (h &&& 0x1F)) :: fragment) else none
          else pending.map (· ++ fragment)
        part.map fun nal => if h &&& 0x40 ≠ 0 then (none, [nal]) else (some nal, [])
    else none

/-- The units that a receiver makes of payloads; none where a unit is left incomplete. -/
def depacketise : Option Bytes → List Payload → Option (List Bytes)
  | pending, [] => if pending = none then some [] else none
  | pending, p :: ps => do
    let (pending, nals) ← receive pending p.data
    let rest ← depacketise pending ps
    return nals ++ rest

/-! ## What is promised -/

def startCode : Bytes := [0, 0, 0, 1]

/-- A frame as a source sends it: units behind start codes. -/
structure Frame where
  units : List Bytes
  units_ne_nil : units ≠ []
  unit_ne_nil : ∀ u ∈ units, u ≠ []
  no_startCode : ∀ u ∈ units, ¬ startCode <:+: u

def Frame.bytes (f : Frame) : Bytes := f.units.flatMap fun u => startCode ++ u

/-- An SPS or a picture of an IDR. -/
def startsGov (u : Bytes) : Bool := nalType (u.headD 0) = 5 || nalType (u.headD 0) = 7

/-- The units that go out: all, once a group has started, else those from its start on. -/
def sent (govStart : Bool) (units : List Bytes) : List Bytes :=
  if govStart then units else units.dropWhile fun u => !startsGov u

/-- An FU-A packet with its flags and its marker. -/
structure FuA (first last : Bool) (p : Payload) : Prop where
  ex : ∃ b h fragment, p.data = b :: h :: fragment ∧ nalType b = 28 ∧
    (h &&& 0x80 ≠ 0 ↔ first = true) ∧ (h &&& 0x40 ≠ 0 ↔ last = true)
  marker : p.marker = last
  length : p.data.length ≤ defaultMtu

/-- The packets of one unit: itself with the marker, or fragments of which the first one starts it
and the last one ends it with the marker. -/
inductive Carries : Bytes → List Payload → Prop where
  | single {u : Bytes} (h : u.length ≤ defaultMtu) : Carries u [⟨true, u⟩]
  | fragmented {u : Bytes} {first last : Payload} {middle : List Payload}
      (h : defaultMtu < u.length) (hfirst : FuA true false first)
      (hmiddle : ∀ p ∈ middle, FuA false false p) (hlast : FuA false true last) :
      Carries u (first :: (middle ++ [last]))

/-- Receivers know a unit that is one packet by its type. -/
def SingleType (u : Bytes) : Prop :=
  u.length ≤ defaultMtu → 1 ≤ nalType (u.headD 0) ∧ nalType (u.headD 0) ≤ 23

/-! ## Headers -/

theorem forall_byte {P : UInt8 → Prop} (h : ∀ n : Fin 256, P (UInt8.ofFin n)) (b : UInt8) : P b :=
  h b.toFin

theorem nalType_indicator (b : UInt8) : nalType ((b &&& 0xE0) ||| 28) = 28 := by
  revert b
  exact forall_byte (by decide +kernel)

/-- The flags of an FU header. -/
theorem fuHeader_flags (b : UInt8) :
    (nalType b &&& 0x80 = 0 ∧ nalType b &&& 0x40 = 0) ∧
      (((nalType b ||| 0x80) &&& 0x80 ≠ 0) ∧ (nalType b ||| 0x80) &&& 0x40 = 0) ∧
        ((nalType b ||| 0x40) &&& 0x80 = 0 ∧ ((nalType b ||| 0x40) &&& 0x40 ≠ 0)) := by
  revert b
  exact forall_byte (by decide +kernel)

/-- The header of the unit is in the two headers of its first fragment. -/
theorem header_restored (b : UInt8) :
    ((((b &&& 0xE0) ||| 28) &&& 0xE0) ||| ((nalType b ||| 0x80) &&& 0x1F)) = b := by
  revert b
  exact forall_byte (by decide +kernel)

/-! ## Fragments -/

section fragments
variable {b : UInt8} {fuel : Nat} {nal : Bytes}

/-- One turn of the loop, where `fragsize` is what remains. -/
theorem fragments_succ (fuIndicator fuHeader : UInt8) (fuel : Nat) (start : Bool)
    (hne : 0 < nal.length) :
    fragments fuIndicator fuHeader defaultMtu (fuel + 1) start nal.length nal =
      ⟨nal.length ≤ min (defaultMtu - 2) nal.length,
        fuIndicator ::
          (if min (defaultMtu - 2) nal.length = nal.length then fuHeader ||| 0x40
          else if start then fuHeader ||| 0x80 else fuHeader) ::
          nal.take (min (defaultMtu - 2) nal.length)⟩ ::
        fragments fuIndicator fuHeader defaultMtu fuel false
          (nal.drop (min (defaultMtu - 2) nal.length)).length
          (nal.drop (min (defaultMtu - 2) nal.length)) := by
  have hlen : (min ((defaultMtu : Int) - 2) nal.length) = (min (defaultMtu - 2) nal.length : Nat) := by
    unfold defaultMtu
    omega
  have hrest : (nal.length : Int) - (min (defaultMtu - 2) nal.length : Nat) =
      (nal.drop (min (defaultMtu - 2) nal.length)).length := by
    rw [List.length_drop]
    omega
  rw [fragments, if_pos (Int.natCast_pos.2 hne), hlen]
  dsimp only
  rw [hrest, Int.toNat_natCast]
  simp only [Int.ofNat_le, Int.natCast_inj]

theorem fragFuA_cons (b : UInt8) (hint : (b :: nal).length < 2 ^ 31) (hfuel : nal.length = fuel) :
    fragFuA (b :: nal) defaultMtu =
      fragments ((b &&& 0xE0) ||| 28) (nalType b) defaultMtu fuel true nal.length nal := by
  have hsize : ((b :: nal).length : Int).bmod (2 ^ 32) - 1 = nal.length := by
    rw [List.length_cons] at hint ⊢
    rw [Int.bmod_def]
    omega
  subst hfuel
  rw [← hsize]
  rfl

theorem fragments_nil (fuIndicator fuHeader : UInt8) (fuel : Nat) :
    fragments fuIndicator fuHeader defaultMtu fuel false ([] : Bytes).length [] = [] := by
  cases fuel <;> rfl

theorem length_fragment (b h : UInt8) (nal : Bytes) :
    (b :: h :: nal.take (defaultMtu - 2)).length ≤ defaultMtu := by
  have hle := List.length_take_le (defaultMtu - 2) nal
  have hdec : 2 ≤ defaultMtu := by decide
  rw [List.length_cons, List.length_cons]
  omega

/-- No fragment is longer, whatever `fragsize` is. -/
theorem fragments_length (fuIndicator fuHeader : UInt8) (fuel : Nat) (start : Bool) (fragsize : Int)
    (nal : Bytes) : ∀ p ∈ fragments fuIndicator fuHeader defaultMtu fuel start fragsize nal,
      p.data.length ≤ defaultMtu := by
  induction fuel generalizing start fragsize nal with
  | zero => exact fun p hp => absurd hp List.not_mem_nil
  | succ fuel ih =>
    intro p hp
    rw [fragments] at hp
    by_cases hpos : fragsize > 0
    · rw [if_pos hpos] at hp
      rcases List.mem_cons.1 hp with rfl | hp
      · have htake := List.length_take_le (min ((defaultMtu : Int) - 2) fragsize).toNat nal
        have hmtu : (min ((defaultMtu : Int) - 2) fragsize).toNat + 2 ≤ defaultMtu := by
          unfold defaultMtu
          omega
        simp only [List.length_cons]
        omega
      · exact ih _ _ _ p hp
    · rw [if_neg hpos] at hp
      cases hp

/-- The rest of a unit is carried by fragments that do not start it, the last of which ends it. -/
theorem fragments_rest (b : UInt8) (fuel : Nat) (nal : Bytes) (hfuel : nal.length ≤ fuel)
    (hne : nal ≠ []) :
    ∃ middle last, fragments ((b &&& 0xE0) ||| 28) (nalType b) defaultMtu fuel false nal.length nal =
        middle ++ [last] ∧
      (∀ p ∈ middle, FuA false false p) ∧ FuA false true last := by
  obtain ⟨⟨hs, he⟩, -, hs', he'⟩ := fuHeader_flags b
  have hpos : 0 < nal.length := List.length_pos_iff.2 hne
  induction fuel generalizing nal with
  | zero => omega
  | succ fuel ih =>
    rw [fragments_succ _ _ _ _ hpos, if_neg Bool.false_ne_true]
    by_cases hlast : nal.length ≤ defaultMtu - 2
    · have hmin : min (defaultMtu - 2) nal.length = nal.length := Nat.min_eq_right hlast
      rw [hmin, if_pos rfl, List.drop_length, fragments_nil]
      refine ⟨[], _, rfl, nofun, ⟨_, _, _, rfl, nalType_indicator b, ?_, ?_⟩, ?_, ?_⟩
      · simp [hs']
      · simp [he']
      · simp
      · unfold defaultMtu at hlast ⊢
        simp
        omega
    · have hmin : min (defaultMtu - 2) nal.length = defaultMtu - 2 := Nat.min_eq_left (by omega)
      have hlen : (nal.drop (defaultMtu - 2)).length = nal.length - (defaultMtu - 2) :=
        List.length_drop
      have hdec : 0 < defaultMtu - 2 := by decide
      obtain ⟨middle, last, heq, hmiddle, hend⟩ := ih (nal.drop (defaultMtu - 2)) (by omega)
        (List.length_pos_iff.1 (by omega)) (by omega)
      rw [hmin, if_neg (by omega), heq]
      refine ⟨_ :: middle, last, rfl, fun p hp => ?_, hend⟩
      rcases List.mem_cons.1 hp with rfl | hp
      · refine ⟨⟨_, _, _, rfl, nalType_indicator b, ?_, ?_⟩, ?_, ?_⟩
        · simp [hs]
        · simp [he]
        · simp
          omega
        · exact length_fragment _ _ nal
      · exact hmiddle p hp

/-- A long unit goes out in fragments. -/
theorem fragFuA_carries (h : defaultMtu < nal.length) (hint : nal.length < 2 ^ 31) :
    Carries nal (fragFuA nal defaultMtu) := by
  cases nal with
  | nil => cases h
  | cons b nal =>
    obtain ⟨-, ⟨hs, he⟩, -⟩ := fuHeader_flags b
    have hlong := h
    have hdec : 2 < defaultMtu := by decide
    rw [List.length_cons] at h
    obtain ⟨fuel, hfuel⟩ : ∃ fuel, nal.length = fuel + 1 := ⟨nal.length - 1, by omega⟩
    have hmin : min (defaultMtu - 2) nal.length = defaultMtu - 2 := Nat.min_eq_left (by omega)
    have hlen : (nal.drop (defaultMtu - 2)).length = nal.length - (defaultMtu - 2) :=
      List.length_drop
    obtain ⟨middle, last, heq, hmiddle, hlast⟩ := fragments_rest b fuel
      (nal.drop (defaultMtu - 2)) (by omega) (List.length_pos_iff.1 (by omega))
    have hfrag : fragFuA (b :: nal) defaultMtu =
        ⟨false, ((b &&& 0xE0) ||| 28) :: (nalType b ||| 0x80) :: nal.take (defaultMtu - 2)⟩ ::
          (middle ++ [last]) := by
      rw [← heq, fragFuA_cons b hint hfuel, fragments_succ _ _ _ _ (by omega), hmin,
        if_neg (by omega), if_pos rfl]
      refine List.cons_eq_cons.2 ⟨?_, rfl⟩
      simp only [Payload.mk.injEq, decide_eq_false_iff_not, and_true]
      omega
    rw [hfrag]
    refine .fragmented hlong ⟨⟨_, _, _, rfl, nalType_indicator b, ?_, ?_⟩, rfl, ?_⟩
      hmiddle hlast
    · simp [hs]
    · simp [he]
    · exact length_fragment _ _ nal

/-! ## The receiver of fragments -/

theorem receive_fuA {pending : Option Bytes} {b : UInt8} (hb : nalType b = 28) (h : UInt8)
    (fragment : Bytes) :
    receive pending (b :: h :: fragment) =
      (if h &&& 0x80 ≠ 0 then
        if pending = none then some (((b &&& 0xE0) ||| (h &&& 0x1F)) :: fragment) else none
      else pending.map (· ++ fragment)).map fun nal =>
        if h &&& 0x40 ≠ 0 then (none, [nal]) else (some nal, []) := by
  dsimp only [receive]
  rw [if_neg (by rw [hb]; decide), if_pos hb]

theorem receive_start {b h : UInt8} {fragment : Bytes} (hb : nalType b = 28) (hs : h &&& 0x80 ≠ 0)
    (he : h &&& 0x40 = 0) :
    receive none (b :: h :: fragment) =
      some (some (((b &&& 0xE0) ||| (h &&& 0x1F)) :: fragment), []) := by
  rw [receive_fuA hb, if_pos hs, if_pos rfl, Option.map_some, if_neg (by simp [he])]

theorem receive_next {b h : UInt8} {part fragment : Bytes} (hb : nalType b = 28)
    (hs : h &&& 0x80 = 0) (he : h &&& 0x40 = 0) :
    receive (some part) (b :: h :: fragment) = some (some (part ++ fragment), []) := by
  rw [receive_fuA hb, if_neg (by simp [hs]), Option.map_some, Option.map_some,
    if_neg (by simp [he])]

theorem receive_last {b h : UInt8} {part fragment : Bytes} (hb : nalType b = 28)
    (hs : h &&& 0x80 = 0) (he : h &&& 0x40 ≠ 0) :
    receive (some part) (b :: h :: fragment) = some (none, [part ++ fragment]) := by
  rw [receive_fuA hb, if_neg (by simp [hs]), Option.map_some, Option.map_some, if_pos he]

theorem depacketise_cons {pending pending' : Option Bytes} {p : Payload} {nals : List Bytes}
    (h : receive pending p.data = some (pending', nals)) (ps : List Payload) :
    depacketise pending (p :: ps) = (depacketise pending' ps).map (nals ++ ·) := by
  rw [depacketise, h, Option.bind_eq_bind, Option.bind_some]
  dsimp only
  cases depacketise pending' ps <;> rfl

/-- The receiver has a part of the unit. -/
theorem depacketise_rest (b : UInt8) (fuel : Nat) (nal part : Bytes) (ps : List Payload)
    (hfuel : nal.length ≤ fuel) (hne : nal ≠ []) :
    depacketise (some part)
        (fragments ((b &&& 0xE0) ||| 28) (nalType b) defaultMtu fuel false nal.length nal ++ ps) =
      (depacketise none ps).map ((part ++ nal) :: ·) := by
  obtain ⟨⟨hs, he⟩, -, hs', he'⟩ := fuHeader_flags b
  have hpos : 0 < nal.length := List.length_pos_iff.2 hne
  induction fuel generalizing nal part with
  | zero => omega
  | succ fuel ih =>
    rw [fragments_succ _ _ _ _ hpos, if_neg Bool.false_ne_true, List.cons_append]
    by_cases hlast : nal.length ≤ defaultMtu - 2
    · rw [Nat.min_eq_right hlast, if_pos rfl, List.drop_length, fragments_nil, List.take_length,
        depacketise_cons (receive_last (nalType_indicator b) hs' he')]
      rfl
    · have hlen : (nal.drop (defaultMtu - 2)).length = nal.length - (defaultMtu - 2) :=
        List.length_drop
      have hdec : 0 < defaultMtu - 2 := by decide
      rw [Nat.min_eq_left (by omega), if_neg (by omega),
        depacketise_cons (receive_next (nalType_indicator b) hs he),
        ih (nal.drop (defaultMtu - 2)) (part ++ nal.take (defaultMtu - 2)) (by omega)
          (List.length_pos_iff.1 (by omega)) (by omega),
        List.append_assoc, List.take_append_drop]
      cases depacketise none ps <;> rfl

/-- The packets of one unit. -/
def packets (nal : Bytes) : List Payload :=
  if defaultMtu ≥ nal.length then [⟨true, nal⟩] else fragFuA nal defaultMtu

theorem packets_length (nal : Bytes) : ∀ p ∈ packets nal, p.data.length ≤ defaultMtu := by
  unfold packets
  split
  · next h =>
    intro p hp
    rw [List.mem_singleton.1 hp]
    exact h
  · next h =>
    cases nal with
    | nil => exact absurd (Nat.zero_le defaultMtu) h
    | cons b nal => exact fragments_length _ _ _ _ _ _

theorem packets_carries (hint : nal.length < 2 ^ 31) : Carries nal (packets nal) := by
  unfold packets
  split
  · next h => exact .single h
  · next h => exact fragFuA_carries (by omega) hint

/-- The receiver gets the unit. -/
theorem depacketise_packets (hne : nal ≠ []) (htype : SingleType nal) (hint : nal.length < 2 ^ 31)
    (ps : List Payload) :
    depacketise none (packets nal ++ ps) = (depacketise none ps).map (nal :: ·) := by
  obtain ⟨b, nal, rfl⟩ := List.exists_cons_of_ne_nil hne
  unfold packets
  split
  · next h =>
    have ht : 1 ≤ nalType b ∧ nalType b ≤ 23 := htype h
    have hreceive : receive none (b :: nal) = some (none, [b :: nal]) := by
      dsimp only [receive]
      rw [if_pos ht, if_pos rfl]
    exact depacketise_cons (p := ⟨true, b :: nal⟩) hreceive ps
  · next h =>
    rw [List.length_cons] at h
    obtain ⟨-, ⟨hs, he⟩, -⟩ := fuHeader_flags b
    have hdec : 2 < defaultMtu := by decide
    obtain ⟨fuel, hfuel⟩ : ∃ fuel, nal.length = fuel + 1 := ⟨nal.length - 1, by omega⟩
    have hlen : (nal.drop (defaultMtu - 2)).length = nal.length - (defaultMtu - 2) :=
      List.length_drop
    rw [fragFuA_cons b hint hfuel, fragments_succ _ _ _ _ (by omega),
      Nat.min_eq_left (by omega), if_neg (by omega), if_pos rfl, List.cons_append,
      depacketise_cons (receive_start (nalType_indicator b) hs he)]
    rw [depacketise_rest b fuel _ _ ps (by omega) (List.length_pos_iff.1 (by omega)),
      List.cons_append, List.take_append_drop]
    rw [header_restored b]
    cases depacketise none ps <;> rfl

end fragments

/-! ## Start codes -/

theorem startCode_prefix_iff (a b c d : UInt8) (rest : Bytes) :
    startCode <+: a :: b :: c :: d :: rest ↔ a = 0 ∧ b = 0 ∧ c = 0 ∧ d = 1 := by
  simp [startCode, eq_comm]

theorem startCodeAt_true {p : Bytes} (h : startCode <+: p) : startCodeAt p = .ok true := by
  obtain ⟨rest, rfl⟩ := h
  rfl

theorem startCodeAt_false {p : Bytes} (hlen : 4 ≤ p.length) (h : ¬ startCode <+: p) :
    startCodeAt p = .ok false := by
  match p, hlen with
  | a :: b :: c :: d :: rest, _ =>
    rw [startCode_prefix_iff] at h
    by_cases ha : a = 0
    · by_cases hb : b = 0
      · by_cases hc : c = 0
        · have hd : d ≠ 1 := fun hd => h ⟨ha, hb, hc, hd⟩
          simp [startCodeAt, byteAt, ha, hb, hc, hd, pure, Except.pure, bind, Except.bind]
        · simp [startCodeAt, byteAt, ha, hb, hc, pure, Except.pure, bind, Except.bind]
      · simp [startCodeAt, byteAt, ha, hb, pure, Except.pure, bind, Except.bind]
    · simp [startCodeAt, byteAt, ha, pure, Except.pure, bind, Except.bind]

theorem seek_short {q : Bytes} (h : q.length ≤ 4) : seek q = .ok (0, q) := by
  cases q with
  | nil => rfl
  | cons b q => rw [seek, if_neg (by omega)]; rfl

theorem seek_found {q : Bytes} (hlen : 4 < q.length) (h : startCode <+: q) :
    seek q = .ok (0, q) := by
  cases q with
  | nil => cases hlen
  | cons b q => rw [seek, if_pos hlen, startCodeAt_true h]; rfl

theorem seek_next {b : UInt8} {q : Bytes} (hlen : 4 < (b :: q).length)
    (h : ¬ startCode <+: b :: q) : seek (b :: q) = (seek q).map fun r => (r.1 + 1, r.2) := by
  rw [seek, if_pos hlen, startCodeAt_false hlen.le h]
  cases seek q <;> rfl

/-- No start code begins in a unit that has none: its last byte would be a zero of the next one. -/
theorem not_prefix_of_unit {u : Bytes} (hne : u ≠ []) (h : ¬ startCode <:+: u) (rest : Bytes) :
    ¬ startCode <+: u ++ startCode ++ rest := by
  intro hp
  match u, hne with
  | [a], _ => simp [startCode] at hp
  | [a, b], _ => simp [startCode] at hp
  | [a, b, c], _ => simp [startCode] at hp
  | a :: b :: c :: d :: u, _ =>
    refine h ((List.prefix_of_prefix_length_le hp ⟨startCode ++ rest, ?_⟩ ?_).isInfix)
    · rw [List.append_assoc]
    · simp [startCode]

theorem seek_unit {u : Bytes} (h : ¬ startCode <:+: u) {rest : Bytes} (hrest : rest ≠ []) :
    seek (u ++ startCode ++ rest) = .ok (u.length, startCode ++ rest) := by
  have hpos : 0 < rest.length := List.length_pos_iff.2 hrest
  have hlen : ∀ v : Bytes, 4 < (v ++ startCode ++ rest).length := fun v => by
    simp [startCode]
    omega
  induction u with
  | nil => exact seek_found (hlen []) (List.prefix_append _ _)
  | cons b u ih =>
    have htail : ¬ startCode <:+: u := fun hu => h (hu.trans (List.suffix_cons b u).isInfix)
    have hnot := not_prefix_of_unit (List.cons_ne_nil b u) h rest
    have hstep := seek_next (hlen (b :: u)) hnot
    refine hstep.trans ?_
    have hih := ih htail
    show (seek (u ++ startCode ++ rest)).map _ = _
    rw [hih]
    rfl

theorem seek_last {u : Bytes} (h : ¬ startCode <:+: u) :
    ∃ n q, seek u = .ok (n, q) ∧ q.length ≤ 4 := by
  induction u with
  | nil => exact ⟨0, [], rfl, Nat.zero_le _⟩
  | cons b u ih =>
    by_cases hlen : (b :: u).length ≤ 4
    · exact ⟨0, b :: u, seek_short hlen, hlen⟩
    · obtain ⟨n, q, hq, hle⟩ := ih fun hu => h (hu.trans (List.suffix_cons b u).isInfix)
      refine ⟨n + 1, q, ?_, hle⟩
      rw [seek_next (by omega) fun hp => h hp.isInfix, hq]
      rfl

/-! ## Frames -/

theorem sent_append (g : Bool) (us vs : List Bytes) :
    sent g (us ++ vs) = sent g us ++ sent (g || us.any startsGov) vs := by
  cases g with
  | true => simp [sent]
  | false =>
    induction us with
    | nil => simp [sent]
    | cons u us ih =>
      cases hu : startsGov u with
      | true => simp [sent, hu]
      | false => simpa [sent, hu] using ih

theorem see_spec (tr : Track) (b : UInt8) (u : Bytes) :
    (tr.see (nalType b)).govStart = (tr.govStart || startsGov (b :: u)) ∧
      (tr.see (nalType b)).onlyKeyFrame = tr.onlyKeyFrame := by
  unfold Track.see
  split
  · next h => simp [startsGov, h]
  · next h => simp [startsGov, h]

/-- Whether a unit goes out depends on what has been seen, the unit included. -/
theorem h264SendNal_unit {tr : Track} (hkey : tr.onlyKeyFrame = false) {u : Bytes} (hne : u ≠ [])
    (rest : Bytes) :
    ∃ tr', h264SendNal tr (u ++ rest) u.length = .ok (tr', (sent tr.govStart [u]).flatMap packets) ∧
      tr'.govStart = (tr.govStart || startsGov u) ∧ tr'.onlyKeyFrame = false := by
  obtain ⟨b, u, rfl⟩ := List.exists_cons_of_ne_nil hne
  have hcopy : copy (b :: u ++ rest) (b :: u).length = .ok (b :: u) := by
    rw [copy, if_pos (by simp), List.take_left]
  obtain ⟨hgov, hkey'⟩ := see_spec tr b u
  have hsent : sent tr.govStart [b :: u] =
      if tr.govStart || startsGov (b :: u) then [b :: u] else [] := by
    cases tr.govStart <;> cases hu : startsGov (b :: u) <;> simp [sent, hu]
  rw [hsent, ← hgov]
  rw [hkey] at hkey'
  generalize hsee : tr.see (nalType b) = tr₁ at hgov hkey'
  have hrun : h264SendNal tr (b :: u ++ rest) (b :: u).length =
      if !tr₁.govStart then .ok (tr₁, [])
      else (copy (b :: u ++ rest) (b :: u).length).map fun nal =>
        ({ tr₁ with packetTotalNum := tr₁.packetTotalNum + 1 },
          if defaultMtu ≥ (b :: u).length then [⟨true, nal⟩] else fragFuA nal defaultMtu) := by
    rw [← hsee] at hkey' ⊢
    unfold h264SendNal
    simp only [byteAt, List.cons_append, List.getElem?_cons_zero, bind, Except.bind, hkey',
      Bool.not_false, true_or, if_true]
    split
    · rfl
    · cases copy (b :: (u ++ rest)) (b :: u).length <;> rfl
  rw [hrun, hcopy]
  cases hg : tr₁.govStart with
  | true =>
    refine ⟨{ tr₁ with packetTotalNum := tr₁.packetTotalNum + 1 }, ?_, hg, hkey'⟩
    simp [hg, Except.map, packets]
  | false => exact ⟨_, by simp, hg, hkey'⟩

/-- What is between start codes goes out unit by unit. -/
theorem sendUnits_units {us : List Bytes} (hne : us ≠ []) (hunit : ∀ u ∈ us, u ≠ [])
    (hcode : ∀ u ∈ us, ¬ startCode <:+: u) {fuel : Nat}
    (hfuel : (us.flatMap fun u => startCode ++ u).length ≤ fuel) {tr : Track}
    (hkey : tr.onlyKeyFrame = false) :
    ∃ tr', sendUnits fuel tr (us.flatMap fun u => startCode ++ u) =
        .ok (tr', (sent tr.govStart us).flatMap packets) ∧
      tr'.govStart = (tr.govStart || us.any startsGov) ∧ tr'.onlyKeyFrame = false := by
  induction us generalizing fuel tr with
  | nil => exact absurd rfl hne
  | cons u us ih =>
    obtain ⟨fuel, rfl⟩ : ∃ n, fuel = n + 1 := ⟨fuel - 1, by
      simp [startCode] at hfuel
      omega⟩
    have hu := hunit u (.head _)
    cases us with
    | nil =>
      obtain ⟨n, q, hseek, hq⟩ := seek_last (hcode u (.head _))
      obtain ⟨tr', hsend, hgov, hkey'⟩ := h264SendNal_unit hkey hu []
      refine ⟨tr', ?_, by simpa using hgov, hkey'⟩
      rw [List.append_nil] at hsend
      rw [← hsend, List.flatMap_singleton, sendUnits]
      show (seek u >>= _) = _
      rw [hseek]
      show (if q.length ≤ 4 then h264SendNal tr u ((startCode ++ u).length - 4) else _) = _
      rw [if_pos hq, List.length_append]
      congr 1
      exact Nat.add_sub_cancel_left _ _
    | cons v vs =>
      obtain ⟨rest, hrest, hflat⟩ : ∃ rest, rest ≠ [] ∧
          ((v :: vs).flatMap fun u => startCode ++ u) = startCode ++ rest := by
        refine ⟨v ++ vs.flatMap fun u => startCode ++ u, fun h => ?_, ?_⟩
        · exact hunit v (.tail _ (.head _)) (List.append_eq_nil_iff.1 h).1
        · rw [List.flatMap_cons, List.append_assoc]
      obtain ⟨tr', hsend, hgov, hkey'⟩ := h264SendNal_unit hkey hu (startCode ++ rest)
      have hseek : seek (u ++ (startCode ++ rest)) = .ok (u.length, startCode ++ rest) := by
        rw [← List.append_assoc]
        exact seek_unit (hcode u (.head _)) hrest
      have hpos := List.length_pos_iff.2 hrest
      rw [List.flatMap_cons, hflat] at hfuel ⊢
      have hle : ((v :: vs).flatMap fun u => startCode ++ u).length ≤ fuel := by
        rw [hflat]
        simp [startCode] at hfuel ⊢
        omega
      obtain ⟨tr'', hrec, hgov', hkey''⟩ := ih (List.cons_ne_nil v vs)
        (fun w hw => hunit w (.tail _ hw)) (fun w hw => hcode w (.tail _ hw)) hle hkey'
      rw [hflat] at hrec
      refine ⟨tr'', ?_, ?_, hkey''⟩
      · rw [sendUnits]
        show (seek (u ++ (startCode ++ rest)) >>= _) = _
        rw [hseek]
        show (if (startCode ++ rest).length ≤ 4 then _
          else (h264SendNal tr (u ++ (startCode ++ rest)) u.length >>= _)) = _
        rw [if_neg (by simp [startCode]; omega), hsend]
        show (sendUnits fuel tr' (startCode ++ rest) >>= _) = _
        rw [hrec, hgov]
        have happ := sent_append tr.govStart [u] (v :: vs)
        simp only [List.cons_append, List.nil_append, List.any_cons, List.any_nil,
          Bool.or_false] at happ
        rw [happ, List.flatMap_append]
        rfl
      · rw [hgov', hgov, Bool.or_assoc]
        rfl

theorem h264Parse_frame (f : Frame) {tr : Track} (hkey : tr.onlyKeyFrame = false) :
    ∃ tr', h264Parse tr f.bytes = .ok (tr', (sent tr.govStart f.units).flatMap packets) ∧
      tr'.govStart = (tr.govStart || f.units.any startsGov) ∧ tr'.onlyKeyFrame = false := by
  obtain ⟨tr', hsend, hrest⟩ :=
    sendUnits_units f.units_ne_nil f.unit_ne_nil f.no_startCode le_rfl hkey
  have hpre : startCode <+: f.bytes := by
    obtain ⟨u, us, hus⟩ := List.exists_cons_of_ne_nil f.units_ne_nil
    unfold Frame.bytes
    rw [hus, List.flatMap_cons, List.append_assoc]
    exact List.prefix_append _ _
  refine ⟨tr', ?_, hrest⟩
  have hlen : ¬ f.bytes.length < 4 := not_lt.2 hpre.length_le
  rw [← hsend]
  unfold h264Parse
  rw [startCodeAt_true hpre]
  show (if f.bytes.length < 4 then _ else sendUnits f.bytes.length tr f.bytes) = _
  rw [if_neg hlen]
  rfl

theorem depacketise_flatMap {us : List Bytes} (hne : ∀ u ∈ us, u ≠ [])
    (htype : ∀ u ∈ us, SingleType u) (hint : ∀ u ∈ us, u.length < 2 ^ 31) :
    depacketise none (us.flatMap packets) = some us := by
  induction us with
  | nil => rfl
  | cons u us ih =>
    rw [List.flatMap_cons,
      depacketise_packets (hne u (.head _)) (htype u (.head _)) (hint u (.head _)),
      ih (fun v hv => hne v (.tail _ hv)) (fun v hv => htype v (.tail _ hv))
        fun v hv => hint v (.tail _ hv)]
    rfl

theorem carries_flatMap {us : List Bytes} (hint : ∀ u ∈ us, u.length < 2 ^ 31) :
    List.Forall₂ Carries us (us.map packets) := by
  induction us with
  | nil => exact .nil
  | cons u us ih =>
    exact .cons (packets_carries (hint u (.head _))) (ih fun v hv => hint v (.tail _ hv))

/-- What the frames of a list are sent as, one after another. -/
theorem parseAll_frames (fs : List Frame) {tr : Track} (hkey : tr.onlyKeyFrame = false) :
    ∃ tr', parseAll tr (fs.map Frame.bytes) =
      .ok (tr', (sent tr.govStart (fs.flatMap Frame.units)).flatMap packets) := by
  induction fs generalizing tr with
  | nil => exact ⟨tr, by cases hg : tr.govStart <;> rfl⟩
  | cons f fs ih =>
    obtain ⟨tr₁, hparse, hgov, hkey₁⟩ := h264Parse_frame f hkey
    obtain ⟨tr₂, hrest⟩ := ih hkey₁
    refine ⟨tr₂, ?_⟩
    rw [List.map_cons, parseAll, hparse]
    show (parseAll tr₁ (fs.map Frame.bytes) >>= _) = _
    rw [hrest, List.flatMap_cons, sent_append, List.flatMap_append, hgov]
    rfl

theorem mem_of_sent {g : Bool} {us : List Bytes} {u : Bytes} (h : u ∈ sent g us) : u ∈ us := by
  unfold sent at h
  split at h
  · exact h
  · exact (List.dropWhile_sublist _).mem h

/-- **The packets lose nothing**: a receiver makes of the payloads the units of the frames from the
first SPS or IDR picture on, where those that go out as one packet have a type that receivers know and
the length of each is an `int`; each unit is carried by itself or by fragments with their flags and
marker. -/
theorem lossless (tr : Track) (fs : List Frame) (hkey : tr.onlyKeyFrame = false)
    (htype : ∀ u ∈ sent tr.govStart (fs.flatMap Frame.units), SingleType u)
    (hint : ∀ u ∈ sent tr.govStart (fs.flatMap Frame.units), u.length < 2 ^ 31) :
    ∃ tr' payloads, parseAll tr (fs.map Frame.bytes) = .ok (tr', payloads) ∧
      depacketise none payloads = some (sent tr.govStart (fs.flatMap Frame.units)) ∧
      (∀ p ∈ payloads, p.data.length ≤ defaultMtu) ∧
      ∃ groups, payloads = List.flatten groups ∧
        List.Forall₂ Carries (sent tr.govStart (fs.flatMap Frame.units)) groups := by
  obtain ⟨tr', hparse⟩ := parseAll_frames fs hkey
  refine ⟨tr', _, hparse, depacketise_flatMap (fun u hu => ?_) htype hint, fun p hp => ?_,
    _, List.flatMap_def, carries_flatMap hint⟩
  · obtain ⟨f, -, hf⟩ := List.mem_flatMap.1 (mem_of_sent hu)
    exact f.unit_ne_nil u hf
  · obtain ⟨u, -, hu⟩ := List.mem_flatMap.1 hp
    exact packets_length u p hu

theorem short_units (b : UInt8) : ∀ u ∈ [[0x67, 0x42], [b, 0x81]], ¬ startCode <:+: u := by
  intro u hu hinfix
  have hle := hinfix.length_le
  rcases List.mem_cons.1 hu with rfl | hu
  · exact absurd hle (by decide)
  · cases List.mem_singleton.1 hu
    exact absurd hle (by simp [startCode])

/-- An SPS and one more short unit. -/
def spsFrame (b : UInt8) : Frame where
  units := [[0x67, 0x42], [b, 0x81]]
  units_ne_nil := List.cons_ne_nil _ _
  unit_ne_nil := List.forall_mem_cons.2
    ⟨List.cons_ne_nil _ _, List.forall_mem_singleton.2 (List.cons_ne_nil _ _)⟩
  no_startCode := short_units b

theorem lossless_idr :
    ∃ tr' payloads, parseAll {} [(spsFrame 0x65).bytes] = .ok (tr', payloads) ∧
      depacketise none payloads = some [[0x67, 0x42], [0x65, 0x81]] := by
  obtain ⟨tr', payloads, hparse, hdep, -⟩ := lossless {} [spsFrame 0x65] rfl
    (List.forall_mem_cons.2 ⟨fun _ => by decide, List.forall_mem_singleton.2 fun _ => by decide⟩)
    (List.forall_mem_cons.2 ⟨by decide, List.forall_mem_singleton.2 (by decide)⟩)
  exact ⟨tr', payloads, hparse, hdep⟩

/-- A unit of type 28 goes out as it is, and a receiver takes it for a fragment. -/
theorem type_28_lost :
    ∃ tr' payloads, parseAll {} [(spsFrame 0x7C).bytes] = .ok (tr', payloads) ∧
      depacketise none payloads ≠ some [[0x67, 0x42], [0x7C, 0x81]] :=
  ⟨_, _, rfl, by decide⟩

end H264Parser

end StreamSwitch
