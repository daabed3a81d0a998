import Mathlib.Algebra.GroupWithZero.Nat
import Mathlib.Algebra.Ring.Int.Defs
import StreamSwitch.RtspPort.Resources
import StreamSwitch.Strtol
import Mathlib.Data.List.TakeWhile

/-!
# Transport headers

`ragel_parse_transport_header` of `network/ragel_transport.c`, and the interleaved channels of
`network/rtsp_interleaved.c`. Ports and channels share the two words of a union, so that what counts
is the last parameter of either kind.
-/

namespace StreamSwitch

namespace Rtsp

/-! ## Numbers -/

/-- The number that `%u` reads, and what is behind it. -/
def scanNumber (s : List Char) : Option (Int × List Char) :=
  let (negative, s) := sign (s.dropWhile isSpace)
  match s.takeWhile Char.isDigit with
  | [] => none
  | digits =>
    let n : Int := Nat.ofDigitChars 10 digits 0
    some (if negative then -n else n, s.dropWhile Char.isDigit)

def strtoul (v : Int) : Nat := if v.natAbs < 2 ^ 64 then (v % 2 ^ 64).toNat else 2 ^ 64 - 1

/-- What an `unsigned short` has in the end, from `%hu` or from `%u` and a cast. -/
def stored (v : Int) : UInt16 := UInt16.ofNat (strtoul v)

/-- What `sscanf` converts in a field with the format of the key, a number, a minus and a number. -/
def conversions (key : String) (field : List Char) : List Int :=
  match field.dropPrefix? key.toList with
  | none => []
  | some rest =>
    match scanNumber rest with
    | none => []
    | some (a, rest) =>
      match rest with
      | '-' :: rest =>
        match scanNumber rest with
        | some (b, _) => [a, b]
        | none => [a]
      | _ => [a]

/-! ## The header -/

def tcpText : List Char := "RTP/AVP/TCP".toList
def rawText : List Char := "RAW/RAW/UDP".toList
def destinationKey : List Char := "destination=".toList

/-- The transport that is parsed, and the `destination` of the `RTP_transport`. -/
structure HeaderState where
  transport : ParsedTransport
  destination : List Char
deriving DecidableEq, Repr

/-- The body of the loop of `ragel_parse_transport_header`. -/
def readField (st : HeaderState) (field : List Char) : HeaderState :=
  if field = tcpText then { st with transport := { st.transport with protocol := .tcp } }
  else if field = rawText then { st with transport := { st.transport with protocol := .udp } }
  else if (field.take 12).map Char.toLower = destinationKey then
    { st with destination := (field.drop 12).take 63 }
  else
    match conversions "client_port=" field with
    | [a, b] => { st with transport := { st.transport with rtp := stored a, rtcp := stored b } }
    | [a] => { st with transport := { st.transport with rtp := stored a, rtcp := stored a + 1 } }
    | _ =>
      match conversions "interleaved=" field with
      | [a, b] => { st with transport := { st.transport with rtp := stored a, rtcp := stored b } }
      | _ => st

/-- The fields that the loop gets. -/
def splitFields (fields : List Char) : List (List Char) :=
  match _h : fields.takeWhile (· ≠ ';') with
  | [] => []
  | c :: cs =>
    let rest := (fields.drop (c :: cs).length).dropWhile (· = ';')
    if rest = [] ∨ rest.head? = some '\r' ∨ rest.head? = some '\n' then [c :: cs]
    else (c :: cs) :: splitFields rest
termination_by fields.length
decreasing_by
  have hfield := (List.takeWhile_sublist (l := fields) (· ≠ ';')).length_le
  have hrest := (List.dropWhile_sublist (l := fields.drop (c :: cs).length) (· = ';')).length_le
  rw [List.length_drop] at hrest
  rw [‹fields.takeWhile (· ≠ ';') = c :: cs›] at hfield
  have hpos : 0 < (c :: cs).length := Nat.succ_pos _
  omega

/-- `ragel_parse_transport_header`, for a transport whose destination is empty. -/
def ragelParseTransportHeader (env : Environment) (c : Client) (header : List Char) :
    Option (Client × ParsedTransport × List Char) := do
  let st := (splitFields header).foldl readField ⟨⟨.udp, 0, 0⟩, []⟩
  let (c, transport) ← checkParsedTransport env c st.transport
  return (c, transport, st.destination)

/-! ## Interleaved packets -/

/-- The packet that `interleaved_read_tcp_cb` makes of what it read from a channel. -/
def interleavedPacket (channel : Nat) (data : List UInt8) : List UInt8 :=
  36 :: UInt8.ofNat channel :: UInt8.ofNat (data.length / 256) :: UInt8.ofNat data.length :: data

/-- The entry of the list to which `interleaved_rtcp_send` writes a packet of a channel. -/
def interleavedRtcpSend (interleaved : List (UInt16 × UInt16)) (channel : UInt8) : Option Nat :=
  interleaved.findIdx? fun i => i.2.toNat = channel.toNat

/-! ## What the parameters say -/

/-- A parameter of a header. -/
structure Parameter where
  text : List Char
  nonempty : text ≠ []
  separator : ';' ∉ text
  oneLine : '\r' ∉ text ∧ '\n' ∉ text

def headerText (params : List (List Char)) : List Char := [';'].intercalate params

/-- The numbers of the last of some parameters. -/
def lastOf {β : Type} (read : List Char → Option β) (params : List (List Char)) : Option β :=
  (params.filterMap read).getLast?

def protocolOf (param : List Char) : Option Protocol :=
  if param = tcpText then some .tcp else if param = rawText then some .udp else none

/-- The numbers of a `client_port`; with one number, the second port is the next one. -/
def portsOf (param : List Char) : Option (Int × Int) :=
  match conversions "client_port=" param with
  | [a, b] => some (a, b)
  | [a] => some (a, a + 1)
  | _ => none

/-- The numbers of an `interleaved`. -/
def channelsOf (param : List Char) : Option (Int × Int) :=
  match conversions "interleaved=" param with
  | [a, b] => some (a, b)
  | _ => none

/-- The two words that a `client_port` or an `interleaved` leaves. -/
def wordsOf (param : List Char) : Option (UInt16 × UInt16) :=
  match conversions "client_port=" param with
  | [a, b] => some (stored a, stored b)
  | [a] => some (stored a, stored a + 1)
  | _ => (channelsOf param).map fun n => (stored n.1, stored n.2)

/-- The parameters for UDP. -/
def forUdp (param : List Char) : Bool := param = rawText ∨ (portsOf param).isSome

/-- The parameters for TCP, the protocol apart. -/
def forTcp (param : List Char) : Bool := (channelsOf param).isSome

/-- What stands before every packet of a channel is the channel, and what the client sends on the RTCP
channel gets to the session that was set up last. -/
structure ChannelsWork (c' : Client) (t : ParsedTransport) : Prop where
  rtp : ∀ data, ((interleavedPacket t.rtp.toNat data)[1]?).map UInt8.toNat = some t.rtp.toNat
  rtcp : ∀ data, ((interleavedPacket t.rtcp.toNat data)[1]?).map UInt8.toNat = some t.rtcp.toNat
  received : ∃ channel : UInt8, channel.toNat = t.rtcp.toNat ∧
    interleavedRtcpSend c'.interleaved channel = some 0

/-- What the parameters ask for is what the session gets, whatever there is for the other kind of
transport. -/
def Negotiated (env : Environment) (c : Client) (params : List (List Char)) (c' : Client)
    (t : ParsedTransport) (destination : List Char) : Prop :=
  (tcpText ∈ params →
    t.protocol = .tcp ∧
    (∃ a b, lastOf channelsOf params = some (a, b) ∧ (t.rtp.toNat : Int) = a ∧
      (t.rtcp.toNat : Int) = b ∧ a ≤ 255 ∧ b ≤ 255) ∧
    ChannelsWork c' t ∧
    ragelParseTransportHeader env c (headerText (params.filter fun p => !forUdp p)) =
      some (c', t, destination)) ∧
  (tcpText ∉ params →
    t.protocol = .udp ∧
    lastOf portsOf params = some ((t.rtp.toNat : Int), (t.rtcp.toNat : Int)) ∧
    ragelParseTransportHeader env c (headerText (params.filter fun p => !forTcp p)) =
      some (c', t, destination))

/-- The last numbers for the protocol fit, and no parameter for the other kind behind them leaves other
words. A second channel that is zero counts as the one behind the first. -/
def Clear (params : List (List Char)) : Prop :=
  (tcpText ∈ params →
    lastOf protocolOf params = some .tcp ∧ ∃ a b w, lastOf channelsOf params = some (a, b) ∧
      0 ≤ a ∧ a ≤ 255 ∧ 0 < b ∧ b ≤ 255 ∧ lastOf wordsOf params = some (stored a, w) ∧
      (w = stored b ∨ w = 0 ∧ b = a + 1)) ∧
  (tcpText ∉ params →
    ∃ a b, lastOf portsOf params = some (a, b) ∧ 0 ≤ a ∧ a < 2 ^ 16 ∧ 0 ≤ b ∧ b < 2 ^ 16 ∧
      lastOf wordsOf params = some (stored a, stored b))

/-! ## What the loop does -/

variable {env : Environment} {c c' : Client} {t : ParsedTransport} {destination : List Char}
  {field : List Char} {params : List (List Char)}

/-- The destination that a field leaves. -/
def destinationOf (field : List Char) : Option (List Char) :=
  if (field.take 12).map Char.toLower = destinationKey then some ((field.drop 12).take 63) else none

theorem conversions_eq_nil {key : String} (hlen : key.toList.length = 12)
    (h : field.take 12 ≠ key.toList) : conversions key field = [] := by
  unfold conversions
  cases hdrop : field.dropPrefix? key.toList with
  | none => rfl
  | some rest =>
    obtain ⟨v, rfl, hv⟩ := List.dropPrefix?_eq_some_iff.1 hdrop
    obtain rfl := eq_of_beq hv
    exact absurd (by rw [← hlen, List.take_left]) h

theorem wordsOf_destination (h : (field.take 12).map Char.toLower = destinationKey) :
    wordsOf field = none := by
  have hne : ∀ key : String, key.toList.map Char.toLower ≠ destinationKey →
      field.take 12 ≠ key.toList := by
    intro key hkey heq
    rw [heq] at h
    exact hkey h
  unfold wordsOf channelsOf
  rw [conversions_eq_nil (by decide) (hne "client_port=" (by decide)),
    conversions_eq_nil (by decide) (hne "interleaved=" (by decide))]
  rfl

/-- Each field is for the protocol, the destination or the words. -/
theorem readField_eq (st : HeaderState) (field : List Char) : readField st field =
    ⟨⟨(protocolOf field).getD st.transport.protocol,
      ((wordsOf field).getD (st.transport.rtp, st.transport.rtcp)).1,
      ((wordsOf field).getD (st.transport.rtp, st.transport.rtcp)).2⟩,
      (destinationOf field).getD st.destination⟩ := by
  unfold readField
  split
  · rename_i h
    subst h
    rfl
  · rename_i htcp
    split
    · rename_i h
      subst h
      rfl
    · rename_i hraw
      have hprotocol : protocolOf field = none := by
        unfold protocolOf
        rw [if_neg htcp, if_neg hraw]
      rw [hprotocol]
      split
      · rename_i hdest
        rw [wordsOf_destination hdest, destinationOf, if_pos hdest]
        rfl
      · rename_i hdest
        rw [destinationOf, if_neg hdest]
        unfold wordsOf channelsOf
        split
        · rfl
        · rfl
        · split <;> rfl

theorem lastOf_cons {β : Type} (read : List Char → Option β) (p : List Char)
    (ps : List (List Char)) (d : β) :
    (lastOf read (p :: ps)).getD d = (lastOf read ps).getD ((read p).getD d) := by
  unfold lastOf
  cases hread : read p with
  | none => rw [List.filterMap_cons_none hread, Option.getD_none]
  | some b => rw [List.filterMap_cons_some hread, List.getLast?_cons, Option.getD_some,
      Option.getD_some]

theorem foldl_readField (st : HeaderState) (params : List (List Char)) :
    params.foldl readField st =
      ⟨⟨(lastOf protocolOf params).getD st.transport.protocol,
        ((lastOf wordsOf params).getD (st.transport.rtp, st.transport.rtcp)).1,
        ((lastOf wordsOf params).getD (st.transport.rtp, st.transport.rtcp)).2⟩,
        (lastOf destinationOf params).getD st.destination⟩ := by
  induction params generalizing st with
  | nil => rfl
  | cons p ps ih =>
    rw [List.foldl_cons, ih, readField_eq]
    simp only [lastOf_cons]

/-! ## The last parameter -/

section
variable {β γ : Type} {read : List Char → Option β} {read' : List Char → Option γ} {v : β} {v' : γ}
  {keep : List Char → Bool}

theorem lastOf_eq_some (h : lastOf read params = some v) : ∃ pre p post,
    params = pre ++ p :: post ∧ read p = some v ∧ ∀ q ∈ post, read q = none := by
  obtain ⟨ys, hys⟩ := List.getLast?_eq_some_iff.1 h
  obtain ⟨pre, rest, rfl, -, hrest⟩ := List.filterMap_eq_append_iff.1 hys
  obtain ⟨skipped, p, post, rfl, -, hp, hpost⟩ := List.filterMap_eq_cons_iff.1 hrest
  refine ⟨pre ++ skipped, p, post, (List.append_assoc _ _ _).symm, hp, ?_⟩
  exact List.filterMap_eq_nil_iff.1 hpost

theorem lastOf_split {pre post : List (List Char)} {p : List Char} (hp : read p = some v)
    (hpost : ∀ q ∈ post, read q = none) : lastOf read (pre ++ p :: post) = some v := by
  unfold lastOf
  rw [List.filterMap_append, List.filterMap_cons_some hp, List.filterMap_eq_nil_iff.2 hpost,
    List.getLast?_append, List.getLast?_singleton, Option.some_or]

/-- What one reading finds last, another one finds last where it reads nothing else. -/
theorem lastOf_filter (h : lastOf read params = some v)
    (hkeep : ∀ p, read p = some v → keep p ∧ read' p = some v')
    (hrest : ∀ q, read q = none → keep q → read' q = none) :
    lastOf read' (params.filter keep) = some v' := by
  obtain ⟨pre, p, post, rfl, hp, hpost⟩ := lastOf_eq_some h
  obtain ⟨hk, hp'⟩ := hkeep p hp
  rw [List.filter_append, List.filter_cons_of_pos hk]
  refine lastOf_split hp' fun q hq => ?_
  obtain ⟨hq, hk⟩ := List.mem_filter.1 hq
  exact hrest q (hpost q hq) hk

theorem lastOf_filter_of_dropped (h : ∀ q, keep q = false → read q = none) :
    lastOf read (params.filter keep) = lastOf read params := by
  unfold lastOf
  rw [List.filterMap_filter]
  congr 1
  refine List.filterMap_congr fun q _ => ?_
  cases hk : keep q with
  | false => rw [h q hk, if_neg Bool.false_ne_true]
  | true => rw [if_pos rfl]

theorem lastOf_mem (h : lastOf read params = some v) : ∃ p ∈ params, read p = some v := by
  obtain ⟨pre, p, post, rfl, hp, -⟩ := lastOf_eq_some h
  exact ⟨p, List.mem_append_right _ List.mem_cons_self, hp⟩

theorem exists_lastOf {p : List Char} (hmem : p ∈ params) (hp : (read p).isSome) :
    ∃ v, lastOf read params = some v := by
  obtain ⟨v, hv⟩ := Option.isSome_iff_exists.1 hp
  have hne : params.filterMap read ≠ [] :=
    List.ne_nil_of_mem (List.mem_filterMap.2 ⟨p, hmem, hv⟩)
  exact ⟨_, List.getLast?_eq_some_getLast hne⟩

end

/-! ## Fields and parameters -/

theorem Parameter.ne_separator (p : Parameter) : ∀ c ∈ p.text, decide (c ≠ ';') = true := by
  intro c hc
  rw [decide_eq_true_eq]
  rintro rfl
  exact p.separator hc

theorem splitFields_text (p : Parameter) : splitFields p.text = [p.text] := by
  obtain ⟨x, xs, hp⟩ := List.exists_cons_of_ne_nil p.nonempty
  have htake : p.text.takeWhile (· ≠ ';') = x :: xs := by
    rw [← hp]
    exact List.takeWhile_eq_self_iff.2 p.ne_separator
  unfold splitFields
  split
  · rename_i heq
    rw [htake] at heq
    cases heq
  · rename_i c cs heq
    rw [htake] at heq
    cases heq
    rw [hp, List.drop_length, List.dropWhile_nil, if_pos (Or.inl rfl)]

/-- Behind a parameter and a separator, the rest is split where another parameter begins. -/
theorem splitFields_text_append (p : Parameter) {y : Char} {rest : List Char} (hy : y ≠ ';')
    (hr : y ≠ '\r') (hn : y ≠ '\n') :
    splitFields (p.text ++ ';' :: y :: rest) = p.text :: splitFields (y :: rest) := by
  obtain ⟨x, xs, hp⟩ := List.exists_cons_of_ne_nil p.nonempty
  have htake : (p.text ++ ';' :: y :: rest).takeWhile (· ≠ ';') = x :: xs := by
    rw [← hp, List.takeWhile_append_of_pos p.ne_separator, List.takeWhile_cons_of_neg (by decide),
      List.append_nil]
  have hdrop : (';' :: y :: rest).dropWhile (· = ';') = y :: rest := by
    rw [List.dropWhile_cons_of_pos (by decide), List.dropWhile_cons_of_neg (by simpa using hy)]
  have hgo : ¬ (y :: rest = [] ∨ (y :: rest).head? = some '\r' ∨ (y :: rest).head? = some '\n') := by
    rintro (h | h | h)
    · exact absurd h (List.cons_ne_nil _ _)
    · exact hr (Option.some.inj h)
    · exact hn (Option.some.inj h)
  conv_lhs => unfold splitFields
  split
  · rename_i heq
    rw [htake] at heq
    cases heq
  · rename_i c cs heq
    rw [htake] at heq
    cases heq
    rw [hp, List.drop_left, hdrop, if_neg hgo]

theorem exists_headerText (q : Parameter) (qs : List Parameter) : ∃ y rest,
    headerText ((q :: qs).map Parameter.text) = y :: rest ∧ y ∈ q.text := by
  obtain ⟨y, ys, hq⟩ := List.exists_cons_of_ne_nil q.nonempty
  have hy : y ∈ q.text := by
    rw [hq]
    exact List.mem_cons_self
  cases qs with
  | nil =>
    refine ⟨y, ys, ?_, hy⟩
    rw [List.map_singleton, headerText, List.intercalate_singleton, hq]
  | cons r rs =>
    rw [List.map_cons, List.map_cons, headerText, List.intercalate_cons_cons, hq]
    exact ⟨y, _, rfl, hq ▸ hy⟩

/-- The loop gets the parameters. -/
theorem splitFields_headerText (params : List Parameter) :
    splitFields (headerText (params.map Parameter.text)) = params.map Parameter.text := by
  induction params with
  | nil =>
    rw [splitFields]
    rfl
  | cons p ps ih =>
    cases ps with
    | nil =>
      rw [List.map_singleton, headerText, List.intercalate_singleton]
      exact splitFields_text p
    | cons q qs =>
      obtain ⟨y, rest, hrest, hy⟩ := exists_headerText q qs
      have hheader : headerText ((p :: q :: qs).map Parameter.text) = p.text ++ ';' :: y :: rest := by
        rw [List.map_cons, List.map_cons, headerText, List.intercalate_cons_cons, ← List.map_cons,
          ← headerText, hrest, List.append_assoc]
        rfl
      have hne : y ≠ ';' ∧ y ≠ '\r' ∧ y ≠ '\n' := by
        refine ⟨?_, ?_, ?_⟩
        · rintro rfl
          exact q.separator hy
        · rintro rfl
          exact q.oneLine.1 hy
        · rintro rfl
          exact q.oneLine.2 hy
      rw [hheader, splitFields_text_append p hne.1 hne.2.1 hne.2.2, ← hrest, ih, ← List.map_cons]

/-! ## Numbers that fit -/

theorem stored_natCast {n : Nat} (h : n < 2 ^ 16) : (stored n).toNat = n := by
  unfold stored strtoul
  rw [if_pos (by omega), UInt16.toNat_ofNat']
  omega

theorem stored_toNat (w : UInt16) : stored w.toNat = w :=
  UInt16.toNat_inj.1 (stored_natCast w.toNat_lt)

theorem toNat_stored {a : Int} (h₀ : 0 ≤ a) (h : a < 2 ^ 16) : ((stored a).toNat : Int) = a := by
  obtain ⟨n, rfl⟩ := Int.eq_ofNat_of_zero_le h₀
  rw [stored_natCast (by omega)]

theorem stored_succ {a : Int} (h₀ : 0 ≤ a) (h : a + 1 < 2 ^ 16) : stored (a + 1) = stored a + 1 := by
  have ha := toNat_stored h₀ (by omega)
  have hb := toNat_stored (a := a + 1) (by omega) h
  refine UInt16.toNat_inj.1 ?_
  rw [UInt16.toNat_add]
  have : UInt16.toNat 1 = 1 := rfl
  omega

theorem stored_ne_zero {a : Int} (h₀ : 0 < a) (h : a < 2 ^ 16) : stored a ≠ 0 := by
  intro hzero
  have ha := toNat_stored (Int.le_of_lt h₀) h
  rw [hzero, UInt16.toNat_zero] at ha
  omega

/-! ## What is parsed -/

/-- What the loop leaves of the parameters. -/
theorem parse_iff (params : List Parameter) :
    ragelParseTransportHeader env c (headerText (params.map Parameter.text)) =
        some (c', t, destination) ↔
      checkParsedTransport env c
        ⟨(lastOf protocolOf (params.map Parameter.text)).getD .udp,
          ((lastOf wordsOf (params.map Parameter.text)).getD (0, 0)).1,
          ((lastOf wordsOf (params.map Parameter.text)).getD (0, 0)).2⟩ = some (c', t) ∧
        (lastOf destinationOf (params.map Parameter.text)).getD [] = destination := by
  unfold ragelParseTransportHeader
  rw [splitFields_headerText, foldl_readField]
  constructor
  · intro h
    obtain ⟨⟨c₁, t₁⟩, hcheck, hpure⟩ := Option.bind_eq_some_iff.1 h
    cases hpure
    exact ⟨hcheck, rfl⟩
  · rintro ⟨hcheck, rfl⟩
    exact Option.bind_eq_some_iff.2 ⟨(c', t), hcheck, rfl⟩

theorem checkParsedTransport_tcp {x y : UInt16} :
    checkParsedTransport env c ⟨.tcp, x, y⟩ = some (c', t) ↔
      ¬ (x = 0 ∧ y = 0) ∧ t = ParsedTransport.channels ⟨.tcp, x, y⟩ ∧
      ¬ (t.rtp > 255 ∧ t.rtcp > 255) ∧ env.socketsOk ∧
      c' = { c with interleaved := (t.rtp, t.rtcp) :: c.interleaved } := by
  unfold checkParsedTransport
  constructor
  · intro h
    split at h
    · cases h
    · rename_i hzero
      dsimp only at h
      split at h
      · cases h
      · rename_i hfit
        split at h
        · rename_i hok
          cases h
          exact ⟨hzero, rfl, hfit, hok, rfl⟩
        · cases h
  · rintro ⟨hzero, rfl, hfit, hok, rfl⟩
    rw [if_neg hzero]
    dsimp only
    rw [if_neg hfit, if_pos hok]

theorem checkParsedTransport_udp {x y : UInt16} :
    checkParsedTransport env c ⟨.udp, x, y⟩ = some (c', t) ↔
      ¬ (x = 0 ∧ y = 0) ∧ env.socketsOk ∧ c' = c ∧ t = ⟨.udp, x, y⟩ := by
  unfold checkParsedTransport
  constructor
  · intro h
    split at h
    · cases h
    · rename_i hzero
      dsimp only at h
      split at h
      · rename_i hok
        cases h
        exact ⟨hzero, hok, rfl, rfl⟩
      · cases h
  · rintro ⟨hzero, hok, rfl, rfl⟩
    rw [if_neg hzero]
    dsimp only
    rw [if_pos hok]

theorem checkParsedTransport_protocol {t₀ : ParsedTransport}
    (h : checkParsedTransport env c t₀ = some (c', t)) : t.protocol = t₀.protocol := by
  obtain ⟨p, x, y⟩ := t₀
  cases p with
  | udp =>
    obtain ⟨-, -, -, rfl⟩ := checkParsedTransport_udp.1 h
    rfl
  | tcp =>
    obtain ⟨-, rfl, -, -, -⟩ := checkParsedTransport_tcp.1 h
    unfold ParsedTransport.channels
    split
    · rfl
    · rfl

/-! ## The kinds of parameters -/

theorem protocolOf_tcpText : protocolOf tcpText = some .tcp := rfl

theorem eq_tcpText_of_protocolOf (h : protocolOf field = some .tcp) : field = tcpText := by
  unfold protocolOf at h
  split at h
  · assumption
  · split at h
    · cases h
    · cases h

theorem lastOf_protocolOf_eq_udp (h : tcpText ∉ params) :
    (lastOf protocolOf params).getD .udp = .udp := by
  cases hlast : lastOf protocolOf params with
  | none => rfl
  | some p =>
    cases p with
    | udp => rfl
    | tcp =>
      obtain ⟨q, hq, hp⟩ := lastOf_mem hlast
      exact absurd (eq_tcpText_of_protocolOf hp ▸ hq) h

theorem conversions_client_port_eq_nil (h : conversions "interleaved=" field ≠ []) :
    conversions "client_port=" field = [] := by
  refine conversions_eq_nil (by decide) fun htake => h (conversions_eq_nil (by decide) ?_)
  rw [htake]
  decide

theorem portsOf_eq_none_of_channelsOf (h : (channelsOf field).isSome) : portsOf field = none := by
  unfold portsOf
  rw [conversions_client_port_eq_nil]
  intro hnil
  unfold channelsOf at h
  rw [hnil] at h
  cases h

/-- Without a port, the words are the channels. -/
theorem wordsOf_eq_of_portsOf (h : portsOf field = none) :
    wordsOf field = (channelsOf field).map fun n => (stored n.1, stored n.2) := by
  unfold portsOf at h
  unfold wordsOf
  split at h
  · cases h
  · cases h
  · rfl

theorem wordsOf_of_channelsOf {a b : Int} (h : channelsOf field = some (a, b)) :
    wordsOf field = some (stored a, stored b) := by
  rw [wordsOf_eq_of_portsOf (portsOf_eq_none_of_channelsOf (Option.isSome_of_mem h)), h]
  rfl

theorem isSome_wordsOf_of_portsOf (h : (portsOf field).isSome) : (wordsOf field).isSome := by
  unfold portsOf at h
  unfold wordsOf
  split at h
  · rfl
  · rfl
  · cases h

/-- The words of ports that fit. -/
theorem wordsOf_of_portsOf {a b : Int} (h : portsOf field = some (a, b)) (h₀ : 0 ≤ a)
    (hb : b < 2 ^ 16) : wordsOf field = some (stored a, stored b) := by
  unfold portsOf at h
  unfold wordsOf
  split at h
  · cases h
    rfl
  · cases h
    rw [stored_succ h₀ hb]
  · cases h

theorem destinationOf_eq_none_of_wordsOf (h : (wordsOf field).isSome) :
    destinationOf field = none := by
  unfold destinationOf
  rw [if_neg]
  intro hdest
  rw [wordsOf_destination hdest] at h
  cases h

theorem destinationOf_of_forUdp (h : forUdp field) : destinationOf field = none := by
  unfold forUdp at h
  rw [decide_eq_true_eq] at h
  rcases h with rfl | h
  · decide
  · exact destinationOf_eq_none_of_wordsOf (isSome_wordsOf_of_portsOf h)

theorem destinationOf_of_forTcp (h : forTcp field) : destinationOf field = none := by
  obtain ⟨⟨a, b⟩, hab⟩ := Option.isSome_iff_exists.1 h
  refine destinationOf_eq_none_of_wordsOf ?_
  rw [wordsOf_of_channelsOf hab]
  rfl

theorem keep_of_channelsOf {a b : Int} (h : channelsOf field = some (a, b)) :
    forUdp field = false := by
  unfold forUdp
  rw [decide_eq_false_iff_not]
  rintro (rfl | hports)
  · have hraw : channelsOf rawText = none := by decide
    rw [hraw] at h
    cases h
  · rw [portsOf_eq_none_of_channelsOf (Option.isSome_of_mem h)] at hports
    cases hports

theorem keep_of_portsOf {v : Int × Int} (h : portsOf field = some v) : forTcp field = false := by
  cases hk : forTcp field with
  | false => rfl
  | true =>
    rw [portsOf_eq_none_of_channelsOf hk] at h
    cases h

theorem portsOf_eq_none_of_keep (h : forUdp field = false) : portsOf field = none := by
  unfold forUdp at h
  rw [decide_eq_false_iff_not, not_or] at h
  exact Option.not_isSome_iff_eq_none.1 h.2

/-! ## Negotiation -/

section Negotiation
variable {params : List Parameter} {x w : UInt16} {a b : Int}

theorem parse_filter_iff (keep : List Char → Bool) :
    ragelParseTransportHeader env c (headerText ((params.map Parameter.text).filter keep)) =
        some (c', t, destination) ↔
      checkParsedTransport env c
        ⟨(lastOf protocolOf ((params.map Parameter.text).filter keep)).getD .udp,
          ((lastOf wordsOf ((params.map Parameter.text).filter keep)).getD (0, 0)).1,
          ((lastOf wordsOf ((params.map Parameter.text).filter keep)).getD (0, 0)).2⟩ =
        some (c', t) ∧
        (lastOf destinationOf ((params.map Parameter.text).filter keep)).getD [] = destination := by
  rw [List.filter_map, parse_iff]

/-- The channels that two numbers ask for, when the second word counts as the next one or is it. -/
theorem channels_stored (ha : 0 ≤ a) (ha' : a ≤ 255) (hb : 0 < b) (hb' : b ≤ 255)
    (hzero : ¬ (stored a = 0 ∧ w = 0)) (hw : w = stored b ∨ w = 0 ∧ b = a + 1) :
    ParsedTransport.channels ⟨.tcp, stored a, w⟩ = ⟨.tcp, stored a, stored b⟩ := by
  have hpos : stored b ≠ 0 := stored_ne_zero hb (by omega)
  unfold ParsedTransport.channels
  rcases hw with rfl | ⟨rfl, rfl⟩
  · rw [if_neg fun h => hpos h.2]
  · rw [if_pos ⟨fun h => hzero ⟨h, rfl⟩, rfl⟩, stored_succ ha (by omega)]

/-- The numbers that give channels, and what the words were. -/
theorem words_of_channels (hzero : ¬ (x = 0 ∧ w = 0))
    (ha : ((ParsedTransport.channels ⟨.tcp, x, w⟩).rtp.toNat : Int) = a)
    (hb : ((ParsedTransport.channels ⟨.tcp, x, w⟩).rtcp.toNat : Int) = b) (ha' : a ≤ 255) :
    x = stored a ∧ 0 < b ∧ (w = stored b ∨ w = 0 ∧ b = a + 1) := by
  unfold ParsedTransport.channels at ha hb
  split at ha
  · rename_i h
    rw [if_pos h] at hb
    dsimp only at ha hb h
    have hsucc := UInt16.toNat_add x 1
    have hone : UInt16.toNat 1 = 1 := rfl
    refine ⟨?_, ?_, Or.inr ⟨h.2, ?_⟩⟩
    · rw [← ha, stored_toNat]
    · omega
    · omega
  · rename_i h
    rw [if_neg h] at hb
    dsimp only at ha hb h
    have hw : w ≠ 0 := fun hw => h ⟨fun hx => hzero ⟨hx, hw⟩, hw⟩
    have hw' : w.toNat ≠ 0 := fun hw' => hw (UInt16.toNat_inj.1 hw')
    refine ⟨?_, ?_, Or.inl ?_⟩
    · rw [← ha, stored_toNat]
    · omega
    · rw [← hb, stored_toNat]

theorem interleavedPacket_channel {w : UInt16} (h : w.toNat ≤ 255) (data : List UInt8) :
    ((interleavedPacket w.toNat data)[1]?).map UInt8.toNat = some w.toNat := by
  show some (UInt8.ofNat w.toNat).toNat = some w.toNat
  rw [UInt8.toNat_ofNat', Nat.mod_eq_of_lt (by omega)]

theorem channelsWork (hrtp : t.rtp.toNat ≤ 255) (hrtcp : t.rtcp.toNat ≤ 255)
    (h : c'.interleaved = (t.rtp, t.rtcp) :: c.interleaved) : ChannelsWork c' t where
  rtp := interleavedPacket_channel hrtp
  rtcp := interleavedPacket_channel hrtcp
  received := by
    have hchannel : (UInt8.ofNat t.rtcp.toNat).toNat = t.rtcp.toNat := by
      rw [UInt8.toNat_ofNat', Nat.mod_eq_of_lt (by omega)]
    refine ⟨UInt8.ofNat t.rtcp.toNat, hchannel, ?_⟩
    unfold interleavedRtcpSend
    rw [h, List.findIdx?_cons, hchannel, decide_eq_true rfl, if_pos rfl]

theorem negotiated_tcp (htcp : tcpText ∈ params.map Parameter.text)
    (h : ragelParseTransportHeader env c (headerText (params.map Parameter.text)) =
      some (c', t, destination)) :
    Negotiated env c (params.map Parameter.text) c' t destination ↔
      Clear (params.map Parameter.text) := by
  obtain ⟨hcheck, hdest⟩ := (parse_iff params).1 h
  have hprotocol := checkParsedTransport_protocol hcheck
  unfold Negotiated Clear
  rw [imp_iff_right htcp, imp_iff_right htcp, and_iff_left fun h => absurd htcp h,
    and_iff_left fun h => absurd htcp h]
  constructor
  · rintro ⟨hp, ⟨a, b, hab, ha, hb, ha', hb'⟩, -, -⟩
    have hlast : lastOf protocolOf (params.map Parameter.text) = some .tcp := by
      obtain ⟨p, hlast⟩ := exists_lastOf htcp (Option.isSome_of_mem protocolOf_tcpText)
      rw [hlast, hp] at hprotocol
      rw [hlast, hprotocol]
      rfl
    obtain ⟨q, hq, hchannels⟩ := lastOf_mem hab
    obtain ⟨⟨x, w⟩, hwords⟩ := exists_lastOf hq (Option.isSome_of_mem (wordsOf_of_channelsOf hchannels))
    rw [hlast, hwords] at hcheck
    obtain ⟨hzero, rfl, -, -, -⟩ := checkParsedTransport_tcp.1 hcheck
    obtain ⟨rfl, hpos, hw⟩ := words_of_channels hzero ha hb ha'
    exact ⟨hlast, a, b, w, hab, by omega, ha', hpos, hb', hwords, hw⟩
  · rintro ⟨hlast, a, b, w, hab, ha, ha', hb, hb', hwords, hw⟩
    rw [hlast, hwords] at hcheck
    obtain ⟨hzero, ht, hfit, hok, hc⟩ := checkParsedTransport_tcp.1 hcheck
    have hzero' : ¬ (stored a = 0 ∧ w = 0) := hzero
    have heq : t = ⟨.tcp, stored a, stored b⟩ := ht.trans (channels_stored ha ha' hb hb' hzero' hw)
    have hta : (t.rtp.toNat : Int) = a := heq ▸ toNat_stored ha (by omega)
    have htb : (t.rtcp.toNat : Int) = b := heq ▸ toNat_stored (Int.le_of_lt hb) (by omega)
    refine ⟨by rw [heq], ⟨a, b, hab, hta, htb, ha', hb'⟩, ?_, ?_⟩
    · exact channelsWork (by omega) (by omega) (by rw [hc])
    · have hlast' : lastOf protocolOf ((params.map Parameter.text).filter fun p => !forUdp p) =
          some .tcp := by
        refine lastOf_filter hlast (fun p hp => ?_) fun q hq _ => hq
        cases eq_tcpText_of_protocolOf hp
        exact ⟨by decide, rfl⟩
      have hwords' : lastOf wordsOf ((params.map Parameter.text).filter fun p => !forUdp p) =
          some (stored a, stored b) := by
        refine lastOf_filter hab (fun p hp => ?_) fun q hq hk => ?_
        · exact ⟨by rw [keep_of_channelsOf hp]; rfl, wordsOf_of_channelsOf hp⟩
        · rw [wordsOf_eq_of_portsOf (portsOf_eq_none_of_keep (by simpa using hk)), hq]
          rfl
      have hdest' : lastOf destinationOf ((params.map Parameter.text).filter fun p => !forUdp p) =
          lastOf destinationOf (params.map Parameter.text) :=
        lastOf_filter_of_dropped fun q hq => destinationOf_of_forUdp (by simpa using hq)
      rw [parse_filter_iff, hlast', hwords', hdest']
      have hpos : ¬ (stored a = 0 ∧ stored b = 0) := fun h => stored_ne_zero hb (by omega) h.2
      refine ⟨checkParsedTransport_tcp.2 ⟨hpos, ?_, hfit, hok, hc⟩, hdest⟩
      rw [heq]
      exact (channels_stored ha ha' hb hb' hpos (Or.inl rfl)).symm

theorem negotiated_udp (htcp : tcpText ∉ params.map Parameter.text)
    (h : ragelParseTransportHeader env c (headerText (params.map Parameter.text)) =
      some (c', t, destination)) :
    Negotiated env c (params.map Parameter.text) c' t destination ↔
      Clear (params.map Parameter.text) := by
  obtain ⟨hcheck, hdest⟩ := (parse_iff params).1 h
  rw [lastOf_protocolOf_eq_udp htcp] at hcheck
  obtain ⟨hzero, hok, hc, rfl⟩ := checkParsedTransport_udp.1 hcheck
  unfold Negotiated Clear
  rw [imp_iff_right htcp, imp_iff_right htcp, and_iff_right fun h => absurd h htcp,
    and_iff_right fun h => absurd h htcp]
  constructor
  · rintro ⟨-, hports, -⟩
    obtain ⟨q, hq, hp⟩ := lastOf_mem hports
    obtain ⟨⟨x, w⟩, hwords⟩ :=
      exists_lastOf hq (isSome_wordsOf_of_portsOf (Option.isSome_of_mem hp))
    rw [hwords] at hports
    have hx := x.toNat_lt
    have hw := w.toNat_lt
    refine ⟨_, _, hports, by omega, ?_, by omega, ?_, ?_⟩
    · show (x.toNat : Int) < 2 ^ 16
      omega
    · show (w.toNat : Int) < 2 ^ 16
      omega
    · rw [hwords]
      show some (x, w) = some (stored x.toNat, stored w.toNat)
      rw [stored_toNat, stored_toNat]
  · rintro ⟨a, b, hports, ha, ha', hb, hb', hwords⟩
    rw [hwords] at hcheck ⊢
    refine ⟨rfl, ?_, ?_⟩
    · show _ = some (((stored a).toNat : Int), ((stored b).toNat : Int))
      rw [hports, toNat_stored ha ha', toNat_stored hb hb']
    · have htcp' : tcpText ∉ (params.map Parameter.text).filter fun p => !forTcp p :=
        fun hmem => htcp (List.mem_filter.1 hmem).1
      have hwords' : lastOf wordsOf ((params.map Parameter.text).filter fun p => !forTcp p) =
          some (stored a, stored b) := by
        refine lastOf_filter hports (fun p hp => ⟨?_, wordsOf_of_portsOf hp ha hb'⟩) fun q hq hk => ?_
        · rw [keep_of_portsOf hp]
          rfl
        · rw [wordsOf_eq_of_portsOf hq, Option.map_eq_none_iff]
          exact Option.not_isSome_iff_eq_none.1 (by simpa [forTcp] using hk)
      have hdest' : lastOf destinationOf ((params.map Parameter.text).filter fun p => !forTcp p) =
          lastOf destinationOf (params.map Parameter.text) :=
        lastOf_filter_of_dropped fun q hq => destinationOf_of_forTcp (by simpa using hq)
      rw [parse_filter_iff, lastOf_protocolOf_eq_udp htcp', hwords', hdest']
      exact ⟨hcheck, hdest⟩

end Negotiation

def tcpParam : Parameter := ⟨tcpText, by decide, by decide, by decide⟩

def unicastParam : Parameter := ⟨"unicast".toList, by decide, by decide, by decide⟩

def channelsParam : Parameter := ⟨"interleaved=2-3".toList, by decide, by decide, by decide⟩

def portsParam : Parameter := ⟨"client_port=5-6".toList, by decide, by decide, by decide⟩

/-- The first channel has more than a byte. -/
def wideParam : Parameter := ⟨"interleaved=256-5".toList, by decide, by decide, by decide⟩

end Rtsp

end StreamSwitch
