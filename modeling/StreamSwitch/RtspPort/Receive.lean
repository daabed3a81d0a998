import StreamSwitch.Defs

/-!
# Receiving RTSP messages

`RTSP_full_msg_rcvd`, `RTSP_handler` and `rtsp_parse_request` of `rtsp_state_machine.c`, with the
request line parser of `ragel_request_line.c` and the automaton of `liberis/headers_parser.c`.
The input buffer is not terminated, so `strcspn`, `sscanf` and `strlen` go on into the memory
behind the received bytes. That memory is an argument, `behind`, another one for every turn of
the loop; behind its end there is a NUL.
-/

namespace StreamSwitch.RtspInput

/-! ## Characters -/

def isEol (b : UInt8) : Bool := b = 13 || b = 10

def isBlank (b : UInt8) : Bool := b = 32 || b = 9

/-- `isspace`. -/
def isSpace (b : UInt8) : Bool := b = 32 || (9 ≤ b && b ≤ 13)

def isDigit (b : UInt8) : Bool := 48 ≤ b && b ≤ 57

/-- `g_ascii_tolower`. -/
def lower (b : UInt8) : UInt8 := if 65 ≤ b && b ≤ 90 then b + 32 else b

def ascii (s : String) : Bytes := s.toList.map fun c => UInt8.ofNat c.toNat

/-- `eris_hdr_content_length`. -/
def contentLength : Bytes := ascii "Content-Length"

/-- `strcspn(s, RTSP_EL)`. -/
def strcspn (s : Bytes) : Nat := (s.takeWhile fun b => b ≠ 0 && !isEol b).length

/-- `g_ascii_strncasecmp(s, eris_hdr_content_length, n) == 0`. -/
def sameHeader (s : Bytes) (n : Nat) : Bool :=
  (s.take n).map lower = (contentLength.take n).map lower

def digitsValue (ds : Bytes) : Nat := ds.foldl (fun n b => n * 10 + (b.toNat - 48)) 0

/-- Whether a number has a minus sign, and the bytes behind its sign. -/
def scanSign : Bytes → Bool × Bytes
  | 45 :: s => (true, s)
  | 43 :: s => (false, s)
  | s => (false, s)

/-- `sscanf(s, "%hd", &bl)` into a `uint16_t`. -/
def scanShort (s : Bytes) : Option Nat :=
  let number := scanSign (s.dropWhile isSpace)
  let ds := number.2.takeWhile isDigit
  if ds = [] then none
  else
    -- `strtol` stops at the bounds of a `long`
    let v : Int := if number.1 then -(min (digitsValue ds) (2 ^ 63) : Nat)
      else (min (digitsValue ds) (2 ^ 63 - 1) : Nat)
    some (v % 2 ^ 16).toNat

/-! ## The end of a message -/

/-- `RTSP_BUFFERSIZE`. -/
def rtspBufferSize : Nat := 65536 + 4096

/-- What `RTSP_full_msg_rcvd` returns. `overrun` is a message that is taken to end behind the
received bytes, which the search for trailing NULs then leaves. -/
inductive Rcvd
  | error
  | notFull
  | method (hdrLen bodyLen : Nat)
  | interleaved (hdrLen bodyLen : Nat)
  | overrun
deriving DecidableEq, Repr

/-- The loop over line terminators: `tc` and `ws` over the received bytes. -/
def terminators : Bytes → (tc : Nat) → (ws : Nat) → Nat × Nat
  | [], tc, ws => (tc, ws)
  | c :: rest, tc, ws =>
    if isEol c then terminators rest (tc + 1) ws
    else if tc < 3 && isBlank c then terminators rest tc (ws + 1)
    else (tc, ws)

/-- The message ends with the `bl` body bytes behind the header block of `ml` bytes. -/
def received (ml bl : Nat) (rest : Bytes) : Rcvd :=
  let nuls := ((rest.drop bl).takeWhile (· = 0)).length
  .method ml ((bl + nuls) % 2 ^ 16)

/-- The loop of `RTSP_full_msg_rcvd` from the offset `ml` on, where `rest` was received and `behind`
lies behind it. `eomh` is not carried over: a message whose end is found is complete or not. -/
def scan (behind : Bytes) : (fuel : Nat) → (ml : Nat) → (rest : Bytes) → (mb : Bool) → (bl : Nat) →
    Rcvd
  | 0, _, _, _, _ => .error
  | fuel + 1, ml, rest, mb, bl =>
    let control := strcspn (rest ++ behind)
    if control = 0 then .error
    else if rest.length < control then .notFull
    else
      let ml := ml + control
      let rest := rest.drop control
      let (tc, ws) := terminators rest 0 0
      let eomh := 2 < tc ∨ (tc = 2 ∧ rest[0]? = rest[1]?)
      let ml := ml + tc + ws
      let rest := rest.drop (tc + ws)
      if eomh then
        if bl ≤ rest.length then received ml bl rest else .notFull
      else if rest = [] then .notFull
      else if !mb && sameHeader (rest ++ behind) (min contentLength.length (rtspBufferSize - ml)) then
        if rest.length < contentLength.length then
          match scanShort ((rest ++ behind).drop contentLength.length) with
          | none => .error
          | some _ => .overrun
        else
          let skipped := (rest.drop contentLength.length).takeWhile fun c => c = 58 || c = 32
          let ml := ml + contentLength.length + skipped.length
          let rest := rest.drop (contentLength.length + skipped.length)
          match scanShort (rest ++ behind) with
          | none => .error
          | some bl => scan behind fuel ml rest true bl
      else scan behind fuel ml rest mb bl

/-- `RTSP_full_msg_rcvd`, on a buffer that is not empty. -/
def fullMsgRcvd (input behind : Bytes) : Rcvd :=
  if input.head? = some 36 then
    let byte (i : Nat) : Nat := ((input ++ behind)[i]?.getD 0).toNat
    let bl := byte 2 * 256 + byte 3
    if bl + 4 ≤ input.length then .interleaved 4 bl else .notFull
  else scan behind (input.length + 1) 0 input false 0

/-! ## The parsers -/

/-- One field of the request line; fields of 255 characters and more are refused. -/
def field (stop : UInt8 → Bool) (line : Bytes) : Option (Bytes × Bytes) :=
  let f := line.takeWhile fun b => !stop b
  if f.length < 255 ∧ f.length < line.length then some (f, line.drop f.length) else none

structure RequestLine where
  method : Bytes
  object : Bytes
  version : Bytes
deriving DecidableEq, Repr

def requestFields (line : Bytes) : Option RequestLine := do
  let (method, rest) ← field isBlank line
  let (object, rest) ← field isBlank (rest.dropWhile isBlank)
  let (version, _) ← field (fun b => isBlank b || isEol b) (rest.dropWhile isBlank)
  return ⟨method, object, version⟩

/-- `ragel_parse_request_line`: the fields and the length of the line. -/
def parseRequestLine (msg : Bytes) : Option (RequestLine × Nat) :=
  let n := (msg.takeWhile (· ≠ 10)).length
  if n = msg.length then none else (requestFields (msg.take (n + 1))).map (·, n + 1)

def isNameChar (b : UInt8) : Bool :=
  b = 95 || b = 126 || (45 ≤ b && b ≤ 46) || (48 ≤ b && b ≤ 57) || (65 ≤ b && b ≤ 90) ||
    (97 ≤ b && b ≤ 122)

def isPrintable (b : UInt8) : Bool := 32 ≤ b && b ≤ 126

/-- The states of the automaton in `headers_parser.c`, 1 to 9. -/
inductive HeaderState
  | start | name | colon | space | value | lineEnd | blankCr | valueCr | done
deriving DecidableEq, Repr

/-- The automaton with the header it reads and those in the table. -/
structure HeaderParser where
  state : HeaderState := .start
  name : Bytes := []
  value : Bytes := []
  table : List (Bytes × Bytes) := []
deriving DecidableEq, Repr

namespace HeaderParser

def insert (p : HeaderParser) : HeaderParser :=
  { p with state := .lineEnd, table := p.table ++ [(p.name, p.value)] }

/-- One transition; none to the error state. -/
def step (p : HeaderParser) (c : UInt8) : Option HeaderParser :=
  match p.state with
  | .start => if isNameChar c then some { p with state := .name, name := [c] } else none
  | .name =>
    if c = 58 then some { p with state := .colon }
    else if isNameChar c then some { p with name := p.name ++ [c] }
    else none
  | .colon => if c = 32 then some { p with state := .space } else none
  | .space => if isPrintable c then some { p with state := .value, value := [c] } else none
  | .value =>
    if c = 10 then some p.insert
    else if c = 13 then some { p with state := .valueCr }
    else if isPrintable c then some { p with value := p.value ++ [c] }
    else none
  | .lineEnd =>
    if c = 10 then some { p with state := .done }
    else if c = 13 then some { p with state := .blankCr }
    else if isNameChar c then some { p with state := .name, name := [c] }
    else none
  | .blankCr =>
    if c = 10 then some { p with state := .done } else if c = 13 then some p else none
  | .valueCr => if c = 10 then some p.insert else if c = 13 then some p else none
  | .done => none

/-- The automaton from `p` on, which has read `n` characters: the length of the headers and the
table. It stops at the character behind the empty line. -/
def run (p : HeaderParser) (n : Nat) : Bytes → Option (Nat × List (Bytes × Bytes))
  | [] => if p.state = .done then some (n, p.table) else none
  | c :: rest =>
    if p.state = .done then some (n, p.table) else (p.step c).bind fun p => p.run (n + 1) rest

end HeaderParser

/-- `eris_parse_headers`. -/
def erisParseHeaders (s : Bytes) : Option (Nat × List (Bytes × Bytes)) :=
  ({} : HeaderParser).run 0 s

structure Request where
  line : RequestLine
  headers : List (Bytes × Bytes)
  body : Option Bytes
deriving DecidableEq, Repr

/-- What `rtsp_parse_request` makes of the bytes before it looks at the method, the sequence number
and the session. -/
inductive Parsed
  | badRequest
  | versionNotSupported
  | request (r : Request)
deriving DecidableEq, Repr

/-- The first part of `rtsp_parse_request`, on the memory from the start of the buffer on. -/
def rtspParseRequest (memory : Bytes) : Parsed :=
  let message := memory.takeWhile (· ≠ 0)
  match parseRequestLine message with
  | none => .badRequest
  | some (line, n) =>
    if line.version ≠ ascii "RTSP/1.0" then .versionNotSupported
    else
      match erisParseHeaders (message.drop n) with
      | none => .badRequest
      | some (k, headers) =>
        .request ⟨line, headers, if n + k < message.length then some (message.drop (n + k)) else none⟩

/-! ## The handler -/

/-- What `RTSP_handler` hands on: a request as it is parsed, or a packet for a channel. -/
inductive Handed
  | request (p : Parsed)
  | packet (channel : UInt8) (data : Bytes)
deriving DecidableEq, Repr

/-- The loop of `RTSP_handler` from turn `i` on: what is handed on and the bytes that stay in the
buffer, or none when it returns an error or leaves the buffer. -/
def handlerLoop (behind : Nat → Bytes) : (fuel : Nat) → (i : Nat) → (input : Bytes) →
    Option (List Handed × Bytes)
  | _, _, [] => some ([], [])
  | 0, _, _ => none
  | fuel + 1, i, input =>
    match fullMsgRcvd input (behind i) with
    | .notFull => some ([], input)
    | .method hdrLen bodyLen =>
      (handlerLoop behind fuel (i + 1) (input.drop (hdrLen + bodyLen))).map fun (hs, rest) =>
        (.request (rtspParseRequest (input ++ behind i)) :: hs, rest)
    | .interleaved hdrLen bodyLen =>
      (handlerLoop behind fuel (i + 1) (input.drop (hdrLen + bodyLen))).map fun (hs, rest) =>
        (.packet (input[1]?.getD 0) ((input.drop hdrLen).take bodyLen) :: hs, rest)
    | .error => none
    | .overrun => none

/-- `RTSP_handler`. -/
def rtspHandler (behind : Nat → Bytes) (input : Bytes) : Option (List Handed × Bytes) :=
  handlerLoop behind input.length 0 input

/-- A socket read: the bytes, and the memory behind the buffer at each turn of the handler. -/
structure Read where
  bytes : Bytes
  behind : Nat → Bytes

/-- `rtsp_read_cb`, call after call; none when the connection is closed by the server. -/
def serve : (input : Bytes) → List Read → Option (List Handed × Bytes)
  | input, [] => some ([], input)
  | input, r :: rs =>
    if input.length + r.bytes.length ≤ rtspBufferSize then
      (rtspHandler r.behind (input ++ r.bytes)).bind fun (hs, input) =>
        (serve input rs).map fun (hs', input) => (hs ++ hs', input)
    else none

end StreamSwitch.RtspInput
