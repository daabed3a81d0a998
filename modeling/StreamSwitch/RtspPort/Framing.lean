import StreamSwitch.RtspPort.Receive

/-!
# Framing of RTSP messages

A client sends requests and interleaved packets, one behind the other, and the socket delivers
the bytes in reads of any size. `frame` says which messages are complete after some bytes and
what is left; `Separates` collects what `RTSP_full_msg_rcvd` and `rtsp_parse_request` need of a
read to hand on exactly these:

* a request that can be parsed is handed on while nothing but a NUL follows it in memory;
* no read ends between the last two bytes of a request without a body;
* no read ends in a `Content-Length` header before its first digit, nor in a header that the
  memory behind the buffer completes to one;
* no other header starts like `Content-Length` before that one, and no body starts with a line end.
-/

namespace StreamSwitch.RtspInput

/-! ## Messages -/

def crlf : Bytes := [13, 10]

/-- The lines with their line ends. -/
def joinLines (ls : List Bytes) : Bytes := ls.flatMap (· ++ crlf)

/-- A request as it is sent. -/
structure SentRequest where
  requestLine : Bytes
  headerLines : List Bytes
  body : Bytes
deriving DecidableEq, Repr

/-- The header block with the empty line. -/
def SentRequest.head (r : SentRequest) : Bytes :=
  joinLines (r.requestLine :: r.headerLines) ++ crlf

inductive Sent
  | request (r : SentRequest)
  | packet (channel : UInt8) (data : Bytes)
deriving DecidableEq, Repr

def Sent.bytes : Sent → Bytes
  | .request r => r.head ++ r.body
  | .packet channel data =>
    36 :: channel :: UInt8.ofNat (data.length / 256) :: UInt8.ofNat (data.length % 256) :: data

/-- Bytes without line ends and NULs. -/
def Plain (s : Bytes) : Prop := ∀ b ∈ s, b ≠ 0 ∧ isEol b = false

/-- A line that is not blank. -/
structure LineOk (l : Bytes) : Prop where
  plain : Plain l
  filled : ∃ b ∈ l, isBlank b = false

/-- The line is a `Content-Length` header with the value `n`. -/
def IsContentLength (l : Bytes) (n : Nat) : Prop :=
  ∃ name gap ds tail, l = name ++ 58 :: (gap ++ ds ++ tail) ∧
    name.map lower = contentLength.map lower ∧ (∀ b ∈ gap, isBlank b = true) ∧ ds ≠ [] ∧
    (∀ b ∈ ds, isDigit b = true) ∧ digitsValue ds = n ∧ ∀ b ∈ tail, isBlank b = true

structure SentRequest.WellFormed (r : SentRequest) : Prop where
  lines : ∀ l ∈ r.requestLine :: r.headerLines, LineOk l
  notPacket : r.requestLine.head? ≠ some 36
  noNul : ∀ b ∈ r.body, b ≠ 0
  /-- The body has the length that the header gives, and there is none without it. -/
  length : (∃ l ∈ r.headerLines, ∃ n, IsContentLength l n) ∨ r.body = []
  lengths : ∀ l ∈ r.headerLines, ∀ n, IsContentLength l n → n = r.body.length
  short : r.body.length < 32768

def Sent.WellFormed : Sent → Prop
  | .request r => r.WellFormed
  | .packet _ data => data.length < 65536

/-- What is to be handed on for a request: what its header block says, and its body. -/
def SentRequest.parsed (r : SentRequest) : Parsed :=
  match rtspParseRequest r.head with
  | .request q => .request { q with body := if r.body = [] then none else some r.body }
  | p => p

def Sent.handed : Sent → Handed
  | .request r => .request r.parsed
  | .packet channel data => .packet channel data

/-- The messages that are complete in `input`, the others, and the bytes that are left. -/
def frame : List Sent → Bytes → List Sent × List Sent × Bytes
  | [], input => ([], [], input)
  | m :: ms, input =>
    if m.bytes.length ≤ input.length then
      let (complete, others, rest) := frame ms (input.drop m.bytes.length)
      (m :: complete, others, rest)
    else ([], m :: ms, input)

/-! ## The condition -/

/-- The line starts like `Content-Length`. -/
def startsLength (l : Bytes) : Bool := sameHeader (l.dropWhile isBlank) contentLength.length

/-- The headers give the length of the body and the body can be told from the line ends. -/
structure SentRequest.Framable (r : SentRequest) : Prop where
  length : ∀ l, r.headerLines.find? startsLength = some l → ∃ n, IsContentLength l n
  body : ∀ b ∈ r.body.head?, isEol b = false

/-- The request line and the headers can be parsed. -/
def SentRequest.Accepted (r : SentRequest) : Prop :=
  (∃ line n, parseRequestLine (r.requestLine ++ crlf) = some (line, n) ∧
    line.version = ascii "RTSP/1.0") ∧
  ∃ k headers, erisParseHeaders (joinLines r.headerLines ++ crlf) = some (k, headers)

/-- Nothing but a NUL follows a request that is accepted. -/
def SentRequest.Alone (r : SentRequest) (after : Bytes) : Prop :=
  r.Accepted → ∀ b ∈ after.head?, b = 0

/-- The received bytes `rest` of the header lines `ls`, which start at the offset `ml`, end in
none that looks like `Content-Length` and has no digit yet. -/
def StopsSafely (behind : Bytes) : (ml : Nat) → (ls : List Bytes) → (rest : Bytes) → Prop
  | _, [], _ => True
  | ml, l :: ls, rest =>
    if rest.length ≤ l.length then
      let part := rest.dropWhile isBlank
      let ml := ml + (rest.takeWhile isBlank).length
      part ≠ [] →
        sameHeader (part ++ behind) (min contentLength.length (rtspBufferSize - ml)) = true →
        ∃ b ∈ part, isDigit b = true
    else startsLength l = true ∨
      StopsSafely behind (ml + l.length + 2) ls (rest.drop (l.length + 2))

/-- The received bytes of an incomplete request can be told from a complete one. -/
structure SentRequest.Waits (r : SentRequest) (input behind : Bytes) : Prop where
  blank : r.body = [] → input ++ [10] ≠ r.head
  header : StopsSafely behind (r.requestLine.length + 2) r.headerLines
    (input.drop (r.requestLine.length + 2))

def Sent.Complete : Sent → (after : Bytes) → Prop
  | .request r, after => r.Framable ∧ r.Alone after
  | .packet _ _, _ => True

def Sent.Incomplete : Sent → (input behind : Bytes) → Prop
  | .request r, input, behind => r.Framable ∧ r.Waits input behind
  | .packet _ _, _, _ => True

/-- The messages in `input` can be told apart, turn by turn of the handler from turn `i` on. -/
def Separates (behind : Nat → Bytes) : (i : Nat) → List Sent → Bytes → Prop
  | _, [], _ => True
  | i, m :: ms, input =>
    if m.bytes.length ≤ input.length then
      m.Complete (input.drop m.bytes.length ++ behind i) ∧
        Separates behind (i + 1) ms (input.drop m.bytes.length)
    else m.Incomplete input (behind i)

/-- The condition on all reads. -/
def ReadsSeparate : List Sent → (input : Bytes) → List Read → Prop
  | _, _, [] => True
  | ms, input, r :: rs =>
    Separates r.behind 0 ms (input ++ r.bytes) ∧
      ReadsSeparate (frame ms (input ++ r.bytes)).2.1 (frame ms (input ++ r.bytes)).2.2 rs

/-- The reads keep what is received and not complete within the buffer. -/
def WithinBuffer : List Sent → (input : Bytes) → List Read → Prop
  | _, _, [] => True
  | ms, input, r :: rs =>
    input.length + r.bytes.length ≤ rtspBufferSize ∧
      WithinBuffer (frame ms (input ++ r.bytes)).2.1 (frame ms (input ++ r.bytes)).2.2 rs

end StreamSwitch.RtspInput
