import StreamSwitch.CString
import StreamSwitch.Lib.StreamCode
import StreamSwitch.RtspPort.MessageEnd

/-!
# Responses of the RTSP server

`network/rtsp_response.c`: the response made for a request, and the text that is queued for the
connection. A client finds responses and interleaved packets one behind another on the stream:
`rtspCode` is how it tells them apart. The time, the name of the server and the reason phrases are
parameters.
-/

namespace StreamSwitch.RtspOutput

open RtspInput

/-! ## What a client reads -/

/-- What stands on the connection: a packet of a channel, or a message of lines and a body. -/
inductive Message
  | frame (channel : UInt8) (data : Bytes)
  | text (lines : List Bytes) (body : Bytes)
deriving DecidableEq, Repr

/-- The first line and what is behind it. -/
def splitLine : Bytes → Option (Bytes × Bytes)
  | [] => none
  | b :: rest =>
    if b = 13 ∧ rest.head? = some 10 then some ([], rest.tail)
    else (splitLine rest).map fun lr => (b :: lr.1, lr.2)

/-- The lines up to the first empty one; `fuel` bounds their number. -/
def headLines : Nat → Bytes → Option (List Bytes × Bytes)
  | 0, _ => none
  | fuel + 1, bs =>
    (splitLine bs).bind fun lr =>
      if lr.1 = [] then some ([], lr.2)
      else (headLines fuel lr.2).map fun ls => (lr.1 :: ls.1, ls.2)

/-- The value of a `Content-Length` header. -/
def lengthOf (line : Bytes) : Option Nat :=
  let name := line.takeWhile (· ≠ 58)
  let value := (line.drop (name.length + 1)).dropWhile isBlank
  if name.map lower = contentLength.map lower then some (digitsValue (value.takeWhile isDigit))
  else none

def bodyLength (lines : List Bytes) : Nat := (lines.findSome? lengthOf).getD 0

/-- `n` bytes for the body. -/
def takeBody (n : Nat) (make : Bytes → Message) (rest : Bytes) : Option (Message × Bytes) :=
  if n ≤ rest.length then some (make (rest.take n), rest.drop n) else none

def readFrame : Bytes → Option (Message × Bytes)
  | _ :: channel :: hi :: lo :: rest => takeBody (hi.toNat * 256 + lo.toNat) (.frame channel) rest
  | _ => none

def readMessage (bs : Bytes) : Option (Message × Bytes) :=
  if bs.head? = some 36 then readFrame bs
  else (headLines bs.length bs).bind fun ls => takeBody (bodyLength ls.1) (.text ls.1) ls.2

def Message.bytes : Message → Bytes
  | .frame channel data =>
    36 :: channel :: UInt8.ofNat (data.length / 256) :: UInt8.ofNat (data.length % 256) :: data
  | .text lines body => joinLines lines ++ crlf ++ body

/-- A line with something in it. -/
structure LineText (l : Bytes) : Prop where
  filled : l ≠ []
  noFeed : 10 ∉ l

structure TextOk (lines : List Bytes) (body : Bytes) : Prop where
  text : ∀ l ∈ lines, LineText l
  start : ∃ l ls, lines = l :: ls ∧ l.head? ≠ some 36
  length : bodyLength lines = body.length

def Message.Valid : Message → Prop
  | .frame _ data => data.length < 65536
  | .text lines body => TextOk lines body

/-! ## Reading what was written -/

/-- A carriage return in a line is no line end. -/
theorem not_lineEnd {l : Bytes} (h : 10 ∉ l) (rest : Bytes) (b : UInt8) :
    ¬(b = 13 ∧ (l ++ 13 :: rest).head? = some 10) := by
  rintro ⟨-, hhead⟩
  cases l with
  | nil => cases hhead
  | cons c l => exact h ((Option.some.inj hhead) ▸ List.mem_cons_self)

theorem splitLine_line {l : Bytes} (h : 10 ∉ l) (rest : Bytes) :
    splitLine (l ++ crlf ++ rest) = some (l, rest) := by
  induction l with
  | nil => rfl
  | cons b l ih =>
    have hl := fun hmem => h (List.mem_cons_of_mem b hmem)
    have hb := not_lineEnd hl (10 :: rest) b
    have hrest := ih hl
    simp only [crlf, List.append_assoc, List.cons_append, List.nil_append] at hrest ⊢
    rw [splitLine, if_neg hb, hrest, Option.map_some]

/-- A line end that is cut off. -/
theorem splitLine_crlf_part {part : Bytes} (hpart : part <+: crlf) (hne : part ≠ crlf) :
    splitLine part = none := by
  rcases List.prefix_cons_iff.1 hpart with rfl | ⟨t, rfl, ht⟩
  · rfl
  rcases List.prefix_cons_iff.1 ht with rfl | ⟨u, rfl, hu⟩
  · rfl
  · exact absurd (by rw [List.prefix_nil.1 hu]; rfl) hne

/-- Nothing is read before the line feed. -/
theorem splitLine_part {l part : Bytes} (h : 10 ∉ l) (hpart : part <+: l ++ crlf)
    (hne : part ≠ l ++ crlf) : splitLine part = none := by
  induction l generalizing part with
  | nil => exact splitLine_crlf_part hpart hne
  | cons b l ih =>
    cases part with
    | nil => rfl
    | cons a part =>
      rw [List.cons_append] at hpart hne
      obtain ⟨rfl, hin⟩ := List.cons_prefix_cons.1 hpart
      have hl := fun hmem => h (List.mem_cons_of_mem a hmem)
      have hrest := ih hl hin fun heq => hne (congrArg (List.cons a) heq)
      have ha : ¬(a = 13 ∧ part.head? = some 10) := by
        rintro ⟨rfl, hhead⟩
        obtain ⟨t, ht⟩ := hin
        refine not_lineEnd hl [10] 13 ⟨rfl, ?_⟩
        have happ : (part ++ t).head? = some 10 := by rw [List.head?_append, hhead]; rfl
        rw [ht] at happ
        exact happ
      rw [splitLine, if_neg ha, hrest, Option.map_none]

theorem joinLines_cons_crlf (l : Bytes) (lines : List Bytes) (rest : Bytes) :
    joinLines (l :: lines) ++ rest = l ++ crlf ++ (joinLines lines ++ rest) := by
  simp [joinLines]

theorem headLines_lines {lines : List Bytes} (h : ∀ l ∈ lines, LineText l) (rest : Bytes) {fuel : Nat}
    (hfuel : lines.length < fuel) :
    headLines fuel (joinLines lines ++ (crlf ++ rest)) = some (lines, rest) := by
  induction lines generalizing fuel with
  | nil =>
    obtain ⟨fuel, rfl⟩ := Nat.exists_eq_succ_of_ne_zero (Nat.ne_zero_of_lt hfuel)
    rfl
  | cons l lines ih =>
    obtain ⟨fuel, rfl⟩ := Nat.exists_eq_succ_of_ne_zero (Nat.ne_zero_of_lt hfuel)
    have hl := h l List.mem_cons_self
    have hsplit := splitLine_line hl.noFeed (joinLines lines ++ (crlf ++ rest))
    have hrest := ih (fun l' hl' => h l' (List.mem_cons_of_mem l hl'))
      (Nat.lt_of_succ_lt_succ hfuel)
    rw [joinLines_cons_crlf]
    simp only [headLines, hsplit, Option.bind_some, hl.filled, if_false, hrest, Option.map_some]

/-- Of a part of the head, the empty line is missing. -/
theorem headLines_part {lines : List Bytes} (h : ∀ l ∈ lines, LineText l) {part : Bytes}
    (hpart : part <+: joinLines lines ++ crlf) (hne : part ≠ joinLines lines ++ crlf) (fuel : Nat) :
    headLines fuel part = none := by
  induction lines generalizing fuel part with
  | nil =>
    cases fuel with
    | zero => rfl
    | succ fuel =>
      rw [headLines, splitLine_crlf_part hpart hne, Option.bind_none]
  | cons l lines ih =>
    cases fuel with
    | zero => rfl
    | succ fuel =>
      have hl := h l List.mem_cons_self
      rw [joinLines_cons_crlf] at hpart hne
      by_cases hin : part <+: l ++ crlf ∧ part ≠ l ++ crlf
      · rw [headLines, splitLine_part hl.noFeed hin.1 hin.2, Option.bind_none]
      -- the line is there, so the part ends behind it
      obtain ⟨t, rfl⟩ : l ++ crlf <+: part := by
        rcases List.prefix_or_prefix_of_prefix hpart (List.prefix_append (l ++ crlf) _) with hp | hp
        · rw [not_and_not_right.1 hin hp]
        · exact hp
      have hrest := ih (fun l' hl' => h l' (List.mem_cons_of_mem l hl'))
        ((List.prefix_append_right_inj _).1 hpart) (fun heq => hne (by rw [heq])) fuel
      rw [headLines, splitLine_line hl.noFeed t, Option.bind_some, if_neg hl.filled, hrest,
        Option.map_none]

/-! ## The code -/

theorem takeBody_append (make : Bytes → Message) (body rest : Bytes) :
    takeBody body.length make (body ++ rest) = some (make body, rest) := by
  simp [takeBody]

theorem takeBody_short (make : Bytes → Message) {n : Nat} {rest : Bytes} (h : rest.length < n) :
    takeBody n make rest = none := by
  simp [takeBody, Nat.not_le.2 h]

theorem lengthBytes {n : Nat} (h : n < 65536) :
    (UInt8.ofNat (n / 256)).toNat * 256 + (UInt8.ofNat (n % 256)).toNat = n := by
  simp only [UInt8.toNat_ofNat']
  omega

theorem readMessage_frame (channel : UInt8) {data : Bytes} (h : data.length < 65536) (rest : Bytes) :
    readMessage ((Message.frame channel data).bytes ++ rest) = some (.frame channel data, rest) := by
  simp only [Message.bytes, List.cons_append, readMessage, readFrame, List.head?_cons, if_true,
    lengthBytes h]
  exact takeBody_append _ data rest

theorem TextOk.head?_ne {lines : List Bytes} {body : Bytes} (h : TextOk lines body) (rest : Bytes) :
    (joinLines lines ++ rest).head? ≠ some 36 := by
  obtain ⟨l, ls, rfl, hl⟩ := h.start
  have hne := (h.text l List.mem_cons_self).filled
  rw [joinLines_cons_crlf, List.append_assoc, head?_append hne]
  exact hl

theorem readMessage_text {lines : List Bytes} {body : Bytes} (h : TextOk lines body) (rest : Bytes) :
    readMessage ((Message.text lines body).bytes ++ rest) = some (.text lines body, rest) := by
  have hbytes : (Message.text lines body).bytes ++ rest = joinLines lines ++ (crlf ++ (body ++ rest)) := by
    simp [Message.bytes]
  have hfuel : lines.length < (joinLines lines ++ (crlf ++ (body ++ rest))).length := by
    have hlen := length_le_joinLines lines
    simp only [List.length_append, crlf, List.length_cons, List.length_nil]
    omega
  rw [hbytes, readMessage, if_neg (h.head?_ne _), headLines_lines h.text _ hfuel, Option.bind_some]
  exact h.length ▸ takeBody_append _ body rest

theorem readMessage_frame_part {channel : UInt8} {data part : Bytes} (h : data.length < 65536)
    (hpart : part <+: (Message.frame channel data).bytes)
    (hne : part ≠ (Message.frame channel data).bytes) : readMessage part = none := by
  obtain ⟨t, ht⟩ := hpart
  match part, ht with
  | [], _ => rfl
  | [a], ht | [a, b], ht | [a, b, c], ht =>
    obtain rfl : a = 36 := by simpa [Message.bytes] using (List.cons.inj ht).1
    rfl
  | a :: b :: c :: d :: part, ht =>
    simp only [Message.bytes, List.cons_append, List.cons.injEq] at ht
    obtain ⟨rfl, rfl, rfl, rfl, rfl⟩ := ht
    have ht : 0 < t.length := List.length_pos_iff.2 fun h => hne (by simp [h, Message.bytes])
    simp only [readMessage, readFrame, List.head?_cons, if_true, lengthBytes h]
    exact takeBody_short _ (by rw [List.length_append]; omega)

theorem readMessage_text_part {lines : List Bytes} {body part : Bytes} (h : TextOk lines body)
    (hpart : part <+: (Message.text lines body).bytes)
    (hne : part ≠ (Message.text lines body).bytes) : readMessage part = none := by
  rcases eq_or_ne part [] with rfl | hfilled
  · rfl
  have hhead : part.head? ≠ some 36 := by
    obtain ⟨t, ht⟩ := hpart
    rw [← head?_append hfilled t, ht, Message.bytes, List.append_assoc]
    exact h.head?_ne _
  rw [readMessage, if_neg hhead]
  by_cases hin : part <+: joinLines lines ++ crlf ∧ part ≠ joinLines lines ++ crlf
  · rw [headLines_part h.text hin.1 hin.2, Option.bind_none]
  -- the head is complete, so the body is not
  obtain ⟨t, rfl⟩ : joinLines lines ++ crlf <+: part := by
    rcases List.prefix_or_prefix_of_prefix hpart (List.prefix_append _ body) with hp | hp
    · rw [not_and_not_right.1 hin hp]
    · exact hp
  have ht := (List.prefix_append_right_inj _).1 hpart
  have hlt : t.length < body.length := by
    refine Nat.lt_of_le_of_ne ht.length_le fun heq => hne ?_
    rw [ht.eq_of_length heq, Message.bytes]
  have hfuel : lines.length < (joinLines lines ++ crlf ++ t).length := by
    have hlen := length_le_joinLines lines
    simp only [List.length_append, crlf, List.length_cons, List.length_nil]
    omega
  rw [List.append_assoc] at hfuel ⊢
  rw [headLines_lines h.text t hfuel, Option.bind_some]
  exact takeBody_short _ (h.length ▸ hlt)

/-- The messages on a connection. -/
def rtspCode : StreamCode UInt8 Message where
  Valid := Message.Valid
  write := Message.bytes
  read := readMessage
  write_ne_nil m := by cases m <;> simp [Message.bytes, crlf]
  read_write m rest h := by
    cases m with
    | frame channel data => exact readMessage_frame channel h rest
    | text lines body => exact readMessage_text h rest
  read_part m part h hpart hne := by
    cases m with
    | frame channel data => exact readMessage_frame_part h hpart hne
    | text lines body => exact readMessage_text_part h hpart hne
  read_nil := rfl

/-! ## The responses -/

/-- `g_hash_table_insert`. -/
def insertHeader (headers : List (Bytes × Bytes)) (name value : Bytes) : List (Bytes × Bytes) :=
  headers.filter (·.1 ≠ name) ++ [(name, value)]

/-- `g_hash_table_lookup`: of the headers of one name, the last one is in the table. -/
def lookupHeader (headers : List (Bytes × Bytes)) (name : Bytes) : Option Bytes :=
  (headers.reverse.find? (·.1 = name)).map (·.2)

/-- `RTSP_Response`. -/
structure Response where
  status : Nat
  headers : List (Bytes × Bytes)
  body : Option Bytes := none
deriving DecidableEq, Repr

/-- The server and the time at which it answers. -/
structure Host where
  server : Bytes
  date : Bytes

/-- A header of the request that is repeated. -/
def copyHeader (req : List (Bytes × Bytes)) (name : Bytes) (headers : List (Bytes × Bytes)) :
    List (Bytes × Bytes) :=
  match lookupHeader req name with
  | some value => insertHeader headers name value
  | none => headers

def rtspResponseNew (host : Host) (req : List (Bytes × Bytes)) (code : Nat) : Response where
  status := code
  headers :=
    let headers := insertHeader [] (ascii "Server") host.server
    let headers := insertHeader headers (ascii "Date") host.date
    let headers := copyHeader req (ascii "CSeq") headers
    let headers := copyHeader req (ascii "Session") headers
    copyHeader req (ascii "Timestamp") headers

def Response.insert (r : Response) (name value : Bytes) : Response :=
  { r with headers := insertHeader r.headers name value }

/-- `"%d"` of a number that is not negative. -/
def digits (n : Nat) : Bytes := (decimal n).map fun c => UInt8.ofNat c.toNat

/-- `rtsp_response_append_headers`, without the line end. -/
def headerLine (h : Bytes × Bytes) : Bytes := h.1 ++ 58 :: 32 :: h.2

/-- The C string in a `GString`. -/
def cText (s : Bytes) : Bytes := s.takeWhile (· ≠ 0)

def statusLine (reasonPhrase : Nat → Bytes) (status : Nat) : Bytes :=
  ascii "RTSP/1.0 " ++ digits status ++ 32 :: reasonPhrase status

/-- `rtsp_response_send`, where the headers come in the order of the table. -/
def rtspResponseSend (reasonPhrase : Nat → Bytes) (r : Response) : Bytes :=
  let str := statusLine reasonPhrase r.status ++ crlf
  let str := str ++ joinLines (r.headers.map headerLine)
  let str :=
    match r.body with
    | some body => str ++ headerLine (contentLength, digits (body.length + 2)) ++ crlf
    | none => str
  let str := str ++ crlf
  match r.body with
  | some body => str ++ cText body ++ crlf
  | none => str

/-- `rtsp_quick_response`. -/
def rtspQuickResponse (host : Host) (req : List (Bytes × Bytes)) (code : Nat) : Response :=
  rtspResponseNew host req code

/-- `send_describe_reply`. -/
def sendDescribeReply (host : Host) (req : Request) (descr : Bytes) : Response :=
  let response := { rtspResponseNew host req.headers 200 with body := some descr }
  (response.insert (ascii "Content-Type") (ascii "application/sdp")).insert (ascii "Content-Base")
    (req.line.object ++ ascii "/")

/-- `send_get_parameter_reply`. -/
def sendGetParameterReply (host : Host) (req : Request) (descr : Option Bytes) : Response :=
  { rtspResponseNew host req.headers 200 with body := descr }.insert (ascii "Content-Type")
    (ascii "text/parameters")

/-- `RTSP_options`. -/
def rtspOptions (host : Host) (req : Request) : Response :=
  (rtspResponseNew host req.headers 200).insert (ascii "Public")
    (ascii "OPTIONS,DESCRIBE,SETUP,PLAY,PAUSE,TEARDOWN,GET_PARAMETER")

/-! ## Responses are messages -/

/-- The name of a header, and not of the one that says how long the body is. -/
def NameOk (name : Bytes) : Prop :=
  58 ∉ name ∧ 10 ∉ name ∧ name.map lower ≠ contentLength.map lower

instance (name : Bytes) : Decidable (NameOk name) := inferInstanceAs (Decidable (_ ∧ _ ∧ _))

/-- A header that is one line. -/
structure HeaderOk (h : Bytes × Bytes) : Prop where
  name : NameOk h.1
  value : 10 ∉ h.2

structure Response.Sound (r : Response) : Prop where
  headers : ∀ h ∈ r.headers, HeaderOk h
  body : ∀ b ∈ r.body, 0 ∉ b

theorem isDigit_of_char {c : Char} (h : c.isDigit = true) :
    isDigit (UInt8.ofNat c.toNat) = true ∧ (UInt8.ofNat c.toNat).toNat = c.toNat := by
  have hc : 48 ≤ c.toNat ∧ c.toNat ≤ 57 := by
    simpa [Char.isDigit, UInt32.le_iff_toNat_le] using h
  have hbyte : (UInt8.ofNat c.toNat).toNat = c.toNat := by
    rw [UInt8.toNat_ofNat']
    omega
  refine ⟨?_, hbyte⟩
  simp only [isDigit, Bool.and_eq_true, decide_eq_true_eq, UInt8.le_iff_toNat_le, hbyte]
  exact hc

theorem digits_isDigit (n : Nat) : ∀ b ∈ digits n, isDigit b = true := by
  intro b hb
  obtain ⟨c, hc, rfl⟩ := List.mem_map.1 hb
  rw [decimal_ofNat] at hc
  exact (isDigit_of_char (Nat.isDigit_of_mem_toDigits (by decide) (by decide) hc)).1

theorem digitsValue_digits (n : Nat) : digitsValue (digits n) = n := by
  have hfold : ∀ (cs : List Char) (init : Nat), (∀ c ∈ cs, c.isDigit = true) →
      (cs.map fun c => UInt8.ofNat c.toNat).foldl (fun n b => n * 10 + (b.toNat - 48)) init =
        Nat.ofDigitChars 10 cs init := by
    intro cs
    induction cs with
    | nil => exact fun _ _ => rfl
    | cons c cs ih =>
      intro init hcs
      have hc := (isDigit_of_char (hcs c List.mem_cons_self)).2
      rw [List.map_cons, List.foldl_cons, hc, Nat.ofDigitChars_cons, Nat.mul_comm]
      exact ih _ fun d hd => hcs d (List.mem_cons_of_mem c hd)
  unfold digitsValue digits
  rw [decimal_ofNat, hfold _ 0 fun c hc => Nat.isDigit_of_mem_toDigits (by decide) (by decide) hc]
  exact Nat.ofDigitChars_ten_toDigits

/-- The lines of a response, with the length of its body. -/
def Response.lines (reasonPhrase : Nat → Bytes) (r : Response) : List Bytes :=
  statusLine reasonPhrase r.status ::
    (r.headers.map headerLine ++
      r.body.toList.map fun b => headerLine (contentLength, digits (b.length + 2)))

/-- The body with the line end behind it. -/
def Response.content (r : Response) : Bytes := (r.body.map fun b => cText b ++ crlf).getD []

def Response.message (reasonPhrase : Nat → Bytes) (r : Response) : Message :=
  .text (r.lines reasonPhrase) r.content

variable {reasonPhrase : Nat → Bytes} {r : Response}

theorem rtspResponseSend_eq (reasonPhrase : Nat → Bytes) (r : Response) :
    rtspResponseSend reasonPhrase r = (r.message reasonPhrase).bytes := by
  cases hbody : r.body with
  | none => simp [rtspResponseSend, Response.message, Response.lines, Response.content, Message.bytes,
      joinLines, hbody]
  | some b => simp [rtspResponseSend, Response.message, Response.lines, Response.content,
      Message.bytes, joinLines, hbody]

theorem cText_eq {b : Bytes} (h : 0 ∉ b) : cText b = b := by
  unfold cText
  rw [List.takeWhile_eq_self_iff]
  intro c hc
  exact decide_eq_true fun heq => h (heq ▸ hc)

theorem name_headerLine {h : Bytes × Bytes} (hname : 58 ∉ h.1) :
    (headerLine h).takeWhile (· ≠ 58) = h.1 := by
  have hall : ∀ b ∈ h.1, decide (b ≠ 58) = true := fun b hb =>
    decide_eq_true fun heq => hname (heq ▸ hb)
  rw [headerLine, List.takeWhile_append_of_pos hall]
  simp

theorem lengthOf_headerLine {h : Bytes × Bytes} (hok : HeaderOk h) : lengthOf (headerLine h) = none := by
  simp only [lengthOf, name_headerLine hok.name.1]
  exact if_neg hok.name.2.2

theorem lengthOf_contentLength (n : Nat) :
    lengthOf (headerLine (contentLength, digits n)) = some n := by
  have hcolon : 58 ∉ contentLength := by decide
  have hname := name_headerLine (h := (contentLength, digits n)) hcolon
  have hdrop : (headerLine (contentLength, digits n)).drop (contentLength.length + 1) =
      32 :: digits n := by
    rfl
  have hblank : (32 :: digits n).dropWhile isBlank = digits n := by
    rw [List.dropWhile_cons_of_pos (by decide)]
    refine List.dropWhile_eq_self_iff.2 fun hpos => ?_
    have hd := digits_isDigit n _ (List.getElem_mem hpos)
    intro hb
    simp only [isDigit, Bool.and_eq_true, decide_eq_true_eq, isBlank, Bool.or_eq_true] at hd hb
    rcases hb with hb | hb <;> simp [hb] at hd
  have hdigits : (digits n).takeWhile isDigit = digits n :=
    List.takeWhile_eq_self_iff.2 (digits_isDigit n)
  simp only [lengthOf, hname, hdrop, hblank, hdigits, digitsValue_digits, if_true]

theorem lengthOf_statusLine (reasonPhrase : Nat → Bytes) (status : Nat) :
    lengthOf (statusLine reasonPhrase status) = none := by
  have hline : ∃ rest, statusLine reasonPhrase status = 82 :: rest := ⟨_, rfl⟩
  obtain ⟨rest, hrest⟩ := hline
  rw [hrest, lengthOf, List.takeWhile_cons_of_pos (by decide), if_neg]
  intro h
  exact absurd (List.cons.inj h).1 (by decide)

theorem bodyLength_lines (h : r.Sound) : bodyLength (r.lines reasonPhrase) = r.content.length := by
  have hheaders : (r.headers.map headerLine).findSome? lengthOf = none := by
    rw [List.findSome?_eq_none_iff]
    intro l hl
    obtain ⟨header, hmem, rfl⟩ := List.mem_map.1 hl
    exact lengthOf_headerLine (h.headers header hmem)
  unfold bodyLength Response.lines Response.content
  rw [List.findSome?_cons, lengthOf_statusLine]
  simp only [List.findSome?_append, hheaders, Option.none_or]
  cases hbody : r.body with
  | none => rfl
  | some b =>
    have hb := cText_eq (h.body b hbody)
    simp [lengthOf_contentLength, hb, crlf]

theorem LineText.header {h : Bytes × Bytes} (hname : 10 ∉ h.1) (hvalue : 10 ∉ h.2) :
    LineText (headerLine h) := by
  refine ⟨by simp [headerLine], fun hmem => ?_⟩
  simp only [headerLine, List.mem_append, List.mem_cons] at hmem
  rcases hmem with hmem | hmem | hmem | hmem
  · exact hname hmem
  · exact absurd hmem (by decide)
  · exact absurd hmem (by decide)
  · exact hvalue hmem

theorem feed_notMem_digits (n : Nat) : 10 ∉ digits n := fun h =>
  absurd (digits_isDigit n 10 h) (by decide)

theorem LineText.status (hreason : ∀ n, 10 ∉ reasonPhrase n) (status : Nat) :
    LineText (statusLine reasonPhrase status) := by
  refine ⟨by simp [statusLine], fun hmem => ?_⟩
  simp only [statusLine, List.append_assoc, List.mem_append, List.mem_cons] at hmem
  rcases hmem with hmem | hmem | hmem | hmem
  · exact absurd hmem (by decide)
  · exact feed_notMem_digits status hmem
  · exact absurd hmem (by decide)
  · exact hreason status hmem

theorem head?_statusLine (reasonPhrase : Nat → Bytes) (status : Nat) :
    (statusLine reasonPhrase status).head? ≠ some 36 := by
  have hhead : (statusLine reasonPhrase status).head? = some 82 := rfl
  rw [hhead]
  decide

/-- A client reads a sound response, and the body is as long as it is said to be. -/
theorem Response.Sound.valid (h : r.Sound) (hreason : ∀ n, 10 ∉ reasonPhrase n) :
    (r.message reasonPhrase).Valid := by
  refine ⟨fun l hl => ?_, ⟨_, _, rfl, head?_statusLine _ _⟩, bodyLength_lines h⟩
  rcases List.mem_cons.1 hl with rfl | hl
  · exact .status hreason r.status
  rcases List.mem_append.1 hl with hl | hl
  · obtain ⟨header, hmem, rfl⟩ := List.mem_map.1 hl
    exact .header (h.headers header hmem).name.2.1 (h.headers header hmem).value
  · obtain ⟨b, -, rfl⟩ := List.mem_map.1 hl
    have hfeed : 10 ∉ contentLength := by decide
    exact .header hfeed (feed_notMem_digits _)

/-! ## What is repeated of a request -/

theorem sound_insertHeader {headers : List (Bytes × Bytes)} {name value : Bytes}
    (h : ∀ x ∈ headers, HeaderOk x) (hok : HeaderOk (name, value)) :
    ∀ x ∈ insertHeader headers name value, HeaderOk x := by
  intro x hx
  rcases List.mem_append.1 hx with hx | hx
  · exact h x (List.mem_filter.1 hx).1
  · rw [List.mem_singleton.1 hx]
    exact hok

/-- The values of the headers of a request hold no line feed. -/
def ValuesOk (req : List (Bytes × Bytes)) : Prop := ∀ h ∈ req, 10 ∉ h.2

theorem sound_copyHeader {req headers : List (Bytes × Bytes)} {name : Bytes} (hreq : ValuesOk req)
    (hname : NameOk name) (h : ∀ x ∈ headers, HeaderOk x) :
    ∀ x ∈ copyHeader req name headers, HeaderOk x := by
  unfold copyHeader lookupHeader
  cases hfind : req.reverse.find? (·.1 = name) with
  | none => exact h
  | some found =>
    have hmem := List.mem_reverse.1 (List.mem_of_find?_eq_some hfind)
    exact sound_insertHeader h ⟨hname, hreq found hmem⟩

structure Host.Ok (host : Host) : Prop where
  server : 10 ∉ host.server
  date : 10 ∉ host.date

theorem nameOk_server : NameOk (ascii "Server") := by decide

theorem nameOk_date : NameOk (ascii "Date") := by decide

theorem sound_rtspResponseNew {host : Host} (hhost : host.Ok) {req : List (Bytes × Bytes)}
    (hreq : ValuesOk req) (code : Nat) : (rtspResponseNew host req code).Sound := by
  have hserver : ∀ x ∈ insertHeader [] (ascii "Server") host.server, HeaderOk x :=
    sound_insertHeader (fun _ h => absurd h List.not_mem_nil) ⟨nameOk_server, hhost.server⟩
  have hdate : ∀ x ∈ insertHeader _ (ascii "Date") host.date, HeaderOk x :=
    sound_insertHeader hserver ⟨nameOk_date, hhost.date⟩
  have hcseq := sound_copyHeader hreq (by decide : NameOk (ascii "CSeq")) hdate
  have hsession := sound_copyHeader hreq (by decide : NameOk (ascii "Session")) hcseq
  refine ⟨sound_copyHeader hreq (by decide : NameOk (ascii "Timestamp")) hsession, fun b hb => ?_⟩
  cases hb

theorem Response.Sound.insert (h : r.Sound) {name value : Bytes} (hname : NameOk name)
    (hvalue : 10 ∉ value) : (r.insert name value).Sound :=
  ⟨sound_insertHeader h.headers ⟨hname, hvalue⟩, h.body⟩

theorem Response.Sound.withBody (h : r.Sound) {body : Option Bytes} (hbody : ∀ b ∈ body, 0 ∉ b) :
    { r with body }.Sound :=
  ⟨h.headers, hbody⟩

/-! ## The parser keeps line feeds out -/

/-- The values of the parser hold no line feed. -/
structure FeedFree (p : HeaderParser) : Prop where
  value : 10 ∉ p.value
  table : ValuesOk p.table

theorem feed_ne_of_isPrintable {c : UInt8} (h : isPrintable c = true) : c ≠ 10 := by
  rintro rfl
  exact absurd h (by decide)

theorem FeedFree.insert {p : HeaderParser} (h : FeedFree p) : FeedFree p.insert := by
  refine ⟨h.value, fun x hx => ?_⟩
  rcases List.mem_append.1 hx with hx | hx
  · exact h.table x hx
  · rw [List.mem_singleton.1 hx]
    exact h.value

theorem FeedFree.step {p q : HeaderParser} {c : UInt8} (h : FeedFree p) (hstep : p.step c = some q) :
    FeedFree q := by
  have hinsert := h.insert
  obtain ⟨hvalue, htable⟩ := h
  cases hstate : p.state
  all_goals simp only [HeaderParser.step, hstate] at hstep
  case space =>
    split_ifs at hstep with hc
    cases hstep
    refine ⟨?_, htable⟩
    simpa using (feed_ne_of_isPrintable hc).symm
  case value =>
    split_ifs at hstep with hlf hcr hc
    all_goals cases hstep
    · exact hinsert
    · exact ⟨hvalue, htable⟩
    · refine ⟨?_, htable⟩
      simpa [hvalue] using (feed_ne_of_isPrintable hc).symm
  case done => cases hstep
  all_goals
    split_ifs at hstep
    all_goals
      cases hstep
      first | exact hinsert | exact ⟨hvalue, htable⟩

theorem FeedFree.run {p : HeaderParser} (h : FeedFree p) {n k : Nat} {s : Bytes}
    {headers : List (Bytes × Bytes)} (hrun : p.run n s = some (k, headers)) : ValuesOk headers := by
  induction s generalizing p n with
  | nil =>
    simp only [HeaderParser.run] at hrun
    split_ifs at hrun
    cases hrun
    exact h.table
  | cons c s ih =>
    simp only [HeaderParser.run] at hrun
    split_ifs at hrun
    · cases hrun
      exact h.table
    · obtain ⟨q, hstep, hrest⟩ := Option.bind_eq_some_iff.1 hrun
      exact ih (h.step hstep) hrest

theorem valuesOk_erisParseHeaders {s : Bytes} {k : Nat} {headers : List (Bytes × Bytes)}
    (h : erisParseHeaders s = some (k, headers)) : ValuesOk headers :=
  FeedFree.run ⟨List.not_mem_nil, fun _ hx => absurd hx List.not_mem_nil⟩ h

theorem field_eq {stop : UInt8 → Bool} {line f rest : Bytes} (h : field stop line = some (f, rest)) :
    line = f ++ rest ∧ rest ≠ [] := by
  unfold field at h
  dsimp only at h
  split_ifs at h with hlen
  obtain ⟨rfl, rfl⟩ := Prod.mk.inj (Option.some.inj h)
  obtain ⟨t, ht⟩ := List.takeWhile_prefix (fun b => !stop b) (l := line)
  refine ⟨?_, ?_⟩
  · nth_rewrite 1 [← ht]
    rw [List.append_cancel_left_eq]
    nth_rewrite 2 [← ht]
    rw [List.drop_left]
  · intro hnil
    have := List.drop_eq_nil_iff.1 hnil
    omega

/-- Of a line that ends with its only line feed, no field holds it. -/
theorem feed_notMem_field {l pre f rest : Bytes} (hl : 10 ∉ l) (h : l ++ [10] = pre ++ (f ++ rest))
    (hrest : rest ≠ []) : 10 ∉ f := by
  intro hf
  obtain ⟨rest, b, rfl⟩ := List.eq_nil_or_concat rest |>.resolve_left hrest
  rw [List.concat_eq_append, ← List.append_assoc, ← List.append_assoc] at h
  have hinit := (List.append_inj' h rfl).1
  exact hl (hinit ▸ by simp [hf])

/-- What stands before the first line feed. -/
theorem exists_feed {msg : Bytes} (h : (msg.takeWhile (· ≠ 10)).length ≠ msg.length) :
    ∃ l t, 10 ∉ l ∧ msg.takeWhile (· ≠ 10) = l ∧ msg = l ++ 10 :: t := by
  induction msg with
  | nil => exact absurd rfl h
  | cons b msg ih =>
    by_cases hb : b = 10
    · subst hb
      exact ⟨[], msg, List.not_mem_nil, rfl, rfl⟩
    · have htake : (b :: msg).takeWhile (· ≠ 10) = b :: msg.takeWhile (· ≠ 10) :=
        List.takeWhile_cons_of_pos (decide_eq_true hb)
      obtain ⟨l, t, hl, hwhile, hmsg⟩ := ih fun heq => h (htake ▸ congrArg Nat.succ heq)
      refine ⟨b :: l, t, ?_, by rw [htake, hwhile], by rw [hmsg]; rfl⟩
      exact List.not_mem_cons_of_ne_of_not_mem (Ne.symm hb) hl

theorem feed_notMem_object {msg : Bytes} {line : RequestLine} {n : Nat}
    (h : parseRequestLine msg = some (line, n)) : 10 ∉ line.object := by
  unfold parseRequestLine at h
  simp only at h
  split_ifs at h with hlen
  obtain ⟨fields, hfields, heq⟩ := Option.map_eq_some_iff.1 h
  obtain ⟨rfl, -⟩ := Prod.mk.inj heq
  obtain ⟨l, t, hl, hwhile, hmsg⟩ := exists_feed hlen
  have htake : msg.take ((msg.takeWhile (· ≠ 10)).length + 1) = l ++ [10] := by
    rw [hwhile, hmsg, List.take_append, List.take_of_length_le (Nat.le_succ _),
      Nat.add_sub_cancel_left]
    rfl
  rw [htake] at hfields
  unfold requestFields at hfields
  simp only [Option.bind_eq_bind, Option.bind_eq_some_iff, Option.pure_def] at hfields
  obtain ⟨⟨method, rest⟩, hmethod, ⟨object, rest'⟩, hobject, ⟨version, rest''⟩, -, heq⟩ := hfields
  cases heq
  obtain ⟨hfirst, -⟩ := field_eq hmethod
  obtain ⟨hsecond, hne⟩ := field_eq hobject
  have hline : l ++ [10] = (method ++ rest.takeWhile isBlank) ++ (object ++ rest') := by
    rw [hfirst, List.append_assoc, ← hsecond]
    exact congrArg _ List.takeWhile_append_dropWhile.symm
  exact feed_notMem_field hl hline hne

end StreamSwitch.RtspOutput
