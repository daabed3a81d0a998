import StreamSwitch.RtspPort.MessageEnd

/-!
# The messages that are handed on

The parsers stop at the empty line: what they make of a header block does not depend on what
follows it, and only the body does (`rtspParseRequest_eq`). With the end of every message
(`MessageEnd`) a turn of `RTSP_handler` takes one message off the buffer, a call takes those that
are complete (`handlerLoop_frame`), and the calls after all reads take the whole stream
(`messages_handed_on`).
-/

namespace StreamSwitch.RtspInput

/-! ## The headers -/

namespace HeaderParser

/-- The automaton stands in a line. -/
def InLine (p : HeaderParser) : Prop :=
  p.state = .name ∨ p.state = .colon ∨ p.state = .space ∨ p.state = .value

theorem InLine.not_done {p : HeaderParser} (h : p.InLine) : p.state ≠ .done := by
  rcases h with h | h | h | h <;> simp [h]

/-- A character of a line leads into the line. -/
theorem step_inLine {p q : HeaderParser} {c : UInt8} (hc : isEol c = false) (h : p.step c = some q) :
    q.InLine := by
  simp only [isEol, Bool.or_eq_false_iff, decide_eq_false_iff_not] at hc
  cases hs : p.state <;> simp only [step, hs, hc, if_false] at h <;> grind [InLine]

theorem run_of_done {p : HeaderParser} (h : p.state = .done) (n : Nat) (x : Bytes) :
    p.run n x = some (n, p.table) := by
  cases x <;> simp [run, h]

theorem run_cons {p : HeaderParser} (h : p.state ≠ .done) (n : Nat) (c : UInt8) (x : Bytes) :
    p.run n (c :: x) = (p.step c).bind fun q => q.run (n + 1) x := by
  rw [run, if_neg h]

/-- The automaton on a part of a line: it fails whatever follows, or goes on behind it. -/
theorem run_inLine {p : HeaderParser} (hp : p.InLine) {l : Bytes} (hl : Plain l) :
    (∀ n x, p.run n (l ++ x) = none) ∨
      ∃ q : HeaderParser, q.InLine ∧ ∀ n x, p.run n (l ++ x) = q.run (n + l.length) x := by
  induction l generalizing p with
  | nil => exact .inr ⟨p, hp, fun _ _ => rfl⟩
  | cons c l ih =>
    have hrun := fun n x => run_cons hp.not_done n c (l ++ x)
    cases hs : p.step c with
    | none => exact .inl fun n x => by simp [hrun, hs]
    | some p' =>
      rcases ih (step_inLine (hl c (by simp)).2 hs) (hl.of_subset (by simp)) with h | ⟨q, hq, h⟩
      · exact .inl fun n x => by simp [hrun, hs, h]
      · refine .inr ⟨q, hq, fun n x => ?_⟩
        rw [List.cons_append, hrun, hs, Option.bind_some, h, List.length_cons, Nat.add_assoc,
          Nat.add_comm 1]

/-- The end of a line is read behind a value only. -/
theorem run_crlf {p : HeaderParser} (hp : p.InLine) :
    (∀ n x, p.run n (crlf ++ x) = none) ∨
      ∃ q : HeaderParser, q.state = .lineEnd ∧ ∀ n x, p.run n (crlf ++ x) = q.run (n + 2) x := by
  have hrun : ∀ n x, p.run n (crlf ++ x) = (p.step 13).bind fun q => q.run (n + 1) (10 :: x) :=
    fun n x => run_cons hp.not_done n 13 (10 :: x)
  rcases hp with h | h | h | h
  · exact .inl fun n x => by simp [hrun, step, h, isNameChar]
  · exact .inl fun n x => by simp [hrun, step, h]
  · exact .inl fun n x => by simp [hrun, step, h, isPrintable]
  · refine .inr ⟨{ p with state := .valueCr }.insert, rfl, fun n x => ?_⟩
    simp [hrun, step, h, run, insert]

/-- A line with its end. -/
theorem run_line {p : HeaderParser} (hp : p.state ≠ .done) {l : Bytes} (hl : LineOk l) :
    (∀ n x, p.run n (l ++ (crlf ++ x)) = none) ∨
      ∃ q : HeaderParser, q.state = .lineEnd ∧
        ∀ n x, p.run n (l ++ (crlf ++ x)) = q.run (n + l.length + 2) x := by
  obtain ⟨c, l, rfl⟩ := List.exists_cons_of_ne_nil hl.ne_nil
  have hrun := fun n x => run_cons hp n c (l ++ (crlf ++ x))
  cases hs : p.step c with
  | none => exact .inl fun n x => by simp [hrun, hs]
  | some p' =>
    have hin := step_inLine (hl.plain c (by simp)).2 hs
    rcases run_inLine hin (hl.plain.of_subset (List.subset_cons_self c l)) with h | ⟨q, hq, h⟩
    · exact .inl fun n x => by simp [hrun, hs, h]
    · rcases run_crlf hq with h' | ⟨q', hq', h'⟩
      · exact .inl fun n x => by simp [hrun, hs, h, h']
      · refine .inr ⟨q', hq', fun n x => ?_⟩
        rw [List.cons_append, hrun, hs, Option.bind_some, h, h', List.length_cons, Nat.add_assoc n,
          Nat.add_comm 1]

/-- The header lines and the empty line. -/
theorem run_lines {p : HeaderParser} (hp : p.state = .start ∨ p.state = .lineEnd) {ls : List Bytes}
    (hls : ∀ l ∈ ls, LineOk l) :
    (∀ n x, p.run n (joinLines ls ++ (crlf ++ x)) = none) ∨
      ∃ table, ∀ n x, p.run n (joinLines ls ++ (crlf ++ x)) =
        some (n + (joinLines ls ++ crlf).length, table) := by
  have hnd : p.state ≠ .done := by rcases hp with h | h <;> simp [h]
  induction ls generalizing p with
  | nil =>
    have hrun : ∀ n x, p.run n (joinLines [] ++ (crlf ++ x)) =
        (p.step 13).bind fun q => q.run (n + 1) (10 :: x) := fun n x => run_cons hnd n 13 (10 :: x)
    rcases hp with h | h
    · exact .inl fun n x => by simp [hrun, step, h, isNameChar]
    · refine .inr ⟨p.table, fun n x => ?_⟩
      rw [hrun]
      simp [step, h, run_cons, run_of_done, joinLines, crlf]
  | cons l ls ih =>
    have happ : ∀ x, joinLines (l :: ls) ++ (crlf ++ x) = l ++ (crlf ++ (joinLines ls ++ (crlf ++ x))) :=
      fun x => joinLines_cons l ls _
    rcases run_line hnd (hls l (by simp)) with h | ⟨q, hq, h⟩
    · exact .inl fun n x => by rw [happ, h]
    · rcases ih (.inr hq) (fun l hl => hls l (by simp [hl])) (by simp [hq]) with h' | ⟨table, h'⟩
      · exact .inl fun n x => by rw [happ, h, h']
      · refine .inr ⟨table, fun n x => ?_⟩
        rw [happ, h, h']
        simp [joinLines, crlf]
        omega

end HeaderParser

/-- The headers end with the empty line, whatever follows. -/
theorem erisParseHeaders_append {ls : List Bytes} (hls : ∀ l ∈ ls, LineOk l) (x : Bytes) :
    erisParseHeaders (joinLines ls ++ (crlf ++ x)) =
      (erisParseHeaders (joinLines ls ++ crlf)).map fun (_, headers) =>
        ((joinLines ls ++ crlf).length, headers) := by
  have hstart : ({} : HeaderParser).state = .start ∨ ({} : HeaderParser).state = .lineEnd := .inl rfl
  unfold erisParseHeaders
  rcases HeaderParser.run_lines hstart hls with h | ⟨table, h⟩
  · have hnil := h 0 []
    rw [List.append_nil] at hnil
    rw [h, hnil]
    rfl
  · have hnil := h 0 []
    rw [List.append_nil] at hnil
    rw [h, hnil, Nat.zero_add]
    rfl

/-! ## The request -/

/-- The request line ends at its line feed, whatever follows. -/
theorem parseRequestLine_append {l : Bytes} (hl : Plain l) (x : Bytes) :
    parseRequestLine (l ++ (crlf ++ x)) =
      (requestFields (l ++ crlf)).map fun line => (line, l.length + 2) := by
  have hline : (l ++ (crlf ++ x)).takeWhile (· ≠ 10) = l ++ [13] := by
    rw [List.takeWhile_append_of_pos]
    · simp [crlf]
    · intro b hb
      have := (hl b hb).2
      grind [isEol]
  have htake : (l ++ (crlf ++ x)).take (l.length + 2) = l ++ crlf := by
    rw [List.take_length_add_append]
    rfl
  unfold parseRequestLine
  rw [hline, List.length_append, List.length_singleton, if_neg (by simp [crlf]), htake]

/-- What a request says with `tail` behind its header block. -/
def SentRequest.parsedWith (r : SentRequest) (tail : Bytes) : Parsed :=
  match requestFields (r.requestLine ++ crlf) with
  | none => .badRequest
  | some line =>
    if line.version ≠ ascii "RTSP/1.0" then .versionNotSupported
    else
      match erisParseHeaders (joinLines r.headerLines ++ crlf) with
      | none => .badRequest
      | some (_, headers) => .request ⟨line, headers, if tail = [] then none else some tail⟩

/-- Only the body depends on what follows the header block. -/
theorem rtspParseRequest_eq {r : SentRequest} (h : ∀ l ∈ r.requestLine :: r.headerLines, LineOk l)
    {memory tail : Bytes} (hmemory : memory.takeWhile (· ≠ 0) = r.head ++ tail) :
    rtspParseRequest memory = r.parsedWith tail := by
  have hline := (h r.requestLine (by simp)).plain
  have hlines : ∀ l ∈ r.headerLines, LineOk l := fun l hl => h l (by simp [hl])
  unfold rtspParseRequest SentRequest.parsedWith
  rw [hmemory]
  have hdrop : (r.head ++ tail).drop (r.requestLine.length + 2) =
      joinLines r.headerLines ++ (crlf ++ tail) := by
    rw [r.head_append]
    exact drop_line _ _
  have hlen : r.requestLine.length + 2 + (joinLines r.headerLines ++ crlf).length = r.head.length := by
    rw [r.length_head]
    simp [crlf]
    omega
  simp only [r.head_append, parseRequestLine_append hline]
  simp only [← r.head_append]
  cases requestFields (r.requestLine ++ crlf) with
  | none => rfl
  | some line =>
    simp only [Option.map_some, hdrop, erisParseHeaders_append hlines]
    split
    · rfl
    · cases erisParseHeaders (joinLines r.headerLines ++ crlf) with
      | none => rfl
      | some res =>
        simp only [Option.map_some, hlen]
        cases tail with
        | nil => simp
        | cons b tail => simp

theorem SentRequest.parsedWith_of_not_accepted {r : SentRequest} (hl : Plain r.requestLine)
    (h : ¬ r.Accepted) (s t : Bytes) : r.parsedWith s = r.parsedWith t := by
  unfold SentRequest.parsedWith
  cases hline : requestFields (r.requestLine ++ crlf) with
  | none => rfl
  | some line =>
    by_cases hv : line.version = ascii "RTSP/1.0"
    · cases hh : erisParseHeaders (joinLines r.headerLines ++ crlf) with
      | none => simp
      | some res =>
        have hparsed := parseRequestLine_append hl []
        rw [List.append_nil, hline] at hparsed
        exact absurd ⟨⟨line, _, hparsed, hv⟩, res.1, res.2, hh⟩ h
    · simp [hv]

theorem takeWhile_noNul {s : Bytes} (hs : ∀ b ∈ s, b ≠ 0) (t : Bytes) :
    (s ++ t).takeWhile (· ≠ 0) = s ++ t.takeWhile (· ≠ 0) :=
  List.takeWhile_append_of_pos fun b hb => by simpa using hs b hb

theorem SentRequest.WellFormed.noNul_head {r : SentRequest} (h : r.WellFormed) :
    ∀ b ∈ r.head, b ≠ 0 := by
  intro b hb
  simp only [SentRequest.head, joinLines, List.mem_append, List.mem_flatMap] at hb
  have hcrlf : b ∈ crlf → b ≠ 0 := by
    rintro hb rfl
    simp [crlf] at hb
  rcases hb with ⟨l, hl, hb | hb⟩ | hb
  · exact ((h.lines l hl).plain b hb).1
  · exact hcrlf hb
  · exact hcrlf hb

theorem SentRequest.WellFormed.parsed_eq {r : SentRequest} (h : r.WellFormed) :
    r.parsed = r.parsedWith r.body := by
  have hmemory := takeWhile_noNul h.noNul_head []
  rw [List.append_nil, List.takeWhile_nil] at hmemory
  unfold SentRequest.parsed
  rw [rtspParseRequest_eq h.lines hmemory]
  unfold SentRequest.parsedWith
  cases requestFields (r.requestLine ++ crlf) with
  | none => rfl
  | some line =>
    by_cases hv : line.version = ascii "RTSP/1.0"
    · cases erisParseHeaders (joinLines r.headerLines ++ crlf) with
      | none => simp [hv]
      | some res => simp [hv]
    · simp [hv]

/-- A request is parsed as it was sent when it is alone. -/
theorem rtspParseRequest_sent {r : SentRequest} (h : r.WellFormed) {after : Bytes}
    (ha : r.Alone after) : rtspParseRequest (r.head ++ (r.body ++ after)) = r.parsed := by
  have hmemory := takeWhile_noNul h.noNul_head (r.body ++ after)
  rw [takeWhile_noNul h.noNul] at hmemory
  rw [rtspParseRequest_eq h.lines hmemory, h.parsed_eq]
  by_cases hacc : r.Accepted
  · have hnil : after.takeWhile (· ≠ 0) = [] := by
      cases after with
      | nil => rfl
      | cons b after => simp [ha hacc b rfl]
    rw [hnil, List.append_nil]
  · exact SentRequest.parsedWith_of_not_accepted (h.lines _ (by simp)).plain hacc _ _

/-! ## A turn of the handler -/

variable {behind : Nat → Bytes} {fuel i : Nat}

theorem Sent.bytes_ne_nil (m : Sent) : m.bytes ≠ [] := by
  cases m with
  | request r => simp [Sent.bytes, SentRequest.head, crlf]
  | packet channel data => simp [Sent.bytes]

/-- A message starts with no line end and no NUL. -/
theorem Sent.WellFormed.head_bytes {m : Sent} (h : m.WellFormed) (rest : Bytes) :
    ∀ b ∈ (m.bytes ++ rest).head?, isEol b = false ∧ b ≠ 0 := by
  intro b hb
  cases m with
  | request r =>
    have hline : LineOk r.requestLine := h.lines _ (by simp)
    have hmem : b ∈ r.requestLine := by
      rw [Sent.bytes, List.append_assoc, r.head_append, head?_append hline.ne_nil] at hb
      exact List.mem_of_mem_head? hb
    exact ⟨(hline.plain b hmem).2, (hline.plain b hmem).1⟩
  | packet channel data =>
    obtain rfl : 36 = b := by simpa [Sent.bytes] using hb
    decide

theorem handlerLoop_complete {m : Sent} {rest : Bytes} (h : m.WellFormed)
    (hc : m.Complete (rest ++ behind i)) (hrest : ∀ b ∈ rest.head?, isEol b = false ∧ b ≠ 0)
    (hroom : m.bytes.length ≤ rtspBufferSize) :
    handlerLoop behind (fuel + 1) i (m.bytes ++ rest) =
      (handlerLoop behind fuel (i + 1) rest).map fun (hs, left) => (m.handed :: hs, left) := by
  have hne : m.bytes ++ rest ≠ [] := by simp [Sent.bytes_ne_nil]
  rw [handlerLoop]
  · cases m with
    | request r =>
      simp only [Sent.bytes, List.length_append] at hroom
      obtain ⟨hf, ha⟩ := hc
      simp only [Sent.bytes, List.append_assoc, fullMsgRcvd_request h hf hrest (by omega),
        rtspParseRequest_sent h ha]
      rw [← List.append_assoc, ← List.length_append, List.drop_left]
      rfl
    | packet channel data =>
      simp only [fullMsgRcvd_packet h]
      simp [Sent.bytes, Sent.handed, Nat.add_comm 4]
  · exact hne

theorem handlerLoop_incomplete {m : Sent} {input : Bytes} (h : m.WellFormed)
    (hi : m.Incomplete input (behind i)) (hpre : input <+: m.bytes)
    (hlt : input.length < m.bytes.length) (hne : input ≠ []) (hroom : input.length ≤ rtspBufferSize) :
    handlerLoop behind (fuel + 1) i input = some ([], input) := by
  rw [handlerLoop]
  · cases m with
    | request r =>
      rw [fullMsgRcvd_request_part h hi.1 hi.2 hpre hlt hne hroom]
    | packet channel data =>
      rw [fullMsgRcvd_packet_part h hpre hlt hne]
  · exact hne

/-! ## A call of the handler -/

theorem frame_append (ms : List Sent) (input : Bytes) :
    (frame ms input).1 ++ (frame ms input).2.1 = ms := by
  induction ms generalizing input with
  | nil => rfl
  | cons m ms ih =>
    rw [frame]
    split
    · simpa using ih _
    · rfl

/-- What is left is a part of the first message that is not complete. -/
theorem frame_rest {ms : List Sent} {input more : Bytes} (h : input ++ more = ms.flatMap Sent.bytes) :
    (frame ms input).2.2 ++ more = (frame ms input).2.1.flatMap Sent.bytes := by
  induction ms generalizing input with
  | nil => exact h
  | cons m ms ih =>
    rw [frame]
    split
    · next hle =>
      refine ih ?_
      rw [List.flatMap_cons] at h
      have := congrArg (List.drop m.bytes.length) h
      rwa [List.drop_left, List.drop_append_of_le_length hle] at this
    · exact h

theorem frame_pending (ms : List Sent) (input : Bytes) :
    ∀ m ∈ (frame ms input).2.1.head?, (frame ms input).2.2.length < m.bytes.length := by
  induction ms generalizing input with
  | nil => simp [frame]
  | cons m ms ih =>
    rw [frame]
    split
    · exact ih _
    · next hlt =>
      intro m' hm'
      obtain rfl : m = m' := by simpa using hm'
      simpa using hlt

theorem head_stream {ms : List Sent} (hwf : ∀ m ∈ ms, m.WellFormed) {rest : Bytes}
    (hpre : rest <+: ms.flatMap Sent.bytes) : ∀ b ∈ rest.head?, isEol b = false ∧ b ≠ 0 := by
  intro b hb
  obtain ⟨w, hw⟩ := hpre
  have hhead : b ∈ (rest ++ w).head? := by
    rwa [head?_append (fun h => by simp [h] at hb)]
  rw [hw] at hhead
  cases ms with
  | nil => simp at hhead
  | cons m ms => exact (hwf m (by simp)).head_bytes _ b hhead

/-- A call takes the complete messages off the buffer. -/
theorem handlerLoop_frame {ms : List Sent} (hwf : ∀ m ∈ ms, m.WellFormed) {input : Bytes}
    (hpre : input <+: ms.flatMap Sent.bytes) (hsep : Separates behind i ms input)
    (hfuel : input.length ≤ fuel) (hroom : input.length ≤ rtspBufferSize) :
    handlerLoop behind fuel i input =
      some ((frame ms input).1.map Sent.handed, (frame ms input).2.2) := by
  induction ms generalizing input i fuel with
  | nil =>
    obtain rfl := List.prefix_nil.mp hpre
    simp [handlerLoop, frame]
  | cons m ms ih =>
    have hpos := List.length_pos_iff.mpr m.bytes_ne_nil
    rcases eq_or_ne input [] with rfl | hne
    · simp [handlerLoop, frame, m.bytes_ne_nil]
    obtain ⟨fuel, rfl⟩ : ∃ k, fuel = k + 1 :=
      ⟨fuel - 1, by have := List.length_pos_iff.mpr hne; omega⟩
    have hm := hwf m (by simp)
    have hms : ∀ m ∈ ms, m.WellFormed := fun m hm => hwf m (by simp [hm])
    rw [List.flatMap_cons] at hpre
    rw [Separates] at hsep
    rw [frame]
    by_cases hle : m.bytes.length ≤ input.length
    · obtain ⟨rest, rfl⟩ : m.bytes <+: input :=
        List.prefix_of_prefix_length_le (List.prefix_append _ _) hpre hle
      have hrest := (List.prefix_append_right_inj _).mp hpre
      rw [if_pos hle, List.drop_left] at hsep
      rw [if_pos hle, List.drop_left]
      simp only [List.length_append] at hfuel hroom
      rw [handlerLoop_complete hm hsep.1 (head_stream hms hrest) (by omega),
        ih hms hrest hsep.2 (by omega) (by omega)]
      rfl
    · rw [if_neg hle] at hsep ⊢
      have hwithin : input <+: m.bytes :=
        List.prefix_of_prefix_length_le hpre (List.prefix_append _ _) (by omega)
      exact handlerLoop_incomplete hm hsep hwithin (by omega) hne hroom

/-! ## All reads -/

theorem serve_stream {ms : List Sent} (hwf : ∀ m ∈ ms, m.WellFormed) {reads : List Read}
    {input : Bytes} (hstream : input ++ reads.flatMap Read.bytes = ms.flatMap Sent.bytes)
    (hpending : ∀ m ∈ ms.head?, input.length < m.bytes.length)
    (hroom : WithinBuffer ms input reads) (hsep : ReadsSeparate ms input reads) :
    serve input reads = some (ms.map Sent.handed, []) := by
  induction reads generalizing ms input with
  | nil =>
    rw [List.flatMap_nil, List.append_nil] at hstream
    cases ms with
    | nil => simp [serve, hstream]
    | cons m ms =>
      have hlt := hpending m rfl
      rw [hstream, List.flatMap_cons, List.length_append] at hlt
      omega
  | cons r rs ih =>
    rw [List.flatMap_cons, ← List.append_assoc] at hstream
    obtain ⟨hfit, hroom⟩ := hroom
    obtain ⟨hsep, hseps⟩ := hsep
    have hhandler : rtspHandler r.behind (input ++ r.bytes) =
        some ((frame ms (input ++ r.bytes)).1.map Sent.handed, (frame ms (input ++ r.bytes)).2.2) :=
      handlerLoop_frame hwf ⟨_, hstream⟩ hsep le_rfl (by rwa [List.length_append])
    have hothers : ∀ m ∈ (frame ms (input ++ r.bytes)).2.1, m.WellFormed := by
      intro m hm
      rw [← frame_append ms (input ++ r.bytes)] at hwf
      exact hwf m (List.mem_append_right _ hm)
    rw [serve, if_pos hfit, hhandler]
    simp only [Option.bind_some]
    rw [ih hothers (frame_rest hstream) (frame_pending ms _) hroom hseps]
    simp only [Option.map_some, ← List.map_append, frame_append]

/-- Whatever the reads, when they can be told apart, the server hands on the messages of the
stream, each once, in order and as it was sent, and closes nothing. -/
theorem messages_handed_on {ms : List Sent} (hwf : ∀ m ∈ ms, m.WellFormed) {reads : List Read}
    (hstream : reads.flatMap Read.bytes = ms.flatMap Sent.bytes) (hroom : WithinBuffer ms [] reads)
    (hsep : ReadsSeparate ms [] reads) : serve [] reads = some (ms.map Sent.handed, []) := by
  refine serve_stream hwf hstream ?_ hroom hsep
  intro m _
  exact List.length_pos_iff.mpr m.bytes_ne_nil

/-- A packet and a request with a body, of which the second read brings the end of the headers. -/
def probe : SentRequest :=
  ⟨ascii "GET_PARAMETER * RTSP/1.0", [ascii "CSeq: 2", ascii "Content-Length: 4"], ascii "ping"⟩

def probeReads : List Read :=
  [⟨(Sent.packet 0 [1, 2, 3]).bytes ++ probe.head.take 52, fun _ => [57]⟩,
    ⟨probe.head.drop 52 ++ probe.body, fun _ => [0, 57]⟩]

theorem IsContentLength.length_lt {l : Bytes} {n : Nat} (h : IsContentLength l n) :
    contentLength.length < l.length := by
  obtain ⟨name, gap, ds, tail, rfl, hname, -⟩ := h
  have hlen : name.length = contentLength.length := by simpa using congrArg List.length hname
  simp only [List.length_append, List.length_cons]
  omega

theorem IsContentLength.value_eq {l : Bytes} {n : Nat} (h : IsContentLength l n) :
    digitsValue (((l.drop (contentLength.length + 1)).dropWhile isBlank).takeWhile isDigit) = n := by
  obtain ⟨name, gap, ds, tail, rfl, hname, hgap, hds, hdigits, rfl, htail⟩ := h
  have hlen : contentLength.length = name.length := by simpa using congrArg List.length hname.symm
  have hdrop : (name ++ 58 :: (gap ++ ds ++ tail)).drop (name.length + 1) = gap ++ (ds ++ tail) := by
    rw [List.drop_length_add_append, List.append_assoc]
    rfl
  have hblank : (gap ++ (ds ++ tail)).dropWhile isBlank = ds ++ tail := by
    rw [List.dropWhile_append_of_pos hgap]
    obtain ⟨d, ds, rfl⟩ := List.exists_cons_of_ne_nil hds
    have : isBlank d = false := by
      have := hdigits d (by simp)
      grind [isDigit, isBlank]
    simp [this]
  have hstop : tail.takeWhile isDigit = [] := by
    cases tail with
    | nil => rfl
    | cons b tail =>
      have : isDigit b = false := by
        have := htail b (by simp)
        grind [isDigit, isBlank]
      simp [this]
  rw [hlen, hdrop, hblank, List.takeWhile_append_of_pos hdigits, hstop, List.append_nil]

theorem isContentLength_probe : IsContentLength (ascii "Content-Length: 4") 4 :=
  ⟨contentLength, [32], [52], [], by decide, rfl, by simp [isBlank], by simp, by simp [isDigit],
    by decide, by simp⟩

theorem wellFormed_probe : probe.WellFormed where
  lines l hl := by
    simp only [probe, List.mem_cons, List.not_mem_nil, or_false] at hl
    rcases hl with rfl | rfl | rfl
    · exact ⟨.of_all (by decide), by decide⟩
    · exact ⟨.of_all (by decide), by decide⟩
    · exact ⟨.of_all (by decide), by decide⟩
  notPacket := by decide
  noNul b hb := by
    have hplain : Plain probe.body := .of_all (by decide)
    exact (hplain b hb).1
  length := .inl ⟨_, by simp [probe], 4, isContentLength_probe⟩
  lengths l hl n hn := by
    simp only [probe, List.mem_cons, List.not_mem_nil, or_false] at hl
    rcases hl with rfl | rfl
    · exact absurd hn.length_lt (by decide)
    · rw [← hn.value_eq]
      decide
  short := by decide

theorem framable_probe : probe.Framable where
  length l hl := by
    have : probe.headerLines.find? startsLength = some (ascii "Content-Length: 4") := by decide
    obtain rfl : ascii "Content-Length: 4" = l := by simpa [this] using hl
    exact ⟨4, isContentLength_probe⟩
  body b hb := by
    obtain rfl : 112 = b := Option.some.inj hb
    decide

theorem waits_probe : probe.Waits (probe.head.take 52) [57] where
  blank := by decide
  header := by
    rw [show probe.headerLines = [ascii "CSeq: 2", ascii "Content-Length: 4"] from rfl, StopsSafely,
      if_neg (by decide), StopsSafely, if_pos (by decide)]
    exact .inr fun _ _ => ⟨52, by decide, by decide⟩

theorem messages_handed_on_probe :
    serve [] probeReads = some ([Sent.packet 0 [1, 2, 3], .request probe].map Sent.handed, []) := by
  refine messages_handed_on ?_ (by decide) ⟨by decide, by decide, trivial⟩ ⟨?_, ?_, trivial⟩
  · intro m hm
    simp only [List.mem_cons, List.not_mem_nil, or_false] at hm
    rcases hm with rfl | rfl
    · show [1, 2, 3].length < 65536
      decide
    · exact wellFormed_probe
  · rw [Separates, if_pos (by decide), Separates, if_neg (by decide)]
    exact ⟨trivial, framable_probe, waits_probe⟩
  · have hframe : frame [Sent.packet 0 [1, 2, 3], .request probe]
        ([] ++ ((Sent.packet 0 [1, 2, 3]).bytes ++ probe.head.take 52)) =
        ([.packet 0 [1, 2, 3]], [.request probe], probe.head.take 52) := by decide
    rw [hframe, Separates, if_pos (by decide), Separates]
    refine ⟨⟨framable_probe, fun _ b hb => ?_⟩, trivial⟩
    obtain rfl : 0 = b := Option.some.inj hb
    rfl

/-- A request whose last byte comes alone. -/
def options : SentRequest := ⟨ascii "OPTIONS * RTSP/1.0", [ascii "CSeq: 1"], []⟩

def optionsReads : List Read :=
  [⟨options.head.take 30, fun _ => []⟩, ⟨options.head.drop 30, fun _ => []⟩]

theorem wellFormed_options : options.WellFormed where
  lines l hl := by
    simp only [options, List.mem_cons, List.not_mem_nil, or_false] at hl
    rcases hl with rfl | rfl
    · exact ⟨.of_all (by decide), by decide⟩
    · exact ⟨.of_all (by decide), by decide⟩
  notPacket := by decide
  noNul := by simp [options]
  length := .inr rfl
  lengths l hl n hn := by
    obtain rfl : l = ascii "CSeq: 1" := by simpa [options] using hl
    exact absurd hn.length_lt (by decide)
  short := by decide

/-- The request is handed on before its last byte, which is then taken for an empty line. -/
theorem last_byte_alone : options.WellFormed ∧
    optionsReads.flatMap Read.bytes = [Sent.request options].flatMap Sent.bytes ∧
    WithinBuffer [.request options] [] optionsReads ∧ serve [] optionsReads = none :=
  ⟨wellFormed_options, by decide, ⟨by decide, by decide, trivial⟩, by decide⟩

/-- Of two requests in one read, the first is handed on with the second as its body. -/
example : serve [] [⟨options.head ++ options.head, fun _ => []⟩] ≠
    some ([Sent.request options, .request options].map Sent.handed, []) := by
  decide

end StreamSwitch.RtspInput
