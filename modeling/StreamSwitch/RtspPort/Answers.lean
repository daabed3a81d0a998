import StreamSwitch.Lib.Binary64
import StreamSwitch.RtspPort.Responses
import StreamSwitch.RtspPort.Rtsp

/-!
# Answers of the RTSP server

What the methods answer to a request that could be parsed: `rtsp_quick_response`, the
`send_*_reply` of `network/rtsp_method_*.c`, and `rtsp_check_invalid_state`. What they take from
sockets and sessions is a parameter. `sound_respond`: whatever it is, and whatever the client sent,
every header of the response is one line.
-/

namespace StreamSwitch.RtspOutput

open RtspInput

/-! ## Texts -/

/-- A text without a NUL. -/
structure GText where
  bytes : Bytes
  noNul : 0 ∉ bytes

/-- A text that ends no line: the name of a host, a URI, a session id. -/
structure OneLine where
  bytes : Bytes
  noFeed : 10 ∉ bytes

/-- `"%d"`. -/
def signedDigits (i : Int) : Bytes := (decimal i).map fun c => UInt8.ofNat c.toNat

/-- `"%f"`: six decimals. -/
def fixedDecimals (x : ℚ) : Bytes :=
  let n := (Binary64.roundHalfEven (|x| * 1000000)).toNat
  (if x < 0 then [45] else []) ++ digits (n / 1000000) ++ 46 ::
    -- the zeros in front come from the seventh digit, which is taken away
    (digits (1000000 + n % 1000000)).tail

/-- The `float` that is nearest: 24 significant bits. -/
def toFloat (q : ℚ) : ℚ :=
  let ulp : ℚ := 2 ^ (Int.log 2 |q| - 23)
  Binary64.roundHalfEven (q / ulp) * ulp

def hexDigit (d : Nat) : UInt8 := UInt8.ofNat (if d < 10 then 48 + d else 55 + d)

/-- `"%08X"`. -/
def hexDigits (v : UInt32) : Bytes :=
  [7, 6, 5, 4, 3, 2, 1, 0].map fun k => hexDigit (v.toNat / 16 ^ k % 16)

example : fixedDecimals (-1 / 4) = ascii "-0.250000" ∧ hexDigits 3735928559 = ascii "DEADBEEF" := by
  decide +kernel

/-- A tenth and 100. -/
example : fixedDecimals (toFloat (13421773 / 134217728 + 100)) = ascii "100.099998" := by
  decide +kernel

/-! ## The answers -/

/-- What `send_setup_reply` finds at the sockets of an RTP session. -/
inductive SetupTransport
  | udp (source destination : OneLine) (clientPorts serverPorts : Int × Int)
  | interleaved (rtpCh rtcpCh : Int)
  /-- A local socket of a connection that is not TCP. -/
  | other

/-- `"%d-%d"`. -/
def numberPair (n : Int × Int) : Bytes := signedDigits n.1 ++ 45 :: signedDigits n.2

def SetupTransport.text : SetupTransport → Bytes
  | .udp source destination clientPorts serverPorts =>
    ascii "RTP/AVP;unicast;source=" ++ source.bytes ++ ascii ";" ++
      (if destination.bytes ≠ [] then ascii "destination=" ++ destination.bytes ++ ascii ";"
        else []) ++
      ascii "client_port=" ++ numberPair clientPorts ++ ascii ";server_port=" ++
      numberPair serverPorts
  | .interleaved rtpCh rtcpCh => ascii "RTP/AVP/TCP;interleaved=" ++ numberPair (rtpCh, rtcpCh)
  | .other => []

/-- What `rtp_session_send_play_reply` reads of an RTP session. -/
structure RtpInfo where
  uri : OneLine
  startSeq : UInt16
  startRtptime : UInt32

def RtpInfo.text (p : RtpInfo) : Bytes :=
  ascii "url=" ++ p.uri.bytes ++ ascii ";seq=" ++ digits p.startSeq.toNat ++ ascii ";rtptime=" ++
    digits p.startRtptime.toNat ++ ascii ","

/-- What `send_play_reply` reads of the RTSP session. -/
structure PlayReply where
  beginTime : ℚ
  endTime : ℚ
  disableRateControl : Bool
  scaleReq : ℚ
  scale : ℚ
  rtpSessions : List RtpInfo

def PlayReply.range (s : PlayReply) : Bytes :=
  ascii "npt=" ++ (if 0 ≤ s.beginTime then fixedDecimals s.beginTime else []) ++ ascii "-" ++
    (if 0 < s.endTime then fixedDecimals s.endTime else [])

def PlayReply.repliedScale (s : PlayReply) : ℚ :=
  if s.disableRateControl then s.scaleReq
  else if 100 ≤ s.scaleReq ∧ s.scaleReq ≤ 132 then
    if s.scaleReq < 116 then toFloat (s.scale + 100) else 116
  else s.scale

/-- The comma behind the last session is cut off. -/
def PlayReply.rtpInfo (s : PlayReply) : Bytes := (s.rtpSessions.flatMap (·.text)).dropLast

/-- `rtsp_check_invalid_state`. -/
def rtspInvalidState (host : Host) (req : Request) (state : Rtsp.ServerState) : Response :=
  (rtspResponseNew host req.headers 455).insert (ascii "Allow") (ascii (Rtsp.validStates state))

/-- `send_setup_reply`. -/
def sendSetupReply (host : Host) (req : Request) (transport : SetupTransport) (ssrc : UInt32)
    (sessionId : OneLine) : Response :=
  ((rtspResponseNew host req.headers 200).insert (ascii "Transport")
    (transport.text ++ ascii ";ssrc=" ++ hexDigits ssrc)).insert (ascii "Session") sessionId.bytes

/-- `send_play_reply`: the scale is told to those who asked for one. -/
def sendPlayReply (host : Host) (req : Request) (s : PlayReply) : Response :=
  let response := (rtspResponseNew host req.headers 200).insert (ascii "Range") s.range
  let response :=
    match lookupHeader req.headers (ascii "Scale") with
    | some _ => response.insert (ascii "Scale") (fixedDecimals s.repliedScale)
    | none => response
  response.insert (ascii "RTP-Info") s.rtpInfo

/-- What a method answers to a request that could be parsed. -/
inductive Answer
  | quick (code : Nat)
  | invalidState (state : Rtsp.ServerState)
  | describe (descr : GText)
  | getParameter (descr : Option GText)
  | options
  | setup (transport : SetupTransport) (ssrc : UInt32) (sessionId : OneLine)
  | play (s : PlayReply)

def Answer.response (host : Host) (req : Request) : Answer → Response
  | .quick code => rtspQuickResponse host req.headers code
  | .invalidState state => rtspInvalidState host req state
  | .describe descr => sendDescribeReply host req descr.bytes
  | .getParameter descr => sendGetParameterReply host req (descr.map (·.bytes))
  | .options => rtspOptions host req
  | .setup transport ssrc sessionId => sendSetupReply host req transport ssrc sessionId
  | .play s => sendPlayReply host req s

/-- The response to the message in `memory`: where `rtsp_parse_request` fails on it, there are no
headers to repeat. -/
def respond (host : Host) (memory : Bytes) (a : Answer) : Response :=
  match rtspParseRequest memory with
  | .badRequest => rtspQuickResponse host [] 400
  | .versionNotSupported => rtspQuickResponse host [] 505
  | .request req => a.response host req

/-! ## No line is broken -/

theorem feed_notMem_signedDigits (i : Int) : 10 ∉ signedDigits i := by
  intro h
  obtain ⟨c, hc, hten⟩ := List.mem_map.1 h
  rcases mem_decimal hc with rfl | hdigit
  · exact absurd hten (by decide)
  · have hd := (isDigit_of_char hdigit).1
    rw [hten] at hd
    exact absurd hd (by decide)

theorem feed_notMem_hexDigit {d : Nat} (h : d < 16) : hexDigit d ≠ 10 := by
  unfold hexDigit
  intro heq
  have hnat := congrArg UInt8.toNat heq
  rw [UInt8.toNat_ofNat', show (10 : UInt8).toNat = 10 from rfl] at hnat
  split_ifs at hnat <;> omega

theorem feed_notMem_hexDigits (v : UInt32) : 10 ∉ hexDigits v := by
  intro h
  obtain ⟨k, -, hk⟩ := List.mem_map.1 h
  exact feed_notMem_hexDigit (Nat.mod_lt _ (by decide)) hk

theorem feed_notMem_fixedDecimals (x : ℚ) : 10 ∉ fixedDecimals x := by
  unfold fixedDecimals
  intro h
  simp only [List.mem_append, List.mem_cons] at h
  rcases h with (h | h) | h | h
  · split_ifs at h
    · exact absurd (List.mem_singleton.1 h) (by decide)
    · exact absurd h List.not_mem_nil
  · exact feed_notMem_digits _ h
  · exact absurd h (by decide)
  · exact feed_notMem_digits _ (List.mem_of_mem_tail h)

theorem feed_notMem_append {a b : Bytes} (ha : 10 ∉ a) (hb : 10 ∉ b) : 10 ∉ a ++ b := fun h =>
  (List.mem_append.1 h).elim ha hb

theorem feed_notMem_numberPair (n : Int × Int) : 10 ∉ numberPair n :=
  feed_notMem_append (feed_notMem_signedDigits n.1)
    (List.not_mem_cons_of_ne_of_not_mem (by decide) (feed_notMem_signedDigits n.2))

theorem SetupTransport.noFeed (t : SetupTransport) : 10 ∉ t.text := by
  cases t with
  | udp source destination clientPorts serverPorts =>
    have hclient := feed_notMem_numberPair clientPorts
    have hserver := feed_notMem_numberPair serverPorts
    have hdestination : 10 ∉ (if destination.bytes ≠ [] then
        ascii "destination=" ++ destination.bytes ++ ascii ";" else []) := by
      split_ifs
      · exact feed_notMem_append (feed_notMem_append (by decide) destination.noFeed) (by decide)
      · exact List.not_mem_nil
    have hsource := feed_notMem_append
      (feed_notMem_append (by decide : 10 ∉ ascii "RTP/AVP;unicast;source=") source.noFeed)
      (by decide : 10 ∉ ascii ";")
    have hports := feed_notMem_append (feed_notMem_append (feed_notMem_append hsource hdestination)
      (by decide : 10 ∉ ascii "client_port=")) hclient
    exact feed_notMem_append (feed_notMem_append hports (by decide)) hserver
  | interleaved rtpCh rtcpCh => exact feed_notMem_append (by decide) (feed_notMem_numberPair _)
  | other => exact List.not_mem_nil

theorem RtpInfo.noFeed (p : RtpInfo) : 10 ∉ p.text := by
  have huri := feed_notMem_append (by decide : 10 ∉ ascii "url=") p.uri.noFeed
  have hseq := feed_notMem_append (feed_notMem_append huri (by decide : 10 ∉ ascii ";seq="))
    (feed_notMem_digits p.startSeq.toNat)
  have htime := feed_notMem_append (feed_notMem_append hseq (by decide : 10 ∉ ascii ";rtptime="))
    (feed_notMem_digits p.startRtptime.toNat)
  exact feed_notMem_append htime (by decide)

theorem PlayReply.noFeed_range (s : PlayReply) : 10 ∉ s.range := by
  have htime (c : Prop) [Decidable c] (x : ℚ) : 10 ∉ (if c then fixedDecimals x else []) := by
    split_ifs
    · exact feed_notMem_fixedDecimals x
    · exact List.not_mem_nil
  exact feed_notMem_append (feed_notMem_append (feed_notMem_append (by decide) (htime _ _))
    (by decide)) (htime _ _)

theorem PlayReply.noFeed_rtpInfo (s : PlayReply) : 10 ∉ s.rtpInfo := by
  intro h
  obtain ⟨p, -, hp⟩ := List.mem_flatMap.1 (List.mem_of_mem_dropLast h)
  exact p.noFeed hp

theorem noFeed_validStates (state : Rtsp.ServerState) : 10 ∉ ascii (Rtsp.validStates state) := by
  cases state <;> decide

theorem parsed_feedFree {memory : Bytes} {req : Request}
    (h : rtspParseRequest memory = .request req) :
    ValuesOk req.headers ∧ 10 ∉ req.line.object := by
  unfold rtspParseRequest at h
  simp only at h
  split at h
  · cases h
  · next line n hline =>
    split_ifs at h
    split at h
    · cases h
    · next k headers hheaders =>
      cases h
      exact ⟨valuesOk_erisParseHeaders hheaders, feed_notMem_object hline⟩

theorem sound_sendPlayReply {host : Host} (hhost : host.Ok) {req : Request}
    (hreq : ValuesOk req.headers) (s : PlayReply) : (sendPlayReply host req s).Sound := by
  have hrange := (sound_rtspResponseNew hhost hreq 200).insert (by decide : NameOk (ascii "Range"))
    s.noFeed_range
  unfold sendPlayReply
  cases lookupHeader req.headers (ascii "Scale") with
  | none => exact hrange.insert (by decide) s.noFeed_rtpInfo
  | some _ =>
    exact (hrange.insert (by decide) (feed_notMem_fixedDecimals _)).insert (by decide) s.noFeed_rtpInfo

/-- Whatever the client sent, what is repeated of it breaks no line of the response. -/
theorem sound_respond {host : Host} (hhost : host.Ok) (memory : Bytes) (a : Answer) :
    (respond host memory a).Sound := by
  have hnil : ValuesOk [] := fun _ h => absurd h List.not_mem_nil
  unfold respond
  split
  · exact sound_rtspResponseNew hhost hnil 400
  · exact sound_rtspResponseNew hhost hnil 505
  next req hreq =>
  obtain ⟨hvalues, hobject⟩ := parsed_feedFree hreq
  have hnew := sound_rtspResponseNew hhost hvalues
  cases a with
  | quick code => exact hnew code
  | invalidState state => exact (hnew 455).insert (by decide) (noFeed_validStates state)
  | options => exact (hnew 200).insert (by decide) (by decide)
  | describe descr =>
    have hnul : ∀ b ∈ some descr.bytes, 0 ∉ b := by
      intro b hb
      cases hb
      exact descr.noNul
    have hbody := (hnew 200).withBody hnul
    have htype := hbody.insert (by decide : NameOk (ascii "Content-Type"))
      (by decide : 10 ∉ ascii "application/sdp")
    exact htype.insert (by decide) (feed_notMem_append hobject (by decide))
  | getParameter descr =>
    have hnul : ∀ b ∈ descr.map (·.bytes), 0 ∉ b := by
      intro b hb
      obtain ⟨text, -, rfl⟩ := Option.map_eq_some_iff.1 hb
      exact text.noNul
    exact ((hnew 200).withBody hnul).insert (by decide) (by decide)
  | setup transport ssrc sessionId =>
    have hvalue := feed_notMem_append (feed_notMem_append transport.noFeed
      (by decide : 10 ∉ ascii ";ssrc=")) (feed_notMem_hexDigits ssrc)
    exact ((hnew 200).insert (by decide) hvalue).insert (by decide) sessionId.noFeed
  | play s => exact sound_sendPlayReply hhost hvalues s

end StreamSwitch.RtspOutput
