import StreamSwitch.CString
import StreamSwitch.Sink.Lifecycle

/-!
# The addresses of a stream sink

`InitRemote` and `InitLocal` of `stsw_stream_sink.cc`. Both print the two addresses
into a buffer of 255 bytes and store what is in the buffer, before `InitBase` finds
out whether the sink is initialised already; on any error they clear what is stored.
`snprintf` returns the length that the whole text has, and only 255 is taken for too
long.

`init_harmless_iff`: along every run, a failed initialisation changes nothing of an
initialised sink and leaves nothing in another one, and a successful one stores the
two complete addresses, if and only if an initialisation with valid arguments is only
made of a sink that is not initialised, and one that succeeds has a text without NUL
of at most 254 bytes and a port below the largest `int`.
-/

namespace StreamSwitch

open Run

/-! ## Printing an address -/

/-- `>tcp://ip:port`. -/
def remoteAddr (ip : List Char) (port : Int) : List Char :=
  ['>', 't', 'c', 'p', ':', '/', '/'] ++ ip ++ [':'] ++ decimal port

/-- `STSW_SOCKET_NAME_STREAM_PREFIX`, `STSW_SOCKET_NAME_STREAM_API` and
`STSW_SOCKET_NAME_STREAM_PUBLISH`. -/
def streamPrefixName : List Char := ['s', 't', 's', 'w', '_', 's', 't', 'r', 'e', 'a', 'm']
def streamApiName : List Char := ['a', 'p', 'i']
def streamPublishName : List Char := ['b', 'r', 'o', 'a', 'd', 'c', 'a', 's', 't']

/-- The address of the socket `kind` of a stream. -/
def localAddr (name kind : List Char) : List Char :=
  ['>', 'i', 'p', 'c', ':', '/', '/', '@'] ++ streamPrefixName ++ ['/'] ++ name ++ ['/'] ++ kind

/-- `snprintf` into `tmp_addr`, and the checks of its return value. -/
def formatAddr (text : List Char) : Except Ret (List Char) :=
  -- beyond `INT_MAX` there is no length to return
  let ret : Int := if text.length ≤ 2147483647 then text.length else -1
  if ret = 255 then .error ⟨.param, "socket address too long"⟩
  else if ret < 0 then .error ⟨.system, "snprintf for socket address failed"⟩
  else .ok (snprintf 255 text)

/-- The text passes the checks. -/
def Printable (text : List Char) : Prop := text.length ≠ 255 ∧ text.length ≤ 2147483647

theorem formatAddr_ok {text : List Char} (h : Printable text) : formatAddr text = .ok (snprintf 255 text) := by
  obtain ⟨hne, hle⟩ := h
  unfold formatAddr
  simp only
  rw [if_pos hle, if_neg (by omega), if_neg (by omega)]

theorem formatAddr_error {text : List Char} (h : ¬ Printable text) :
    ∃ ret, formatAddr text = .error ret ∧ ret.code ≠ .ok := by
  unfold formatAddr
  simp only
  by_cases hle : text.length ≤ 2147483647
  · have hlen : text.length = 255 := by
      by_contra hne
      exact h ⟨hne, hle⟩
    rw [if_pos hle, if_pos (by omega)]
    exact ⟨_, rfl, nofun⟩
  · rw [if_neg hle, if_neg (by omega), if_pos (by omega)]
    exact ⟨_, rfl, nofun⟩

/-! ## The sink with its addresses -/

structure AddressedSink where
  sink : StreamSink := {}
  /-- `notify_socket_ != NULL`. -/
  notifySocket : Bool := false
  apiAddr : List Char := []
  subscriberAddr : List Char := []

/-- The calls of `InitBase` that may fail before the subscriber socket is created. -/
inductive InitFailure
  | mutexattrSettype | mutexInit | newReq | newPair

def InitFailure.errInfo : InitFailure → String
  | .mutexattrSettype => "pthread_mutexattr_settype failed"
  | .mutexInit => "pthread_mutex_init failed"
  | .newReq => "zsock_new_req create api socket failed: maybe address error"
  | .newPair => "zsock_new_pair create notify socket failed"

/-- What the system calls of `InitBase` answer. -/
structure InitBaseEnv where
  failure : Option InitFailure := none
  /-- The error of creating the subscriber socket. -/
  subscriber : Option String := none

def InitBaseEnv.Works (env : InitBaseEnv) : Prop := env.failure = none ∧ env.subscriber = none

/-- What a caller passes besides the address. -/
structure InitArgs where
  clientInfo : StreamClientInfo := {}
  listener : Bool := false

namespace AddressedSink

def initBase (s : AddressedSink) (args : InitArgs) (env : InitBaseEnv) : Ret × AddressedSink :=
  if s.sink.isInit then (⟨.general, "Receiver already init"⟩, s)
  else
    match env.failure with
    | some .mutexattrSettype => (⟨.system, InitFailure.mutexattrSettype.errInfo⟩, s)
    | some .mutexInit => (⟨.system, InitFailure.mutexInit.errInfo⟩, s)
    | some .newReq =>
      (⟨.system, InitFailure.newReq.errInfo⟩,
        { s with sink := { s.sink with clientHearbeatSocket := none } })
    | some .newPair =>
      (⟨.system, InitFailure.newPair.errInfo⟩,
        { s with sink := { s.sink with clientHearbeatSocket := none }, notifySocket := false })
    | none =>
      let sink := { s.sink with clientHearbeatSocket := some {} }
      let sink := sink.registerSubHandler codeMedia ⟨.mediaFrame, mediaChannel⟩
      let r := sink.createSubscriberSocket { subscriber := env.subscriber }
      if r.1.code ≠ .ok then
        (r.1, { s with
          sink := { r.2.unregisterAllSubHandler with
            subscriberSocket := false
            clientHearbeatSocket := none }
          notifySocket := false })
      else
        (⟨.ok, ""⟩, { s with
          sink := { r.2 with
            clientInfo := args.clientInfo, hasListener := args.listener, isInit := true }
          notifySocket := true })

/-- What stands behind `error_out`. -/
def clearAddrs (s : AddressedSink) : AddressedSink := { s with apiAddr := [], subscriberAddr := [] }

/-- The common part of `InitRemote` and `InitLocal`, for the texts that they print. -/
def initAddrs (s : AddressedSink) (api sub : List Char) (args : InitArgs) (env : InitBaseEnv) :
    Ret × AddressedSink :=
  match formatAddr api with
  | .error ret => (ret, s.clearAddrs)
  | .ok addr =>
    let s := { s with apiAddr := addr }
    match formatAddr sub with
    | .error ret => (ret, s.clearAddrs)
    | .ok addr =>
      let s := { s with subscriberAddr := addr }
      let r := s.initBase args env
      if r.1.code ≠ .ok then (r.1, r.2.clearAddrs) else r

def initRemote (s : AddressedSink) (sourceIp : List Char) (sourceTcpPort : Int32) (args : InitArgs)
    (env : InitBaseEnv) : Ret × AddressedSink :=
  if sourceIp.length = 0 ∨ sourceTcpPort = 0 then (⟨.param, "ip or port is invalid"⟩, s)
  else
    s.initAddrs (remoteAddr (cStr sourceIp) sourceTcpPort.toInt)
      (remoteAddr (cStr sourceIp) (sourceTcpPort + 1).toInt) args env

def initLocal (s : AddressedSink) (streamName : List Char) (args : InitArgs) (env : InitBaseEnv) :
    Ret × AddressedSink :=
  if streamName.length = 0 then (⟨.param, "stream_name cannot be empty"⟩, s)
  else s.initAddrs (localAddr (cStr streamName) streamApiName) (localAddr (cStr streamName) streamPublishName)
    args env

def uninit (s : AddressedSink) : AddressedSink :=
  if !s.sink.isInit then s else { s with sink := s.sink.uninit, notifySocket := false }

/-! ## Runs -/

inductive AddrOp
  | initRemote (sourceIp : List Char) (sourceTcpPort : Int32) (args : InitArgs) (env : InitBaseEnv)
  | initLocal (streamName : List Char) (args : InitArgs) (env : InitBaseEnv)
  | uninit
  /-- Any other operation. -/
  | other (op : StreamSink.SinkOp)

def addrStep (pb : Protobuf) (s : AddressedSink) : AddrOp → Option AddressedSink
  | .initRemote ip port args env => some (s.initRemote ip port args env).2
  | .initLocal name args env => some (s.initLocal name args env).2
  | .uninit => some s.uninit
  | .other op =>
    if op.isOther then (s.sink.lifeStep pb op).map fun sink => { s with sink := sink } else none

/-- Not initialised, with no socket, no thread and no handler. -/
structure Closed (s : AddressedSink) : Prop where
  bare : s.sink.Bare
  heartbeat : s.sink.clientHearbeatSocket = none
  notify : s.notifySocket = false

/-- What the initialisation `r` of `s` with the given addresses promises. -/
structure Harmless (s : AddressedSink) (apiAddr subscriberAddr : List Char) (r : Ret × AddressedSink) :
    Prop where
  kept : r.1.code ≠ .ok → s.sink.isInit = true → r.2 = s
  closed : r.1.code ≠ .ok → s.sink.isInit = false → r.2.Closed
  complete : r.1.code = .ok → r.2.apiAddr = apiAddr ∧ r.2.subscriberAddr = subscriberAddr

def InitHarmless (s : AddressedSink) : AddrOp → Prop
  | .initRemote ip port args env =>
    s.Harmless (remoteAddr ip port.toInt) (remoteAddr ip (port.toInt + 1))
      (s.initRemote ip port args env)
  | .initLocal name args env =>
    s.Harmless (localAddr name streamApiName) (localAddr name streamPublishName) (s.initLocal name args env)
  | _ => True

/-- The texts are not cut off, if it comes to that. -/
def Fits (api sub : List Char) : Prop := api.length ≤ 254 ∧ sub.length ≤ 254

/-- An initialisation is made of a sink that is not initialised; if it succeeds, its address has
no NUL, a port that can be incremented, and room in the buffer. -/
def InitOnce (s : AddressedSink) : AddrOp → Prop
  | .initRemote ip port _ env => ip.length = 0 ∨ port = 0 ∨
    s.sink.isInit = false ∧
      (Printable (remoteAddr (cStr ip) port.toInt) →
        Printable (remoteAddr (cStr ip) (port + 1).toInt) → env.Works →
        Char.ofNat 0 ∉ ip ∧ port ≠ Int32.maxValue ∧
          Fits (remoteAddr (cStr ip) port.toInt) (remoteAddr (cStr ip) (port + 1).toInt))
  | .initLocal name _ env => name.length = 0 ∨
    s.sink.isInit = false ∧
      (Printable (localAddr (cStr name) streamApiName) → Printable (localAddr (cStr name) streamPublishName) →
        env.Works →
        Char.ofNat 0 ∉ name ∧ Fits (localAddr (cStr name) streamApiName) (localAddr (cStr name) streamPublishName))
  | _ => True

/-- An initialised sink has an address, and another one nothing else. -/
structure AddrInv (s : AddressedSink) : Prop where
  addr : s.sink.isInit = true → s.apiAddr ≠ []
  closed : s.sink.isInit = false → s.Closed
  started : s.sink.isStarted = true → s.sink.isInit = true

variable {s s' : AddressedSink} {args : InitArgs} {env : InitBaseEnv} {api sub : List Char}

/-! ## One initialisation -/

theorem initBase_of_isInit (args : InitArgs) (env : InitBaseEnv) (hi : s.sink.isInit = true) :
    s.initBase args env = (⟨.general, "Receiver already init"⟩, s) := if_pos hi

theorem initBase_fails (args : InitArgs) (h : s.Closed) (he : ¬ env.Works) :
    (s.initBase args env).1.code ≠ .ok ∧ (s.initBase args env).2.Closed := by
  have hclosed := h
  obtain ⟨⟨hi, hstarted, hsocket, hmap⟩, -, hnotify⟩ := h
  unfold initBase
  rw [if_neg (by simp [hi])]
  cases hf : env.failure with
  | some f =>
    cases f with
    | mutexattrSettype => exact ⟨nofun, hclosed⟩
    | mutexInit => exact ⟨nofun, hclosed⟩
    | newReq => exact ⟨nofun, ⟨⟨hi, hstarted, hsocket, hmap⟩, rfl, hnotify⟩⟩
    | newPair => exact ⟨nofun, ⟨⟨hi, hstarted, hsocket, hmap⟩, rfl, rfl⟩⟩
  | none =>
    cases hsub : env.subscriber with
    | none => exact absurd ⟨hf, hsub⟩ he
    | some text =>
      simp only [StreamSink.registerSubHandler, hstarted, Bool.false_eq_true, if_false,
        StreamSink.createSubscriberSocket, hsocket]
      rw [if_pos (by decide)]
      refine ⟨by simp, ⟨⟨?_, ?_, rfl, ?_⟩, rfl, rfl⟩⟩
      · simp [StreamSink.unregisterAllSubHandler, hi]
      · simp [StreamSink.unregisterAllSubHandler]
      · simp [StreamSink.unregisterAllSubHandler]

theorem initBase_works (args : InitArgs) (h : s.Closed) (he : env.Works) :
    (s.initBase args env).1.code = .ok ∧ (s.initBase args env).2.sink.isInit = true ∧
      (s.initBase args env).2.apiAddr = s.apiAddr ∧
      (s.initBase args env).2.subscriberAddr = s.subscriberAddr := by
  obtain ⟨⟨hi, hstarted, hsocket, -⟩, -, -⟩ := h
  unfold initBase
  rw [if_neg (by simp [hi]), he.1, he.2]
  simp only [StreamSink.registerSubHandler, hstarted, Bool.false_eq_true, if_false,
    StreamSink.createSubscriberSocket, hsocket, ne_eq, not_true_eq_false, and_self]

/-- Nothing stops the initialisation. -/
structure Succeeds (s : AddressedSink) (api sub : List Char) (env : InitBaseEnv) : Prop where
  isInit : s.sink.isInit = false
  api : Printable api
  sub : Printable sub
  works : env.Works

theorem Closed.clearAddrs (h : s.Closed) : s.clearAddrs.Closed := ⟨h.bare, h.heartbeat, h.notify⟩

/-- The sink when `InitBase` is called. -/
def withAddrs (s : AddressedSink) (apiAddr subscriberAddr : List Char) : AddressedSink :=
  { s with apiAddr := apiAddr, subscriberAddr := subscriberAddr }

theorem Closed.withAddrs (h : s.Closed) (apiAddr subscriberAddr : List Char) :
    (s.withAddrs apiAddr subscriberAddr).Closed := ⟨h.bare, h.heartbeat, h.notify⟩

theorem initAddrs_eq (args : InitArgs) (env : InitBaseEnv) (ha : Printable api)
    (hb : Printable sub) :
    s.initAddrs api sub args env =
      let r := (s.withAddrs (snprintf 255 api) (snprintf 255 sub)).initBase args env
      if r.1.code ≠ .ok then (r.1, r.2.clearAddrs) else r := by
  unfold initAddrs
  rw [formatAddr_ok ha]
  dsimp only
  rw [formatAddr_ok hb]
  rfl

theorem initAddrs_fails (args : InitArgs) (h : s.AddrInv) (hs : ¬ s.Succeeds api sub env) :
    (s.initAddrs api sub args env).1.code ≠ .ok ∧ (s.initAddrs api sub args env).2.apiAddr = [] ∧
      (s.sink.isInit = false → (s.initAddrs api sub args env).2.Closed) := by
  by_cases ha : Printable api
  · by_cases hb : Printable sub
    · rw [initAddrs_eq args env ha hb]
      dsimp only
      cases hi : s.sink.isInit with
      | true =>
        have hinit : (s.withAddrs (snprintf 255 api) (snprintf 255 sub)).sink.isInit = true := hi
        rw [initBase_of_isInit args env hinit]
        exact ⟨nofun, rfl, nofun⟩
      | false =>
        obtain ⟨hret, hclosed⟩ := initBase_fails args
          ((h.closed hi).withAddrs (snprintf 255 api) (snprintf 255 sub))
          fun he => hs ⟨hi, ha, hb, he⟩
        rw [if_pos hret]
        exact ⟨hret, rfl, fun _ => hclosed.clearAddrs⟩
    · obtain ⟨ret, hret, hne⟩ := formatAddr_error hb
      unfold initAddrs
      rw [formatAddr_ok ha]
      dsimp only
      rw [hret]
      exact ⟨hne, rfl, fun hi => (h.closed hi).withAddrs [] []⟩
  · obtain ⟨ret, hret, hne⟩ := formatAddr_error ha
    unfold initAddrs
    rw [hret]
    exact ⟨hne, rfl, fun hi => (h.closed hi).clearAddrs⟩

theorem initAddrs_succeeds (args : InitArgs) (h : s.AddrInv) (hs : s.Succeeds api sub env) :
    (s.initAddrs api sub args env).1.code = .ok ∧
      (s.initAddrs api sub args env).2.sink.isInit = true ∧
      (s.initAddrs api sub args env).2.apiAddr = snprintf 255 api ∧
      (s.initAddrs api sub args env).2.subscriberAddr = snprintf 255 sub := by
  have hw := initBase_works args
    ((h.closed hs.isInit).withAddrs (snprintf 255 api) (snprintf 255 sub)) hs.works
  rw [initAddrs_eq args env hs.api hs.sub]
  dsimp only
  rw [if_neg (not_not.2 hw.1)]
  exact hw

/-- When the common part is harmless, for any addresses. -/
theorem harmless_iff (h : s.AddrInv) (apiAddr subscriberAddr : List Char) :
    s.Harmless apiAddr subscriberAddr (s.initAddrs api sub args env) ↔
      s.sink.isInit = false ∧ (Printable api → Printable sub → env.Works →
        snprintf 255 api = apiAddr ∧ snprintf 255 sub = subscriberAddr) := by
  constructor
  · intro hh
    have hi : s.sink.isInit = false := by
      by_contra hi
      have hi' : s.sink.isInit = true := by simpa using hi
      have hno : ¬ s.Succeeds api sub env := fun hs => hi hs.isInit
      obtain ⟨hret, haddr, -⟩ := initAddrs_fails args h hno
      rw [hh.kept hret hi'] at haddr
      exact h.addr hi' haddr
    refine ⟨hi, fun ha hb he => ?_⟩
    obtain ⟨hret, -, hapi, hsub⟩ := initAddrs_succeeds args h ⟨hi, ha, hb, he⟩
    rw [← hapi, ← hsub]
    exact hh.complete hret
  · rintro ⟨hi, hc⟩
    by_cases hs : s.Succeeds api sub env
    · obtain ⟨hret, -, hapi, hsub⟩ := initAddrs_succeeds args h hs
      refine ⟨fun hne => absurd hret hne, fun hne => absurd hret hne, fun _ => ?_⟩
      rw [hapi, hsub]
      exact hc hs.api hs.sub hs.works
    · obtain ⟨hret, -, hclosed⟩ := initAddrs_fails args h hs
      exact ⟨fun _ hi' => absurd (hi.symm.trans hi') (by decide), fun _ => hclosed,
        fun h => absurd h hret⟩

/-! ## Complete addresses -/

theorem cStr_eq_self_iff (s : List Char) : cStr s = s ↔ Char.ofNat 0 ∉ s := by
  constructor
  · intro h hmem
    rw [← h] at hmem
    exact ne_of_mem_cStr hmem rfl
  · intro h
    apply cStr_eq_self
    rintro c hc rfl
    exact h hc

theorem length_cStr_le (s : List Char) : (cStr s).length ≤ s.length := (List.takeWhile_prefix _).length_le

/-- What is stored of a text is all of another one that is not shorter. -/
theorem snprintf_eq_iff {text full : List Char} (h : ∀ c ∈ text, c ≠ Char.ofNat 0)
    (hle : text.length ≤ full.length) :
    snprintf 255 text = full ↔ text.length ≤ 254 ∧ text = full := by
  constructor
  · intro heq
    have hstored : text.take 254 = full := by
      rw [← heq, snprintf, cStr_eq_self]
      exact fun c hc => h c (List.mem_of_mem_take hc)
    have hlen : min 254 text.length = full.length := by rw [← hstored, List.length_take]
    have hfits : text.length ≤ 254 := by omega
    rw [List.take_of_length_le hfits] at hstored
    exact ⟨hfits, hstored⟩
  · rintro ⟨hfits, rfl⟩
    exact snprintf_of_fits hfits h

theorem ne_of_mem_remoteAddr {ip : List Char} {port : Int} {c : Char}
    (h : c ∈ remoteAddr (cStr ip) port) : c ≠ Char.ofNat 0 := by
  simp only [remoteAddr, List.mem_append, List.mem_singleton] at h
  rcases h with ((h | h) | rfl) | h
  · rintro rfl
    exact absurd h (by decide)
  · exact ne_of_mem_cStr h
  · decide
  · exact ne_of_mem_decimal h

theorem ne_of_mem_localAddr {name kind : List Char} {c : Char}
    (hkind : Char.ofNat 0 ∉ kind) (h : c ∈ localAddr (cStr name) kind) :
    c ≠ Char.ofNat 0 := by
  simp only [localAddr, List.mem_append, List.mem_singleton] at h
  rcases h with ((((h | h) | rfl) | h) | rfl) | h
  · rintro rfl
    exact absurd h (by decide)
  · rintro rfl
    exact absurd h (by decide)
  · decide
  · exact ne_of_mem_cStr h
  · decide
  · rintro rfl
    exact hkind h

theorem remoteAddr_complete_iff (ip : List Char) (port : Int) :
    snprintf 255 (remoteAddr (cStr ip) port) = remoteAddr ip port ↔
      (remoteAddr (cStr ip) port).length ≤ 254 ∧ Char.ofNat 0 ∉ ip := by
  have hle : (remoteAddr (cStr ip) port).length ≤ (remoteAddr ip port).length := by
    have := length_cStr_le ip
    simp only [remoteAddr, List.length_append]
    omega
  rw [snprintf_eq_iff (fun c => ne_of_mem_remoteAddr) hle, ← cStr_eq_self_iff]
  simp only [remoteAddr, List.append_cancel_right_eq, List.append_cancel_left_eq]

theorem localAddr_complete_iff (name : List Char) {kind : List Char}
    (hkind : Char.ofNat 0 ∉ kind) :
    snprintf 255 (localAddr (cStr name) kind) = localAddr name kind ↔
      (localAddr (cStr name) kind).length ≤ 254 ∧ Char.ofNat 0 ∉ name := by
  have hle : (localAddr (cStr name) kind).length ≤ (localAddr name kind).length := by
    have := length_cStr_le name
    simp only [localAddr, List.length_append]
    omega
  rw [snprintf_eq_iff (fun c => ne_of_mem_localAddr hkind) hle, ← cStr_eq_self_iff]
  simp only [localAddr, List.append_cancel_right_eq, List.append_cancel_left_eq]

/-- The port after the largest one has a sign. -/
theorem remoteAddr_overflow (ip : List Char) :
    snprintf 255 (remoteAddr ip (Int32.maxValue + 1).toInt) ≠
      remoteAddr ip (Int32.maxValue.toInt + 1) := by
  intro h
  have hpre : remoteAddr ip (Int32.maxValue.toInt + 1) <+:
      remoteAddr ip (Int32.maxValue + 1).toInt := by
    rw [← h]
    exact (List.takeWhile_prefix _).trans (List.take_prefix _ _)
  have hdigits : decimal (Int32.maxValue.toInt + 1) = Nat.toDigits 10 2147483648 :=
    decimal_ofNat 2147483648
  have hsign : decimal (Int32.maxValue + 1).toInt = '-' :: decimal ((2147483648 : Nat) : Int) :=
    decimal_negSucc 2147483647
  simp only [remoteAddr, List.append_assoc, List.prefix_append_right_inj] at hpre
  rw [hdigits, hsign] at hpre
  obtain ⟨c, cs, hcs⟩ := List.exists_cons_of_ne_nil (Nat.toDigits_ne_nil (b := 10) (n := 2147483648))
  have hmem : c ∈ Nat.toDigits 10 2147483648 := by
    rw [hcs]
    exact .head _
  have hc : c.isDigit = true := Nat.isDigit_of_mem_toDigits (by decide) (by decide) hmem
  rw [hcs, List.cons_prefix_cons] at hpre
  rw [hpre.1] at hc
  exact absurd hc (by decide)

theorem add_one_toInt {port : Int32} (h : port ≠ Int32.maxValue) :
    (port + 1).toInt = port.toInt + 1 := by
  have hne : port.toInt ≠ 2147483647 := fun he => h (Int32.toInt_inj.1 he)
  have hlt := port.toInt_lt
  have hle := port.le_toInt
  rw [Int32.toInt_add]
  apply Int.bmod_eq_of_le
  · show _ ≤ port.toInt + 1
    omega
  · show port.toInt + 1 < _
    omega

theorem remoteAddrs_complete_iff (ip : List Char) (port : Int32) :
    (snprintf 255 (remoteAddr (cStr ip) port.toInt) = remoteAddr ip port.toInt ∧
      snprintf 255 (remoteAddr (cStr ip) (port + 1).toInt) = remoteAddr ip (port.toInt + 1)) ↔
    Char.ofNat 0 ∉ ip ∧ port ≠ Int32.maxValue ∧
      Fits (remoteAddr (cStr ip) port.toInt) (remoteAddr (cStr ip) (port + 1).toInt) := by
  by_cases hmax : port = Int32.maxValue
  · subst hmax
    constructor
    · rintro ⟨hapi, hsub⟩
      have hnul := ((remoteAddr_complete_iff ip _).1 hapi).2
      rw [(cStr_eq_self_iff ip).2 hnul] at hsub
      exact absurd hsub (remoteAddr_overflow ip)
    · rintro ⟨-, hne, -⟩
      exact absurd rfl hne
  · rw [add_one_toInt hmax, remoteAddr_complete_iff, remoteAddr_complete_iff]
    constructor
    · rintro ⟨⟨hapi, hnul⟩, hsub, -⟩
      exact ⟨hnul, hmax, hapi, hsub⟩
    · rintro ⟨hnul, -, hapi, hsub⟩
      exact ⟨⟨hapi, hnul⟩, hsub, hnul⟩

/-! ## Every run -/

variable {pb : Protobuf}

theorem harmless_unchanged {ret : Ret} (h : s.AddrInv) (hret : ret.code ≠ .ok)
    (apiAddr subscriberAddr : List Char) : s.Harmless apiAddr subscriberAddr (ret, s) :=
  ⟨fun _ _ => rfl, fun _ => h.closed, fun hok => absurd hok hret⟩

theorem initHarmless_iff (h : s.AddrInv) (e : AddrOp) : s.InitHarmless e ↔ s.InitOnce e := by
  cases e with
  | initRemote ip port args env =>
    show s.Harmless _ _ (s.initRemote ip port args env) ↔ _
    unfold initRemote InitOnce
    by_cases hip : ip.length = 0
    · rw [if_pos (.inl hip)]
      exact ⟨fun _ => .inl hip, fun _ => harmless_unchanged h (by decide) _ _⟩
    · by_cases hport : port = 0
      · rw [if_pos (.inr hport)]
        exact ⟨fun _ => .inr (.inl hport), fun _ => harmless_unchanged h (by decide) _ _⟩
      · rw [if_neg (not_or.2 ⟨hip, hport⟩), harmless_iff h, remoteAddrs_complete_iff]
        exact ⟨fun hc => .inr (.inr hc), fun hc => (hc.resolve_left hip).resolve_left hport⟩
  | initLocal name args env =>
    show s.Harmless _ _ (s.initLocal name args env) ↔ _
    unfold initLocal InitOnce
    by_cases hname : name.length = 0
    · rw [if_pos hname]
      exact ⟨fun _ => .inl hname, fun _ => harmless_unchanged h (by decide) _ _⟩
    · rw [if_neg hname, harmless_iff h, localAddr_complete_iff name (by decide),
        localAddr_complete_iff name (by decide)]
      have hiff : ∀ {p q r : Prop}, (p ∧ r) ∧ q ∧ r ↔ r ∧ p ∧ q := by tauto
      rw [hiff]
      exact ⟨fun hc => .inr hc, fun hc => hc.resolve_left hname⟩
  | uninit => exact Iff.rfl
  | other op => exact Iff.rfl

theorem AddrInv.of_closed (h : s.Closed) : s.AddrInv := by
  refine ⟨fun hi => ?_, fun _ => h, fun hs => ?_⟩
  · exact absurd (h.bare.init.symm.trans hi) (by decide)
  · exact absurd (h.bare.started.symm.trans hs) (by decide)

theorem AddrInv.of_isInit (hi : s.sink.isInit = true) (ha : s.apiAddr ≠ []) : s.AddrInv :=
  ⟨fun _ => ha, fun hno => absurd (hno.symm.trans hi) (by decide), fun _ => hi⟩

theorem AddrInv.lifeInv (h : s.AddrInv) : s.sink.LifeInv :=
  ⟨h.started, fun hi => (h.closed hi).bare.handlers, fun hi => (h.closed hi).bare.socket⟩

/-- The text of an address is never empty. -/
theorem addrInv_initAddrs {c : Char} {cs : List Char} (hapi : api = c :: cs) (hc : c ≠ Char.ofNat 0)
    (h : s.AddrInv) (hi : s.sink.isInit = false) (args : InitArgs) (env : InitBaseEnv) :
    (s.initAddrs api sub args env).2.AddrInv := by
  by_cases hs : s.Succeeds api sub env
  · obtain ⟨-, hinit, haddr, -⟩ := initAddrs_succeeds args h hs
    refine .of_isInit hinit ?_
    rw [haddr, hapi]
    simp [snprintf, cStr, hc]
  · exact .of_closed ((initAddrs_fails args h hs).2.2 hi)

theorem addrInv_step (h : s.AddrInv) {e : AddrOp} (hc : s.InitOnce e)
    (he : s.addrStep pb e = some s') : s'.AddrInv := by
  cases e with
  | initRemote ip port args env =>
    cases he
    unfold initRemote
    split
    · exact h
    · next hno =>
      have hi : s.sink.isInit = false := by
        rcases hc with hip | hport | hc
        · exact absurd (.inl hip) hno
        · exact absurd (.inr hport) hno
        · exact hc.1
      exact addrInv_initAddrs rfl (by decide) h hi args env
  | initLocal name args env =>
    cases he
    unfold initLocal
    split
    · exact h
    · next hno => exact addrInv_initAddrs rfl (by decide) h (hc.resolve_left hno).1 args env
  | uninit =>
    cases he
    unfold uninit
    split
    · exact h
    · next hi =>
      have hi' : s.sink.isInit = true := by simpa using hi
      obtain ⟨w, hw⟩ := s.sink.uninit_eq hi'
      exact .of_closed ⟨h.lifeInv.uninit, by rw [hw], rfl⟩
  | other op =>
    simp only [addrStep] at he
    split at he
    · next ho =>
      obtain ⟨sink, hstep, rfl⟩ := Option.map_eq_some_iff.1 he
      rcases StreamSink.lifeStep_other ho h.lifeInv hstep with rfl | ⟨hi, hi'⟩
      · exact h
      · exact .of_isInit hi' (h.addr hi)
    · cases he

theorem addrInv_new : AddrInv {} := .of_closed ⟨⟨rfl, rfl, rfl, rfl⟩, rfl, rfl⟩

/-- **Along every run, initialisations are harmless and store complete addresses exactly when
each is made once and its texts fit.** -/
theorem init_harmless_iff (es : List AddrOp) :
    Each (addrStep pb) InitHarmless {} es ↔ Each (addrStep pb) InitOnce {} es :=
  each_iff (fun _ _ _ h hc he => addrInv_step h hc he) (fun _ e h => initHarmless_iff h e)
    addrInv_new

/-- A host name that leaves room for one digit of the port. -/
def longHost : List Char := List.replicate 245 'h'

/-- A second initialisation fails and takes the addresses of the first one away; a long host name
loses digits of its port. -/
theorem second_init_clears :
    (({} : AddressedSink).initRemote ['h'] 80 {} {}).2.apiAddr =
      ['>', 't', 'c', 'p', ':', '/', '/', 'h', ':', '8', '0'] ∧
    ((({} : AddressedSink).initRemote ['h'] 80 {} {}).2.initRemote ['h'] 80 {} {}).1.code =
      .general ∧
    ((({} : AddressedSink).initRemote ['h'] 80 {} {}).2.initRemote ['h'] 80 {} {}).2.apiAddr = [] ∧
    (({} : AddressedSink).initRemote longHost 50000 {} {}).1.code = .ok ∧
    (({} : AddressedSink).initRemote longHost 50000 {} {}).2.apiAddr =
      remoteAddr longHost 5 ∧
    ¬ Each (addrStep wireProtobuf) InitHarmless {}
      [.initRemote ['h'] 80 {} {}, .initRemote ['h'] 80 {} {}] := by
  refine ⟨by decide +kernel, by decide +kernel, by decide +kernel, by decide +kernel,
    by decide +kernel, fun h => ?_⟩
  have hkept := (h.2 _ rfl).1.kept (by decide +kernel) (by decide +kernel)
  have haddr := congrArg AddressedSink.apiAddr hkept
  exact absurd haddr (by decide +kernel)

end AddressedSink

end StreamSwitch
