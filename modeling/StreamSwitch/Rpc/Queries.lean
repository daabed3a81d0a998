import StreamSwitch.Rpc.Replies

/-!
# The queries of a stream sink

`ClientList` and `ReceiverStatistic` of `stsw_stream_sink.cc`, beside `KeyFrame`,
`UpdateStreamMetaData` and `SourceStatistic`: what they make of the return of
`SendRpcRequest` and of the objects their caller passes in.

`results_contract_iff`: along a run, `SendRpcRequest` returns 0 exactly when it has
stored a reply to its request, and its callers follow no NULL result, if and only if no
receive is interrupted and no received message is empty.

`queries_independent_iff`: what a query leaves in the caller's object does not depend on
what was there if and only if nothing was there that the query adds to.
-/

namespace StreamSwitch

open Run

/-! ## The calls -/

/-- The client that an entry of a reply describes. -/
def ProtoClientHeartbeatReq.toClientInfo (c : ProtoClientHeartbeatReq) : StreamClientInfo :=
  { clientIp := c.clientIp.getD ""
    clientIpVersion := c.clientIpVersion.getD .v4
    clientPort := c.clientPort.getD 0
    clientProtocol := c.clientProtocol.getD ""
    clientText := c.clientText.getD ""
    clientToken := c.clientToken.getD ""
    lastActiveTime := c.lastActiveTime.getD 0 }

/-- What `ClientList` returns, the sink it leaves and the objects behind its pointers. -/
structure ClientsQueried where
  ret : Ret
  sink : StreamSink
  totalNum : Option UInt32
  clientList : Option (List StreamClientInfo)

namespace StreamSink

/-- The request of `ClientList`. -/
def clientListRequest (clientListReq : Codec ProtoClientListReq) (s : StreamSink)
    (startIndex requestNum : UInt32) : ProtoCommonPacket :=
  { header := some { type := some .request, seq := some s.nextSeq, code := some codeClientList }
    body := some (clientListReq.encode
      { clientNum := some requestNum, startIndex := some startIndex }) }

def clientList (clientListRep : Codec ProtoClientListRep) (s : StreamSink) (rpc : RpcOutcome)
    (totalNum : Option UInt32) (clients : Option (List StreamClientInfo)) :
    Except Fault ClientsQueried :=
  let s := { s with nextSeq := s.nextSeq + 1 }
  match rpc with
  | .failed code _ errInfo => .ok ⟨⟨code, errInfo⟩, s, totalNum, clients⟩
  | .interrupted => .error .nullPointer
  | .reply reply =>
    let ret := replyStatus2ErrorCode reply
    if ret.code ≠ .ok then .ok ⟨ret, s, totalNum, clients⟩
    else
      match clientListRep.decode reply.getBody with
      | none =>
        .ok ⟨⟨.parse, "reply body parse to client_list error"⟩, s, totalNum, clients⟩
      | some rep => .ok
        { ret := ⟨.ok, ""⟩
          sink := s
          totalNum := totalNum.map fun _ => rep.totalNum.getD 0
          -- `push_back` onto the list that is there
          clientList := clients.map (· ++ rep.clientList.map (·.toClientInfo)) }

/-- `ReceiverStatistic` at the time `timestamp`. -/
def receiverStatistic (s : StreamSink) (timestamp : Int64)
    (statistic : Option MediaStatisticInfo) : Option MediaStatisticInfo :=
  statistic.map fun info =>
    { ssrc := s.streamMeta.ssrc
      timestamp := timestamp
      subStreams := s.statistic
      sumBytes := s.statistic.foldl (fun sum sub => sum + sub.dataBytes) info.sumBytes }

end StreamSink

/-! ## Results and their contract -/

/-- What is decided: the code that a call returns and what it has stored in `*result`. -/
def RpcState.decided : RpcState → Option RpcReturn
  | .error2 _ r | .error1 _ r | .returned r => some r
  | _ => none

/-- The return of `SendRpcRequest` as its callers see it. -/
def RpcReturn.outcome (r : RpcReturn) : RpcOutcome :=
  if h : r.ret.code = .ok then
    match r.result with
    | none => .interrupted
    | some res => .reply res.reply
  else .failed r.ret.code h r.ret.errInfo

/-- None of the callers follows a NULL result. -/
structure RpcOutcome.NeverNull (pb : ApiProtobuf) (rpc : RpcOutcome) : Prop where
  metadata : ∀ s : StreamSink, s.updateStreamMetaData pb.toProtobuf rpc ≠ .error .nullPointer
  statistic : ∀ (s : StreamSink) info,
    s.sourceStatistic pb.mediaStatisticRep rpc info ≠ .error .nullPointer
  keyFrame : ∀ s : StreamSink, s.keyFrame rpc ≠ .error .nullPointer
  clients : ∀ (s : StreamSink) n l, s.clientList pb.clientListRep rpc n l ≠ .error .nullPointer

/-- The contract of `SendRpcRequest` with its callers. -/
structure RpcReturn.Contract (pb : ApiProtobuf) (request : ProtoCommonPacket) (r : RpcReturn) :
    Prop where
  ok_iff : r.ret.code = .ok ↔ ∃ res, r.result = some res ∧ res.reply.type = .reply ∧
    res.reply.seq = request.seq ∧ res.reply.code = request.code
  untouched : r.ret.code ≠ .ok → r.result = none
  neverNull : r.outcome.NeverNull pb

section contract
variable {pb : ApiProtobuf} {request : ProtoCommonPacket} {r : RpcReturn}

theorem RpcOutcome.neverNull_failed {code : ErrorCode} (h : code ≠ .ok) (text : String) :
    (RpcOutcome.failed code h text).NeverNull pb where
  metadata s := by
    unfold StreamSink.updateStreamMetaData
    split <;> rintro ⟨⟩
  statistic s info := by
    cases info <;> rintro ⟨⟩
  keyFrame s := by rintro ⟨⟩
  clients s n l := by rintro ⟨⟩

theorem RpcOutcome.neverNull_reply (reply : ProtoCommonPacket) :
    (RpcOutcome.reply reply).NeverNull pb where
  metadata s := by
    unfold StreamSink.updateStreamMetaData
    split
    · rintro ⟨⟩
    · dsimp only
      split
      · rintro ⟨⟩
      · split <;> rintro ⟨⟩
  statistic s info := by
    cases info with
    | none => rintro ⟨⟩
    | some info =>
      simp only [StreamSink.sourceStatistic]
      split
      · rintro ⟨⟩
      · split <;> rintro ⟨⟩
  keyFrame s := by rintro ⟨⟩
  clients s n l := by
    simp only [StreamSink.clientList]
    split
    · rintro ⟨⟩
    · split <;> rintro ⟨⟩

/-- An error without a result. -/
theorem RpcReturn.Contract.of_error (hc : r.ret.code ≠ .ok) (hn : r.result = none) :
    r.Contract pb request where
  ok_iff := by simp [hc, hn]
  untouched _ := hn
  neverNull := by
    unfold RpcReturn.outcome
    rw [dif_neg hc]
    exact RpcOutcome.neverNull_failed hc _

theorem RpcReturn.Contract.of_reply {res : RpcResult} (hc : r.ret.code = .ok)
    (hr : r.result = some res) (ht : res.reply.type = .reply) (hseq : res.reply.seq = request.seq)
    (hcode : res.reply.code = request.code) : r.Contract pb request where
  ok_iff := ⟨fun _ => ⟨res, hr, ht, hseq, hcode⟩, fun _ => hc⟩
  untouched h := absurd hc h
  neverNull := by
    unfold RpcReturn.outcome
    rw [dif_pos hc, hr]
    exact RpcOutcome.neverNull_reply _

/-- A call may not return 0 without a result. -/
theorem RpcReturn.not_contract (hc : r.ret.code = .ok) (hn : r.result = none) :
    ¬ r.Contract pb request := by
  intro h
  obtain ⟨res, hres, -⟩ := h.ok_iff.1 hc
  rw [hn] at hres
  cases hres

end contract

namespace RpcSystem

variable (pb : ApiProtobuf)

def ContractsKept (y : RpcSystem) : Prop :=
  Pool.EachCall (fun _ call => ∀ r, call.state.decided = some r → r.Contract pb call.request) y.calls

/-- After the step, all calls keep the contract. -/
def KeepsContracts (y : RpcSystem) (e : RpcEvent) : Prop :=
  ∀ y', rpcStep pb.toProtobuf y e = some y' → y'.ContractsKept pb

/-- No receive is interrupted, and no received message is empty. -/
def ReceivesWhole (y : RpcSystem) : RpcEvent → Prop
  | .step c .interrupted => rpcStep pb.toProtobuf y (.step c .interrupted) = none
  | .step c .checkReply => ∀ call k, y.calls[c]? = some call → call.state ≠ .received k []
  | _ => True

variable {pb} {y y' : RpcSystem} {c : Nat} {call : RpcCall}

theorem undecided {state : RpcState} (h : state.decided = none) {P : RpcReturn → Prop} :
    ∀ r, state.decided = some r → P r := by
  intro r hr
  rw [h] at hr
  cases hr

theorem decidedAs {state : RpcState} {r : RpcReturn} (h : state.decided = some r)
    {P : RpcReturn → Prop} (hP : P r) : ∀ r', state.decided = some r' → P r' := by
  intro r' hr
  rw [h] at hr
  exact Option.some.inj hr ▸ hP

theorem checkArgs_error {s : StreamSink} {args : RpcArgs} {ret : Ret}
    (h : s.checkArgs args = .error ret) : ret.code = .param := by
  unfold StreamSink.checkArgs at h
  split at h
  · cases h
    rfl
  · split at h
    · cases h
      rfl
    split at h
    · cases h
      rfl
    split at h
    · cases h
      rfl
    split at h
    · cases h
      rfl
    · cases h

theorem beginCall_contract (s : StreamSink) (args : RpcArgs) :
    ∀ r, (s.beginCall args).state.decided = some r → r.Contract pb (s.beginCall args).request := by
  intro r hr
  unfold StreamSink.beginCall at hr ⊢
  cases hargs : s.checkArgs args with
  | ok request =>
    rw [hargs] at hr
    cases hr
  | error ret =>
    rw [hargs] at hr
    cases hr
    exact .of_error (by rw [checkArgs_error hargs]; decide) rfl

theorem checkReply_contract {k : Nat} {inZmsg : List Bytes} (hne : inZmsg ≠ []) :
    ∀ r, (call.checkReply pb.toProtobuf k inZmsg).decided = some r → r.Contract pb call.request := by
  obtain ⟨inFrame, rest, rfl⟩ := List.exists_cons_of_ne_nil hne
  cases hd : pb.commonPacket.decode inFrame with
  | none =>
    have hstate : call.checkReply pb.toProtobuf k (inFrame :: rest) =
        .error1 k { ret := ⟨.general, "Reply Parse Error"⟩ } := by simp only [RpcCall.checkReply, hd]
    rw [hstate]
    exact decidedAs rfl (.of_error (by decide) rfl)
  | some reply =>
    by_cases hc : reply.type ≠ .reply ∨ call.request.seq ≠ reply.seq ∨ call.request.code ≠ reply.code
    · have hstate : call.checkReply pb.toProtobuf k (inFrame :: rest) =
          .error2 k { ret := ⟨.general, "Received Reply basic info error"⟩ } := by
        simp only [RpcCall.checkReply, hd, if_pos hc]
      rw [hstate]
      exact decidedAs rfl (.of_error (by decide) rfl)
    · have hstate : call.checkReply pb.toProtobuf k (inFrame :: rest) =
          .error2 k { result := some ⟨reply, rest.head?⟩ } := by
        simp only [RpcCall.checkReply, hd, if_neg hc]
      rw [hstate]
      simp only [not_or, ne_eq, not_not] at hc
      exact decidedAs rfl (.of_reply rfl rfl hc.1 hc.2.1.symm hc.2.2.symm)

/-- What a step decides keeps the contract, unless the receive was interrupted or empty. -/
theorem callStep_contract (hok : ∀ r, call.state.decided = some r → r.Contract pb call.request)
    {e : CallEvent} (hi : e ≠ .interrupted)
    (hempty : e = .checkReply → ∀ k, call.state ≠ .received k [])
    (he : y.callStep pb.toProtobuf c call e = some y') :
    ∃ state, y'.calls = y.calls.set c { call with state := state } ∧
      ∀ r, state.decided = some r → r.Contract pb call.request := by
  simp only [callStep] at he
  split at he
  · cases he
    exact ⟨_, rfl, undecided rfl⟩
  · cases he
    exact ⟨_, rfl, undecided rfl⟩
  · cases he
    exact ⟨_, rfl, decidedAs rfl (.of_error (by decide) rfl)⟩
  · cases he
    exact ⟨_, rfl, decidedAs rfl (.of_error (by decide) rfl)⟩
  · cases he
    exact ⟨_, rfl, undecided rfl⟩
  · cases he
    exact ⟨_, rfl, undecided rfl⟩
  · cases he
    exact ⟨_, rfl, decidedAs rfl (.of_error (by decide) rfl)⟩
  · obtain ⟨m, hm, rfl⟩ := Option.map_eq_some_iff.1 he
    exact ⟨_, rfl, undecided rfl⟩
  · exact absurd rfl hi
  · -- the received message is checked
    next k inZmsg hst =>
    cases he
    exact ⟨_, rfl, checkReply_contract fun h => hempty rfl k (h ▸ hst)⟩
  · next k r hst =>
    have hr := hok r (by rw [hst]; rfl)
    split at he
    · cases he
      exact ⟨_, rfl, decidedAs rfl hr⟩
    · cases he
      exact ⟨_, rfl, decidedAs rfl hr⟩
  · next k r hst =>
    have hr := hok r (by rw [hst]; rfl)
    cases he
    exact ⟨_, rfl, decidedAs rfl hr⟩
  · cases he

/-- A receive that is interrupted, or brings an empty message, decides for 0 and no result. -/
theorem callStep_breaks {e : CallEvent}
    (hb : e = .interrupted ∨ e = .checkReply ∧ ∃ k, call.state = .received k [])
    (hc : y.calls[c]? = some call) (he : y.callStep pb.toProtobuf c call e = some y') :
    ¬ y'.ContractsKept pb := by
  have hlt : c < y.calls.length := (List.getElem?_eq_some_iff.1 hc).1
  have hbad : ∃ k, y'.calls = y.calls.set c { call with state := .error1 k {} } := by
    rcases hb with rfl | ⟨rfl, k, hst⟩
    · cases hst : call.state with
      | sent k ok =>
        cases ok with
        | true =>
          simp only [callStep, hst] at he
          obtain ⟨m, -, rfl⟩ := Option.map_eq_some_iff.1 he
          exact ⟨k, rfl⟩
        | false => simp [callStep, hst] at he
      | _ => simp [callStep, hst] at he
    · simp only [callStep, hst, RpcCall.checkReply] at he
      cases he
      exact ⟨k, rfl⟩
  obtain ⟨k, hcalls⟩ := hbad
  intro h
  refine RpcReturn.not_contract rfl rfl (h c { call with state := .error1 k {} } ?_ {} rfl)
  rw [hcalls, List.getElem?_set_self hlt]

theorem contractsKept_step (h : y.ContractsKept pb) {e : RpcEvent} (hw : y.ReceivesWhole pb e)
    (he : rpcStep pb.toProtobuf y e = some y') : y'.ContractsKept pb := by
  cases e with
  | getNextSeq =>
    cases he
    exact h
  | call args =>
    cases he
    exact Pool.EachCall.append h (beginCall_contract _ _)
  | step c e =>
    have he' := he
    obtain ⟨call, hc, he⟩ := Option.bind_eq_some_iff.1 he
    have hi : e ≠ .interrupted := by
      rintro rfl
      rw [show rpcStep pb.toProtobuf y (.step c .interrupted) = none from hw] at he'
      cases he'
    have hempty : e = .checkReply → ∀ k, call.state ≠ .received k [] := by
      rintro rfl k
      exact hw call k hc
    obtain ⟨state, hcalls, hok⟩ := callStep_contract (h c call hc) hi hempty he
    unfold ContractsKept
    rw [hcalls]
    exact Pool.EachCall.set h hok
  | answer i frames =>
    obtain ⟨n, -, rfl⟩ := Option.map_eq_some_iff.1 he
    exact h
  | uninit =>
    simp only [rpcStep] at he
    split at he
    · cases he
      unfold uninit
      split
      · exact h
      · split <;> exact h
    · cases he

theorem keepsContracts_iff (h : y.ContractsKept pb) (e : RpcEvent) :
    y.KeepsContracts pb e ↔ y.ReceivesWhole pb e := by
  refine ⟨fun hk => ?_, fun hw y' he => contractsKept_step h hw he⟩
  cases e with
  | step c e =>
    have hbreak : ∀ call y', y.calls[c]? = some call → y.callStep pb.toProtobuf c call e = some y' →
        y'.ContractsKept pb := by
      intro call y' hc he
      exact hk y' (Option.bind_eq_some_iff.2 ⟨call, hc, he⟩)
    cases e with
    | interrupted =>
      refine Option.eq_none_iff_forall_ne_some.2 fun y' he => ?_
      obtain ⟨call, hc, he⟩ := Option.bind_eq_some_iff.1 he
      exact callStep_breaks (.inl rfl) hc he (hbreak call y' hc he)
    | checkReply =>
      intro call k hc hst
      have he : y.callStep pb.toProtobuf c call .checkReply =
          some (y.goto c call (call.checkReply pb.toProtobuf k [])) := by
        simp only [callStep, hst]
      exact callStep_breaks (.inr ⟨rfl, k, hst⟩) hc he (hbreak call _ hc he)
    | _ => trivial
  | _ => trivial

/-- **Along every run of calls, `SendRpcRequest` keeps its contract exactly when every message is
received whole.** -/
theorem results_contract_iff (sink : StreamSink) (es : List RpcEvent) :
    Each (rpcStep pb.toProtobuf) (KeepsContracts pb) { sink := sink } es ↔
      Each (rpcStep pb.toProtobuf) (ReceivesWhole pb) { sink := sink } es := by
  refine each_iff (fun y e y' hy hc he => (keepsContracts_iff hy e).2 hc y' he)
    (fun y e hy => keepsContracts_iff hy e) ?_
  exact Pool.EachCall.nil _

def statisticRequest (seq : UInt32) : ProtoCommonPacket :=
  { header := some
      { type := some .request, seq := some seq, code := some codeMediaStatistic } }

/-- A request for statistics whose receive is interrupted. -/
def interruptedCall : List RpcEvent :=
  [.call fun seq => { request := some (statisticRequest seq), timeout := 5000 },
    .step 0 .takeSocket, .step 0 (.newSocket true), .step 0 (.send .sent), .answer 0 [[]],
    .step 0 .interrupted, .step 0 .destroySocket]

/-- `SendRpcRequest` returns 0 without a result, and `SourceStatistic` follows it. -/
theorem interrupted_returns_zero :
    (∃ y, exec (rpcStep wireApiProtobuf.toProtobuf) { sink := .initBase {} true } interruptedCall =
      some y ∧ y.calls.map (·.state.decided) = [some {}]) ∧
    ¬ Each (rpcStep wireApiProtobuf.toProtobuf) (KeepsContracts wireApiProtobuf)
      { sink := .initBase {} true } interruptedCall := by
  refine ⟨⟨_, rfl, rfl⟩, fun h => ?_⟩
  have hkept := (((((h.2 _ rfl).2 _ rfl).2 _ rfl).2 _ rfl).2 _ rfl).1 _ rfl
  exact RpcReturn.not_contract rfl rfl (hkept 0 _ rfl _ rfl)

end RpcSystem

/-! ## The caller's objects -/

theorem foldl_dataBytes (l : List SubStreamMediaStatistic) (n : UInt64) :
    l.foldl (fun sum sub => sum + sub.dataBytes) n =
      n + l.foldl (fun sum sub => sum + sub.dataBytes) 0 := by
  induction l generalizing n with
  | nil => simp
  | cons st l ih => rw [List.foldl_cons, ih, List.foldl_cons, ih (0 + _), UInt64.zero_add,
      UInt64.add_assoc]

namespace StreamSink

variable {pb : ApiProtobuf} {s : StreamSink} {rpc : RpcOutcome}

/-- The reply is a success and its body parses. -/
def Answers {α : Type} (codec : Codec α) (rpc : RpcOutcome) (rep : α) : Prop :=
  ∃ reply, rpc = .reply reply ∧ reply.status = statusOk ∧ codec.decode reply.getBody = some rep

/-- On success, `SourceStatistic` leaves the same in two objects. -/
def StatisticAgrees (pb : ApiProtobuf) (s : StreamSink) (rpc : RpcOutcome)
    (a b : MediaStatisticInfo) : Prop :=
  ∀ r r', s.sourceStatistic pb.mediaStatisticRep rpc (some a) = .ok r →
    s.sourceStatistic pb.mediaStatisticRep rpc (some b) = .ok r' →
    r.ret.code = .ok → r'.ret.code = .ok → r.statistic = r'.statistic

/-- On success, the object of `SourceStatistic` has one entry for each of the reply. -/
def StatisticExact (pb : ApiProtobuf) (s : StreamSink) (rpc : RpcOutcome)
    (a : MediaStatisticInfo) : Prop :=
  ∀ r rep, s.sourceStatistic pb.mediaStatisticRep rpc (some a) = .ok r →
    Answers pb.mediaStatisticRep rpc rep →
    ∃ out, r.statistic = some out ∧ out.subStreams = rep.subStreamStats.map (·.toStatistic)

/-- On success, `ClientList` leaves the same in two pairs of objects. -/
def ClientsAgree (pb : ApiProtobuf) (s : StreamSink) (rpc : RpcOutcome) (n n' : UInt32)
    (l l' : List StreamClientInfo) : Prop :=
  ∀ r r', s.clientList pb.clientListRep rpc (some n) (some l) = .ok r →
    s.clientList pb.clientListRep rpc (some n') (some l') = .ok r' →
    r.ret.code = .ok → r'.ret.code = .ok → r.totalNum = r'.totalNum ∧ r.clientList = r'.clientList

theorem receiverStatistic_agrees_iff (s : StreamSink) (t : Int64) (a b : MediaStatisticInfo) :
    s.receiverStatistic t (some a) = s.receiverStatistic t (some b) ↔ a.sumBytes = b.sumBytes := by
  simp only [receiverStatistic, Option.map_some, Option.some.injEq, MediaStatisticInfo.mk.injEq,
    true_and, and_true]
  rw [foldl_dataBytes, foldl_dataBytes _ b.sumBytes, UInt64.add_left_inj]

/-- `sum_bytes` is the sum of the entries exactly when it was 0 before. -/
theorem receiverStatistic_exact_iff (s : StreamSink) (t : Int64) (a : MediaStatisticInfo) :
    (∀ out, s.receiverStatistic t (some a) = some out →
      out.sumBytes = out.subStreams.foldl (fun sum sub => sum + sub.dataBytes) 0) ↔
      a.sumBytes = 0 := by
  simp only [receiverStatistic, Option.map_some, Option.some.injEq, forall_eq']
  rw [foldl_dataBytes, UInt64.add_eq_right]

theorem sourceStatistic_answers (s : StreamSink) {rep : ProtoMediaStatisticRep}
    (h : Answers pb.mediaStatisticRep rpc rep) (a : MediaStatisticInfo) :
    s.sourceStatistic pb.mediaStatisticRep rpc (some a) =
      .ok ⟨⟨.ok, ""⟩, { s with nextSeq := s.nextSeq + 1 }, some (a.fill rep)⟩ := by
  obtain ⟨reply, rfl, hst, hd⟩ := h
  exact sourceStatistic_ok _ s a hst hd

theorem sourceStatistic_succeeds {a : MediaStatisticInfo} {r : StatisticQueried}
    (h : s.sourceStatistic pb.mediaStatisticRep rpc (some a) = .ok r) (hr : r.ret.code = .ok) :
    ∃ rep, Answers pb.mediaStatisticRep rpc rep := by
  cases rpc with
  | failed code hc text =>
    cases h
    exact absurd hr hc
  | interrupted => cases h
  | reply reply =>
    simp only [sourceStatistic] at h
    split at h
    · next hne =>
      cases h
      exact absurd hr hne
    · next hok =>
      split at h
      · cases h
        cases hr
      · next rep hd =>
        exact ⟨rep, reply, rfl, (replyStatus2ErrorCode_ok reply).1 (not_not.1 hok), hd⟩

theorem statisticAgrees_iff (s : StreamSink) (rpc : RpcOutcome) (a b : MediaStatisticInfo) :
    StatisticAgrees pb s rpc a b ↔
      ((∃ rep, Answers pb.mediaStatisticRep rpc rep) → a.subStreams = b.subStreams) := by
  constructor
  · rintro h ⟨rep, hrep⟩
    have := h _ _ (sourceStatistic_answers s hrep a) (sourceStatistic_answers s hrep b) rfl rfl
    simpa [MediaStatisticInfo.fill] using this
  · intro h r r' hr hr' hok _
    obtain ⟨rep, hrep⟩ := sourceStatistic_succeeds hr hok
    rw [sourceStatistic_answers s hrep] at hr hr'
    cases hr
    cases hr'
    simp [MediaStatisticInfo.fill, h ⟨rep, hrep⟩]

theorem statisticExact_iff (s : StreamSink) (rpc : RpcOutcome) (a : MediaStatisticInfo) :
    StatisticExact pb s rpc a ↔
      ((∃ rep, Answers pb.mediaStatisticRep rpc rep) → a.subStreams = []) := by
  constructor
  · rintro h ⟨rep, hrep⟩
    obtain ⟨out, hout, hsubs⟩ := h _ rep (sourceStatistic_answers s hrep a) hrep
    cases hout
    simpa [MediaStatisticInfo.fill] using hsubs
  · intro h r rep hr hrep
    rw [sourceStatistic_answers s hrep] at hr
    cases hr
    exact ⟨_, rfl, by simp [MediaStatisticInfo.fill, h ⟨rep, hrep⟩]⟩

theorem clientList_answers (s : StreamSink) {rep : ProtoClientListRep}
    (h : Answers pb.clientListRep rpc rep) (n : UInt32) (l : List StreamClientInfo) :
    s.clientList pb.clientListRep rpc (some n) (some l) =
      .ok ⟨⟨.ok, ""⟩, { s with nextSeq := s.nextSeq + 1 }, some (rep.totalNum.getD 0),
        some (l ++ rep.clientList.map (·.toClientInfo))⟩ := by
  obtain ⟨reply, rfl, hst, hd⟩ := h
  have hok := (replyStatus2ErrorCode_ok reply).2 hst
  simp only [clientList, hok, hd, ne_eq, not_true_eq_false, if_false, Option.map_some]

theorem clientList_succeeds {n : UInt32} {l : List StreamClientInfo} {r : ClientsQueried}
    (h : s.clientList pb.clientListRep rpc (some n) (some l) = .ok r) (hr : r.ret.code = .ok) :
    ∃ rep, Answers pb.clientListRep rpc rep := by
  cases rpc with
  | failed code hc text =>
    cases h
    exact absurd hr hc
  | interrupted => cases h
  | reply reply =>
    simp only [clientList] at h
    split at h
    · next hne =>
      cases h
      exact absurd hr hne
    · next hok =>
      split at h
      · cases h
        cases hr
      · next rep hd =>
        exact ⟨rep, reply, rfl, (replyStatus2ErrorCode_ok reply).1 (not_not.1 hok), hd⟩

theorem clientsAgree_iff (s : StreamSink) (rpc : RpcOutcome) (n n' : UInt32)
    (l l' : List StreamClientInfo) :
    ClientsAgree pb s rpc n n' l l' ↔
      ((∃ rep, Answers pb.clientListRep rpc rep) → l = l') := by
  constructor
  · rintro h ⟨rep, hrep⟩
    have := (h _ _ (clientList_answers s hrep n l) (clientList_answers s hrep n' l') rfl rfl).2
    simpa using this
  · intro h r r' hr hr' hok _
    obtain ⟨rep, hrep⟩ := clientList_succeeds hr hok
    rw [clientList_answers s hrep] at hr hr'
    cases hr
    cases hr'
    simp [h ⟨rep, hrep⟩]

/-- **What a query leaves in the caller's object depends on what it adds to and on nothing else.**
The sums and the entries are those of the sink and of the reply exactly when there was nothing. -/
theorem queries_independent_iff (pb : ApiProtobuf) (s : StreamSink) (t : Int64) (rpc : RpcOutcome)
    (a b : MediaStatisticInfo) (n n' : UInt32) (l l' : List StreamClientInfo) :
    (s.receiverStatistic t (some a) = s.receiverStatistic t (some b) ↔ a.sumBytes = b.sumBytes) ∧
    ((∀ out, s.receiverStatistic t (some a) = some out →
      out.sumBytes = out.subStreams.foldl (fun sum sub => sum + sub.dataBytes) 0) ↔
      a.sumBytes = 0) ∧
    (StatisticAgrees pb s rpc a b ↔
      ((∃ rep, Answers pb.mediaStatisticRep rpc rep) → a.subStreams = b.subStreams)) ∧
    (StatisticExact pb s rpc a ↔
      ((∃ rep, Answers pb.mediaStatisticRep rpc rep) → a.subStreams = [])) ∧
    (ClientsAgree pb s rpc n n' l l' ↔
      ((∃ rep, Answers pb.clientListRep rpc rep) → l = l')) :=
  ⟨receiverStatistic_agrees_iff s t a b, receiverStatistic_exact_iff s t a,
    statisticAgrees_iff s rpc a b, statisticExact_iff s rpc a, clientsAgree_iff s rpc n n' l l'⟩

/-- An object that is used twice. -/
theorem reused_statistic_differs :
    let s : StreamSink := { StreamSink.initBase {} true with statistic := [{ dataBytes := 5 }] }
    s.receiverStatistic 0 (some ⟨0, 0, 5, []⟩) ≠ s.receiverStatistic 0 (some ⟨0, 0, 0, []⟩) := by
  decide

end StreamSink

end StreamSwitch
