import StreamSwitch.Rpc.Queries
import StreamSwitch.Source.Lifecycle

/-!
# The list of clients, page by page

`ClientListHandler` of a source and `ClientList` of a sink that reads from it. The
protocol says of the number of clients in a request that 0 means all of them; the
loop of the handler counts it down to 0 and sends none.

`client_pages_iff`: a page is what the protocol says if and only if a number was
requested or there is nothing from the start index on; and the pages of any size
above 0, appended by `ClientList` one after the other to an empty list, are the list
of clients.
-/

namespace StreamSwitch

open Run StreamSource

/-- What a request for `n` entries from `s` on asks for; 0 means all. -/
def requestedPage {α : Type} (l : List α) (s n : Nat) : List α :=
  if n = 0 then l.drop s else (l.drop s).take n

/-- A source between two messages that has the handler of `Init`, with its clients. -/
structure ClientServer (pb : ApiProtobuf) where
  source : StreamSource
  clients : ClientRegistry
  ready : source.Ready
  handler : source.apiHandlerMap codeClientList = some (clientListHandler pb)
  listed : source.user.receiverList = clients.entries

/-- A message that asks for a page. -/
structure PageMsg (pb : ApiProtobuf) where
  now : Int64
  msg : ApiMsg
  packet : ProtoCommonPacket
  req : ProtoClientListReq
  parses : pb.commonPacket.decode msg.inFrame = some packet
  code : packet.code = codeClientList
  body : pb.clientListReq.decode packet.getBody = some req

/-- The source after `Init`, with `clients` in its registry. -/
def ClientServer.afterInit (pb : ApiProtobuf) (env : SourceEnv) (clients : ClientRegistry) :
    ClientServer pb where
  source := { registerHandlers pb env constructed with
    isInit := true, user := { receiverList := clients.entries } }
  clients := clients
  ready := ⟨rfl, rfl, rfl⟩
  handler := rfl
  listed := rfl

namespace ClientServer

variable {pb : ApiProtobuf} (y : ClientServer pb)

/-- The source answers `r` with `rep`, read back from the bytes of its reply. -/
structure Sends (r : PageMsg pb) (rep : ProtoClientListRep) (source : StreamSource) : Prop where
  step : y.source.apiStep pb.toProtobuf (.read r.now r.msg) = some source
  reply : ∃ reply, lastReply pb.toProtobuf source = some reply ∧ reply.status = statusOk ∧
    pb.clientListRep.decode reply.getBody = some rep

/-- The answer to `r` is the page it asks for. -/
def PageRight (r : PageMsg pb) : Prop :=
  ∃ rep source, y.Sends r rep source ∧
    (rep.totalNum.getD 0).toNat = y.clients.entries.length ∧
    rep.startIndex.getD 0 = r.req.startIndex.getD 0 ∧
    rep.clientList = requestedPage y.clients.entries (r.req.startIndex.getD 0).toNat
      (r.req.clientNum.getD 0).toNat

/-- A number of clients is requested, or there are none from the start index on. -/
def NumberGiven (r : PageMsg pb) : Prop :=
  r.req.clientNum.getD 0 ≠ 0 ∨ y.clients.entries.length ≤ (r.req.startIndex.getD 0).toNat

theorem totalNum_toNat (req : ProtoClientListReq) :
    ((clientListRep y.clients.entries req).totalNum.getD 0).toNat = y.clients.entries.length := by
  have hmax : y.clients.entries.length ≤ 32767 := y.clients.bounded
  show (UInt32.ofNat _).toNat = _
  rw [UInt32.toNat_ofNat_of_lt']
  exact Nat.lt_of_le_of_lt hmax (by decide)

/-- The test of the start index only saves the loop. -/
theorem clientListRep_clientList (l : List ProtoClientHeartbeatReq) (req : ProtoClientListReq) :
    (clientListRep l req).clientList =
      (l.drop (req.startIndex.getD 0).toNat).take (req.clientNum.getD 0).toNat := by
  show (if _ then _ else _) = _
  split
  · rfl
  · next h => rw [List.drop_eq_nil_of_le (Nat.le_of_not_lt h), List.take_nil]

/-- The reply of the handler. -/
def pageReply (r : PageMsg pb) : ProtoCommonPacket :=
  { replyTo r.packet statusOk "" with
    body := some (pb.clientListRep.encode (clientListRep y.clients.entries r.req)) }

/-- The source after the answer: only the reply is new. -/
def answered (r : PageMsg pb) : StreamSource :=
  { y.source with apiSocket := { y.source.apiSocket with
      sent := y.source.apiSocket.sent ++ [replyFrames pb.toProtobuf (y.pageReply r) none] } }

theorem apiStep_page (r : PageMsg pb) :
    y.source.apiStep pb.toProtobuf (.read r.now r.msg) = some (y.answered r) := by
  have hcode : y.source.apiHandlerMap r.packet.code = some (clientListHandler pb) := by
    rw [r.code]
    exact y.handler
  have hrun : clientListHandler pb r.now y.source.user r.packet r.msg.extraBlob =
      .sendRpcReply (y.pageReply r) none fun _ => .ret 0 y.source.user := by
    simp only [clientListHandler, r.body, y.listed, pageReply]
  rw [ApiSource.apiStep_read pb.toProtobuf y.ready]
  simp only [ApiSource.onApiSocketRead, r.parses]
  rw [ApiSource.onRpcRequest_of_reply pb.toProtobuf y.ready hcode hrun rfl]
  rfl

theorem lastReply_answered (r : PageMsg pb) :
    lastReply pb.toProtobuf (y.answered r) = some (y.pageReply r) := by
  simp only [lastReply, answered, replyFrames, List.getLast?_append, List.getLast?_singleton,
    Option.some_or, Option.bind_some, List.head?_cons, Codec.decode_encode]

/-- What the source sends for `r`, and nothing else. -/
theorem sends_iff (r : PageMsg pb) (rep : ProtoClientListRep) (source : StreamSource) :
    y.Sends r rep source ↔
      rep = clientListRep y.clients.entries r.req ∧ source = y.answered r := by
  constructor
  · rintro ⟨hstep, reply, hlast, -, hrep⟩
    rw [y.apiStep_page r] at hstep
    cases hstep
    rw [y.lastReply_answered r] at hlast
    cases hlast
    have hbody : (y.pageReply r).getBody =
        pb.clientListRep.encode (clientListRep y.clients.entries r.req) := rfl
    rw [hbody, Codec.decode_encode] at hrep
    exact ⟨(Option.some.inj hrep).symm, rfl⟩
  · rintro ⟨rfl, rfl⟩
    exact ⟨y.apiStep_page r, _, y.lastReply_answered r, rfl, pb.clientListRep.decode_encode _⟩

theorem pageRight_iff (r : PageMsg pb) : y.PageRight r ↔ y.NumberGiven r := by
  have hzero : (r.req.clientNum.getD 0).toNat = 0 ↔ r.req.clientNum.getD 0 = 0 := by
    rw [← UInt32.toNat_inj]
    rfl
  constructor
  · rintro ⟨rep, source, hsends, -, -, hlist⟩
    obtain ⟨rfl, -⟩ := (y.sends_iff r rep source).1 hsends
    by_cases hn : r.req.clientNum.getD 0 = 0
    · right
      rw [clientListRep_clientList, requestedPage, if_pos (hzero.2 hn), hzero.2 hn, List.take_zero]
        at hlist
      exact List.drop_eq_nil_iff.1 hlist.symm
    · exact .inl hn
  · intro h
    refine ⟨_, _, (y.sends_iff r _ _).2 ⟨rfl, rfl⟩, y.totalNum_toNat r.req, rfl, ?_⟩
    rw [clientListRep_clientList, requestedPage]
    split
    · next hn =>
      rcases h with h | h
      · exact absurd (hzero.1 hn) h
      · rw [List.drop_eq_nil_of_le h, List.take_nil]
    · rfl

/-- The server after an answer: the same clients. -/
def next (r : PageMsg pb) : ClientServer pb where
  source := y.answered r
  clients := y.clients
  ready := ⟨y.ready.init, y.ready.waiting, y.ready.socket⟩
  handler := y.handler
  listed := y.listed

end ClientServer

/-! ## Reading the pages -/

/-- A sink that collects the clients of a source. -/
structure PageReader where
  source : StreamSource
  sink : StreamSink
  totalNum : UInt32 := 0
  clientList : List StreamClientInfo := []

/-- A call of `ClientList`, at a time of the source. -/
structure PageCall where
  now : Int64
  startIndex : UInt32
  requestNum : UInt32

namespace PageReader

variable (pb : ApiProtobuf)

/-- The source is asked, and its reply goes through the checks of `SendRpcRequest`. -/
def pageStep (y : PageReader) (e : PageCall) : Option PageReader :=
  let request := y.sink.clientListRequest pb.clientListReq e.startIndex e.requestNum
  (y.source.apiStep pb.toProtobuf (.read e.now ⟨pb.commonPacket.encode request, []⟩)).bind
    fun source =>
      let frames := source.apiSocket.sent.getLast?.getD []
      let call : RpcCall := { request := request, extraBlob := none, state := .checked }
      (call.checkReply pb.toProtobuf 0 frames).decided.bind fun r =>
        match y.sink.clientList pb.clientListRep r.outcome (some y.totalNum)
            (some y.clientList) with
        | .ok queried =>
          if queried.ret.code = .ok then
            some { source := source, sink := queried.sink,
                   totalNum := queried.totalNum.getD 0,
                   clientList := queried.clientList.getD [] }
          else none
        | .error _ => none

/-- The pages of `k` clients at 0, `k`, `2 * k`, up to the `m`-th. -/
def pageCalls (now : Nat → Int64) (k : UInt32) (m : Nat) : List PageCall :=
  (List.range m).map fun i => ⟨now i, UInt32.ofNat (i * k.toNat), k⟩

/-- The message of a call. -/
def pageMsg (sink : StreamSink) (e : PageCall) : PageMsg pb where
  now := e.now
  msg := ⟨pb.commonPacket.encode
    (sink.clientListRequest pb.clientListReq e.startIndex e.requestNum), []⟩
  packet := sink.clientListRequest pb.clientListReq e.startIndex e.requestNum
  req := { clientNum := some e.requestNum, startIndex := some e.startIndex }
  parses := pb.commonPacket.decode_encode _
  code := rfl
  body := pb.clientListReq.decode_encode _

variable {pb}

/-- The reply of the handler passes the checks of `SendRpcRequest`. -/
theorem outcome_pageReply (y : ClientServer pb) (r : PageMsg pb) {call : RpcCall}
    (hcall : call.request = r.packet) :
    (call.checkReply pb.toProtobuf 0 [pb.commonPacket.encode (y.pageReply r)]).decided =
      some { result := some ⟨y.pageReply r, none⟩ } := by
  have htype : (y.pageReply r).type = .reply := rfl
  have hseq : (y.pageReply r).seq = r.packet.seq := rfl
  have hcode : (y.pageReply r).code = r.packet.code := rfl
  simp only [RpcCall.checkReply, Codec.decode_encode, hcall, htype, hseq, hcode, ne_eq,
    not_true_eq_false, or_self, if_false]
  rfl

/-- One call appends its page. -/
theorem pageStep_appends (y : ClientServer pb) (sink : StreamSink) (total : UInt32)
    (l : List StreamClientInfo) (e : PageCall) :
    pageStep pb ⟨y.source, sink, total, l⟩ e = some
      { source := (y.next (pageMsg pb sink e)).source
        sink := { sink with nextSeq := sink.nextSeq + 1 }
        totalNum := UInt32.ofNat y.clients.entries.length
        clientList := l ++ ((y.clients.entries.drop e.startIndex.toNat).take
          e.requestNum.toNat).map (·.toClientInfo) } := by
  let r := pageMsg pb sink e
  have hframes : (y.answered r).apiSocket.sent.getLast?.getD [] =
      [pb.commonPacket.encode (y.pageReply r)] := by
    simp only [ClientServer.answered, List.getLast?_append, List.getLast?_singleton,
      Option.some_or, Option.getD_some]
    rfl
  have hanswers : StreamSink.Answers pb.clientListRep (.reply (y.pageReply r))
      (clientListRep y.clients.entries r.req) :=
    ⟨_, rfl, rfl, pb.clientListRep.decode_encode _⟩
  have hstep : y.source.apiStep pb.toProtobuf (.read e.now ⟨pb.commonPacket.encode
      (sink.clientListRequest pb.clientListReq e.startIndex e.requestNum), []⟩) =
        some (y.answered r) := y.apiStep_page r
  have hreturn : RpcReturn.outcome { result := some ⟨y.pageReply r, none⟩ } =
      .reply (y.pageReply r) := rfl
  unfold pageStep
  dsimp only
  rw [hstep, Option.bind_some, hframes, outcome_pageReply y r rfl, Option.bind_some, hreturn,
    StreamSink.clientList_answers sink hanswers]
  dsimp only
  rw [if_pos rfl, ClientServer.clientListRep_clientList]
  rfl

/-- The first `m` pages. -/
theorem exec_pageCalls (y : ClientServer pb) (sink : StreamSink) (total : UInt32)
    (now : Nat → Int64) (k : UInt32) (m : Nat) (hm : ∀ i < m, i * k.toNat < 2 ^ 32) :
    ∃ (y' : ClientServer pb) (sink' : StreamSink) (total' : UInt32), y'.clients = y.clients ∧
      exec (pageStep pb) ⟨y.source, sink, total, []⟩ (pageCalls now k m) =
        some ⟨y'.source, sink', total',
          (y.clients.entries.take (m * k.toNat)).map (·.toClientInfo)⟩ := by
  induction m with
  | zero => exact ⟨y, sink, total, rfl, by simp [pageCalls]⟩
  | succ m ih =>
    obtain ⟨y', sink', total', hclients, hexec⟩ := ih fun i hi => hm i (Nat.lt_succ_of_lt hi)
    have hstart : (UInt32.ofNat (m * k.toNat)).toNat = m * k.toNat :=
      UInt32.toNat_ofNat_of_lt' (hm m (Nat.lt_succ_self m))
    let e : PageCall := ⟨now m, UInt32.ofNat (m * k.toNat), k⟩
    have hcalls : pageCalls now k (m + 1) = pageCalls now k m ++ [e] := by
      simp [pageCalls, List.range_succ, e]
    refine ⟨y'.next (pageMsg pb sink' e), { sink' with nextSeq := sink'.nextSeq + 1 },
      UInt32.ofNat y'.clients.entries.length, hclients, ?_⟩
    rw [hcalls, exec_append, hexec, Option.bind_some, exec_cons, pageStep_appends,
      Option.bind_some, exec_nil, hstart, hclients, ← List.map_append, ← List.take_add,
      ← Nat.succ_mul]

end PageReader

namespace ClientServer

variable {pb : ApiProtobuf} (y : ClientServer pb)

/-- Whatever the page size, the pages up to the end of the list are the list. -/
def PagesWhole : Prop :=
  ∀ (sink : StreamSink) (now : Nat → Int64) (k : UInt32) (m : Nat), 0 < k →
    (∀ i < m, i * k.toNat < 2 ^ 32) → y.clients.entries.length ≤ m * k.toNat →
    (exec (PageReader.pageStep pb) { source := y.source, sink := sink }
      (PageReader.pageCalls now k m)).map (·.clientList) =
        some (y.clients.entries.map (·.toClientInfo))

/-- **A page is the one asked for exactly when a number of clients is given or none are left;
pages of any size make up the whole list.** -/
theorem client_pages_iff : (∀ r, y.PageRight r ↔ y.NumberGiven r) ∧ y.PagesWhole := by
  refine ⟨y.pageRight_iff, ?_⟩
  intro sink now k m _ hm hlen
  obtain ⟨y', sink', total', -, hexec⟩ := PageReader.exec_pageCalls y sink 0 now k m hm
  rw [hexec, Option.map_some, List.take_of_length_le hlen]

/-- A source with one client. -/
def oneClient : ClientServer wireApiProtobuf :=
  .afterInit wireApiProtobuf {} ⟨[{}], List.nodup_singleton _, by decide⟩

/-- All clients are asked for and none is sent. -/
theorem all_clients_none_sent :
    ∃ r : PageMsg wireApiProtobuf, r.req = { startIndex := some 0, clientNum := some 0 } ∧
      (∀ rep source, oneClient.Sends r rep source → rep.clientList = []) ∧
      ¬ oneClient.PageRight r := by
  refine ⟨PageReader.pageMsg wireApiProtobuf (.initBase {} true) ⟨0, 0, 0⟩, rfl, ?_, ?_⟩
  · intro rep source h
    obtain ⟨rfl, -⟩ := (oneClient.sends_iff _ rep source).1 h
    rfl
  · rw [oneClient.pageRight_iff]
    rintro (h | h)
    · exact h rfl
    · exact absurd h (by decide)

end ClientServer

end StreamSwitch
