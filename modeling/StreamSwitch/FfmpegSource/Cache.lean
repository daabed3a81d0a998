import StreamSwitch.FfmpegSource.Demuxer

/-!
# The packet cache of the demuxer

`ReadMeta` caches the packets it parses and `ReadPacket` hands them on. A packet keeps its own
bytes (libavformat's are reference counted), but a key frame that got the parameter sets put in
front of it points into the buffer of its parser, which the next such key frame of the stream
writes again. `cached_packets_intact`: every packet that is parsed is handed on once, in order and
with the bytes it had, on every run on which no such key frame is parsed while another of its
stream is in the cache, and no length field leads out of its packet. `key_frame_overwritten` is a
run on which one is.
-/

namespace StreamSwitch.Ffmpeg

open Buffer Run

/-! ## What a packet holds -/

/-- The buffer that packets of the parser may point into. -/
def StreamParser.keyFrameBuf (p : StreamParser) : Option (Buf UInt8) :=
  match p.kind with
  | .h264or5 _ _ buf => some buf
  | _ => none

/-- The bytes of a packet now; `none` if it points into memory that was given up. -/
def bytesIn (parsers : List StreamParser) (pkt : AVPacket Payload) : Option Bytes :=
  match pkt.data with
  | .own bytes => some bytes
  | .keyFrameBuf ptr =>
    parsers[pkt.streamIndex]?.bind fun p => p.keyFrameBuf.bind fun buf => buf.deref ptr

/-- A frame with the bytes of its packet. -/
structure Frame where
  frameInfo : FrameInfo
  pkt : AVPacket Bytes
deriving DecidableEq, Repr

/-- A parsed packet as a reader would see it now. -/
def view (d : FFmpegDemuxer) (node : PktNode) : Option Frame :=
  (bytesIn d.streamParsers node.pkt).map fun bytes =>
    ⟨node.frameInfo, node.pkt.withData bytes⟩

/-- The cached frames. -/
def cachedFrames (d : FFmpegDemuxer) : List (Option Frame) := d.cachedPkts.map (view d)

/-! ## What calls parse and return -/

/-- The packets that the loop of `ReadMeta` parses, each with the demuxer it finds. -/
def metaParsings : (turns : Nat) → FFmpegDemuxer → List (FFmpegDemuxer × Packet)
  | 0, _ => []
  | turns + 1, d =>
    if d.isMetaReady then []
    else
      let (f, rest) := nextFrame d.frames
      let d := d.withFrames rest
      match f with
      | .packet r =>
        match d.streamParsers[r.pkt.streamIndex]? with
        | none => []
        | some p =>
          (d, r) :: (d.parseWith p r).elim [] fun out =>
            metaParsings turns (out.demuxer.cache out.node)
      | _ => []

/-- The packets that a call parses. -/
def parsings (d : FFmpegDemuxer) : DemuxerCall → List (FFmpegDemuxer × Packet)
  | .readMeta turns => if d.fmtCtx ≠ none ∧ d.ioEnabled then metaParsings turns d else []
  | .readPacket =>
    if d.fmtCtx ≠ none ∧ d.ioEnabled ∧ d.cachedPkts = [] then
      let (f, rest) := nextFrame d.frames
      let d := d.withFrames rest
      match f with
      | .packet r => if r.pkt.streamIndex < d.streamParsers.length then [(d, r)] else []
      | _ => []
    else []
  | _ => []

/-- The frame that is parsed, with the bytes right after `Parse`; none if it is dropped. -/
def parsedFrame (x : FFmpegDemuxer × Packet) : List (Option Frame) :=
  (x.1.streamParsers[x.2.pkt.streamIndex]?.bind fun p =>
    (x.1.parseWith p x.2).bind fun out => out.node.map (view out.demuxer)).toList

/-- The frames that a call parses without error. -/
def parsedBy (d : FFmpegDemuxer) (call : DemuxerCall) : List (Option Frame) :=
  (parsings d call).flatMap parsedFrame

/-- The frame that a `ReadPacket` returns, with the bytes at that moment. -/
def returnedBy (d : FFmpegDemuxer) : DemuxerCall → List (Option Frame)
  | .readPacket => (d.readPacket.bind fun (d', res) => res.node.map (view d')).toList
  | _ => []

/-! ## The condition -/

def Payload.isOwn : Payload → Bool
  | .own _ => true
  | .keyFrameBuf _ => false

/-- The packet of an H.264 or H.265 stream stays inside its memory, and if it gets the parameter
sets put in front of it, no packet of its stream in the cache points into the buffer. -/
def undisturbed (d : FFmpegDemuxer) (r : Packet) : Bool :=
  match d.streamParsers[r.pkt.streamIndex]?.map StreamParser.kind with
  | some (.h264or5 h n _) =>
    match annexB r.pkt.data with
    | none => false
    | some bytes =>
      !StreamParser.insertsHeader h n r.pkt.key bytes ||
        d.cachedPkts.all fun node =>
          node.pkt.streamIndex ≠ r.pkt.streamIndex || node.pkt.data.isOwn
  | _ => true

/-- Every packet that the call parses is undisturbed. -/
def CacheSafe (d : FFmpegDemuxer) (call : DemuxerCall) : Prop :=
  ∀ x ∈ parsings d call, undisturbed x.1 x.2 = true

instance (d : FFmpegDemuxer) (call : DemuxerCall) : Decidable (CacheSafe d call) :=
  inferInstanceAs (Decidable (∀ x ∈ parsings d call, undisturbed x.1 x.2 = true))

theorem undisturbed_spec {d : FFmpegDemuxer} {r : Packet} (hu : undisturbed d r = true)
    {p : StreamParser} (hp : d.streamParsers[r.pkt.streamIndex]? = some p) {h : HNumber} {n : Nat}
    {buf : Buf UInt8} (hk : p.kind = .h264or5 h n buf) :
    ∃ bytes, annexB r.pkt.data = some bytes ∧
      (StreamParser.insertsHeader h n r.pkt.key bytes = true →
        ∀ node ∈ d.cachedPkts, node.pkt.streamIndex = r.pkt.streamIndex →
          node.pkt.data.isOwn = true) := by
  simp only [undisturbed, hp, Option.map_some, hk] at hu
  cases hb : annexB r.pkt.data with
  | none => simp [hb] at hu
  | some bytes =>
    refine ⟨bytes, rfl, fun hi node hnode hs => ?_⟩
    simp only [hb, hi, Bool.not_true, Bool.false_or, List.all_eq_true] at hu
    simpa [hs] using hu node hnode

/-! ## One packet -/

/-- A parser is prepared unless the packet leads out of its memory, and changes only for a key
frame that gets the parameter sets. -/
theorem prepare_cases {p : StreamParser} {r : Packet}
    (h : ∀ hn n buf, p.kind = .h264or5 hn n buf → ∃ bytes, annexB r.pkt.data = some bytes) :
    (∃ bytes, p.prepare r = some (p, .own bytes)) ∨
      ∃ hn n buf bytes, p.kind = .h264or5 hn n buf ∧ annexB r.pkt.data = some bytes ∧
        StreamParser.insertsHeader hn n r.pkt.key bytes = true ∧
        p.prepare r = some ({ p with
          kind := .h264or5 hn n ((buf.resize n).append bytes) },
          .keyFrameBuf ((buf.resize n).append bytes).ptr) := by
  unfold StreamParser.prepare
  split
  · rename_i hn n buf hk
    obtain ⟨bytes, hb⟩ := h hn n buf hk
    by_cases hi : StreamParser.insertsHeader hn n r.pkt.key bytes = true
    · exact .inr ⟨hn, n, buf, bytes, hk, hb, hi, by simp [hb, hi]⟩
    · exact .inl ⟨bytes, by simp [hb, hi]⟩
  · exact .inl ⟨_, rfl⟩

/-- The frame that comes out of `Parse` is the packet with its payload. -/
theorem baseParse_frame {p : StreamParser} {base : Base} {subs : List SubStreamMetadata}
    {r : Packet} {data : Payload} {x : FrameInfo × AVPacket Payload}
    (h : (p.baseParse base subs r data).frame = some x) : x.2 = r.pkt.withData data := by
  unfold StreamParser.baseParse at h
  split at h
  · cases h
  · split at h
    · cases h
    · simp only [Option.ite_none_right_eq_some] at h
      cases h.2
      rfl

/-- A new parser state changes no packet of another stream, none that owns its bytes, and no
packet at all if it keeps its buffer. -/
theorem bytesIn_set {parsers : List StreamParser} {i : Nat} {p q : StreamParser}
    (hp : parsers[i]? = some p) {pkt : AVPacket Payload}
    (h : pkt.data.isOwn = true ∨ pkt.streamIndex ≠ i ∨ q.keyFrameBuf = p.keyFrameBuf) :
    bytesIn (parsers.set i q) pkt = bytesIn parsers pkt := by
  unfold bytesIn
  cases hd : pkt.data with
  | own bytes => rfl
  | keyFrameBuf ptr =>
    by_cases hi : pkt.streamIndex = i
    · have hq : q.keyFrameBuf = p.keyFrameBuf := by
        rcases h with h | h | h
        · rw [hd] at h
          cases h
        · exact absurd hi h
        · exact h
      have hlt := (List.getElem?_eq_some_iff.1 hp).1
      simp only [hi, List.getElem?_set_self hlt, hp, Option.bind_some, hq]
    · simp only [List.getElem?_set_ne (Ne.symm hi)]

/-- A packet of a parser that has the buffer it points to can be read. -/
theorem bytesIn_ptr {parsers : List StreamParser} {pkt : AVPacket Payload} {p : StreamParser}
    {buf : Buf UInt8} (hp : parsers[pkt.streamIndex]? = some p) (hk : p.keyFrameBuf = some buf)
    (hd : pkt.data = .keyFrameBuf buf.ptr) : bytesIn parsers pkt = some buf.contents := by
  simp [bytesIn, hd, hp, hk]

/-- A payload is the packet's own or the whole buffer of its parser. -/
theorem prepare_payload {p q : StreamParser} {r : Packet} {data : Payload}
    (h : p.prepare r = some (q, data)) :
    data.isOwn = true ∨ ∃ buf, q.keyFrameBuf = some buf ∧ data = .keyFrameBuf buf.ptr := by
  unfold StreamParser.prepare at h
  split at h
  · obtain ⟨bytes, -, h⟩ := Option.map_eq_some_iff.1 h
    split at h
    · cases h
      exact .inr ⟨_, rfl, rfl⟩
    · cases h
      exact .inl rfl
  · cases h
    exact .inl rfl

/-- A frame can be read right after `Parse`. -/
theorem view_parsed {d : FFmpegDemuxer} {p : StreamParser} {r : Packet}
    {out : FFmpegDemuxer.ParseOutcome} (hp : d.streamParsers[r.pkt.streamIndex]? = some p)
    (ho : d.parseWith p r = some out) {node : PktNode} (hnode : out.node = some node) :
    (view out.demuxer node).isSome := by
  obtain ⟨res, hres, rfl⟩ := Option.map_eq_some_iff.1 ho
  obtain ⟨q, data, hprep, rfl⟩ := StreamParser.parse_eq_some.1 hres
  obtain ⟨⟨info, pkt⟩, hframe, rfl⟩ := Option.map_eq_some_iff.1 hnode
  have hpkt : pkt = r.pkt.withData data := baseParse_frame hframe
  have hlt := (List.getElem?_eq_some_iff.1 hp).1
  simp only [view, FFmpegDemuxer.afterParse, Option.isSome_map]
  rcases prepare_payload hprep with hown | ⟨buf, hb, rfl⟩
  · cases data with
    | own bytes =>
      subst hpkt
      rfl
    | keyFrameBuf ptr => cases hown
  · have hbuf : (q.baseParse d.base d.metadata.subStreams r
        (.keyFrameBuf buf.ptr)).parser.keyFrameBuf = some buf := by
      rw [StreamParser.keyFrameBuf, (StreamParser.baseParse_keeps ..).2]
      exact hb
    have hself : (d.streamParsers.set r.pkt.streamIndex (q.baseParse d.base
        d.metadata.subStreams r (.keyFrameBuf buf.ptr)).parser)[pkt.streamIndex]? =
        some (q.baseParse d.base d.metadata.subStreams r (.keyFrameBuf buf.ptr)).parser := by
      rw [hpkt]
      exact List.getElem?_set_self hlt
    rw [bytesIn_ptr hself hbuf (by rw [hpkt]; rfl)]
    rfl

/-- An undisturbed packet is parsed and the cached frames stay. -/
theorem parseWith_safe {d : FFmpegDemuxer} {p : StreamParser} {r : Packet}
    (hp : d.streamParsers[r.pkt.streamIndex]? = some p) (h : undisturbed d r = true) :
    ∃ out, d.parseWith p r = some out ∧ out.demuxer.cachedPkts = d.cachedPkts ∧
      ∀ node ∈ d.cachedPkts, view out.demuxer node = view d node := by
  -- the parser and the payload that `StreamParser::Parse` goes on with
  have hprepared : ∃ q data, p.prepare r = some (q, data) ∧
      ∀ node ∈ d.cachedPkts, node.pkt.data.isOwn = true ∨
        node.pkt.streamIndex ≠ r.pkt.streamIndex ∨ q.kind = p.kind := by
    have hmem : ∀ hn n buf, p.kind = .h264or5 hn n buf →
        ∃ bytes, annexB r.pkt.data = some bytes :=
      fun hn n buf hk => (undisturbed_spec h hp hk).imp fun _ hb => hb.1
    rcases prepare_cases hmem with ⟨bytes, hprep⟩ | ⟨hn, n, buf, bytes, hk, hb, hi, hprep⟩
    · exact ⟨p, _, hprep, fun _ _ => .inr (.inr rfl)⟩
    · refine ⟨_, _, hprep, fun node hnode => ?_⟩
      obtain ⟨bytes', hb', hsafe⟩ := undisturbed_spec h hp hk
      rw [hb] at hb'
      cases hb'
      by_cases hs : node.pkt.streamIndex = r.pkt.streamIndex
      · exact .inl (hsafe hi node hnode hs)
      · exact .inr (.inl hs)
  obtain ⟨q, data, hprep, hnodes⟩ := hprepared
  refine ⟨d.afterParse r (q.baseParse d.base d.metadata.subStreams r data), ?_, rfl, ?_⟩
  · simp only [FFmpegDemuxer.parseWith, StreamParser.parse, hprep]
    rfl
  · intro node hnode
    refine congrArg (Option.map _) (bytesIn_set hp ?_)
    refine (hnodes node hnode).imp_right (Or.imp_right fun hkind => ?_)
    simp only [StreamParser.keyFrameBuf, (StreamParser.baseParse_keeps ..).2, hkind]

/-! ## Calls -/

theorem parsedFrame_eq {d : FFmpegDemuxer} {p : StreamParser} {r : Packet}
    {out : FFmpegDemuxer.ParseOutcome} (hp : d.streamParsers[r.pkt.streamIndex]? = some p)
    (ho : d.parseWith p r = some out) :
    parsedFrame (d, r) = (out.node.map (view out.demuxer)).toList := by
  simp [parsedFrame, hp, ho]

/-- A packet that is parsed and cached comes behind those in the cache. -/
theorem cachedFrames_cache {d : FFmpegDemuxer} {out : FFmpegDemuxer.ParseOutcome}
    (hcached : out.demuxer.cachedPkts = d.cachedPkts)
    (hview : ∀ node ∈ d.cachedPkts, view out.demuxer node = view d node) :
    cachedFrames (out.demuxer.cache out.node) =
      cachedFrames d ++ (out.node.map (view out.demuxer)).toList := by
  have hkeep : d.cachedPkts.map (view out.demuxer) = cachedFrames d := List.map_congr_left hview
  have hsame : view (out.demuxer.cache out.node) = view out.demuxer := rfl
  rw [cachedFrames, hsame, FFmpegDemuxer.cache, hcached, List.map_append, hkeep]
  cases out.node <;> rfl

theorem readMetaLoop_safe {turns : Nat} {d : FFmpegDemuxer}
    (h : ∀ x ∈ metaParsings turns d, undisturbed x.1 x.2 = true) :
    ∃ d' ret, FFmpegDemuxer.readMetaLoop turns d = some (d', ret) ∧
      cachedFrames d' = cachedFrames d ++ (metaParsings turns d).flatMap parsedFrame := by
  induction turns generalizing d with
  | zero =>
    unfold FFmpegDemuxer.readMetaLoop
    split <;> exact ⟨_, _, rfl, by simp [metaParsings]⟩
  | succ turns ih =>
    unfold FFmpegDemuxer.readMetaLoop
    unfold metaParsings at h ⊢
    by_cases hready : d.isMetaReady = true
    · simp only [if_pos hready]
      exact ⟨d, _, rfl, by simp⟩
    · simp only [if_neg hready] at h ⊢
      have hframes : ∀ frames, cachedFrames (d.withFrames frames) = cachedFrames d := fun _ => rfl
      cases hf : (nextFrame d.frames).1 with
      | packet r =>
        simp only [hf] at h ⊢
        cases hp : (d.withFrames (nextFrame d.frames).2).streamParsers[r.pkt.streamIndex]? with
        | none =>
          simp only []
          exact ⟨_, _, rfl, by simp [hframes]⟩
        | some p =>
          simp only [hp] at h ⊢
          obtain ⟨out, ho, hcached, hview⟩ := parseWith_safe hp (h _ (.head _))
          simp only [ho, Option.elim_some, Option.bind_some] at h ⊢
          obtain ⟨d', ret, hloop, heq⟩ := ih fun x hx => h x (.tail _ hx)
          refine ⟨d', ret, hloop, ?_⟩
          rw [heq, cachedFrames_cache hcached hview, hframes, List.flatMap_cons,
            parsedFrame_eq hp ho, List.append_assoc]
      | _ => exact ⟨_, _, rfl, by simp [hframes]⟩

theorem returnedBy_readPacket {d d' : FFmpegDemuxer} {res : FFmpegDemuxer.ReadResult}
    (h : d.readPacket = some (d', res)) :
    returnedBy d .readPacket = (res.node.map (view d')).toList := by
  simp [returnedBy, h]

/-- A cached packet is handed on as it is. -/
theorem readPacket_cached {d : FFmpegDemuxer} {node : PktNode} {rest : List PktNode}
    (hopen : d.fmtCtx ≠ none) (hio : d.ioEnabled = true) (hc : d.cachedPkts = node :: rest) :
    d.readPacket = some ({ d with cachedPkts := rest }, ⟨.ok, some node, false⟩) := by
  simp [FFmpegDemuxer.readPacket, hopen, hio, hc]

theorem readPacket_safe {d : FFmpegDemuxer} (hopen : d.fmtCtx ≠ none)
    (h : CacheSafe d .readPacket) :
    ∃ d' res, d.readPacket = some (d', res) ∧
      cachedFrames d ++ parsedBy d .readPacket = returnedBy d .readPacket ++ cachedFrames d' := by
  unfold CacheSafe at h
  by_cases hio : d.ioEnabled = true
  · cases hc : d.cachedPkts with
    | cons node rest =>
      have hr := readPacket_cached hopen hio hc
      refine ⟨_, _, hr, ?_⟩
      rw [returnedBy_readPacket hr]
      have hview : view { d with cachedPkts := rest } = view d := rfl
      simp [parsedBy, parsings, cachedFrames, hc, hview]
    | nil =>
      have hnil : cachedFrames d = [] := by simp [cachedFrames, hc]
      have hframes : ∀ frames, cachedFrames (d.withFrames frames) = [] := fun _ => hnil
      have hparsings : parsings d .readPacket =
          match (nextFrame d.frames).1 with
          | .packet r =>
            if r.pkt.streamIndex < d.streamParsers.length then
              [(d.withFrames (nextFrame d.frames).2, r)]
            else []
          | _ => [] := if_pos ⟨hopen, hio, hc⟩
      have hread := FFmpegDemuxer.readPacket.eq_1 d
      simp only [if_neg hopen, if_pos hio, hc] at hread
      cases hf : (nextFrame d.frames).1 with
      | packet r =>
        simp only [hf] at hread hparsings
        cases hp : (d.withFrames (nextFrame d.frames).2).streamParsers[r.pkt.streamIndex]? with
        | none =>
          have hlt : ¬r.pkt.streamIndex < d.streamParsers.length :=
            Nat.not_lt.2 (List.getElem?_eq_none_iff.1 hp)
          simp only [hp] at hread
          refine ⟨_, _, hread, ?_⟩
          rw [returnedBy_readPacket hread, parsedBy, hparsings, if_neg hlt, hnil, hframes]
          rfl
        | some p =>
          have hlt : r.pkt.streamIndex < d.streamParsers.length :=
            (List.getElem?_eq_some_iff.1 hp).1
          rw [if_pos hlt] at hparsings
          rw [hparsings] at h
          obtain ⟨out, ho, hcached, -⟩ := parseWith_safe hp (h _ (.head _))
          simp only [hp, ho, Option.map_some] at hread
          refine ⟨_, _, hread, ?_⟩
          have hkept : (d.withFrames (nextFrame d.frames).2).cachedPkts = [] := hc
          have hempty : cachedFrames out.demuxer = [] := by
            rw [cachedFrames, hcached, hkept]
            rfl
          rw [returnedBy_readPacket hread, parsedBy, hparsings, hnil, hempty]
          simp [parsedFrame_eq hp ho]
      | _ =>
        simp only [hf] at hread hparsings
        refine ⟨_, _, hread, ?_⟩
        rw [returnedBy_readPacket hread, parsedBy, hparsings, hnil, hframes]
        rfl
  · have hr : d.readPacket = some (d, ⟨.io, none, false⟩) := by
      simp [FFmpegDemuxer.readPacket, hopen, hio]
    refine ⟨_, _, hr, ?_⟩
    rw [returnedBy_readPacket hr]
    simp [parsedBy, parsings, hio]

/-! ## Runs -/

/-- The call neither opens nor closes the demuxer. -/
def DemuxerCall.staysOpen : DemuxerCall → Bool
  | .openInput _ | .close => false
  | _ => true

theorem open_withFrames {d : FFmpegDemuxer} (h : d.fmtCtx ≠ none) (frames : List ReadFrame) :
    (d.withFrames frames).fmtCtx ≠ none := by
  simpa [FFmpegDemuxer.withFrames] using h

theorem open_parse {d : FFmpegDemuxer} {p : StreamParser} {r : Packet}
    {out : FFmpegDemuxer.ParseOutcome} (h : d.fmtCtx ≠ none) (ho : d.parseWith p r = some out) :
    out.demuxer.fmtCtx ≠ none := by
  obtain ⟨res, -, rfl⟩ := Option.map_eq_some_iff.1 ho
  exact h

/-- One call: what it parses goes in behind the cached frames, what it returns comes out in
front of them, and nothing else happens to a frame. -/
theorem call_conserves {d : FFmpegDemuxer} {call : DemuxerCall} (hopen : d.fmtCtx ≠ none)
    (h : CacheSafe d call ∧ call.staysOpen = true) :
    ∃ d', demuxerStep d call = some d' ∧ d'.fmtCtx ≠ none ∧
      cachedFrames d ++ parsedBy d call = returnedBy d call ++ cachedFrames d' := by
  obtain ⟨hsafe, hstays⟩ := h
  cases call with
  | setIoEnabled enabled =>
    refine ⟨_, rfl, hopen, ?_⟩
    simp only [parsedBy, parsings, returnedBy, List.flatMap_nil, List.append_nil, List.nil_append]
    rfl
  | openInput c => cases hstays
  | close => cases hstays
  | readMeta turns =>
    by_cases hio : d.ioEnabled = true
    · have hparsings : parsings d (.readMeta turns) = metaParsings turns d :=
        if_pos ⟨hopen, hio⟩
      rw [CacheSafe, hparsings] at hsafe
      obtain ⟨d', ret, hloop, heq⟩ := readMetaLoop_safe hsafe
      refine ⟨d', ?_, ?_, ?_⟩
      · simp [demuxerStep, FFmpegDemuxer.readMeta, hopen, hio, hloop]
      · exact FFmpegDemuxer.readMetaLoop_inv (fun d => d.fmtCtx ≠ none)
          (fun _ frames h => open_withFrames h frames)
          (fun _ _ _ _ h _ ho => open_parse h ho) hloop hopen
      · rw [parsedBy, hparsings, heq]
        rfl
    · refine ⟨d, ?_, hopen, ?_⟩
      · simp [demuxerStep, FFmpegDemuxer.readMeta, hopen, hio]
      · simp [parsedBy, parsings, hio, returnedBy]
  | readPacket =>
    obtain ⟨d', res, hr, heq⟩ := readPacket_safe hopen hsafe
    refine ⟨d', by simp [demuxerStep, hr], ?_, heq⟩
    exact FFmpegDemuxer.readPacket_inv (fun d => d.fmtCtx ≠ none)
      (fun _ frames h => open_withFrames h frames) (fun _ _ _ h _ => h)
      (fun _ _ _ _ h _ ho => open_parse h ho) hr hopen

/-- `ReadPacket` empties the cache. -/
theorem drain {d : FFmpegDemuxer} (hopen : d.fmtCtx ≠ none) (hio : d.ioEnabled = true) :
    collect demuxerStep returnedBy d (List.replicate d.cachedPkts.length .readPacket) =
      cachedFrames d := by
  induction hc : d.cachedPkts generalizing d with
  | nil => simp [cachedFrames, hc, collect]
  | cons node rest ih =>
    have hr := readPacket_cached hopen hio hc
    have hstep : demuxerStep d .readPacket = some { d with cachedPkts := rest } := by
      simp [demuxerStep, hr]
    rw [List.length_cons, List.replicate_succ, collect, hstep, returnedBy_readPacket hr,
      Option.elim_some, ih (d := { d with cachedPkts := rest }) hopen hio rfl]
    simp only [cachedFrames, hc, List.map_cons]
    rfl

theorem parsedBy_isSome (d : FFmpegDemuxer) (call : DemuxerCall) :
    ∀ x ∈ parsedBy d call, x.isSome := by
  intro x hx
  obtain ⟨⟨e, r⟩, -, hx⟩ := List.mem_flatMap.1 hx
  obtain ⟨p, hp, hx⟩ := Option.bind_eq_some_iff.1 (Option.mem_toList.1 hx)
  obtain ⟨out, ho, hx⟩ := Option.bind_eq_some_iff.1 hx
  obtain ⟨node, hnode, rfl⟩ := Option.map_eq_some_iff.1 hx
  exact view_parsed hp ho hnode

/-- **Cached packets are delivered intact.** On every run of reads that meets the condition, the
frames that are parsed are those that `ReadPacket` has returned followed by those it will return,
each with the bytes it had right after `Parse`. -/
theorem cached_packets_intact {d₀ d : FFmpegDemuxer} {c : OpenCall}
    (h : d₀.openInput c = some (d, .ok)) (h₀ : d₀.cachedPkts = []) {calls : List DemuxerCall}
    (hcalls : ∀ call ∈ calls, call.staysOpen = true) (hsafe : Each demuxerStep CacheSafe d calls) :
    ∃ s, exec demuxerStep d calls = some s ∧
      (∀ x ∈ collect demuxerStep parsedBy d calls, x.isSome) ∧
      collect demuxerStep parsedBy d calls =
        collect demuxerStep returnedBy d calls ++ cachedFrames s ∧
      (s.ioEnabled = true →
        collect demuxerStep returnedBy d
            (calls ++ List.replicate s.cachedPkts.length .readPacket) =
          collect demuxerStep parsedBy d calls) := by
  obtain ⟨ctx, subs, subs', parsers, -, -, -, rfl⟩ := FFmpegDemuxer.openInput_ok h
  obtain ⟨s, hs, hopen, heq⟩ := exec_conserved (fun _ _ => call_conserves)
    (hsafe.and (Each.of_forall_mem hcalls)) (Option.some_ne_none ctx)
  have hnil : cachedFrames { d₀ with
      base := {}, fmtCtx := some ctx, ssrc := c.ssrc
      metadata := c.metadata ctx subs', streamParsers := parsers } = [] := by
    simp [cachedFrames, h₀]
  rw [hnil, List.nil_append] at heq
  refine ⟨s, hs, ?_, heq, fun hio => ?_⟩
  · intro x hx
    obtain ⟨e, call, hx⟩ := exists_of_mem_collect hx
    exact parsedBy_isSome e call x hx
  · rw [collect_append, hs, Option.elim_some, drain hopen hio, heq]

/-- A key frame of stream `i` at the start of the presentation. -/
def keyFrame (i : Nat) (data : Bytes) : ReadFrame :=
  .packet { pkt := { streamIndex := i, pts := 0, key := true, data := data } }

/-- An MPEG-4 stream whose configuration is still to come and an H.264 stream that has its
parameter sets. -/
def twoVideos (frames : List ReadFrame) : OpenCall :=
  { opened := some {
      streams := [
        { codecId := .mpeg4, codecType := .video, timeBase := ⟨1, 1000, by decide, by decide⟩ },
        { codecId := .h264, codecType := .video, timeBase := ⟨1, 1000, by decide, by decide⟩
          extradata := [0, 0, 0, 1, 0x67] }]
      frames := frames } }

/-- One H.264 key frame, then the configuration. -/
def oneKeyFrame : OpenCall :=
  twoVideos [keyFrame 1 [0, 0, 0, 1, 0x65, 1], keyFrame 0 [0, 0, 1, 0xB0]]

/-- Two H.264 key frames, then the configuration. -/
def twoKeyFrames : OpenCall :=
  twoVideos [keyFrame 1 [0, 0, 0, 1, 0x65, 1], keyFrame 1 [0, 0, 0, 1, 0x65, 2],
    keyFrame 0 [0, 0, 1, 0xB0]]

def metaAndPacket : List DemuxerCall := [.readMeta 5, .readPacket]

theorem cached_packets_intact_oneKeyFrame :
    Each demuxerStep CacheSafe (opened oneKeyFrame) metaAndPacket ∧
      ∃ s, exec demuxerStep (opened oneKeyFrame) metaAndPacket = some s ∧
        collect demuxerStep parsedBy (opened oneKeyFrame) metaAndPacket =
          collect demuxerStep returnedBy (opened oneKeyFrame) metaAndPacket ++ cachedFrames s := by
  have hopen : ({} : FFmpegDemuxer).openInput oneKeyFrame = some (opened oneKeyFrame, .ok) := by
    decide +kernel
  let read : FFmpegDemuxer := (exec demuxerStep (opened oneKeyFrame) [.readMeta 5]).getD {}
  have hread : demuxerStep (opened oneKeyFrame) (.readMeta 5) = some read := by decide +kernel
  have hsafe : Each demuxerStep CacheSafe (opened oneKeyFrame) metaAndPacket :=
    Each.cons hread (by decide +kernel) ⟨by decide +kernel, fun _ _ => trivial⟩
  obtain ⟨s, hs, -, heq, -⟩ := cached_packets_intact hopen rfl (by decide) hsafe
  exact ⟨hsafe, s, hs, heq⟩

/-- The second key frame is written over the first, which is still in the cache: `ReadPacket`
returns it with the bytes of the second. -/
theorem key_frame_overwritten :
    ({} : FFmpegDemuxer).openInput twoKeyFrames = some (opened twoKeyFrames, .ok) ∧
      ((collect demuxerStep parsedBy (opened twoKeyFrames) metaAndPacket).head?.join.map
        (·.pkt.data)) = some [0, 0, 0, 1, 0x67, 0, 0, 0, 1, 0x65, 1] ∧
      ((collect demuxerStep returnedBy (opened twoKeyFrames) metaAndPacket).head?.join.map
        (·.pkt.data)) = some [0, 0, 0, 1, 0x67, 0, 0, 0, 1, 0x65, 2] ∧
      ¬∃ s, exec demuxerStep (opened twoKeyFrames) metaAndPacket = some s ∧
        collect demuxerStep parsedBy (opened twoKeyFrames) metaAndPacket =
          collect demuxerStep returnedBy (opened twoKeyFrames) metaAndPacket ++ cachedFrames s := by
  have hparsed : ((collect demuxerStep parsedBy (opened twoKeyFrames) metaAndPacket).head?.join.map
      (·.pkt.data)) = some [0, 0, 0, 1, 0x67, 0, 0, 0, 1, 0x65, 1] := by decide +kernel
  have hreturned : ((collect demuxerStep returnedBy (opened twoKeyFrames)
      metaAndPacket).head?.join.map (·.pkt.data)) =
      some [0, 0, 0, 1, 0x67, 0, 0, 0, 1, 0x65, 2] := by decide +kernel
  refine ⟨by decide +kernel, hparsed, hreturned, ?_⟩
  rintro ⟨s, -, heq⟩
  rw [heq] at hparsed
  cases hc : collect demuxerStep returnedBy (opened twoKeyFrames) metaAndPacket with
  | nil => simp [hc] at hreturned
  | cons x xs =>
    rw [hc] at hparsed hreturned
    simp only [List.cons_append, List.head?_cons] at hparsed hreturned
    rw [hparsed] at hreturned
    exact absurd hreturned (by decide)

end StreamSwitch.Ffmpeg
