import StreamSwitch.RtspSource.Responses

/-!
# Sub-streams of the RTSP source

`SetupSinks` numbers the sinks and `SetupMetaFromSession` pushes the entries of the metadata, each
in a loop of its own over the subsessions; later a sink finds its entry by its number. The two
agree unless a multiplexed stream was initiated: then there is no metadata.
-/

namespace StreamSwitch

namespace RtspSource

variable {subs : List MediaSubsession} {sub : MediaSubsession} {p i : Nat}

/-! ## The two loops -/

/-- How many subsessions before the position were initiated. -/
def rank (subs : List MediaSubsession) (p : Nat) : Nat := (subs.take p).countP (·.readSource)

@[simp] theorem rank_zero (subs : List MediaSubsession) : rank subs 0 = 0 := rfl

theorem rank_cons_succ (sub : MediaSubsession) (subs : List MediaSubsession) (p : Nat) :
    rank (sub :: subs) (p + 1) = rank subs p + if sub.readSource then 1 else 0 := by
  unfold rank
  rw [List.take_succ_cons, List.countP_cons]

/-- A sink can always be created. -/
theorem createOutputSink_some (sub : MediaSubsession) (i : Nat) :
    ∃ sink, createOutputSink sub i = some sink ∧ sink.subStreamIndex = i := by
  have hnew : ∀ kind : SinkKind, kind.minBuffer ≤ audioSinkBufferSize := by
    intro kind
    cases kind with
    | media => decide
    | h264or5 hNumber =>
      show 1024 ≤ audioSinkBufferSize
      decide
    | mpeg4 => decide
  have hmedia : ∀ (kind : SinkKind) (size : Nat), audioSinkBufferSize ≤ size →
      OutputSink.createNew kind i size = some { kind, subStreamIndex := i } := by
    intro kind size hsize
    unfold OutputSink.createNew
    rw [if_neg (Nat.not_lt.2 ((hnew kind).trans hsize))]
  have hvideo : audioSinkBufferSize ≤ videoSinkBufferSize := by decide
  unfold createOutputSink
  simp only [hmedia _ _ hvideo, hmedia _ _ (Nat.le_refl _)]
  split_ifs <;> exact ⟨_, rfl, rfl⟩

theorem setupSinks_cons_of_not (subs : List MediaSubsession) (i : Nat) (h : sub.readSource = false) :
    (setupSinks (sub :: subs) i).1 = sub :: (setupSinks subs i).1 := by
  rw [setupSinks, if_pos (by rw [h]; rfl)]

theorem setupSinks_cons (subs : List MediaSubsession) (i : Nat) (h : sub.readSource = true) :
    ∃ sink : OutputSink, sink.subStreamIndex = i ∧ (setupSinks (sub :: subs) i).1 =
      { sub with framer := framerOf sub.codecName, sink := some sink } ::
        (setupSinks subs (i + 1)).1 := by
  obtain ⟨sink, hsink, hindex⟩ :=
    createOutputSink_some { sub with framer := framerOf sub.codecName } i
  refine ⟨sink.continuePlaying, sink.continuePlaying_kept.2.trans hindex, ?_⟩
  rw [setupSinks, if_neg (by rw [h]; decide)]
  dsimp only
  rw [hsink]

/-- A subsession without what `SetupSinks` gives to it. -/
def MediaSubsession.plain (sub : MediaSubsession) : MediaSubsession :=
  { sub with framer := none, sink := none }

theorem setupSinks_plain (subs : List MediaSubsession) (i : Nat) :
    (setupSinks subs i).1.map MediaSubsession.plain = subs.map MediaSubsession.plain := by
  induction subs generalizing i with
  | nil => rfl
  | cons sub subs ih =>
    cases hread : sub.readSource with
    | false =>
      rw [setupSinks_cons_of_not subs i hread, List.map_cons, ih]
      rfl
    | true =>
      obtain ⟨sink, -, heq⟩ := setupSinks_cons subs i hread
      rw [heq, List.map_cons, ih]
      rfl

/-- The sink of an initiated subsession has its rank; the others keep theirs. -/
theorem setupSinks_sink {i : Nat} (h : (setupSinks subs i).1[p]? = some sub) :
    (sub.readSource = true → ∃ sink, sub.sink = some sink ∧
        sink.subStreamIndex = i + rank (setupSinks subs i).1 p) ∧
      (sub.readSource = false → subs[p]? = some sub) := by
  induction subs generalizing i p with
  | nil => cases h
  | cons s subs ih =>
    cases hread : s.readSource with
    | false =>
      rw [setupSinks_cons_of_not subs i hread] at h ⊢
      cases p with
      | zero =>
        cases h
        exact ⟨fun hr => (nomatch hread.symm.trans hr), fun _ => rfl⟩
      | succ p =>
        rw [rank_cons_succ, hread]
        exact ih h
    | true =>
      obtain ⟨sink, hindex, heq⟩ := setupSinks_cons subs i hread
      rw [heq] at h ⊢
      cases p with
      | zero =>
        cases h
        exact ⟨fun _ => ⟨sink, rfl, hindex⟩, fun hr => nomatch hread.symm.trans hr⟩
      | succ p =>
        obtain ⟨hsinks, hothers⟩ := ih h
        refine ⟨fun hr => ?_, hothers⟩
        obtain ⟨sink', hsink', hindex'⟩ := hsinks hr
        refine ⟨sink', hsink', ?_⟩
        rw [rank_cons_succ, if_pos hread, hindex']
        omega

/-- What the loop of `SetupMetaFromSession` appends, when no multiplexed stream was initiated: with
each entry, the position of its subsession. -/
theorem metaLoop_some (ignoreSdpSps : Bool) (position index : Nat) (l : MetaLoop)
    (hmux : ∀ sub ∈ subs, sub.readSource = true → sub.isMux = false) :
    ∃ l' : MetaLoop, ∃ entries : List (Nat × SubStreamMetadata),
      metaLoop ignoreSdpSps subs position index l = some l' ∧
      l'.described = l.described ++ entries.map Prod.fst ∧
      l'.subStreams = l.subStreams ++ entries.map Prod.snd ∧
      ∀ i q m, entries[i]? = some (q, m) ↔ ∃ p sub, q = position + p ∧ subs[p]? = some sub ∧
        sub.readSource = true ∧ rank subs p = i ∧ m = sub.toMetadata ignoreSdpSps (index + i) := by
  induction subs generalizing position index l with
  | nil => exact ⟨l, [], rfl, by simp, by simp, by simp⟩
  | cons s subs ih =>
    have hmux' : ∀ sub ∈ subs, sub.readSource = true → sub.isMux = false :=
      fun sub hmem => hmux sub (.tail _ hmem)
    cases hread : s.readSource with
    | false =>
      obtain ⟨l', entries, hloop, hdescribed, hsubStreams, hentries⟩ := ih (position + 1) index l hmux'
      refine ⟨l', entries, ?_, hdescribed, hsubStreams, fun i q m => ?_⟩
      · rw [metaLoop, if_pos (by rw [hread]; rfl)]
        exact hloop
      · rw [hentries]
        constructor
        · rintro ⟨p, sub, rfl, hsub, hr, hrank, hm⟩
          refine ⟨p + 1, sub, by omega, hsub, hr, ?_, hm⟩
          rw [rank_cons_succ, hread]
          exact hrank
        · rintro ⟨p, sub, rfl, hsub, hr, hrank, hm⟩
          cases p with
          | zero =>
            cases hsub
            cases hread.symm.trans hr
          | succ p =>
            refine ⟨p, sub, by omega, hsub, hr, ?_, hm⟩
            rw [rank_cons_succ, hread] at hrank
            exact hrank
    | true =>
      have hnot := hmux s (.head _) hread
      obtain ⟨l', entries, hloop, hdescribed, hsubStreams, hentries⟩ := ih (position + 1) (index + 1)
        { described := l.described ++ [position]
          subStreams := l.subStreams ++ [s.toMetadata ignoreSdpSps index]
          bps := l.bps + s.bandwidth * 1000 } hmux'
      refine ⟨l', (position, s.toMetadata ignoreSdpSps index) :: entries, ?_, ?_, ?_, fun i q m => ?_⟩
      · rw [metaLoop, if_neg (by rw [hread]; decide), if_neg (by rw [hnot]; decide)]
        exact hloop
      · rw [hdescribed, List.append_assoc]
        rfl
      · rw [hsubStreams, List.append_assoc]
        rfl
      · cases i with
        | zero =>
          constructor
          · rintro ⟨⟩
            exact ⟨0, s, rfl, rfl, hread, rfl, rfl⟩
          · rintro ⟨p, sub, rfl, hsub, hr, hrank, rfl⟩
            cases p with
            | zero =>
              cases hsub
              rfl
            | succ p =>
              rw [rank_cons_succ, if_pos hread] at hrank
              omega
        | succ i =>
          rw [List.getElem?_cons_succ, hentries]
          constructor
          · rintro ⟨p, sub, rfl, hsub, hr, hrank, hm⟩
            refine ⟨p + 1, sub, by omega, hsub, hr, ?_, ?_⟩
            · rw [rank_cons_succ, if_pos hread, hrank]
            · rw [hm, Nat.add_assoc, Nat.add_comm 1 i]
          · rintro ⟨p, sub, rfl, hsub, hr, hrank, hm⟩
            cases p with
            | zero => cases hrank
            | succ p =>
              rw [rank_cons_succ, if_pos hread] at hrank
              refine ⟨p, sub, by omega, hsub, hr, by omega, ?_⟩
              rw [hm, Nat.add_assoc, Nat.add_comm 1 i]

/-- At a multiplexed stream the loop gives up. -/
theorem metaLoop_none {ignoreSdpSps : Bool} {position index : Nat} {l : MetaLoop}
    (hmux : ∃ sub ∈ subs, sub.readSource = true ∧ sub.isMux = true) :
    metaLoop ignoreSdpSps subs position index l = none := by
  induction subs generalizing position index l with
  | nil =>
    obtain ⟨sub, hmem, -⟩ := hmux
    cases hmem
  | cons s subs ih =>
    obtain ⟨sub, hmem, hread, hsub⟩ := hmux
    unfold metaLoop
    rcases List.mem_cons.1 hmem with rfl | hmem
    · rw [if_neg (by rw [hread]; decide), if_pos hsub]
    · split
      · exact ih ⟨sub, hmem, hread, hsub⟩
      · split
        · rfl
        · exact ih ⟨sub, hmem, hread, hsub⟩

/-! ## Sinks and entries -/

def LiveRtspClient.subsessionAt (c : LiveRtspClient) (p : Nat) : Option MediaSubsession :=
  (c.findSession 0).bind fun s => s.subsessions[p]?

/-- The sink of the subsession at `p` has the index `i`. -/
def SinkAt (c : LiveRtspClient) (i p : Nat) : Prop :=
  ∃ sub sink, c.subsessionAt p = some sub ∧ sub.sink = some sink ∧ sink.subStreamIndex = i

/-- The entry `i` of the metadata was made for the subsession at `p`, and says what that one is; extra
data may have been found since. -/
def Describes (c : LiveRtspClient) (i p : Nat) : Prop :=
  c.described[i]? = some p ∧ ∃ sub extra, c.subsessionAt p = some sub ∧
    c.metadata.subStreams[i]? = some { sub.toMetadata c.ignoreSdpSps i with extraData := extra }

/-- Sinks and entries of the metadata are numbered alike. -/
def Aligned (c : LiveRtspClient) : Prop := ∀ i p, SinkAt c i p ↔ Describes c i p

/-- A frame at the sink of the subsession at `p`: the sink finds the entry of its index, changes no
entry but that of its subsession, and the listener is told at most once. -/
def FrameSafe (c : LiveRtspClient) (e : Nat × Frame) : Prop :=
  ∀ x, c.frame 0 e.1 e.2 = some x → ∃ c', x = .ok c' ∧ Aligned c' ∧ MetaReadyOnce c' ∧
    ∀ i, ¬ Describes c i e.1 → c'.metadata.subStreams[i]? = c.metadata.subStreams[i]?

/-- The metadata has no entries, and the listener has not been told of it. -/
structure NoMeta (c : LiveRtspClient) : Prop where
  empty : c.metadata.subStreams = []
  notReady : c.isMetadataOk = false
  never : c.calls.countP ListenerCall.isMetaReady = 0

/-- A frame while there are no entries: a plain sink passes it on, and still there is no metadata. -/
def FrameNoMeta (c : LiveRtspClient) (e : Nat × Frame) : Prop :=
  ∀ x, c.frame 0 e.1 e.2 = some x → (∀ c', x = .ok c' → NoMeta c') ∧
    ∀ sub sink, c.subsessionAt e.1 = some sub → sub.sink = some sink → sink.kind = .media →
      ∃ c', x = .ok c'

def frameStep (c : LiveRtspClient) (e : Nat × Frame) : Option LiveRtspClient :=
  (c.frame 0 e.1 e.2).bind Except.toOption

section frames
variable {c c' : LiveRtspClient} {f : Frame}

theorem findSession_setSubsessions {address : Nat} {s : MediaSession} (subs : List MediaSubsession)
    (h : c.findSession address = some s) :
    (c.setSubsessions address subs).findSession address = some { s with subsessions := subs } := by
  have haddress : s.address = address := by simpa using List.find?_some h
  unfold LiveRtspClient.findSession LiveRtspClient.setSubsessions at *
  rw [List.find?_map]
  have hsame : ((fun s : MediaSession => decide (s.address = address)) ∘ fun s : MediaSession =>
      if s.address = address then { s with subsessions := subs } else s) =
      fun s : MediaSession => decide (s.address = address) := by
    funext s'
    simp only [Function.comp]
    split <;> rfl
  rw [hsame, h, Option.map_some, if_pos haddress]

/-- A frame at a sink: the client as the sink leaves it, with the sink put back. -/
theorem frame_cases {sub : MediaSubsession} {sink : OutputSink} (f : Frame)
    (hsub : c.subsessionAt p = some sub) (hsink : sub.sink = some sink) :
    (sink.kind ≠ .media ∧ c.metadata.subStreams[sink.subStreamIndex]? = none ∧
        c.frame 0 p f = some (.error .noSubStream)) ∨
      ∃ (sink' : OutputSink) (c₁ : LiveRtspClient) (sessions : List MediaSession),
        c.frame 0 p f = some (.ok { c₁ with sessions }) ∧
        sink'.subStreamIndex = sink.subStreamIndex ∧ Touches sink.subStreamIndex c c₁ ∧
        ∀ q, { c₁ with sessions }.subsessionAt q =
          if q = p then some { sub with sink := some sink' } else c.subsessionAt q := by
  obtain ⟨s, hs, hsub⟩ := Option.bind_eq_some_iff.1 hsub
  rcases OutputSink.fine_afterGettingFrame sub.framer sink f c with
    ⟨hkind, hnone, heq⟩ | ⟨⟨sink', c₁⟩, heq, hpass⟩
  · refine .inl ⟨hkind, hnone, ?_⟩
    unfold LiveRtspClient.frame
    simp only [hs, hsub, hsink, heq, bind, Option.bind, pure]
    rfl
  · refine .inr ⟨sink', c₁,
      (c₁.setSubsessions 0 (s.subsessions.set p { sub with sink := some sink' })).sessions,
      ?_, hpass.index, hpass.touches, fun q => ?_⟩
    · unfold LiveRtspClient.frame
      simp only [hs, hsub, hsink, heq, bind, Option.bind, pure]
      rfl
    · have hs₁ : c₁.findSession 0 = some s := by
        rw [← hs]
        unfold LiveRtspClient.findSession
        rw [hpass.touches.sessions]
      have hlt : p < s.subsessions.length := (List.getElem?_eq_some_iff.1 hsub).1
      show ((c₁.setSubsessions 0 _).findSession 0).bind _ =
        if q = p then _ else (c.findSession 0).bind _
      rw [findSession_setSubsessions _ hs₁, hs, Option.bind_some, Option.bind_some, List.getElem?_set]
      by_cases hq : q = p
      · rw [if_pos hq.symm, if_pos hq, if_pos hlt]
      · rw [if_neg (Ne.symm hq), if_neg hq]

/-- Every sink finds its entry. -/
theorem Aligned.entry {sub : MediaSubsession} {sink : OutputSink} (h : Aligned c)
    (hsub : c.subsessionAt p = some sub) (hsink : sub.sink = some sink) :
    Describes c sink.subStreamIndex p :=
  (h _ p).1 ⟨sub, sink, hsub, hsink, rfl⟩

/-- Sinks and entries stay aligned while a sink changes its entry. -/
theorem Aligned.touched {sub : MediaSubsession} {sink sink' : OutputSink} (ha : Aligned c)
    (hsub : c.subsessionAt p = some sub) (hsink : sub.sink = some sink)
    (hindex : sink'.subStreamIndex = sink.subStreamIndex)
    (hdescribed : c'.described = c.described) (hignore : c'.ignoreSdpSps = c.ignoreSdpSps)
    (hothers : ∀ j, j ≠ sink.subStreamIndex → c'.metadata.subStreams[j]? = c.metadata.subStreams[j]?)
    (hentry : ∀ m, c.metadata.subStreams[sink.subStreamIndex]? = some m →
      ∃ extra, c'.metadata.subStreams[sink.subStreamIndex]? = some { m with extraData := extra })
    (hat : ∀ q, c'.subsessionAt q =
      if q = p then some { sub with sink := some sink' } else c.subsessionAt q) : Aligned c' := by
  have hown := ha.entry hsub hsink
  intro i q
  have hsinks : SinkAt c' i q ↔ SinkAt c i q := by
    unfold SinkAt
    rw [hat]
    by_cases hq : q = p
    · subst hq
      rw [if_pos rfl, hsub]
      constructor
      · rintro ⟨_, _, ⟨⟩, ⟨⟩, rfl⟩
        exact ⟨sub, sink, rfl, hsink, hindex.symm⟩
      · rintro ⟨_, sink₁, ⟨⟩, hsink₁, rfl⟩
        cases hsink.symm.trans hsink₁
        exact ⟨_, sink', rfl, rfl, hindex⟩
    · rw [if_neg hq]
  have hentries : Describes c' i q ↔ Describes c i q := by
    unfold Describes
    rw [hdescribed, hignore]
    refine and_congr_right fun hd => ?_
    by_cases hi : i = sink.subStreamIndex
    · -- the entry that was changed is that of `p`
      subst hi
      cases hd.symm.trans hown.1
      rw [hat, if_pos rfl]
      obtain ⟨-, sub₁, extra, hsub₁, hm⟩ := id hown
      cases hsub.symm.trans hsub₁
      obtain ⟨extra', hm'⟩ := hentry _ hm
      exact iff_of_true ⟨_, extra', rfl, hm'⟩ ⟨sub, extra, hsub, hm⟩
    · rw [hothers i hi, hat]
      by_cases hq : q = p
      · subst hq
        rw [if_pos rfl, hsub]
        constructor
        · rintro ⟨_, extra, ⟨⟩, hm⟩
          exact ⟨sub, extra, rfl, hm⟩
        · rintro ⟨_, extra, ⟨⟩, hm⟩
          exact ⟨_, extra, rfl, hm⟩
      · rw [if_neg hq]
  rw [hsinks, hentries]
  exact ha i q

/-- A frame is at the sink of a subsession. -/
theorem exists_sink_of_frame {x : Except Fault LiveRtspClient} (hx : c.frame 0 p f = some x) :
    ∃ sub sink, c.subsessionAt p = some sub ∧ sub.sink = some sink := by
  unfold LiveRtspClient.frame at hx
  simp only [bind, Option.bind_eq_some_iff] at hx
  obtain ⟨s, hs, sub, hsub, sink, hsink, -⟩ := hx
  exact ⟨sub, sink, Option.bind_eq_some_iff.2 ⟨s, hs, hsub⟩, hsink⟩

/-- What a frame keeps. -/
theorem frame_kept (ha : Aligned c) (hr : ReadyInv c) {x : Except Fault LiveRtspClient}
    (hx : c.frame 0 p f = some x) :
    ∃ c', x = .ok c' ∧ Aligned c' ∧ ReadyInv c' ∧
      ∀ i, ¬ Describes c i p → c'.metadata.subStreams[i]? = c.metadata.subStreams[i]? := by
  obtain ⟨sub, sink, hsub, hsink⟩ := exists_sink_of_frame hx
  have hown := ha.entry hsub hsink
  obtain ⟨-, _, extra, -, hentry⟩ := id hown
  rcases frame_cases f hsub hsink with ⟨-, hnone, -⟩ | ⟨sink', c₁, sessions, hframe, hindex, ht, hat⟩
  · cases hnone.symm.trans hentry
  · cases hx.symm.trans hframe
    refine ⟨_, rfl, ?_, ?_, ?_⟩
    · exact ha.touched hsub hsink hindex ht.described ht.ignoreSdpSps ht.others ht.own hat
    · exact ⟨⟨(ht.ready hr).once, (ht.ready hr).complete⟩, (ht.ready hr).notReady⟩
    · intro i hnot
      exact ht.others i fun heq => hnot (heq ▸ hown)

theorem NoMeta.readyInv (h : NoMeta c) : ReadyInv c := by
  refine ⟨⟨h.never.trans_le (Nat.zero_le 1), fun m hm => ?_⟩, fun _ => h.never⟩
  exact absurd rfl (List.countP_eq_zero.1 h.never _ hm)

/-- Without entries there is never metadata. -/
theorem frame_noMeta (h : NoMeta c) (e : Nat × Frame) : FrameNoMeta c e := by
  intro x hx
  obtain ⟨sub, sink, hsub, hsink⟩ := exists_sink_of_frame hx
  rcases frame_cases e.2 hsub hsink with ⟨hkind, -, hframe⟩ | ⟨sink', c₁, sessions, hframe, -, ht, -⟩
  · cases hx.symm.trans hframe
    refine ⟨fun c' heq => (nomatch heq), fun sub' sink' hsub' hsink' hmedia => ?_⟩
    cases hsub.symm.trans hsub'
    cases hsink.symm.trans hsink'
    exact absurd hmedia hkind
  · cases hx.symm.trans hframe
    refine ⟨fun c' heq => ?_, fun _ _ _ _ _ => ⟨_, rfl⟩⟩
    cases heq
    obtain ⟨hnil, hok⟩ := ht.empty h.empty
    have hnot := hok.trans h.notReady
    exact ⟨hnil, hnot, (ht.ready h.readyInv).notReady hnot⟩

theorem frameStep_eq_some_iff {e : Nat × Frame} :
    frameStep c e = some c' ↔ c.frame 0 e.1 e.2 = some (.ok c') := by
  unfold frameStep
  rw [Option.bind_eq_some_iff]
  constructor
  · rintro ⟨x, hx, hok⟩
    cases x with
    | error => cases hok
    | ok c₁ =>
      cases hok
      exact hx
  · intro hx
    exact ⟨.ok c', hx, rfl⟩

/-- Along every run of frames. -/
theorem each_frameSafe (ha : Aligned c) (hr : ReadyInv c) (es : List (Nat × Frame)) :
    Run.Each frameStep FrameSafe c es := by
  have hkeep : ∀ c e c', Aligned c ∧ ReadyInv c → frameStep c e = some c' →
      Aligned c' ∧ ReadyInv c' := by
    rintro c e c' ⟨ha, hr⟩ hstep
    obtain ⟨c₁, heq, ha', hr', -⟩ := frame_kept ha hr (frameStep_eq_some_iff.1 hstep)
    cases heq
    exact ⟨ha', hr'⟩
  refine Run.each_inv hkeep (fun c e hinv x hx => ?_) es ⟨ha, hr⟩
  obtain ⟨c', heq, ha', hr', hothers⟩ := frame_kept hinv.1 hinv.2 hx
  exact ⟨c', heq, ha', hr'.toMetaReadyOnce, hothers⟩

theorem each_frameNoMeta (h : NoMeta c) (es : List (Nat × Frame)) :
    Run.Each frameStep FrameNoMeta c es :=
  Run.each_inv (fun _ e c' h hstep => (frame_noMeta h e _ (frameStep_eq_some_iff.1 hstep)).1 c' rfl)
    (fun _ e h => frame_noMeta h e) es h

end frames

/-! ## After `SETUP` -/

theorem setupSinks_snd (subs : List MediaSubsession) (i : Nat) :
    (setupSinks subs i).2 = subs.any (·.readSource) := by
  induction subs generalizing i with
  | nil => rfl
  | cons sub subs ih =>
    cases hread : sub.readSource with
    | false =>
      rw [setupSinks, if_pos (by rw [hread]; rfl), List.any_cons, hread, Bool.false_or]
      exact ih i
    | true =>
      obtain ⟨sink, hsink, -⟩ :=
        createOutputSink_some { sub with framer := framerOf sub.codecName } i
      have hany : (sub :: subs).any (·.readSource) = true := by
        rw [List.any_cons, hread, Bool.true_or]
      rw [hany, setupSinks, if_neg (by rw [hread]; decide)]
      dsimp only
      rw [hsink]

/-- What does not depend on the sinks is the same of the subsessions before `SetupSinks`. -/
theorem exists_setupSinks {P : MediaSubsession → Prop}
    (hP : ∀ sub : MediaSubsession, P sub.plain ↔ P sub) (subs : List MediaSubsession) (i : Nat) :
    (∃ sub ∈ (setupSinks subs i).1, P sub) ↔ ∃ sub ∈ subs, P sub := by
  have hplain : ∀ l : List MediaSubsession,
      (∃ sub ∈ l, P sub) ↔ ∃ sub ∈ l.map MediaSubsession.plain, P sub := by
    intro l
    simp only [List.mem_map, exists_exists_and_eq_and, hP]
  rw [hplain, setupSinks_plain, ← hplain]

namespace LiveRtspClient

@[simp] theorem call_metadata (c : LiveRtspClient) (x : ListenerCall) :
    (c.call x).metadata = c.metadata := by
  unfold call
  split <;> rfl

@[simp] theorem checkMetadata_metadata (c : LiveRtspClient) :
    c.checkMetadata.metadata = c.metadata := by
  unfold checkMetadata
  split
  · rfl
  · split
    · exact call_metadata _ _
    · rfl

theorem setupMetaFromSession_of_some {c : LiveRtspClient} {l : MetaLoop}
    (h : metaLoop c.ignoreSdpSps subs 0 0 ⟨c.described, c.metadata.subStreams, 0⟩ = some l) :
    c.setupMetaFromSession subs =
      { c with
        metadata := { c.metadata with subStreams := l.subStreams, bps := l.bps }
        described := l.described }.checkMetadata := by
  unfold setupMetaFromSession
  rw [h]

end LiveRtspClient

theorem Aligned.checkMetadata {c : LiveRtspClient} (h : Aligned c) : Aligned c.checkMetadata := by
  have htouches := LiveRtspClient.touches_checkMetadata 0 c
  have hat : ∀ p, c.checkMetadata.subsessionAt p = c.subsessionAt p := by
    intro p
    unfold LiveRtspClient.subsessionAt LiveRtspClient.findSession
    rw [htouches.sessions]
  intro i p
  unfold SinkAt Describes
  rw [hat, htouches.described, htouches.ignoreSdpSps, LiveRtspClient.checkMetadata_metadata]
  exact h i p

section duration
variable {c : LiveRtspClient} (s : MediaSession)

theorem Aligned.setDuration (h : Aligned c) : Aligned (c.setDuration s) := h

theorem ReadyInv.setDuration (h : ReadyInv c) : ReadyInv (c.setDuration s) :=
  ⟨⟨h.once, h.complete⟩, h.notReady⟩

theorem NoMeta.setDuration (h : NoMeta c) : NoMeta (c.setDuration s) :=
  ⟨h.empty, h.notReady, h.never⟩

end duration

/-- A client whose session has these subsessions and whose metadata has these entries. -/
theorem aligned_of_entries {c : LiveRtspClient} (entries : List (Nat × SubStreamMetadata))
    (hnew : ∀ sub ∈ subs, sub.sink = none)
    (hat : ∀ p, c.subsessionAt p = (setupSinks subs 0).1[p]?)
    (hdescribed : c.described = entries.map Prod.fst)
    (hsubStreams : c.metadata.subStreams = entries.map Prod.snd)
    (hentries : ∀ i q m, entries[i]? = some (q, m) ↔ ∃ p sub, q = 0 + p ∧
      (setupSinks subs 0).1[p]? = some sub ∧ sub.readSource = true ∧
      rank (setupSinks subs 0).1 p = i ∧ m = sub.toMetadata c.ignoreSdpSps (0 + i)) : Aligned c := by
  intro i p
  constructor
  · rintro ⟨sub, sink, hsub, hsink, rfl⟩
    rw [hat] at hsub
    obtain ⟨hsinks, hothers⟩ := setupSinks_sink hsub
    cases hread : sub.readSource with
    | false =>
      have hnone := hnew sub (List.mem_of_getElem? (hothers hread))
      cases hnone.symm.trans hsink
    | true =>
      obtain ⟨sink', hsink', hindex⟩ := hsinks hread
      cases hsink.symm.trans hsink'
      rw [Nat.zero_add] at hindex
      have hentry := (hentries sink.subStreamIndex p _).2
        ⟨p, sub, (Nat.zero_add p).symm, hsub, hread, hindex.symm, rfl⟩
      refine ⟨?_, sub, (sub.toMetadata c.ignoreSdpSps sink.subStreamIndex).extraData,
        (hat p).trans hsub, ?_⟩
      · rw [hdescribed, List.getElem?_map, hentry]
        rfl
      · rw [hsubStreams, List.getElem?_map, hentry, Nat.zero_add]
        rfl
  · rintro ⟨hd, sub, extra, hsub, -⟩
    rw [hdescribed, List.getElem?_map] at hd
    obtain ⟨⟨q, m⟩, hentry, rfl⟩ := Option.map_eq_some_iff.1 hd
    obtain ⟨p, sub', rfl, hsub', hread, rfl, -⟩ := (hentries i q m).1 hentry
    obtain ⟨sink, hsink, hindex⟩ := (setupSinks_sink hsub').1 hread
    refine ⟨sub', sink, ?_, hsink, hindex.trans (Nat.zero_add _)⟩
    rw [hat]
    show (setupSinks subs 0).1[0 + p]? = _
    rw [Nat.zero_add]
    exact hsub'

/-- A client that has sinks for these subsessions, and no metadata. -/
structure HasSinks (c : LiveRtspClient) (subs : List MediaSubsession) : Prop extends NoMeta c where
  sinks : ∀ p, c.subsessionAt p = (setupSinks subs 0).1[p]?
  described : c.described = []

section sinks
variable {c : LiveRtspClient}

/-- Without an initiated subsession there are neither sinks nor entries. -/
theorem HasSinks.aligned_of_none (h : HasSinks c subs) (hnew : ∀ sub ∈ subs, sub.sink = none)
    (hnone : subs.any (·.readSource) = false) : Aligned c := by
  refine aligned_of_entries [] hnew h.sinks h.described h.empty fun i q m => iff_of_false nofun ?_
  rintro ⟨p, sub, -, hsub, hread, -⟩
  have hex : ∃ sub ∈ (setupSinks subs 0).1, sub.readSource = true :=
    ⟨sub, List.mem_of_getElem? hsub, hread⟩
  obtain ⟨sub', hmem, hread'⟩ := (exists_setupSinks (fun _ => Iff.rfl) _ _).1 hex
  exact absurd hread' (List.any_eq_false.1 hnone sub' hmem)

theorem HasSinks.handleError (h : HasSinks c subs) (code : RtspClientErrCode) :
    HasSinks (c.handleError code) subs := by
  have hcall := LiveRtspClient.touches_call (x := .onError code) rfl 0 c
  obtain ⟨hnil, hok⟩ := hcall.empty h.empty
  have hnot := hok.trans h.notReady
  refine ⟨⟨hnil, hnot, (hcall.ready h.readyInv).notReady hnot⟩, fun p => ?_,
    hcall.described.trans h.described⟩
  rw [← h.sinks p]
  unfold LiveRtspClient.subsessionAt LiveRtspClient.findSession LiveRtspClient.handleError
  rw [hcall.sessions]

/-- The two loops agree where no multiplexed stream was initiated. -/
theorem HasSinks.setupMeta (h : HasSinks c subs) (hnew : ∀ sub ∈ subs, sub.sink = none)
    (hmux : ∀ sub ∈ subs, sub.readSource = true → sub.isMux = false) :
    Aligned (c.setupMetaFromSession (setupSinks subs 0).1) ∧
      ReadyInv (c.setupMetaFromSession (setupSinks subs 0).1) := by
  have hmux' : ∀ sub ∈ (setupSinks subs 0).1, sub.readSource = true → sub.isMux = false := by
    intro sub hmem hread
    by_contra hnot
    obtain ⟨sub', hmem', hread', hnot'⟩ := (exists_setupSinks
      (P := fun sub => sub.readSource = true ∧ ¬ sub.isMux = false) (fun _ => Iff.rfl) _ _).1
      ⟨sub, hmem, hread, hnot⟩
    exact hnot' (hmux sub' hmem' hread')
  obtain ⟨l, entries, hloop, hdescribed, hsubStreams, hentries⟩ :=
    metaLoop_some c.ignoreSdpSps 0 0 ⟨[], [], 0⟩ hmux'
  rw [← h.described, ← h.empty] at hloop
  rw [LiveRtspClient.setupMetaFromSession_of_some hloop]
  refine ⟨Aligned.checkMetadata ?_, (LiveRtspClient.touches_checkMetadata 0 _).ready ?_⟩
  · exact aligned_of_entries entries hnew h.sinks hdescribed hsubStreams hentries
  · exact ⟨⟨h.readyInv.once, h.readyInv.complete⟩, h.readyInv.notReady⟩

/-- A multiplexed stream leaves no metadata. -/
theorem HasSinks.setupMeta_mux (h : HasSinks c subs)
    (hmux : ∃ sub ∈ subs, sub.readSource = true ∧ sub.isMux = true) :
    NoMeta (c.setupMetaFromSession (setupSinks subs 0).1) := by
  unfold LiveRtspClient.setupMetaFromSession
  rw [metaLoop_none ((exists_setupSinks (fun _ => Iff.rfl) _ _).2 hmux)]
  exact ⟨rfl, h.notReady, h.never⟩

end sinks

/-- A started client with a session, and its SETUPs are answered. -/
def setupAnswered (hasListener enableRtspKeepAlive : Bool) (singleMedium : Option String)
    (ignoreSdpSps : Bool) (ssrc : UInt32) (s : MediaSession) : LiveRtspClient :=
  { (LiveRtspClient.createNew hasListener enableRtspKeepAlive singleMedium ignoreSdpSps).start ssrc with
    sessions := [{ s with address := 0 }]
    session := some 0
    nextAddress := 1
    madeProgress := true }

section setup
variable (hasListener enableRtspKeepAlive : Bool) (singleMedium : Option String) (ignoreSdpSps : Bool)
  (ssrc : UInt32)

theorem setupDone_setupAnswered (s : MediaSession) :
    ∃ c, HasSinks c s.subsessions ∧
      (setupAnswered hasListener enableRtspKeepAlive singleMedium ignoreSdpSps ssrc s).setupDone =
        .ok (if s.subsessions.any (·.readSource) then
          (c.setupMetaFromSession (setupSinks s.subsessions 0).1).setDuration { s with address := 0 }
        else c.handleError .subsessionInitErr) := by
  refine ⟨(setupAnswered hasListener enableRtspKeepAlive singleMedium ignoreSdpSps ssrc
    s).setSubsessions 0 (setupSinks s.subsessions 0).1, ⟨⟨rfl, rfl, rfl⟩, fun _ => rfl, rfl⟩, ?_⟩
  rw [← setupSinks_snd s.subsessions 0]
  unfold LiveRtspClient.setupDone
  have hfind : (setupAnswered hasListener enableRtspKeepAlive singleMedium ignoreSdpSps ssrc
      s).session.bind (setupAnswered hasListener enableRtspKeepAlive singleMedium ignoreSdpSps ssrc
        s).findSession = some { s with address := 0 } := rfl
  rw [if_neg (by rintro ⟨⟩), hfind]
  dsimp only
  cases (setupSinks s.subsessions 0).2 with
  | false => rfl
  | true => rfl

/-- After `SetupSinks` and `SetupMetaFromSession`, and along any run of frames: sinks and entries of
the metadata are numbered alike, and a sink changes only the entry of its subsession. A
multiplexed stream leaves no entry and no metadata. -/
theorem sub_streams_aligned {s : MediaSession} (hnew : ∀ sub ∈ s.subsessions, sub.sink = none)
    (es : List (Nat × Frame)) :
    ∃ c, (setupAnswered hasListener enableRtspKeepAlive singleMedium ignoreSdpSps ssrc
        s).setupDone = .ok c ∧
      ((∀ sub ∈ s.subsessions, sub.readSource = true → sub.isMux = false) →
        Aligned c ∧ MetaReadyOnce c ∧ Run.Each frameStep FrameSafe c es) ∧
      ((∃ sub ∈ s.subsessions, sub.readSource = true ∧ sub.isMux = true) →
        NoMeta c ∧ Run.Each frameStep FrameNoMeta c es) := by
  obtain ⟨c, hc, hdone⟩ :=
    setupDone_setupAnswered hasListener enableRtspKeepAlive singleMedium ignoreSdpSps ssrc s
  refine ⟨_, hdone, ?_, ?_⟩
  · intro hmux
    split
    · obtain ⟨ha, hr⟩ := hc.setupMeta hnew hmux
      exact ⟨ha.setDuration _, (hr.setDuration _).toMetaReadyOnce,
        each_frameSafe (ha.setDuration _) (hr.setDuration _) es⟩
    · rename_i hnone
      have hc' := hc.handleError .subsessionInitErr
      have ha := hc'.aligned_of_none hnew (Bool.eq_false_iff.2 hnone)
      exact ⟨ha, hc'.readyInv.toMetaReadyOnce, each_frameSafe ha hc'.readyInv es⟩
  · intro hmux
    obtain ⟨sub, hmem, hread, -⟩ := id hmux
    rw [if_pos (List.any_eq_true.2 ⟨sub, hmem, hread⟩)]
    have hno := (hc.setupMeta_mux hmux).setDuration { s with address := 0 }
    exact ⟨hno, each_frameNoMeta hno es⟩

end setup

/-- A video stream whose parameter sets are not in the SDP, a stream that is not initiated, and an audio
stream. -/
def cameraSession : MediaSession where
  subsessions :=
    [{ mediumName := "video", codecName := "H264", readSource := true },
      { mediumName := "application", codecName := "VND.ONVIF.METADATA" },
      { mediumName := "audio", codecName := "PCMU", readSource := true }]

def pictureFrame : Frame :=
  { presentationTime := {}, timeOfDay := 0, data := [0x65], sps := some [0x67], pps := some [0x68] }

/-- With the first picture the metadata of the camera is ready. -/
theorem sub_streams_aligned_camera :
    ((setupAnswered true true none false 7 cameraSession).setupDone.toOption.bind fun c =>
        frameStep c (0, pictureFrame)).map (fun c => c.calls.countP ListenerCall.isMetaReady) = some 1 ∧
      ∃ c, (setupAnswered true true none false 7 cameraSession).setupDone = .ok c ∧ Aligned c ∧
        MetaReadyOnce c ∧ Run.Each frameStep FrameSafe c [(0, pictureFrame), (2, pictureFrame)] := by
  refine ⟨by decide +kernel, ?_⟩
  obtain ⟨c, hc, halign, -⟩ := sub_streams_aligned true true none false 7 (s := cameraSession)
    (by decide +kernel) [(0, pictureFrame), (2, pictureFrame)]
  exact ⟨c, hc, halign (by decide +kernel)⟩

/-- A transport stream. -/
def muxSession : MediaSession where
  subsessions := [{ mediumName := "video", codecName := "MP2T", readSource := true }]

/-- It has a sink, and no entry. -/
theorem mux_sink_without_entry :
    ∃ c, (setupAnswered true true none false 7 muxSession).setupDone = .ok c ∧
      SinkAt c 0 0 ∧ c.metadata.subStreams = [] ∧ ¬ Aligned c := by
  have hsink : ∃ c, (setupAnswered true true none false 7 muxSession).setupDone = .ok c ∧
      SinkAt c 0 0 ∧ c.metadata.subStreams = [] ∧ c.described = [] :=
    ⟨_, rfl, ⟨_, _, rfl, rfl, rfl⟩, rfl, rfl⟩
  obtain ⟨c, hc, hat, hnil, hdescribed⟩ := hsink
  refine ⟨c, hc, hat, hnil, fun ha => ?_⟩
  obtain ⟨hd, -⟩ := (ha 0 0).1 hat
  rw [hdescribed] at hd
  cases hd

end RtspSource

end StreamSwitch
