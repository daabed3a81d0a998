import Mathlib.Data.List.TakeWhile
import StreamSwitch.RtspPort.Session

/-!
# Sequences of RTSP requests

In which orders of requests the handlers follow no pointer that is not there and answer
each request once, and when errors leave the session as it was.
-/

namespace StreamSwitch

namespace Rtsp

variable {env : Environment} {req : Request} {c c' : Client} {s s' : Session} {r : Resource}

/-! ## Parameters -/

/-- Every line fits into `param`, its zero included. -/
def LinesFit (params : List Char) : Prop :=
  ∀ line ∈ params.splitOnP isLineEnd, line.length < paramSize

section params
variable {params line rest : List Char}

theorem linesFit_of_line (h : ∀ ch ∈ line, isLineEnd ch = false) :
    LinesFit line ↔ line.length < paramSize := by
  unfold LinesFit
  rw [List.splitOnP_eq_singleton h, List.forall_mem_singleton]

theorem linesFit_append_cons {sep : Char} (h : ∀ ch ∈ line, isLineEnd ch = false)
    (hsep : isLineEnd sep = true) :
    LinesFit (line ++ sep :: rest) ↔ line.length < paramSize ∧ LinesFit rest := by
  unfold LinesFit
  rw [List.splitOnP_append_cons_of_forall_mem h sep hsep, List.forall_mem_cons]

theorem linesFit_dropWhile (params : List Char) :
    LinesFit (params.dropWhile isLineEnd) ↔ LinesFit params := by
  induction params with
  | nil => rfl
  | cons ch params ih =>
    rw [List.dropWhile_cons]
    split_ifs with hend
    · rw [ih, ← List.nil_append (ch :: params), linesFit_append_cons (by simp) hend]
      exact (and_iff_right (by decide)).symm
    · rfl

/-- What `sscanf` matches is up to the end of the line. -/
theorem scanLine_spec (h : scanLine params = some (line, rest)) :
    (∀ ch ∈ line, isLineEnd ch = false) ∧ ∀ ch ∈ rest.head?, isLineEnd ch = true := by
  unfold scanLine at h
  dsimp only at h
  split_ifs at h
  cases h
  refine ⟨fun ch hch => by simpa using List.mem_takeWhile_imp hch, fun ch hch => ?_⟩
  have hnot := List.head?_dropWhile_not (fun ch => !isLineEnd ch) params
  rw [Option.mem_def.1 hch] at hnot
  simpa using hnot

theorem scanLine_eq_none (h : scanLine params = none) (hstart : params.head?.any isLineEnd = false) :
    params = [] := by
  cases params with
  | nil => rfl
  | cons ch params =>
    have hch : isLineEnd ch = false := by simpa using hstart
    simp [scanLine, hch] at h

theorem scanLine_of_lineEnd (hstart : params.head?.any isLineEnd = true) :
    scanLine params = none := by
  cases params with
  | nil => rfl
  | cons ch params =>
    have hch : isLineEnd ch = true := by simpa using hstart
    simp [scanLine, hch]

/-- The lines are the one that was read and those behind it. -/
theorem linesFit_scan (h : scanLine params = some (line, rest)) :
    LinesFit params ↔ line.length < paramSize ∧ LinesFit (rest.dropWhile isLineEnd) := by
  obtain ⟨rfl, -⟩ := scanLine_eq_some h
  obtain ⟨hline, hrest⟩ := scanLine_spec h
  rw [linesFit_dropWhile]
  cases rest with
  | nil =>
    rw [List.append_nil, linesFit_of_line hline, and_iff_left]
    exact (linesFit_of_line (by simp)).2 (by decide)
  | cons sep rest =>
    have hsep : isLineEnd sep = true := hrest sep rfl
    have hskip := linesFit_dropWhile (sep :: rest)
    rw [List.dropWhile_cons_of_pos hsep, linesFit_dropWhile] at hskip
    rw [linesFit_append_cons hline hsep, hskip]

theorem head_dropWhile_lineEnd (params : List Char) :
    (params.dropWhile isLineEnd).head?.any isLineEnd = false := by
  have h := List.head?_dropWhile_not isLineEnd params
  cases hhead : (params.dropWhile isLineEnd).head? with
  | none => rfl
  | some ch =>
    rw [hhead] at h
    simpa using h

/-- The loop ends well exactly when the lines fit. -/
theorem parameterLoop_cases (session : Option Session) (params descr : List Char)
    (hstart : params.head?.any isLineEnd = false) :
    (LinesFit params → ∃ descr', parameterLoop session params descr = .ok descr') ∧
      (¬ LinesFit params → parameterLoop session params descr = .error .paramOverrun) := by
  induction params, descr using parameterLoop.induct session with
  | case1 params descr hscan =>
    cases scanLine_eq_none hscan hstart
    refine ⟨fun _ => ⟨descr, ?_⟩, fun hlong => absurd ?_ hlong⟩
    · rw [parameterLoop]
      rfl
    · exact (linesFit_of_line (by simp)).2 (by decide)
  | case2 params descr line rest hscan hlong =>
    refine ⟨fun hfit => ?_, fun _ => ?_⟩
    · have hshort := ((linesFit_scan hscan).1 hfit).1
      omega
    · rw [parameterLoop, hscan]
      exact if_pos hlong
  | case3 params descr line rest hscan hshort ih =>
    have heq : parameterLoop session params descr =
        parameterLoop session (rest.dropWhile isLineEnd) (descr ++ describeParam session line) := by
      rw [parameterLoop, hscan]
      exact if_neg hshort
    have hfit : LinesFit params ↔ LinesFit (rest.dropWhile isLineEnd) :=
      (linesFit_scan hscan).trans (and_iff_right (by omega))
    rw [heq, hfit]
    exact ih (head_dropWhile_lineEnd rest)

end params

theorem parameterDesc_of_fit (c : Client)
    (h : ∀ params, req.body = some params → params.head?.any isLineEnd = false → LinesFit params) :
    ∃ descr, parameterDesc req c = .ok descr := by
  unfold parameterDesc
  cases hbody : req.body with
  | none => exact ⟨none, rfl⟩
  | some params =>
    dsimp only
    cases hstart : params.head?.any isLineEnd with
    | false =>
      obtain ⟨descr, hdescr⟩ :=
        (parameterLoop_cases c.session params [] hstart).1 (h params hbody hstart)
      rw [hdescr]
      exact ⟨_, rfl⟩
    | true =>
      rw [parameterLoop, scanLine_of_lineEnd hstart]
      exact ⟨_, rfl⟩

theorem parameterDesc_of_overrun {params : List Char} (c : Client) (hbody : req.body = some params)
    (hstart : params.head?.any isLineEnd = false) (h : ¬ LinesFit params) :
    parameterDesc req c = .error .paramOverrun := by
  unfold parameterDesc
  rw [hbody]
  dsimp only
  rw [(parameterLoop_cases c.session params [] hstart).2 h]
  rfl

/-! ## All requests -/

theorem describe_ends (hok : ClientOk c) : Ends c (.ok (describe env req c)) True := by
  unfold describe
  cases requestGetUrl env req with
  | error code => exact ends_respond hok (.refl c) code trivial
  | ok path =>
    dsimp only
    rcases parseRequireHeader_cases c req with ⟨-, c₁, heq, hsame⟩ | ⟨-, heq⟩
    · rw [heq]
      dsimp only
      cases env.openResource (env.unescapePath path) with
      | none => exact ends_respond hok hsame _ trivial
      | some r =>
        refine ⟨_, .ok, rfl, ⟨none, none, congrArg _ hsame.outQueue⟩, hok.of_session hsame.session,
          fun hp => iff_of_true ⟨?_, fun h => absurd rfl h⟩ trivial⟩
        rw [PlaysStarted, core_congr (c := c) (by exact hsame.session)]
        exact hp
    · rw [heq]
      exact ends_respond hok (.refl c) _ trivial

theorem teardown_ends (hok : ClientOk c) : Ends c (.ok (teardown env req c)) True := by
  unfold teardown
  cases requestGetUrl env req with
  | error code => exact ends_respond hok (.refl c) code trivial
  | ok path => exact ends_respond hok (.refl c) _ trivial

theorem getParameter_ends (hok : ClientOk c) (hs : c.session = some s)
    (hfit : ∀ params, s.curState ≠ .init → (∃ path, requestGetUrl env req = .ok path) →
      req.body = some params → params.head?.any isLineEnd = false → LinesFit params) :
    Ends c (getParameter env req c) True := by
  unfold getParameter
  by_cases hi : s.curState = .init
  · rw [checkInvalidState_of_eq hs hi]
    exact ends_invalidState hok trivial
  · rw [checkInvalidState_of_ne hs hi]
    cases hurl : requestGetUrl env req with
    | error code => exact ends_respond hok (.refl c) code trivial
    | ok path =>
      obtain ⟨descr, hdescr⟩ := parameterDesc_of_fit c fun params => hfit params hi ⟨path, hurl⟩
      simp only [hdescr, bind, Except.bind]
      refine ⟨_, .ok, rfl, ⟨none, descr, rfl⟩, hok.of_session rfl,
        fun hplays => iff_of_true ⟨?_, fun h => absurd rfl h⟩ trivial⟩
      rw [PlaysStarted, core_congr (c := c) (by rfl)]
      exact hplays

/-- The methods that look at the session before anything else. -/
def NeedsSession (m : Method) : Prop := m = .play ∨ m = .pause ∨ m = .getParameter

/-- The handler that the request reaches. -/
def Reaches (c : Client) (req : Request) (m : Method) : Prop :=
  refusal req c = none ∧ req.method = some m

/-- A GET_PARAMETER whose body is read. -/
structure ReadsParams (c : Client) (e : Event) (params : List Char) : Prop where
  reaches : Reaches c e.req .getParameter
  session : ∃ s, c.session = some s ∧ s.curState ≠ .init
  url : ∃ path, requestGetUrl e.env e.req = .ok path
  body : e.req.body = some params
  -- `sscanf` matches no character of a body that starts with the end of a line.
  start : params.head?.any isLineEnd = false

/-- PLAY, PAUSE and GET_PARAMETER come with a session, and a body that is read has short lines. -/
structure Served (c : Client) (e : Event) : Prop where
  session : ∀ m, Reaches c e.req m → NeedsSession m → c.session.isSome
  params : ∀ params, ReadsParams c e params → LinesFit params

/-- When a request leaves the client in order. -/
structure Clean (c : Client) (e : Event) : Prop extends Served c e where
  setup : Reaches c e.req .setup → SetupClean e.env e.req c
  play : Reaches c e.req .play → PlayClean e.env e.req c

theorem handleRequest_ends (hok : ClientOk c) (e : Event)
    (hserved : Served c e) : Ends c (handleRequest .resource e.env e.req c) (Clean c e) := by
  have htrivial : (∀ m, Reaches c e.req m → m ≠ .setup ∧ m ≠ .play) → Clean c e := fun h =>
    ⟨hserved, fun hr => absurd rfl (h _ hr).1, fun hr => absurd rfl (h _ hr).2⟩
  unfold handleRequest
  cases href : refusal e.req c with
  | some code =>
    refine ends_respond hok (.refl c) code (htrivial fun m hm => ?_)
    cases href.symm.trans hm.1
  | none =>
    dsimp only
    cases hm : e.req.method with
    | none =>
      refine ends_respond hok (.refl c) _ (htrivial fun m hr => ?_)
      cases hm.symm.trans hr.2
    | some m =>
      have hreach : ∀ m', Reaches c e.req m' → m' = m := fun m' hr =>
        (Option.some.inj (hm.symm.trans hr.2)).symm
      have hother : m ≠ .setup → m ≠ .play → (Clean c e ↔ True) := fun h1 h2 =>
        iff_true_intro (htrivial fun m' hr => hreach m' hr ▸ ⟨h1, h2⟩)
      have hsome : NeedsSession m → ∃ s, c.session = some s := fun hn =>
        Option.isSome_iff_exists.1 (hserved.session m ⟨href, hm⟩ hn)
      cases m with
      | describe =>
        rw [hother nofun nofun]
        exact describe_ends hok
      | teardown =>
        rw [hother nofun nofun]
        exact teardown_ends hok
      | options | announce | record | redirect | setParameter =>
        rw [hother nofun nofun]
        exact ends_respond hok (.refl c) _ trivial
      | getParameter =>
        obtain ⟨s, hs⟩ := hsome (.inr (.inr rfl))
        rw [hother nofun nofun]
        exact getParameter_ends hok hs fun params hstate hurl hbody hstart =>
          hserved.params params ⟨⟨href, hm⟩, ⟨s, hs, hstate⟩, hurl, hbody, hstart⟩
      | pause =>
        obtain ⟨s, hs⟩ := hsome (.inr (.inl rfl))
        rw [hother nofun nofun]
        exact pause_ends hok hs
      | setup =>
        have hclean : Clean c e ↔ SetupClean e.env e.req c :=
          ⟨fun h => h.setup ⟨href, hm⟩, fun h => ⟨hserved, fun _ => h, fun hr => (nomatch hreach _ hr)⟩⟩
        rw [hclean]
        exact setup_ends hok
      | play =>
        obtain ⟨s, hs⟩ := hsome (.inl rfl)
        have hclean : Clean c e ↔ PlayClean e.env e.req c :=
          ⟨fun h => h.play ⟨href, hm⟩, fun h => ⟨hserved, fun hr => (nomatch hreach _ hr), fun _ => h⟩⟩
        rw [hclean]
        exact play_ends hok hs

/-- Without a session, the methods that need one follow a null pointer. -/
theorem handleRequest_of_noSession {m : Method} {arg : PauseArgument} {e : Event}
    (hr : Reaches c e.req m) (hn : NeedsSession m) (hs : c.session = none) :
    handleRequest arg e.env e.req c = .error .noSession := by
  have hcheck : checkInvalidState c .init = .error .noSession := by
    unfold checkInvalidState
    rw [hs]
  unfold handleRequest
  rw [hr.1, hr.2]
  rcases hn with rfl | rfl | rfl
  · simp only [play, hcheck, bind, Except.bind]
  · simp only [pause, hcheck, bind, Except.bind]
  · simp only [getParameter, hcheck, bind, Except.bind]

/-- A line that is too long overruns `param`. -/
theorem handleRequest_of_overrun {params : List Char} {arg : PauseArgument} {e : Event}
    (hr : ReadsParams c e params) (h : ¬ LinesFit params) :
    handleRequest arg e.env e.req c = .error .paramOverrun := by
  obtain ⟨s, hs, hstate⟩ := hr.session
  obtain ⟨path, hurl⟩ := hr.url
  have hdescr := parameterDesc_of_overrun c hr.body hr.start h
  unfold handleRequest
  rw [hr.reaches.1, hr.reaches.2]
  simp only [getParameter, checkInvalidState_of_ne hs hstate, hurl, hdescr, bind, Except.bind]

/-- A request whose handler returns. -/
theorem served_of_ok {arg : PauseArgument} {e : Event}
    (heq : handleRequest arg e.env e.req c = .ok c') : Served c e := by
  refine ⟨fun m hr hn => ?_, fun params hr => ?_⟩
  · by_contra hnone
    rw [handleRequest_of_noSession hr hn (by simpa using hnone)] at heq
    cases heq
  · by_contra hlong
    rw [handleRequest_of_overrun hr hlong] at heq
    cases heq

/-! ## Safety -/

/-- A request is answered, once, and no handler faults. -/
def Answered (c : Client) (e : Event) : Prop :=
  ∃ c' code, handleRequest .comparison e.env e.req c = .ok c' ∧ Responds c c' code

/-- A request that pauses: PLAY or PAUSE of a playing session, with a URL that is accepted. -/
def Pauses (c : Client) (e : Event) : Prop :=
  (Reaches c e.req .play ∨ Reaches c e.req .pause) ∧
    (∃ s, c.session = some s ∧ s.curState = .playing) ∧ ∃ path, requestGetUrl e.env e.req = .ok path

/-- A request is served, and nothing is paused. -/
structure Harmless (c : Client) (e : Event) : Prop extends Served c e where
  notPausing : ¬ Pauses c e

theorem play_comparison (hs : c.session = some s)
    (h : ¬ (s.curState = .playing ∧ ∃ path, requestGetUrl env req = .ok path)) :
    play .comparison env req c = play .resource env req c := by
  by_cases hinit : s.curState = .init
  · unfold play
    rw [checkInvalidState_of_eq hs hinit]
    rfl
  cases hurl : requestGetUrl env req with
  | error code =>
    unfold play
    simp only [checkInvalidState_of_ne hs hinit, hurl, bind, Except.bind]
  | ok path =>
    have hplaying : s.curState ≠ .playing := fun hp => h ⟨hp, path, hurl⟩
    rw [play_of_ready .comparison hs hurl hinit hplaying, play_of_ready .resource hs hurl hinit hplaying]

theorem pause_comparison (hs : c.session = some s)
    (h : ¬ (s.curState = .playing ∧ ∃ path, requestGetUrl env req = .ok path)) :
    pause .comparison env req c = pause .resource env req c := by
  unfold pause
  by_cases hinit : s.curState = .init
  · rw [checkInvalidState_of_eq hs hinit]
    rfl
  by_cases hready : s.curState = .ready
  · rw [checkInvalidState_of_ne hs hinit, checkInvalidState_of_eq hs hready]
    rfl
  cases hurl : requestGetUrl env req with
  | error code => rfl
  | ok path =>
    refine absurd ⟨?_, path, rfl⟩ (hurl ▸ h)
    cases hstate : s.curState with
    | init => exact absurd hstate hinit
    | ready => exact absurd hstate hready
    | playing => rfl

theorem handleRequest_comparison {e : Event} (h : Harmless c e) :
    handleRequest .comparison e.env e.req c = handleRequest .resource e.env e.req c := by
  unfold handleRequest
  cases href : refusal e.req c with
  | some code => rfl
  | none =>
    dsimp only
    cases hm : e.req.method with
    | none => rfl
    | some m =>
      cases m with
      | play =>
        obtain ⟨s, hs⟩ := Option.isSome_iff_exists.1 (h.session .play ⟨href, hm⟩ (.inl rfl))
        exact play_comparison hs fun hp =>
          h.notPausing ⟨.inl ⟨href, hm⟩, ⟨s, hs, hp.1⟩, hp.2⟩
      | pause =>
        obtain ⟨s, hs⟩ := Option.isSome_iff_exists.1 (h.session .pause ⟨href, hm⟩ (.inr (.inl rfl)))
        exact pause_comparison hs fun hp =>
          h.notPausing ⟨.inr ⟨href, hm⟩, ⟨s, hs, hp.1⟩, hp.2⟩
      | _ => rfl

/-- A request that pauses gives `r_pause` the result of a comparison. -/
theorem handleRequest_of_pauses {e : Event} (hok : ClientOk c) (h : Pauses c e) :
    handleRequest .comparison e.env e.req c = .error .badResource := by
  obtain ⟨hreach, ⟨s, hs, hplaying⟩, path, hurl⟩ := h
  unfold handleRequest
  rcases hreach with hr | hr
  · rw [hr.1, hr.2]
    exact (play_of_playing e.env e.req hok hs hurl hplaying).1
  · rw [hr.1, hr.2]
    have hbad := (doPause_of_playing e.env (hok s hs) hplaying).1
    have h1 := checkInvalidState_of_ne hs (show s.curState ≠ .init by rw [hplaying]; decide)
    have h2 := checkInvalidState_of_ne hs (show s.curState ≠ .ready by rw [hplaying]; decide)
    simp only [pause, h1, h2, hurl, hs, hbad, bind, Except.bind]

/-- A request whose handler returns. -/
theorem harmless_of_ok {e : Event} (hok : ClientOk c)
    (heq : handleRequest .comparison e.env e.req c = .ok c') : Harmless c e := by
  refine ⟨served_of_ok heq, fun hp => ?_⟩
  rw [handleRequest_of_pauses hok hp] at heq
  cases heq

theorem answered_iff (hok : ClientOk c) (e : Event) : Answered c e ↔ Harmless c e := by
  constructor
  · rintro ⟨c', code, heq, -⟩
    exact harmless_of_ok hok heq
  · intro h
    obtain ⟨c', code, heq, hresp, -⟩ := handleRequest_ends hok e h.toServed
    exact ⟨c', code, (handleRequest_comparison h).trans heq, hresp⟩

theorem rtspStep_eq_some_iff {arg : PauseArgument} {e : Event} :
    rtspStep arg c e = some c' ↔ handleRequest arg e.env e.req c = .ok c' := by
  unfold rtspStep
  cases handleRequest arg e.env e.req c with
  | error fault => exact iff_of_false nofun nofun
  | ok c₁ =>
    constructor
    · rintro ⟨⟩
      rfl
    · rintro ⟨⟩
      rfl

theorem clientOk_step {e : Event} (hok : ClientOk c) (h : Harmless c e)
    (hstep : rtspStep .comparison c e = some c') : ClientOk c' := by
  obtain ⟨c₁, code, heq, -, hok₁, -⟩ := handleRequest_ends hok e h.toServed
  rw [rtspStep, handleRequest_comparison h, heq] at hstep
  cases hstep
  exact hok₁

theorem each_answered_iff (hok : ClientOk c) (es : List Event) :
    Run.Each (rtspStep .comparison) Answered c es ↔
      Run.Each (rtspStep .comparison) Harmless c es :=
  Run.each_iff (fun _ _ _ hok hh h => clientOk_step hok hh h) (fun _ e hok => answered_iff hok e) hok

theorem clientOk_new (t : StreamType) : ClientOk { defaultStreamType := t } :=
  fun s hs => absurd hs.symm (Option.some_ne_none s)

/-- **Safety**: along every sequence of requests of a connection, the handlers follow no pointer that
is not there and answer each request once, exactly as long as PLAY, PAUSE and GET_PARAMETER come when
there is a session, the lines of a GET_PARAMETER that is read are shorter than `param`, and no PLAY or
PAUSE comes to pause. -/
theorem requests_answered_iff (t : StreamType) (es : List Event) :
    Run.Each (rtspStep .comparison) Answered { defaultStreamType := t } es ↔
      Run.Each (rtspStep .comparison) Harmless { defaultStreamType := t } es :=
  each_answered_iff (clientOk_new t) es

/-- All URLs have the path `a`; no resource is found and nothing works. -/
def quietEnvironment : Environment where
  unescape := some
  unescapePath := some
  urlPath _ := some ['a']
  rOpen _ := none
  seekOk := false
  startOk := false
  socketsOk := false
  full := false
  freshId := []
  now := 0
  lastTimestamp := 0
  maxRate := 1

/-- PLAY is the first request. -/
theorem play_before_setup : ¬ ∀ es : List Event,
    Run.Each (rtspStep .comparison) Answered {} es := by
  intro h
  have hh := (each_answered_iff (clientOk_new .mp2p) _).1
    (h [⟨{ method := some .play, object := "rtsp://h/a".toList }, quietEnvironment⟩])
  exact absurd (hh.1.session .play ⟨rfl, rfl⟩ (.inl rfl)) (by decide)

/-! ## Consistency -/

/-- The request changes the session. -/
def IsSessionMethod (m : Method) : Prop := m = .setup ∨ m = .play ∨ m = .pause

/-- After a request the state says whether the session was started and whether it has RTP sessions, and
a SETUP, PLAY or PAUSE that was answered with an error has changed nothing. -/
def KeepsConsistent (c : Client) (e : Event) : Prop :=
  ∃ c' code, handleRequest .resource e.env e.req c = .ok c' ∧ Responds c c' code ∧
    PlaysStarted c' ∧ (c'.core.1 = .init ↔ c'.core.2.2 = []) ∧
    (∀ m, e.req.method = some m → IsSessionMethod m → code ≠ .ok → Unchanged c c')

theorem responds_unique {code code' : ResponseCode} (h : Responds c c' code)
    (h' : Responds c c' code') : code = code' := by
  obtain ⟨allow, params, h⟩ := h
  obtain ⟨allow', params', h'⟩ := h'
  have heq := (List.cons.inj (h.symm.trans h')).1
  exact congrArg Response.status heq

theorem core_init_iff (hok : ClientOk c) : c.core.1 = .init ↔ c.core.2.2 = [] := by
  cases hs : c.session with
  | none =>
    simp [Client.core, hs]
  | some s =>
    rw [core_of_some hs]
    exact (hok s hs).state

theorem keepsConsistent_iff (hok : ClientOk c) (hplays : PlaysStarted c) (e : Event) :
    KeepsConsistent c e ↔ Clean c e := by
  constructor
  · rintro ⟨c', code, heq, hresp, hp, -, hun⟩
    have hserved := served_of_ok heq
    obtain ⟨c₁, code₁, heq₁, hresp₁, -, hiff⟩ := handleRequest_ends hok e hserved
    cases heq.symm.trans heq₁
    have hcode := responds_unique hresp hresp₁
    subst hcode
    refine ⟨hserved, fun hr => ?_, fun hr => ?_⟩
    · exact ((hiff hplays).1 ⟨hp, hun _ hr.2 (.inl rfl)⟩).setup hr
    · exact ((hiff hplays).1 ⟨hp, hun _ hr.2 (.inr (.inl rfl))⟩).play hr
  · intro h
    obtain ⟨c', code, heq, hresp, hok', hiff⟩ := handleRequest_ends hok e h.toServed
    obtain ⟨hp, hun⟩ := (hiff hplays).2 h
    exact ⟨c', code, heq, hresp, hp, core_init_iff hok', fun _ _ _ hcode => hun hcode⟩

theorem consistent_step {e : Event} (h : ClientOk c ∧ PlaysStarted c) (hclean : Clean c e)
    (hstep : rtspStep .resource c e = some c') : ClientOk c' ∧ PlaysStarted c' := by
  obtain ⟨c₁, code, heq, -, hok₁, hiff⟩ := handleRequest_ends h.1 e hclean.toServed
  rw [rtspStep, heq] at hstep
  cases hstep
  exact ⟨hok₁, ((hiff h.2).2 hclean).1⟩

theorem each_keepsConsistent_iff (h : ClientOk c ∧ PlaysStarted c) (es : List Event) :
    Run.Each (rtspStep .resource) KeepsConsistent c es ↔ Run.Each (rtspStep .resource) Clean c es :=
  Run.each_iff (fun c _ _ (h : ClientOk c ∧ PlaysStarted c) hc hs => consistent_step h hc hs)
    (fun _ e h => keepsConsistent_iff h.1 h.2 e) h

theorem consistent_new (t : StreamType) :
    ClientOk { defaultStreamType := t } ∧ PlaysStarted { defaultStreamType := t } :=
  ⟨clientOk_new t, iff_of_false (by simp [Client.core]) (by simp [Client.core])⟩

/-- **Consistency**: along every sequence of requests of a connection, with `r_pause` called for the
resource, the state, the flag and the RTP sessions agree after each request and an error leaves them
and the channels as they were, exactly as long as: PLAY, PAUSE and GET_PARAMETER come when there is a
session, the latter with lines that fit; a SETUP whose TCP transport was accepted finds its track and
room; no start of a resource fails; and a PLAY while playing has headers that can be obeyed. -/
theorem session_consistent_iff (t : StreamType) (es : List Event) :
    Run.Each (rtspStep .resource) KeepsConsistent { defaultStreamType := t } es ↔
      Run.Each (rtspStep .resource) Clean { defaultStreamType := t } es :=
  each_keepsConsistent_iff (consistent_new t) es

/-- A SETUP over TCP for a URL without a track is answered with 460, and its channels stay. -/
theorem setup_leaves_channels : ¬ ∀ es : List Event,
    Run.Each (rtspStep .resource) KeepsConsistent {} es := by
  intro h
  have hclean := (each_keepsConsistent_iff (consistent_new .mp2p) _).1
    (h [⟨{ method := some .setup, object := "rtsp://h/a".toList, transport := some ⟨.tcp, 0, 1⟩ },
      { quietEnvironment with socketsOk := true }⟩])
  have htcp := hclean.1.setup ⟨rfl, rfl⟩
    ⟨⟨['a'], by decide⟩, nofun, _, rfl, rfl, by decide, by decide, rfl⟩
  obtain ⟨uri, name, r, hsep, -⟩ := htcp.2
  have hnone : strstr trackUriSeparator "rtsp://h/a".toList = none := by decide
  cases hnone.symm.trans hsep

end Rtsp

end StreamSwitch
