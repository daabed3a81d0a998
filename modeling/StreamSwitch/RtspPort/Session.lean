import Mathlib.Algebra.Order.Ring.Rat
import StreamSwitch.RtspPort.Rtsp

/-!
# The session of an RTSP connection

What every request keeps: a session that is set up has a resource, one that plays has a
range. From that, what SETUP, PLAY and PAUSE come to (`Ends`): they answer once, and `clean`
is exactly when they leave the client in order.
-/

namespace StreamSwitch

namespace Rtsp

variable {env : Environment} {req : Request} {c c' : Client} {s s' : Session} {r : Resource}

/-! ## The invariant -/

structure SessionOk (s : Session) : Prop where
  uri : s.resource.isSome = s.resourceUri.isSome
  opened : s.curState ≠ .init → s.resource.isSome
  queued : s.curState = .playing → s.playRequests ≠ []
  unicast : ∀ p ∈ s.rtpSessions, p.multicast = false
  state : s.curState = .init ↔ s.rtpSessions = []

def ClientOk (c : Client) : Prop := ∀ s, c.session = some s → SessionOk s

theorem sessionOk_new (id : List Char) : SessionOk { sessionId := id } :=
  ⟨rfl, fun h => absurd rfl h, nofun, nofun, iff_of_true rfl rfl⟩

/-- The session a SETUP works on. -/
theorem ClientOk.getD (h : ClientOk c) (id : List Char) :
    SessionOk (c.session.getD { sessionId := id }) := by
  cases hs : c.session with
  | none => exact sessionOk_new id
  | some s => exact h s hs

theorem ClientOk.of_session (h : ClientOk c) (hs : c'.session = c.session) : ClientOk c' :=
  fun s hc => h s (hs ▸ hc)

/-- Exactly one response was queued, with this status. -/
def Responds (c c' : Client) (code : ResponseCode) : Prop :=
  ∃ allow params, c'.outQueue = ⟨code, allow, params⟩ :: c.outQueue

/-- The state, the flag and the RTP sessions; a client without a session is in the first state. -/
def Client.core (c : Client) : ServerState × Bool × List RtpSession :=
  match c.session with
  | none => (.init, false, [])
  | some s => (s.curState, s.started, s.rtpSessions)

theorem core_congr (h : c'.session = c.session) : c'.core = c.core := by
  unfold Client.core
  rw [h]

/-! ## SETUP -/

/-- The track of the request can be had. -/
def TrackFound (env : Environment) (req : Request) (c : Client) : Prop :=
  match c.session.bind (·.resource), c.session.bind (·.resourceUri) with
  | some r, some uri => ∃ name, req.object = uri ++ (trackUriSeparator ++ name) ∧ name ∈ r.tracks
  | _, _ => ∃ uri name r, strstr trackUriSeparator req.object = some (uri, name) ∧
      c.cachedResource.or (env.openResource (env.resourcePath uri)) = some r ∧ name ∈ r.tracks

/-- What becomes of the session while the track is looked for. -/
structure Selected (c : Client) (s : Session) (c' : Client) (s' : Session) : Prop where
  session : c'.session = some s'
  outQueue : c'.outQueue = c.outQueue
  interleaved : c'.interleaved = c.interleaved
  curState : s'.curState = s.curState
  started : s'.started = s.started
  rtpSessions : s'.rtpSessions = s.rtpSessions
  ok : SessionOk s'

/-- The outcome of looking for the track: `found` says whether it is there. -/
def Looked (c : Client) (s : Session) (found : Prop)
    (x : Except Fault (Client × Except ResponseCode (List Char))) : Prop :=
  ∃ c' s' res, x = .ok (c', res) ∧ Selected c s c' s' ∧
    ((∃ name, res = .ok name ∧ s'.resource.isSome ∧ found) ∨
      (∃ code, res = .error code ∧ code ≠ .ok ∧ ¬ found))

theorem looked_findTrack {found : Prop} {name : List Char} (hsel : Selected c s c' s')
    (hres : s'.resource.isSome) (hfound : found ↔ name ∈ r.tracks) :
    Looked c s found (.ok (findTrack c' r name)) := by
  unfold findTrack
  by_cases h : name ∈ r.tracks
  · rw [if_pos h]
    exact ⟨c', s', _, rfl, hsel, .inl ⟨name, rfl, hres, hfound.2 h⟩⟩
  · rw [if_neg h]
    exact ⟨c', s', _, rfl, hsel, .inr ⟨_, rfl, nofun, fun hf => h (hfound.1 hf)⟩⟩

theorem looked_error {found : Prop} {code : ResponseCode} (hsel : Selected c s c' s')
    (hcode : code ≠ .ok) (hnot : ¬ found) : Looked c s found (.ok (c', .error code)) :=
  ⟨c', s', _, rfl, hsel, .inr ⟨code, rfl, hcode, hnot⟩⟩

/-- `select_requested_track` finds a track, and then the session has a resource, or answers with an
error. -/
theorem selectRequestedTrack_spec (req : Request) (hok : SessionOk s)
    (hs : c.session.getD { sessionId := env.freshId } = s) :
    Looked c s (TrackFound env req c) (selectRequestedTrack env req c s) := by
  have hres : c.session.bind (·.resource) = s.resource := by
    subst hs
    cases c.session <;> rfl
  have huri : c.session.bind (·.resourceUri) = s.resourceUri := by
    subst hs
    cases c.session <;> rfl
  unfold selectRequestedTrack TrackFound
  rw [hres, huri]
  cases hr : s.resource with
  | none =>
    have hu : s.resourceUri = none := by
      have hsome := hok.uri
      rw [hr] at hsome
      simpa using hsome.symm
    rw [hu]
    cases hsep : strstr trackUriSeparator req.object with
    | none =>
      refine looked_error ⟨rfl, rfl, rfl, rfl, rfl, rfl, hok⟩ (by decide) ?_
      rintro ⟨uri, name, r, h, -⟩
      cases h
    | some v =>
      obtain ⟨uri, name⟩ := v
      dsimp only
      have hnew : ∀ r, SessionOk { s with resource := some r, resourceUri := some uri } := fun r =>
        ⟨rfl, fun _ => rfl, hok.queued, hok.unicast, hok.state⟩
      have hfound : ∀ r, c.cachedResource.or (env.openResource (env.resourcePath uri)) = some r →
          ((∃ uri' name' r', some (uri, name) = some (uri', name') ∧
            c.cachedResource.or (env.openResource (env.resourcePath uri')) = some r' ∧
            name' ∈ r'.tracks) ↔ name ∈ r.tracks) := by
        intro r hopen
        constructor
        · rintro ⟨uri', name', r', h1, h2, h3⟩
          cases h1
          cases hopen.symm.trans h2
          exact h3
        · intro hmem
          exact ⟨uri, name, r, rfl, hopen, hmem⟩
      cases hcached : c.cachedResource with
      | some r =>
        rw [hcached] at hfound
        exact looked_findTrack ⟨rfl, rfl, rfl, rfl, rfl, rfl, hnew r⟩ rfl (hfound r rfl)
      | none =>
        rw [hcached] at hfound
        cases hopen : env.openResource (env.resourcePath uri) with
        | none =>
          refine looked_error ⟨rfl, rfl, rfl, rfl, rfl, rfl, hok⟩ (by decide) ?_
          rintro ⟨uri', name', r', h1, h2, h3⟩
          cases h1
          rw [hopen] at h2
          cases h2
        | some r =>
          exact looked_findTrack ⟨rfl, rfl, rfl, rfl, rfl, rfl, hnew _⟩ rfl (hfound r hopen)
  | some r =>
    obtain ⟨uri, hu⟩ : ∃ uri, s.resourceUri = some uri := by
      have hsome := hok.uri
      rw [hr] at hsome
      exact Option.isSome_iff_exists.1 hsome.symm
    rw [hu]
    dsimp only
    by_cases hpre : uri <+: req.object
    · obtain ⟨behind, hbehind⟩ := hpre
      rw [if_neg (by simp [← hbehind]), ← hbehind, List.drop_left]
      by_cases hpre' : trackUriSeparator <+: behind
      · obtain ⟨name, hname⟩ := hpre'
        rw [if_neg (by simp [← hname]), ← hname, List.drop_left]
        refine looked_findTrack ⟨rfl, rfl, rfl, rfl, rfl, rfl, hok⟩ (by rw [hr]; rfl) ?_
        constructor
        · rintro ⟨name', h1, h2⟩
          rwa [List.append_cancel_left (List.append_cancel_left h1)]
        · exact fun hmem => ⟨name, rfl, hmem⟩
      · rw [if_pos (by simpa [Bool.eq_false_iff] using hpre')]
        refine looked_error ⟨rfl, rfl, rfl, rfl, rfl, rfl, hok⟩ (by decide) ?_
        rintro ⟨name', h1, -⟩
        exact hpre' ⟨name', (List.append_cancel_left h1).symm⟩
    · rw [if_pos (by simpa [Bool.eq_false_iff] using hpre)]
      refine looked_error ⟨rfl, rfl, rfl, rfl, rfl, rfl, hok⟩ (by decide) ?_
      rintro ⟨name', h1, -⟩
      exact hpre ⟨_, h1.symm⟩

/-- The `Require` header names a stream type. -/
def RequireOk (req : Request) : Prop :=
  ∀ hdr ∈ req.require, contains hdr "PS" ∨ contains hdr "MP2P" ∨ contains hdr "RAW"

/-- The stream type apart, nothing changes. -/
structure SameBut (c c' : Client) : Prop where
  session : c'.session = c.session
  cachedResource : c'.cachedResource = c.cachedResource
  interleaved : c'.interleaved = c.interleaved
  outQueue : c'.outQueue = c.outQueue

theorem parseRequireHeader_cases (c : Client) (req : Request) :
    (RequireOk req ∧ ∃ c', parseRequireHeader c req = .ok c' ∧ SameBut c c') ∨
      (¬ RequireOk req ∧ parseRequireHeader c req = .error .notImplemented) := by
  unfold parseRequireHeader RequireOk
  cases req.require with
  | none => exact .inl ⟨nofun, c, rfl, rfl, rfl, rfl, rfl⟩
  | some hdr =>
    by_cases h1 : contains hdr "PS"
    · exact .inl ⟨fun _ h => by cases h; exact .inl h1, _, if_pos h1, rfl, rfl, rfl, rfl⟩
    · by_cases h2 : contains hdr "MP2P"
      · exact .inl ⟨fun _ h => by cases h; exact .inr (.inl h2), _,
          (if_neg h1).trans (if_pos h2), rfl, rfl, rfl, rfl⟩
      · by_cases h3 : contains hdr "RAW"
        · exact .inl ⟨fun _ h => by cases h; exact .inr (.inr h3), _,
            (if_neg h1).trans ((if_neg h2).trans (if_pos h3)), rfl, rfl, rfl, rfl⟩
        · refine .inr ⟨fun h => ?_, (if_neg h1).trans ((if_neg h2).trans (if_neg h3))⟩
          rcases h hdr rfl with h | h | h
          · exact h1 h
          · exact h2 h
          · exact h3 h

/-- The transport of the request is accepted, as one that goes over the connection. -/
def TcpAccepted (env : Environment) (req : Request) : Prop :=
  (∃ path, requestGetUrl env req = .ok path) ∧ RequireOk req ∧ ∃ t ∈ req.transport,
    t.protocol = .tcp ∧ ¬ (t.rtp = 0 ∧ t.rtcp = 0) ∧
      ¬ (t.channels.rtp > 255 ∧ t.channels.rtcp > 255) ∧ env.socketsOk

/-- A transport over the connection takes channels, another one or a refused one does not. -/
theorem checkParsedTransport_cases (env : Environment) (c : Client) (t : ParsedTransport) :
    let tcp := t.protocol = .tcp ∧ ¬ (t.rtp = 0 ∧ t.rtcp = 0) ∧
      ¬ (t.channels.rtp > 255 ∧ t.channels.rtcp > 255) ∧ env.socketsOk
    (tcp ∧ ∃ ch t', checkParsedTransport env c t =
        some ({ c with interleaved := ch :: c.interleaved }, t')) ∨
      (¬ tcp ∧ (checkParsedTransport env c t = none ∨ ∃ t', checkParsedTransport env c t =
        some (c, t'))) := by
  intro tcp
  unfold checkParsedTransport
  by_cases h0 : t.rtp = 0 ∧ t.rtcp = 0
  · rw [if_pos h0]
    exact .inr ⟨fun h => h.2.1 h0, .inl rfl⟩
  · rw [if_neg h0]
    cases hp : t.protocol with
    | udp =>
      refine .inr ⟨fun h => absurd (hp.symm.trans h.1) (by decide), ?_⟩
      cases env.socketsOk
      · exact .inl rfl
      · exact .inr ⟨t, rfl⟩
    | tcp =>
      dsimp only
      by_cases h255 : t.channels.rtp > 255 ∧ t.channels.rtcp > 255
      · rw [if_pos h255]
        exact .inr ⟨fun h => h.2.2.1 h255, .inl rfl⟩
      · rw [if_neg h255]
        by_cases hsock : env.socketsOk = true
        · rw [if_pos hsock]
          exact .inl ⟨⟨hp, h0, h255, hsock⟩, _, _, rfl⟩
        · rw [if_neg hsock]
          exact .inr ⟨fun h => hsock h.2.2.2, .inl rfl⟩

/-- The session, its RTP sessions and the channels are as they were. -/
def Unchanged (c c' : Client) : Prop := c'.core = c.core ∧ c'.interleaved = c.interleaved

/-- A session plays exactly when its resource was started. -/
def PlaysStarted (c : Client) : Prop := c.core.1 = .playing ↔ c.core.2.1 = true

/-- When SETUP cannot leave channels behind. -/
def SetupClean (env : Environment) (req : Request) (c : Client) : Prop :=
  TcpAccepted env req → env.full = false ∧ TrackFound env req c

theorem trackFound_congr (hs : c'.session = c.session) (hc : c'.cachedResource = c.cachedResource) :
    TrackFound env req c' ↔ TrackFound env req c := by
  unfold TrackFound
  rw [hs, hc]

theorem addRtpSession_ok {t : ParsedTransport} {name : List Char} (hok : SessionOk s)
    (hres : s.resource.isSome) : SessionOk (addRtpSession req t name s) := by
  refine ⟨hok.uri, fun _ => hres, fun h => ?_, fun p hp => ?_, ?_⟩
  · refine hok.queued ?_
    by_cases hi : s.curState = .init
    · simp [addRtpSession, hi] at h
    · simpa [addRtpSession, hi] using h
  · rcases List.mem_append.1 hp with hp | hp
    · exact hok.unicast p hp
    · cases List.mem_singleton.1 hp
      rfl
  · by_cases hi : s.curState = .init
    · simp [addRtpSession, hi]
    · simp [addRtpSession, hi]

theorem core_of_some (h : c.session = some s) : c.core = (s.curState, s.started, s.rtpSessions) := by
  simp [Client.core, h]

theorem core_of_getD (id : List Char) (h : c.session.getD { sessionId := id } = s) :
    c.core = (s.curState, s.started, s.rtpSessions) := by
  subst h
  unfold Client.core
  cases c.session <;> rfl

theorem setupTrack_spec {t : ParsedTransport} (hok : ClientOk c) :
    ∃ c' code, setupTrack env req t c = .ok c' ∧ Responds c c' code ∧ ClientOk c' ∧
      (PlaysStarted c → PlaysStarted c') ∧ (code = .ok ↔ TrackFound env req c) ∧
      (code ≠ .ok → Unchanged c c') := by
  obtain ⟨c₁, s₁, res, hsel, h, hres⟩ :=
    selectRequestedTrack_spec req (hok.getD env.freshId) rfl
  have hcore := core_of_getD (c := c) env.freshId rfl
  have hcore₁ : c₁.core = c.core := by
    rw [core_of_some h.session, hcore, h.curState, h.started, h.rtpSessions]
  unfold setupTrack
  rw [hsel]
  rcases hres with ⟨name, rfl, hsome, hfound⟩ | ⟨code, rfl, hcode, hnot⟩
  · refine ⟨_, .ok, rfl, ⟨none, none, ?_⟩, fun s' hs' => ?_, fun hplays => ?_, iff_of_true rfl hfound,
      fun hne => absurd rfl hne⟩
    · exact congrArg _ h.outQueue
    · have hs'' : c₁.session.map (addRtpSession req t name) = some s' := hs'
      rw [h.session] at hs''
      cases hs''
      exact addRtpSession_ok h.ok hsome
    · rw [PlaysStarted, ← hcore₁, core_of_some h.session] at hplays
      rw [PlaysStarted, core_of_some (s := addRtpSession req t name s₁)
        (by show c₁.session.map _ = _; rw [h.session]; rfl)]
      by_cases hi : s₁.curState = .init
      · simp only [hi] at hplays
        simp [addRtpSession, hi, ← hplays]
      · simpa [addRtpSession, hi] using hplays
  · refine ⟨_, code, rfl, ⟨none, none, congrArg _ h.outQueue⟩, fun s' hs' => ?_, fun hplays => ?_,
      iff_of_false hcode hnot, fun _ => ⟨hcore₁, h.interleaved⟩⟩
    · cases h.session.symm.trans hs'
      exact h.ok
    · rw [PlaysStarted, show (c₁.respond code).core = c₁.core from core_congr rfl, hcore₁]
      exact hplays

/-- A request is answered, and the client is left in order exactly when `clean` says so: the session
plays when it was started, and an error has changed nothing. -/
def Ends (c : Client) (x : Except Fault Client) (clean : Prop) : Prop :=
  ∃ c' code, x = .ok c' ∧ Responds c c' code ∧ ClientOk c' ∧
    (PlaysStarted c → (PlaysStarted c' ∧ (code ≠ .ok → Unchanged c c') ↔ clean))

/-- Nothing but a response. -/
theorem ends_respond {clean : Prop} (hok : ClientOk c) (hsame : SameBut c c') (code : ResponseCode)
    (hclean : clean) : Ends c (.ok (c'.respond code)) clean := by
  have hcore : (c'.respond code).core = c.core := core_congr hsame.session
  refine ⟨_, code, rfl, ⟨none, none, congrArg _ hsame.outQueue⟩, hok.of_session hsame.session,
    fun hplays => iff_of_true ⟨?_, fun _ => ⟨hcore, hsame.interleaved⟩⟩ hclean⟩
  rw [PlaysStarted, hcore]
  exact hplays

theorem SameBut.refl (c : Client) : SameBut c c := ⟨rfl, rfl, rfl, rfl⟩

theorem unchanged_iff_of_cons {ch : UInt16 × UInt16} (h : c'.interleaved = ch :: c.interleaved) :
    ¬ Unchanged c c' := by
  intro hu
  have := congrArg List.length (h.symm.trans hu.2)
  simp at this

/-- The end of a SETUP that has taken no channels. -/
theorem setupTrack_ends {t : ParsedTransport} (hok : ClientOk c) (hsame : SameBut c c') :
    Ends c (setupTrack env req t c') True := by
  obtain ⟨c₁, code, hset, ⟨allow, params, hresp⟩, hok₁, hplays, -, hun⟩ :=
    setupTrack_spec (hok.of_session hsame.session)
  have hcore : c'.core = c.core := core_congr hsame.session
  refine ⟨c₁, code, hset, ⟨allow, params, hresp.trans (congrArg _ hsame.outQueue)⟩, hok₁, fun hp => ?_⟩
  refine iff_of_true ⟨hplays ?_, fun hcode => ?_⟩ trivial
  · rwa [PlaysStarted, hcore]
  · exact ⟨(hun hcode).1.trans hcore, (hun hcode).2.trans hsame.interleaved⟩

/-- The end of one that has. -/
theorem setupTrack_ends_of_cons {t : ParsedTransport} {ch : UInt16 × UInt16} (hok : ClientOk c)
    (hsame : SameBut { c with interleaved := ch :: c.interleaved } c') :
    Ends c (setupTrack env req t c') (TrackFound env req c) := by
  obtain ⟨c₁, code, hset, ⟨allow, params, hresp⟩, hok₁, hplays, hfound, hun⟩ :=
    setupTrack_spec (ClientOk.of_session hok hsame.session)
  have hcore : c'.core = c.core := core_congr hsame.session
  refine ⟨c₁, code, hset, ⟨allow, params, hresp.trans (congrArg _ hsame.outQueue)⟩, hok₁, fun hp => ?_⟩
  rw [← trackFound_congr (c := c) hsame.session hsame.cachedResource, ← hfound]
  constructor
  · rintro ⟨-, h⟩
    by_contra hcode
    exact unchanged_iff_of_cons ((hun hcode).2.trans hsame.interleaved) (h hcode)
  · intro hcode
    exact ⟨hplays (by rwa [PlaysStarted, hcore]), fun h => absurd hcode h⟩

theorem setup_ends (hok : ClientOk c) : Ends c (setup env req c) (SetupClean env req c) := by
  unfold setup
  cases hurl : requestGetUrl env req with
  | error code =>
    refine ends_respond hok (.refl c) code fun htcp => ?_
    obtain ⟨⟨path, hpath⟩, -⟩ := htcp
    cases hurl.symm.trans hpath
  | ok path =>
    dsimp only
    rcases parseRequireHeader_cases c req with ⟨hreq, c₁, heq, hsame⟩ | ⟨hreq, heq⟩
    · rw [heq]
      dsimp only
      cases ht : req.transport with
      | none =>
        refine ends_respond hok hsame _ fun htcp => ?_
        obtain ⟨-, -, t, hmem, -⟩ := htcp
        cases ht.symm.trans hmem
      | some t =>
        have hok₁ : ClientOk c₁ := hok.of_session hsame.session
        rw [Option.bind_some]
        rcases checkParsedTransport_cases env c₁ t with ⟨htcp, ch, t', hch⟩ | ⟨htcp, hch⟩
        · -- Channels are taken: only success leaves the client in order.
          have hclean : SetupClean env req c ↔ env.full = false ∧ TrackFound env req c :=
            ⟨fun h => h ⟨⟨path, hurl⟩, hreq, t, ht, htcp⟩, fun h _ => h⟩
          rw [hch, hclean]
          dsimp only
          by_cases hfull : env.full = true
          · rw [if_pos hfull]
            refine ⟨_, _, rfl, ⟨none, none, congrArg _ hsame.outQueue⟩, hok.of_session hsame.session,
              fun _ => iff_of_false (fun h => ?_) (by simp [hfull])⟩
            exact unchanged_iff_of_cons (congrArg (ch :: ·) hsame.interleaved) (h.2 (by decide))
          · rw [if_neg hfull]
            have hfull' : env.full = false := by simpa using hfull
            simp only [hfull', true_and]
            exact setupTrack_ends_of_cons hok
              ⟨hsame.session, hsame.cachedResource, congrArg (ch :: ·) hsame.interleaved, hsame.outQueue⟩
        · have hclean : SetupClean env req c := by
            rintro ⟨-, -, t', hmem, h⟩
            cases ht.symm.trans hmem
            exact absurd h htcp
          rcases hch with hch | ⟨t', hch⟩
          · rw [hch]
            exact ends_respond hok hsame _ hclean
          · rw [hch, iff_true_intro hclean]
            dsimp only
            by_cases hfull : env.full = true
            · rw [if_pos hfull]
              exact ends_respond hok hsame _ trivial
            · rw [if_neg hfull]
              exact setupTrack_ends hok hsame
    · rw [heq]
      exact ends_respond hok (.refl c) _ fun htcp => absurd htcp.2.1 hreq

/-! ## PLAY and PAUSE -/

/-- The parts of PLAY before it plays change neither the state nor what was set up. -/
structure Keeps (s s' : Session) : Prop where
  curState : s'.curState = s.curState
  started : s'.started = s.started
  rtpSessions : s'.rtpSessions = s.rtpSessions
  resource : s'.resource = s.resource
  resourceUri : s'.resourceUri = s.resourceUri

theorem Keeps.refl (s : Session) : Keeps s s := ⟨rfl, rfl, rfl, rfl, rfl⟩

theorem Keeps.trans {s₂ : Session} (h : Keeps s s') (h' : Keeps s' s₂) : Keeps s s₂ :=
  ⟨h'.curState.trans h.curState, h'.started.trans h.started, h'.rtpSessions.trans h.rtpSessions,
    h'.resource.trans h.resource, h'.resourceUri.trans h.resourceUri⟩

/-- A part that only looks at headers: it succeeds exactly when they are `valid`, and the queue of
ranges stays. -/
def HeaderPart (f : Part) (s : Session) (valid : Prop) : Prop :=
  ∃ s' code, f s = .ok (s', code) ∧ Keeps s s' ∧ s'.playRequests = s.playRequests ∧
    (code = .ok ↔ valid)

/-- The `Scale` header is supported, and 1 for a live source. -/
def ScaleValid (req : Request) (r : Resource) : Prop :=
  ∀ hdr ∈ req.scale, ∃ v ∈ hdr, v ∈ scaleTable ∧ (r.live → v = 1)

theorem parseScaleHeader_part (hr : s.resource = some r) :
    HeaderPart (parseScaleHeader env req) s (ScaleValid req r) := by
  unfold HeaderPart parseScaleHeader ScaleValid
  cases req.scale with
  | none => exact ⟨s, .ok, rfl, .refl s, rfl, iff_of_true rfl nofun⟩
  | some hdr =>
    cases hdr with
    | none =>
      refine ⟨s, _, rfl, .refl s, rfl, iff_of_false (by decide) fun h => ?_⟩
      obtain ⟨v, hv, -⟩ := h none rfl
      cases hv
    | some v =>
      dsimp only
      by_cases hv : v ∈ scaleTable
      · rw [if_neg (not_not_intro hv), hr]
        dsimp only
        by_cases hlive : r.live = true ∧ v ≠ 1
        · rw [if_pos hlive]
          refine ⟨s, _, rfl, .refl s, rfl, iff_of_false (by decide) fun h => ?_⟩
          obtain ⟨w, hw, -, hone⟩ := h (some v) rfl
          cases hw
          exact hlive.2 (hone hlive.1)
        · rw [if_neg hlive]
          refine ⟨_, _, rfl, ⟨rfl, rfl, rfl, rfl, rfl⟩, rfl, iff_of_true rfl ?_⟩
          rintro _ ⟨⟩
          exact ⟨v, rfl, hv, fun hl => by_contra fun hne => hlive ⟨hl, hne⟩⟩
      · rw [if_pos hv]
        refine ⟨s, _, rfl, .refl s, rfl, iff_of_false (by decide) fun h => ?_⟩
        obtain ⟨w, hw, hmem, -⟩ := h (some v) rfl
        cases hw
        exact hv hmem

/-- The header has one of the two words. -/
def WordValid (hdr : Option (List Char)) (first second : String) : Prop :=
  ∀ text ∈ hdr, contains text first ∨ contains text second

theorem wordHeader_part {hdr : Option (List Char)} {first second : String}
    {onFirst onSecond : Session → Session}
    (h1 : Keeps s (onFirst s) ∧ (onFirst s).playRequests = s.playRequests)
    (h2 : Keeps s (onSecond s) ∧ (onSecond s).playRequests = s.playRequests) :
    HeaderPart (wordHeader hdr first second onFirst onSecond) s (WordValid hdr first second) := by
  unfold HeaderPart wordHeader WordValid
  cases hdr with
  | none => exact ⟨s, .ok, rfl, .refl s, rfl, iff_of_true rfl nofun⟩
  | some text =>
    dsimp only
    by_cases hf : contains text first = true
    · rw [if_pos hf]
      exact ⟨_, _, rfl, h1.1, h1.2, iff_of_true rfl (by rintro _ ⟨⟩; exact .inl hf)⟩
    · rw [if_neg hf]
      by_cases hs : contains text second = true
      · rw [if_pos hs]
        exact ⟨_, _, rfl, h2.1, h2.2, iff_of_true rfl (by rintro _ ⟨⟩; exact .inr hs)⟩
      · rw [if_neg hs]
        refine ⟨s, _, rfl, .refl s, rfl, iff_of_false (by decide) fun h => ?_⟩
        rcases h text rfl with h | h
        · exact hf h
        · exact hs h

theorem framesPart_part : HeaderPart (framesPart req) s (WordValid req.frames "intra" "all") := by
  unfold framesPart
  cases hf : req.frames with
  | none =>
    refine ⟨_, _, rfl, ?_, ?_, iff_of_true rfl nofun⟩
    all_goals split
    · exact ⟨rfl, rfl, rfl, rfl, rfl⟩
    · exact .refl s
    · rfl
    · rfl
  | some text =>
    have hp : HeaderPart (parseFramesHeader req) s (WordValid req.frames "intra" "all") :=
      wordHeader_part ⟨⟨rfl, rfl, rfl, rfl, rfl⟩, rfl⟩ ⟨⟨rfl, rfl, rfl, rfl, rfl⟩, rfl⟩
    rwa [hf] at hp

theorem audioSkipPart_part : HeaderPart (audioSkipPart req) s True := by
  unfold audioSkipPart
  refine ⟨_, _, rfl, ?_, ?_, iff_of_true rfl trivial⟩
  all_goals split
  · exact ⟨rfl, rfl, rfl, rfl, rfl⟩
  · exact .refl s
  · rfl
  · rfl

/-- The end of a range fits the resource. -/
def EndFits (r : Resource) (endTime : ℚ) : Prop := r.seekable = true → endTime ≤ r.duration

/-- The `Range` header, or the range there is without it, can be played. -/
def RangeValid (req : Request) (r : Resource) (s : Session) : Prop :=
  match req.range with
  | none => s.playRequests ≠ [] ∨ EndFits r defaultRange.endTime
  | some none => False
  | some (some range) =>
    (r.seekable = false → range.beginTime = 0 ∨ range.endTime = -1 / 10) ∧ EndFits r range.endTime

theorem fitRange_cases (env : Environment) (r : Resource) (range : Range) :
    (EndFits r range.endTime ∧ ∃ range', fitRange env r range = .ok range' ∧
        range'.seek = range.seek) ∨
      (¬ EndFits r range.endTime ∧ fitRange env r range = .error .invalidRange) := by
  unfold fitRange EndFits
  dsimp only
  cases hseek : r.seekable with
  | false => exact .inl ⟨nofun, _, rfl, rfl⟩
  | true =>
    by_cases hgt : range.endTime > r.duration
    · exact .inr ⟨fun h => absurd (h rfl) (not_le.2 hgt), if_pos hgt⟩
    · by_cases hneg : range.endTime < 0
      · exact .inl ⟨fun _ => not_lt.1 hgt, _, (if_neg hgt).trans (if_pos hneg), rfl⟩
      · exact .inl ⟨fun _ => not_lt.1 hgt, _, (if_neg hgt).trans (if_neg hneg), rfl⟩

/-- `parse_range_header`: a valid range is queued as the first one, with a seek when it came from the
header. -/
theorem parseRangeHeader_spec (env : Environment) (req : Request) (hr : s.resource = some r)
    (hstate : s.curState ≠ .playing) :
    ∃ s' code, parseRangeHeader env req s = .ok (s', code) ∧ Keeps s s' ∧
      ((RangeValid req r s ∧ code = .ok ∧ ∃ range rest, s'.playRequests = range :: rest ∧
          range.seek = req.range.isSome) ∨ (¬ RangeValid req r s ∧ code ≠ .ok)) := by
  have hqueue : ∀ range, Keeps s (s.queueRange range) ∧
      (s.queueRange range).playRequests = [range] := fun range =>
    ⟨⟨rfl, rfl, rfl, rfl, rfl⟩, if_neg hstate⟩
  unfold parseRangeHeader RangeValid
  cases hrange : req.range with
  | none =>
    cases hq : s.playRequests with
    | cons range rest =>
      exact ⟨_, _, rfl, ⟨rfl, rfl, rfl, rfl, rfl⟩, .inl ⟨.inl nofun, rfl, _, _, rfl, rfl⟩⟩
    | nil =>
      dsimp only
      rw [hr]
      dsimp only
      rcases fitRange_cases env r defaultRange with ⟨hfits, range, hfit, hseek⟩ | ⟨hfits, hfit⟩
      · rw [hfit]
        exact ⟨_, _, rfl, (hqueue range).1, .inl ⟨.inr hfits, rfl, range, [], (hqueue range).2, hseek⟩⟩
      · rw [hfit]
        exact ⟨s, _, rfl, .refl s, .inr ⟨fun h => h.elim (fun h => h rfl) hfits, by decide⟩⟩
  | some hdr =>
    cases hdr with
    | none => exact ⟨s, _, rfl, .refl s, .inr ⟨id, by decide⟩⟩
    | some range =>
      dsimp only
      rw [hr]
      dsimp only
      by_cases hlive : (!r.seekable) = true ∧ range.beginTime ≠ 0 ∧ range.endTime ≠ -1 / 10
      · rw [if_pos hlive]
        refine ⟨s, _, rfl, .refl s, .inr ⟨fun h => ?_, by decide⟩⟩
        rcases h.1 (by simpa using hlive.1) with h | h
        · exact hlive.2.1 h
        · exact hlive.2.2 h
      · rw [if_neg hlive]
        have hbegin : r.seekable = false → range.beginTime = 0 ∨ range.endTime = -1 / 10 := by
          intro hseek
          by_contra hnot
          push Not at hnot
          exact hlive ⟨by simp [hseek], hnot.1, hnot.2⟩
        rcases fitRange_cases env r { range with seek := true } with
          ⟨hfits, range', hfit, hseek⟩ | ⟨hfits, hfit⟩
        · rw [hfit]
          exact ⟨_, _, rfl, (hqueue range').1,
            .inl ⟨⟨hbegin, hfits⟩, rfl, range', [], (hqueue range').2, hseek⟩⟩
        · rw [hfit]
          exact ⟨s, _, rfl, .refl s, .inr ⟨fun h => hfits h.2, by decide⟩⟩

/-- A part of the headers and what follows. -/
theorem HeaderPart.andThen {f : Part} {valid : Prop} (h : HeaderPart f s valid) (g : Part) :
    (valid ∧ ∃ s', f.andThen g s = g s' ∧ Keeps s s' ∧ s'.playRequests = s.playRequests) ∨
      (¬ valid ∧ ∃ s' code, f.andThen g s = .ok (s', code) ∧ code ≠ .ok ∧ Keeps s s') := by
  obtain ⟨s', code, heq, hk, hq, hvalid⟩ := h
  unfold Part.andThen
  rw [heq]
  dsimp only
  by_cases hcode : code = .ok
  · rw [if_pos hcode]
    exact .inl ⟨hvalid.1 hcode, s', rfl, hk, hq⟩
  · rw [if_neg hcode]
    exact .inr ⟨fun hv => hcode (hvalid.2 hv), s', code, rfl, hcode, hk⟩

/-- The headers of PLAY can be obeyed. -/
structure HeadersValid (req : Request) (r : Resource) (s : Session) : Prop where
  range : RangeValid req r s
  scale : ScaleValid req r
  download : WordValid req.download "no" "yes"
  rateControl : WordValid req.rateControl "no" "yes"
  frames : WordValid req.frames "intra" "all"

/-- The resource can be started: the headers are valid, and the seek to a new range succeeds. -/
def CanStart (env : Environment) (req : Request) (r : Resource) (s : Session) : Prop :=
  HeadersValid req r s ∧ (r.seekable = true → req.range.isSome = true → env.seekOk = true)

/-- How the parts of PLAY end. -/
inductive PlayEnds (env : Environment) (req : Request) (r : Resource) (s s' : Session) :
    ResponseCode → Prop
  | plays (hcan : CanStart env req r s) (hstart : env.startOk = true)
      (hstate : s'.curState = .playing) (hstarted : s'.started = true)
      (hqueue : s'.playRequests ≠ []) : PlayEnds env req r s s' .ok
  | notStarted {code : ResponseCode} (hcode : code ≠ .ok) (hcan : CanStart env req r s)
      (hstart : env.startOk = false) (hstate : s'.curState = .playing)
      (hstarted : s'.started = s.started) (hqueue : s'.playRequests ≠ []) :
      PlayEnds env req r s s' code
  | refused {code : ResponseCode} (hcode : code ≠ .ok) (hcan : ¬ CanStart env req r s)
      (hstate : s'.curState = s.curState) (hstarted : s'.started = s.started) :
      PlayEnds env req r s s' code

/-- What PLAY does not touch. -/
structure SetUp (s s' : Session) : Prop where
  rtpSessions : s'.rtpSessions = s.rtpSessions
  resource : s'.resource = s.resource
  resourceUri : s'.resourceUri = s.resourceUri

theorem Keeps.setUp (h : Keeps s s') : SetUp s s' := ⟨h.rtpSessions, h.resource, h.resourceUri⟩

theorem doPlay_cases (env : Environment) {range : Range} {rest : List Range} (hr : s.resource = some r)
    (huni : ∀ p ∈ s.rtpSessions, p.multicast = false) (hq : s.playRequests = range :: rest) :
    (r.seekable = true ∧ range.seek = true ∧ env.seekOk = false ∧
        doPlay env s = .ok (s, .invalidRange)) ∨
      (¬ (r.seekable = true ∧ range.seek = true ∧ env.seekOk = false) ∧
        ((env.startOk = false ∧
          doPlay env s = .ok ({ s with curState := .playing }, .internalServerError)) ∨
        (env.startOk = true ∧ doPlay env s = .ok ({ s with
          curState := .playing, started := true, fillPool := r.pull || s.fillPool }, .ok)))) := by
  have hmulti : ¬ (s.rtpSessions.head?.any (·.multicast) = true) := by
    cases hp : s.rtpSessions with
    | nil => simp
    | cons p ps =>
      have := huni p (by simp [hp])
      simp [this]
  unfold doPlay
  rw [hr]
  dsimp only
  rw [if_neg (by simp [hq]), hq]
  by_cases hseek : r.seekable = true ∧ range.seek = true ∧ env.seekOk = false
  · rw [if_pos (by simpa using hseek)]
    exact .inl ⟨hseek.1, hseek.2.1, hseek.2.2, rfl⟩
  · rw [if_neg (by simpa using hseek), if_neg hmulti]
    refine .inr ⟨hseek, ?_⟩
    cases env.startOk with
    | false => exact .inl ⟨rfl, rfl⟩
    | true => exact .inr ⟨rfl, rfl⟩

/-- The headers before the range are done with. -/
theorem playEnds_of_refused {x : Except Fault (Session × ResponseCode)} {code : ResponseCode}
    (hx : x = .ok (s', code)) (hk : Keeps s s') (hcode : code ≠ .ok) (hcan : ¬ CanStart env req r s) :
    ∃ s' code, x = .ok (s', code) ∧ SetUp s s' ∧ PlayEnds env req r s s' code :=
  ⟨s', code, hx, hk.setUp, .refused hcode hcan hk.curState hk.started⟩

theorem playParts_spec (env : Environment) (req : Request) (hr : s.resource = some r)
    (hstate : s.curState ≠ .playing)
    (huni : ∀ p ∈ s.rtpSessions, p.multicast = false) :
    ∃ s' code, playParts env req s = .ok (s', code) ∧ SetUp s s' ∧ PlayEnds env req r s s' code := by
  unfold playParts
  obtain ⟨s₁, code, hrange, hk₁, hcases⟩ := parseRangeHeader_spec env req hr hstate
  rcases hcases with ⟨hv₁, rfl, range, rest, hq₁, hseek⟩ | ⟨hnot, hcode⟩
  case inr =>
    exact playEnds_of_refused (by simp [Part.andThen, hrange, hcode]) hk₁ hcode
      fun h => hnot h.1.range
  case inl =>
    have hthen : ∀ g, (parseRangeHeader env req).andThen g s = g s₁ := by
      intro g
      simp [Part.andThen, hrange]
    rw [hthen]
    rcases (parseScaleHeader_part (hk₁.resource.trans hr)).andThen _ with
      ⟨hv₂, s₂, heq₂, hk₂, hq₂⟩ | ⟨hnot, s₂, code, heq, hcode, hk⟩
    case inr => exact playEnds_of_refused heq (hk₁.trans hk) hcode fun h => hnot h.1.scale
    have hk₂ := hk₁.trans hk₂
    rw [heq₂]
    have hdownload : HeaderPart (parseDownloadHeader req) s₂ _ :=
      wordHeader_part ⟨⟨rfl, rfl, rfl, rfl, rfl⟩, rfl⟩ ⟨⟨rfl, rfl, rfl, rfl, rfl⟩, rfl⟩
    rcases hdownload.andThen _ with ⟨hv₃, s₃, heq₃, hk₃, hq₃⟩ | ⟨hnot, s₃, code, heq, hcode, hk⟩
    case inr => exact playEnds_of_refused heq (hk₂.trans hk) hcode fun h => hnot h.1.download
    have hk₃ := hk₂.trans hk₃
    rw [heq₃]
    have hrate : HeaderPart (parseRateControlHeader env req) s₃ _ :=
      wordHeader_part ⟨⟨rfl, rfl, rfl, rfl, rfl⟩, rfl⟩ ⟨⟨rfl, rfl, rfl, rfl, rfl⟩, rfl⟩
    rcases hrate.andThen _ with ⟨hv₄, s₄, heq₄, hk₄, hq₄⟩ | ⟨hnot, s₄, code, heq, hcode, hk⟩
    case inr => exact playEnds_of_refused heq (hk₃.trans hk) hcode fun h => hnot h.1.rateControl
    have hk₄ := hk₃.trans hk₄
    rw [heq₄]
    rcases (framesPart_part (s := s₄)).andThen _ with
      ⟨hv₅, s₅, heq₅, hk₅, hq₅⟩ | ⟨hnot, s₅, code, heq, hcode, hk⟩
    case inr => exact playEnds_of_refused heq (hk₄.trans hk) hcode fun h => hnot h.1.frames
    have hk₅ := hk₄.trans hk₅
    rw [heq₅]
    rcases (audioSkipPart_part (s := s₅)).andThen _ with
      ⟨-, s₆, heq₆, hk₆, hq₆⟩ | ⟨hnot, -⟩
    case inr => exact absurd trivial hnot
    have hk₆ := hk₅.trans hk₆
    rw [heq₆]
    -- The headers are valid; what is left is to seek and to start.
    have hheaders : HeadersValid req r s := ⟨hv₁, hv₂, hv₃, hv₄, hv₅⟩
    have hq : s₆.playRequests = range :: rest := by rw [hq₆, hq₅, hq₄, hq₃, hq₂, hq₁]
    rw [if_pos (by rw [hk₆.curState]; exact hstate)]
    have huni₆ : ∀ p ∈ s₆.rtpSessions, p.multicast = false := by
      rw [hk₆.rtpSessions]
      exact huni
    rcases doPlay_cases env (hk₆.resource.trans hr) huni₆ hq with
      ⟨hs, hrs, hsk, heq⟩ | ⟨hcan, ⟨hst, heq⟩ | ⟨hst, heq⟩⟩
    · refine playEnds_of_refused heq hk₆ (by decide) fun h => ?_
      have := h.2 hs (hseek ▸ hrs)
      rw [hsk] at this
      cases this
    all_goals
      have hcan' : CanStart env req r s := by
        refine ⟨hheaders, fun hs hsome => ?_⟩
        by_contra hno
        exact hcan ⟨hs, hseek.trans hsome, by simpa using hno⟩
    · exact ⟨_, _, heq, ⟨hk₆.rtpSessions, hk₆.resource, hk₆.resourceUri⟩,
        .notStarted (by decide) hcan' hst rfl hk₆.started (by simp [hq])⟩
    · exact ⟨_, _, heq, ⟨hk₆.rtpSessions, hk₆.resource, hk₆.resourceUri⟩,
        .plays hcan' hst rfl rfl (by simp [hq])⟩

theorem checkInvalidState_of_ne {invalid : ServerState} (hs : c.session = some s)
    (h : s.curState ≠ invalid) : checkInvalidState c invalid = .ok none := by
  unfold checkInvalidState
  rw [hs]
  exact if_pos h

theorem checkInvalidState_of_eq {invalid : ServerState} (hs : c.session = some s)
    (h : s.curState = invalid) : checkInvalidState c invalid = .ok (some { c with
      outQueue := { status := .invalidMethodInState, allow := some (validStates invalid) } ::
        c.outQueue }) := by
  unfold checkInvalidState
  rw [hs]
  exact if_neg (not_not_intro h)

/-- The answer of `rtsp_check_invalid_state`. -/
theorem ends_invalidState {clean : Prop} {allow : Option String} (hok : ClientOk c) (hclean : clean) :
    Ends c (.ok { c with outQueue := { status := .invalidMethodInState, allow } :: c.outQueue })
      clean := by
  refine ⟨_, .invalidMethodInState, rfl, ⟨allow, none, rfl⟩, hok.of_session rfl,
    fun hplays => iff_of_true ⟨?_, fun _ => ⟨core_congr rfl, rfl⟩⟩ hclean⟩
  exact hplays

/-- The session is set up. -/
theorem SessionOk.exists_resource (hok : SessionOk s) (h : s.curState ≠ .init) :
    ∃ r, s.resource = some r := Option.isSome_iff_exists.1 (hok.opened h)

/-- `rtsp_do_pause` of a playing session. -/
theorem doPause_of_playing (env : Environment) (hok : SessionOk s) (h : s.curState = .playing) :
    doPause .comparison env s = .error .badResource ∧ ∃ r range rest,
      s.resource = some r ∧ s.playRequests = range :: rest ∧
      doPause .resource env s = .ok (s.pause env r range rest) := by
  obtain ⟨r, hr⟩ := hok.exists_resource (by rw [h]; decide)
  obtain ⟨range, rest, hq⟩ := List.exists_cons_of_ne_nil (hok.queued h)
  unfold doPause
  rw [hr, hq]
  exact ⟨rfl, r, range, rest, rfl, rfl, rfl⟩

theorem pause_ok {range : Range} {rest : List Range} (hok : SessionOk s) (h : s.curState = .playing)
    (hr : s.resource = some r) : SessionOk (s.pause env r range rest) := by
  refine ⟨hok.uri, fun _ => by rw [show (s.pause env r range rest).resource = s.resource from rfl, hr]; rfl,
    nofun, hok.unicast, ?_⟩
  have hne : s.rtpSessions ≠ [] := fun hnil => by
    have := hok.state.2 hnil
    rw [h] at this
    cases this
  exact iff_of_false nofun hne

theorem pause_ends (hok : ClientOk c) (hs : c.session = some s) :
    Ends c (pause .resource env req c) True := by
  unfold pause
  by_cases hi : s.curState = .init
  · rw [checkInvalidState_of_eq hs hi]
    exact ends_invalidState hok trivial
  · rw [checkInvalidState_of_ne hs hi]
    by_cases hready : s.curState = .ready
    · rw [checkInvalidState_of_eq hs hready]
      exact ends_invalidState hok trivial
    · rw [checkInvalidState_of_ne hs hready]
      have hplaying : s.curState = .playing := by
        cases hstate : s.curState with
        | init => exact absurd hstate hi
        | ready => exact absurd hstate hready
        | playing => rfl
      cases hurl : requestGetUrl env req with
      | error code => exact ends_respond hok (.refl c) code trivial
      | ok path =>
        obtain ⟨-, r, range, rest, hr, -, hpause⟩ := doPause_of_playing env (hok s hs) hplaying
        refine ⟨{ c with session := some (s.pause env r range rest) }.respond .ok, .ok, ?_,
          ⟨none, none, rfl⟩, fun s' hs' => ?_,
          fun _ => iff_of_true ⟨?_, fun h => absurd rfl h⟩ trivial⟩
        · simp only [bind, Except.bind, hs, hpause, pure, Except.pure]
        · cases hs'
          exact pause_ok (hok s hs) hplaying hr
        · exact iff_of_false nofun nofun

/-- When PLAY leaves the session in order: a start does not fail, and a session that plays is not
paused for headers that cannot be obeyed. -/
def PlayClean (env : Environment) (req : Request) (c : Client) : Prop :=
  ∀ s ∈ c.session, ∀ r ∈ s.resource, s.curState ≠ .init → (∃ path, requestGetUrl env req = .ok path) →
    (CanStart env req r s → env.startOk = true) ∧ (s.curState = .playing → CanStart env req r s)

theorem canStart_congr (h : s'.playRequests ≠ [] ↔ s.playRequests ≠ []) :
    CanStart env req r s' ↔ CanStart env req r s := by
  have hrange : RangeValid req r s' ↔ RangeValid req r s := by
    unfold RangeValid
    rw [h]
  constructor
  · rintro ⟨⟨h1, h2, h3, h4, h5⟩, h6⟩
    exact ⟨⟨hrange.1 h1, h2, h3, h4, h5⟩, h6⟩
  · rintro ⟨⟨h1, h2, h3, h4, h5⟩, h6⟩
    exact ⟨⟨hrange.2 h1, h2, h3, h4, h5⟩, h6⟩

theorem playEnds_ok {code : ResponseCode} (hok : SessionOk s) (hinit : s.curState ≠ .init)
    (hplaying : s.curState ≠ .playing) (hset : SetUp s s') (h : PlayEnds env req r s s' code) :
    SessionOk s' := by
  have hrtp : s'.rtpSessions ≠ [] := by
    rw [hset.rtpSessions]
    exact fun hnil => hinit (hok.state.2 hnil)
  have hstate : s'.curState ≠ .init := by
    cases h with
    | plays _ _ hstate => rw [hstate]; decide
    | notStarted _ _ _ hstate => rw [hstate]; decide
    | refused _ _ hstate => rw [hstate]; exact hinit
  refine ⟨?_, fun _ => ?_, fun hp => ?_, ?_, iff_of_false hstate hrtp⟩
  · rw [hset.resource, hset.resourceUri]
    exact hok.uri
  · rw [hset.resource]
    exact hok.opened hinit
  · cases h with
    | plays _ _ _ _ hqueue => exact hqueue
    | notStarted _ _ _ _ _ hqueue => exact hqueue
    | refused _ _ hstate => exact absurd (hstate.symm.trans hp) hplaying
  · rw [hset.rtpSessions]
    exact hok.unicast

/-- PLAY from the session `s` that is left when a playing one was paused. -/
def playFrom (env : Environment) (req : Request) (c : Client) (s : Session) : Except Fault Client := do
  let (s, code) ← playParts env req s
  if code ≠ .ok then return { c with session := some s }.respond code
  playReply s
  return { c with session := some s }.respond .ok

theorem playFrom_eq {code : ResponseCode} (hparts : playParts env req s = .ok (s', code))
    (hq : code = .ok → s'.playRequests ≠ []) :
    playFrom env req c s = .ok ({ c with session := some s' }.respond code) := by
  unfold playFrom
  simp only [bind, Except.bind, pure, Except.pure, hparts]
  by_cases hcode : code = .ok
  · subst hcode
    simp [playReply, hq rfl]
  · simp [hcode]

theorem play_of_playing (env : Environment) (req : Request) {path : List Char} (hok : ClientOk c)
    (hs : c.session = some s) (hurl : requestGetUrl env req = .ok path)
    (hplaying : s.curState = .playing) :
    play .comparison env req c = .error .badResource ∧ ∃ r range rest,
      s.resource = some r ∧ s.playRequests = range :: rest ∧
      play .resource env req c = playFrom env req c (s.pause env r range rest) := by
  obtain ⟨hbad, r, range, rest, hr, hq, hpause⟩ := doPause_of_playing env (hok s hs) hplaying
  have hcheck := checkInvalidState_of_ne hs (show s.curState ≠ .init by rw [hplaying]; decide)
  refine ⟨?_, r, range, rest, hr, hq, ?_⟩
  · unfold play
    simp only [hcheck, hurl, hs, hplaying, hbad, bind, Except.bind, if_true]
  · unfold play playFrom
    simp only [hcheck, hurl, hs, hplaying, hpause, bind, Except.bind, if_true]

theorem play_of_ready (arg : PauseArgument) {path : List Char} (hs : c.session = some s)
    (hurl : requestGetUrl env req = .ok path) (hinit : s.curState ≠ .init)
    (hplaying : s.curState ≠ .playing) : play arg env req c = playFrom env req c s := by
  unfold play playFrom
  simp only [checkInvalidState_of_ne hs hinit, hurl, hs, if_neg hplaying, bind, Except.bind, pure,
    Except.pure]

/-- The end of PLAY from a session that does not play. `clean` is the condition on the session before,
which was in the state `before`. -/
theorem playFrom_ends {clean : Prop} {s₀ : Session} (hs : c.session = some s)
    (hok₀ : SessionOk s₀) (hr : s₀.resource = some r) (hinit : s₀.curState ≠ .init)
    (hplaying : s₀.curState ≠ .playing) (hstopped : PlaysStarted c → s₀.started = false)
    (hrtp : s₀.rtpSessions = s.rtpSessions)
    (hplays : CanStart env req r s₀ → env.startOk = true → clean)
    (hfails : CanStart env req r s₀ → env.startOk = false → ¬ clean)
    (hrefused : ¬ CanStart env req r s₀ → (clean ↔ s₀.curState = s.curState)) :
    Ends c (playFrom env req c s₀) clean := by
  obtain ⟨s', code, hparts, hset, hends⟩ := playParts_spec env req hr hplaying hok₀.unicast
  have hok' := playEnds_ok hok₀ hinit hplaying hset hends
  have hq : code = .ok → s'.playRequests ≠ [] := by
    intro hcode
    cases hends with
    | plays _ _ _ _ hqueue => exact hqueue
    | notStarted hne => exact absurd hcode hne
    | refused hne => exact absurd hcode hne
  refine ⟨_, code, playFrom_eq hparts hq, ⟨none, none, rfl⟩, fun t ht => ?_, fun hp => ?_⟩
  · cases ht
    exact hok'
  · have hcore : ({ c with session := some s' }.respond code).core =
        (s'.curState, s'.started, s'.rtpSessions) := core_of_some rfl
    have hbefore := core_of_some hs
    cases hends with
    | plays hcan hstart hstate hstarted =>
      refine iff_of_true ⟨?_, fun h => absurd rfl h⟩ (hplays hcan hstart)
      rw [PlaysStarted, hcore, hstate, hstarted]
      exact iff_of_true rfl rfl
    | notStarted hcode hcan hstart hstate hstarted =>
      refine iff_of_false (fun h => ?_) (hfails hcan hstart)
      have := h.1
      rw [PlaysStarted, hcore, hstate, hstarted, hstopped hp] at this
      exact Bool.false_ne_true (this.1 rfl)
    | refused hcode hcan hstate hstarted =>
      rw [hrefused hcan]
      constructor
      · rintro ⟨-, hun⟩
        have := (hun hcode).1
        rw [hcore, hbefore, hstate] at this
        exact congrArg Prod.fst this
      · intro hsame
        have hst : s₀.started = s.started := by
          rw [hstopped hp]
          rw [PlaysStarted, hbefore, ← hsame] at hp
          exact (Bool.eq_false_iff.2 fun h => hplaying (hp.2 h)).symm
        have hcore' : ({ c with session := some s' }.respond code).core = c.core := by
          rw [hcore, hbefore, hstate, hstarted, hset.rtpSessions, hsame, hst, hrtp]
        refine ⟨?_, fun _ => ⟨hcore', rfl⟩⟩
        rw [PlaysStarted, hcore']
        exact hp

theorem play_ends (hok : ClientOk c) (hs : c.session = some s) :
    Ends c (play .resource env req c) (PlayClean env req c) := by
  by_cases hinit : s.curState = .init
  · have hclean : PlayClean env req c := by
      intro s' hs' r _ hne
      cases hs.symm.trans hs'
      exact absurd hinit hne
    unfold play
    rw [checkInvalidState_of_eq hs hinit]
    exact ends_invalidState hok hclean
  cases hurl : requestGetUrl env req with
  | error code =>
    have hclean : PlayClean env req c := by
      rintro s' hs' r _ _ ⟨path, hpath⟩
      cases hurl.symm.trans hpath
    unfold play
    simp only [checkInvalidState_of_ne hs hinit, hurl, bind, Except.bind]
    exact ends_respond hok (.refl c) code hclean
  | ok path =>
    obtain ⟨r, hr⟩ := (hok s hs).exists_resource hinit
    have hclean : PlayClean env req c ↔ (CanStart env req r s → env.startOk = true) ∧
        (s.curState = .playing → CanStart env req r s) := by
      constructor
      · exact fun h => h s hs r hr hinit ⟨path, hurl⟩
      · intro h s' hs' r' hr' _ _
        cases hs.symm.trans hs'
        cases hr.symm.trans hr'
        exact h
    rw [hclean]
    by_cases hplaying : s.curState = .playing
    · obtain ⟨-, r', range, rest, hr', hq, heq⟩ :=
        play_of_playing env req hok hs hurl hplaying
      cases hr.symm.trans hr'
      have hcan : CanStart env req r (s.pause env r range rest) ↔ CanStart env req r s :=
        canStart_congr (iff_of_true nofun (by rw [hq]; nofun))
      rw [heq]
      refine playFrom_ends hs (pause_ok (hok s hs) hplaying hr) hr nofun nofun (fun _ => rfl) rfl
        (fun h1 h2 => ⟨fun _ => h2, fun _ => hcan.1 h1⟩) (fun h1 h2 h3 => ?_) (fun h1 => ?_)
      · rw [h3.1 (hcan.1 h1)] at h2
        cases h2
      · refine iff_of_false (fun h => h1 (hcan.2 (h.2 hplaying))) ?_
        rw [hplaying]
        nofun
    · rw [play_of_ready .resource hs hurl hinit hplaying]
      refine playFrom_ends hs (hok s hs) hr hinit hplaying (fun hp => ?_) rfl
        (fun _ h2 => ⟨fun _ => h2, fun h => absurd h hplaying⟩) (fun h1 h2 h3 => ?_)
        (fun h1 => iff_of_true ⟨fun h => absurd h h1, fun h => absurd h hplaying⟩ rfl)
      · rw [PlaysStarted, core_of_some hs] at hp
        exact Bool.eq_false_iff.2 fun h => hplaying (hp.2 h)
      · rw [h3.1 h1] at h2
        cases h2

end Rtsp

end StreamSwitch
