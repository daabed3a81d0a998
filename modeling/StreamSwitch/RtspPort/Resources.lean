import Mathlib.Data.List.Perm.Basic
import StreamSwitch.RtspPort.Requests

/-!
# Resources of an RTSP connection

DESCRIBE leaves the resource it opened in the one-slot cache of the client, and the next SETUP
of a session without a resource takes it from there. `Held` is where the resources of a connection
are; `Moved` says all that one request can do to it.
-/

namespace StreamSwitch

namespace Rtsp

variable {env : Environment} {req : Request} {c c' : Client} {s : Session} {r : Resource}
  {uri : List Char} {e : Event}

/-! ## Where the resources are -/

structure Held where
  resource : Option Resource
  resourceUri : Option (List Char)
  cached : Option Resource
  opened : List Resource
  closed : List Resource

def Client.held (c : Client) : Held where
  resource := c.session.bind (·.resource)
  resourceUri := c.session.bind (·.resourceUri)
  cached := c.cachedResource
  opened := c.opened
  closed := c.closed

/-- `client_ev_disconnect_handler`: `rtsp_session_free` closes the resource of the session, and then
the cached one is closed. -/
def disconnect (c : Client) : Client :=
  { c with
    session := none
    cachedResource := none
    closed := c.cachedResource.toList ++ ((c.session.bind (·.resource)).toList ++ c.closed)
    interleaved := []
    outQueue := [] }

/-- The session of the SETUP gets the cached resource. -/
structure TakesCached (req : Request) (h : Held) (r : Resource) (uri : List Char) : Prop where
  noResource : h.resource = none
  cached : h.cached = some r
  separated : ∃ name, strstr trackUriSeparator req.object = some (uri, name)

def Held.take (h : Held) (r : Resource) (uri : List Char) : Held :=
  { h with resource := some r, resourceUri := some uri, cached := none }

/-- What looking for the track does to the resources. -/
inductive TrackMoved (env : Environment) (req : Request) (h : Held) : Held → Prop
  | stays (hnot : ∀ r uri, ¬ TakesCached req h r uri) : TrackMoved env req h h
  | takes {r : Resource} {uri : List Char} (htakes : TakesCached req h r uri) :
      TrackMoved env req h (h.take r uri)
  | opens {r : Resource} {uri : List Char} (hres : h.resource = none) (hcached : h.cached = none)
      (hserial : r.serial = h.opened.length) (hpath : r.path = env.resourcePath uri) :
      TrackMoved env req h { h.take r uri with opened := r :: h.opened }

theorem openResource_path {path : Option (List Char)} (h : env.openResource path = some r) :
    r.path = path := by
  unfold Environment.openResource at h
  obtain ⟨r₀, -, rfl⟩ := Option.map_eq_some_iff.1 h
  rfl

theorem findTrack_fst (c : Client) (r : Resource) (name : List Char) : (findTrack c r name).1 = c := by
  unfold findTrack
  split <;> rfl

theorem selectRequestedTrack_moved {id : List Char} {res : Except ResponseCode (List Char)}
    (hok : ClientOk c)
    (h : selectRequestedTrack env req c (c.session.getD { sessionId := id }) = .ok (c', res)) :
    TrackMoved env req c.held c'.held := by
  have hsession : SessionOk (c.session.getD { sessionId := id }) := hok.getD id
  have hres : c.held.resource = (c.session.getD { sessionId := id }).resource := by
    unfold Client.held
    cases c.session <;> rfl
  have huri : c.held.resourceUri = (c.session.getD { sessionId := id }).resourceUri := by
    unfold Client.held
    cases c.session <;> rfl
  generalize c.session.getD { sessionId := id } = s at h hsession hres huri
  have hsame : { c with session := some s }.held = c.held := by
    show Held.mk s.resource s.resourceUri c.cachedResource c.opened c.closed = c.held
    rw [← hres, ← huri]
    rfl
  unfold selectRequestedTrack at h
  cases hr : s.resource with
  | none =>
    have hu : s.resourceUri = none := by
      have hsome := hsession.uri
      rw [hr] at hsome
      simpa using hsome.symm
    rw [hr, hu] at h
    cases hsep : strstr trackUriSeparator req.object with
    | none =>
      rw [hsep] at h
      cases h
      rw [hsame]
      refine .stays fun r uri htakes => ?_
      obtain ⟨name, hname⟩ := htakes.separated
      cases hsep.symm.trans hname
    | some v =>
      obtain ⟨uri, name⟩ := v
      rw [hsep] at h
      dsimp only at h
      cases hcached : c.cachedResource with
      | some r =>
        rw [hcached] at h
        have hfst := congrArg Prod.fst (Except.ok.inj h)
        rw [findTrack_fst] at hfst
        subst hfst
        exact .takes ⟨hres.trans hr, hcached, name, hsep⟩
      | none =>
        rw [hcached] at h
        cases hopen : env.openResource (env.resourcePath uri) with
        | none =>
          rw [hopen] at h
          cases h
          rw [hcached] at hsame
          rw [hsame]
          refine .stays fun r uri htakes => ?_
          cases hcached.symm.trans htakes.cached
        | some r =>
          rw [hopen] at h
          have hfst := congrArg Prod.fst (Except.ok.inj h)
          rw [findTrack_fst] at hfst
          subst hfst
          have hpath := openResource_path hopen
          exact .opens (r := { r with serial := c.opened.length }) (hres.trans hr) hcached rfl hpath
  | some r =>
    have hnot : ∀ r uri, ¬ TakesCached req c.held r uri := by
      intro r' uri' htakes
      have := htakes.noResource
      rw [hres, hr] at this
      cases this
    obtain ⟨uri, hu⟩ : ∃ uri, s.resourceUri = some uri := by
      have hsome := hsession.uri
      rw [hr] at hsome
      exact Option.isSome_iff_exists.1 hsome.symm
    -- Whatever is answered, the client has its session and nothing else is different.
    have hfst : c' = { c with session := some s } := by
      rw [hr, hu] at h
      dsimp only at h
      split at h
      · cases h
        rfl
      · split at h
        · cases h
          rfl
        · have hfst := congrArg Prod.fst (Except.ok.inj h)
          rw [findTrack_fst] at hfst
          exact hfst.symm
    rw [hfst, hsame]
    exact .stays hnot

theorem setupTrack_moved {t : ParsedTransport} (hok : ClientOk c)
    (h : setupTrack env req t c = .ok c') : TrackMoved env req c.held c'.held := by
  unfold setupTrack at h
  cases hsel : selectRequestedTrack env req c (c.session.getD { sessionId := env.freshId }) with
  | error fault =>
    rw [hsel] at h
    cases h
  | ok v =>
    obtain ⟨c₁, res⟩ := v
    have hmoved := selectRequestedTrack_moved hok hsel
    rw [hsel] at h
    cases res with
    | error code =>
      cases h
      exact hmoved
    | ok name =>
      cases h
      have hheld : c₁.held =
          ({ c₁ with session := c₁.session.map (addRtpSession req t name) }.respond .ok).held := by
        unfold Client.held Client.respond
        cases c₁.session <;> rfl
      rw [← hheld]
      exact hmoved

/-- What a SETUP has to pass before its track is looked for. -/
structure SetupAccepted (env : Environment) (req : Request) (c : Client) : Prop where
  url : ∃ path, requestGetUrl env req = .ok path
  require : RequireOk req
  transport : ∃ t ∈ req.transport, (checkParsedTransport env c t).isSome
  room : env.full = false

theorem checkParsedTransport_held {t t' : ParsedTransport}
    (h : checkParsedTransport env c t = some (c', t')) :
    c'.session = c.session ∧ c'.held = c.held := by
  rcases checkParsedTransport_cases env c t with ⟨-, ch, t₁, heq⟩ | ⟨-, heq | ⟨t₁, heq⟩⟩
  all_goals cases heq.symm.trans h
  · exact ⟨rfl, rfl⟩
  · exact ⟨rfl, rfl⟩

theorem parseRequireHeader_held (h : parseRequireHeader c req = .ok c') :
    c'.session = c.session ∧ c'.held = c.held := by
  unfold parseRequireHeader at h
  cases hreq : req.require with
  | none =>
    rw [hreq] at h
    cases h
    exact ⟨rfl, rfl⟩
  | some hdr =>
    rw [hreq] at h
    dsimp only at h
    split at h
    · cases h
      exact ⟨rfl, rfl⟩
    · split at h
      · cases h
        exact ⟨rfl, rfl⟩
      · split at h
        · cases h
          exact ⟨rfl, rfl⟩
        · cases h

/-- The transport is looked at the same way whatever the client is. -/
theorem checkParsedTransport_isSome (env : Environment) (c c' : Client) (t : ParsedTransport) :
    (checkParsedTransport env c t).isSome = (checkParsedTransport env c' t).isSome := by
  unfold checkParsedTransport
  cases t.protocol <;> cases env.socketsOk <;> simp only [Bool.false_eq_true, if_false, if_true] <;>
    split_ifs <;> rfl

/-- SETUP is refused before its track is looked for, or its track is. -/
theorem setup_cases (env : Environment) (req : Request) (c : Client) :
    (¬ SetupAccepted env req c ∧ ∃ c', setup env req c = .ok c' ∧ c'.held = c.held) ∨
      (SetupAccepted env req c ∧ ∃ c₁ t, setup env req c = setupTrack env req t c₁ ∧
        c₁.session = c.session ∧ c₁.held = c.held) := by
  unfold setup
  cases hurl : requestGetUrl env req with
  | error code =>
    refine .inl ⟨fun h => ?_, _, rfl, rfl⟩
    obtain ⟨path, hpath⟩ := h.url
    cases hurl.symm.trans hpath
  | ok path =>
    dsimp only
    rcases parseRequireHeader_cases c req with ⟨hreq, c₁, heq, -⟩ | ⟨hreq, heq⟩
    case inr =>
      rw [heq]
      exact .inl ⟨fun h => hreq h.require, _, rfl, rfl⟩
    obtain ⟨hsession₁, hheld₁⟩ := parseRequireHeader_held heq
    rw [heq]
    dsimp only
    cases ht : req.transport.bind (checkParsedTransport env c₁) with
    | none =>
      refine .inl ⟨fun h => ?_, _, rfl, hheld₁⟩
      obtain ⟨t, hmem, hsome⟩ := h.transport
      rw [checkParsedTransport_isSome env c c₁, Option.isSome_iff_ne_none] at hsome
      exact hsome (Option.bind_eq_none_iff.1 ht t hmem)
    | some v =>
      obtain ⟨c₂, t⟩ := v
      obtain ⟨t₀, hmem, hcheck⟩ := Option.bind_eq_some_iff.1 ht
      obtain ⟨hsession₂, hheld₂⟩ := checkParsedTransport_held hcheck
      dsimp only
      cases hfull : env.full with
      | true =>
        refine .inl ⟨fun h => ?_, _, rfl, hheld₂.trans hheld₁⟩
        cases hfull.symm.trans h.room
      | false =>
        refine .inr ⟨⟨⟨path, hurl⟩, hreq, ⟨t₀, hmem, ?_⟩, hfull⟩, c₂, t, rfl,
          hsession₂.trans hsession₁, hheld₂.trans hheld₁⟩
        rw [checkParsedTransport_isSome env c c₁, hcheck]
        rfl

/-! ## What a request does -/

/-- A SETUP that takes the cached resource. -/
structure Takes (c : Client) (e : Event) (r : Resource) (uri : List Char) : Prop where
  reaches : Reaches c e.req .setup
  accepted : SetupAccepted e.env e.req c
  cached : TakesCached e.req c.held r uri

/-- All that a request can do to the resources. -/
inductive Moved (c : Client) (e : Event) : Held → Prop
  | stays (hnot : ∀ r uri, ¬ Takes c e r uri) : Moved c e c.held
  | caches {r : Resource} (hnot : ∀ r uri, ¬ Takes c e r uri) (hserial : r.serial = c.opened.length) :
      Moved c e { c.held with
        cached := some r
        opened := r :: c.opened
        closed := c.cachedResource.toList ++ c.closed }
  | takes {r : Resource} {uri : List Char} (htakes : Takes c e r uri) : Moved c e (c.held.take r uri)
  | opens {r : Resource} {uri : List Char} (hnot : ∀ r uri, ¬ Takes c e r uri)
      (hres : c.held.resource = none) (hcached : c.held.cached = none)
      (hserial : r.serial = c.opened.length) (hpath : r.path = e.env.resourcePath uri) :
      Moved c e { c.held.take r uri with opened := r :: c.opened }

theorem setup_moved (hok : ClientOk c) (hreach : Reaches c e.req .setup)
    (h : setup e.env e.req c = .ok c') : Moved c e c'.held := by
  rcases setup_cases e.env e.req c with ⟨hnot, c₁, heq, hheld⟩ | ⟨haccepted, c₁, t, heq, hsession, hheld⟩
  · cases heq.symm.trans h
    rw [hheld]
    exact .stays fun r uri ht => hnot ht.accepted
  · have hmoved := setupTrack_moved (hok.of_session hsession) (heq.symm.trans h)
    rw [hheld] at hmoved
    have hnot : c.held.cached = none → ∀ r uri, ¬ Takes c e r uri := by
      intro hcached r uri ht
      cases hcached.symm.trans ht.cached.cached
    cases hmoved' : c'.held
    rw [hmoved'] at hmoved
    cases hmoved with
    | stays hno => exact .stays fun r uri ht => hno r uri ht.cached
    | takes ht => exact .takes ⟨hreach, haccepted, ht⟩
    | opens hres hcached hserial hpath => exact .opens (hnot hcached) hres hcached hserial hpath

theorem describe_moved (hreach : Reaches c e.req .describe) :
    Moved c e (describe e.env e.req c).held := by
  have hnot : ∀ r uri, ¬ Takes c e r uri := by
    intro r uri ht
    cases hreach.2.symm.trans ht.reaches.2
  unfold describe
  cases requestGetUrl e.env e.req with
  | error code => exact .stays hnot
  | ok path =>
    dsimp only
    cases heq : parseRequireHeader c e.req with
    | error code => exact .stays hnot
    | ok c₁ =>
      obtain ⟨-, hheld⟩ := parseRequireHeader_held heq
      dsimp only
      cases e.env.openResource (e.env.unescapePath path) with
      | none =>
        rw [show (c₁.respond .notFound).held = c₁.held from rfl, hheld]
        exact .stays hnot
      | some r =>
        have hopened : c₁.opened = c.opened := congrArg Held.opened hheld
        have hmoved := Moved.caches (c := c) (r := { r with serial := c.opened.length }) hnot rfl
        rw [← hheld, ← hopened, ← show c₁.closed = c.closed from congrArg Held.closed hheld,
          ← show c₁.cachedResource = c.cachedResource from congrArg Held.cached hheld] at hmoved
        exact hmoved

/-- PLAY that does not start from `init` plays the resource that was set up. -/
theorem play_held (hok : ClientOk c) (hs : c.session = some s)
    (h : play .comparison env req c = .ok c') : c'.held = c.held := by
  by_cases hinit : s.curState = .init
  · unfold play at h
    rw [checkInvalidState_of_eq hs hinit] at h
    cases h
    rfl
  cases hurl : requestGetUrl env req with
  | error code =>
    unfold play at h
    simp only [checkInvalidState_of_ne hs hinit, hurl, bind, Except.bind] at h
    cases h
    rfl
  | ok path =>
    by_cases hplaying : s.curState = .playing
    · have hfault := (play_of_playing env req hok hs hurl hplaying).1
      cases hfault.symm.trans h
    · obtain ⟨r, hr⟩ := (hok s hs).exists_resource hinit
      obtain ⟨s', code, hparts, hset, hends⟩ := playParts_spec env req hr hplaying (hok s hs).unicast
      have hq : code = .ok → s'.playRequests ≠ [] := by
        intro hcode
        cases hends with
        | plays _ _ _ _ hqueue => exact hqueue
        | notStarted hne => exact absurd hcode hne
        | refused hne => exact absurd hcode hne
      rw [play_of_ready .comparison hs hurl hinit hplaying, playFrom_eq hparts hq] at h
      cases h
      show Held.mk s'.resource s'.resourceUri c.cachedResource c.opened c.closed = c.held
      rw [hset.resource, hset.resourceUri]
      simp only [Client.held, hs, Option.bind_some]

theorem pause_held (hs : c.session = some s) (h : pause .comparison env req c = .ok c') :
    c'.held = c.held := by
  unfold pause at h
  by_cases hinit : s.curState = .init
  · rw [checkInvalidState_of_eq hs hinit] at h
    cases h
    rfl
  by_cases hready : s.curState = .ready
  · rw [checkInvalidState_of_ne hs hinit, checkInvalidState_of_eq hs hready] at h
    cases h
    rfl
  rw [checkInvalidState_of_ne hs hinit, checkInvalidState_of_ne hs hready] at h
  cases hurl : requestGetUrl env req with
  | error code =>
    simp only [hurl, bind, Except.bind] at h
    cases h
    rfl
  | ok path =>
    obtain ⟨fault, hfault⟩ : ∃ fault, doPause .comparison env s = .error fault := by
      unfold doPause
      cases s.resource with
      | none => exact ⟨_, rfl⟩
      | some r => cases s.playRequests <;> exact ⟨_, rfl⟩
    simp only [hurl, hs, hfault, bind, Except.bind] at h
    cases h

theorem getParameter_held (hs : c.session = some s) (h : getParameter env req c = .ok c') :
    c'.held = c.held := by
  unfold getParameter at h
  by_cases hinit : s.curState = .init
  · rw [checkInvalidState_of_eq hs hinit] at h
    cases h
    rfl
  rw [checkInvalidState_of_ne hs hinit] at h
  cases hurl : requestGetUrl env req with
  | error code =>
    simp only [hurl, bind, Except.bind] at h
    cases h
    rfl
  | ok path =>
    cases hdescr : parameterDesc req c with
    | error fault =>
      simp only [hurl, hdescr, bind, Except.bind] at h
      cases h
    | ok descr =>
      simp only [hurl, hdescr, bind, Except.bind] at h
      cases h
      rfl

theorem teardown_held (env : Environment) (req : Request) (c : Client) :
    (teardown env req c).held = c.held := by
  unfold teardown
  cases requestGetUrl env req <;> rfl

/-- Only DESCRIBE and SETUP move resources. -/
theorem step_moved (hok : ClientOk c) (h : rtspStep .comparison c e = some c') :
    Moved c e c'.held := by
  have hreq := rtspStep_eq_some_iff.1 h
  have hstays : c'.held = c.held → (∀ m, Reaches c e.req m → m ≠ .setup) → Moved c e c'.held := by
    intro hheld hm
    rw [hheld]
    exact .stays fun r uri ht => hm _ ht.reaches rfl
  have hsession : ∀ m, Reaches c e.req m → NeedsSession m → ∃ s, c.session = some s := by
    intro m hr hn
    cases hs : c.session with
    | none =>
      rw [handleRequest_of_noSession hr hn hs] at hreq
      cases hreq
    | some s => exact ⟨s, rfl⟩
  unfold handleRequest at hreq
  cases href : refusal e.req c with
  | some code =>
    rw [href] at hreq
    cases hreq
    refine hstays rfl fun m hr => ?_
    cases href.symm.trans hr.1
  | none =>
    rw [href] at hreq
    dsimp only at hreq
    cases hm : e.req.method with
    | none =>
      rw [hm] at hreq
      cases hreq
      refine hstays rfl fun m hr => ?_
      cases hm.symm.trans hr.2
    | some m =>
      rw [hm] at hreq
      have hreach : Reaches c e.req m := ⟨href, hm⟩
      have hother : m ≠ .setup → ∀ m', Reaches c e.req m' → m' ≠ .setup := by
        intro hne m' hr
        cases hm.symm.trans hr.2
        exact hne
      cases m with
      | describe =>
        cases hreq
        exact describe_moved hreach
      | setup => exact setup_moved hok hreach hreq
      | teardown =>
        cases hreq
        exact hstays (teardown_held e.env e.req c) (hother nofun)
      | options | announce | record | redirect | setParameter =>
        cases hreq
        exact hstays rfl (hother nofun)
      | play =>
        obtain ⟨s, hs⟩ := hsession .play hreach (.inl rfl)
        exact hstays (play_held hok hs hreq) (hother nofun)
      | pause =>
        obtain ⟨s, hs⟩ := hsession .pause hreach (.inr (.inl rfl))
        exact hstays (pause_held hs hreq) (hother nofun)
      | getParameter =>
        obtain ⟨s, hs⟩ := hsession .getParameter hreach (.inr (.inr rfl))
        exact hstays (getParameter_held hs hreq) (hother nofun)

/-! ## Accounts -/

/-- Every resource that was opened is in one place. -/
structure Accounted (h : Held) : Prop where
  perm : (h.resource.toList ++ (h.cached.toList ++ h.closed)).Perm h.opened
  nodup : h.opened.Nodup
  serial : ∀ r ∈ h.opened, r.serial < h.opened.length

theorem Accounted.opens {h h' : Held} (ha : Accounted h) (hopened : h'.opened = r :: h.opened)
    (hserial : r.serial = h.opened.length)
    (hperm : (h'.resource.toList ++ (h'.cached.toList ++ h'.closed)).Perm
      (r :: (h.resource.toList ++ (h.cached.toList ++ h.closed)))) : Accounted h' := by
  have hnew : r ∉ h.opened := by
    intro hmem
    have := ha.serial r hmem
    omega
  refine ⟨?_, ?_, ?_⟩
  · rw [hopened]
    exact hperm.trans (ha.perm.cons r)
  · rw [hopened]
    exact List.nodup_cons.2 ⟨hnew, ha.nodup⟩
  · intro r' hmem
    rw [hopened] at hmem ⊢
    rw [List.length_cons]
    rcases List.mem_cons.1 hmem with rfl | hmem
    · omega
    · have := ha.serial r' hmem
      omega

theorem moved_accounted {h' : Held} (ha : Accounted c.held) (hm : Moved c e h') : Accounted h' := by
  cases hm with
  | stays => exact ha
  | caches _ hserial =>
    refine ha.opens rfl hserial ?_
    exact List.perm_middle
  | takes ht =>
    refine ⟨?_, ha.nodup, ha.serial⟩
    have hperm := ha.perm
    rw [ht.cached.noResource, ht.cached.cached] at hperm
    exact hperm
  | opens _ hres hcached hserial =>
    refine ha.opens rfl hserial ?_
    rw [hres, hcached]
    exact .refl _

/-- The resource of the session was opened for the path of its URI. -/
def PlaysOwn (path : List Char → Option (List Char)) (h : Held) : Prop :=
  ∀ r, h.resource = some r → ∃ uri, h.resourceUri = some uri ∧ r.path = path uri

/-- A SETUP that takes the cached resource asks for the path that one was opened for. -/
def TakesOwn (path : List Char → Option (List Char)) (c : Client) (e : Event) : Prop :=
  ∀ r uri, Takes c e r uri → r.path = path uri

theorem moved_playsOwn_iff {path : List Char → Option (List Char)} {h' : Held}
    (hown : PlaysOwn path c.held) (hpath : e.env.resourcePath = path) (hm : Moved c e h') :
    PlaysOwn path h' ↔ TakesOwn path c e := by
  have htakesOwn : (∀ r uri, ¬ Takes c e r uri) → TakesOwn path c e :=
    fun hnot r uri ht => absurd ht (hnot r uri)
  cases hm with
  | stays hnot => exact iff_of_true hown (htakesOwn hnot)
  | caches hnot => exact iff_of_true hown (htakesOwn hnot)
  | @takes r uri ht =>
    constructor
    · intro h r' uri' ht'
      cases ht.cached.cached.symm.trans ht'.cached.cached
      obtain ⟨name, hname⟩ := ht.cached.separated
      obtain ⟨name', hname'⟩ := ht'.cached.separated
      cases hname.symm.trans hname'
      obtain ⟨uri', huri, hr⟩ := h r rfl
      cases huri
      exact hr
    · rintro h r' ⟨⟩
      exact ⟨uri, rfl, h r uri ht⟩
  | @opens r uri hnot _ _ _ hr =>
    refine iff_of_true ?_ (htakesOwn hnot)
    rintro r' ⟨⟩
    exact ⟨uri, rfl, hr.trans (congrFun hpath uri)⟩

/-! ## Every sequence of requests -/

/-- The session plays what it was set up for; a resource that is open is referenced from exactly one
place; and when the client disconnects, every opened resource has been closed once. -/
structure InOrder (path : List Char → Option (List Char)) (c : Client) : Prop where
  plays : ∀ s r, c.session = some s → s.resource = some r →
    r ∈ c.opened ∧ ∃ uri, s.resourceUri = some uri ∧ r.path = path uri
  referenced : ∀ r ∈ c.opened, r ∉ c.closed →
    (c.cachedResource = some r ↔ ¬ ∃ s, c.session = some s ∧ s.resource = some r)
  disconnects : ∀ r, (disconnect c).closed.count r = if r ∈ c.opened then 1 else 0

theorem held_resource_eq_some : c.held.resource = some r ↔ ∃ s, c.session = some s ∧ s.resource = some r :=
  Option.bind_eq_some_iff

theorem count_toList (o : Option Resource) (r : Resource) :
    o.toList.count r = if o = some r then 1 else 0 := by
  cases o with
  | none => rfl
  | some r' =>
    rw [Option.toList_some, List.count_singleton]
    simp only [beq_iff_eq, Option.some.injEq]

theorem inOrder_iff {path : List Char → Option (List Char)} (ha : Accounted c.held) :
    InOrder path c ↔ PlaysOwn path c.held := by
  constructor
  · intro h r hr
    obtain ⟨s, hs, hsr⟩ := held_resource_eq_some.1 hr
    obtain ⟨-, uri, huri, hpath⟩ := h.plays s r hs hsr
    exact ⟨uri, Option.bind_eq_some_iff.2 ⟨s, hs, huri⟩, hpath⟩
  · intro h
    have hcount : ∀ r, (c.held.resource.toList ++ (c.held.cached.toList ++ c.held.closed)).count r =
        if r ∈ c.opened then 1 else 0 := by
      intro r
      rw [ha.perm.count_eq]
      exact ha.nodup.count
    refine ⟨?_, ?_, ?_⟩
    · intro s r hs hsr
      have hr := held_resource_eq_some.2 ⟨s, hs, hsr⟩
      obtain ⟨uri, huri, hpath⟩ := h r hr
      refine ⟨ha.perm.mem_iff.1 ?_, uri, ?_, hpath⟩
      · rw [hr]
        exact .head _
      · obtain ⟨s', hs', huri'⟩ := Option.bind_eq_some_iff.1 huri
        cases hs.symm.trans hs'
        exact huri'
    · intro r hopen hclosed
      rw [← held_resource_eq_some]
      have hone := hcount r
      rw [if_pos hopen, List.count_append, List.count_append,
        List.count_eq_zero_of_not_mem (show r ∉ c.held.closed from hclosed), count_toList,
        count_toList] at hone
      show c.held.cached = some r ↔ _
      constructor
      · intro hcached hres
        rw [if_pos hcached, if_pos hres] at hone
        omega
      · intro hres
        by_contra hcached
        rw [if_neg hcached, if_neg hres] at hone
        omega
    · intro r
      rw [← hcount r]
      show (c.held.cached.toList ++ (c.held.resource.toList ++ c.held.closed)).count r = _
      rw [List.count_append, List.count_append, List.count_append, List.count_append]
      omega

/-- What holds between the requests. -/
structure ResourcesOk (path : List Char → Option (List Char)) (c : Client) : Prop where
  client : ClientOk c
  accounted : Accounted c.held
  own : PlaysOwn path c.held

/-- After the request the resources are in order. -/
def KeepsInOrder (path : List Char → Option (List Char)) (c : Client) (e : Event) : Prop :=
  ∀ c', rtspStep .comparison c e = some c' → InOrder path c'

theorem Takes.step (ht : Takes c e r uri) (hok : ClientOk c) :
    ∃ c', rtspStep .comparison c e = some c' := by
  obtain ⟨c', -, heq, -⟩ : Ends c (setup e.env e.req c) _ := setup_ends hok
  refine ⟨c', rtspStep_eq_some_iff.2 ?_⟩
  unfold handleRequest
  rw [ht.reaches.1, ht.reaches.2]
  exact heq

section run
variable {path : List Char → Option (List Char)}

theorem resourcesOk_step (h : ResourcesOk path c) (hpath : e.env.resourcePath = path)
    (htakes : TakesOwn path c e) (hstep : rtspStep .comparison c e = some c') :
    ResourcesOk path c' := by
  have hm := step_moved h.client hstep
  refine ⟨?_, moved_accounted h.accounted hm, (moved_playsOwn_iff h.own hpath hm).2 htakes⟩
  exact clientOk_step h.client (harmless_of_ok h.client (rtspStep_eq_some_iff.1 hstep)) hstep

theorem keepsInOrder_iff (h : ResourcesOk path c) (hpath : e.env.resourcePath = path) :
    KeepsInOrder path c e ↔ TakesOwn path c e := by
  constructor
  · intro hkeeps r uri ht
    obtain ⟨c', hstep⟩ := ht.step h.client
    have hm := step_moved h.client hstep
    have hown := (inOrder_iff (moved_accounted h.accounted hm)).1 (hkeeps c' hstep)
    exact (moved_playsOwn_iff h.own hpath hm).1 hown r uri ht
  · intro htakes c' hstep
    have h' := resourcesOk_step h hpath htakes hstep
    exact (inOrder_iff h'.accounted).2 h'.own

theorem resourcesOk_new (path : List Char → Option (List Char)) (t : StreamType) :
    ResourcesOk path { defaultStreamType := t } :=
  ⟨clientOk_new t, ⟨.refl _, .nil, nofun⟩, nofun⟩

/-- The URL functions are the same during all requests. -/
theorem each_keepsInOrder_iff {es : List Event} (h : ResourcesOk path c)
    (hpath : ∀ e ∈ es, e.env.resourcePath = path) :
    Run.Each (rtspStep .comparison) (KeepsInOrder path) c es ↔
      Run.Each (rtspStep .comparison) (TakesOwn path) c es := by
  have hurls : Run.Each (rtspStep .comparison) (fun _ e => e.env.resourcePath = path) c es :=
    .of_forall_mem hpath
  have hstep : ∀ c e c', ResourcesOk path c → TakesOwn path c e ∧ e.env.resourcePath = path →
      rtspStep .comparison c e = some c' → ResourcesOk path c' :=
    fun c e c' h ht hs => resourcesOk_step h ht.2 ht.1 hs
  have hiff : ∀ c e, ResourcesOk path c → (KeepsInOrder path c e ∧ e.env.resourcePath = path ↔
      TakesOwn path c e ∧ e.env.resourcePath = path) :=
    fun c e h => and_congr_left fun hp => keepsInOrder_iff h hp
  have hboth : Run.Each (rtspStep .comparison)
      (fun c e => KeepsInOrder path c e ∧ e.env.resourcePath = path) c es ↔ _ :=
    Run.each_iff hstep hiff h
  constructor
  · intro hkeeps
    exact (hboth.1 (hkeeps.and hurls)).mono fun _ _ h => h.1
  · intro htakes
    exact (hboth.2 (htakes.and hurls)).mono fun _ _ h => h.1

/-- **Resources**: along every sequence of requests of a connection, the session plays the resource that
was opened for its URI, each open resource is referenced once and a disconnect closes each of them
once, exactly as long as a SETUP that takes the cached resource asks for the path of that one. -/
theorem resources_in_order_iff (t : StreamType) {es : List Event}
    (hpath : ∀ e ∈ es, e.env.resourcePath = path) :
    Run.Each (rtspStep .comparison) (KeepsInOrder path) { defaultStreamType := t } es ↔
      Run.Each (rtspStep .comparison) (TakesOwn path) { defaultStreamType := t } es :=
  each_keepsInOrder_iff (resourcesOk_new path t) hpath

end run

/-- A server of streams with one track `1`, reached as `rtsp://h/` and their path. -/
def trackEnvironment : Environment :=
  { quietEnvironment with
    urlPath := fun url => some (url.drop 9)
    rOpen := fun path => some ⟨path, 0, false, 0, true, false, [['1']]⟩
    socketsOk := true }

def describeRequest (url : List Char) : Event :=
  ⟨{ method := some .describe, object := url }, trackEnvironment⟩

def setupRequest (url : List Char) : Event :=
  ⟨{ method := some .setup, object := url ++ (trackUriSeparator ++ ['1']),
     transport := some ⟨.tcp, 0, 1⟩ }, trackEnvironment⟩

theorem resources_in_order_describe_setup :
    Run.Each (rtspStep .comparison) (KeepsInOrder trackEnvironment.resourcePath) {}
        [describeRequest "rtsp://h/a".toList, setupRequest "rtsp://h/a".toList] ↔
      Run.Each (rtspStep .comparison) (TakesOwn trackEnvironment.resourcePath) {}
        [describeRequest "rtsp://h/a".toList, setupRequest "rtsp://h/a".toList] := by
  refine resources_in_order_iff .mp2p fun e he => ?_
  rcases List.mem_pair.1 he with rfl | rfl
  · rfl
  · rfl

/-- DESCRIBE of `a` and SETUP of `b`: the session of `b` plays `a`. -/
theorem setup_plays_described : ¬ ∀ es : List Event,
    (∀ e ∈ es, e.env.resourcePath = trackEnvironment.resourcePath) →
      Run.Each (rtspStep .comparison) (KeepsInOrder trackEnvironment.resourcePath) {} es := by
  intro h
  let described : Client := describe trackEnvironment (describeRequest "rtsp://h/a".toList).req {}
  have hpath : ∀ e ∈ [describeRequest "rtsp://h/a".toList, setupRequest "rtsp://h/b".toList],
      e.env.resourcePath = trackEnvironment.resourcePath := by
    intro e he
    rcases List.mem_pair.1 he with rfl | rfl
    · rfl
    · rfl
  have htakes := (each_keepsInOrder_iff (resourcesOk_new _ .mp2p) hpath).1 (h _ hpath)
  have hown := (htakes.2 described rfl).1
  have hwrong := hown ⟨some ['a'], 0, false, 0, true, false, [['1']]⟩ "rtsp://h/b".toList
    ⟨⟨by decide +kernel, rfl⟩,
      ⟨⟨"b/TrackID=1".toList, by decide +kernel⟩, nofun, ⟨_, rfl, by decide +kernel⟩, rfl⟩,
      ⟨by decide +kernel, by decide +kernel, ['1'], by decide +kernel⟩⟩
  exact absurd hwrong (by decide +kernel)

end Rtsp

end StreamSwitch
