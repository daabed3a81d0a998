import StreamSwitch.CString
import StreamSwitch.Defs
import StreamSwitch.RtspPort.StreamUrl
import StreamSwitch.Strtol

/-!
# Opening of resources

`stsw_init` and `stsw_uninit` of `media/demuxer/demuxer_stsw.cc`, `add_track` of `media/demuxer.c`
and `r_open` of `media/resource.c`. Times and rates are rational numbers where the source has
doubles and floats.

`stswInit_iff`: opening is all or nothing exactly if every track that the metadata asks for can be
added. A failed `add_track` leaves `stsw_init` with its return value still zero.
-/

namespace StreamSwitch

namespace Stsw

open Rtsp (strstr)

/-! ## Resources -/

/-- `StreamType` of `media/demuxer.h`. -/
inductive StreamType | raw | ps | mp2p
deriving DecidableEq, Repr

/-- What the sink is connected to. -/
inductive Target
  | localStream (name : List Char)
  | remote (host : List Char) (port : Int)
deriving DecidableEq, Repr

/-- `stsw_priv_type`. Its sink and its listener are freed with it, wherever it is freed. -/
structure StswPriv where
  sink : Target
  listener : List Char
  streamType : StreamType
  initTime : ℚ
deriving DecidableEq, Repr

/-- The private data that was ever allocated; what is freed is `none`. -/
abbrev Heap := List (Option StswPriv)

inductive Fault
  /-- Private data is used or freed that is freed already. -/
  | freed
deriving DecidableEq, Repr

def Heap.free (heap : Heap) (priv : Nat) : Except Fault Heap :=
  match heap[priv]? with
  | some (some _) => .ok (heap.set priv none)
  | _ => .error .freed

inductive MediaType | audio | video
deriving DecidableEq, Repr

inductive MediaSource | stored | live
deriving DecidableEq, Repr

inductive MediaReadModel | pull | push
deriving DecidableEq, Repr

structure TrackInfo where
  id : Int
  name : List Char
deriving DecidableEq, Repr

structure MediaProperties where
  bitRate : ℚ := 0
  payloadType : Nat := 96
  clockRate : Nat := 90000
  encodingName : List Char := []
  mediaType : MediaType := .audio
  mediaSource : MediaSource := .stored
  frameDuration : ℚ := 0
  sampleRate : ℚ := 0
  audioChannels : Nat := 0
  bitPerSample : Nat := 0
  frameRate : ℚ := 0
  extradata : Bytes := []
deriving DecidableEq, Repr

/-- The parsers of `media/mediaparser.c`. -/
inductive MediaParser | h264 | aac | mp4ves | vorbis | theora | amr | pcma | pcmu | mp2p | simple
deriving DecidableEq, Repr

def MediaParser.encodingName : MediaParser → String
  | .h264 => "H264"
  | .aac => "AAC"
  | .mp4ves => "mp4v-es"
  | .vorbis => "vorbis"
  | .theora => "theora"
  | .amr => "amr"
  | .pcma => "pcma"
  | .pcmu => "pcmu"
  | .mp2p => "MP2P"
  | .simple => "simple"

def mediaParsers : List MediaParser :=
  [.h264, .aac, .mp4ves, .vorbis, .theora, .amr, .pcma, .pcmu, .mp2p]

def mparserFind (encodingName : List Char) : MediaParser :=
  (mediaParsers.find? fun parser =>
    encodingName.map Char.toLower = parser.encodingName.toList.map Char.toLower).getD .simple

structure Track where
  info : TrackInfo
  properties : MediaProperties
  parser : MediaParser
deriving DecidableEq, Repr

inductive Timescaler | stswTimescaler
deriving DecidableEq, Repr

/-- A `Resource` with its `ResourceInfo`; without a duration it is endless. -/
structure Resource where
  mrl : List Char
  name : List Char
  seekable : Bool := true
  duration : Option ℚ := some 0
  mediaSource : MediaSource := .stored
  model : MediaReadModel := .pull
  timescaler : Option Timescaler := none
  tracks : List Track := []
  numTracks : Nat := 0
  privateData : Option Nat := none
deriving DecidableEq, Repr

def maxTracks : Nat := 20

/-- What the system, the library and the parsers answer. -/
structure Environment where
  defaultStreamType : StreamType
  /-- `InitRemote` and `InitLocal`. -/
  initSink : Target → Int
  /-- `UpdateStreamMetaData`. -/
  updateStreamMetaData : Int × StreamMetadata
  /-- The `init` of a parser, for the private data of the resource and a new track. -/
  parserInit : MediaParser → Option StswPriv → TrackInfo → MediaProperties → Int
  /-- `ev_now`. -/
  now : ℚ

/-! ## The code -/

/-- `add_track`: the resource with the new track, and the track. What `init` writes into the track is
left aside. -/
def addTrack (env : Environment) (heap : Heap) (r : Resource) (info : TrackInfo)
    (props : MediaProperties) : Option (Resource × Track) :=
  if r.numTracks ≥ maxTracks then none
  else
    let parser := mparserFind props.encodingName
    let priv := r.privateData.bind fun p => heap[p]?.join
    if env.parserInit parser priv info props ≠ 0 then none
    else
      let track : Track := ⟨info, props, parser⟩
      some ({ r with tracks := r.tracks ++ [track], numTracks := r.numTracks + 1 }, track)

/-- The body of the loop of `stsw_init` for a stream that is muxed. -/
def muxSubStream (videoAvailable : Int) (props : MediaProperties) (sub : SubStreamMetadata) :
    Int × MediaProperties :=
  match sub.mediaType with
  | .video =>
    let fps : ℚ := sub.mediaParam.video.fps.toNat
    let props := { props with bitRate := 0, frameRate := fps }
    (sub.subStreamIndex.toInt, if fps = 0 then props else { props with frameDuration := 1 / fps })
  | _ => (videoAvailable, props)

/-- What `add_track` gets for a stream that is muxed, unless there is no video. -/
def muxTrack (source : MediaSource) (subs : List SubStreamMetadata) :
    Option (TrackInfo × MediaProperties) :=
  let props : MediaProperties :=
    { mediaSource := source, encodingName := "MP2P".toList, mediaType := .video }
  let (videoAvailable, props) :=
    subs.foldl (fun acc sub => muxSubStream acc.1 acc.2 sub) (-1, props)
  if videoAvailable = -1 then none else some (⟨0, "0".toList⟩, props)

/-- What `add_track` gets for a sub-stream that is sent as it is. -/
def rawTrack (source : MediaSource) (pt : Nat) (sub : SubStreamMetadata) :
    Option (TrackInfo × MediaProperties) :=
  let info : TrackInfo :=
    { id := sub.subStreamIndex.toInt, name := decimal sub.subStreamIndex.toInt }
  let props : MediaProperties :=
    { payloadType := pt
      encodingName := (cStr sub.codecName.toList).take 10
      mediaSource := source
      extradata := sub.extraData }
  match sub.mediaType with
  | .audio =>
    let audio := sub.mediaParam.audio
    let rate := audio.samplesPerSecond.toNat
    some (info, { props with
      mediaType := .audio
      audioChannels := audio.channels.toNat
      sampleRate := rate
      frameDuration := if rate = 0 then 0 else audio.sampelePerFrame.toNat * (1 / rate)
      bitPerSample := audio.bitsPerSample.toNat
      bitRate := audio.bitsPerSample.toNat * rate
      clockRate := if rate = 0 then 90000 else rate })
  | .video =>
    let fps : ℚ := sub.mediaParam.video.fps.toNat
    some (info, { props with
      mediaType := .video
      frameRate := fps
      frameDuration := if fps = 0 then 0 else 1 / fps })
  | _ => none

/-- The loop of `stsw_init` for sub-streams that are sent as they are: the resource and the last
track, or the resource as a failed `add_track` leaves it. -/
def addRawTracks (env : Environment) (heap : Heap) (r : Resource) (track : Option Track) (pt : Nat) :
    List SubStreamMetadata → Except Resource (Resource × Option Track)
  | [] => .ok (r, track)
  | sub :: subs =>
    match rawTrack r.mediaSource pt sub with
    | none => addRawTracks env heap r track (pt + 1) subs
    | some (info, props) =>
      match addTrack env heap r info props with
      | none => .error r
      | some (r, track) => addRawTracks env heap r (some track) (pt + 1) subs

/-- The tracks of a stream; one that is muxed gets the private data before its track. -/
def addTracks (env : Environment) (heap : Heap) (priv : Nat) (streamType : StreamType) (r : Resource)
    (subs : List SubStreamMetadata) : Except Resource (Resource × Option Track) :=
  if streamType ≠ .raw then
    match muxTrack r.mediaSource subs with
    | none => .ok (r, none)
    | some (info, props) =>
      let r := { r with privateData := some priv }
      match addTrack env heap r info props with
      | none => .error r
      | some (r, track) => .ok (r, some track)
  else addRawTracks env heap r none 96 subs

/-- `error_1` of `stsw_init`. -/
def initFailed (heap : Heap) (priv : Nat) (r : Resource) (ret : Int) :
    Except Fault (Int × Resource × Heap) := do
  let heap ← heap.free priv
  return (ret, r, heap)

def streamTypeOf (env : Environment) (params : UrlParamMap) : StreamType :=
  match params "stream_type".toList with
  | some value =>
    if value = "raw".toList then .raw
    else if value = "mp2p".toList then .mp2p
    else env.defaultStreamType
  | none => env.defaultStreamType

def targetOf (name : List Char) (params : UrlParamMap) : Target :=
  match params "host".toList with
  | some host => .remote host (atoi ((params "port".toList).getD []))
  | none => .localStream name

/-- The resource of a live stream. -/
def Resource.live (r : Resource) : Resource :=
  { r with model := .push, seekable := false, duration := none, mediaSource := .live }

/-- `stsw_init` from the new private data on. -/
def stswConnect (env : Environment) (priv : Nat) (data : StswPriv) (heap : Heap) (r : Resource) :
    Except Fault (Int × Resource × Heap) :=
  if env.initSink data.sink ≠ 0 then initFailed heap priv r resourceDamaged
  else if env.updateStreamMetaData.1 ≠ 0 then initFailed heap priv r resourceDamaged
  else if env.updateStreamMetaData.2.playType = .replay then
    initFailed heap priv r resourceDamaged
  else
    match addTracks env heap priv data.streamType r.live env.updateStreamMetaData.2.subStreams with
    -- The return value is still the one of `UpdateStreamMetaData`.
    | .error r => initFailed heap priv r env.updateStreamMetaData.1
    | .ok (r, none) => initFailed heap priv r resourceDamaged
    | .ok (r, some _) =>
      .ok (resourceOk, { r with timescaler := some .stswTimescaler, privateData := some priv },
        heap.set priv (some { data with initTime := env.now }))

def stswInit (env : Environment) (heap : Heap) (r : Resource) :
    Except Fault (Int × Resource × Heap) :=
  match stswUrlParse (some r.mrl) with
  | .error ret => .ok (ret, r, heap)
  | .ok (name, params) =>
    let data : StswPriv := ⟨targetOf name params, name, streamTypeOf env params, -1⟩
    stswConnect env heap.length data (heap ++ [some data]) r

def stswUninit (heap : Heap) (r : Resource) : Except Fault Heap :=
  match r.privateData with
  | some priv => heap.free priv
  | none => .ok heap

def stswProbe (filename : List Char) : Int :=
  if (strstr streamMark filename).isSome then resourceOk else resourceNotFound

/-- `r_free_cb`. -/
def rFree (heap : Heap) (r : Resource) : Except Fault Heap := stswUninit heap r

/-- `r_open`. There is one demuxer, and every search of `r_find_demuxer` asks its `probe`. -/
def rOpen (env : Environment) (heap : Heap) (documentRoot innerPath : List Char) :
    Except Fault (Option Resource × Heap) :=
  let mrl := documentRoot ++ '/' :: innerPath
  if stswProbe mrl ≠ resourceOk then .ok (none, heap)
  else do
    let (ret, r, heap) ← stswInit env heap { mrl := mrl, name := innerPath }
    if ret ≠ 0 then
      let heap ← rFree heap r
      return (none, heap)
    else return (some r, heap)

/-! ## Tracks -/

variable {env : Environment} {heap heap' : Heap} {r r' : Resource} {t track : Option Track}
  {subs : List SubStreamMetadata} {pt priv : Nat} {streamType : StreamType}

/-- The tracks that the metadata of a live stream asks for. -/
def rawTracks (pt : Nat) (subs : List SubStreamMetadata) : List (TrackInfo × MediaProperties) :=
  (subs.zipIdx pt).filterMap fun sub => rawTrack .live sub.2 sub.1

def wantedTracks (streamType : StreamType) (subs : List SubStreamMetadata) :
    List (TrackInfo × MediaProperties) :=
  if streamType ≠ .raw then (muxTrack .live subs).toList else rawTracks 96 subs

/-- The parser of a track starts. -/
def Starts (env : Environment) (priv : Option StswPriv) (wanted : TrackInfo × MediaProperties) :
    Prop :=
  env.parserInit (mparserFind wanted.2.encodingName) priv wanted.1 wanted.2 = 0

/-- There is room for the tracks, and their parsers start. -/
structure CanAdd (env : Environment) (priv : Option StswPriv) (numTracks : Nat)
    (wanted : List (TrackInfo × MediaProperties)) : Prop where
  room : numTracks + wanted.length ≤ maxTracks
  starts : ∀ w ∈ wanted, Starts env priv w

/-- `r'` is `r` with more tracks. -/
structure Grown (r r' : Resource) (n : Nat) : Prop where
  privateData : r'.privateData = r.privateData
  mediaSource : r'.mediaSource = r.mediaSource
  numTracks : r'.numTracks = r.numTracks + n
  tracks : r'.tracks.length = r.tracks.length + n

/-- The private data that the parsers of a resource see. -/
def Resource.priv? (r : Resource) (heap : Heap) : Option StswPriv :=
  r.privateData.bind fun p => heap[p]?.join

theorem Grown.refl (r : Resource) : Grown r r 0 := ⟨rfl, rfl, rfl, rfl⟩

theorem Grown.priv? {n : Nat} (h : Grown r r' n) : r'.priv? heap = r.priv? heap := by
  unfold Resource.priv?
  rw [h.privateData]

theorem Grown.trans {r'' : Resource} {m n : Nat} (h : Grown r r' m) (h' : Grown r' r'' n) :
    Grown r r'' (m + n) where
  privateData := h'.privateData.trans h.privateData
  mediaSource := h'.mediaSource.trans h.mediaSource
  numTracks := by rw [h'.numTracks, h.numTracks, Nat.add_assoc]
  tracks := by rw [h'.tracks, h.tracks, Nat.add_assoc]

theorem addTrack_some {info : TrackInfo} {props : MediaProperties} {u : Track}
    (h : addTrack env heap r info props = some (r', u)) :
    r.numTracks < maxTracks ∧ Starts env (r.priv? heap) (info, props) ∧ Grown r r' 1 := by
  unfold addTrack at h
  split at h
  · cases h
  · rename_i hroom
    dsimp only at h
    split at h
    · cases h
    · rename_i hstarts
      cases h
      refine ⟨Nat.lt_of_not_le hroom, not_not.1 hstarts, ⟨rfl, rfl, rfl, ?_⟩⟩
      exact List.length_append

theorem addTrack_none {info : TrackInfo} {props : MediaProperties}
    (h : addTrack env heap r info props = none) :
    ¬ CanAdd env (r.priv? heap) r.numTracks [(info, props)] := by
  intro hcan
  unfold addTrack at h
  split at h
  · rename_i hfull
    exact absurd hcan.room (Nat.not_le.2 (Nat.lt_succ_of_le hfull))
  · dsimp only at h
    split at h
    · rename_i hstarts
      exact hstarts (hcan.starts _ (List.mem_singleton_self _))
    · cases h

theorem rawTracks_cons (sub : SubStreamMetadata) :
    rawTracks pt (sub :: subs) = (rawTrack .live pt sub).toList ++ rawTracks (pt + 1) subs := by
  unfold rawTracks
  rw [List.zipIdx_cons, List.filterMap_cons]
  cases rawTrack .live pt sub <;> rfl

theorem CanAdd.append {data : Option StswPriv} {n : Nat} {v w : List (TrackInfo × MediaProperties)}
    (h : CanAdd env data n (v ++ w)) : CanAdd env data n v ∧ CanAdd env data (n + v.length) w := by
  have hroom := h.room
  rw [List.length_append] at hroom
  constructor
  · exact ⟨by omega, fun x hx => h.starts x (List.mem_append_left w hx)⟩
  · exact ⟨by omega, fun x hx => h.starts x (List.mem_append_right v hx)⟩

theorem CanAdd.cons {data : Option StswPriv} {n : Nat} {w : TrackInfo × MediaProperties}
    {ws : List (TrackInfo × MediaProperties)} (h : CanAdd env data (n + 1) ws)
    (hw : Starts env data w) : CanAdd env data n (w :: ws) where
  room := by
    have := h.room
    rw [List.length_cons]
    omega
  starts := List.forall_mem_cons.2 ⟨hw, h.starts⟩

theorem addRawTracks_ok (hlive : r.mediaSource = .live) (hroom : r.numTracks ≤ maxTracks)
    (h : addRawTracks env heap r track pt subs = .ok (r', t)) :
    CanAdd env (r.priv? heap) r.numTracks (rawTracks pt subs) ∧
      Grown r r' (rawTracks pt subs).length ∧
      (t = none ↔ track = none ∧ rawTracks pt subs = []) := by
  induction subs generalizing r track pt with
  | nil =>
    cases h
    exact ⟨⟨hroom, fun w hw => by cases hw⟩, .refl _, ⟨fun ht => ⟨ht, rfl⟩, fun ht => ht.1⟩⟩
  | cons sub subs ih =>
    rw [rawTracks_cons]
    unfold addRawTracks at h
    rw [hlive] at h
    cases hraw : rawTrack .live pt sub with
    | none =>
      rw [hraw] at h
      exact ih hlive hroom h
    | some wanted =>
      obtain ⟨info, props⟩ := wanted
      rw [hraw] at h
      dsimp only at h
      cases hadd : addTrack env heap r info props with
      | none =>
        rw [hadd] at h
        cases h
      | some added =>
        obtain ⟨r₁, u⟩ := added
        rw [hadd] at h
        dsimp only at h
        obtain ⟨hlt, hstarts, hgrown⟩ := addTrack_some hadd
        have hroom₁ : r₁.numTracks ≤ maxTracks := hgrown.numTracks.trans_le hlt
        obtain ⟨hcan, hrest, ht⟩ := ih (hgrown.mediaSource.trans hlive) hroom₁ h
        rw [hgrown.priv?, hgrown.numTracks] at hcan
        refine ⟨hcan.cons hstarts, ?_, ?_⟩
        · have := hgrown.trans hrest
          rwa [Nat.add_comm] at this
        · rw [ht]
          exact ⟨fun hn => absurd hn.1 (Option.some_ne_none u), fun hn => absurd hn.2 (List.cons_ne_nil _ _)⟩

theorem addRawTracks_error (hlive : r.mediaSource = .live)
    (h : addRawTracks env heap r track pt subs = .error r') :
    ¬ CanAdd env (r.priv? heap) r.numTracks (rawTracks pt subs) ∧
      r'.privateData = r.privateData := by
  induction subs generalizing r track pt with
  | nil => cases h
  | cons sub subs ih =>
    rw [rawTracks_cons]
    unfold addRawTracks at h
    rw [hlive] at h
    cases hraw : rawTrack .live pt sub with
    | none =>
      rw [hraw] at h
      exact ih hlive h
    | some wanted =>
      obtain ⟨info, props⟩ := wanted
      rw [hraw] at h
      dsimp only at h
      cases hadd : addTrack env heap r info props with
      | none =>
        rw [hadd] at h
        cases h
        exact ⟨fun hcan => addTrack_none hadd hcan.append.1, rfl⟩
      | some added =>
        obtain ⟨r₁, u⟩ := added
        rw [hadd] at h
        dsimp only at h
        obtain ⟨-, -, hgrown⟩ := addTrack_some hadd
        obtain ⟨hnot, hpriv⟩ := ih (hgrown.mediaSource.trans hlive) h
        refine ⟨fun hcan => hnot ?_, hpriv.trans hgrown.privateData⟩
        rw [hgrown.priv?, hgrown.numTracks]
        exact hcan.append.2

/-- What the tracks of a stream do to a resource without tracks, whose private data is `priv` if it
is muxed. -/
theorem addTracks_ok (hlive : r.mediaSource = .live) (hnum : r.numTracks = 0)
    (h : addTracks env heap priv streamType r subs = .ok (r', t)) :
    CanAdd env (if streamType ≠ .raw then heap[priv]?.join else r.priv? heap) 0
        (wantedTracks streamType subs) ∧
      (t = none → r'.privateData = r.privateData) ∧ (t ≠ none → r'.tracks ≠ []) := by
  unfold addTracks at h
  unfold wantedTracks
  split at h
  · rename_i hmux
    rw [if_pos hmux, if_pos hmux]
    rw [hlive] at h
    cases hwanted : muxTrack .live subs with
    | none =>
      rw [hwanted] at h
      cases h
      exact ⟨⟨Nat.zero_le _, fun w hw => by cases hw⟩, fun _ => rfl, fun hn => absurd rfl hn⟩
    | some wanted =>
      obtain ⟨info, props⟩ := wanted
      rw [hwanted] at h
      dsimp only at h
      split at h
      · cases h
      · rename_i r₁ u hadd
        cases h
        obtain ⟨-, hstarts, hgrown⟩ := addTrack_some hadd
        have hnone : CanAdd env (heap[priv]?.join) 1 [] := ⟨by decide, fun w hw => by cases hw⟩
        refine ⟨hnone.cons hstarts, fun hn => absurd hn (Option.some_ne_none u), fun _ hnil => ?_⟩
        have hlen := hgrown.tracks
        rw [hnil] at hlen
        cases hlen
  · rename_i hraw
    rw [if_neg hraw, if_neg hraw]
    obtain ⟨hcan, hgrown, ht⟩ := addRawTracks_ok hlive (hnum.trans_le (Nat.zero_le _)) h
    rw [hnum] at hcan
    refine ⟨hcan, fun _ => hgrown.privateData, fun hsome hnil => hsome (ht.2 ⟨rfl, ?_⟩)⟩
    have hlen := hgrown.tracks
    rw [hnil, List.length_nil] at hlen
    exact List.length_eq_zero_iff.1 (Nat.eq_zero_of_add_eq_zero_left hlen.symm)

theorem addTracks_error (hlive : r.mediaSource = .live) (hnum : r.numTracks = 0)
    (h : addTracks env heap priv streamType r subs = .error r') :
    ¬ CanAdd env (if streamType ≠ .raw then heap[priv]?.join else r.priv? heap) 0
        (wantedTracks streamType subs) ∧
      (r'.privateData = r.privateData ∨ r'.privateData = some priv) := by
  unfold addTracks at h
  unfold wantedTracks
  split at h
  · rename_i hmux
    rw [if_pos hmux, if_pos hmux]
    rw [hlive] at h
    cases hwanted : muxTrack .live subs with
    | none =>
      rw [hwanted] at h
      cases h
    | some wanted =>
      obtain ⟨info, props⟩ := wanted
      rw [hwanted] at h
      dsimp only at h
      split at h
      · rename_i hadd
        cases h
        have hnot := addTrack_none hadd
        rw [show ({ r with privateData := some priv } : Resource).numTracks = 0 from hnum] at hnot
        exact ⟨hnot, .inr rfl⟩
      · cases h
  · rename_i hraw
    rw [if_neg hraw, if_neg hraw]
    obtain ⟨hnot, hpriv⟩ := addRawTracks_error hlive h
    rw [hnum] at hnot
    exact ⟨hnot, .inl hpriv⟩

/-! ## Opening -/

/-- The resource is open: its private data is there, its timescaler is set and it has a track. -/
structure Opened (heap : Heap) (r : Resource) : Prop where
  live : ∃ priv data, r.privateData = some priv ∧ heap[priv]? = some (some data)
  timescaler : r.timescaler = some .stswTimescaler
  tracks : r.tracks ≠ []

/-- `stsw_init` opens the resource or leaves it without private data. -/
def AllOrNothing (env : Environment) (heap : Heap) (r : Resource) : Prop :=
  ∃ ret r' heap', stswInit env heap r = .ok (ret, r', heap') ∧
    (ret = resourceOk ↔ Opened heap' r') ∧ (ret ≠ resourceOk → r'.privateData = none)

/-- The private data as `stsw_init` makes it. -/
def newPriv (env : Environment) (name : List Char) (params : UrlParamMap) : StswPriv :=
  ⟨targetOf name params, name, streamTypeOf env params, -1⟩

/-- If the stream is connected and live, then its tracks can be added. -/
def StreamFits (env : Environment) (data : StswPriv) : Prop :=
  env.initSink data.sink = 0 → env.updateStreamMetaData.1 = 0 →
    env.updateStreamMetaData.2.playType ≠ .replay →
    CanAdd env (if data.streamType ≠ .raw then some data else none) 0
      (wantedTracks data.streamType env.updateStreamMetaData.2.subStreams)

def TracksFit (env : Environment) (mrl : List Char) : Prop :=
  ∀ name params, stswUrlParse (some mrl) = .ok (name, params) → StreamFits env (newPriv env name params)

/-- The resource that `r_open` gives to the demuxer. -/
def newResource (mrl name : List Char) : Resource := { mrl := mrl, name := name }

theorem stswUrlParse_error {mrl : Option (List Char)} {ret : Int}
    (h : stswUrlParse mrl = .error ret) : ret = resourceNotFound := by
  unfold stswUrlParse at h
  split at h
  · cases h; rfl
  · split at h
    · cases h; rfl
    · split at h <;> cases h

theorem initFailed_new (heap : Heap) (data : StswPriv) (r : Resource) (ret : Int) :
    initFailed (heap ++ [some data]) heap.length r ret = .ok (ret, r, heap ++ [none]) := by
  unfold initFailed Heap.free
  rw [List.getElem?_concat_length, List.set_append_right _ _ le_rfl, Nat.sub_self]
  rfl

/-- What `stsw_init` does, if `fit` says that the tracks can be added. -/
inductive InitResult (fit : Prop) : Int → Resource → Heap → Prop
  | failed {ret : Int} {r : Resource} {heap : Heap} (hret : ret ≠ resourceOk)
      (hpriv : r.privateData = none) (hfit : fit) : InitResult fit ret r heap
  | opened {r : Resource} {heap : Heap} (hopened : Opened heap r) (hfit : fit) :
      InitResult fit resourceOk r heap
  /-- A track could not be added. -/
  | halfway {r : Resource} {heap : Heap} (hopened : ¬ Opened heap r) (hfit : ¬ fit) :
      InitResult fit resourceOk r heap

theorem stswConnect_result (env : Environment) (heap : Heap) (data : StswPriv) (mrl name : List Char) :
    ∃ ret r heap', stswConnect env heap.length data (heap ++ [some data]) (newResource mrl name) =
      .ok (ret, r, heap') ∧ InitResult (StreamFits env data) ret r heap' := by
  unfold stswConnect
  simp only [initFailed_new]
  have hdamaged : resourceDamaged ≠ resourceOk := by decide
  have hdata : (heap ++ [some data])[heap.length]?.join = some data := by
    rw [List.getElem?_concat_length]
    rfl
  by_cases hsink : env.initSink data.sink = 0
  case neg =>
    rw [if_pos hsink]
    exact ⟨_, _, _, rfl, .failed hdamaged rfl fun h => absurd h hsink⟩
  rw [if_neg (not_not.2 hsink)]
  by_cases hmeta : env.updateStreamMetaData.1 = 0
  case neg =>
    rw [if_pos hmeta]
    exact ⟨_, _, _, rfl, .failed hdamaged rfl fun _ h => absurd h hmeta⟩
  rw [if_neg (not_not.2 hmeta)]
  by_cases hreplay : env.updateStreamMetaData.2.playType = .replay
  case pos =>
    rw [if_pos hreplay]
    exact ⟨_, _, _, rfl, .failed hdamaged rfl fun _ _ h => absurd hreplay h⟩
  rw [if_neg hreplay]
  cases hadd : addTracks env (heap ++ [some data]) heap.length data.streamType
      (newResource mrl name).live env.updateStreamMetaData.2.subStreams with
  | error r =>
    obtain ⟨hnot, hpriv⟩ := addTracks_error rfl rfl hadd
    rw [hdata] at hnot
    refine ⟨_, _, _, rfl, hmeta ▸ .halfway ?_ fun hfit => hnot (hfit hsink hmeta hreplay)⟩
    intro hopened
    obtain ⟨priv, data', hsome, hlive⟩ := hopened.live
    rcases hpriv with hnone | hown
    · cases hsome.symm.trans hnone
    · cases hsome.symm.trans hown
      rw [List.getElem?_concat_length] at hlive
      cases hlive
  | ok added =>
    obtain ⟨r, track⟩ := added
    obtain ⟨hcan, hnone, hsome⟩ := addTracks_ok rfl rfl hadd
    rw [hdata] at hcan
    cases track with
    | none => exact ⟨_, _, _, rfl, .failed hdamaged (hnone rfl) fun _ _ _ => hcan⟩
    | some track =>
      refine ⟨_, _, _, rfl, .opened ⟨⟨heap.length, { data with initTime := env.now }, rfl, ?_⟩, rfl,
        hsome (Option.some_ne_none track)⟩ fun _ _ _ => hcan⟩
      rw [List.getElem?_set_self]
      rw [List.length_append]
      exact Nat.lt_succ_self _

theorem stswInit_result (env : Environment) (heap : Heap) (mrl name : List Char) :
    ∃ ret r heap', stswInit env heap (newResource mrl name) = .ok (ret, r, heap') ∧
      InitResult (TracksFit env mrl) ret r heap' := by
  unfold stswInit
  rw [show (newResource mrl name).mrl = mrl from rfl]
  cases hparse : stswUrlParse (some mrl) with
  | error ret =>
    refine ⟨ret, _, _, rfl, .failed ?_ rfl ?_⟩
    · rw [stswUrlParse_error hparse]
      decide
    · intro name params hok
      cases hparse.symm.trans hok
  | ok found =>
    obtain ⟨stream, params⟩ := found
    have hfit : TracksFit env mrl = StreamFits env (newPriv env stream params) := by
      refine propext ⟨fun h => h stream params hparse, fun h name params' hok => ?_⟩
      cases hparse.symm.trans hok
      exact h
    rw [hfit]
    exact stswConnect_result env heap (newPriv env stream params) mrl name

/-- Without private data, what `r_open` does after a failed `stsw_init` touches none. -/
theorem rOpen_ok (env : Environment) (heap : Heap) (documentRoot innerPath : List Char) :
    ∃ out, rOpen env heap documentRoot innerPath = .ok out := by
  unfold rOpen
  dsimp only
  split
  · exact ⟨_, rfl⟩
  obtain ⟨ret, r, heap', hinit, hresult⟩ :=
    stswInit_result env heap (documentRoot ++ '/' :: innerPath) innerPath
  change ∃ out, (stswInit env heap (newResource _ innerPath) >>= _) = .ok out
  rw [hinit]
  cases hresult with
  | failed hret hpriv hfit =>
    refine ⟨(none, heap'), ?_⟩
    change (if ret ≠ 0 then (rFree heap' r >>= fun heap => pure (none, heap)) else _) = _
    rw [if_pos (show ret ≠ 0 from hret)]
    unfold rFree stswUninit
    rw [hpriv]
    rfl
  | opened hopened hfit => exact ⟨(some r, heap'), rfl⟩
  | halfway hopened hfit => exact ⟨(some r, heap'), rfl⟩

/-- Opening is all or nothing, and `r_open` uses no freed private data, if and only if every track
that the stream asks for can be added. -/
theorem stswInit_iff (env : Environment) (heap : Heap) (documentRoot innerPath : List Char) :
    (AllOrNothing env heap (newResource (documentRoot ++ '/' :: innerPath) innerPath) ∧
      ∃ out, rOpen env heap documentRoot innerPath = .ok out) ↔
    TracksFit env (documentRoot ++ '/' :: innerPath) := by
  generalize hmrl : documentRoot ++ '/' :: innerPath = mrl
  obtain ⟨ret, r, heap', hinit, hresult⟩ := stswInit_result env heap mrl innerPath
  have hall : AllOrNothing env heap (newResource mrl innerPath) ↔
      (ret = resourceOk ↔ Opened heap' r) ∧ (ret ≠ resourceOk → r.privateData = none) := by
    constructor
    · rintro ⟨ret₁, r₁, heap₁, hinit₁, h⟩
      cases hinit.symm.trans hinit₁
      exact h
    · exact fun h => ⟨ret, r, heap', hinit, h⟩
  rw [and_iff_left (rOpen_ok env heap documentRoot innerPath), hall]
  cases hresult with
  | failed hret hpriv hfit =>
    refine ⟨fun _ => hfit, fun _ => ⟨⟨fun h => absurd h hret, fun h => ?_⟩, fun _ => hpriv⟩⟩
    obtain ⟨priv, data, hsome, -⟩ := h.live
    cases hpriv.symm.trans hsome
  | opened hopened hfit =>
    exact ⟨fun _ => hfit, fun _ => ⟨⟨fun _ => hopened, fun _ => rfl⟩, fun h => absurd rfl h⟩⟩
  | halfway hopened hfit =>
    exact ⟨fun h => absurd (h.1.1 rfl) hopened, fun h => absurd h hfit⟩

/-- A stream with one H.264 sub-stream whose extra data begins as `avcC` does, which the parser
refuses. -/
def avcStream : Environment where
  defaultStreamType := .raw
  initSink := fun _ => 0
  updateStreamMetaData := (0, { subStreams := [{ codecName := "H264", extraData := [1, 66, 0, 30] }] })
  parserInit := fun parser _ _ props => if parser = .h264 ∧ props.extradata.head? = some 1 then -7 else 0
  now := 0

theorem avcStream_not_allOrNothing :
    ¬ (AllOrNothing avcStream [] (newResource ("stsw".toList ++ '/' :: "stream/cam".toList)
        "stream/cam".toList) ∧
      ∃ out, rOpen avcStream [] "stsw".toList "stream/cam".toList = .ok out) := by
  rintro ⟨⟨ret, r, heap', hinit, hiff, -⟩, -⟩
  have hrun : stswInit avcStream [] (newResource ("stsw".toList ++ '/' :: "stream/cam".toList)
      "stream/cam".toList) = .ok (resourceOk, (newResource ("stsw".toList ++ '/' ::
        "stream/cam".toList) "stream/cam".toList).live, [none]) := by
    decide +kernel
  cases hrun.symm.trans hinit
  obtain ⟨priv, data, hsome, -⟩ := (hiff.1 rfl).live
  cases hsome

end Stsw

end StreamSwitch
