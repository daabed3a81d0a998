import StreamSwitch.Lib.Run
import StreamSwitch.Lib.Clock

/-!
# Presentation times of the RTSP source

`PtsSessionNormalizer` of `stsw_pts_normalizer.cc`: the RTCP-synchronised times of
all subsessions are shifted by one adjustment, which is set when a subsession is
made the master. What live555 says of a packet and the wall clock are inputs.

`synchronised_iff`: a run selects masters as the comment in the source says, keeps
the adjustment while the master stays and so keeps all separations, if and only if
no synchronised packet arrives while the master is a subsession that is not video.
The test there asks for a subsession that is *not* video where it means one that is.
-/

namespace StreamSwitch

open Clock

/-- The filter of one subsession; `id` is its address. -/
structure PtsSubsessionNormalizer where
  id : Nat
  mediumName : String
  codecName : String
  lastRtpTimestamp : UInt32 := 0
  presentationTime : Stamp := {}
deriving DecidableEq, Repr

/-- A packet as the RTP source describes it, and the time of day when it is delivered. -/
structure RtpPacket where
  fromPT : Stamp
  hasBeenSynchronizedUsingRTCP : Bool
  curPacketRTPTimestamp : UInt32
  timestampFrequency : Int
  timeOfDay : Stamp
deriving DecidableEq, Repr

structure PtsSessionNormalizer where
  usingLocalTs : Bool
  /-- The list from `fSubsessionNormalizers` on. -/
  subsessionNormalizers : List PtsSubsessionNormalizer := []
  masterSSNormalizer : Option Nat := none
  /-- Not initialised by the constructor. -/
  ptAdjustment : Stamp
  nextId : Nat := 0
deriving DecidableEq, Repr

namespace PtsSessionNormalizer

def createNewPtsSubsessionNormalizer (s : PtsSessionNormalizer) (mediumName codecName : String) :
    PtsSessionNormalizer :=
  { s with
    subsessionNormalizers := ⟨s.nextId, mediumName, codecName, 0, {}⟩ :: s.subsessionNormalizers
    nextId := s.nextId + 1 }

def find (s : PtsSessionNormalizer) (id : Nat) : Option PtsSubsessionNormalizer :=
  s.subsessionNormalizers.find? fun x => x.id = id

/-- Whether `x` is made the master; `none` where the master is no longer there. -/
def selects (s : PtsSessionNormalizer) (x : PtsSubsessionNormalizer) : Option Bool :=
  match s.masterSSNormalizer with
  | none => some true
  | some m => (s.find m).map fun y => y.mediumName ≠ "video" && x.mediumName ≠ "video"

/-- The time that the packet of a new master is aligned to. -/
def timeNow (s : PtsSessionNormalizer) (x : PtsSubsessionNormalizer) (p : RtpPacket) : Stamp :=
  if x.lastRtpTimestamp = 0 then
    match s.masterSSNormalizer with
    | none => p.timeOfDay
    | some _ => s.ptAdjustment.add p.fromPT
  else
    let frequency := if p.timestampFrequency ≤ 0 then 9000 else p.timestampFrequency
    let offset : Int :=
      if p.curPacketRTPTimestamp ≥ x.lastRtpTimestamp then
        (p.curPacketRTPTimestamp - x.lastRtpTimestamp).toNat
      else 0
    ((Stamp.ofRatio offset frequency).add x.presentationTime).carry (million + 1)

/-- The session after the packet, the time of the packet and what is logged. -/
structure Normalized where
  session : PtsSessionNormalizer
  toPT : Stamp
  log : Option String
deriving DecidableEq, Repr

/-- The subsession becomes the master. -/
def select (s : PtsSessionNormalizer) (x : PtsSubsessionNormalizer) (p : RtpPacket) :
    PtsSessionNormalizer × Option String :=
  ({ s with
      masterSSNormalizer := some x.id
      ptAdjustment := (s.timeNow x p).sub p.fromPT },
    some ("Sync with subsession (media_name: " ++ x.mediumName ++ ", codec_name: " ++
      x.codecName ++ ")\n"))

def shift (s : PtsSessionNormalizer) (fromPT : Stamp) : Stamp :=
  Stamp.carry (million + 1)
    ⟨fromPT.sec + s.ptAdjustment.sec - 1, fromPT.usec + s.ptAdjustment.usec + million⟩

def normalizePresentationTime (s : PtsSessionNormalizer) (x : PtsSubsessionNormalizer)
    (p : RtpPacket) : Option Normalized :=
  if s.usingLocalTs then some ⟨s, p.timeOfDay, none⟩
  else if !p.hasBeenSynchronizedUsingRTCP then some ⟨s, p.fromPT, none⟩
  else
    (s.selects x).map fun b =>
      let (s', log) := if b then s.select x p else (s, none)
      let toPT :=
        if p.curPacketRTPTimestamp = x.lastRtpTimestamp then x.presentationTime
        else s'.shift p.fromPT
      ⟨s', toPT, log⟩

/-- `afterGettingFrame` of the subsession `id`. -/
def afterGettingFrame (s : PtsSessionNormalizer) (id : Nat) (p : RtpPacket) : Option Normalized :=
  (s.find id).bind fun x => (s.normalizePresentationTime x p).map fun r =>
    { r with
      session := { r.session with
        subsessionNormalizers := r.session.subsessionNormalizers.map fun y =>
          if y.id = id then
            { y with presentationTime := r.toPT, lastRtpTimestamp := p.curPacketRTPTimestamp }
          else y } }

/-- A subsession that is not in the list is not looked for: the loop would run off its end. -/
def removePresentationTimeSubsessionNormalizer (s : PtsSessionNormalizer) (id : Nat) :
    Option PtsSessionNormalizer :=
  (s.find id).map fun x =>
    { s with
      subsessionNormalizers := s.subsessionNormalizers.erase x
      masterSSNormalizer :=
        if s.masterSSNormalizer = some id then none else s.masterSSNormalizer }

inductive PtsEvent
  | create (mediumName codecName : String)
  | packet (id : Nat) (p : RtpPacket)
  | remove (id : Nat)
deriving DecidableEq, Repr

def ptsStep (s : PtsSessionNormalizer) : PtsEvent → Option PtsSessionNormalizer
  | .create mediumName codecName => some (s.createNewPtsSubsessionNormalizer mediumName codecName)
  | .packet id p => (s.afterGettingFrame id p).map (·.session)
  | .remove id => s.removePresentationTimeSubsessionNormalizer id

/-! ## What is promised -/

/-- The master is a subsession that is not video. -/
def HasOtherMaster (s : PtsSessionNormalizer) : Prop :=
  ∃ m y, s.masterSSNormalizer = some m ∧ s.find m = some y ∧ y.mediumName ≠ "video"

/-- What is promised of a synchronised packet of `x`. -/
structure Normalizes (s : PtsSessionNormalizer) (x : PtsSubsessionNormalizer) (p : RtpPacket)
    (r : Normalized) : Prop where
  /-- A master is selected only where there is none or video takes over. -/
  selected : r.log ≠ none →
    s.masterSSNormalizer = none ∨ (s.HasOtherMaster ∧ x.mediumName = "video")
  takesOver : s.HasOtherMaster → x.mediumName = "video" →
    r.session.masterSSNormalizer = some x.id
  constant : r.session.masterSSNormalizer = s.masterSSNormalizer →
    r.session.ptAdjustment = s.ptAdjustment
  shifted : p.curPacketRTPTimestamp ≠ x.lastRtpTimestamp →
    r.toPT.micros = p.fromPT.micros + r.session.ptAdjustment.micros

/-- Every synchronised packet is normalised, and nothing else changes the adjustment. -/
def KeepsSync (s : PtsSessionNormalizer) : PtsEvent → Prop
  | .packet id p => ∀ x, s.find id = some x → ∃ r, s.afterGettingFrame id p = some r ∧
      if p.hasBeenSynchronizedUsingRTCP then s.Normalizes x p r
      else r.session.ptAdjustment = s.ptAdjustment
  | e => ∀ t, s.ptsStep e = some t → t.ptAdjustment = s.ptAdjustment

/-- The synchronised packet that an event delivers at a new RTP timestamp: the time it came with
and the time it gets. -/
def delivers (s : PtsSessionNormalizer) : PtsEvent → List (Stamp × Stamp)
  | .packet id p =>
    match s.find id, s.afterGettingFrame id p with
    | some x, some r =>
      if p.hasBeenSynchronizedUsingRTCP && p.curPacketRTPTimestamp ≠ x.lastRtpTimestamp then
        [(p.fromPT, r.toPT)]
      else []
    | _, _ => []
  | _ => []

/-- The master after the event is `m`. -/
def MasterIs (m : Nat) (s : PtsSessionNormalizer) (e : PtsEvent) : Prop :=
  ∀ t, s.ptsStep e = some t → t.masterSSNormalizer = some m

/-- In every part of the run in which the master stays the same, two packets of any subsessions
are as far apart after the shift as before. -/
def KeepsSeparations (s : PtsSessionNormalizer) (es : List PtsEvent) : Prop :=
  ∀ before during after t m, es = before ++ during ++ after →
    Run.exec ptsStep s before = some t → Run.Each ptsStep (MasterIs m) t during →
    ∀ d ∈ Run.collect ptsStep delivers t during, ∀ d' ∈ Run.collect ptsStep delivers t during,
      d'.2.micros - d.2.micros = d'.1.micros - d.1.micros

/-- No synchronised packet arrives while the master is not video. -/
def VideoMaster (s : PtsSessionNormalizer) : PtsEvent → Prop
  | .packet id p => (s.find id).isSome → p.hasBeenSynchronizedUsingRTCP = true →
    ¬ s.HasOtherMaster
  | _ => True

/-- What holds between two events. -/
structure PtsInv (s : PtsSessionNormalizer) : Prop where
  notLocal : s.usingLocalTs = false
  fresh : ∀ x ∈ s.subsessionNormalizers, x.id < s.nextId
  nodup : (s.subsessionNormalizers.map (·.id)).Nodup
  master : ∀ m, s.masterSSNormalizer = some m → ∃ y, s.find m = some y

variable {s t : PtsSessionNormalizer} {x : PtsSubsessionNormalizer} {p : RtpPacket}

/-! ## One packet -/

theorem find_id {id : Nat} (h : s.find id = some x) : x.id = id := by
  simpa using List.find?_some h

theorem selects_of_none (h : s.masterSSNormalizer = none) : s.selects x = some true := by
  simp only [selects, h]

theorem selects_of_some {m : Nat} {y : PtsSubsessionNormalizer} (h : s.masterSSNormalizer = some m)
    (hy : s.find m = some y) :
    s.selects x = some (y.mediumName ≠ "video" && x.mediumName ≠ "video") := by
  simp only [selects, h, hy, Option.map_some]

theorem micros_shift (s : PtsSessionNormalizer) (fromPT : Stamp) :
    (s.shift fromPT).micros = fromPT.micros + s.ptAdjustment.micros := by
  rw [shift, Stamp.micros_carry]
  simp only [Stamp.micros]
  ring

/-- A packet changes the master and the adjustment of the session, and the state of its filter. -/
structure Delivered (s : PtsSessionNormalizer) (x : PtsSubsessionNormalizer) (p : RtpPacket)
    (r : Normalized) : Prop where
  usingLocalTs : r.session.usingLocalTs = s.usingLocalTs
  nextId : r.session.nextId = s.nextId
  subsessions : r.session.subsessionNormalizers =
    s.subsessionNormalizers.map fun y =>
      if y.id = x.id then
        { y with presentationTime := r.toPT, lastRtpTimestamp := p.curPacketRTPTimestamp }
      else y
  unsynced : p.hasBeenSynchronizedUsingRTCP = false →
    r.log = none ∧ r.session.masterSSNormalizer = s.masterSSNormalizer ∧
      r.session.ptAdjustment = s.ptAdjustment
  kept : s.selects x = some false → r.log = none ∧
    r.session.masterSSNormalizer = s.masterSSNormalizer ∧
      r.session.ptAdjustment = s.ptAdjustment
  selected : p.hasBeenSynchronizedUsingRTCP = true → s.selects x = some true → r.log ≠ none ∧
    r.session.masterSSNormalizer = some x.id
  shifted : p.hasBeenSynchronizedUsingRTCP = true →
    p.curPacketRTPTimestamp ≠ x.lastRtpTimestamp →
      r.toPT.micros = p.fromPT.micros + r.session.ptAdjustment.micros

theorem normalizePresentationTime_unsynced (hs : s.usingLocalTs = false)
    (hp : p.hasBeenSynchronizedUsingRTCP = false) :
    s.normalizePresentationTime x p = some ⟨s, p.fromPT, none⟩ := by
  unfold normalizePresentationTime
  rw [if_neg (by simp [hs]), if_pos (by simp [hp])]

theorem normalizePresentationTime_synced (hs : s.usingLocalTs = false)
    (hp : p.hasBeenSynchronizedUsingRTCP = true) :
    s.normalizePresentationTime x p = (s.selects x).map fun b =>
      ⟨(if b then s.select x p else (s, none)).1,
        if p.curPacketRTPTimestamp = x.lastRtpTimestamp then x.presentationTime
        else (if b then s.select x p else (s, none)).1.shift p.fromPT,
        (if b then s.select x p else (s, none)).2⟩ := by
  unfold normalizePresentationTime
  rw [if_neg (by simp [hs]), if_neg (by simp [hp])]

/-- The session after a packet, with the filter of the packet updated. -/
theorem afterGettingFrame_eq {id : Nat} (hx : s.find id = some x) {r : Normalized}
    (hr : s.normalizePresentationTime x p = some r) :
    s.afterGettingFrame id p = some { r with
      session := { r.session with
        subsessionNormalizers := r.session.subsessionNormalizers.map fun y =>
          if y.id = x.id then
            { y with presentationTime := r.toPT, lastRtpTimestamp := p.curPacketRTPTimestamp }
          else y } } := by
  rw [find_id hx]
  simp only [afterGettingFrame, hx, Option.bind_some, hr, Option.map_some]

theorem exists_selects (hs : PtsInv s) (x : PtsSubsessionNormalizer) :
    ∃ b, s.selects x = some b := by
  cases hm : s.masterSSNormalizer with
  | none => exact ⟨true, selects_of_none hm⟩
  | some m =>
    obtain ⟨y, hy⟩ := hs.master m hm
    exact ⟨_, selects_of_some hm hy⟩

/-- Every packet of a subsession that is there is delivered. -/
theorem delivered (hs : PtsInv s) {id : Nat} (hx : s.find id = some x) (p : RtpPacket) :
    ∃ r, s.afterGettingFrame id p = some r ∧ s.Delivered x p r := by
  obtain ⟨b, hb⟩ := exists_selects hs x
  cases hp : p.hasBeenSynchronizedUsingRTCP with
  | false =>
    refine ⟨_, afterGettingFrame_eq hx (normalizePresentationTime_unsynced hs.notLocal hp),
      rfl, rfl, rfl, fun _ => ⟨rfl, rfl, rfl⟩, fun _ => ⟨rfl, rfl, rfl⟩, ?_, ?_⟩
    · intro h
      cases h.symm.trans hp
    · intro h
      cases h.symm.trans hp
  | true =>
    have hr := normalizePresentationTime_synced (x := x) hs.notLocal hp
    rw [hb, Option.map_some] at hr
    refine ⟨_, afterGettingFrame_eq hx hr, ?_⟩
    cases b with
    | false =>
      refine ⟨rfl, rfl, rfl, fun h => ?_, fun _ => ⟨rfl, rfl, rfl⟩, fun _ h => ?_, fun _ hne => ?_⟩
      · cases h.symm.trans hp
      · cases h.symm.trans hb
      · rw [if_neg hne]
        exact micros_shift s p.fromPT
    | true =>
      refine ⟨rfl, rfl, rfl, fun h => ?_, fun h => ?_, fun _ _ => ⟨nofun, rfl⟩, fun _ hne => ?_⟩
      · cases h.symm.trans hp
      · cases h.symm.trans hb
      · rw [if_neg hne]
        exact micros_shift _ p.fromPT

/-- A video master stays. -/
theorem selects_false (hs : PtsInv s) (hn : ¬ s.HasOtherMaster) {m : Nat}
    (hm : s.masterSSNormalizer = some m) : s.selects x = some false := by
  obtain ⟨y, hy⟩ := hs.master m hm
  have hname : y.mediumName = "video" := by
    by_contra hname
    exact hn ⟨m, y, hm, hy, hname⟩
  rw [selects_of_some hm hy, hname]
  rfl

/-- A synchronised packet is normalised as promised exactly when it finds no master that is not
video. -/
theorem normalizes_iff (hs : PtsInv s) (hx : s.find x.id = some x) {r : Normalized}
    (hr : s.Delivered x p r) (hp : p.hasBeenSynchronizedUsingRTCP = true) :
    s.Normalizes x p r ↔ ¬ s.HasOtherMaster := by
  constructor
  · rintro h ⟨m, y, hm, hy, hname⟩
    have hsel := selects_of_some (x := x) hm hy
    by_cases hv : x.mediumName = "video"
    · -- the master stays where video should take over
      simp only [hname, hv, ne_eq, not_false_eq_true, decide_true, not_true_eq_false,
        decide_false, Bool.and_false] at hsel
      have hid := (h.takesOver ⟨m, y, hm, hy, hname⟩ hv).symm.trans (hr.kept hsel).2.1
      rw [hm] at hid
      cases hid
      cases hx.symm.trans hy
      exact hname hv
    · -- a subsession that is not video becomes the master
      simp only [hname, hv, ne_eq, not_false_eq_true, decide_true, Bool.and_self] at hsel
      rcases h.selected (hr.selected hp hsel).1 with hn | ⟨-, hx⟩
      · cases hn.symm.trans hm
      · exact hv hx
  · intro hn
    refine ⟨fun hlog => ?_, fun ho => absurd ho hn, fun heq => ?_, hr.shifted hp⟩
    · cases hm : s.masterSSNormalizer with
      | none => exact .inl rfl
      | some m => exact absurd (hr.kept (selects_false hs hn hm)).1 hlog
    · cases hm : s.masterSSNormalizer with
      | none =>
        rw [(hr.selected hp (selects_of_none hm)).2, hm] at heq
        cases heq
      | some m => exact (hr.kept (selects_false hs hn hm)).2.2

/-! ## Runs -/

theorem Delivered.find {r : Normalized} (hr : s.Delivered x p r) {m : Nat}
    {y : PtsSubsessionNormalizer} (hy : s.find m = some y) : ∃ z, r.session.find m = some z := by
  have hex : (r.session.subsessionNormalizers.find? fun z => z.id = m).isSome := by
    rw [List.find?_isSome, hr.subsessions]
    refine ⟨_, List.mem_map.2 ⟨y, List.mem_of_find?_eq_some hy, rfl⟩, ?_⟩
    have hid := find_id hy
    split
    · simpa using hid
    · simpa using hid
  exact Option.isSome_iff_exists.1 hex

theorem ptsInv_packet (hs : PtsInv s) {id : Nat} (hx : s.find id = some x) {r : Normalized}
    (hr : s.Delivered x p r) : PtsInv r.session := by
  have hids : r.session.subsessionNormalizers.map (·.id) =
      s.subsessionNormalizers.map (·.id) := by
    rw [hr.subsessions, List.map_map]
    refine List.map_congr_left fun y _ => ?_
    simp only [Function.comp]
    split <;> rfl
  refine ⟨hr.usingLocalTs.trans hs.notLocal, ?_, hids ▸ hs.nodup, fun m hm => ?_⟩
  · intro y hy
    have hmem : y.id ∈ s.subsessionNormalizers.map (·.id) := hids ▸ List.mem_map_of_mem hy
    obtain ⟨z, hz, hzy⟩ := List.mem_map.1 hmem
    rw [hr.nextId, ← hzy]
    exact hs.fresh z hz
  · -- the master is the one before or the subsession of the packet
    have hmaster : r.session.masterSSNormalizer = s.masterSSNormalizer ∨
        r.session.masterSSNormalizer = some x.id := by
      cases hp : p.hasBeenSynchronizedUsingRTCP with
      | false => exact .inl (hr.unsynced hp).2.1
      | true =>
        obtain ⟨b, hb⟩ := exists_selects hs x
        cases b with
        | false => exact .inl (hr.kept hb).2.1
        | true => exact .inr (hr.selected hp hb).2
    rcases hmaster with h | h
    · obtain ⟨y, hy⟩ := hs.master m (h.symm.trans hm)
      exact hr.find hy
    · cases h.symm.trans hm
      exact hr.find (find_id hx ▸ hx)

theorem ptsInv_create (hs : PtsInv s) (mediumName codecName : String) :
    PtsInv (s.createNewPtsSubsessionNormalizer mediumName codecName) := by
  refine ⟨hs.notLocal, ?_, ?_, fun m hm => ?_⟩
  · intro x hx
    rcases List.mem_cons.1 hx with rfl | hx
    · exact Nat.lt_succ_self _
    · exact Nat.lt_succ_of_lt (hs.fresh x hx)
  · refine List.nodup_cons.2 ⟨fun hmem => ?_, hs.nodup⟩
    obtain ⟨y, hy, hid⟩ := List.mem_map.1 hmem
    exact absurd hid (Nat.ne_of_lt (hs.fresh y hy))
  · obtain ⟨y, hy⟩ := hs.master m hm
    have hlt := hs.fresh y (List.mem_of_find?_eq_some hy)
    rw [find_id hy] at hlt
    refine ⟨y, ?_⟩
    show List.find? _ (_ :: _) = _
    rw [List.find?_cons_of_neg (by simpa using Nat.ne_of_gt hlt)]
    exact hy

theorem ptsInv_remove (hs : PtsInv s) {id : Nat}
    (ht : s.removePresentationTimeSubsessionNormalizer id = some t) : PtsInv t := by
  obtain ⟨x, hx, rfl⟩ := Option.map_eq_some_iff.1 ht
  have hsub := List.erase_sublist (a := x) (l := s.subsessionNormalizers)
  refine ⟨hs.notLocal, fun y hy => hs.fresh y (hsub.subset hy), (hsub.map _).nodup hs.nodup, ?_⟩
  intro m hm
  simp only at hm
  split at hm
  · cases hm
  · next hne =>
    obtain ⟨y, hy⟩ := hs.master m hm
    have hyx : y ≠ x := by
      rintro rfl
      rw [← find_id hx, find_id hy] at hne
      exact hne hm
    have hex : ((s.subsessionNormalizers.erase x).find? fun z => z.id = m).isSome := by
      rw [List.find?_isSome]
      refine ⟨y, (List.mem_erase_of_ne hyx).2 (List.mem_of_find?_eq_some hy), ?_⟩
      simpa using find_id hy
    exact Option.isSome_iff_exists.1 hex

theorem ptsInv_step (hs : PtsInv s) {e : PtsEvent} (ht : s.ptsStep e = some t) : PtsInv t := by
  cases e with
  | create mediumName codecName =>
    cases ht
    exact ptsInv_create hs mediumName codecName
  | packet id p =>
    obtain ⟨r, hr, rfl⟩ := Option.map_eq_some_iff.1 ht
    obtain ⟨x, hx, -⟩ := Option.bind_eq_some_iff.1 hr
    obtain ⟨r', hr', hd⟩ := delivered hs hx p
    cases hr'.symm.trans hr
    exact ptsInv_packet hs hx hd
  | remove id => exact ptsInv_remove hs ht

theorem keepsSync_iff (hs : PtsInv s) (e : PtsEvent) : s.KeepsSync e ↔ s.VideoMaster e := by
  cases e with
  | create mediumName codecName =>
    refine iff_of_true (fun t ht => ?_) trivial
    cases ht
    rfl
  | remove id =>
    refine iff_of_true (fun t ht => ?_) trivial
    obtain ⟨x, -, rfl⟩ := Option.map_eq_some_iff.1 ht
    rfl
  | packet id p =>
    constructor
    · intro h hsome hp
      obtain ⟨x, hx⟩ := Option.isSome_iff_exists.1 hsome
      obtain ⟨r, hr, hn⟩ := h x hx
      obtain ⟨r', hr', hd⟩ := delivered hs hx p
      cases hr'.symm.trans hr
      rw [if_pos hp] at hn
      exact (normalizes_iff hs (find_id hx ▸ hx) hd hp).1 hn
    · intro h x hx
      obtain ⟨r, hr, hd⟩ := delivered hs hx p
      refine ⟨r, hr, ?_⟩
      split
      · next hp =>
        exact (normalizes_iff hs (find_id hx ▸ hx) hd hp).2 (h (hx ▸ rfl) hp)
      · next hp => exact (hd.unsynced (by simpa using hp)).2.2

/-! ## Separations -/

/-- The adjustment stays while the master does. -/
theorem KeepsSync.constant {e : PtsEvent} (h : s.KeepsSync e) (ht : s.ptsStep e = some t)
    (hm : t.masterSSNormalizer = s.masterSSNormalizer) : t.ptAdjustment = s.ptAdjustment := by
  cases e with
  | create mediumName codecName => exact h t ht
  | remove id => exact h t ht
  | packet id p =>
    obtain ⟨r, hr, rfl⟩ := Option.map_eq_some_iff.1 ht
    obtain ⟨x, hx, -⟩ := Option.bind_eq_some_iff.1 hr
    obtain ⟨r', hr', hn⟩ := h x hx
    cases hr'.symm.trans hr
    split at hn
    · exact hn.constant hm
    · exact hn

/-- A packet is delivered with the adjustment that the event leaves. -/
theorem KeepsSync.delivers {e : PtsEvent} (h : s.KeepsSync e) {d : Stamp × Stamp}
    (hd : d ∈ s.delivers e) :
    ∃ t, s.ptsStep e = some t ∧ d.2.micros = d.1.micros + t.ptAdjustment.micros := by
  cases e with
  | create mediumName codecName => cases hd
  | remove id => cases hd
  | packet id p =>
    simp only [PtsSessionNormalizer.delivers] at hd
    split at hd
    · next x r hx hr =>
      obtain ⟨r', hr', hn⟩ := h x hx
      cases hr'.symm.trans hr
      split at hd
      · next hp =>
        simp only [ne_eq, Bool.and_eq_true, decide_eq_true_eq] at hp
        rw [if_pos hp.1] at hn
        cases List.mem_singleton.1 hd
        exact ⟨r.session, by rw [ptsStep, hr]; rfl, hn.shifted hp.2⟩
      · cases hd
    · cases hd

/-- While the master stays, packets are shifted by its adjustment. -/
theorem collect_shifted {m : Nat} {es : List PtsEvent} (hk : Run.Each ptsStep KeepsSync s es)
    (hes : Run.Each ptsStep (MasterIs m) s es) (hm : s.masterSSNormalizer = some m) :
    ∀ d ∈ Run.collect ptsStep delivers s es,
      d.2.micros = d.1.micros + s.ptAdjustment.micros := by
  induction es generalizing s with
  | nil =>
    intro d hd
    cases hd
  | cons e es ih =>
    intro d hd
    have hstay : ∀ t, s.ptsStep e = some t →
        t.masterSSNormalizer = some m ∧ t.ptAdjustment = s.ptAdjustment := fun t ht =>
      ⟨hes.1 t ht, hk.1.constant ht ((hes.1 t ht).trans hm.symm)⟩
    rcases List.mem_append.1 hd with hd | hd
    · obtain ⟨t, ht, hshift⟩ := hk.1.delivers hd
      rw [hshift, (hstay t ht).2]
    · cases ht : s.ptsStep e with
      | none =>
        rw [ht] at hd
        cases hd
      | some t =>
        rw [ht] at hd
        rw [← (hstay t ht).2]
        exact ih (hk.2 t ht) (hes.2 t ht) (hstay t ht).1 d hd

/-- The event before may have made `m` the master. -/
theorem exists_shift {m : Nat} {es : List PtsEvent} (hk : Run.Each ptsStep KeepsSync s es)
    (hes : Run.Each ptsStep (MasterIs m) s es) :
    ∃ a, ∀ d ∈ Run.collect ptsStep delivers s es, d.2.micros = d.1.micros + a := by
  cases es with
  | nil => exact ⟨0, fun d hd => by cases hd⟩
  | cons e es =>
    cases ht : s.ptsStep e with
    | none =>
      refine ⟨0, fun d hd => ?_⟩
      rcases List.mem_append.1 hd with hd | hd
      · obtain ⟨t, ht', -⟩ := hk.1.delivers hd
        cases ht.symm.trans ht'
      · rw [ht] at hd
        cases hd
    | some t =>
      refine ⟨t.ptAdjustment.micros, fun d hd => ?_⟩
      rcases List.mem_append.1 hd with hd | hd
      · obtain ⟨t', ht', hshift⟩ := hk.1.delivers hd
        cases ht.symm.trans ht'
        exact hshift
      · rw [ht] at hd
        exact collect_shifted (hk.2 t ht) (hes.2 t ht) (hes.1 t ht) d hd

theorem keepsSeparations {es : List PtsEvent} (hk : Run.Each ptsStep KeepsSync s es) :
    s.KeepsSeparations es := by
  rintro before during after t m rfl ht hes d hd d' hd'
  have hduring := (hk.append_left).drop ht
  obtain ⟨a, ha⟩ := exists_shift hduring hes
  rw [ha d hd, ha d' hd']
  ring

/-- A new session. -/
def constructed (usingLocalTs : Bool) (ptAdjustment : Stamp) : PtsSessionNormalizer :=
  { usingLocalTs, ptAdjustment }

theorem ptsInv_constructed (ptAdjustment : Stamp) : PtsInv (constructed false ptAdjustment) :=
  ⟨rfl, nofun, List.nodup_nil, nofun⟩

theorem each_keepsSync_iff (hs : PtsInv s) (es : List PtsEvent) :
    Run.Each ptsStep KeepsSync s es ↔ Run.Each ptsStep VideoMaster s es :=
  Run.each_iff (fun _ _ _ hs _ ht => ptsInv_step hs ht) (fun _ e hs => keepsSync_iff hs e) hs

/-- **The subsessions stay synchronised** along a run if and only if every synchronised packet
finds no master or a video one. -/
theorem synchronised_iff (ptAdjustment : Stamp) (es : List PtsEvent) :
    (Run.Each ptsStep KeepsSync (constructed false ptAdjustment) es ∧
      (constructed false ptAdjustment).KeepsSeparations es) ↔
      Run.Each ptsStep VideoMaster (constructed false ptAdjustment) es := by
  have hiff := each_keepsSync_iff (ptsInv_constructed ptAdjustment) es
  constructor
  · exact fun h => hiff.1 h.1
  · exact fun h => ⟨hiff.2 h, keepsSeparations (hiff.2 h)⟩

/-- An audio and a video subsession. -/
def audioVideo (now : Stamp) : List PtsEvent :=
  [.create "audio" "PCMU", .create "video" "H264",
    .packet 0 ⟨⟨100, 0⟩, true, 8000, 8000, now⟩, .packet 1 ⟨⟨100, 500⟩, true, 90000, 90000, now⟩]

/-- The video subsession does not take over from the audio one. -/
theorem audio_master_stays :
    ¬ (Run.Each ptsStep KeepsSync (constructed false {}) (audioVideo ⟨1000, 0⟩) ∧
      (constructed false {}).KeepsSeparations (audioVideo ⟨1000, 0⟩)) := by
  rintro ⟨hk, -⟩
  obtain ⟨-, h⟩ := (each_keepsSync_iff (ptsInv_constructed {}) _).1 hk
  obtain ⟨-, h⟩ := h _ rfl
  obtain ⟨-, h⟩ := h _ rfl
  exact (h _ rfl).1 rfl rfl ⟨0, _, rfl, rfl, by decide⟩

end PtsSessionNormalizer

end StreamSwitch
