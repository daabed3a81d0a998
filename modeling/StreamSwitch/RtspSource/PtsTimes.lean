import StreamSwitch.RtspSource.Pts
import Mathlib.Tactic.LinearCombination
import Mathlib.Algebra.Order.Group.Unbundled.Abs

/-!
# The presentation times that the normaliser stores

Both loops of `normalizePresentationTime` go on while the microseconds are *more* than a
second, so a packet that is due at a whole second gets 1000000 of them: `storesValid_iff`.
A subsession that becomes the master again goes on from its last packet. The distance is
taken on the RTP timestamps as numbers, with none where they go back, and the timestamp 0
stands for no packet: `continues_iff`.
-/

namespace StreamSwitch

open Clock

namespace PtsSessionNormalizer

/-- The times of the packet are those of a system call. -/
def PtsEvent.WellFormed : PtsEvent → Prop
  | .packet _ p => p.fromPT.Valid ∧ p.timeOfDay.Valid
  | _ => True

/-! ## What is promised -/

/-- The time that an event stores; the same RTP timestamp leaves the one before. -/
def stores (s : PtsSessionNormalizer) : PtsEvent → Option Stamp
  | .packet id p =>
    match s.find id, s.afterGettingFrame id p with
    | some x, some r =>
      if !s.usingLocalTs && p.hasBeenSynchronizedUsingRTCP &&
          p.curPacketRTPTimestamp = x.lastRtpTimestamp then none
      else some r.toPT
    | _, _ => none
  | _ => none

def StoresValid (s : PtsSessionNormalizer) (e : PtsEvent) : Prop :=
  ∀ pt, s.stores e = some pt → pt.Valid

/-- The ticks from the last packet to this one as the source counts them. -/
def ticks (lastRtpTimestamp curRtpTimestamp : UInt32) : Int :=
  if curRtpTimestamp ≥ lastRtpTimestamp then (curRtpTimestamp - lastRtpTimestamp).toNat else 0

/-- The time in microseconds that a synchronised packet is due at: by the adjustment, or in step
with the last packet of a new master, or now where there was no packet. -/
def dueTime (s : PtsSessionNormalizer) (x : PtsSubsessionNormalizer) (p : RtpPacket) :
    Option Int :=
  (s.selects x).map fun b =>
    if b && x.lastRtpTimestamp ≠ 0 then
      x.presentationTime.micros + ticks x.lastRtpTimestamp p.curPacketRTPTimestamp * million /
        (if p.timestampFrequency ≤ 0 then 9000 else p.timestampFrequency)
    else if b && s.masterSSNormalizer = none then p.timeOfDay.micros
    else p.fromPT.micros + s.ptAdjustment.micros

/-- No synchronised packet with a new RTP timestamp is due at a whole second. -/
def NoWholeSecond (s : PtsSessionNormalizer) : PtsEvent → Prop
  | .packet id p => ∀ x t, s.find id = some x → s.usingLocalTs = false →
    p.hasBeenSynchronizedUsingRTCP = true → p.curPacketRTPTimestamp ≠ x.lastRtpTimestamp →
    s.dueTime x p = some t → t % million ≠ 0
  | _ => True

/-- The presentation times may have one microsecond too many, and the adjustment of a master is
the difference of two of them. -/
structure TimesInv (s : PtsSessionNormalizer) : Prop where
  times : ∀ x ∈ s.subsessionNormalizers,
    0 ≤ x.presentationTime.usec ∧ x.presentationTime.usec ≤ million
  adjustment : s.masterSSNormalizer ≠ none →
    -million < s.ptAdjustment.usec ∧ s.ptAdjustment.usec ≤ million

variable {s t : PtsSessionNormalizer} {x : PtsSubsessionNormalizer} {p : RtpPacket}

/-! ## One packet -/

theorem ticks_nonneg (r₀ r₁ : UInt32) : 0 ≤ ticks r₀ r₁ := by
  unfold ticks
  split <;> omega

theorem timeNow_of_new (hx : x.lastRtpTimestamp = 0) (hm : s.masterSSNormalizer = none) :
    s.timeNow x p = p.timeOfDay := by
  simp only [timeNow, hx, hm, if_true]

theorem timeNow_of_master (hx : x.lastRtpTimestamp = 0) (hm : s.masterSSNormalizer ≠ none) :
    s.timeNow x p = s.ptAdjustment.add p.fromPT := by
  obtain ⟨m, hm⟩ := Option.ne_none_iff_exists'.1 hm
  simp only [timeNow, hx, hm, if_true]

theorem timeNow_of_last (hx : x.lastRtpTimestamp ≠ 0) :
    s.timeNow x p = ((Stamp.ofRatio (ticks x.lastRtpTimestamp p.curPacketRTPTimestamp)
      (if p.timestampFrequency ≤ 0 then 9000 else p.timestampFrequency)).add
        x.presentationTime).carry (million + 1) := by
  simp only [timeNow, hx, if_false, ticks]

theorem frequency_pos (p : RtpPacket) :
    0 < if p.timestampFrequency ≤ 0 then (9000 : Int) else p.timestampFrequency := by
  split <;> omega

/-- Where a new master starts. -/
theorem micros_select (s : PtsSessionNormalizer) (x : PtsSubsessionNormalizer) (p : RtpPacket)
    (hb : s.selects x = some true) :
    s.dueTime x p = some (p.fromPT.micros + (s.select x p).1.ptAdjustment.micros) := by
  have hsel : p.fromPT.micros + (s.select x p).1.ptAdjustment.micros =
      (s.timeNow x p).micros := by
    simp only [select, Stamp.micros_sub]
    ring
  rw [hsel, dueTime, hb, Option.map_some]
  by_cases hx : x.lastRtpTimestamp = 0
  · by_cases hm : s.masterSSNormalizer = none
    · simp [timeNow_of_new hx hm, hx, hm]
    · simp [timeNow_of_master hx hm, hx, hm, Int.add_comm]
  · rw [timeNow_of_last hx, Stamp.micros_carry, Stamp.micros_add,
      Stamp.micros_ofRatio (ticks_nonneg _ _) (frequency_pos p)]
    simp [hx, Int.add_comm]

/-- The adjustment of a new master. -/
theorem usec_select (hs : TimesInv s) (hx : x ∈ s.subsessionNormalizers) (hp : p.fromPT.Valid)
    (hnow : p.timeOfDay.Valid) :
    -million < (s.select x p).1.ptAdjustment.usec ∧
      (s.select x p).1.ptAdjustment.usec ≤ million := by
  have husec : (s.select x p).1.ptAdjustment.usec = (s.timeNow x p).usec - p.fromPT.usec := rfl
  unfold Stamp.Valid at hp hnow
  rw [husec]
  by_cases hlast : x.lastRtpTimestamp = 0
  · by_cases hm : s.masterSSNormalizer = none
    · rw [timeNow_of_new hlast hm]
      omega
    · have h := hs.adjustment hm
      rw [timeNow_of_master hlast hm, Stamp.add]
      dsimp only
      omega
  · have hratio := Stamp.usec_ofRatio_nonneg
      (ticks_nonneg x.lastRtpTimestamp p.curPacketRTPTimestamp) (frequency_pos p)
    have h := hs.times x hx
    obtain ⟨hnonneg, hle⟩ := Stamp.usec_carry_succ_nonneg
      (t := (Stamp.ofRatio (ticks x.lastRtpTimestamp p.curPacketRTPTimestamp)
        (if p.timestampFrequency ≤ 0 then 9000 else p.timestampFrequency)).add x.presentationTime)
      (by rw [Stamp.add]; dsimp only; omega)
    rw [timeNow_of_last hlast]
    omega

/-- A packet is shifted to the time it is due at. -/
theorem shift_spec (hp : p.fromPT.Valid)
    (ha : -million < s.ptAdjustment.usec ∧ s.ptAdjustment.usec ≤ million) :
    0 ≤ (s.shift p.fromPT).usec ∧ (s.shift p.fromPT).usec ≤ million ∧
      ((s.shift p.fromPT).Valid ↔ (p.fromPT.micros + s.ptAdjustment.micros) % million ≠ 0) := by
  unfold Stamp.Valid at hp
  have hpos : 0 < p.fromPT.usec + s.ptAdjustment.usec + million := by omega
  have hbounds := Stamp.usec_carry_succ
    (t := ⟨p.fromPT.sec + s.ptAdjustment.sec - 1, p.fromPT.usec + s.ptAdjustment.usec + million⟩)
    hpos
  have hvalid := Stamp.valid_carry_succ
    (t := ⟨p.fromPT.sec + s.ptAdjustment.sec - 1, p.fromPT.usec + s.ptAdjustment.usec + million⟩)
    hpos
  refine ⟨hbounds.1.le, hbounds.2.1, ?_⟩
  rw [← micros_shift, shift, Stamp.micros_carry]
  exact hvalid

/-- What a packet stores, and the adjustment after it. -/
structure StoresDue (s : PtsSessionNormalizer) (x : PtsSubsessionNormalizer) (p : RtpPacket)
    (r : Normalized) : Prop where
  subsessions : r.session.subsessionNormalizers = s.subsessionNormalizers
  times : 0 ≤ r.toPT.usec ∧ r.toPT.usec ≤ million
  adjustment : r.session.masterSSNormalizer ≠ none →
    -million < r.session.ptAdjustment.usec ∧ r.session.ptAdjustment.usec ≤ million
  plain : s.usingLocalTs = true ∨ p.hasBeenSynchronizedUsingRTCP = false → r.toPT.Valid
  due : s.usingLocalTs = false → p.hasBeenSynchronizedUsingRTCP = true →
    p.curPacketRTPTimestamp ≠ x.lastRtpTimestamp →
      ∃ t, s.dueTime x p = some t ∧ r.toPT.micros = t ∧ (r.toPT.Valid ↔ t % million ≠ 0)

/-- The session that the packet is shifted by. -/
theorem storesDue_shift (hs : TimesInv s) (hx : x ∈ s.subsessionNormalizers)
    (hp : p.fromPT.Valid) (hlocal : s.usingLocalTs = false)
    (hsync : p.hasBeenSynchronizedUsingRTCP = true) (s' : PtsSessionNormalizer)
    (hsub : s'.subsessionNormalizers = s.subsessionNormalizers)
    (ha : -million < s'.ptAdjustment.usec ∧ s'.ptAdjustment.usec ≤ million)
    (hdue : s.dueTime x p = some (p.fromPT.micros + s'.ptAdjustment.micros)) (log : Option String) :
    s.StoresDue x p ⟨s', if p.curPacketRTPTimestamp = x.lastRtpTimestamp then x.presentationTime
      else s'.shift p.fromPT, log⟩ := by
  obtain ⟨hnonneg, hle, hvalid⟩ := shift_spec hp ha
  refine ⟨hsub, ?_, fun _ => ha, fun h => ?_, fun _ _ hne => ?_⟩
  · dsimp only
    split
    · exact hs.times x hx
    · exact ⟨hnonneg, hle⟩
  · rcases h with h | h
    · cases h.symm.trans hlocal
    · cases h.symm.trans hsync
  · refine ⟨_, hdue, ?_, ?_⟩
    · rw [if_neg hne]
      exact micros_shift s' p.fromPT
    · rw [if_neg hne]
      exact hvalid

/-- Every packet that is normalised gets the time it is due at. -/
theorem storesDue (hs : TimesInv s) (hx : x ∈ s.subsessionNormalizers) (hp : p.fromPT.Valid)
    (hnow : p.timeOfDay.Valid) {r : Normalized} (hr : s.normalizePresentationTime x p = some r) :
    s.StoresDue x p r := by
  have hvalid : ∀ u : Stamp, u.Valid → 0 ≤ u.usec ∧ u.usec ≤ million := fun u hu =>
    ⟨hu.1, hu.2.le⟩
  cases hlocal : s.usingLocalTs with
  | true =>
    rw [normalizePresentationTime, if_pos hlocal] at hr
    cases hr
    refine ⟨rfl, hvalid _ hnow, hs.adjustment, fun _ => hnow, fun h => ?_⟩
    cases h.symm.trans hlocal
  | false =>
    cases hsync : p.hasBeenSynchronizedUsingRTCP with
    | false =>
      rw [normalizePresentationTime_unsynced hlocal hsync] at hr
      cases hr
      refine ⟨rfl, hvalid _ hp, hs.adjustment, fun _ => hp, fun _ h => ?_⟩
      cases h.symm.trans hsync
    | true =>
      rw [normalizePresentationTime_synced hlocal hsync] at hr
      obtain ⟨b, hb, rfl⟩ := Option.map_eq_some_iff.1 hr
      cases b with
      | true =>
        exact storesDue_shift hs hx hp hlocal hsync (s.select x p).1 rfl
          (usec_select hs hx hp hnow) (micros_select s x p hb) _
      | false =>
        have hm : s.masterSSNormalizer ≠ none := by
          intro hm
          cases hb.symm.trans (selects_of_none hm)
        refine storesDue_shift hs hx hp hlocal hsync s rfl (hs.adjustment hm) ?_ _
        simp [dueTime, hb]

/-! ## Runs -/

theorem afterGettingFrame_some {id : Nat} {r : Normalized} (h : s.afterGettingFrame id p = some r) :
    ∃ x r', s.find id = some x ∧ s.normalizePresentationTime x p = some r' ∧ r.toPT = r'.toPT ∧
      r.session = { r'.session with
        subsessionNormalizers := r'.session.subsessionNormalizers.map fun y =>
          if y.id = x.id then
            { y with presentationTime := r'.toPT, lastRtpTimestamp := p.curPacketRTPTimestamp }
          else y } := by
  obtain ⟨x, hx, h⟩ := Option.bind_eq_some_iff.1 h
  obtain ⟨r', hr', rfl⟩ := Option.map_eq_some_iff.1 h
  exact ⟨x, r', hx, hr', rfl, by rw [find_id hx]⟩

theorem timesInv_step (hs : TimesInv s) {e : PtsEvent} (he : e.WellFormed)
    (ht : s.ptsStep e = some t) : TimesInv t := by
  cases e with
  | create mediumName codecName =>
    cases ht
    refine ⟨fun x hx => ?_, hs.adjustment⟩
    rcases List.mem_cons.1 hx with rfl | hx
    · exact ⟨le_rfl, show (0 : Int) ≤ million by decide⟩
    · exact hs.times x hx
  | packet id p =>
    obtain ⟨r, hr, rfl⟩ := Option.map_eq_some_iff.1 ht
    obtain ⟨x, r', hx, hr', -, hsession⟩ := afterGettingFrame_some hr
    have hd := storesDue hs (List.mem_of_find?_eq_some hx) he.1 he.2 hr'
    rw [hsession]
    refine ⟨fun y hy => ?_, hd.adjustment⟩
    obtain ⟨z, hz, rfl⟩ := List.mem_map.1 hy
    rw [hd.subsessions] at hz
    split
    · exact hd.times
    · exact hs.times z hz
  | remove id =>
    obtain ⟨x, hx, rfl⟩ := Option.map_eq_some_iff.1 ht
    refine ⟨fun y hy => hs.times y (List.mem_of_mem_erase hy), fun hm => hs.adjustment ?_⟩
    intro hnone
    refine hm ?_
    dsimp only
    rw [hnone]
    exact ite_self _

theorem storesValid_step (hs : TimesInv s) {e : PtsEvent} (he : e.WellFormed) :
    s.StoresValid e ↔ s.NoWholeSecond e := by
  cases e with
  | create mediumName codecName => exact iff_of_true nofun trivial
  | remove id => exact iff_of_true nofun trivial
  | packet id p =>
    cases hx : s.find id with
    | none =>
      refine iff_of_true (fun pt hpt => ?_) fun x t hx' => ?_
      · simp [stores, hx] at hpt
      · cases hx.symm.trans hx'
    | some x =>
      have hmem := List.mem_of_find?_eq_some hx
      constructor
      · intro h x' t hx' hlocal hsync hne ht
        cases hx.symm.trans hx'
        obtain ⟨b, hb, -⟩ := Option.map_eq_some_iff.1 ht
        have hr := normalizePresentationTime_synced (x := x) hlocal hsync
        rw [hb, Option.map_some] at hr
        obtain ⟨t', ht', -, hvalid⟩ := (storesDue hs hmem he.1 he.2 hr).due hlocal hsync hne
        cases ht.symm.trans ht'
        refine hvalid.1 (h _ ?_)
        rw [stores, hx, afterGettingFrame_eq hx hr]
        simp [hlocal, hsync, hne]
      · intro h pt hpt
        rw [stores, hx] at hpt
        cases hr : s.afterGettingFrame id p with
        | none => simp [hr] at hpt
        | some r =>
          obtain ⟨x', r', hx', hr', hto, -⟩ := afterGettingFrame_some hr
          cases hx.symm.trans hx'
          have hd := storesDue hs hmem he.1 he.2 hr'
          simp only [hr] at hpt
          split at hpt
          · cases hpt
          · next hstores =>
            cases hpt
            rw [hto]
            simp only [Bool.and_eq_true, Bool.not_eq_true', decide_eq_true_eq, not_and] at hstores
            by_cases hplain : s.usingLocalTs = true ∨ p.hasBeenSynchronizedUsingRTCP = false
            · exact hd.plain hplain
            · simp only [not_or, Bool.not_eq_true, Bool.not_eq_false] at hplain
              have hne := hstores hplain
              obtain ⟨t, ht, -, hvalid⟩ := hd.due hplain.1 hplain.2 hne
              exact hvalid.2 (h x t hx hplain.1 hplain.2 hne ht)

theorem timesInv_constructed (usingLocalTs : Bool) (ptAdjustment : Stamp) :
    TimesInv (constructed usingLocalTs ptAdjustment) :=
  ⟨nofun, fun h => absurd rfl h⟩

/-- **Every stored presentation time is well formed** along a run of well-formed packets if and only
if no synchronised packet with a new RTP timestamp is due at a whole second. -/
theorem storesValid_iff (usingLocalTs : Bool) (ptAdjustment : Stamp) (es : List PtsEvent)
    (hes : ∀ e ∈ es, e.WellFormed) :
    Run.Each ptsStep StoresValid (constructed usingLocalTs ptAdjustment) es ↔
      Run.Each ptsStep NoWholeSecond (constructed usingLocalTs ptAdjustment) es := by
  have hwf : Run.Each ptsStep (fun _ e => PtsEvent.WellFormed e)
      (constructed usingLocalTs ptAdjustment) es := Run.Each.of_forall_mem hes
  have hiff : Run.Each ptsStep (fun s e => s.StoresValid e ∧ e.WellFormed)
      (constructed usingLocalTs ptAdjustment) es ↔
        Run.Each ptsStep (fun s e => s.NoWholeSecond e ∧ e.WellFormed)
          (constructed usingLocalTs ptAdjustment) es :=
    Run.each_iff (fun _ _ _ hs he ht => timesInv_step hs he.2 ht)
      (fun _ _ hs => and_congr_left fun he => storesValid_step hs he)
      (timesInv_constructed usingLocalTs ptAdjustment)
  constructor
  · exact fun h => (hiff.1 (h.and hwf)).mono fun _ _ h => h.1
  · exact fun h => (hiff.2 (h.and hwf)).mono fun _ _ h => h.1

/-- One subsession whose first synchronised packet arrives at `now`. -/
def firstPacket (now : Stamp) : List PtsEvent :=
  [.create "video" "H264", .packet 0 ⟨⟨100, 0⟩, true, 90000, 90000, now⟩]

theorem storesValid_first : Run.Each ptsStep StoresValid (constructed false {})
    (firstPacket ⟨1000, 250000⟩) := by
  refine (storesValid_iff false {} _ ?_).2 ?_
  · simp only [firstPacket, List.forall_mem_cons]
    exact ⟨trivial, ⟨by decide, by decide⟩, nofun⟩
  · refine ⟨trivial, fun s hs => ⟨?_, fun _ _ => trivial⟩⟩
    cases hs
    rintro x t ⟨⟩ - - - ⟨⟩
    decide

/-- The first packet arrives at a whole second. -/
theorem first_at_whole_second : ¬ Run.Each ptsStep StoresValid (constructed false {})
    (firstPacket ⟨1000, 0⟩) := by
  rintro ⟨-, h⟩
  exact absurd ((h _ rfl).1 ⟨999, million⟩ (by decide)) (by decide)

/-! ## A master that has delivered before -/

/-- The event is about the subsession. -/
def PtsEvent.About (id : Nat) : PtsEvent → Prop
  | .create _ _ => False
  | .packet id' _ => id' = id
  | .remove id' => id' = id

/-- The packet makes its subsession the master. -/
def BecomesMaster (s : PtsSessionNormalizer) (id : Nat) (p : RtpPacket) : Prop :=
  p.hasBeenSynchronizedUsingRTCP = true ∧ (s.find id).bind s.selects = some true

/-- The time is `ticks` of the frequency after the last one, up to a microsecond. -/
def After (ticks : Nat) (frequency : Int) (last pt : Stamp) : Prop :=
  |pt.micros * frequency - (last.micros * frequency + ticks * million)| ≤ frequency

instance (ticks : Nat) (frequency : Int) (last pt : Stamp) :
    Decidable (After ticks frequency last pt) :=
  inferInstanceAs (Decidable (_ ≤ _))

/-- The RTP timestamps go up as numbers from one that is not zero, or the distance is less than a
microsecond. -/
def CountsUp (frequency : Int) (r₀ r₁ : UInt32) : Prop :=
  r₀ ≠ 0 ∧ (r₀ ≤ r₁ ∨ (r₁ - r₀).toNat * million ≤ frequency)

/-- The last timestamp is 0, and the clock that is taken instead happens to be in step. -/
def ClockInStep (s : PtsSessionNormalizer) (last : Stamp) (r₀ : UInt32) (p : RtpPacket) : Prop :=
  r₀ = 0 ∧ After (p.curPacketRTPTimestamp - r₀).toNat p.timestampFrequency last
    (if s.masterSSNormalizer = none then p.timeOfDay else p.fromPT.add s.ptAdjustment)

theorem find?_erase {α : Type} [DecidableEq α] (q : α → Bool) {y : α} (hy : ¬ q y) (l : List α) :
    (l.erase y).find? q = l.find? q := by
  induction l with
  | nil => rfl
  | cons z l ih =>
    rw [List.erase_cons]
    split
    · next heq =>
      rw [List.find?_cons_of_neg]
      rwa [beq_iff_eq.1 heq]
    · rw [List.find?_cons, List.find?_cons, ih]

/-- The filters after a packet. -/
theorem Delivered.find_eq {r : Normalized} (hr : s.Delivered x p r) (id : Nat) :
    r.session.find id = (s.find id).map fun y =>
      if y.id = x.id then
        { y with presentationTime := r.toPT, lastRtpTimestamp := p.curPacketRTPTimestamp }
      else y := by
  unfold PtsSessionNormalizer.find
  rw [hr.subsessions, List.find?_map]
  congr 1
  refine congrArg (fun q => s.subsessionNormalizers.find? q) (funext fun y => ?_)
  dsimp only [Function.comp]
  split <;> rfl

theorem find_step (hs : PtsInv s) {id : Nat} {e : PtsEvent} (he : ¬ e.About id)
    (hx : s.find id = some x) (ht : s.ptsStep e = some t) : t.find id = some x := by
  cases e with
  | create mediumName codecName =>
    cases ht
    have hlt := hs.fresh x (List.mem_of_find?_eq_some hx)
    rw [find_id hx] at hlt
    show List.find? _ (_ :: _) = _
    rw [List.find?_cons_of_neg (by simpa using Nat.ne_of_gt hlt)]
    exact hx
  | packet id' p =>
    obtain ⟨r, hr, rfl⟩ := Option.map_eq_some_iff.1 ht
    obtain ⟨y, -, hy, -⟩ := afterGettingFrame_some hr
    obtain ⟨r', hr', hd⟩ := delivered hs hy p
    cases hr'.symm.trans hr
    have hne : x.id ≠ y.id := by
      rw [find_id hx, find_id hy]
      exact fun h => he h.symm
    rw [hd.find_eq, hx, Option.map_some, if_neg hne]
  | remove id' =>
    obtain ⟨y, hy, rfl⟩ := Option.map_eq_some_iff.1 ht
    refine (find?_erase _ ?_ _).trans hx
    simpa [find_id hy, PtsEvent.About] using he

/-- The last packet of a subsession is remembered until the next one. -/
theorem find_of_last (hs : PtsInv s) {id : Nat} {r : Normalized}
    (hr : s.afterGettingFrame id p = some r) {between : List PtsEvent}
    (ht : Run.exec ptsStep r.session between = some t) (hq : ∀ e ∈ between, ¬ e.About id) :
    PtsInv t ∧ ∃ y, t.find id = some y ∧ y.presentationTime = r.toPT ∧
      y.lastRtpTimestamp = p.curPacketRTPTimestamp := by
  obtain ⟨x, -, hx, -⟩ := afterGettingFrame_some hr
  obtain ⟨r', hr', hd⟩ := delivered hs hx p
  cases hr'.symm.trans hr
  have hstart := ptsInv_packet hs hx hd
  have hfind : r.session.find id = some { x with
      presentationTime := r.toPT, lastRtpTimestamp := p.curPacketRTPTimestamp } := by
    rw [hd.find_eq, hx, Option.map_some, if_pos rfl]
  generalize r.session = s' at ht hstart hfind
  suffices h : PtsInv t ∧ t.find id = some { x with
      presentationTime := r.toPT, lastRtpTimestamp := p.curPacketRTPTimestamp } from
    ⟨h.1, _, h.2, rfl, rfl⟩
  induction between generalizing s' with
  | nil =>
    cases ht
    exact ⟨hstart, hfind⟩
  | cons e es ih =>
    obtain ⟨u, hu, ht⟩ := Run.exec_cons_some.1 ht
    exact ih (fun e he => hq e (.tail _ he)) u ht (ptsInv_step hstart hu)
      (find_step hstart (hq e (.head _)) hfind hu)

/-- A floor of microseconds is less than one off. -/
theorem after_floor_iff {f : Int} (hf : 0 < f) (last : Stamp) (d : Nat) (c : Bool) {pt : Stamp}
    (h : pt.micros = last.micros + (if c then (d : Int) else 0) * million / f) :
    After d f last pt ↔ c = true ∨ d * million ≤ f := by
  unfold After
  rw [h]
  cases c with
  | true =>
    refine iff_of_true ?_ (.inl rfl)
    have hdiv := Int.emod_add_mul_ediv (d * million) f
    have hlt := Int.emod_lt_of_pos (d * million) hf
    have hnonneg := Int.emod_nonneg (d * million) hf.ne'
    have hdiff : (last.micros + d * million / f) * f - (last.micros * f + d * million) =
        -(d * million % f) := by
      linear_combination hdiv
    rw [if_pos rfl, hdiff, abs_neg, abs_of_nonneg hnonneg]
    exact hlt.le
  | false =>
    have hd : (0 : Int) ≤ d * million := Int.mul_nonneg (Int.natCast_nonneg d) (by decide)
    have hdiff : (last.micros + 0 * million / f) * f - (last.micros * f + d * million) =
        -(d * million) := by
      rw [Int.zero_mul, Int.zero_ediv]
      ring
    rw [if_neg Bool.false_ne_true, hdiff, abs_neg, abs_of_nonneg hd]
    simp only [Bool.false_eq_true, false_or]

/-- What a new master that has delivered before is due at. -/
theorem after_due_iff {y : PtsSubsessionNormalizer} (hb : t.selects y = some true)
    (hf : 0 < p.timestampFrequency) {due : Int} (hdue : t.dueTime y p = some due) {pt : Stamp}
    (hpt : pt.micros = due) :
    After (p.curPacketRTPTimestamp - y.lastRtpTimestamp).toNat p.timestampFrequency
        y.presentationTime pt ↔
      CountsUp p.timestampFrequency y.lastRtpTimestamp p.curPacketRTPTimestamp ∨
        t.ClockInStep y.presentationTime y.lastRtpTimestamp p := by
  rw [dueTime, hb, Option.map_some, Option.some_inj] at hdue
  by_cases hlast : y.lastRtpTimestamp = 0
  · have hmicros : pt.micros =
        (if t.masterSSNormalizer = none then p.timeOfDay else p.fromPT.add t.ptAdjustment).micros := by
      rw [hpt, ← hdue]
      by_cases hm : t.masterSSNormalizer = none
      · simp [hlast, hm]
      · simp [hlast, hm]
    unfold CountsUp ClockInStep
    simp only [hlast, ne_eq, not_true_eq_false, false_and, true_and, false_or]
    unfold After
    rw [hmicros]
  · have hmicros : pt.micros = y.presentationTime.micros +
        (if decide (y.lastRtpTimestamp ≤ p.curPacketRTPTimestamp) then
          ((p.curPacketRTPTimestamp - y.lastRtpTimestamp).toNat : Int) else 0) * million /
            p.timestampFrequency := by
      rw [hpt, ← hdue]
      simp [hlast, ticks, not_le.2 hf]
    rw [after_floor_iff hf _ _ _ hmicros]
    unfold CountsUp ClockInStep
    simp only [hlast, decide_eq_true_eq, ne_eq, not_false_eq_true, true_and, false_and, or_false]

/-- **A new master goes on from its last packet** if and only if the RTP timestamps go up as numbers
from one that is not zero, or the clock happens to be in step. -/
theorem continues_iff {ptAdjustment : Stamp} {before between : List PtsEvent} {id : Nat}
    {p₀ : RtpPacket} {r₀ : Normalized}
    (hs : Run.exec ptsStep (constructed false ptAdjustment) before = some s)
    (h₀ : s.afterGettingFrame id p₀ = some r₀)
    (ht : Run.exec ptsStep r₀.session between = some t) (hq : ∀ e ∈ between, ¬ e.About id)
    (hm : t.BecomesMaster id p) (hne : p.curPacketRTPTimestamp ≠ p₀.curPacketRTPTimestamp)
    (hf : 0 < p.timestampFrequency) :
    (∃ r, t.afterGettingFrame id p = some r ∧
        After (p.curPacketRTPTimestamp - p₀.curPacketRTPTimestamp).toNat p.timestampFrequency
          r₀.toPT r.toPT) ↔
      CountsUp p.timestampFrequency p₀.curPacketRTPTimestamp p.curPacketRTPTimestamp ∨
        t.ClockInStep r₀.toPT p₀.curPacketRTPTimestamp p := by
  have hsinv : PtsInv s := Run.exec_inv (fun _ _ _ hs ht => ptsInv_step hs ht) hs
    (ptsInv_constructed ptAdjustment)
  obtain ⟨htinv, y, hy, hlast, hrtp⟩ := find_of_last hsinv h₀ ht hq
  obtain ⟨hsync, hb⟩ := hm
  rw [hy, Option.bind_some] at hb
  rw [← hlast, ← hrtp]
  rw [← hrtp] at hne
  have hnorm := normalizePresentationTime_synced (x := y) htinv.notLocal hsync
  rw [hb, Option.map_some, if_neg hne] at hnorm
  have hr := afterGettingFrame_eq hy hnorm
  have hiff := after_due_iff hb hf (micros_select t y p hb)
    (micros_shift (t.select y p).1 p.fromPT)
  constructor
  · rintro ⟨r, hr', hafter⟩
    cases hr.symm.trans hr'
    exact hiff.1 hafter
  · exact fun h => ⟨_, hr, hiff.2 h⟩

/-- An audio packet at `r₀` ticks, before the source is synchronised. -/
def lastPacket (r₀ : UInt32) : RtpPacket := ⟨⟨100, 0⟩, false, r₀, 8000, ⟨1000, 0⟩⟩

/-- The first synchronised one, `r₁` ticks. -/
def nextPacket (r₁ : UInt32) : RtpPacket := ⟨⟨500, 0⟩, true, r₁, 8000, ⟨1002, 0⟩⟩

/-- The session with its filter, before and after the first packet. -/
def oneAudio : PtsSessionNormalizer :=
  (constructed false {}).createNewPtsSubsessionNormalizer "audio" "PCMU"

def oneAudioAfter (r₀ : UInt32) : PtsSessionNormalizer :=
  { oneAudio with subsessionNormalizers := [⟨0, "audio", "PCMU", r₀, ⟨100, 0⟩⟩] }

theorem continues_audio :
    ∃ r, (oneAudioAfter 8000).afterGettingFrame 0 (nextPacket 16000) = some r ∧
      After 8000 8000 ⟨100, 0⟩ r.toPT :=
  (@continues_iff oneAudio (oneAudioAfter 8000) (nextPacket 16000) {} [.create "audio" "PCMU"] []
    0 (lastPacket 8000) ⟨oneAudioAfter 8000, ⟨100, 0⟩, none⟩ rfl rfl rfl nofun ⟨rfl, rfl⟩
    (by decide) (by decide)).2 (.inl ⟨by decide, .inl (by decide)⟩)

/-- The RTP timestamp wraps around between the two packets: the second gets the time of the
first. -/
theorem stays_at_wrap :
    Run.exec ptsStep (constructed false {})
        [.create "audio" "PCMU", .packet 0 (lastPacket 4294959296)] =
      some (oneAudioAfter 4294959296) ∧
    (oneAudioAfter 4294959296).BecomesMaster 0 (nextPacket 8000) ∧
    (8000 - 4294959296 : UInt32).toNat = 16000 ∧
    ¬ ∃ r, (oneAudioAfter 4294959296).afterGettingFrame 0 (nextPacket 8000) = some r ∧
      After 16000 8000 ⟨100, 0⟩ r.toPT := by
  refine ⟨rfl, ⟨rfl, rfl⟩, by decide, ?_⟩
  rintro ⟨r, ⟨⟩, hafter⟩
  exact absurd hafter (by decide +kernel)

end PtsSessionNormalizer

end StreamSwitch
