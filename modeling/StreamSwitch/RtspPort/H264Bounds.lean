import StreamSwitch.RtspPort.H264
import Mathlib.Data.List.Infix

/-!
# What the H.264 parser of the RTSP port reads

The sink delivers frames of any length, also of none (`OnSubRead` makes the pointer null then),
and `h264_parse` looks at four bytes before it looks at the length. `bounds_iff`: nothing
outside the buffer is read if and only if the frame is not a part of a start code, from no byte
to all four; and `encode_header` prints profile bytes of the SPS if and only if the last SPS,
where there is one and a PPS, has four bytes.
-/

namespace StreamSwitch

namespace H264Parser

/-! ## What is promised -/

/-- The units between start codes; what is after the last one is a unit, and a start code at the very
end belongs to it. `unit` is what there is of the first one. -/
def unitsOf : Bytes → Bytes → List Bytes
  | unit, [] => [unit]
  | unit, b :: rest =>
    if startCode <+: b :: rest ∧ 4 < (b :: rest).length then unit :: unitsOf [] (rest.drop 3)
    else unitsOf (unit ++ [b]) rest
termination_by _ bytes => bytes.length

/-- The last unit of a type. -/
def lastOf (t : UInt8) : List Bytes → Option Bytes
  | [] => none
  | u :: us => (lastOf t us).or (if nalType (u.headD 0) = t then some u else none)

/-- The last SPS has the bytes of the profile, where there is one and a PPS. -/
def ProfileInside (extra : Bytes) : Prop :=
  startCode <+: extra → ∀ sps, lastOf 7 (unitsOf [] (extra.drop 4)) = some sps →
    lastOf 8 (unitsOf [] (extra.drop 4)) ≠ none → 4 ≤ sps.length

/-- Nothing outside the buffer is read, and the profile printed is in the SPS. -/
def HeaderSafe (extra : Bytes) (packetMode : Nat) : Prop :=
  ∃ r, encodeHeader extra packetMode = .ok r ∧ ∀ h, r = some h → 4 ≤ h.sps.length

/-! ## Frames -/

/-- The loop goes as far as it says. -/
theorem seek_total (q : Bytes) : ∃ n, n ≤ q.length ∧ seek q = .ok (n, q.drop n) := by
  induction q with
  | nil => exact ⟨0, le_rfl, rfl⟩
  | cons b q ih =>
    by_cases hlen : 4 < (b :: q).length
    · by_cases hp : startCode <+: b :: q
      · exact ⟨0, Nat.zero_le _, seek_found hlen hp⟩
      · obtain ⟨n, hn, hq⟩ := ih
        refine ⟨n + 1, Nat.succ_le_succ hn, ?_⟩
        rw [seek_next hlen hp, hq]
        rfl
    · exact ⟨0, Nat.zero_le _, seek_short (by omega)⟩

theorem h264SendNal_ok (tr : Track) {data : Bytes} (hne : data ≠ []) {len : Nat}
    (hlen : len ≤ data.length) : ∃ r, h264SendNal tr data len = .ok r := by
  obtain ⟨b, rest, rfl⟩ := List.exists_cons_of_ne_nil hne
  have hcopy : copy (b :: rest) len = .ok ((b :: rest).take len) := by rw [copy, if_pos hlen]
  unfold h264SendNal
  simp only [byteAt, List.getElem?_cons_zero, bind, Except.bind, hcopy]
  split
  · exact ⟨_, rfl⟩
  · split
    · exact ⟨_, rfl⟩
    · split <;> exact ⟨_, rfl⟩

theorem sendUnits_ok (fuel : Nat) (tr : Track) {p : Bytes} (hlen : 4 < p.length) :
    ∃ r, sendUnits fuel tr p = .ok r := by
  induction fuel generalizing tr p with
  | zero => exact ⟨_, rfl⟩
  | succ fuel ih =>
    obtain ⟨n, hn, hseek⟩ := seek_total (p.drop 4)
    have hdrop : (p.drop 4).length = p.length - 4 := List.length_drop
    have hne : p.drop 4 ≠ [] := List.length_pos_iff.1 (by omega)
    rw [sendUnits, hseek]
    show ∃ r, (if ((p.drop 4).drop n).length ≤ 4 then h264SendNal tr (p.drop 4) (p.length - 4)
      else _) = .ok r
    split
    · exact h264SendNal_ok tr hne (by omega)
    · next hmore =>
      obtain ⟨⟨tr', sent⟩, hsend⟩ := h264SendNal_ok tr hne hn
      obtain ⟨⟨tr'', rest⟩, hrec⟩ := ih tr' (p := (p.drop 4).drop n) (by omega)
      rw [hsend]
      show ∃ r, (sendUnits fuel tr' ((p.drop 4).drop n) >>= _) = .ok r
      rw [hrec]
      exact ⟨_, rfl⟩

/-- Four bytes are looked at, but for a difference before. -/
theorem startCodeAt_ok {data : Bytes} (h : ¬ data <+: startCode) :
    startCode <+: data ∧ 4 < data.length ∨ startCodeAt data = .ok false ∧ data ≠ [] := by
  match data with
  | [] => exact absurd (List.nil_prefix) h
  | [a] =>
    right
    have ha : a ≠ 0 := by
      rintro rfl
      exact h (by decide)
    simp [startCodeAt, byteAt, ha, bind, Except.bind, pure, Except.pure]
  | [a, b] =>
    right
    by_cases ha : a = 0
    · have hb : b ≠ 0 := by
        rintro rfl
        exact h (by rw [ha]; decide)
      simp [startCodeAt, byteAt, ha, hb, bind, Except.bind, pure, Except.pure]
    · simp [startCodeAt, byteAt, ha, bind, Except.bind, pure, Except.pure]
  | [a, b, c] =>
    right
    by_cases ha : a = 0
    · by_cases hb : b = 0
      · have hc : c ≠ 0 := by
          rintro rfl
          exact h (by rw [ha, hb]; decide)
        simp [startCodeAt, byteAt, ha, hb, hc, bind, Except.bind, pure, Except.pure]
      · simp [startCodeAt, byteAt, ha, hb, bind, Except.bind, pure, Except.pure]
    · simp [startCodeAt, byteAt, ha, bind, Except.bind, pure, Except.pure]
  | a :: b :: c :: d :: rest =>
    by_cases hp : startCode <+: a :: b :: c :: d :: rest
    · left
      refine ⟨hp, ?_⟩
      cases rest with
      | nil =>
        obtain ⟨rfl, rfl, rfl, rfl⟩ := (startCode_prefix_iff a b c d []).1 hp
        exact absurd (List.prefix_refl startCode) h
      | cons e rest => simp
    · exact .inr ⟨startCodeAt_false (by simp) hp, List.cons_ne_nil _ _⟩

/-- A frame that is part of a start code is read behind its end. -/
theorem h264Parse_ok_iff (tr : Track) (data : Bytes) :
    (∃ r, h264Parse tr data = .ok r) ↔ ¬ data <+: startCode := by
  constructor
  · rintro ⟨r, hr⟩ hp
    have hmem : data ∈ startCode.inits := (List.mem_inits data startCode).2 hp
    have hinits : startCode.inits = [[], [0], [0, 0], [0, 0, 0], [0, 0, 0, 1]] := rfl
    rw [hinits] at hmem
    simp only [List.mem_cons, List.not_mem_nil, or_false] at hmem
    rcases hmem with rfl | rfl | rfl | rfl | rfl <;> cases hr
  · intro h
    rcases startCodeAt_ok h with ⟨hp, hlen⟩ | ⟨hfalse, hne⟩
    · obtain ⟨r, hr⟩ := sendUnits_ok data.length tr hlen
      refine ⟨r, ?_⟩
      rw [h264Parse, startCodeAt_true hp]
      show (if data.length < 4 then _ else sendUnits data.length tr data) = _
      rw [if_neg (by omega)]
      exact hr
    · obtain ⟨r, hr⟩ := h264SendNal_ok tr hne (le_refl data.length)
      refine ⟨r, ?_⟩
      rw [h264Parse, hfalse]
      exact hr

/-! ## The parameter sets -/

/-- Cutting at start codes, with the loop of the source. -/
theorem unitsOf_eq (unit q : Bytes) {n : Nat} (hseek : seek q = .ok (n, q.drop n)) :
    unitsOf unit q =
      if (q.drop n).length ≤ 4 then [unit ++ q]
      else (unit ++ q.take n) :: unitsOf [] ((q.drop n).drop 4) := by
  induction q generalizing unit n with
  | nil => simp [unitsOf]
  | cons b q ih =>
    by_cases hlen : 4 < (b :: q).length
    · by_cases hp : startCode <+: b :: q
      · have hn : n = 0 := by
          have := hseek.symm.trans (seek_found hlen hp)
          injection this with this
          exact (Prod.mk.inj this).1
        subst hn
        rw [unitsOf, if_pos ⟨hp, hlen⟩, List.drop_zero, if_neg (by omega)]
        simp
      · obtain ⟨m, -, hm⟩ := seek_total q
        have hn : n = m + 1 := by
          rw [seek_next hlen hp, hm] at hseek
          injection hseek with hseek
          exact (Prod.mk.inj hseek).1.symm
        subst hn
        rw [unitsOf, if_neg (fun h => hp h.1), ih (unit ++ [b]) hm]
        simp
    · have hn : n = 0 := by
        have := hseek.symm.trans (seek_short (by omega))
        injection this with this
        exact (Prod.mk.inj this).1
      subst hn
      -- nothing that is not longer than a start code is cut
      obtain ⟨m, hm, hmq⟩ := seek_total q
      rw [unitsOf, if_neg (fun h => hlen h.2), ih (unit ++ [b]) hmq, List.drop_zero,
        if_pos (by rw [List.length_drop]; rw [List.length_cons] at hlen; omega), if_pos (by omega)]
      simp

/-- The loop stands still on a start code only. -/
theorem startCode_of_seek {q : Bytes} (hlen : 4 < q.length) (h : seek q = .ok (0, q)) :
    startCode <+: q := by
  by_contra hp
  obtain ⟨b, q, rfl⟩ := List.exists_cons_of_ne_nil (List.length_pos_iff.1 (by omega : 0 < q.length))
  obtain ⟨n, -, hn⟩ := seek_total q
  rw [seek_next hlen hp, hn] at h
  injection h with h
  exact absurd (Prod.mk.inj h).1 (Nat.succ_ne_zero n)

/-- The bytes of a parameter set that was found. -/
def span (x : Bytes × Nat) : Bytes := x.1.take x.2

/-- The sets that were found lie in the buffer. -/
structure Found.Inside (f : Found) : Prop where
  sps : ∀ x, f.sps = some x → x.2 ≤ x.1.length
  pps : ∀ x, f.pps = some x → x.2 ≤ x.1.length

theorem Found.inside_empty : ({} : Found).Inside := by
  constructor <;> rintro _ ⟨⟩

/-- A unit is remembered by its type. -/
def Found.note (found : Found) (nalUnitType : UInt8) (x : Bytes × Nat) : Found :=
  if nalUnitType = 7 then { found with sps := some x }
  else if nalUnitType = 8 then { found with pps := some x }
  else found

theorem Found.inside_note {found : Found} (h : found.Inside) (t : UInt8) {x : Bytes × Nat}
    (hx : x.2 ≤ x.1.length) : (found.note t x).Inside := by
  unfold note
  split
  · exact ⟨fun y hy => by cases hy; exact hx, h.pps⟩
  · split
    · exact ⟨h.sps, fun y hy => by cases hy; exact hx⟩
    · exact h

theorem Found.span_note (found : Found) (t : UInt8) (x : Bytes × Nat) :
    (found.note t x).sps.map span =
        (if t = 7 then some (span x) else none).or (found.sps.map span) ∧
      (found.note t x).pps.map span =
        (if t = 8 then some (span x) else none).or (found.pps.map span) := by
  unfold note
  by_cases h7 : t = 7
  · subst h7
    exact ⟨rfl, rfl⟩
  · by_cases h8 : t = 8
    · subst h8
      exact ⟨rfl, rfl⟩
    · simp [h7, h8]

/-- One turn of the loop notes the first unit and goes on behind it. -/
theorem findUnits_step (fuel : Nat) (found : Found) {p : Bytes} (hlen : 4 < p.length) :
    ∃ q u n, q.length < p.length ∧ n ≤ (p.drop 4).length ∧ span (p.drop 4, n) = u ∧
      unitsOf [] (p.drop 4) = u :: (if 4 < q.length then unitsOf [] (q.drop 4) else []) ∧
      findUnits (fuel + 1) found p =
        findUnits fuel (found.note (nalType (u.headD 0)) (p.drop 4, n)) q := by
  obtain ⟨m, hm, hseek⟩ := seek_total (p.drop 4)
  have hdrop : (p.drop 4).length = p.length - 4 := List.length_drop
  obtain ⟨b, rest, hb⟩ := List.exists_cons_of_ne_nil
    (List.length_pos_iff.1 (by omega : 0 < (p.drop 4).length))
  have hbyte : byteAt p 4 = .ok b := by
    have hget : p[4]? = some b := by
      rw [← List.head?_drop, hb]
      rfl
    rw [byteAt, hget]
  have hq : ((p.drop 4).drop m).length = p.length - 4 - m := by rw [List.length_drop, hdrop]
  have hrun : findUnits (fuel + 1) found p = findUnits fuel
      (found.note (nalType b)
        (p.drop 4, if ((p.drop 4).drop m).length ≤ 4 then p.length - 4 else m))
      ((p.drop 4).drop m) := by
    rw [findUnits, if_pos hlen, hseek]
    show (byteAt p 4 >>= _) = _
    rw [hbyte]
    rfl
  have hunits := unitsOf_eq [] (p.drop 4) hseek
  rw [List.nil_append, List.nil_append] at hunits
  by_cases hlast : ((p.drop 4).drop m).length ≤ 4
  · rw [if_pos hlast] at hrun hunits
    refine ⟨(p.drop 4).drop m, p.drop 4, p.length - 4, by omega, by omega, ?_, ?_, ?_⟩
    · rw [span, ← hdrop, List.take_length]
    · rw [hunits, if_neg (by omega)]
    · rw [hrun, hb]
      rfl
  · rw [if_neg hlast] at hrun hunits
    refine ⟨(p.drop 4).drop m, (p.drop 4).take m, m, by omega, hm, rfl, ?_, ?_⟩
    · rw [hunits, if_pos (by omega)]
    · rw [hrun]
      have htype : b = ((p.drop 4).take m).headD 0 := by
        cases m with
        | zero =>
          -- an empty unit: the byte is the first one of the next start code
          obtain ⟨t, ht⟩ := startCode_of_seek (by omega) hseek
          rw [hb] at ht
          exact (List.cons.inj ht).1.symm
        | succ m =>
          rw [hb]
          rfl
      rw [← htype]

/-- What is found in the units from a start code on. -/
theorem findUnits_spec (fuel : Nat) {found : Found} {p : Bytes} (hfuel : p.length ≤ fuel)
    (hin : found.Inside) :
    ∃ f, findUnits fuel found p = .ok f ∧ f.Inside ∧
      f.sps.map span =
        (lastOf 7 (if 4 < p.length then unitsOf [] (p.drop 4) else [])).or (found.sps.map span) ∧
      f.pps.map span =
        (lastOf 8 (if 4 < p.length then unitsOf [] (p.drop 4) else [])).or
          (found.pps.map span) := by
  induction fuel generalizing found p with
  | zero =>
    have hshort : ¬ 4 < p.length := by omega
    exact ⟨found, rfl, hin, by rw [if_neg hshort]; rfl, by rw [if_neg hshort]; rfl⟩
  | succ fuel ih =>
    by_cases hlen : 4 < p.length
    · obtain ⟨q, u, n, hq, hn, hspan, hunits, hrun⟩ := findUnits_step fuel found hlen
      obtain ⟨f, hf, hfin, hsps, hpps⟩ := ih (by omega : q.length ≤ fuel)
        (found.inside_note hin (nalType (u.headD 0)) (x := (p.drop 4, n)) hn)
      obtain ⟨hnote7, hnote8⟩ := found.span_note (nalType (u.headD 0)) (p.drop 4, n)
      refine ⟨f, hrun.trans hf, hfin, ?_, ?_⟩
      · rw [hsps, hnote7, if_pos hlen, hunits, hspan, lastOf, Option.or_assoc]
      · rw [hpps, hnote8, if_pos hlen, hunits, hspan, lastOf, Option.or_assoc]
    · refine ⟨found, ?_, hin, by rw [if_neg hlen]; rfl, by rw [if_neg hlen]; rfl⟩
      rw [findUnits, if_neg (by omega)]
      rfl

/-- What is printed of the sets that were found. -/
def printed (packetMode : Nat) (sps pps : Bytes × Nat) : Except Fault (Option Sprop) := do
  let spsBytes ← copy sps.1 sps.2
  let ppsBytes ← copy pps.1 pps.2
  let profile := ((← byteAt sps.1 1), (← byteAt sps.1 2), (← byteAt sps.1 3))
  return some ⟨profile, packetMode, spsBytes, ppsBytes⟩

theorem printed_safe_iff (packetMode : Nat) {sps pps : Bytes × Nat} (hsps : sps.2 ≤ sps.1.length)
    (hpps : pps.2 ≤ pps.1.length) :
    (∃ r, printed packetMode sps pps = .ok r ∧ ∀ h, r = some h → 4 ≤ h.sps.length) ↔
      4 ≤ (span sps).length := by
  have hcopy : ∀ x : Bytes × Nat, x.2 ≤ x.1.length → copy x.1 x.2 = .ok (span x) := fun x hx => by
    rw [copy, if_pos hx]
    rfl
  unfold printed
  rw [hcopy sps hsps, hcopy pps hpps]
  constructor
  · rintro ⟨r, hr, h⟩
    simp only [bind, Except.bind] at hr
    cases h1 : byteAt sps.1 1 with
    | error e => rw [h1] at hr; cases hr
    | ok a =>
      cases h2 : byteAt sps.1 2 with
      | error e => rw [h1, h2] at hr; cases hr
      | ok b =>
        cases h3 : byteAt sps.1 3 with
        | error e => rw [h1, h2, h3] at hr; cases hr
        | ok c =>
          rw [h1, h2, h3] at hr
          cases hr
          exact h _ rfl
  · intro hlen
    have hread : ∀ i, i < 4 → ∃ b, byteAt sps.1 i = .ok b := fun i hi => by
      have hlt : i < sps.1.length := by
        have := List.length_take_le sps.2 sps.1
        have := List.length_take_le' sps.2 sps.1
        unfold span at hlen
        omega
      exact ⟨sps.1[i], by rw [byteAt, List.getElem?_eq_getElem hlt]⟩
    obtain ⟨a, ha⟩ := hread 1 (by decide)
    obtain ⟨b, hb⟩ := hread 2 (by decide)
    obtain ⟨c, hc⟩ := hread 3 (by decide)
    refine ⟨some ⟨(a, b, c), packetMode, span sps, span pps⟩, ?_, fun h hh => ?_⟩
    · rw [ha, hb, hc]
      rfl
    · cases hh
      exact hlen

/-- The header is printed where both sets are found, and then safe if the SPS has four bytes. -/
theorem headerSafe_iff (extra : Bytes) (packetMode : Nat) :
    HeaderSafe extra packetMode ↔ ProfileInside extra := by
  by_cases hshort : extra.length ≤ 4
  · refine iff_of_true ⟨none, ?_, fun _ h => by cases h⟩ fun hp sps hsps => ?_
    · rw [encodeHeader, if_pos hshort]
      rfl
    · have hnil : extra.drop 4 = [] := List.drop_eq_nil_of_le hshort
      rw [hnil, unitsOf, lastOf] at hsps
      cases hsps
  · by_cases hp : startCode <+: extra
    · obtain ⟨f, hf, hin, hsps, hpps⟩ := @findUnits_spec extra.length {} extra le_rfl
        Found.inside_empty
      rw [if_pos (by omega), Option.map_none, Option.or_none] at hsps hpps
      have hrun : encodeHeader extra packetMode = f.sps.elim (.ok none) fun sps =>
          f.pps.elim (.ok none) fun pps => printed packetMode sps pps := by
        rw [encodeHeader, if_neg hshort, startCodeAt_true hp]
        show (findUnits extra.length {} extra >>= _) = _
        rw [hf]
        rcases f with ⟨_ | sps, _ | pps⟩ <;> rfl
      unfold HeaderSafe ProfileInside
      rw [hrun, ← hsps, ← hpps]
      cases hfs : f.sps with
      | none => exact iff_of_true ⟨none, rfl, fun _ h => by cases h⟩ fun _ _ h => by cases h
      | some sps =>
        cases hfp : f.pps with
        | none => exact iff_of_true ⟨none, rfl, fun _ h => by cases h⟩ fun _ _ _ h => absurd rfl h
        | some pps =>
          refine (printed_safe_iff packetMode (hin.sps sps hfs) (hin.pps pps hfp)).trans ?_
          constructor
          · intro h _ u hu _
            cases hu
            exact h
          · exact fun h => h hp _ rfl (Option.some_ne_none (span pps))
    · refine iff_of_true ⟨none, ?_, fun _ h => by cases h⟩ fun h => absurd h hp
      rw [encodeHeader, if_neg hshort, startCodeAt_false (by omega) hp]
      rfl

/-- **Nothing outside the frame or the extra data is read**, and the profile printed is of the SPS, if
and only if the frame is not a part of a start code and an SPS that is printed has four bytes. -/
theorem bounds_iff (tr : Track) (data extra : Bytes) (packetMode : Nat) :
    ((∃ r, h264Parse tr data = .ok r) ∧ HeaderSafe extra packetMode) ↔
      ¬ data <+: startCode ∧ ProfileInside extra :=
  and_congr (h264Parse_ok_iff tr data) (headerSafe_iff extra packetMode)

/-- A frame without data is read at its first byte. -/
theorem empty_frame_read : ¬ ((∃ r, h264Parse {} [] = .ok r) ∧ HeaderSafe [] 1) := by
  rintro ⟨⟨r, hr⟩, -⟩
  cases hr

/-- An SPS of one byte, behind a PPS, is read behind the end of the extra data. -/
example : encodeHeader [0, 0, 0, 1, 0x68, 0xEE, 0, 0, 0, 1, 0x67] 1 = .error .read := by decide

end H264Parser

end StreamSwitch
