import StreamSwitch.FfmpegSender.CheckedSps
import StreamSwitch.FfmpegSender.Mpeg4

/-!
# What the MPEG-4 analyser accepts

The syntax of the headers as `Mpeg4_Analyse` knows it. `mpeg4Analyse_eq_ok` says what has to be in the
buffer that nothing fails: headers of which the last one is one to return after, each with its two
words in the buffer, and none that is skipped over more than one word.
-/

namespace StreamSwitch.DecSps

open Bits Sentences

namespace Mpeg4

/-! ## The syntax -/

/-- A bit that is looked at. -/
def flag (b : Bool) : List Token := [.look (BitVec.ofBool b), .skip 1]

/-- A number that is read. -/
def number {n : Nat} (v : BitVec n) : List Token := [.look v, .skip n]

/-- A part that is there if a bit is set. -/
def optional {S : Type} (toks : S → List Token) : Option S → List Token
  | none => flag false
  | some s => flag true ++ toks s

def ifSet (toks : List Token) (b : Bool) : List Token := flag b ++ if b then toks else []

/-- What is behind the start code `0x01b5`. -/
structure VisualObject where
  verId : Bool
  type : BitVec 4
  /-- Whether there is a colour description in the description of the video signal. -/
  signal : Option Bool

namespace VisualObject

def tokens (v : VisualObject) : List Token :=
  .skip 32 :: ifSet [.skip 4, .skip 3] v.verId ++ .look v.type ::
    if v.type = 1 then .skip 4 :: optional (fun colour => .skip 4 :: ifSet [.skip 24] colour) v.signal
    else []

/-- Only video is gone through. -/
def ret (v : VisualObject) : Option Int := if v.type = 1 then none else some (-1)

end VisualObject

/-- The end of a layer. -/
structure VolEnd where
  width : BitVec 13
  height : BitVec 13
  scalability : Bool

namespace VolEnd

def tokens (e : VolEnd) (verId shape : Nat) : List Token :=
  if shape = 0 then .skip 1 :: number e.width ++ .skip 1 :: number e.height
  else if shape = 2 then
    if verId ≠ 1 then flag e.scalability ++ if e.scalability then [] else [.skip 1] else [.skip 1]
  else []

/-- Behind a layer of binary shape it goes on. -/
def ret (e : VolEnd) (verId shape : Nat) : Option Int :=
  if shape = 0 then some 0
  else if shape = 2 ∧ (verId ≠ 1 → e.scalability = false) then none else some (-1)

def after (e : VolEnd) (l : Locals) : Locals :=
  if l.shape = 0 then
    { l with out := { l.out with width := e.width.toNat, height := e.height.toNat } }
  else l

end VolEnd

/-- What is behind the start code of a layer. -/
structure Vol where
  type : BitVec 8
  verId : Option (BitVec 4)
  aspect : BitVec 4
  /-- Whether there are control parameters. They have no VBV parameters. -/
  control : Bool
  shape : BitVec 2
  resolution : BitVec 16
  fixedRate : Bool
  rest : VolEnd

def verIdTokens : Option (BitVec 4) → List Token := optional fun id => number id ++ [.skip 3]

def aspectTokens (aspect : BitVec 4) : List Token :=
  number aspect ++ if aspect = 15 then [.skip 16] else []

def controlTokens : Bool → List Token := ifSet (.skip 3 :: flag false)

def shapeTokens (verId : Nat) (shape : BitVec 2) : List Token :=
  number shape ++ if shape = 3 ∧ verId ≠ 1 then [.skip 4] else []

def timeTokens (resolution : BitVec 16) (fixedRate : Bool) : List Token :=
  .skip 1 :: number resolution ++ .skip 1 :: ifSet [.skip (timeIncBitsOf resolution)] fixedRate

namespace Vol

variable (v : Vol)

/-- The types that are gone through. -/
def Known : Prop := v.type = 1 ∨ v.type = 3 ∨ v.type = 4 ∨ v.type = 0

instance : Decidable v.Known := inferInstanceAs (Decidable (_ ∨ _))

def version : Nat := v.verId.elim 1 BitVec.toNat

def tokens : List Token :=
  .skip 33 :: .look v.type ::
    if v.Known then
      .skip 8 :: verIdTokens v.verId ++ aspectTokens v.aspect ++ controlTokens v.control ++
        shapeTokens v.version v.shape ++ timeTokens v.resolution v.fixedRate ++
          v.rest.tokens v.version v.shape.toNat
    else []

def ret : Option Int := if v.Known then v.rest.ret v.version v.shape.toNat else some (-1)

def after (l : Locals) : Locals :=
  if v.Known then v.rest.after (l.timed v.shape.toNat v.resolution) else l

end Vol

/-- What is behind the start code `0x01b6`. -/
structure Picture where
  codingType : BitVec 2
  moduloTimeBase : Nat
  /-- Whether the quantiser is changed, if the picture is coded. -/
  coded : Option Bool

def moduloTokens (n : Nat) : List Token := (List.replicate n (flag true)).flatten ++ flag false

def roundingTokens (codingType : BitVec 32) (shape : Nat) : List Token :=
  if shape ≠ 2 ∧ (codingType = 1 ∨ codingType = 3) then [.skip 1] else []

def sizeTokens (shape : Nat) (change : Bool) : List Token :=
  if shape ≠ 0 then
    [.skip 13, .skip 1, .skip 13, .skip 1, .skip 13, .skip 1, .skip 13, .skip 2] ++
      ifSet [.skip 8] change
  else []

def pictureTimeTokens (timeIncBits : Nat) : List Token :=
  if timeIncBits ≠ 0 then [.skip timeIncBits] else []

def Picture.tokens (p : Picture) (l : Locals) : List Token :=
  [.skip 32] ++ (number p.codingType ++ (moduloTokens p.moduloTimeBase ++ ([.skip 1] ++
    (pictureTimeTokens l.timeIncBits ++ ([.skip 1] ++
      optional (fun change => roundingTokens (p.codingType.setWidth 32) l.shape ++
        sizeTokens l.shape change) p.coded)))))

/-- A header behind its start code. -/
inductive Body
  | sequence
  | visualObject (v : VisualObject)
  | layer (v : Vol)
  | gop
  | picture (p : Picture)
  | userData
  | other

namespace Body

def kind : Body → Kind
  | sequence => .sequence
  | visualObject _ => .visualObject
  | layer _ => .layer
  | gop => .gop
  | picture _ => .picture
  | userData => .userData
  | other => .other

def tokens (l : Locals) : Body → List Token
  | sequence => [.skip 40]
  | visualObject v => v.tokens
  | layer v => v.tokens
  | gop => [.skip 32, .skip 18, .skip 2]
  | picture p => p.tokens l
  | userData => [.skip 48]
  | other => [.skip 32]

/-- What is returned behind the header. -/
def ret : Body → Option Int
  | visualObject v => v.ret
  | layer v => v.ret
  | picture _ => some (-1)
  | _ => none

def after (l : Locals) : Body → Locals
  | layer v => v.after l
  | _ => l

end Body

/-- A header with its start code. -/
def headerTokens (l : Locals) (startCode : BitVec 32) (b : Body) : List Token :=
  .align :: .look startCode :: b.tokens l

/-- Headers up to one behind which the analyser returns, and what it returns then. -/
inductive Stream : Locals → List Token → Int × Out → Prop
  | last {l : Locals} {startCode : BitVec 32} {b : Body} {ret : Int} (hkind : b.kind = kind startCode)
      (hret : b.ret = some ret) :
      Stream l (headerTokens l startCode b) (ret, (b.after l).out)
  | more {l : Locals} {startCode : BitVec 32} {b : Body} {ts : List Token} {r : Int × Out}
      (hkind : b.kind = kind startCode) (hret : b.ret = none) (hts : Stream (b.after l) ts r) :
      Stream l (headerTokens l startCode b ++ ts) r

/-- The variables that the syntax depends on are the same. -/
structure Locals.Agree (l l' : Locals) : Prop where
  shape : l'.shape = l.shape
  timeIncBits : l'.timeIncBits = l.timeIncBits

theorem Body.tokens_agree {l l' : Locals} (h : l.Agree l') (b : Body) : b.tokens l' = b.tokens l := by
  cases b with
  | picture p => simp only [tokens, Picture.tokens, h.shape, h.timeIncBits]
  | _ => rfl

theorem VolEnd.shape_after (e : VolEnd) (l : Locals) : (e.after l).shape = l.shape := by
  unfold after
  split
  · rfl
  · rfl

theorem VolEnd.timeIncBits_after (e : VolEnd) (l : Locals) :
    (e.after l).timeIncBits = l.timeIncBits := by
  unfold after
  split
  · rfl
  · rfl

theorem Vol.after_agree {l l' : Locals} (h : l.Agree l') (v : Vol) :
    (v.after l).Agree (v.after l') := by
  unfold after
  split
  · constructor
    · rw [VolEnd.shape_after, VolEnd.shape_after]
      rfl
    · rw [VolEnd.timeIncBits_after, VolEnd.timeIncBits_after]
      rfl
  · exact h

theorem Body.after_agree {l l' : Locals} (h : l.Agree l') (b : Body) :
    (b.after l).Agree (b.after l') := by
  cases b with
  | layer v => exact v.after_agree h
  | _ => exact h

/-- What is returned does not depend on what the pointers are to. -/
theorem Stream.agree {l l' : Locals} {ts : List Token} {r : Int × Out} (hts : Stream l ts r)
    (h : l.Agree l') : ∃ out, Stream l' ts (r.1, out) := by
  induction hts generalizing l' with
  | @last l startCode b ret hkind hret =>
    have htokens : headerTokens l startCode b = headerTokens l' startCode b := by
      rw [headerTokens, headerTokens, b.tokens_agree h]
    rw [htokens]
    exact ⟨_, .last hkind hret⟩
  | @more l startCode b ts r hkind hret _ ih =>
    obtain ⟨out, hout⟩ := ih (b.after_agree h)
    have htokens : headerTokens l startCode b = headerTokens l' startCode b := by
      rw [headerTokens, headerTokens, b.tokens_agree h]
    rw [htokens]
    exact ⟨out, .more hkind hret hout⟩

/-! ## What the headers accept -/

section Parsing

variable {pBuf : Bytes} {β : Type} {p : Read Unit} {q : Read β} {toks : List Token}
  {L : Language Token β}

theorem getBit_flag : Parses (text pBuf) (getBit pBuf) fun ts a => ∃ b, ts = flag b ∧ a = b := by
  refine getBit_parses.congr fun ts a => ?_
  constructor
  · rintro rfl
    exact ⟨a, rfl, rfl⟩
  · rintro ⟨b, rfl, rfl⟩
    rfl

theorem ifBit_parses {S : Type} {toks : S → List Token}
    (h : Parses (text pBuf) p fun ts _ => ∃ s, ts = toks s) :
    Parses (text pBuf) (ifBit pBuf p) fun ts _ => ∃ o, ts = optional toks o := by
  have hpart : Parses (text pBuf) p fun ts _ => ∃ s, True ∧ ts = toks s := by
    simpa only [true_and] using h
  refine (Parses.optional getBit_flag (fun _ => Iff.rfl) hpart).congr fun ts _ => ?_
  refine exists_congr fun o => (and_iff_right fun _ _ => trivial).trans ?_
  cases o with
  | none => exact Iff.rfl
  | some s => exact Iff.rfl

/-- A part without a meaning, if the next bit is set. -/
theorem ifSet_parses (h : Parses (text pBuf) p fun ts _ => ts = toks) :
    Parses (text pBuf) (ifBit pBuf p) fun ts _ => ∃ b, ts = ifSet toks b :=
  Parses.whenSet getBit_flag (fun _ => Iff.rfl) h

theorem visualObject_parses (l : Locals) : Parses (text pBuf) (visualObject pBuf l) fun ts st =>
    ∃ v : VisualObject, ts = v.tokens ∧ st = (v.ret, l) := by
  have hverId := ifSet_parses (Parses.both (@dropBits_parses pBuf 4 (by decide)
    (by decide)) (skipBits_parses (n := 3) (by decide)))
  have hsignal := ifBit_parses (Parses.andOne (@skipBits_parses pBuf 4 (by decide))
    (ifSet_parses (skipBits_parses (n := 24) (by decide))))
  have htype (type : BitVec 4) : type.setWidth 32 ≠ 1 ↔ type ≠ 1 := by
    revert type
    decide
  refine (Parses.andThen (skipBits_parses (n := 32) le_rfl) (hverId.bind fun _ =>
    (showBits_parses (n := 4) (by decide) (by decide)).bind fun type =>
      (Parses.pure (some (-1), l)).ite (type ≠ 1) (Parses.andThen (skipBits_parses (n := 4) (by decide))
        (hsignal.bind fun _ => Parses.pure (none, l))))).congr fun ts st => ?_
  constructor
  · rintro ⟨_, ⟨_, _, _, ⟨verId, rfl⟩, ⟨_, ys, _, ⟨type, rfl, rfl⟩, hys, rfl⟩, rfl⟩, rfl⟩
    by_cases hone : type = 1
    · rw [if_neg fun h => (htype type).1 h hone] at hys
      obtain ⟨_, ⟨_, _, _, ⟨signal, rfl⟩, ⟨rfl, rfl⟩, rfl⟩, rfl⟩ := hys
      refine ⟨⟨verId, type, signal⟩, ?_, ?_⟩
      · simp only [VisualObject.tokens, if_pos hone, List.append_nil, List.cons_append,
          List.nil_append]
      · rw [VisualObject.ret, if_pos hone]
    · rw [if_pos ((htype type).2 hone)] at hys
      obtain ⟨rfl, rfl⟩ := hys
      refine ⟨⟨verId, type, none⟩, ?_, ?_⟩
      · simp only [VisualObject.tokens, if_neg hone, List.append_nil, List.cons_append,
          List.nil_append]
      · rw [VisualObject.ret, if_neg hone]
  · rintro ⟨⟨verId, type, signal⟩, rfl, rfl⟩
    refine ⟨_, ⟨_, _, (), ⟨verId, rfl⟩, ⟨_, if type = 1 then .skip 4 :: optional
      (fun colour => .skip 4 :: ifSet [.skip 24] colour) signal else [], _, ⟨type, rfl, rfl⟩, ?_, rfl⟩,
        rfl⟩, ?_⟩
    · by_cases hone : type = 1
      · simp only [if_neg fun h => (htype type).1 h hone, if_pos hone, VisualObject.ret]
        exact ⟨_, ⟨_, [], (), ⟨signal, rfl⟩, ⟨rfl, rfl⟩, rfl⟩, by rw [List.append_nil]; rfl⟩
      · simp only [if_pos ((htype type).2 hone), if_neg hone, VisualObject.ret]
        exact ⟨trivial, trivial⟩
    · simp only [VisualObject.tokens, List.cons_append, List.nil_append]

/-! ### Layers -/

theorem volVerId_parses : Parses (text pBuf) (volVerId pBuf) fun ts a =>
    ∃ o : Option (BitVec 4), ts = verIdTokens o ∧ a = o.elim 1 BitVec.toNat := by
  refine (getBit_parses.bind fun b => ((getBits_parses (n := 4) (by decide) (by decide)).bind
    fun verId => (skipBits_parses (n := 3) (by decide)).bind fun _ => Parses.pure verId.toNat).ite
      (b = true) (Parses.pure 1)).congr fun ts a => ?_
  have htoNat (v : BitVec 4) : (v.setWidth 32).toNat = v.toNat := by
    revert v
    decide
  constructor
  · rintro ⟨_, ys, b, rfl, hys, rfl⟩
    cases b with
    | false =>
      obtain ⟨rfl, rfl⟩ := hys
      exact ⟨none, rfl, rfl⟩
    | true =>
      obtain ⟨_, _, _, ⟨v, rfl, rfl⟩, ⟨_, _, _, rfl, ⟨rfl, rfl⟩, rfl⟩, rfl⟩ := hys
      exact ⟨some v, rfl, htoNat v⟩
  · rintro ⟨o, rfl, rfl⟩
    cases o with
    | none => exact ⟨_, [], false, rfl, ⟨rfl, rfl⟩, rfl⟩
    | some v =>
      exact ⟨_, _, true, rfl, ⟨_, _, _, ⟨v, rfl, rfl⟩, ⟨_, [], (), rfl, ⟨rfl, (htoNat v).symm⟩, rfl⟩,
        rfl⟩, rfl⟩

theorem aspectRatio_parses : Parses (text pBuf) (aspectRatio pBuf) fun ts _ =>
    ∃ aspect, ts = aspectTokens aspect := by
  have hfull (v : BitVec 4) : v.setWidth 32 = 15 ↔ v = 15 := by
    revert v
    decide
  refine ((getBits_parses (n := 4) (by decide) (by decide)).bind fun aspect =>
    (skipBits_parses (n := 16) (by decide)).ite (aspect = 15) (Parses.pure ())).congr fun ts a => ?_
  constructor
  · rintro ⟨_, ys, _, ⟨v, rfl, rfl⟩, hys, rfl⟩
    refine ⟨v, ?_⟩
    by_cases h : v = 15
    · rw [if_pos ((hfull v).2 h)] at hys
      rw [hys, aspectTokens, if_pos h]
      rfl
    · rw [if_neg (mt (hfull v).1 h)] at hys
      rw [hys.1, aspectTokens, if_neg h]
      rfl
  · rintro ⟨v, rfl⟩
    refine ⟨_, if v = 15 then [.skip 16] else [], _, ⟨v, rfl, rfl⟩, ?_, rfl⟩
    by_cases h : v = 15
    · simp only [if_pos ((hfull v).2 h), if_pos h]
    · simp only [if_neg (mt (hfull v).1 h), if_neg h]
      trivial

theorem shape_parses (verId : Nat) : Parses (text pBuf) (getBits pBuf 2 >>= fun shape =>
    shapeExtension pBuf verId shape >>= fun _ => (pure shape.toNat : Read Nat)) fun ts a =>
      ∃ shape, ts = shapeTokens verId shape ∧ a = shape.toNat := by
  have hthree (v : BitVec 2) : v.setWidth 32 = 3 ↔ v = 3 := by
    revert v
    decide
  have htoNat (v : BitVec 2) : (v.setWidth 32).toNat = v.toNat := by
    revert v
    decide
  refine ((getBits_parses (n := 2) (by decide) (by decide)).bind fun shape =>
    ((skipBits_parses (n := 4) (by decide)).ite (shape = 3 ∧ verId ≠ 1) (Parses.pure ())).bind
      fun _ => Parses.pure shape.toNat).congr fun ts a => ?_
  constructor
  · rintro ⟨_, _, _, ⟨v, rfl, rfl⟩, ⟨xs, _, _, hxs, ⟨rfl, rfl⟩, rfl⟩, rfl⟩
    refine ⟨v, ?_, htoNat v⟩
    rw [List.append_nil, shapeTokens]
    congr 1
    by_cases h : v = 3 ∧ verId ≠ 1
    · rw [if_pos ⟨(hthree v).2 h.1, h.2⟩] at hxs
      rw [hxs, if_pos h]
    · rw [if_neg fun h' => h ⟨(hthree v).1 h'.1, h'.2⟩] at hxs
      rw [hxs.1, if_neg h]
  · rintro ⟨v, rfl, rfl⟩
    refine ⟨_, _, _, ⟨v, rfl, rfl⟩, ⟨if v = 3 ∧ verId ≠ 1 then [.skip 4] else [], [], (), ?_,
      ⟨rfl, (htoNat v).symm⟩, rfl⟩, by rw [List.append_nil]; rfl⟩
    by_cases h : v = 3 ∧ verId ≠ 1
    · simp only [if_pos h, if_pos (show v.setWidth 32 = 3 ∧ verId ≠ 1 from ⟨(hthree v).2 h.1, h.2⟩)]
    · simp only [if_neg h, if_neg fun h' : v.setWidth 32 = 3 ∧ verId ≠ 1 =>
        h ⟨(hthree v).1 h'.1, h'.2⟩]
      trivial

theorem ite_bind {c : Prop} [Decidable c] (p p' : Read Unit) (q : Read β) :
    ((if c then p else p') >>= fun _ => q) = if c then p >>= fun _ => q else p' >>= fun _ => q := by
  split
  · rfl
  · rfl

theorem ifBit_bind (p : Read Unit) (q : Read β) : (ifBit pBuf p >>= fun _ => q) =
    getBit pBuf >>= fun b => if b then p >>= fun _ => q else q := by
  unfold ifBit
  rw [bind_assoc]
  congr 1
  funext b
  rw [ite_bind, pure_bind]

/-- With VBV parameters, the shape is read at a position outside the word. -/
theorem control_parses (hq : Stuck q) (h : Parses (text pBuf) q L) :
    Parses (text pBuf) (controlParameters pBuf >>= fun _ => q) fun ts a =>
      ∃ control ys, L ys a ∧ ts = controlTokens control ++ ys := by
  have hfar : Parses (text pBuf) (skipBits pBuf 81 >>= fun _ => q) fun _ _ => False :=
    Parses.never fun i => skipBits_far hq (by omega)
  have hvbv : Parses (text pBuf) (ifBit pBuf (skipBits pBuf 81) >>= fun _ => q) fun ts a =>
      ∃ ys, L ys a ∧ ts = flag false ++ ys := by
    rw [ifBit_bind]
    refine (getBit_parses.bind fun b => hfar.ite (b = true) h).congr fun ts a => ?_
    constructor
    · rintro ⟨_, ys, b, rfl, hys, rfl⟩
      cases b with
      | false => exact ⟨ys, hys, rfl⟩
      | true => exact hys.elim
    · rintro ⟨ys, hys, rfl⟩
      exact ⟨_, ys, false, rfl, hys, rfl⟩
  have hpresent := Parses.andThen (@skipBits_parses pBuf 3 (by decide)) hvbv
  have heq : (controlParameters pBuf >>= fun _ => q) = getBit pBuf >>= fun b =>
      if b then skipBits pBuf 3 >>= fun _ => ifBit pBuf (skipBits pBuf 81) >>= fun _ => q
      else q := by
    unfold controlParameters
    rw [ifBit_bind]
    congr 1
    funext b
    rw [bind_assoc]
  rw [heq]
  refine (getBit_parses.bind fun b => hpresent.ite (b = true) h).congr fun ts a => ?_
  constructor
  · rintro ⟨_, ys, b, rfl, hys, rfl⟩
    cases b with
    | false => exact ⟨false, ys, hys, rfl⟩
    | true =>
      obtain ⟨_, ⟨zs, hzs, rfl⟩, rfl⟩ := hys
      exact ⟨true, zs, hzs, rfl⟩
  · rintro ⟨control, ys, hys, rfl⟩
    cases control with
    | false => exact ⟨_, ys, false, rfl, hys, rfl⟩
    | true => exact ⟨_, _, true, rfl, ⟨_, ⟨ys, hys, rfl⟩, rfl⟩, rfl⟩

theorem volShape_parses (verId : Nat) : Parses (text pBuf) (volShape pBuf verId) fun ts a =>
    ∃ control shape, ts = controlTokens control ++ shapeTokens verId shape ∧ a = shape.toNat := by
  refine (control_parses ((stuck_getBits 2).bind _) (shape_parses verId)).congr fun ts a => ?_
  constructor
  · rintro ⟨control, _, ⟨shape, rfl, rfl⟩, rfl⟩
    exact ⟨control, shape, rfl, rfl⟩
  · rintro ⟨control, shape, rfl, rfl⟩
    exact ⟨control, _, ⟨shape, rfl, rfl⟩, rfl⟩

theorem volTime_parses (l : Locals) (shape : Nat) :
    Parses (text pBuf) (volTime pBuf l shape) fun ts l' => ∃ resolution fixedRate,
      ts = timeTokens resolution fixedRate ∧ l' = l.timed shape resolution := by
  have hsame (v : BitVec 16) : (v.setWidth 32).setWidth 16 = v := by
    rw [BitVec.setWidth_setWidth_of_le _ (by decide), BitVec.setWidth_eq]
  refine (Parses.andThen (skipBits_parses (n := 1) (by decide)) ((getBits_parses (n := 16) (by decide)
    (by decide)).bind fun resolution => Parses.andThen (skipBits_parses (n := 1) (by decide))
      ((ifSet_parses (skipBits_parses
        (Nat.le_trans (l.timed shape (resolution.setWidth 16)).small (by decide)))).bind fun _ =>
          Parses.pure (l.timed shape (resolution.setWidth 16))))).congr fun ts l' => ?_
  constructor
  · rintro ⟨_, ⟨_, _, _, ⟨v, rfl, rfl⟩, ⟨_, ⟨_, _, _, ⟨fixedRate, rfl⟩, ⟨rfl, rfl⟩, rfl⟩, rfl⟩, rfl⟩,
      rfl⟩
    rw [hsame]
    exact ⟨v, fixedRate, by rw [List.append_nil]; rfl, rfl⟩
  · rintro ⟨v, fixedRate, rfl, rfl⟩
    refine ⟨_, ⟨_, _, _, ⟨v, rfl, rfl⟩, ⟨_, ⟨_, [], (), ⟨fixedRate, rfl⟩, ⟨rfl, ?_⟩, rfl⟩, rfl⟩, rfl⟩,
      ?_⟩
    · rw [hsame]
    · rw [hsame, List.append_nil]
      rfl

theorem scalability_parses (verId : Nat) : Parses (text pBuf) (scalability pBuf verId) fun ts b =>
    if verId ≠ 1 then ts = flag b else ts = [] ∧ b = false :=
  getBit_parses.ite (verId ≠ 1) (Parses.pure false)

theorem volBinary_parses (verId : Nat) (l : Locals) :
    Parses (text pBuf) (volBinary pBuf verId l) fun ts st => ∃ refused : Bool,
      (ts = if verId ≠ 1 then flag refused ++ if refused then [] else [.skip 1] else [.skip 1]) ∧
        st = (if verId ≠ 1 → refused = false then none else some (-1), l) := by
  refine ((scalability_parses verId).bind fun refused => (Parses.pure (some (-1), l)).ite
    (refused = true) (Parses.andThen (skipBits_parses (n := 1) (by decide))
      (Parses.pure (none, l)))).congr fun ts st => ?_
  by_cases hver : verId ≠ 1
  · simp only [if_pos hver, Language.seq]
    constructor
    · rintro ⟨_, ys, refused, rfl, hys, rfl⟩
      cases refused with
      | false =>
        obtain ⟨_, ⟨rfl, rfl⟩, rfl⟩ := hys
        exact ⟨false, rfl, by rw [if_pos fun _ => rfl]⟩
      | true =>
        obtain ⟨rfl, rfl⟩ := hys
        exact ⟨true, rfl, by rw [if_neg fun h => absurd (h hver) (by decide)]⟩
    · rintro ⟨refused, rfl, rfl⟩
      cases refused with
      | false =>
        exact ⟨_, _, false, rfl, ⟨_, ⟨rfl, by rw [if_pos fun _ => rfl]⟩, rfl⟩, rfl⟩
      | true =>
        exact ⟨_, [], true, rfl, ⟨rfl, by rw [if_neg fun h => absurd (h hver) (by decide)]⟩, rfl⟩
  · simp only [if_neg hver, Language.seq]
    constructor
    · rintro ⟨_, ys, _, ⟨rfl, rfl⟩, hys, rfl⟩
      obtain ⟨_, ⟨rfl, rfl⟩, rfl⟩ := hys
      exact ⟨false, rfl, by rw [if_pos fun _ => rfl]⟩
    · rintro ⟨refused, rfl, rfl⟩
      exact ⟨[], _, false, ⟨rfl, rfl⟩, ⟨_, ⟨rfl, by rw [if_pos fun h => absurd h hver]⟩, rfl⟩, rfl⟩

theorem volEnd_parses (verId : Nat) (l : Locals) :
    Parses (text pBuf) (volEnd pBuf verId l) fun ts st => ∃ e : VolEnd,
      ts = e.tokens verId l.shape ∧ st = (e.ret verId l.shape, e.after l) := by
  have htoNat (v : BitVec 13) : (v.setWidth 32).toNat = v.toNat := by
    rw [BitVec.toNat_setWidth, Nat.mod_eq_of_lt]
    exact Nat.lt_trans v.isLt (by decide)
  have hsize := Parses.andThen (@skipBits_parses pBuf 1 (by decide))
    ((getBits_parses (n := 13) (by decide) (by decide)).bind fun width =>
      Parses.andThen (skipBits_parses (n := 1) (by decide))
        ((getBits_parses (n := 13) (by decide) (by decide)).bind fun height =>
          Parses.pure ((some 0, { l with out := { l.out with
            width := width.toNat, height := height.toNat } }) : Step)))
  refine ((hsize.ite (l.shape = 0) (Parses.pure (some (-1), l))).ite (l.shape ≠ 2)
    (volBinary_parses verId l)).congr fun ts st => ?_
  by_cases hzero : l.shape = 0
  · have hne : l.shape ≠ 2 := by omega
    simp only [if_pos hne, if_pos hzero, VolEnd.tokens, VolEnd.ret, VolEnd.after]
    constructor
    · rintro ⟨_, ⟨_, _, _, ⟨width, rfl, rfl⟩, ⟨_, ⟨_, _, _, ⟨height, rfl, rfl⟩, ⟨rfl, rfl⟩, rfl⟩, rfl⟩,
        rfl⟩, rfl⟩
      refine ⟨⟨width, height, false⟩, by rw [List.append_nil]; rfl, ?_⟩
      rw [htoNat, htoNat]
    · rintro ⟨e, rfl, rfl⟩
      refine ⟨_, ⟨_, _, _, ⟨e.width, rfl, rfl⟩, ⟨_, ⟨_, [], _, ⟨e.height, rfl, rfl⟩, ⟨rfl, ?_⟩, rfl⟩,
        rfl⟩, rfl⟩, by rw [List.append_nil]; rfl⟩
      rw [htoNat, htoNat]
  · by_cases htwo : l.shape = 2
    · simp only [if_neg (not_not_intro htwo), if_neg hzero, if_pos htwo, VolEnd.tokens, VolEnd.ret,
        VolEnd.after]
      constructor
      · rintro ⟨refused, rfl, rfl⟩
        exact ⟨⟨0, 0, refused⟩, rfl, by simp only [htwo, true_and]⟩
      · rintro ⟨e, rfl, rfl⟩
        exact ⟨e.scalability, rfl, by simp only [htwo, true_and]⟩
    · simp only [if_pos htwo, if_neg htwo, if_neg hzero, VolEnd.tokens, VolEnd.ret, VolEnd.after]
      constructor
      · rintro ⟨rfl, rfl⟩
        exact ⟨⟨0, 0, false⟩, rfl, by rw [if_neg fun h => htwo h.1]⟩
      · rintro ⟨e, rfl, rfl⟩
        exact ⟨rfl, by rw [if_neg fun h => htwo h.1]⟩

theorem Vol.tokens_of_known {v : Vol} (h : v.Known) : v.tokens = [.skip 33] ++ ([.look v.type] ++
    ([.skip 8] ++ (verIdTokens v.verId ++ (aspectTokens v.aspect ++ (controlTokens v.control ++
      shapeTokens v.version v.shape ++ (timeTokens v.resolution v.fixedRate ++
        v.rest.tokens v.version v.shape.toNat)))))) := by
  simp only [Vol.tokens, if_pos h, List.append_assoc, List.cons_append, List.nil_append]

theorem Vol.tokens_of_unknown {v : Vol} (h : ¬ v.Known) : v.tokens = [.skip 33, .look v.type] := by
  simp only [Vol.tokens, if_neg h]

theorem vol_parses (l : Locals) : Parses (text pBuf) (vol pBuf l) fun ts st =>
    ∃ v : Vol, ts = v.tokens ∧ st = (v.ret, v.after l) := by
  have hknown (v : BitVec 8) : (v.setWidth 32 ≠ 1 ∧ v.setWidth 32 ≠ 3 ∧ v.setWidth 32 ≠ 4 ∧
      v.setWidth 32 ≠ 0) ↔ ¬ (v = 1 ∨ v = 3 ∨ v = 4 ∨ v = 0) := by
    revert v
    decide +kernel
  have hrest := Parses.andThen (@skipBits_parses pBuf 8 (by decide))
    (volVerId_parses.bind fun verId => aspectRatio_parses.bind fun _ =>
      (volShape_parses verId).bind fun shape => (volTime_parses l shape).bind fun l =>
        volEnd_parses verId l)
  refine (skipBits_bind ((stuck_showBits 8).bind _) ((showBits_parses (n := 8) (by decide)
    (by decide)).bind fun type => (Parses.pure (some (-1), l)).ite (type ≠ 1 ∧ type ≠ 3 ∧ type ≠ 4 ∧
      type ≠ 0) hrest)).congr fun ts st => ?_
  constructor
  · rintro ⟨_, ⟨_, ys, _, ⟨type, rfl, rfl⟩, hys, rfl⟩, rfl⟩
    by_cases h : type = 1 ∨ type = 3 ∨ type = 4 ∨ type = 0
    · rw [if_neg fun h' => (hknown type).1 h' h] at hys
      obtain ⟨_, ⟨_, _, _, ⟨verId, rfl, rfl⟩, ⟨_, _, _, ⟨aspect, rfl⟩, ⟨_, _, _,
        ⟨control, shape, rfl, rfl⟩, ⟨_, _, _, ⟨resolution, fixedRate, rfl, rfl⟩, ⟨e, rfl, rfl⟩, rfl⟩,
          rfl⟩, rfl⟩, rfl⟩, rfl⟩ := hys
      have hv : Vol.Known ⟨type, verId, aspect, control, shape, resolution, fixedRate, e⟩ := h
      refine ⟨_, (Vol.tokens_of_known hv).symm, ?_⟩
      rw [Vol.ret, Vol.after, if_pos hv, if_pos hv]
      rfl
    · rw [if_pos ((hknown type).2 h)] at hys
      obtain ⟨rfl, rfl⟩ := hys
      have hv : ¬ Vol.Known ⟨type, none, 0, false, 0, 0, false, ⟨0, 0, false⟩⟩ := h
      refine ⟨_, (Vol.tokens_of_unknown hv).symm, ?_⟩
      rw [Vol.ret, Vol.after, if_neg hv, if_neg hv]
  · rintro ⟨v, rfl, rfl⟩
    by_cases h : v.Known
    · rw [Vol.tokens_of_known h, Vol.ret, Vol.after, if_pos h, if_pos h]
      refine ⟨_, ⟨_, _, _, ⟨v.type, rfl, rfl⟩, ?_, rfl⟩, rfl⟩
      dsimp only
      rw [if_neg fun h' => (hknown v.type).1 h' h]
      exact ⟨_, ⟨_, _, _, ⟨v.verId, rfl, rfl⟩, ⟨_, _, (), ⟨v.aspect, rfl⟩, ⟨_, _, _,
        ⟨v.control, v.shape, rfl, rfl⟩, ⟨_, _, _, ⟨v.resolution, v.fixedRate, rfl, rfl⟩,
          ⟨v.rest, rfl, rfl⟩, rfl⟩, rfl⟩, rfl⟩, rfl⟩, rfl⟩
    · rw [Vol.tokens_of_unknown h, Vol.ret, Vol.after, if_neg h, if_neg h]
      refine ⟨_, ⟨_, [], _, ⟨v.type, rfl, rfl⟩, ?_, rfl⟩, rfl⟩
      dsimp only
      rw [if_pos ((hknown v.type).2 h)]
      exact ⟨rfl, rfl⟩

/-! ### Pictures -/

theorem moduloTimeBase_parses : Parses (text pBuf) (moduloTimeBase pBuf : Read Unit) fun ts _ =>
    ∃ n, ts = moduloTokens n := by
  intro i hi a s
  constructor
  · show moduloTimeBase pBuf (load pBuf i) = .ok (a, s) → _
    generalize hbs : load pBuf i = bs
    intro hok
    fun_induction moduloTimeBase pBuf bs generalizing i with
    | case1 bs e he => cases hok
    | case2 bs bs' hget ih =>
      subst hbs
      obtain ⟨_, rfl, hat, rfl⟩ := (getBit_parses i hi true bs').1 hget
      obtain ⟨_, ⟨n, rfl⟩, hrest, rfl⟩ := ih _ (hat.inside hi) rfl hok
      refine ⟨_, ⟨n + 1, rfl⟩, ?_⟩
      have htokens : moduloTokens (n + 1) = flag true ++ moduloTokens n := by
        unfold moduloTokens
        rw [List.replicate_succ, List.flatten_cons, List.append_assoc]
      rw [htokens]
      exact ⟨((text pBuf).stands_append ..).2 ⟨hat, hrest⟩, by rw [(text pBuf).stop_append]; rfl⟩
    | case3 bs bs' hget =>
      subst hbs
      cases hok
      obtain ⟨_, rfl, hat, rfl⟩ := (getBit_parses i hi false _).1 hget
      exact ⟨_, ⟨0, rfl⟩, hat, rfl⟩
  · rintro ⟨_, ⟨n, rfl⟩, hat, rfl⟩
    show moduloTimeBase pBuf (load pBuf i) = _
    induction n generalizing i with
    | zero =>
      have hget := (getBit_parses i hi false _).2 ⟨_, rfl, hat, rfl⟩
      rw [moduloTimeBase_eq]
      exact except_bind_eq_ok.2 ⟨_, hget, rfl⟩
    | succ n ih =>
      have htokens : moduloTokens (n + 1) = flag true ++ moduloTokens n := by
        unfold moduloTokens
        rw [List.replicate_succ, List.flatten_cons, List.append_assoc]
      rw [htokens] at hat ⊢
      obtain ⟨hfirst, hrest⟩ := ((text pBuf).stands_append ..).1 hat
      have hget := (getBit_parses i hi true _).2 ⟨_, rfl, hfirst, rfl⟩
      rw [moduloTimeBase_eq, (text pBuf).stop_append]
      exact except_bind_eq_ok.2 ⟨_, hget, ih _ (hfirst.inside hi) hrest⟩

theorem vopSize_parses (shape : Nat) : Parses (text pBuf) (vopSize pBuf shape) fun ts _ =>
    ∃ change, ts = sizeTokens shape change := by
  have hskip (n : Nat) (h : n ≤ 32) := @skipBits_parses pBuf n h
  have hdrop := @dropBits_parses pBuf 13 (by decide) (by decide)
  have hchange := ifSet_parses (hskip 8 (by decide))
  have hsize := Parses.andOne hdrop (Parses.andOne (hskip 1 (by decide)) (Parses.andOne hdrop
    (Parses.andOne (hskip 1 (by decide)) (Parses.andOne hdrop (Parses.andOne (hskip 1 (by decide))
      (Parses.andOne hdrop (Parses.andOne (hskip 2 (by decide)) hchange)))))))
  refine (hsize.ite (shape ≠ 0) (Parses.pure ())).congr fun ts _ => ?_
  by_cases h : shape ≠ 0
  · simp only [if_pos h, sizeTokens]
    exact Iff.rfl
  · simp only [if_neg h, sizeTokens, exists_const]
    exact and_iff_left trivial

theorem vopRounding_parses (shape : Nat) (codingType : BitVec 32) :
    Parses (text pBuf) (vopRounding pBuf shape codingType) fun ts _ =>
      ts = roundingTokens codingType shape := by
  unfold vopRounding roundingTokens
  by_cases h : shape ≠ 2 ∧ (codingType = 1 ∨ codingType = 3)
  · rw [if_pos h, if_pos h]
    exact skipBits_parses (by decide)
  · rw [if_neg h, if_neg h]
    exact (Parses.pure ()).congr fun ts _ => and_iff_left rfl

theorem vopTime_parses (l : Locals) : Parses (text pBuf) (vopTime pBuf l.timeIncBits) fun ts _ =>
    ts = pictureTimeTokens l.timeIncBits := by
  have hsmall := l.small
  unfold vopTime pictureTimeTokens
  by_cases h : l.timeIncBits ≠ 0
  · rw [if_pos h, if_pos h]
    exact dropBits_parses (Nat.pos_of_ne_zero h) (by omega)
  · rw [if_neg h, if_neg h]
    exact (Parses.pure ()).congr fun ts _ => and_iff_left rfl

theorem vop_parses (l : Locals) : Parses (text pBuf) (vop pBuf l) fun ts st =>
    ∃ p : Picture, ts = p.tokens l ∧ st = (some (-1), l) := by
  have hskip := @skipBits_parses pBuf 1 (by decide)
  have hcoded (codingType : BitVec 32) := ifBit_parses
    (Parses.andOne (vopRounding_parses l.shape codingType) (@vopSize_parses pBuf l.shape))
  refine (Parses.andThen (skipBits_parses (n := 32) le_rfl) ((getBits_parses (n := 2) (by decide)
    (by decide)).bind fun codingType => moduloTimeBase_parses.bind fun _ => Parses.andThen hskip
      (Parses.andThen (vopTime_parses l) (Parses.andThen hskip ((hcoded codingType).bind fun _ =>
        Parses.pure ((some (-1), l) : Step)))))).congr fun ts st => ?_
  constructor
  · rintro ⟨_, ⟨_, _, _, ⟨v, rfl, rfl⟩, ⟨_, _, _, ⟨n, rfl⟩, ⟨_, ⟨_, ⟨_, ⟨_, _, _, ⟨coded, rfl⟩,
      ⟨rfl, rfl⟩, rfl⟩, rfl⟩, rfl⟩, rfl⟩, rfl⟩, rfl⟩, rfl⟩
    exact ⟨⟨v, n, coded⟩, by rw [List.append_nil]; rfl, rfl⟩
  · rintro ⟨⟨v, n, coded⟩, rfl, rfl⟩
    exact ⟨_, ⟨_, _, _, ⟨v, rfl, rfl⟩, ⟨_, _, (), ⟨n, rfl⟩, ⟨_, ⟨_, ⟨_, ⟨_, [], (), ⟨coded, rfl⟩,
      ⟨rfl, rfl⟩, rfl⟩, rfl⟩, rfl⟩, rfl⟩, rfl⟩, rfl⟩, by rw [List.append_nil]; rfl⟩

theorem gop_parses (l : Locals) : Parses (text pBuf) (gop pBuf l) fun ts st =>
    ts = [.skip 32, .skip 18, .skip 2] ∧ st = (none, l) := by
  refine (Parses.andThen (skipBits_parses (n := 32) le_rfl) (Parses.andThen (skipBits_parses (n := 18)
    (by decide)) (Parses.andThen (skipBits_parses (n := 2) (by decide))
      (Parses.pure ((none, l) : Step))))).congr fun ts st => ?_
  constructor
  · rintro ⟨_, ⟨_, ⟨_, ⟨rfl, rfl⟩, rfl⟩, rfl⟩, rfl⟩
    exact ⟨rfl, rfl⟩
  · rintro ⟨rfl, rfl⟩
    exact ⟨_, ⟨_, ⟨_, ⟨rfl, rfl⟩, rfl⟩, rfl⟩, rfl⟩

end Parsing

/-! ## One header -/

variable {pBuf : Bytes} {i n : Nat} {l : Locals} {k : Kind} {st : Step} {s : Bitstream}

/-- Behind a skip of more than a word: nothing is shown any more, and the loop goes on. -/
structure Lost (pBuf : Bytes) (s : Bitstream) : Prop where
  pos : 32 ≤ s.pos
  aligned : s.pos % 8 = 0
  before : before pBuf.length s = true

/-- The bits of a header that are skipped at once. -/
theorem passed_eq_ok (hi : Token.Inside pBuf i) (halign : i % 8 = 0) (hn : n ≤ 48) (hn8 : n % 8 = 0)
    (h : passed pBuf l n (load pBuf i) = .ok (st, s)) : st = (none, l) ∧
      ((text pBuf).Stands i [.skip n] ∧ s = load pBuf (i + n) ∨ Lost pBuf s) := by
  obtain ⟨_, t, hskip, hok⟩ := bind_eq_ok.1 h
  cases hok
  refine ⟨rfl, ?_⟩
  by_cases hfar : i % 32 + n < 64
  · obtain ⟨hin, rfl⟩ := (skipBits_load hi hfar).1 hskip
    exact .inl ⟨⟨⟨hfar, hin⟩, trivial⟩, rfl⟩
  · obtain ⟨hlt, -⟩ | ⟨-, hpos, htail, hlen⟩ := skipBits_ok hskip
    · have hload : (load pBuf i).pos = i % 32 := rfl
      omega
    · have hload : (load pBuf i).pos = i % 32 := rfl
      refine .inr ⟨by omega, by omega, ?_⟩
      unfold before
      exact decide_eq_true (by omega)

/-- What the header reads is there, so it does not fail. -/
theorem headerOf_of_stands {b : Body} (hi : Token.Inside pBuf i)
    (h : (text pBuf).Stands i (b.tokens l)) : headerOf pBuf l b.kind (load pBuf i) =
      .ok ((b.ret, b.after l), load pBuf ((text pBuf).stop i (b.tokens l))) := by
  have hpassed (n : Nat) (h : (text pBuf).Stands i [.skip n]) :
      passed pBuf l n (load pBuf i) = .ok ((none, l), load pBuf (i + n)) :=
    bind_eq_ok.2 ⟨(), _, (skipBits_load hi h.1.1).2 ⟨h.1.2, rfl⟩, rfl⟩
  cases b with
  | sequence => exact hpassed 40 h
  | userData => exact hpassed 48 h
  | other => exact hpassed 32 h
  | visualObject v => exact (visualObject_parses l i hi _ _).2 ⟨_, ⟨v, rfl, rfl⟩, h, rfl⟩
  | layer v => exact (vol_parses l i hi _ _).2 ⟨_, ⟨v, rfl, rfl⟩, h, rfl⟩
  | gop => exact (gop_parses l i hi _ _).2 ⟨_, ⟨rfl, rfl⟩, h, rfl⟩
  | picture p => exact (vop_parses l i hi _ _).2 ⟨_, ⟨p, rfl, rfl⟩, h, rfl⟩

/-- A header that does not fail is there, or was skipped over too far. -/
theorem headerOf_eq_ok (hi : Token.Inside pBuf i) (halign : i % 8 = 0)
    (h : headerOf pBuf l k (load pBuf i) = .ok (st, s)) :
    (∃ b : Body, b.kind = k ∧ (text pBuf).Stands i (b.tokens l) ∧ st = (b.ret, b.after l) ∧
      s = load pBuf ((text pBuf).stop i (b.tokens l))) ∨ st = (none, l) ∧ Lost pBuf s := by
  have hpassed (b : Body) (n : Nat) (hn : n ≤ 48) (hn8 : n % 8 = 0) (hb : b.tokens l = [.skip n])
      (hst : (b.ret, b.after l) = (none, l)) (h : passed pBuf l n (load pBuf i) = .ok (st, s)) :
      (∃ b' : Body, b'.kind = b.kind ∧ (text pBuf).Stands i (b'.tokens l) ∧
        st = (b'.ret, b'.after l) ∧ s = load pBuf ((text pBuf).stop i (b'.tokens l))) ∨
          st = (none, l) ∧ Lost pBuf s := by
    obtain ⟨rfl, ⟨hat, rfl⟩ | hlost⟩ := passed_eq_ok hi halign hn hn8 h
    · refine .inl ⟨b, rfl, ?_, hst.symm, ?_⟩
      · rw [hb]
        exact hat
      · rw [hb]
        rfl
    · exact .inr ⟨rfl, hlost⟩
  cases k with
  | sequence => exact hpassed .sequence 40 (by decide) (by decide) rfl rfl h
  | userData => exact hpassed .userData 48 (by decide) (by decide) rfl rfl h
  | other => exact hpassed .other 32 (by decide) (by decide) rfl rfl h
  | visualObject =>
    obtain ⟨_, ⟨v, rfl, rfl⟩, hat, rfl⟩ := (visualObject_parses l i hi _ _).1 h
    exact .inl ⟨.visualObject v, rfl, hat, rfl, rfl⟩
  | layer =>
    obtain ⟨_, ⟨v, rfl, rfl⟩, hat, rfl⟩ := (vol_parses l i hi _ _).1 h
    exact .inl ⟨.layer v, rfl, hat, rfl, rfl⟩
  | gop =>
    obtain ⟨_, ⟨rfl, rfl⟩, hat, rfl⟩ := (gop_parses l i hi _ _).1 h
    exact .inl ⟨.gop, rfl, hat, rfl, rfl⟩
  | picture =>
    obtain ⟨_, ⟨p, rfl, rfl⟩, hat, rfl⟩ := (vop_parses l i hi _ _).1 h
    exact .inl ⟨.picture p, rfl, hat, rfl, rfl⟩

theorem startCode_parses (pBuf : Bytes) : Parses (text pBuf) (byteAlign pBuf >>= fun _ => showBits 32)
    fun ts (startCode : BitVec 32) => ts = [.align, .look startCode] := by
  refine (Parses.andThen byteAlign_parses (showBits_parses (n := 32) (by decide) le_rfl)).congr
    fun ts startCode => ?_
  constructor
  · rintro ⟨_, ⟨v, rfl, rfl⟩, rfl⟩
    rw [BitVec.setWidth_eq]
    rfl
  · rintro rfl
    exact ⟨_, ⟨startCode, rfl, (BitVec.setWidth_eq _).symm⟩, rfl⟩

theorem aligned_mod (i : Nat) : (i + padding i) % 8 = 0 := by
  unfold padding
  omega

theorem header_of_stands {startCode : BitVec 32} {b : Body} (hi : Token.Inside pBuf i)
    (hkind : b.kind = kind startCode) (h : (text pBuf).Stands i (headerTokens l startCode b)) :
    header pBuf l (load pBuf i) = .ok ((b.ret, b.after l),
      load pBuf ((text pBuf).stop i (headerTokens l startCode b))) := by
  obtain ⟨hfront, hbody⟩ := ((text pBuf).stands_append i [.align, .look startCode] _).1 h
  have hcode := (startCode_parses pBuf i hi startCode _).2 ⟨_, rfl, hfront, rfl⟩
  have hrun := headerOf_of_stands (hfront.inside hi) hbody
  rw [hkind] at hrun
  have hall : ((byteAlign pBuf >>= fun _ => showBits 32) >>= fun startCode =>
      headerOf pBuf l (kind startCode)) (load pBuf i) = _ := bind_eq_ok.2 ⟨startCode, _, hcode, hrun⟩
  rw [bind_assoc] at hall
  exact hall

theorem header_eq_ok (hi : Token.Inside pBuf i) (h : header pBuf l (load pBuf i) = .ok (st, s)) :
    (∃ startCode b, b.kind = kind startCode ∧
      (text pBuf).Stands i (headerTokens l startCode b) ∧ st = (b.ret, b.after l) ∧
        s = load pBuf ((text pBuf).stop i (headerTokens l startCode b))) ∨
      st = (none, l) ∧ Lost pBuf s := by
  have hall : ((byteAlign pBuf >>= fun _ => showBits 32) >>= fun startCode =>
      headerOf pBuf l (kind startCode)) (load pBuf i) = .ok (st, s) := by
    rw [bind_assoc]
    exact h
  obtain ⟨startCode, t, hcode, hrun⟩ := bind_eq_ok.1 hall
  obtain ⟨_, rfl, hfront, rfl⟩ := (startCode_parses pBuf i hi startCode _).1 hcode
  obtain ⟨b, hkind, hbody, rfl, rfl⟩ | hlost := headerOf_eq_ok (hfront.inside hi) (aligned_mod i) hrun
  · refine .inl ⟨startCode, b, hkind, ?_, rfl, ?_⟩
    · exact ((text pBuf).stands_append i [.align, .look startCode] _).2 ⟨hfront, hbody⟩
    · exact congrArg (load pBuf) ((text pBuf).stop_append i [.align, .look startCode] _).symm
  · exact .inr hlost

/-! ## The loop -/

theorem before_load (hi : Token.Inside pBuf i) : before pBuf.length (load pBuf i) = true := by
  have hmod := Nat.mod_le (8 * (4 * (i / 32)) + i % 32) (2 ^ 32)
  have hin : 4 * (i / 32) + 8 ≤ pBuf.length := hi
  unfold before
  exact decide_eq_true (show (8 * (4 * (i / 32)) + i % 32) % 2 ^ 32 / 8 < pBuf.length by omega)

/-- The next start code is not shown. -/
theorem Lost.headers (h : Lost pBuf s) (length : Nat) :
    ∃ e, Mpeg4.headers pBuf length l s = .error e := by
  have halign : byteAlign pBuf s = .ok ((), s) := by
    unfold byteAlign
    rw [if_neg (not_not_intro h.aligned)]
  have hheader : header pBuf l s = .error .shift := by
    show (byteAlign pBuf s >>= fun r => showBits 32 r.2 >>= fun r' => _) = _
    rw [halign]
    show (showBits 32 s >>= fun r' => _) = _
    rw [stuck h.pos]
    rfl
  refine ⟨.shift, ?_⟩
  rw [headers_eq, hheader]
  rfl

/-- The loop does not fail where the headers are, up to one it returns behind, and only there. -/
theorem headers_eq_ok {r : Int × Out} (hi : Token.Inside pBuf i) :
    (∃ s, headers pBuf pBuf.length l (load pBuf i) = .ok (r, s)) ↔
      ∃ ts, Stream l ts r ∧ (text pBuf).Stands i ts := by
  constructor
  · rintro ⟨s, hok⟩
    generalize hbs : load pBuf i = bs at hok
    fun_induction headers pBuf pBuf.length l bs generalizing i with
    | case1 l bs e he => cases hok
    | case2 l bs ret l' bs' h =>
      subst hbs
      obtain ⟨startCode, b, hkind, hat, hst, -⟩ | ⟨hst, -⟩ := header_eq_ok hi h
      · cases hok
        obtain ⟨hret, rfl⟩ := Prod.ext_iff.1 hst
        exact ⟨_, .last hkind hret.symm, hat⟩
      · cases hst
    | case3 l bs l' bs' h hbefore ih =>
      subst hbs
      obtain ⟨startCode, b, hkind, hat, hst, rfl⟩ | ⟨-, hlost⟩ := header_eq_ok hi h
      · obtain ⟨hret, rfl⟩ := Prod.ext_iff.1 hst
        obtain ⟨ts, hts, hrest⟩ := ih (hat.inside hi) rfl hok
        exact ⟨_, .more hkind hret.symm hts, ((text pBuf).stands_append ..).2 ⟨hat, hrest⟩⟩
      · obtain ⟨e, he⟩ := hlost.headers (l := l') pBuf.length
        rw [he] at hok
        cases hok
    | case4 l bs l' bs' h hbefore =>
      subst hbs
      obtain ⟨startCode, b, -, hat, -, rfl⟩ | ⟨-, hlost⟩ := header_eq_ok hi h
      · exact absurd (before_load (hat.inside hi)) hbefore
      · exact absurd hlost.before hbefore
  · rintro ⟨ts, hts, hat⟩
    induction hts generalizing i with
    | last hkind hret =>
      rw [headers_eq, header_of_stands hi hkind hat, hret]
      exact ⟨_, rfl⟩
    | more hkind hret hts ih =>
      obtain ⟨hfirst, hrest⟩ := ((text pBuf).stands_append ..).1 hat
      rw [headers_eq, header_of_stands hi hkind hfirst, hret]
      show ∃ s, (if before pBuf.length (load pBuf _) then _ else _) = _
      rw [before_load (hfirst.inside hi)]
      exact ih (hfirst.inside hi) hrest

/-- What `Mpeg4_Analyse` goes through without a fault. -/
def Found (pBuf : Bytes) (out : Out) (r : Int × Out) : Prop :=
  8 ≤ pBuf.length ∧ ∃ ts, Stream (.start out) ts r ∧ (text pBuf).Stands 0 ts

theorem Found.agree {out : Out} {r : Int × Out} (h : Found pBuf out r) (out' : Out) :
    ∃ out'', Found pBuf out' (r.1, out'') := by
  obtain ⟨hlen, ts, hts, hat⟩ := h
  obtain ⟨out'', hts'⟩ := hts.agree (show Locals.Agree _ (.start out') from ⟨rfl, rfl⟩)
  exact ⟨out'', hlen, ts, hts', hat⟩

theorem bitstreamInit_eq_ok : bitstreamInit pBuf = .ok s ↔ 8 ≤ pBuf.length ∧ s = load pBuf 0 := by
  constructor
  · intro h
    obtain ⟨bufa, hbufa, h⟩ := except_bind_eq_ok.1 h
    obtain ⟨bufb, hbufb, h⟩ := except_bind_eq_ok.1 h
    obtain ⟨-, rfl⟩ := getInt_eq_ok.1 hbufa
    obtain ⟨hlen, rfl⟩ := getInt_eq_ok.1 hbufb
    cases h
    exact ⟨hlen, rfl⟩
  · rintro ⟨hlen, rfl⟩
    exact except_bind_eq_ok.2 ⟨_, getInt_eq_ok.2 ⟨by omega, rfl⟩, except_bind_eq_ok.2 ⟨_,
      getInt_eq_ok.2 ⟨hlen, rfl⟩, rfl⟩⟩

theorem inside_zero (h : 8 ≤ pBuf.length) : Token.Inside pBuf 0 := h

theorem mpeg4Analyse_eq_ok (b : Checked.Buffer) (out : Out) {r : Int × Out} :
    mpeg4Analyse b.pBuf b.nSize out = .ok r ↔ Found b.pBuf out r := by
  have hint := b.int
  have hsize := b.size
  have hlength (h : 8 ≤ b.pBuf.length) : (b.nSize % 2 ^ 32).toNat = b.pBuf.length := by omega
  constructor
  · intro h
    obtain ⟨bs, hinit, h⟩ := except_bind_eq_ok.1 h
    obtain ⟨hlen, rfl⟩ := bitstreamInit_eq_ok.1 hinit
    obtain ⟨⟨r, s⟩, hrun, h⟩ := except_bind_eq_ok.1 h
    cases h
    rw [hlength hlen] at hrun
    exact ⟨hlen, (headers_eq_ok (inside_zero hlen)).1 ⟨s, hrun⟩⟩
  · rintro ⟨hlen, hts⟩
    obtain ⟨s, hrun⟩ := (headers_eq_ok (inside_zero hlen)).2 hts
    rw [← hlength hlen] at hrun
    exact except_bind_eq_ok.2 ⟨_, bitstreamInit_eq_ok.2 ⟨hlen, rfl⟩, except_bind_eq_ok.2
      ⟨_, hrun, rfl⟩⟩

end Mpeg4

end StreamSwitch.DecSps
