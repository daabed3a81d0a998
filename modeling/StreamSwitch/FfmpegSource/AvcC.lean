import StreamSwitch.FfmpegSource.Parser

/-!
# avcC extra data

`AvcCToAnnexB` looks whether it is behind the string when a unit begins, and nowhere else: not when
it reads the counts, not when it reads a length and not when it copies a unit. Once it is behind
the string, it has already read there.

`avcC_right_iff`: it does what it should exactly on the records that are well formed. There is no
string that it refuses without having read outside of it.
-/

namespace StreamSwitch.Ffmpeg

/-! ## Records -/

/-- A unit behind its 16-bit length. -/
def prefixed16 (nal : Bytes) : Bytes :=
  UInt8.ofNat (nal.length / 256) :: UInt8.ofNat nal.length :: nal

/-- Units behind start codes. -/
def startCoded (nals : List Bytes) : Bytes := nals.flatMap (startCode ++ ·)

/-- A well-formed record of the units `spss` and `ppss`. What lies behind them is not looked at. -/
structure IsAvcC (x : Bytes) (spss ppss : List Bytes) : Prop where
  spss_short : ∀ nal ∈ spss, nal.length < 65536
  ppss_short : ∀ nal ∈ ppss, nal.length < 65536
  bytes : ∃ header numSps numPps trailing, x = header ++ numSps :: (spss.flatMap prefixed16 ++
      numPps :: (ppss.flatMap prefixed16 ++ trailing)) ∧
    header.length = 5 ∧ (numSps &&& 0x1F).toNat = spss.length ∧ numPps.toNat = ppss.length

/-! ## Reading a part of the memory -/

/-- `copyNals` for a string of `len` bytes, in a memory `m` that it is at the front of. -/
def copyNalsIn (m : Bytes) (len : Nat) : (cnt : Nat) → (p : Nat) → (out : Bytes) →
    Except AvcCError (Nat × Bytes)
  | 0, p, out => .ok (p, out)
  | cnt + 1, p, out =>
    if len < p then .error .refused
    else
      match rb16 m p with
      | none => .error .outside
      | some size =>
        if p + 2 + size ≤ m.length then
          copyNalsIn m len cnt (p + 2 + size) (out ++ startCode ++ (m.drop (p + 2)).take size)
        else .error .outside

/-- `AvcCToAnnexB` of such a string. If `m` is the string itself, it ends at the first read
outside of it. -/
def avcCToAnnexBIn (m : Bytes) (len : Nat) : Except AvcCError Bytes :=
  match m[5]? with
  | none => .error .outside
  | some cnt =>
    match copyNalsIn m len (cnt &&& 0x1F).toNat 6 [] with
    | .error e => .error e
    | .ok (p, out) =>
      match m[p]? with
      | none => .error .outside
      | some cnt => (copyNalsIn m len cnt.toNat (p + 1) out).map (·.2)

theorem copyNals_eq (x : Bytes) (cnt p : Nat) (out : Bytes) :
    copyNals (x ++ [0]) cnt p out = copyNalsIn (x ++ [0]) x.length cnt p out := by
  induction cnt generalizing p out with
  | zero => rfl
  | succ cnt ih =>
    have hlen : (x ++ [0]).length ≤ p ↔ x.length < p := by
      rw [List.length_append]
      exact Iff.rfl
    rw [copyNals, copyNalsIn]
    refine if_congr hlen rfl ?_
    cases rb16 (x ++ [0]) p with
    | none => rfl
    | some size => exact if_congr Iff.rfl (ih _ _) rfl

/-- The string lies in front of its terminator. -/
theorem avcCToAnnexB_eq (x : Bytes) : avcCToAnnexB x = avcCToAnnexBIn (x ++ [0]) x.length := by
  rw [avcCToAnnexB, avcCToAnnexBIn]
  cases (x ++ [0])[5]? with
  | none => rfl
  | some cnt =>
    dsimp only
    rw [← copyNals_eq]
    cases copyNals (x ++ [0]) (cnt &&& 0x1F).toNat 6 [] with
    | error e => rfl
    | ok r =>
      obtain ⟨p, out⟩ := r
      dsimp only
      cases (x ++ [0])[p]? with
      | none => rfl
      | some cnt => exact congrArg (·.map (·.2)) (copyNals_eq x cnt.toNat (p + 1) out)

/-! ## The loops -/

variable {m : Bytes} {len cnt p p' : Nat} {out out' : Bytes}

theorem rb16_append (a : Bytes) (hi lo : UInt8) (rest : Bytes) :
    rb16 (a ++ hi :: lo :: rest) a.length = some (hi.toNat * 256 + lo.toNat) := by
  simp [rb16]

theorem rb16_eq_some {size : Nat} (h : rb16 m p = some size) :
    ∃ hi lo rest, m.drop p = hi :: lo :: rest ∧ size = hi.toNat * 256 + lo.toNat := by
  unfold rb16 at h
  obtain ⟨hi, hhi, h⟩ := Option.bind_eq_some_iff.1 h
  obtain ⟨lo, hlo, h⟩ := Option.bind_eq_some_iff.1 h
  cases h
  obtain ⟨hp, rfl⟩ := List.getElem?_eq_some_iff.1 hhi
  obtain ⟨hq, rfl⟩ := List.getElem?_eq_some_iff.1 hlo
  refine ⟨_, _, m.drop (p + 2), ?_, rfl⟩
  rw [List.drop_eq_getElem_cons hp, List.drop_eq_getElem_cons hq]

/-- The two bytes of a length. -/
theorem prefixed16_size {nal : Bytes} (h : nal.length < 65536) :
    (UInt8.ofNat (nal.length / 256)).toNat * 256 + (UInt8.ofNat nal.length).toNat = nal.length := by
  simp only [UInt8.toNat_ofNat']
  omega

theorem prefixed16_of_size {hi lo : UInt8} {nal : Bytes}
    (h : nal.length = hi.toNat * 256 + lo.toNat) : prefixed16 nal = hi :: lo :: nal := by
  have hhi : UInt8.ofNat (nal.length / 256) = hi := by
    apply UInt8.toNat_inj.1
    have := hi.toNat_lt
    have := lo.toNat_lt
    rw [UInt8.toNat_ofNat']
    omega
  have hlo : UInt8.ofNat nal.length = lo := by
    apply UInt8.toNat_inj.1
    have := lo.toNat_lt
    rw [UInt8.toNat_ofNat']
    omega
  rw [prefixed16, hhi, hlo]

theorem startCoded_cons (nal : Bytes) (nals : List Bytes) :
    startCoded (nal :: nals) = startCode ++ nal ++ startCoded nals := rfl

/-- The loop copies the units that are there. -/
theorem copyNalsIn_prefixed (len : Nat) {nals : List Bytes} (hshort : ∀ nal ∈ nals, nal.length < 65536)
    (a rest : Bytes) (hlen : a.length + (nals.flatMap prefixed16).length ≤ len) (out : Bytes) :
    copyNalsIn (a ++ (nals.flatMap prefixed16 ++ rest)) len nals.length a.length out =
      .ok (a.length + (nals.flatMap prefixed16).length, out ++ startCoded nals) := by
  induction nals generalizing a out with
  | nil => simp [copyNalsIn, startCoded]
  | cons nal nals ih =>
    have hsize := prefixed16_size (hshort nal (.head _))
    have hih := ih (fun nal hn => hshort nal (.tail _ hn)) (a ++ prefixed16 nal)
      (by simpa [Nat.add_assoc] using hlen) (out ++ startCode ++ nal)
    have hmem : a ++ ((nal :: nals).flatMap prefixed16 ++ rest) =
        a ++ prefixed16 nal ++ (nals.flatMap prefixed16 ++ rest) := by simp
    have hnext : a.length + 2 + nal.length = (a ++ prefixed16 nal).length := by
      simp [prefixed16]
      omega
    have hcopy : ((a ++ prefixed16 nal ++ (nals.flatMap prefixed16 ++ rest)).drop
        (a.length + 2)).take nal.length = nal := by simp [prefixed16]
    have hread : rb16 (a ++ prefixed16 nal ++ (nals.flatMap prefixed16 ++ rest)) a.length =
        some nal.length := by
      rw [List.append_assoc, prefixed16, List.cons_append, List.cons_append, rb16_append, hsize]
    rw [hmem, List.length_cons]
    unfold copyNalsIn
    rw [if_neg (by omega), hread]
    simp only
    rw [if_pos (by simp [prefixed16]; omega), hcopy, hnext, hih]
    simp [startCoded_cons, Nat.add_assoc]

/-- What the loop has copied was there. -/
theorem prefixed_of_copyNalsIn (h : copyNalsIn m len cnt p out = .ok (p', out')) :
    ∃ nals rest, nals.length = cnt ∧ (∀ nal ∈ nals, nal.length < 65536) ∧
      m.drop p = nals.flatMap prefixed16 ++ rest ∧ p' = p + (nals.flatMap prefixed16).length ∧
      out' = out ++ startCoded nals := by
  induction cnt generalizing p out with
  | zero =>
    cases h
    exact ⟨[], m.drop p', rfl, nofun, rfl, rfl, by simp [startCoded]⟩
  | succ cnt ih =>
    unfold copyNalsIn at h
    split at h
    · cases h
    · split at h
      · cases h
      · rename_i size hsize
        split at h
        · rename_i hfits
          obtain ⟨hi, lo, tail, hdrop, rfl⟩ := rb16_eq_some hsize
          obtain ⟨nals, rest, rfl, hshort, hrest, rfl, rfl⟩ := ih h
          have htail : m.drop (p + 2) = tail := by
            rw [← List.drop_drop, hdrop]
            rfl
          have hnal : (tail.take (hi.toNat * 256 + lo.toNat)).length =
              hi.toNat * 256 + lo.toNat := by
            rw [List.length_take, ← htail, List.length_drop]
            omega
          have hpre := prefixed16_of_size hnal
          have hlt : hi.toNat * 256 + lo.toNat < 65536 := by
            have := hi.toNat_lt
            have := lo.toNat_lt
            omega
          refine ⟨tail.take (hi.toNat * 256 + lo.toNat) :: nals, rest, rfl, ?_, ?_, ?_, ?_⟩
          · intro nal hn
            rcases List.mem_cons.1 hn with rfl | hn
            · rw [hnal]
              exact hlt
            · exact hshort nal hn
          · rw [List.flatMap_cons, hpre, hdrop, List.append_assoc, ← hrest, ← List.drop_drop, htail]
            simp
          · rw [List.flatMap_cons, hpre]
            simp only [List.length_append, List.length_cons, hnal]
            omega
          · rw [startCoded_cons, htail]
            simp
        · cases h

/-- Within the string itself the loop never comes behind its end. -/
theorem copyNalsIn_self {x : Bytes} (hp : p ≤ x.length) (cnt : Nat) (out : Bytes) :
    copyNalsIn x x.length cnt p out = .error .outside ∨
      ∃ p' out', p' ≤ x.length ∧ copyNalsIn x x.length cnt p out = .ok (p', out') := by
  induction cnt generalizing p out with
  | zero => exact .inr ⟨p, out, hp, rfl⟩
  | succ cnt ih =>
    unfold copyNalsIn
    rw [if_neg (Nat.not_lt.2 hp)]
    split
    · exact .inl rfl
    · split
      · rename_i hfits
        exact ih hfits _
      · exact .inl rfl

/-! ## The whole string -/

/-- On a record the result is its units, whatever lies behind the string. -/
theorem IsAvcC.converted {x : Bytes} {spss ppss : List Bytes} (h : IsAvcC x spss ppss)
    (behind : Bytes) :
    avcCToAnnexBIn (x ++ behind) x.length = .ok (startCoded (spss ++ ppss)) := by
  obtain ⟨header, numSps, numPps, trailing, hx, hheader, hsps, hpps⟩ := h.bytes
  -- the string cut before the first and before the second list of units
  have hfirst : x ++ behind = (header ++ [numSps]) ++ (spss.flatMap prefixed16 ++
      (numPps :: (ppss.flatMap prefixed16 ++ trailing) ++ behind)) := by simp [hx]
  have hsecond : x ++ behind = (header ++ [numSps] ++ spss.flatMap prefixed16 ++ [numPps]) ++
      (ppss.flatMap prefixed16 ++ (trailing ++ behind)) := by simp [hx]
  have hlen : x.length = 6 + (spss.flatMap prefixed16).length + 1 +
      (ppss.flatMap prefixed16).length + trailing.length := by
    rw [hx]
    simp only [List.length_append, List.length_cons, hheader]
    omega
  have hnumSps : (x ++ behind)[5]? = some numSps := by
    rw [hfirst, ← hheader]
    simp
  have hnumPps : (x ++ behind)[6 + (spss.flatMap prefixed16).length]? = some numPps := by
    have hat : 6 + (spss.flatMap prefixed16).length =
        (header ++ [numSps] ++ spss.flatMap prefixed16).length := by
      simp only [List.length_append, List.length_singleton, hheader]
    rw [hsecond, hat]
    simp
  have hsix : (header ++ [numSps]).length = 6 := by simp [hheader]
  have hstart : (header ++ [numSps] ++ spss.flatMap prefixed16 ++ [numPps]).length =
      6 + (spss.flatMap prefixed16).length + 1 := by
    rw [List.length_append, List.length_append, hsix, List.length_singleton]
  have hloop₁ := copyNalsIn_prefixed x.length h.spss_short (header ++ [numSps])
    (numPps :: (ppss.flatMap prefixed16 ++ trailing) ++ behind)
    (by rw [hsix]; omega) []
  have hloop₂ := copyNalsIn_prefixed x.length h.ppss_short
    (header ++ [numSps] ++ spss.flatMap prefixed16 ++ [numPps]) (trailing ++ behind)
    (by rw [hstart]; omega) (startCoded spss)
  rw [← hfirst, hsix, List.nil_append] at hloop₁
  rw [← hsecond, hstart] at hloop₂
  simp only [avcCToAnnexBIn, hnumSps, hsps, hloop₁, hnumPps, hpps, hloop₂]
  simp [Except.map, startCoded]

/-- What is converted without a read outside is a record. -/
theorem isAvcC_of_converted {x out : Bytes} (h : avcCToAnnexBIn x x.length = .ok out) :
    ∃ spss ppss, IsAvcC x spss ppss := by
  unfold avcCToAnnexBIn at h
  split at h
  · cases h
  · rename_i numSps hnumSps
    split at h
    · cases h
    · rename_i p mid hloop₁
      split at h
      · cases h
      · rename_i numPps hnumPps
        cases hloop₂ : copyNalsIn x x.length numPps.toNat (p + 1) mid with
        | error e =>
          rw [hloop₂] at h
          cases h
        | ok fin =>
          obtain ⟨spss, rest₁, hsps, hshort₁, hdrop₁, rfl, -⟩ := prefixed_of_copyNalsIn hloop₁
          obtain ⟨ppss, rest₂, hpps, hshort₂, hdrop₂, -, -⟩ := prefixed_of_copyNalsIn hloop₂
          refine ⟨spss, ppss, hshort₁, hshort₂, x.take 5, numSps, numPps, rest₂, ?_, ?_, hsps.symm,
            hpps.symm⟩
          · obtain ⟨h5, rfl⟩ := List.getElem?_eq_some_iff.1 hnumSps
            obtain ⟨hp, rfl⟩ := List.getElem?_eq_some_iff.1 hnumPps
            have hrest₁ : rest₁ = x.drop (6 + (spss.flatMap prefixed16).length) := by
              rw [← List.drop_drop, hdrop₁, List.drop_left]
            calc x = x.take 5 ++ x[5] :: x.drop 6 := by
                  rw [← List.drop_eq_getElem_cons h5, List.take_append_drop]
              _ = _ := by
                  rw [hdrop₁, hrest₁, List.drop_eq_getElem_cons hp, hdrop₂]
          · obtain ⟨h5, -⟩ := List.getElem?_eq_some_iff.1 hnumSps
            rw [List.length_take]
            omega

/-- A string is never refused before a byte outside of it was read. -/
theorem avcCToAnnexBIn_self (x : Bytes) :
    avcCToAnnexBIn x x.length = .error .outside ∨ ∃ out, avcCToAnnexBIn x x.length = .ok out := by
  unfold avcCToAnnexBIn
  split
  · exact .inl rfl
  · rename_i numSps hnumSps
    obtain ⟨h5, -⟩ := List.getElem?_eq_some_iff.1 hnumSps
    rcases copyNalsIn_self h5 (numSps &&& 0x1F).toNat [] with hloop | ⟨p, out, hp, hloop⟩
    · rw [hloop]
      exact .inl rfl
    · rw [hloop]
      simp only
      split
      · exact .inl rfl
      · rename_i numPps hnumPps
        obtain ⟨hlt, -⟩ := List.getElem?_eq_some_iff.1 hnumPps
        rcases copyNalsIn_self hlt numPps.toNat out with hloop' | ⟨p', out', -, hloop'⟩
        · rw [hloop']
          exact .inl rfl
        · rw [hloop']
          exact .inr ⟨out', rfl⟩

/-- What `AvcCToAnnexB` should do with a string: convert a record and refuse everything else, and
read nothing outside of it. Where it returns -1, the string is as it was. -/
structure AvcCRight (x : Bytes) : Prop where
  record : ∀ spss ppss, IsAvcC x spss ppss → avcCToAnnexB x = .ok (startCoded (spss ++ ppss))
  other : (¬ ∃ spss ppss, IsAvcC x spss ppss) → avcCToAnnexB x = .error .refused
  inside : avcCToAnnexBIn x x.length ≠ .error .outside

/-- **avcC extra data.** A string is handled as it should be exactly if it is a record. -/
theorem avcC_right_iff (x : Bytes) : AvcCRight x ↔ ∃ spss ppss, IsAvcC x spss ppss := by
  constructor
  · intro h
    rcases avcCToAnnexBIn_self x with hout | ⟨out, hok⟩
    · exact absurd hout h.inside
    · exact isAvcC_of_converted hok
  · rintro ⟨spss, ppss, h⟩
    refine ⟨fun spss' ppss' h' => ?_, fun hno => absurd ⟨spss, ppss, h⟩ hno, ?_⟩
    · rw [avcCToAnnexB_eq]
      exact h'.converted [0]
    · have hself := h.converted []
      rw [List.append_nil] at hself
      rw [hself]
      nofun

/-- A header that announces an SPS, and nothing behind it: the length of the SPS is read outside. -/
def cutHeader : Bytes := [1, 0x64, 0, 0x1F, 0xFF, 0xE1]

theorem cutHeader_read_outside :
    (¬ ∃ spss ppss, IsAvcC cutHeader spss ppss) ∧
      avcCToAnnexBIn cutHeader cutHeader.length = .error .outside ∧
      avcCToAnnexB cutHeader ≠ .error .refused ∧ ¬ AvcCRight cutHeader := by
  have hout : avcCToAnnexBIn cutHeader cutHeader.length = .error .outside := by decide
  refine ⟨?_, hout, by decide, fun h => h.inside hout⟩
  rintro ⟨spss, ppss, h⟩
  have hself := h.converted []
  rw [List.append_nil, hout] at hself
  cases hself

end StreamSwitch.Ffmpeg
