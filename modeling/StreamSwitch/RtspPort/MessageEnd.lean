import Mathlib.Data.List.TakeWhile
import StreamSwitch.RtspPort.Framing

/-!
# The end of an RTSP message

What `RTSP_full_msg_rcvd` finds in a buffer that holds a whole request with something behind it,
and in one that holds a part of a request. The loop of the source goes line by line: it stands at
the rest `cur` of the current line, and `scan_next` takes it to the next one. `LengthKnown` says
what it knows of the body on the way.
-/

namespace StreamSwitch.RtspInput

/-! ## Line ends -/

theorem isEol_of_isBlank {b : UInt8} (h : isBlank b = true) : isEol b = false := by
  simp only [isBlank, Bool.or_eq_true, decide_eq_true_eq] at h
  rcases h with rfl | rfl <;> decide

theorem Plain.of_subset {s t : Bytes} (h : Plain t) (hst : s ⊆ t) : Plain s :=
  fun b hb => h b (hst hb)

theorem Plain.of_all {s : Bytes} (h : (s.all fun b => b != 0 && !isEol b) = true) : Plain s := by
  intro b hb
  simpa using List.all_eq_true.mp h b hb

theorem strcspn_append {s : Bytes} (hs : Plain s) (rest : Bytes) :
    strcspn (s ++ rest) = s.length + strcspn rest := by
  unfold strcspn
  rw [List.takeWhile_append_of_pos, List.length_append]
  intro b hb
  simp [hs b hb]

theorem strcspn_append_eol {s : Bytes} (hs : Plain s) (rest : Bytes) :
    strcspn (s ++ 13 :: rest) = s.length := by
  rw [strcspn_append hs]
  simp [strcspn, isEol]

theorem terminators_blanks {s : Bytes} (hs : ∀ b ∈ s, isBlank b = true) (rest : Bytes) {tc : Nat}
    (htc : tc < 3) (ws : Nat) :
    terminators (s ++ rest) tc ws = terminators rest tc (ws + s.length) := by
  induction s generalizing ws with
  | nil => rfl
  | cons b s ih =>
    have hb := hs b (by simp)
    rw [List.cons_append, terminators]
    simp only [isEol_of_isBlank hb, hb, htc, decide_true, Bool.and_self, Bool.false_eq_true,
      if_false, if_true]
    rw [ih (fun b hb => hs b (by simp [hb])), List.length_cons, Nat.add_right_comm, Nat.add_assoc]

theorem terminators_stop {rest : Bytes} {tc : Nat} (h : ∀ b ∈ rest.head?, isEol b = false)
    (hb : 3 ≤ tc ∨ ∀ b ∈ rest.head?, isBlank b = false) (ws : Nat) :
    terminators rest tc ws = (tc, ws) := by
  cases rest with
  | nil => rfl
  | cons c rest =>
    have hc : ¬ ((decide (tc < 3) && isBlank c) = true) := by
      rcases hb with hb | hb
      · simp [Nat.not_lt.mpr hb]
      · simp [hb c rfl]
    rw [terminators, if_neg (by simp [h c rfl]), if_neg hc]

/-- A line end and the blanks before the next line. -/
theorem terminators_crlf {blanks rest : Bytes} (hb : ∀ b ∈ blanks, isBlank b = true)
    (h : ∀ b ∈ rest.head?, isEol b = false ∧ isBlank b = false) :
    terminators (crlf ++ (blanks ++ rest)) 0 0 = (2, blanks.length) := by
  have e : terminators (crlf ++ (blanks ++ rest)) 0 0 = terminators (blanks ++ rest) 2 0 := by
    simp [crlf, terminators, isEol]
  rw [e, terminators_blanks hb rest (by decide),
    terminators_stop (fun b hb => (h b hb).1) (.inr fun b hb => (h b hb).2), Nat.zero_add]

/-- A line end and the empty line. -/
theorem terminators_crlf_crlf {rest : Bytes} (h : ∀ b ∈ rest.head?, isEol b = false) :
    terminators (crlf ++ (crlf ++ rest)) 0 0 = (4, 0) := by
  have e : terminators (crlf ++ (crlf ++ rest)) 0 0 = terminators rest 4 0 := by
    simp [crlf, terminators, isEol]
  rw [e, terminators_stop h (.inl (by decide))]

/-! ## The `Content-Length` header -/

theorem eol_notMem_contentLength : (13 : UInt8) ∉ contentLength.map lower := by decide

theorem not_isDigit_of_mem_contentLength {b : UInt8} (h : lower b ∈ contentLength.map lower) :
    isDigit b = false := by
  cases hd : isDigit b with
  | false => rfl
  | true =>
    have hl : lower b = b := by grind [isDigit, lower]
    have hnone : (contentLength.map lower).all (fun c => !isDigit c) = true := by decide
    have := List.all_eq_true.mp hnone b (hl ▸ h)
    simp [hd] at this

/-- On a line that is received with its end, nothing behind it counts. -/
theorem sameHeader_line (l rest : Bytes) {room : Nat} (hroom : l.length < room) :
    sameHeader (l ++ 13 :: rest) (min contentLength.length room) =
      sameHeader l contentLength.length := by
  by_cases hl : contentLength.length ≤ l.length
  · rw [Nat.min_eq_left (by omega)]
    unfold sameHeader
    rw [List.take_append_of_le_length hl]
  · have h1 : sameHeader l contentLength.length = false := by
      refine decide_eq_false fun h => hl ?_
      have := congrArg List.length h
      simp only [List.length_map, List.length_take] at this
      omega
    have h2 : sameHeader (l ++ 13 :: rest) (min contentLength.length room) = false := by
      refine decide_eq_false fun h => eol_notMem_contentLength ?_
      obtain ⟨k, hk⟩ : ∃ k, min contentLength.length room - l.length = k + 1 :=
        ⟨_, (Nat.succ_pred_eq_of_pos (by omega)).symm⟩
      have hmem : (13 : UInt8) ∈
          ((l ++ 13 :: rest).take (min contentLength.length room)).map lower := by
        rw [List.take_append, hk, List.take_succ_cons]
        exact List.mem_map.mpr ⟨13, by simp, rfl⟩
      rw [h, List.map_take] at hmem
      exact List.mem_of_mem_take hmem
    rw [h1, h2]

theorem isSpace_of_isBlank {b : UInt8} (h : isBlank b = true) : isSpace b = true := by
  simp only [isBlank, Bool.or_eq_true, decide_eq_true_eq] at h
  rcases h with rfl | rfl <;> decide

/-- A digit starts a number: it is no white space and no sign. -/
theorem not_isSpace_of_isDigit {b : UInt8} (h : isDigit b = true) :
    isSpace b = false ∧ b ≠ 45 ∧ b ≠ 43 := by
  grind [isDigit, isSpace]

theorem scanSign_digit {d : UInt8} (hd : isDigit d = true) (s : Bytes) :
    scanSign (d :: s) = (false, d :: s) := by
  obtain ⟨-, h45, h43⟩ := not_isSpace_of_isDigit hd
  unfold scanSign
  split
  · next h => exact absurd (List.cons.inj h).1 h45
  · next h => exact absurd (List.cons.inj h).1 h43
  · rfl

theorem scanShort_append {gap ds : Bytes} (hgap : ∀ b ∈ gap, isBlank b = true) (hne : ds ≠ [])
    (hds : ∀ b ∈ ds, isDigit b = true) (rest : Bytes) :
    scanShort (gap ++ (ds ++ rest)) =
      some (((min (digitsValue (ds ++ rest.takeWhile isDigit)) (2 ^ 63 - 1) : Nat) : Int) %
        2 ^ 16).toNat := by
  have hdigits : (ds ++ rest).takeWhile isDigit = ds ++ rest.takeWhile isDigit :=
    List.takeWhile_append_of_pos hds
  have hspaces : (gap ++ (ds ++ rest)).dropWhile isSpace = ds ++ rest := by
    rw [List.dropWhile_append_of_pos fun b hb => isSpace_of_isBlank (hgap b hb)]
    obtain ⟨d, ds, rfl⟩ := List.exists_cons_of_ne_nil hne
    simp [(not_isSpace_of_isDigit (hds d (by simp))).1]
  have hsign : scanSign (ds ++ rest) = (false, ds ++ rest) := by
    obtain ⟨d, ds, rfl⟩ := List.exists_cons_of_ne_nil hne
    exact scanSign_digit (hds d (by simp)) _
  unfold scanShort
  rw [hspaces, hsign]
  simp only [hdigits]
  rw [if_neg (by simp [hne])]
  rfl

theorem scanShort_value {gap ds rest : Bytes} (hgap : ∀ b ∈ gap, isBlank b = true) (hne : ds ≠ [])
    (hds : ∀ b ∈ ds, isDigit b = true) (hrest : ∀ b ∈ rest.head?, isDigit b = false)
    (hv : digitsValue ds < 2 ^ 16) : scanShort (gap ++ (ds ++ rest)) = some (digitsValue ds) := by
  have hstop : rest.takeWhile isDigit = [] := by
    cases rest with
    | nil => rfl
    | cons b rest => simp [hrest b rfl]
  rw [scanShort_append hgap hne hds, hstop, List.append_nil]
  congr 1
  omega

/-- What the loop does with a line: the part of `scan` behind the line ends. -/
def header (behind : Bytes) (fuel ml : Nat) (rest : Bytes) (mb : Bool) (bl : Nat) : Rcvd :=
  if !mb && sameHeader (rest ++ behind) (min contentLength.length (rtspBufferSize - ml)) then
    if rest.length < contentLength.length then
      match scanShort ((rest ++ behind).drop contentLength.length) with
      | none => .error
      | some _ => .overrun
    else
      let skipped := (rest.drop contentLength.length).takeWhile fun c => c = 58 || c = 32
      match scanShort (rest.drop (contentLength.length + skipped.length) ++ behind) with
      | none => .error
      | some bl => scan behind fuel (ml + contentLength.length + skipped.length)
        (rest.drop (contentLength.length + skipped.length)) true bl
  else scan behind fuel ml rest mb bl

variable {behind : Bytes} {fuel ml : Nat} {mb : Bool} {bl : Nat}

/-- A line ends in the received bytes. -/
theorem scan_eol {cur e : Bytes} (hcur : Plain cur) (hne : cur ≠ []) {tc ws : Nat}
    (ht : terminators (13 :: e) 0 0 = (tc, ws)) :
    scan behind (fuel + 1) ml (cur ++ 13 :: e) mb bl =
      let rest := (13 :: e).drop (tc + ws)
      if 2 < tc ∨ (tc = 2 ∧ e.head? = some 13) then
        if bl ≤ rest.length then received (ml + cur.length + tc + ws) bl rest else .notFull
      else if rest = [] then .notFull
      else header behind fuel (ml + cur.length + tc + ws) rest mb bl := by
  have hcontrol : strcspn (cur ++ 13 :: e ++ behind) = cur.length := by
    rw [List.append_assoc]
    exact strcspn_append_eol hcur _
  have hpos : cur.length ≠ 0 := by simpa using hne
  have heomh : ((13 :: e)[0]? = (13 :: e)[1]?) ↔ e.head? = some 13 := by
    simp [List.head?_eq_getElem?, eq_comm]
  rw [scan]
  simp only [hcontrol, List.drop_left, ht, heomh]
  rw [if_neg hpos, if_neg (by simp)]
  rfl

/-- The rest of a line, its end and the blanks before the next line, of which `y` is received. -/
theorem scan_line {cur y t : Bytes} (hcur : Plain cur) (hne : cur ≠ []) (hy : Plain y)
    (ht : y.dropWhile isBlank = [] → t = []) :
    scan behind (fuel + 1) ml (cur ++ (crlf ++ (y ++ t))) mb bl =
      if y.dropWhile isBlank = [] then .notFull
      else header behind fuel (ml + cur.length + 2 + (y.takeWhile isBlank).length)
        (y.dropWhile isBlank ++ t) mb bl := by
  have hhead : ∀ b ∈ (y.dropWhile isBlank ++ t).head?, isEol b = false ∧ isBlank b = false := by
    intro b hb
    cases hrest : y.dropWhile isBlank with
    | nil => simp [hrest, ht hrest] at hb
    | cons c rest =>
      obtain rfl : c = b := by simpa [hrest] using hb
      have hc := List.head?_dropWhile_not isBlank y
      rw [hrest] at hc
      have hmem : c ∈ y := (List.dropWhile_suffix isBlank).subset (hrest ▸ List.mem_cons_self)
      exact ⟨(hy c hmem).2, by simpa using hc⟩
  have hsplit : y ++ t = y.takeWhile isBlank ++ (y.dropWhile isBlank ++ t) := by
    rw [← List.append_assoc, List.takeWhile_append_dropWhile]
  have hblanks : ∀ b ∈ y.takeWhile isBlank, isBlank b = true := fun b hb => List.mem_takeWhile_imp hb
  have hterm : terminators (13 :: 10 :: (y ++ t)) 0 0 = (2, (y.takeWhile isBlank).length) := by
    rw [hsplit]
    exact terminators_crlf hblanks hhead
  have hdrop : (13 :: 10 :: (y ++ t)).drop (2 + (y.takeWhile isBlank).length) =
      y.dropWhile isBlank ++ t := by
    rw [Nat.add_comm, List.drop_succ_cons, List.drop_succ_cons, hsplit, List.drop_left]
  have hnil : y.dropWhile isBlank ++ t = [] ↔ y.dropWhile isBlank = [] := by
    constructor
    · intro h
      exact (List.append_eq_nil_iff.mp h).1
    · intro h
      rw [h, ht h, List.append_nil]
  refine (scan_eol hcur hne hterm).trans ?_
  simp only [hdrop, hnil]
  rw [if_neg (by simp)]

theorem scan_line_end {cur y : Bytes} (hcur : Plain cur) (hne : cur ≠ []) (hy : Plain y) :
    scan behind (fuel + 1) ml (cur ++ (crlf ++ y)) mb bl =
      if y.dropWhile isBlank = [] then .notFull
      else header behind fuel (ml + cur.length + 2 + (y.takeWhile isBlank).length)
        (y.dropWhile isBlank) mb bl := by
  rw [← List.append_nil y, scan_line hcur hne hy (fun _ => rfl)]
  simp only [List.append_nil]

/-- The received bytes end in a line. -/
theorem scan_within {cur : Bytes} (hcur : Plain cur) (hne : cur ≠ []) :
    scan behind (fuel + 1) ml cur mb bl = .notFull := by
  have hpos : cur.length ≠ 0 := by simpa using hne
  have hcontrol := strcspn_append hcur behind
  rw [scan]
  simp only [hcontrol]
  rw [if_neg (by omega)]
  by_cases h : cur.length < cur.length + strcspn behind
  · rw [if_pos h]
  · have hb : strcspn behind = 0 := by omega
    rw [if_neg h]
    simp [hb, terminators]

theorem takeWhile_append_of_head {p : UInt8 → Bool} {t : Bytes} (h : ∀ b ∈ t.head?, p b = false)
    (s : Bytes) : (s ++ t).takeWhile p = s.takeWhile p := by
  have ht : t.takeWhile p = [] := by
    cases t with
    | nil => rfl
    | cons b t => simp [h b rfl]
  induction s with
  | nil => simpa using ht
  | cons b s ih => simp [List.takeWhile_cons, ih]

/-- What is left of a header behind its name was in it. -/
theorem subset_header (name rest : Bytes) {gap gap' : Bytes} (h : gap' ⊆ gap) :
    gap' ++ rest ⊆ name ++ 58 :: (gap ++ rest) := by
  intro b hb
  refine List.mem_append_right _ (.tail _ ?_)
  rcases List.mem_append.1 hb with hb | hb
  · exact List.mem_append_left _ (h hb)
  · exact List.mem_append_right _ hb

/-- The `Content-Length` header: the loop goes on at its value. -/
theorem header_length (behind : Bytes) (fuel bl : Nat) {name ds : Bytes} (gap y : Bytes)
    (hname : name.map lower = contentLength.map lower) (hne : ds ≠ []) (hds : ∀ b ∈ ds, isDigit b = true)
    (hroom : ml + contentLength.length ≤ rtspBufferSize) :
    ∃ gap', gap' ⊆ gap ∧ gap'.length ≤ gap.length ∧ ∀ v,
      scanShort (gap' ++ (ds ++ (y ++ behind))) = some v →
      header behind fuel ml (name ++ 58 :: (gap ++ (ds ++ y))) false bl =
        scan behind fuel (ml + name.length + 1 + (gap.length - gap'.length)) (gap' ++ (ds ++ y))
          true v := by
  have hlen : contentLength.length = name.length := by simpa using congrArg List.length hname.symm
  refine ⟨gap.drop (gap.takeWhile fun c => c = 58 || c = 32).length, List.drop_subset _ _,
    by simp, fun v hv => ?_⟩
  have hle : (gap.takeWhile fun c => c = 58 || c = 32).length ≤ gap.length :=
    (List.takeWhile_prefix _).length_le
  have hskip : ((58 :: (gap ++ (ds ++ y))).takeWhile fun c => c = 58 || c = 32) =
      58 :: gap.takeWhile fun c => c = 58 || c = 32 := by
    rw [List.takeWhile_cons_of_pos (by decide), takeWhile_append_of_head]
    intro b hb
    obtain ⟨d, ds, rfl⟩ := List.exists_cons_of_ne_nil hne
    obtain rfl : d = b := by simpa using hb
    have hd := hds d (by simp)
    grind [isDigit]
  have hsame : sameHeader (name ++ 58 :: (gap ++ (ds ++ y)) ++ behind)
      (min contentLength.length (rtspBufferSize - ml)) = true := by
    rw [Nat.min_eq_left (by omega), hlen]
    unfold sameHeader
    rw [List.append_assoc, List.take_left, ← hlen, List.take_length]
    simpa using hname
  unfold header
  rw [if_pos (by simpa using hsame), if_neg (by simp [hlen])]
  simp only [hlen, List.drop_left, hskip]
  have hdrop : (name ++ 58 :: (gap ++ (ds ++ y))).drop
      (name.length + (58 :: gap.takeWhile fun c => c = 58 || c = 32).length) =
      gap.drop (gap.takeWhile fun c => c = 58 || c = 32).length ++ (ds ++ y) := by
    rw [List.drop_append, List.length_cons, List.drop_eq_nil_of_le (by omega), Nat.add_sub_cancel_left,
      List.drop_succ_cons, List.drop_append_of_le_length hle, List.nil_append]
  rw [hdrop, List.append_assoc, List.append_assoc, hv]
  simp only [List.length_cons, List.length_drop]
  congr 1
  omega

theorem dropWhile_blank_length {name : Bytes} (hname : name.map lower = contentLength.map lower)
    (s : Bytes) : (name ++ s).dropWhile isBlank = name ++ s := by
  cases name with
  | nil => exact absurd (congrArg List.length hname) (by decide)
  | cons c name =>
    have hc : lower c = 99 := (List.cons.inj hname).1
    have : isBlank c = false := by grind [lower, isBlank]
    simp [this]

theorem IsContentLength.dropWhile_blank {l : Bytes} {n : Nat} (h : IsContentLength l n) :
    l.dropWhile isBlank = l := by
  obtain ⟨name, gap, ds, tail, rfl, hname, -⟩ := h
  exact dropWhile_blank_length hname _

/-- The header is received with its end: its value is the length. -/
theorem header_value {l : Bytes} {n : Nat} (hl : Plain l) (h : IsContentLength l n) (hn : n < 2 ^ 16)
    (z : Bytes) (hroom : ml + l.length ≤ rtspBufferSize) :
    ∃ cur, Plain cur ∧ cur ≠ [] ∧ cur.length ≤ l.length ∧
      header behind fuel ml (l ++ 13 :: z) false bl =
        scan behind fuel (ml + (l.length - cur.length)) (cur ++ 13 :: z) true n := by
  obtain ⟨name, gap, ds, tail, rfl, hname, hgap, hds, hdigits, rfl, htail⟩ := h
  have hlen : name.length = contentLength.length := by simpa using congrArg List.length hname
  rw [List.length_append] at hroom
  obtain ⟨gap', hsub, hle, hheader⟩ := header_length behind fuel bl gap (tail ++ 13 :: z) hname hds
    hdigits (show ml + contentLength.length ≤ rtspBufferSize by omega)
  have hscan : scanShort (gap' ++ (ds ++ (tail ++ 13 :: z ++ behind))) = some (digitsValue ds) := by
    refine scanShort_value (fun b hb => hgap b (hsub hb)) hds hdigits ?_ hn
    intro b hb
    cases tail with
    | nil =>
      obtain rfl : 13 = b := by simpa using hb
      decide
    | cons c tail =>
      obtain rfl : c = b := by simpa using hb
      have := htail c (by simp)
      grind [isBlank, isDigit]
  refine ⟨gap' ++ (ds ++ tail), hl.of_subset ?_, by simp [hds], ?_, ?_⟩
  · rw [List.append_assoc]
    exact subset_header name (ds ++ tail) hsub
  · simp only [List.length_append, List.length_cons]
    omega
  · have := hheader _ hscan
    simp only [List.append_assoc, List.cons_append] at this ⊢
    rw [this]
    congr 1
    simp only [List.length_append, List.length_cons]
    omega

/-! ## Line by line -/

/-- What is known of the body when the header lines `ls` are still to come: its length, or that
these lines tell it. -/
def LengthKnown (mb : Bool) (bl : Nat) (ls : List Bytes) (body : Bytes) : Prop :=
  if mb then bl = body.length
  else bl = 0 ∧
    match ls.find? startsLength with
    | none => body = []
    | some l => IsContentLength l body.length

theorem SentRequest.WellFormed.lengthKnown {r : SentRequest} (h : r.WellFormed) (hf : r.Framable) :
    LengthKnown false 0 r.headerLines r.body := by
  refine ⟨rfl, ?_⟩
  cases hl : r.headerLines.find? startsLength with
  | none =>
    refine h.length.resolve_left ?_
    rintro ⟨l, hmem, n, name, gap, ds, tail, rfl, hname, -⟩
    refine List.find?_eq_none.mp hl _ hmem ?_
    unfold startsLength sameHeader
    have hlen : contentLength.length = name.length := by simpa using congrArg List.length hname.symm
    rw [dropWhile_blank_length hname, List.take_length, hlen, List.take_left]
    simpa using hname
  | some l =>
    obtain ⟨n, hn⟩ := hf.length l hl
    have hlen := h.lengths l (List.mem_of_find?_eq_some hl) n hn
    exact hlen ▸ hn

theorem prefix_append_cases {s a b : Bytes} (h : s <+: a ++ b) :
    s <+: a ∨ ∃ t, t ≠ [] ∧ s = a ++ t ∧ t <+: b := by
  rcases List.prefix_or_prefix_of_prefix h (List.prefix_append a b) with ha | ⟨t, rfl⟩
  · exact .inl ha
  · rcases eq_or_ne t [] with rfl | ht
    · exact .inl (by simp)
    · exact .inr ⟨t, ht, rfl, (List.prefix_append_right_inj a).mp h⟩

/-- The received part of a `Content-Length` line with a digit: the value can be read. -/
theorem prefix_isContentLength {part l : Bytes} {n : Nat} (hpre : part <+: l) (h : IsContentLength l n)
    (hdigit : ∃ b ∈ part, isDigit b = true) :
    ∃ name gap ds y, part = name ++ 58 :: (gap ++ (ds ++ y)) ∧
      name.map lower = contentLength.map lower ∧ (∀ b ∈ gap, isBlank b = true) ∧ ds ≠ [] ∧
      ∀ b ∈ ds, isDigit b = true := by
  obtain ⟨name, gap, ds, tail, rfl, hname, hgap, hds, hdigits, -, -⟩ := h
  obtain ⟨d, hd, hdd⟩ := hdigit
  have hnoName : d ∉ name := fun hmem => by
    have := not_isDigit_of_mem_contentLength (hname ▸ List.mem_map_of_mem hmem)
    simp [hdd] at this
  have hnoGap : d ∉ gap := fun hmem => by
    have := hgap d hmem
    grind [isDigit, isBlank]
  -- the part reaches behind the name, the colon and the gap
  rcases prefix_append_cases hpre with h | ⟨u, hu, rfl, hafter⟩
  · exact absurd (h.subset hd) hnoName
  obtain ⟨c, t, rfl⟩ := List.exists_cons_of_ne_nil hu
  obtain ⟨rfl, hvalue⟩ := List.cons_prefix_cons.mp hafter
  rw [List.append_assoc] at hvalue
  rcases prefix_append_cases hvalue with h | ⟨v, hv, rfl, hnumber⟩
  · have : d ∈ t := by
      rcases List.mem_append.mp hd with h | h
      · exact absurd h hnoName
      · refine (List.mem_cons.mp h).resolve_left ?_
        rintro rfl
        exact absurd hdd (by decide)
    exact absurd (h.subset this) hnoGap
  rcases prefix_append_cases hnumber with h | ⟨y, -, rfl, -⟩
  · exact ⟨name, gap, v, [], by simp, hname, hgap, hv, fun b hb => hdigits b (h.subset hb)⟩
  · exact ⟨name, gap, ds, y, rfl, hname, hgap, hds, hdigits⟩

theorem not_isDigit_of_sameHeader {part : Bytes} {n : Nat} (hn : part.length ≤ n)
    (h : sameHeader (part ++ behind) n = true) : ∀ b ∈ part, isDigit b = false := by
  intro b hb
  have hmem : lower b ∈ (contentLength.take n).map lower := by
    rw [← of_decide_eq_true h, List.take_append, List.take_of_length_le hn]
    exact List.mem_map_of_mem (List.mem_append_left _ hb)
  rw [List.map_take] at hmem
  exact not_isDigit_of_mem_contentLength (List.mem_of_mem_take hmem)

/-- The received bytes end in a header line, behind the blanks before it. -/
theorem header_within {y l body : Bytes} {ls : List Bytes} (hl : Plain l) (hpre : y <+: l)
    (hne : y.dropWhile isBlank ≠ []) (hk : LengthKnown mb bl (l :: ls) body)
    (hsafe : mb = false → sameHeader (y.dropWhile isBlank ++ behind)
        (min contentLength.length (rtspBufferSize - ml)) = true →
      ∃ b ∈ y.dropWhile isBlank, isDigit b = true)
    (hroom : ml + (y.dropWhile isBlank).length ≤ rtspBufferSize) :
    header behind (fuel + 1) ml (y.dropWhile isBlank) mb bl = .notFull := by
  have hplain : Plain (y.dropWhile isBlank) :=
    (hl.of_subset hpre.subset).of_subset (List.dropWhile_suffix _).subset
  by_cases hc : (!mb && sameHeader (y.dropWhile isBlank ++ behind)
      (min contentLength.length (rtspBufferSize - ml))) = true
  · simp only [Bool.and_eq_true, Bool.not_eq_true'] at hc
    obtain ⟨rfl, hsame⟩ := hc
    have hdigit := hsafe rfl hsame
    -- a part without the whole name has no digit
    have hlong : contentLength.length ≤ (y.dropWhile isBlank).length := by
      by_contra hshort
      obtain ⟨d, hd, hdd⟩ := hdigit
      have := not_isDigit_of_sameHeader (by omega) hsame d hd
      simp [hdd] at this
    have hpart : y.dropWhile isBlank <+: l.dropWhile isBlank := by
      obtain ⟨w, rfl⟩ := hpre
      rw [List.dropWhile_append, if_neg (by simpa using hne)]
      exact List.prefix_append _ _
    have hstarts : startsLength l = true := by
      obtain ⟨w, hw⟩ := hpart
      rw [Nat.min_eq_left (by omega)] at hsame
      unfold startsLength
      rw [← hw, ← hsame]
      unfold sameHeader
      rw [List.take_append_of_le_length hlong, List.take_append_of_le_length hlong]
    have hcl : IsContentLength l body.length := by
      simpa [LengthKnown, List.find?_cons, hstarts] using hk.2
    have hdrop := hcl.dropWhile_blank
    obtain ⟨name, gap, ds, z, hz, hname, hgap, hds, hdigits⟩ :=
      prefix_isContentLength (hdrop ▸ hpart) hcl hdigit
    rw [hz] at hplain ⊢
    obtain ⟨gap', hsub, -, hheader⟩ := header_length behind (fuel + 1) bl gap z hname hds hdigits
      (show ml + contentLength.length ≤ rtspBufferSize by omega)
    rw [hheader _ (scanShort_append (fun b hb => hgap b (hsub hb)) hds hdigits _)]
    exact scan_within (hplain.of_subset (subset_header name (ds ++ z) hsub)) (by simp [hds])
  · unfold header
    rw [if_neg hc]
    exact scan_within hplain hne

/-- The loop goes from the rest of a line to the next line, or to the value of the length. -/
theorem scan_next {cur l body : Bytes} {ls : List Bytes} (hcur : Plain cur) (hne : cur ≠ [])
    (hl : LineOk l) (hk : LengthKnown mb bl (l :: ls) body) (hshort : body.length < 32768) (z : Bytes)
    (hroom : ml + cur.length + l.length + 3 ≤ rtspBufferSize) :
    ∃ ml' cur' mb' bl', Plain cur' ∧ cur' ≠ [] ∧ cur'.length ≤ l.length ∧
      ml' + cur'.length = ml + cur.length + 2 + l.length ∧ LengthKnown mb' bl' ls body ∧
      (mb' = false → mb = false ∧ startsLength l = false) ∧
      scan behind (fuel + 1) ml (cur ++ (crlf ++ (l ++ 13 :: z))) mb bl =
        scan behind fuel ml' (cur' ++ 13 :: z) mb' bl' := by
  have hlen : (l.takeWhile isBlank).length + (l.dropWhile isBlank).length = l.length := by
    rw [← List.length_append, List.takeWhile_append_dropWhile]
  have hfilled : l.dropWhile isBlank ≠ [] := by
    obtain ⟨b, hb, hblank⟩ := hl.filled
    intro h
    have := List.dropWhile_eq_nil_iff.mp h b hb
    simp [hblank] at this
  have hplain : Plain (l.dropWhile isBlank) :=
    hl.plain.of_subset (List.dropWhile_suffix _).subset
  have hstep : scan behind (fuel + 1) ml (cur ++ (crlf ++ (l ++ 13 :: z))) mb bl =
      header behind fuel (ml + cur.length + 2 + (l.takeWhile isBlank).length)
        (l.dropWhile isBlank ++ 13 :: z) mb bl := by
    rw [scan_line hcur hne hl.plain (absurd · hfilled), if_neg hfilled]
  -- the line is not looked at any more, is no length, or is the length
  rw [hstep]
  by_cases hmb : mb = true
  · subst hmb
    refine ⟨ml + cur.length + 2 + (l.takeWhile isBlank).length, l.dropWhile isBlank, true, bl,
      hplain, hfilled, by omega, by omega, hk, by simp, ?_⟩
    simp [header]
  obtain rfl : mb = false := by simpa using hmb
  have hsame : sameHeader (l.dropWhile isBlank ++ 13 :: z ++ behind) (min contentLength.length
      (rtspBufferSize - (ml + cur.length + 2 + (l.takeWhile isBlank).length))) = startsLength l := by
    rw [List.append_assoc]
    exact sameHeader_line _ _ (by omega)
  cases hs : startsLength l with
  | false =>
    refine ⟨ml + cur.length + 2 + (l.takeWhile isBlank).length, l.dropWhile isBlank, false, bl,
      hplain, hfilled, by omega, by omega, ?_, by simp, ?_⟩
    · simpa [LengthKnown, List.find?_cons, hs] using hk
    · unfold header
      rw [hsame, hs]
      rfl
  | true =>
    have hcl : IsContentLength l body.length := by
      simpa [LengthKnown, List.find?_cons, hs] using hk.2
    rw [hcl.dropWhile_blank] at hlen ⊢
    obtain ⟨cur', hplain', hne', hle, hheader⟩ := header_value hl.plain hcl (by omega) z
      (show ml + cur.length + 2 + (l.takeWhile isBlank).length + l.length ≤ rtspBufferSize by omega)
    exact ⟨_, cur', true, body.length, hplain', hne', hle, by omega, rfl, by simp, hheader⟩

/-! ## Whole requests -/

theorem LengthKnown.eq_length {body : Bytes} (h : LengthKnown mb bl [] body) : bl = body.length := by
  cases mb with
  | true => exact h
  | false =>
    obtain ⟨rfl, hbody⟩ := h
    exact (List.length_eq_zero_iff.mpr hbody).symm

theorem joinLines_cons (l : Bytes) (ls : List Bytes) (rest : Bytes) :
    joinLines (l :: ls) ++ rest = l ++ 13 :: 10 :: (joinLines ls ++ rest) := by
  simp [joinLines, crlf]

theorem drop_line (s t : Bytes) : (s ++ 13 :: t).drop (s.length + 2) = t.drop 1 := by
  rw [← List.drop_drop, List.drop_left]
  rfl

/-- On a request that is received as a whole, the loop finds its end. -/
theorem scan_complete {cur body rest : Bytes} {ls : List Bytes} (hcur : Plain cur) (hne : cur ≠ [])
    (hls : ∀ l ∈ ls, LineOk l) (hk : LengthKnown mb bl ls body) (hshort : body.length < 32768)
    (hbody : ∀ b ∈ (body ++ rest).head?, isEol b = false) (hfuel : ls.length < fuel)
    (hroom : ml + cur.length + (joinLines ls).length + 4 ≤ rtspBufferSize) :
    scan behind fuel ml (cur ++ (crlf ++ (joinLines ls ++ (crlf ++ (body ++ rest))))) mb bl =
      received (ml + cur.length + (joinLines ls).length + 4) body.length (body ++ rest) := by
  induction ls generalizing cur ml mb bl fuel with
  | nil =>
    obtain ⟨fuel, rfl⟩ : ∃ k, fuel = k + 1 := ⟨fuel - 1, by omega⟩
    have ht : terminators (13 :: 10 :: (crlf ++ (body ++ rest))) 0 0 = (4, 0) :=
      terminators_crlf_crlf hbody
    refine (scan_eol hcur hne ht).trans ?_
    rw [if_pos (.inl (by decide)), hk.eq_length, if_pos (by simp [crlf])]
    rfl
  | cons l ls ih =>
    obtain ⟨fuel, rfl⟩ : ∃ k, fuel = k + 1 := ⟨fuel - 1, by omega⟩
    have hlen : (joinLines (l :: ls)).length = l.length + 2 + (joinLines ls).length := by
      simp [joinLines, crlf]
      omega
    rw [joinLines_cons]
    obtain ⟨ml', cur', mb', bl', hcur', hne', -, hml, hk', -, hscan⟩ :=
      scan_next hcur hne (hls l (by simp)) hk hshort
        (10 :: (joinLines ls ++ (crlf ++ (body ++ rest)))) (show ml + cur.length + l.length + 3 ≤ rtspBufferSize by omega)
    rw [hscan]
    refine (ih hcur' hne' (fun l hl => hls l (by simp [hl])) hk' (by simpa using hfuel) (by omega)).trans ?_
    congr 1
    omega

/-- The received bytes end in the current line or in its end, or they go on. -/
theorem scan_cut {cur input x : Bytes} (hcur : Plain cur) (hne : cur ≠ []) (hinput : input ≠ [])
    (hpre : input <+: cur ++ (crlf ++ x)) :
    scan behind (fuel + 1) ml input mb bl = .notFull ∨
      ∃ y, input = cur ++ (crlf ++ y) ∧ y <+: x := by
  rcases prefix_append_cases hpre with h | ⟨e, he, rfl, hend⟩
  · exact .inl (scan_within (hcur.of_subset h.subset) hinput)
  rcases prefix_append_cases hend with h | ⟨y, -, rfl, hy⟩
  · rcases List.prefix_cons_iff.mp h with rfl | ⟨t, rfl, ht⟩
    · exact absurd rfl he
    · rcases List.prefix_cons_iff.mp ht with rfl | ⟨u, rfl, hu⟩
      · have hterm : terminators [13] 0 0 = (1, 0) := by decide
        refine .inl ((scan_eol hcur hne hterm).trans ?_)
        simp
      · obtain rfl := List.prefix_nil.mp hu
        exact .inr ⟨[], by simp [crlf], List.nil_prefix⟩
  · exact .inr ⟨y, rfl, hy⟩

/-- On a part of a request that `StopsSafely`, the loop waits. -/
theorem scan_part {cur body input : Bytes} {ls : List Bytes} (hcur : Plain cur) (hne : cur ≠ [])
    (hls : ∀ l ∈ ls, LineOk l) (hk : LengthKnown mb bl ls body) (hshort : body.length < 32768)
    (hbody : ∀ b ∈ body.head?, isEol b = false)
    (hpre : input <+: cur ++ (crlf ++ (joinLines ls ++ (crlf ++ body)))) (hinput : input ≠ [])
    (hlt : input.length < (cur ++ (crlf ++ (joinLines ls ++ (crlf ++ body)))).length)
    (hblank : body = [] → input ++ [10] ≠ cur ++ (crlf ++ (joinLines ls ++ (crlf ++ body))))
    (hsafe : mb = false → StopsSafely behind (ml + cur.length + 2) ls (input.drop (cur.length + 2)))
    (hfuel : input.length ≤ fuel) (hroom : ml + input.length ≤ rtspBufferSize) :
    scan behind fuel ml input mb bl = .notFull := by
  induction ls generalizing cur ml mb bl fuel input with
  | nil =>
    obtain ⟨fuel, rfl⟩ : ∃ k, fuel = k + 1 :=
      ⟨fuel - 1, by have := List.length_pos_iff.mpr hinput; omega⟩
    rcases scan_cut hcur hne hinput hpre with h | ⟨y, rfl, hy⟩
    · exact h
    have hbl := hk.eq_length
    simp only [joinLines, List.flatMap_nil, List.nil_append] at hy hlt hblank
    -- behind the last line: nothing, one byte of the empty line, or a part of the body
    rcases List.prefix_cons_iff.mp hy with rfl | ⟨t, rfl, ht⟩
    · have hterm : terminators [13, 10] 0 0 = (2, 0) := by decide
      refine (scan_eol hcur hne hterm).trans ?_
      simp
    rcases List.prefix_cons_iff.mp ht with rfl | ⟨z, rfl, hz⟩
    · have hpos : 0 < body.length := by
        rw [List.length_pos_iff]
        rintro rfl
        exact hblank rfl (by simp [crlf])
      have hterm : terminators [13, 10, 13] 0 0 = (3, 0) := by decide
      refine (scan_eol hcur hne hterm).trans ?_
      simp [hbl, hpos.ne']
    · have hhead : ∀ b ∈ z.head?, isEol b = false := by
        intro b hb
        obtain ⟨w, rfl⟩ := hz
        cases z with
        | nil => simp at hb
        | cons c z => exact hbody b (by simpa using hb)
      refine (scan_eol hcur hne (terminators_crlf_crlf hhead)).trans ?_
      simp [crlf] at hlt ⊢
      omega
  | cons l ls ih =>
    obtain ⟨fuel, rfl⟩ : ∃ k, fuel = k + 1 :=
      ⟨fuel - 1, by have := List.length_pos_iff.mpr hinput; omega⟩
    rcases scan_cut hcur hne hinput hpre with h | ⟨y, rfl, hy⟩
    · exact h
    have hl := hls l (by simp)
    rw [joinLines_cons] at hy hlt hblank
    rcases prefix_append_cases hy with hwithin | ⟨t, ht, rfl, hend⟩
    · -- the received bytes end in the next line
      rw [scan_line_end hcur hne (hl.plain.of_subset hwithin.subset)]
      split
      · rfl
      · next hpart =>
        have hdrop : (cur ++ (crlf ++ y)).drop (cur.length + 2) = y := drop_line cur (10 :: y)
        have hlen : (y.takeWhile isBlank).length + (y.dropWhile isBlank).length = y.length := by
          rw [← List.length_append, List.takeWhile_append_dropWhile]
        simp only [List.length_append, crlf, List.length_cons, List.length_nil] at hroom hfuel
        obtain ⟨fuel, rfl⟩ : ∃ k, fuel = k + 1 := ⟨fuel - 1, by omega⟩
        refine header_within hl.plain hwithin hpart hk (fun hmb hsame => ?_) (by omega)
        have := hsafe hmb
        rw [hdrop, StopsSafely, if_pos hwithin.length_le] at this
        exact this hpart hsame
    · -- they hold the next line
      obtain ⟨z, rfl, hz⟩ := (List.prefix_cons_iff.mp hend).resolve_left ht
      have hdrop : (cur ++ (crlf ++ (l ++ 13 :: z))).drop (cur.length + 2) = l ++ 13 :: z :=
        drop_line cur (10 :: (l ++ 13 :: z))
      rw [hdrop] at hsafe
      simp only [List.length_append, List.length_cons, crlf, List.length_nil] at hlt hroom hfuel
      obtain ⟨ml', cur', mb', bl', hcur', hne', hle, hml, hk', hmb, hscan⟩ :=
        scan_next hcur hne hl hk hshort z (show ml + cur.length + l.length + 3 ≤ rtspBufferSize by omega)
      rw [hscan]
      refine ih hcur' hne' (fun l hl => hls l (by simp [hl])) hk' ?_ (by simp) ?_ ?_ ?_ ?_ ?_
      · exact (List.prefix_append_right_inj _).mpr (List.cons_prefix_cons.mpr ⟨rfl, hz⟩)
      · simp only [List.length_append, List.length_cons, crlf, List.length_nil]
        omega
      · intro hnil heq
        refine hblank hnil ?_
        rw [List.append_assoc, List.append_cancel_left_eq] at heq
        simpa [crlf] using heq
      · intro hmb'
        obtain ⟨rfl, hstarts⟩ := hmb hmb'
        have := hsafe rfl
        rw [StopsSafely, if_neg (by simp), hstarts, drop_line] at this
        rw [drop_line, hml]
        simpa [Nat.add_right_comm _ 2] using this
      · simp only [List.length_append, List.length_cons]
        omega
      · simp only [List.length_append, List.length_cons]
        omega

theorem head?_append {s : Bytes} (h : s ≠ []) (t : Bytes) : (s ++ t).head? = s.head? := by
  obtain ⟨b, s, rfl⟩ := List.exists_cons_of_ne_nil h
  rfl

theorem SentRequest.head_append (r : SentRequest) (rest : Bytes) :
    r.head ++ rest = r.requestLine ++ (crlf ++ (joinLines r.headerLines ++ (crlf ++ rest))) := by
  simp [SentRequest.head, joinLines]

theorem SentRequest.length_head (r : SentRequest) :
    r.head.length = r.requestLine.length + (joinLines r.headerLines).length + 4 := by
  simp [SentRequest.head, joinLines, crlf]
  omega

theorem LineOk.ne_nil {l : Bytes} (h : LineOk l) : l ≠ [] := by
  obtain ⟨b, hb, -⟩ := h.filled
  exact List.ne_nil_of_mem hb

theorem length_le_joinLines (ls : List Bytes) : ls.length ≤ (joinLines ls).length := by
  induction ls with
  | nil => simp
  | cons l ls ih =>
    simp only [joinLines, List.flatMap_cons, List.length_append, List.length_cons, crlf,
      List.length_nil] at ih ⊢
    omega

theorem fullMsgRcvd_request {r : SentRequest} {rest : Bytes} (h : r.WellFormed) (hf : r.Framable)
    (hrest : ∀ b ∈ rest.head?, isEol b = false ∧ b ≠ 0) (hroom : r.head.length ≤ rtspBufferSize) :
    fullMsgRcvd (r.head ++ (r.body ++ rest)) behind = .method r.head.length r.body.length := by
  have hline := h.lines r.requestLine (by simp)
  have hhead : (r.head ++ (r.body ++ rest)).head? ≠ some 36 := by
    rw [r.head_append, head?_append hline.ne_nil]
    exact h.notPacket
  have hbody : ∀ b ∈ (r.body ++ rest).head?, isEol b = false := by
    intro b hb
    cases hr : r.body with
    | nil =>
      rw [hr] at hb
      exact (hrest b (by simpa using hb)).1
    | cons c s =>
      rw [hr] at hb
      exact hf.body b (by simpa [hr] using hb)
  have hfuel : r.headerLines.length < (r.head ++ (r.body ++ rest)).length + 1 := by
    have := length_le_joinLines r.headerLines
    simp only [List.length_append, r.length_head]
    omega
  unfold fullMsgRcvd
  rw [if_neg hhead]
  generalize (r.head ++ (r.body ++ rest)).length + 1 = fuel at hfuel
  rw [r.head_append, scan_complete hline.plain hline.ne_nil (fun l hl => h.lines l (by simp [hl]))
    (h.lengthKnown hf) h.short hbody hfuel (by rw [r.length_head] at hroom; omega)]
  have hnuls : rest.takeWhile (· = 0) = [] := by
    cases rest with
    | nil => rfl
    | cons b rest => simp [(hrest b rfl).2]
  have hshort := h.short
  unfold received
  rw [List.drop_left, hnuls, r.length_head, Nat.zero_add]
  simp only [List.length_nil, Nat.add_zero]
  rw [Nat.mod_eq_of_lt (by omega)]

theorem fullMsgRcvd_request_part {r : SentRequest} {input : Bytes} (h : r.WellFormed)
    (hf : r.Framable) (hw : r.Waits input behind) (hpre : input <+: r.head ++ r.body)
    (hlt : input.length < (r.head ++ r.body).length) (hne : input ≠ [])
    (hroom : input.length ≤ rtspBufferSize) : fullMsgRcvd input behind = .notFull := by
  have hline := h.lines r.requestLine (by simp)
  rw [r.head_append] at hpre hlt
  have hhead : input.head? ≠ some 36 := by
    obtain ⟨w, hw⟩ := hpre
    have := congrArg List.head? hw
    rw [head?_append hline.ne_nil, head?_append hne] at this
    rw [this]
    exact h.notPacket
  unfold fullMsgRcvd
  rw [if_neg hhead]
  refine scan_part hline.plain hline.ne_nil (fun l hl => h.lines l (by simp [hl]))
    (h.lengthKnown hf) h.short hf.body hpre hne hlt ?_ ?_ (by omega) (by omega)
  · intro hnil heq
    rw [← r.head_append, hnil, List.append_nil] at heq
    exact hw.blank hnil heq
  · intro _
    simpa using hw.header

theorem fullMsgRcvd_packet {channel : UInt8} {data : Bytes} (h : data.length < 65536)
    (rest : Bytes) :
    fullMsgRcvd ((Sent.packet channel data).bytes ++ rest) behind = .interleaved 4 data.length := by
  have hlen : data.length / 256 % 256 * 256 + data.length % 256 = data.length := by omega
  simp [fullMsgRcvd, Sent.bytes, hlen]

theorem fullMsgRcvd_packet_part {channel : UInt8} {data input : Bytes} (h : data.length < 65536)
    (hpre : input <+: (Sent.packet channel data).bytes)
    (hlt : input.length < (Sent.packet channel data).bytes.length) (hne : input ≠ []) :
    fullMsgRcvd input behind = .notFull := by
  simp only [Sent.bytes, List.length_cons] at hpre hlt
  obtain ⟨s, rfl, hs⟩ := (List.prefix_cons_iff.mp hpre).resolve_left hne
  unfold fullMsgRcvd
  rw [if_pos List.head?_cons]
  -- without the length nothing counts, as a packet has four bytes at least
  by_cases hshort : s.length < 3
  · rw [if_neg]
    simp only [List.length_cons]
    omega
  · obtain ⟨w, hw⟩ := hs
    obtain ⟨a, b, c, part, rfl⟩ : ∃ a b c part, s = a :: b :: c :: part := by
      rcases s with _ | ⟨a, _ | ⟨b, _ | ⟨c, part⟩⟩⟩
      · simp at hshort
      · simp at hshort
      · simp at hshort
      · exact ⟨a, b, c, part, rfl⟩
    have hlen : data.length / 256 % 256 * 256 + data.length % 256 = data.length := by omega
    simp only [List.cons_append, List.cons.injEq] at hw
    obtain ⟨-, rfl, rfl, -⟩ := hw
    simp only [List.length_cons] at hlt
    rw [if_neg]
    simp [hlen]
    omega

end StreamSwitch.RtspInput
