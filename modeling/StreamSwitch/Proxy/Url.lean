import StreamSwitch.Lib.Search
import StreamSwitch.Strtol

/-!
# URLs of proxied streams

`UrlParser::Parse` of `url.h`. A C string is the list of its characters, none of them NUL, and a
pointer into it is a position.
-/

namespace StreamSwitch

namespace Proxy

/-! ## The code -/

structure UrlParser where
  protocol : List Char := []
  hostName : List Char := []
  port : Int := 0
  path : List Char := []
deriving DecidableEq, Repr

/-- `strstr` from a position on. -/
def strstrFrom (text : List Char) (start : Nat) (needle : List Char) : Option Nat :=
  ((text.drop start).dropInfix? needle).map fun found => start + found.1.length

/-- `std::string::assign` with a pointer and a length. -/
def assigned (text : List Char) (start len : Nat) : List Char := (text.drop start).take len

/-- Where the protocol ends and the host name begins. -/
def findHostname (urlname : List Char) : Nat × Nat :=
  match strstrFrom urlname 0 "://".toList with
  | none => (0, 0)
  | some i => (i, i + 3)

/-- The length of the host name as far as the path tells, where the path begins, and its length. -/
def findPath (urlname : List Char) (hostnameStart : Nat) : Nat × Option Nat × Nat :=
  match strstrFrom urlname hostnameStart ['/'] with
  | none => (urlname.length - hostnameStart, none, 0)
  | some i =>
    let pathStart := i + 1
    (pathStart - hostnameStart - 1, some pathStart, urlname.length - pathStart)

/-- Where the port begins, and its length. -/
def findPort (urlname : List Char) (hostnameStart : Nat) (pathStart : Option Nat) (pathLen : Nat) :
    Option (Nat × Nat) :=
  match strstrFrom urlname hostnameStart [':'] with
  | none => none
  | some i =>
    if pathStart.any fun p => p ≤ i then none
    else
      let portStart := i + 1
      let portLen :=
        if pathLen ≠ 0 then pathStart.getD 0 - portStart - 1 else urlname.length - portStart
      some (portStart, portLen)

def UrlParser.parse (url : UrlParser) (urlname : List Char) : UrlParser :=
  let (protocolLen, hostnameStart) := findHostname urlname
  let (hostnameLen, pathStart, pathLen) := findPath urlname hostnameStart
  let port := findPort urlname hostnameStart pathStart pathLen
  let hostnameLen := port.elim hostnameLen fun p => p.1 - hostnameStart - 1
  let portLen := port.elim 0 Prod.snd
  { protocol := if protocolLen ≠ 0 then assigned urlname 0 protocolLen else url.protocol
    port :=
      if portLen ≠ 0 then (strtol 0 (assigned urlname (port.elim 0 Prod.fst) portLen)).bmod (2 ^ 32)
      else url.port
    path := if pathLen ≠ 0 then assigned urlname (pathStart.getD 0) pathLen else url.path
    hostName := if hostnameLen ≠ 0 then assigned urlname hostnameStart hostnameLen else url.hostName }

/-! ## URLs -/

def portText (port : Option Nat) : List Char := port.elim [] fun n => ':' :: Nat.toDigits 10 n

def pathText (path : Option (List Char)) : List Char := path.elim [] fun p => '/' :: p

/-- A URL, with or without a port and a path. -/
def urlText (protocol host : List Char) (port : Option Nat) (path : Option (List Char)) : List Char :=
  protocol ++ "://".toList ++ (host ++ portText port ++ pathText path)

variable {text before after protocol host : List Char} {start i : Nat} {c : Char}

theorem strstrFrom_letter (h : text.drop start = before ++ c :: after) (hc : c ∉ before) :
    strstrFrom text start [c] = some (start + before.length) := by
  unfold strstrFrom
  rw [h, Search.dropInfix?_letter hc]
  rfl

theorem strstrFrom_no_letter (h : c ∉ text.drop start) : strstrFrom text start [c] = none := by
  unfold strstrFrom
  rw [Search.dropInfix?_no_letter h]
  rfl

/-- What is found is not before a part without the letter. -/
theorem le_of_strstrFrom (h : text.drop start = before ++ after) (hc : c ∉ before)
    (hfound : strstrFrom text start [c] = some i) : start + before.length ≤ i := by
  obtain ⟨⟨p, s⟩, hsome, rfl⟩ := Option.map_eq_some_iff.1 hfound
  obtain ⟨⟨v, htext, hv⟩, -⟩ := List.dropInfix?_eq_some_iff.1 hsome
  obtain rfl := eq_of_beq hv
  refine Nat.add_le_add_left (Nat.le_of_not_lt fun hlt => hc ?_) start
  have hat : (before ++ after)[p.length]? = some c := by
    rw [← h, htext, List.append_assoc, List.getElem?_append_right (Nat.le_refl _), Nat.sub_self]
    rfl
  rw [List.getElem?_append_left hlt] at hat
  exact List.mem_of_getElem? hat

theorem findHostname_eq (hprotocol : ':' ∉ protocol) (rest : List Char) :
    findHostname (protocol ++ "://".toList ++ rest) = (protocol.length, protocol.length + 3) := by
  have hno : ¬ "://".toList <:+: protocol ++ "://".toList.dropLast :=
    Search.not_infix_append (by decide) fun hin => hprotocol (hin.subset (by decide))
  have hfound : strstrFrom (protocol ++ "://".toList ++ rest) 0 "://".toList = some protocol.length := by
    unfold strstrFrom
    rw [List.drop_zero, Search.dropInfix?_append (by decide) hno]
    simp
  unfold findHostname
  rw [hfound]

theorem findPath_none (h : '/' ∉ text.drop start) :
    findPath text start = (text.length - start, none, 0) := by
  unfold findPath
  rw [strstrFrom_no_letter h]

theorem findPath_some (h : text.drop start = before ++ '/' :: after) (hc : '/' ∉ before) :
    findPath text start =
      (before.length, some (start + before.length + 1), after.length) := by
  have hlen := congrArg List.length h
  simp only [List.length_drop, List.length_append, List.length_cons] at hlen
  unfold findPath
  rw [strstrFrom_letter h hc]
  dsimp only
  congr 1
  · omega
  · congr 1
    omega

variable {port : Option Nat} {path : Option (List Char)}

theorem urlText_drop (protocol host : List Char) (port : Option Nat) (path : Option (List Char)) :
    (urlText protocol host port path).drop (protocol.length + 3) =
      host ++ portText port ++ pathText path := by
  unfold urlText
  rw [show protocol.length + 3 = (protocol ++ "://".toList).length by simp, List.drop_left]

theorem slash_notMem_authority (hhost : '/' ∉ host) (port : Option Nat) :
    '/' ∉ host ++ portText port := by
  cases port with
  | none => simpa [portText] using hhost
  | some n =>
    have hdigits : '/' ∉ Nat.toDigits 10 n := fun hin =>
      absurd (Nat.isDigit_of_mem_toDigits (by decide) (by decide) hin) (by decide)
    simp [portText, hhost, hdigits]

theorem assigned_eq {mid rest : List Char} (h : text.drop start = mid ++ rest) :
    assigned text start mid.length = mid := by
  unfold assigned
  rw [h, List.take_left]

/-- A part that is empty is not assigned. -/
theorem assigned_or_nil {mid rest : List Char} (h : text.drop start = mid ++ rest) :
    (if mid.length ≠ 0 then assigned text start mid.length else []) = mid := by
  split
  · exact assigned_eq h
  · rename_i hlen
    exact (List.length_eq_zero_iff.1 (not_not.1 hlen)).symm

/-- Without a port, a colon stands in the path only. -/
theorem findPort_absent (hcolon : ':' ∉ host) (h : text.drop start = host ++ pathText path) (n : Nat) :
    findPort text start (path.map fun _ => start + host.length + 1) n = none := by
  unfold findPort
  cases hfound : strstrFrom text start [':'] with
  | none => rfl
  | some i =>
    dsimp only
    refine if_pos ?_
    cases path with
    | none =>
      have hno : ':' ∉ text.drop start := by
        rw [h]
        simpa [pathText] using hcolon
      cases (strstrFrom_no_letter hno).symm.trans hfound
    | some p =>
      have hpath : text.drop start = (host ++ ['/']) ++ p := by
        rw [h]
        simp [pathText]
      have hle := le_of_strstrFrom hpath (by simp [hcolon]) hfound
      rw [List.length_append, List.length_singleton] at hle
      exact decide_eq_true hle

theorem findPort_present {digits : List Char} (hcolon : ':' ∉ host)
    (h : text.drop start = host ++ ':' :: digits ++ pathText path) :
    findPort text start (path.map fun _ => start + (host ++ ':' :: digits).length + 1)
        (path.getD []).length =
      some (start + host.length + 1,
        if path.getD [] = [] then (digits ++ pathText path).length else digits.length) := by
  have hlen := congrArg List.length h
  simp only [List.length_drop, List.length_append, List.length_cons] at hlen
  have hport : text.drop start = host ++ ':' :: (digits ++ pathText path) := by
    rw [h, List.append_assoc, List.cons_append]
  have hfound := strstrFrom_letter hport hcolon
  unfold findPort
  rw [hfound]
  dsimp only
  cases path with
  | none =>
    simp only [Option.map_none, Option.any_none, pathText, Option.elim_none, Option.getD_none,
      List.length_nil] at hlen ⊢
    simp
    omega
  | some p =>
    simp only [Option.map_some, Option.any_some, pathText, Option.elim_some, Option.getD_some,
      List.length_append, List.length_cons] at hlen ⊢
    rw [if_neg (by rw [decide_eq_true_eq]; omega)]
    congr 2
    by_cases hp : p = []
    · subst hp
      simp at hlen ⊢
      omega
    · rw [if_neg hp, if_pos (mt List.length_eq_zero_iff.1 hp)]
      omega

theorem findPath_eq (h : text.drop start = before ++ pathText path) (hslash : '/' ∉ before) :
    findPath text start =
      (before.length, path.map fun _ => start + before.length + 1, (path.getD []).length) := by
  cases path with
  | none =>
    rw [pathText, Option.elim_none, List.append_nil] at h
    rw [findPath_none (h ▸ hslash), ← List.length_drop, h]
    rfl
  | some p => exact findPath_some h hslash

theorem pathText_length_drop (h : text.drop start = before ++ pathText path) :
    ∃ rest, text.drop ((path.map fun _ => start + before.length + 1).getD 0) = path.getD [] ++ rest := by
  cases path with
  | none => exact ⟨_, rfl⟩
  | some p =>
    refine ⟨[], ?_⟩
    have hlen : (before ++ ['/']).length = before.length + 1 := List.length_append
    rw [Option.map_some, Option.getD_some, Nat.add_assoc, ← List.drop_drop, h, ← hlen]
    rw [show before ++ pathText (some p) = (before ++ ['/']) ++ p by simp [pathText], List.drop_left,
      Option.getD_some, List.append_nil]

/-- The port is read up to the path, or with the slash of an empty one. -/
theorem readPort {n : Nat} (hn : n < 2 ^ 31)
    (h : text.drop start = Nat.toDigits 10 n ++ pathText path) :
    (strtol 0 (assigned text start (if path.getD [] = [] then
      (Nat.toDigits 10 n ++ pathText path).length else (Nat.toDigits 10 n).length))).bmod (2 ^ 32) =
      n := by
  have hread : ∀ rest : List Char, (∀ c ∈ rest.head?, 36 ≤ digitOf c) →
      (strtol 0 (Nat.toDigits 10 n ++ rest)).bmod (2 ^ 32) = n := by
    intro rest hrest
    rw [strtol_toDigits (by omega) hrest]
    exact Int.bmod_eq_of_le (by omega) (by omega)
  by_cases hpath : path.getD [] = []
  · rw [if_pos hpath, assigned_eq (h.trans (List.append_nil _).symm)]
    refine hread _ fun c hc => ?_
    cases path with
    | none => cases hc
    | some p =>
      cases hc
      decide
  · rw [if_neg hpath, assigned_eq h]
    have hplain := hread [] fun c hc => by cases hc
    rwa [List.append_nil] at hplain

/-- What is behind the colon. -/
theorem drop_colon {rest : List Char} (h : text.drop start = host ++ ':' :: rest) :
    text.drop (start + host.length + 1) = rest := by
  have hlen : (host ++ [':']).length = host.length + 1 := List.length_append
  have hsplit : host ++ ':' :: rest = (host ++ [':']) ++ rest := by simp
  rw [Nat.add_assoc, ← List.drop_drop, h, ← hlen, hsplit, List.drop_left]

/-- A port is never taken for one that is not there. -/
theorem portLength_ne_zero (n : Nat) : (if path.getD [] = [] then
    (Nat.toDigits 10 n ++ pathText path).length else (Nat.toDigits 10 n).length) ≠ 0 := by
  have hpos : 0 < (Nat.toDigits 10 n).length := Nat.length_toDigits_pos
  split
  · rw [List.length_append]
    omega
  · omega

/-- The parts of a URL are what the parser finds. -/
theorem parse_urlText (hprotocol : ':' ∉ protocol) (hcolon : ':' ∉ host) (hslash : '/' ∉ host)
    (hport : ∀ n ∈ port, n < 2 ^ 31) :
    ({} : UrlParser).parse (urlText protocol host port path) =
      ⟨protocol, host, port.getD 0, path.getD []⟩ := by
  have hdrop := urlText_drop protocol host port path
  have hauth := slash_notMem_authority hslash port
  have hname : findHostname (urlText protocol host port path) =
      (protocol.length, protocol.length + 3) := findHostname_eq hprotocol _
  have hstart : (urlText protocol host port path).drop 0 = protocol ++
      ("://".toList ++ (host ++ portText port ++ pathText path)) := by
    rw [List.drop_zero, urlText, List.append_assoc]
  have hhost : (urlText protocol host port path).drop (protocol.length + 3) =
      host ++ (portText port ++ pathText path) := by
    rw [hdrop, List.append_assoc]
  obtain ⟨rest, hpath⟩ := pathText_length_drop hdrop
  generalize urlText protocol host port path = text at *
  unfold UrlParser.parse
  rw [hname]
  dsimp only
  rw [findPath_eq hdrop hauth]
  dsimp only
  rw [assigned_or_nil hstart, assigned_or_nil hpath]
  cases port with
  | none =>
    have hnone : portText none = [] := rfl
    rw [hnone, List.append_nil] at hdrop ⊢
    rw [findPort_absent hcolon hdrop]
    show UrlParser.mk protocol
      (if host.length ≠ 0 then assigned text (protocol.length + 3) host.length else []) 0
      (path.getD []) = _
    rw [assigned_or_nil hhost]
    rfl
  | some n =>
    have hsome : portText (some n) = ':' :: Nat.toDigits 10 n := rfl
    rw [hsome] at hdrop hhost ⊢
    have hdigits : text.drop (protocol.length + 3 + host.length + 1) =
        Nat.toDigits 10 n ++ pathText path := drop_colon hhost
    have hlen := @portLength_ne_zero path n
    have hread := readPort (hport n rfl) hdigits
    rw [findPort_present hcolon hdrop]
    generalize (if path.getD [] = [] then (Nat.toDigits 10 n ++ pathText path).length else
      (Nat.toDigits 10 n).length) = portLen at hlen hread ⊢
    have hhostLen : protocol.length + 3 + host.length + 1 - (protocol.length + 3) - 1 = host.length := by
      omega
    show UrlParser.mk protocol
      (if protocol.length + 3 + host.length + 1 - (protocol.length + 3) - 1 ≠ 0 then
        assigned text (protocol.length + 3)
          (protocol.length + 3 + host.length + 1 - (protocol.length + 3) - 1) else [])
      (if portLen ≠ 0 then
        (strtol 0 (assigned text (protocol.length + 3 + host.length + 1) portLen)).bmod (2 ^ 32) else 0)
      (path.getD []) = _
    rw [hhostLen, assigned_or_nil hhost, if_pos hlen, hread]
    rfl

theorem parse_camera :
    ({} : UrlParser).parse (urlText "stsw".toList "10.0.0.1".toList (some 8554)
        (some "cam:1/a://b".toList)) =
      ⟨"stsw".toList, "10.0.0.1".toList, 8554, "cam:1/a://b".toList⟩ ∧
    urlText "stsw".toList "10.0.0.1".toList (some 8554) (some "cam:1/a://b".toList) =
      "stsw://10.0.0.1:8554/cam:1/a://b".toList :=
  ⟨parse_urlText (by decide) (by decide) (by decide) fun n hn => by
    cases hn
    decide, by decide⟩

end Proxy

end StreamSwitch
