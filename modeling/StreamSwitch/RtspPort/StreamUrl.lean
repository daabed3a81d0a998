import Mathlib.Data.List.TakeWhile
import Mathlib.Logic.Function.Basic
import StreamSwitch.Lib.Search
import StreamSwitch.RtspPort.Rtsp

/-!
# URLs of streams

`stsw_url_parse` of `media/demuxer/demuxer_stsw.cc`. A C string is the list of its characters, none
of them NUL, and a pointer into it is what stands from there on.
-/

namespace StreamSwitch

namespace Stsw

open Rtsp (strstr)

/-! ## The code -/

def resourceOk : Int := 0
def resourceNotFound : Int := -1
def resourceDamaged : Int := -2

def streamMark : List Char := "stsw/stream/".toList

/-- A `std::map` of strings. -/
abbrev UrlParamMap := List Char → Option (List Char)

def UrlParamMap.empty : UrlParamMap := fun _ => none

/-- `strchr`, for a character that is not NUL. -/
def strchr (s : List Char) (c : Char) : Option (List Char) :=
  match s.dropWhile (· ≠ c) with
  | [] => none
  | found => some found

/-- What an attribute does to the parameters. -/
def UrlParamMap.assign (params : UrlParamMap) (attr : List Char) : UrlParamMap :=
  match strstr ['='] attr with
  | some (key, value) => Function.update params key (some value)
  | none => params

/-- `strstr` finds the first occurrence. -/
theorem strstr_eq (needle text : List Char) : strstr needle text = text.dropInfix? needle := by
  suffices hgo : ∀ acc, List.dropInfix?.go needle text acc =
      (strstr needle text).map fun found => (acc.reverse ++ found.1, found.2) by
    unfold List.dropInfix?
    rw [hgo]
    simp
  induction text with
  | nil =>
    intro acc
    cases needle with
    | nil => simp [List.dropInfix?.go, strstr]
    | cons c cs => simp [List.dropInfix?.go, strstr]
  | cons c cs ih =>
    intro acc
    rw [List.dropInfix?.go, strstr]
    cases hdrop : (c :: cs).dropPrefix? needle with
    | none =>
      have hnot : needle.isPrefixOf (c :: cs) = false := by
        rw [Bool.eq_false_iff, Ne, List.isPrefixOf_iff_prefix]
        rintro ⟨rest, hrest⟩
        have hsome : (c :: cs).dropPrefix? needle = some rest :=
          List.dropPrefix?_eq_some_iff.2 ⟨needle, hrest.symm, beq_self_eq_true needle⟩
        cases hdrop.symm.trans hsome
      simp [hnot, ih, Function.comp_def]
    | some rest =>
      obtain ⟨v, htext, hv⟩ := List.dropPrefix?_eq_some_iff.1 hdrop
      obtain rfl := eq_of_beq hv
      rw [if_pos (List.isPrefixOf_iff_prefix.2 ⟨rest, htext.symm⟩), htext, List.drop_left]
      simp

theorem strstr_length {needle text before behind : List Char}
    (h : strstr needle text = some (before, behind)) :
    before.length + needle.length + behind.length = text.length := by
  rw [strstr_eq] at h
  obtain ⟨⟨v, rfl, hv⟩, -⟩ := List.dropInfix?_eq_some_iff.1 h
  obtain rfl := eq_of_beq hv
  rw [List.length_append, List.length_append]

/-- The loop of `stsw_url_parse` over the parameters. -/
def parseParams (params : UrlParamMap) (paramBegin : List Char) : UrlParamMap :=
  match _h : strstr ['&'] paramBegin with
  | some (attr, nextParam) => parseParams (params.assign attr) nextParam
  | none => params.assign paramBegin
termination_by paramBegin.length
decreasing_by
  have := strstr_length ‹strstr ['&'] paramBegin = some _›
  simp only [List.length_singleton] at this
  omega

/-- `stsw_url_parse`: the name of the stream and the parameters, or an error. -/
def stswUrlParse (mrl : Option (List Char)) : Except Int (List Char × UrlParamMap) :=
  match mrl with
  | none => .error resourceNotFound
  | some mrl =>
    match strstr streamMark mrl with
    | none => .error resourceNotFound
    | some (_, streamNameBegin) =>
      match strchr streamNameBegin '?' with
      | none => .ok (streamNameBegin, .empty)
      | some mark =>
        let paramBegin := mark.drop 1
        let streamNameLen := streamNameBegin.length - paramBegin.length - 1
        .ok (streamNameBegin.take streamNameLen, parseParams .empty paramBegin)

/-! ## Parameters -/

/-- A parameter of a URL: a pair, or a text without a value. -/
inductive Parameter
  | pair (key value : List Char)
  | bare (text : List Char)
deriving DecidableEq, Repr

def Parameter.text : Parameter → List Char
  | pair key value => key ++ '=' :: value
  | bare text => text

def Parameter.pair? : Parameter → Option (List Char × List Char)
  | pair key value => some (key, value)
  | bare _ => none

def Parameter.WellFormed : Parameter → Prop
  | pair key value => '=' ∉ key ∧ '&' ∉ key ∧ '&' ∉ value
  | bare text => '=' ∉ text ∧ '&' ∉ text

instance : DecidablePred Parameter.WellFormed
  | .pair key value => inferInstanceAs (Decidable ('=' ∉ key ∧ '&' ∉ key ∧ '&' ∉ value))
  | .bare text => inferInstanceAs (Decidable ('=' ∉ text ∧ '&' ∉ text))

/-- The map in which each key has its last value. -/
def lastValues (params : List Parameter) : UrlParamMap := fun key =>
  (params.filterMap Parameter.pair?).reverse.lookup key

/-- The parameters as they stand in a URL. -/
def joined (params : List Parameter) : List Char := ['&'].intercalate (params.map Parameter.text)

/-- A parameter comes after those that are in the map already. -/
def UrlParamMap.add (m : UrlParamMap) (p : Parameter) : UrlParamMap :=
  match p.pair? with
  | some (key, value) => Function.update m key (some value)
  | none => m

theorem assign_text {p : Parameter} (h : p.WellFormed) (m : UrlParamMap) :
    m.assign p.text = m.add p := by
  cases p with
  | pair key value =>
    unfold UrlParamMap.assign
    rw [strstr_eq, Parameter.text, Search.dropInfix?_letter h.1]
    rfl
  | bare text =>
    unfold UrlParamMap.assign
    rw [strstr_eq, Parameter.text, Search.dropInfix?_no_letter h.1]
    rfl

theorem Parameter.WellFormed.no_separator {p : Parameter} (h : p.WellFormed) : '&' ∉ p.text := by
  cases p with
  | pair key value =>
    have := h.2.1
    have := h.2.2
    simp_all [Parameter.text]
  | bare text => exact h.2

theorem lastValues_concat (params : List Parameter) (p : Parameter) :
    lastValues (params ++ [p]) = (lastValues params).add p := by
  cases p with
  | pair key value =>
    funext k
    unfold lastValues
    rw [List.filterMap_append, List.reverse_append]
    show List.lookup k ((key, value) :: (params.filterMap Parameter.pair?).reverse) =
      Function.update (lastValues params) key (some value) k
    rw [List.lookup_cons, Function.update_apply]
    by_cases hk : k = key
    · rw [if_pos hk, beq_iff_eq.2 hk]
    · rw [if_neg hk, beq_eq_false_iff_ne.2 hk]
      rfl
  | bare text =>
    unfold lastValues
    rw [List.filterMap_append, List.reverse_append]
    rfl

theorem foldl_add (params : List Parameter) :
    params.foldl UrlParamMap.add .empty = lastValues params := by
  induction params using List.reverseRecOn with
  | nil => rfl
  | append_singleton params p ih => rw [List.foldl_append, ih, lastValues_concat]; rfl

theorem parseParams_joined {p : Parameter} {params : List Parameter} (m : UrlParamMap)
    (h : ∀ q ∈ p :: params, q.WellFormed) :
    parseParams m (joined (p :: params)) = (p :: params).foldl UrlParamMap.add m := by
  induction params generalizing p m with
  | nil =>
    have hp := h p (List.mem_singleton_self p)
    unfold parseParams joined
    rw [List.map_singleton, List.intercalate_singleton]
    split
    · rename_i attr next hsome
      rw [strstr_eq, Search.dropInfix?_no_letter hp.no_separator] at hsome
      cases hsome
    · exact assign_text hp m
  | cons q params ih =>
    have hp := h p (List.mem_cons_self)
    have hjoined : joined (p :: q :: params) = p.text ++ '&' :: joined (q :: params) := by
      simp [joined]
    rw [hjoined]
    conv_lhs => unfold parseParams
    split
    · rename_i attr next hsome
      rw [strstr_eq, Search.dropInfix?_letter hp.no_separator] at hsome
      cases hsome
      rw [assign_text hp, ih _ fun r hr => h r (List.mem_cons_of_mem p hr)]
      rfl
    · rename_i hnone
      rw [strstr_eq, Search.dropInfix?_letter hp.no_separator] at hnone
      cases hnone

theorem parseParams_eq {params : List Parameter} (h : ∀ p ∈ params, p.WellFormed) :
    parseParams .empty (joined params) = lastValues params := by
  rw [← foldl_add]
  cases params with
  | nil =>
    unfold parseParams
    rfl
  | cons p params => exact parseParams_joined .empty h

/-! ## Names -/

theorem borderless_streamMark : Search.Borderless streamMark := by decide

theorem strstr_streamMark {before : List Char} (h : ¬ streamMark <:+: before) (rest : List Char) :
    strstr streamMark (before ++ streamMark ++ rest) = some (before, rest) := by
  rw [strstr_eq]
  exact Search.dropInfix?_append (by decide) (Search.not_infix_append borderless_streamMark h)

theorem strchr_append {c : Char} {before : List Char} (h : c ∉ before) (behind : List Char) :
    strchr (before ++ c :: behind) c = some (c :: behind) := by
  have hfound : (before ++ c :: behind).dropWhile (· ≠ c) = c :: behind := by
    rw [List.dropWhile_append_of_pos, List.dropWhile_cons_of_neg]
    · simp
    · intro a ha
      rw [decide_eq_true_eq]
      rintro rfl
      exact h ha
  unfold strchr
  rw [hfound]

theorem strchr_of_notMem {c : Char} {s : List Char} (h : c ∉ s) : strchr s c = none := by
  have hnil : s.dropWhile (· ≠ c) = [] := by
    rw [List.dropWhile_eq_nil_iff]
    intro a ha
    rw [decide_eq_true_eq]
    rintro rfl
    exact h ha
  unfold strchr
  rw [hnil]

/-- The URL of a stream has its name and, behind a question mark, its parameters. -/
theorem stswUrlParse_recovers {before name : List Char} (hbefore : ¬ streamMark <:+: before)
    (hname : '?' ∉ name) :
    (∀ params : List Parameter, (∀ p ∈ params, p.WellFormed) →
      stswUrlParse (some (before ++ streamMark ++ (name ++ '?' :: joined params))) =
        .ok (name, lastValues params)) ∧
    stswUrlParse (some (before ++ streamMark ++ name)) = .ok (name, .empty) := by
  constructor
  · intro params hparams
    unfold stswUrlParse
    dsimp only
    rw [strstr_streamMark hbefore]
    dsimp only
    rw [strchr_append hname]
    dsimp only
    rw [List.drop_succ_cons, List.drop_zero, parseParams_eq hparams]
    have hlen : (name ++ '?' :: joined params).length - (joined params).length - 1 = name.length := by
      rw [List.length_append, List.length_cons]
      omega
    rw [hlen, List.take_left]
  · unfold stswUrlParse
    dsimp only
    rw [strstr_streamMark hbefore]
    dsimp only
    rw [strchr_of_notMem hname]

def hostTwice : List Parameter :=
  [.pair "host".toList "a".toList, .bare "x".toList, .bare [], .pair "host".toList "b=?".toList]

theorem stswUrlParse_hostTwice :
    stswUrlParse (some ("rtsp://h/".toList ++ streamMark ++ ("cam".toList ++ '?' ::
      joined hostTwice))) = .ok ("cam".toList, lastValues hostTwice) ∧
    joined hostTwice = "host=a&x&&host=b=?".toList ∧
    lastValues hostTwice "host".toList = some "b=?".toList ∧ lastValues hostTwice "x".toList = none :=
  ⟨(stswUrlParse_recovers (by decide) (by decide)).1 hostTwice (by decide +kernel),
    by decide +kernel, by decide +kernel, by decide +kernel⟩

end Stsw

end StreamSwitch
