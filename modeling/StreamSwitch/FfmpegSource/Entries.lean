import StreamSwitch.FfmpegSource.Reopen

/-!
# The entries that parsers change

The `Init` of a parser gets the index of its stream as an argument and sets `stream_index_` at its
end; `Parse` uses `stream_index_`. The `Init` of the MPEG-4 parser uses it too, before it is set.

`own_entries_iff`: in a run of `Init`s and `Parse`s each changes at most the entry of its own
stream, and an MPEG-4 stream has no extra data after its `Init`, exactly if at each `Init` of an
MPEG-4 parser for another stream than the first both have none already.
-/

namespace StreamSwitch.Ffmpeg

open Run

/-! ## Runs -/

/-- `meta_.sub_streams` and the parsers of the demuxer. -/
structure Parsers where
  subs : List SubStreamMetadata
  base : Base := {}
  parsers : List StreamParser := []
deriving DecidableEq, Repr

/-- The parser of the next stream is made and initialised, or a packet is parsed. -/
inductive ParserEvent
  | init (st : AVStream) (playType : StreamPlayType)
  | parse (r : Packet)
deriving DecidableEq, Repr

namespace Parsers

/-- The stream that an event is about. -/
def index (s : Parsers) : ParserEvent → Nat
  | .init _ _ => s.parsers.length
  | .parse r => r.pkt.streamIndex

def step (s : Parsers) : ParserEvent → Option Parsers
  | .init st playType =>
    match newStreamParser s.parsers.length st playType s.subs with
    | .error .outside => none
    | .error .refused => some { s with parsers := [] }
    | .ok (p, subs) => some { s with subs := subs, parsers := s.parsers ++ [p] }
  | .parse r =>
    match s.parsers[r.pkt.streamIndex]? with
    | none => some s
    | some p => (p.parse s.base s.subs r).map fun out =>
      ⟨out.subStreams, out.base, s.parsers.set r.pkt.streamIndex out.parser⟩

/-- The event changes at most the entry of its stream, and an MPEG-4 stream has no extra data after
its `Init`. -/
def OwnEntry (s : Parsers) (e : ParserEvent) : Prop :=
  ∀ s', s.step e = some s' →
    (∀ j, j ≠ s.index e → s'.subs[j]? = s.subs[j]?) ∧
      ∀ st playType, e = .init st playType → st.codecId = .mpeg4 →
        extraDataOf s'.subs (s.index e) = []

/-- What clearing the extra data of the first stream should have done to the own and should not do
to the first is done already. -/
def Harmless (s : Parsers) : ParserEvent → Prop
  | .init st _ => st.codecId = .mpeg4 → s.parsers.length ≠ 0 →
    extraDataOf s.subs 0 = [] ∧ extraDataOf s.subs s.parsers.length = []
  | .parse _ => True

/-- Each parser stands at the index of its stream. -/
def Placed (s : Parsers) : Prop :=
  ∀ (i : Nat) (p : StreamParser), s.parsers[i]? = some p → p.streamIndex = i

/-! ## Entries -/

theorem setExtraData_ne (subs : List SubStreamMetadata) {i j : Nat} (h : j ≠ i) (extra : Bytes) :
    (setExtraData subs i extra)[j]? = subs[j]? :=
  List.getElem?_modify_ne _ _ h.symm

/-- Clearing does nothing only where there is nothing. -/
theorem clear_eq_iff (subs : List SubStreamMetadata) (i : Nat) :
    (setExtraData subs i [])[i]? = subs[i]? ↔ extraDataOf subs i = [] := by
  unfold setExtraData extraDataOf
  rw [List.getElem?_modify_eq]
  cases subs[i]? with
  | none => simp
  | some m =>
    simp only [Option.map_some, Option.getD_some, Option.map_eq_map, Option.some.injEq]
    exact ⟨fun h => by rw [← h], fun h => by rw [← h]⟩

theorem doUpdateMeta_ne (p : StreamParser) (subs : List SubStreamMetadata) (r : Packet)
    (data : Payload) {j : Nat} (h : j ≠ p.streamIndex) :
    (p.doUpdateMeta subs r data).1[j]? = subs[j]? := by
  unfold StreamParser.doUpdateMeta
  split
  · rfl
  · exact List.getElem?_modify_ne _ _ h.symm

/-- A parser changes at most the entry of its stream. -/
theorem parse_ne {p : StreamParser} {base : Base} {subs : List SubStreamMetadata} {r : Packet}
    {out : StreamParser.Parsed} (h : p.parse base subs r = some out) {j : Nat}
    (hj : j ≠ p.streamIndex) : out.subStreams[j]? = subs[j]? := by
  obtain ⟨q, data, hq, rfl⟩ := StreamParser.parse_eq_some.1 h
  have hindex : q.streamIndex = p.streamIndex := by rw [StreamParser.prepare_eq hq]
  unfold StreamParser.baseParse
  split
  · rfl
  · split
    · rfl
    · rename_i q' info hu
      apply doUpdateMeta_ne
      rwa [(StreamParser.doUpdateFrameInfo_keeps hu).1.streamIndex, hindex]

/-! ## Steps -/

variable {s s' : Parsers} {e : ParserEvent}

theorem Placed.step (h : s.Placed) (he : s.step e = some s') : s'.Placed := by
  cases e with
  | init st playType =>
    simp only [Parsers.step] at he
    split at he
    · cases he
    · cases he
      intro i q hq
      cases hq
    · rename_i p subs hp
      cases he
      intro i q hq
      rw [List.getElem?_append] at hq
      split at hq
      · exact h i q hq
      · obtain ⟨hi, rfl⟩ : i - s.parsers.length = 0 ∧ p = q := by
          cases hn : i - s.parsers.length with
          | zero =>
            rw [hn] at hq
            exact ⟨rfl, Option.some.inj hq⟩
          | succ n =>
            rw [hn] at hq
            cases hq
        rw [newStreamParser_eq hp]
        show s.parsers.length = i
        omega
  | parse r =>
    simp only [Parsers.step] at he
    split at he
    · cases he
      exact h
    · rename_i p hp
      obtain ⟨out, hout, rfl⟩ := Option.map_eq_some_iff.1 he
      intro i q hq
      by_cases hi : r.pkt.streamIndex = i
      · subst hi
        rw [List.getElem?_set_self (List.getElem?_eq_some_iff.1 hp).1] at hq
        cases hq
        exact (StreamParser.parse_keeps hout).streamIndex.trans (h _ p hp)
      · rw [List.getElem?_set_ne hi] at hq
        exact h i q hq

/-- The `Init` of another parser changes its own entry only. -/
theorem newStreamParser_ne {i : Nat} {st : AVStream} {playType : StreamPlayType}
    {subs subs' : List SubStreamMetadata} {p : StreamParser}
    (h : newStreamParser i st playType subs = .ok (p, subs')) (hcodec : st.codecId ≠ .mpeg4)
    {j : Nat} (hj : j ≠ i) : subs'[j]? = subs[j]? := by
  unfold newStreamParser at h
  split at h
  · obtain ⟨extra, -, -, rfl⟩ := h264or5Init_ok h
    exact setExtraData_ne subs hj extra
  · obtain ⟨extra, -, -, rfl⟩ := h264or5Init_ok h
    exact setExtraData_ne subs hj extra
  · rename_i hc
    exact absurd hc hcodec
  · cases h
    rfl

/-- The `Init` of an MPEG-4 parser clears the first entry. -/
theorem mpeg4_ownEntry_iff (subs : List SubStreamMetadata) (i : Nat) :
    ((∀ j, j ≠ i → (setExtraData subs 0 [])[j]? = subs[j]?) ∧
        extraDataOf (setExtraData subs 0 []) i = []) ↔
      (i ≠ 0 → extraDataOf subs 0 = [] ∧ extraDataOf subs i = []) := by
  by_cases hi : i = 0
  · subst hi
    refine iff_of_true ⟨fun j hj => setExtraData_ne subs hj [], ?_⟩ fun h => absurd rfl h
    rw [extraDataOf_setExtraData]
    split
    · rfl
    · rename_i hlen
      unfold extraDataOf
      rw [List.getElem?_eq_none (by omega)]
      rfl
  · have hown : extraDataOf (setExtraData subs 0 []) i = extraDataOf subs i := by
      rw [extraDataOf_setExtraData, if_neg fun hc => hi hc.1.symm]
    rw [hown]
    constructor
    · rintro ⟨hkeep, hnone⟩ -
      exact ⟨(clear_eq_iff subs 0).1 (hkeep 0 fun h => hi h.symm), hnone⟩
    · intro h
      obtain ⟨hzero, hnone⟩ := h hi
      refine ⟨fun j _ => ?_, hnone⟩
      by_cases hj : j = 0
      · subst hj
        exact (clear_eq_iff subs 0).2 hzero
      · exact setExtraData_ne subs hj []

theorem ownEntry_iff (h : s.Placed) (e : ParserEvent) : s.OwnEntry e ↔ s.Harmless e := by
  cases e with
  | init st playType =>
    by_cases hcodec : st.codecId = .mpeg4
    · have hstep : s.step (.init st playType) = some { s with
          subs := setExtraData s.subs 0 []
          parsers := s.parsers ++ [baseInit .mpeg4 s.parsers.length st playType] } := by
        simp only [Parsers.step, newStreamParser, hcodec, mpeg4Init]
      have hiff := mpeg4_ownEntry_iff s.subs s.parsers.length
      constructor
      · intro hown
        obtain ⟨hkeep, hnone⟩ := hown _ hstep
        exact fun _ => hiff.1 ⟨hkeep, hnone st playType rfl hcodec⟩
      · intro hc s' hs'
        cases hstep.symm.trans hs'
        obtain ⟨hkeep, hnone⟩ := hiff.2 (hc hcodec)
        exact ⟨hkeep, fun _ _ _ _ => hnone⟩
    · refine iff_of_true (fun s' hs' => ⟨fun j hj => ?_, ?_⟩) fun hc => absurd hc hcodec
      · simp only [Parsers.step] at hs'
        split at hs'
        · cases hs'
        · cases hs'
          rfl
        · rename_i p subs hp
          cases hs'
          exact newStreamParser_ne hp hcodec hj
      · rintro st' playType' heq hc
        cases heq
        exact absurd hc hcodec
  | parse r =>
    refine iff_of_true (fun s' hs' => ⟨fun j hj => ?_, by rintro _ _ ⟨⟩⟩) trivial
    simp only [Parsers.step] at hs'
    split at hs'
    · cases hs'
      rfl
    · rename_i p hp
      obtain ⟨out, hout, rfl⟩ := Option.map_eq_some_iff.1 hs'
      apply parse_ne hout
      rw [h _ p hp]
      exact hj

/-- **Parsers keep to their own entry**, in every run of `Init`s and `Parse`s, exactly if each
`Init` of an MPEG-4 parser for another stream than the first finds neither extra data of the first
stream nor of its own. -/
theorem own_entries_iff {s₀ : Parsers} (h₀ : s₀.parsers = []) (es : List ParserEvent) :
    Each step OwnEntry s₀ es ↔ Each step Harmless s₀ es := by
  have hplaced : s₀.Placed := by
    intro i p hp
    rw [h₀] at hp
    cases hp
  exact each_iff (fun _ _ _ h _ he => h.step he) (fun _ e h => ownEntry_iff h e) hplaced

/-- A stream with extra data. -/
def streamOf (codecId : AVCodecID) (codecType : AVMediaType) (extra : Bytes) : AVStream :=
  { codecId := codecId, codecType := codecType, timeBase := ⟨1, 1000, Int.one_pos, thousand_pos⟩
    extradata := extra }

def aacStream : AVStream := streamOf .aac .audio [0x12, 0x10]

def mpeg4Stream : AVStream := streamOf .mpeg4 .video [0, 0, 1, 0xB0]

/-- The entries of the first loop of `Open`. -/
def entriesOf (sts : List AVStream) : Parsers := ⟨(addSubStreams 0 sts []).1, {}, []⟩

/-- The MPEG-4 stream comes first. -/
theorem own_entries_iff_first :
    Each step OwnEntry (entriesOf [mpeg4Stream, aacStream])
      [.init mpeg4Stream .live, .init aacStream .live] := by
  refine (own_entries_iff rfl _).2 ⟨fun _ h => absurd rfl h, fun s' _ => ⟨nofun, ?_⟩⟩
  exact fun _ _ => trivial

/-- Behind an audio stream the `Init` of the MPEG-4 parser takes the extra data of the audio stream
away and leaves its own. -/
theorem mpeg4_clears_first :
    ∃ s s', exec step (entriesOf [aacStream, mpeg4Stream]) [.init aacStream .live] = some s ∧
      s.step (.init mpeg4Stream .live) = some s' ∧ s.index (.init mpeg4Stream .live) = 1 ∧
      s.subs.map (·.extraData) = [[0x12, 0x10], [0, 0, 1, 0xB0]] ∧
      s'.subs.map (·.extraData) = [[], [0, 0, 1, 0xB0]] ∧
      ¬ s.OwnEntry (.init mpeg4Stream .live) := by
  refine ⟨_, _, rfl, rfl, rfl, by decide, by decide, fun hown => ?_⟩
  have hzero := (hown _ rfl).1 0 (by decide)
  exact absurd hzero (by decide)

end Parsers

end StreamSwitch.Ffmpeg
