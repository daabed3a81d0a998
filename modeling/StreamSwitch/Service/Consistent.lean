import StreamSwitch.Service.Stream

/-!
# The stores of the stream service agree

`consistent_iff`: every call of a run keeps the promises of the stream service if and
only if the configurations are loaded first, without a failure; the commit of every
`new_stream` that has created its stream succeeds; and in every `del_stream` that finds
its stream nothing fails.

The context commits when its block has come to the end. The block has then changed
`_stream_map` and `_stream_list` and created or destroyed the stream. The lemmas say
what each call leaves: `Same` is the memory after a call that has changed nothing,
`added` and `removed` the memory after the block of `new_stream` and of `del_stream`.
-/

namespace StreamSwitch

open Txn Txn.Call

namespace StreamService

/-! ## The invariant -/

/-- `_stream_map`, `_stream_list` and the streams that are not destroyed are the same streams. -/
structure Base (m : StreamService) : Prop where
  mapped : ∀ n i, m.streamMap n = some i → m.streams[i]? = some ⟨n, false⟩
  live : ∀ (i : Nat) n, m.streams[i]? = some ⟨n, false⟩ → m.streamMap n = some i
  listed : ∀ i, i ∈ m.streamList ↔ ∃ n, m.streamMap n = some i
  nodup : m.streamList.Nodup

structure ServiceInv (s : ServiceStore) : Prop where
  base : s.mem.Base
  enterCount : s.enterCount = 0
  /-- Every stream has its configuration. -/
  conf : ∀ n i, s.mem.streamMap n = some i → n ∈ supportedNames s
  /-- Nothing happens before the configurations are loaded. -/
  unloaded : Unloaded s → ∀ n, s.mem.streamMap n = none

variable {m m' : StreamService} {s t : ServiceStore} {n : String} {i : Nat} {conf : StreamConf}
  {f : Faults}

theorem Base.mem_listNames (h : m.Base) : n ∈ m.listNames ↔ (m.streamMap n).isSome = true := by
  rw [Option.isSome_iff_exists]
  constructor
  · intro hn
    obtain ⟨i, hi, hn⟩ := List.mem_filterMap.1 hn
    obtain ⟨n', hn'⟩ := (h.listed i).1 hi
    rw [h.mapped n' i hn'] at hn
    cases hn
    exact ⟨i, hn'⟩
  · rintro ⟨i, hi⟩
    refine List.mem_filterMap.2 ⟨i, (h.listed i).2 ⟨n, hi⟩, ?_⟩
    rw [h.mapped n i hi]
    rfl

theorem Base.nodup_listNames (h : m.Base) : m.listNames.Nodup := by
  refine List.pairwise_filterMap.2 (h.nodup.imp_of_mem fun {i j} hi hj hne => ?_)
  obtain ⟨n, hn⟩ := (h.listed i).1 hi
  obtain ⟨n', hn'⟩ := (h.listed j).1 hj
  rw [h.mapped n i hn, h.mapped n' j hn']
  intro a ha b hb hab
  cases ha
  cases hb
  -- two streams of one name are the same entry of `_stream_map`
  have hab : n = n' := hab
  rw [hab, hn'] at hn
  cases hn
  exact hne rfl

theorem Base.mem_liveStreams (h : m.Base) :
    n ∈ m.liveStreams.map ServiceStream.name ↔ (m.streamMap n).isSome = true := by
  rw [Option.isSome_iff_exists]
  constructor
  · intro hn
    obtain ⟨⟨n', d⟩, hst, rfl⟩ := List.mem_map.1 hn
    obtain ⟨hmem, hd⟩ := List.mem_filter.1 hst
    obtain ⟨i, hi⟩ := List.getElem?_of_mem hmem
    cases d with
    | true => cases hd
    | false => exact ⟨i, h.live i n' hi⟩
  · rintro ⟨i, hi⟩
    refine List.mem_map.2 ⟨⟨n, false⟩, List.mem_filter.2 ⟨?_, rfl⟩, rfl⟩
    exact List.mem_of_getElem? (h.mapped n i hi)

theorem Base.isRegistered_iff (h : m.Base) :
    m.isRegistered n = true ↔ (m.streamMap n).isSome = true := by
  rw [← h.mem_liveStreams]
  unfold isRegistered liveStreams
  simp only [List.any_eq_true, decide_eq_true_eq, List.mem_map, List.mem_filter]
  constructor
  · rintro ⟨st, hmem, hname, hd⟩
    exact ⟨st, ⟨hmem, hd⟩, hname⟩
  · rintro ⟨st, ⟨hmem, hd⟩, hname⟩
    exact ⟨st, hmem, hname, hd⟩

/-- When the configurations are loaded, the four stores agree. -/
theorem ServiceInv.consistent (h : ServiceInv s) (hl : ¬ Unloaded s) : Consistent s := by
  refine ⟨fun n => h.base.mem_listNames, h.base.nodup_listNames, fun n => h.base.mem_liveStreams,
    fun n => ⟨fun hn => ?_, fun hn => ?_⟩⟩
  · by_contra hnone
    exact hl ⟨n, hn, Option.not_isSome_iff_eq_none.1 hnone⟩
  · obtain ⟨i, hi⟩ := Option.isSome_iff_exists.1 hn
    exact h.conf n i hi

theorem Consistent.not_unloaded (h : Consistent s) : ¬ Unloaded s := by
  rintro ⟨n, hn, hnone⟩
  have hsome := (h.persisted n).1 hn
  rw [hnone] at hsome
  cases hsome

/-! ## Changes of the memory -/

/-- A stream is created and kept. -/
def added (m : StreamService) (n : String) : StreamService :=
  { m.push n false with
    streamMap := Function.update m.streamMap n (some m.streams.length)
    streamList := m.streamList ++ [m.streams.length] }

/-- The stream `i` of that name is dropped and destroyed. -/
def removed (m : StreamService) (n : String) (i : Nat) : StreamService :=
  { m with
    streamMap := Function.update m.streamMap n none
    streamList := m.streamList.erase i
    streams := m.streams.modify i fun stream => { stream with hasDestroy := true } }

theorem Base.push_destroyed (h : m.Base) (n : String) : (m.push n true).Base := by
  refine ⟨fun n' i hi => Tasks.getElem?_append_of_some (h.mapped n' i hi), fun i n' hi => ?_,
    h.listed, h.nodup⟩
  rcases Tasks.getElem?_append_some hi with ⟨-, he⟩ | ⟨-, hi⟩
  · cases he
  · exact h.live i n' hi

theorem Base.added (h : m.Base) (hn : m.streamMap n = none) : (m.added n).Base := by
  have hnew : ∀ n', m.streamMap n' ≠ some m.streams.length := by
    intro n' hn'
    obtain ⟨hlt, -⟩ := List.getElem?_eq_some_iff.1 (h.mapped n' _ hn')
    omega
  have hne : ∀ {n' j}, m.streamMap n' = some j → n' ≠ n := by
    rintro n' j hj rfl
    cases hn.symm.trans hj
  have hold : ∀ {n' j}, m.streamMap n' = some j → (m.added n).streamMap n' = some j :=
    fun hj => (Function.update_of_ne (hne hj) ..).trans hj
  have hself : (m.added n).streamMap n = some m.streams.length := Function.update_self ..
  have hcases : ∀ {n' j}, (m.added n).streamMap n' = some j →
      (n' = n ∧ j = m.streams.length) ∨ m.streamMap n' = some j := by
    intro n' j hj
    by_cases hn' : n' = n
    · subst hn'
      cases hself.symm.trans hj
      exact .inl ⟨rfl, rfl⟩
    · exact .inr ((Function.update_of_ne hn' ..).symm.trans hj)
  refine ⟨fun n' i hi => ?_, fun i n' hi => ?_, fun i => ⟨fun hi => ?_, ?_⟩, ?_⟩
  · rcases hcases hi with ⟨rfl, rfl⟩ | hi
    · exact List.getElem?_concat_length ..
    · exact Tasks.getElem?_append_of_some (h.mapped n' i hi)
  · rcases Tasks.getElem?_append_some hi with ⟨rfl, he⟩ | ⟨-, hi⟩
    · cases he
      exact hself
    · exact hold (h.live i n' hi)
  · rcases List.mem_append.1 hi with hi | hi
    · obtain ⟨n', hn'⟩ := (h.listed i).1 hi
      exact ⟨n', hold hn'⟩
    · rw [List.mem_singleton.1 hi]
      exact ⟨n, hself⟩
  · rintro ⟨n', hn'⟩
    refine List.mem_append.2 ?_
    rcases hcases hn' with ⟨rfl, rfl⟩ | hn'
    · exact .inr (List.mem_singleton_self _)
    · exact .inl ((h.listed i).2 ⟨n', hn'⟩)
  · refine List.nodup_append.2 ⟨h.nodup, List.nodup_singleton _, fun a ha b hb hab => ?_⟩
    rw [List.mem_singleton.1 hb] at hab
    obtain ⟨n', hn'⟩ := (h.listed a).1 ha
    exact hnew n' (hab ▸ hn')

theorem Base.removed (h : m.Base) (hn : m.streamMap n = some i) : (m.removed n i).Base := by
  have hcases : ∀ {n' j}, (m.removed n i).streamMap n' = some j →
      m.streamMap n' = some j ∧ j ≠ i := by
    intro n' j hj
    by_cases hn' : n' = n
    · subst hn'
      cases (Function.update_self ..).symm.trans hj
    · have hold : m.streamMap n' = some j := (Function.update_of_ne hn' ..).symm.trans hj
      refine ⟨hold, ?_⟩
      rintro rfl
      cases (h.mapped n' _ hold).symm.trans (h.mapped n _ hn)
      exact hn' rfl
  have hold : ∀ {n' j}, m.streamMap n' = some j → j ≠ i →
      (m.removed n i).streamMap n' = some j := by
    intro n' j hj hne
    have hn' : n' ≠ n := by
      rintro rfl
      cases hn.symm.trans hj
      exact hne rfl
    exact (Function.update_of_ne hn' ..).trans hj
  refine ⟨fun n' j hj => ?_, fun j n' hj => ?_, fun j => ?_, h.nodup.erase i⟩
  · obtain ⟨hj, hne⟩ := hcases hj
    show (m.streams.modify i _)[j]? = _
    rw [List.getElem?_modify_ne _ _ (Ne.symm hne)]
    exact h.mapped n' j hj
  · rcases Tasks.getElem?_modify_some hj with ⟨-, a, -, he⟩ | ⟨hne, hj⟩
    · cases he
    · exact hold (h.live j n' hj) hne
  · show j ∈ m.streamList.erase i ↔ _
    rw [h.nodup.mem_erase_iff, h.listed]
    constructor
    · rintro ⟨hne, n', hn'⟩
      exact ⟨n', hold hn' hne⟩
    · rintro ⟨n', hn'⟩
      obtain ⟨hn', hne⟩ := hcases hn'
      exact ⟨hne, n', hn'⟩

/-- Nothing has changed, but for a stream that was destroyed at once. -/
structure Same (m m' : StreamService) : Prop where
  sourceTypes : m'.sourceTypes = m.sourceTypes
  streamMap : m'.streamMap = m.streamMap
  streamList : m'.streamList = m.streamList
  live : m'.liveStreams = m.liveStreams
  base : m.Base → m'.Base

theorem Same.refl (m : StreamService) : Same m m := ⟨rfl, rfl, rfl, rfl, id⟩

theorem Same.push_destroyed (m : StreamService) (n : String) : Same m (m.push n true) := by
  refine ⟨rfl, rfl, rfl, ?_, fun h => h.push_destroyed n⟩
  simp [liveStreams, push]

/-! ## Parts of the calls -/

/-- The conditions under which a stream is created. -/
def CanCreate (m : StreamService) (conf : StreamConf) (outcome : CreateOutcome) : Prop :=
  conf.sourceType ∈ m.sourceTypes ∧ m.isRegistered conf.streamName = false ∧ outcome = .created

theorem createStream_ok {outcome : CreateOutcome} (h : s.mem.CanCreate conf outcome) :
    (createStream conf outcome).run s =
      (.ok s.mem.streams.length, { s with mem := s.mem.push conf.streamName false }) := by
  obtain ⟨hty, hreg, rfl⟩ := h
  simp [createStream, hty, hreg]

theorem createStream_error {outcome : CreateOutcome} (h : ¬ s.mem.CanCreate conf outcome) :
    ∃ e m, (createStream conf outcome).run s = (.error e, { s with mem := m }) ∧ Same s.mem m := by
  by_cases hty : conf.sourceType ∈ s.mem.sourceTypes
  · cases hreg : s.mem.isRegistered conf.streamName with
    | true =>
      refine ⟨.streamSwitch ("Stream(" ++ conf.streamName ++ ") already exists") 400, s.mem, ?_,
        .refl _⟩
      simp [createStream, hty, hreg]
    | false =>
      cases outcome with
      | created => exact absurd ⟨hty, hreg, rfl⟩ h
      | factoryRaises =>
        refine ⟨.other, s.mem, ?_, .refl _⟩
        simp [createStream, hty, hreg]
      | startRaises =>
        refine ⟨.watcher, s.mem.push conf.streamName true, ?_, .push_destroyed _ _⟩
        simp [createStream, hty, hreg]
  · refine ⟨.streamSwitch ("source_type(" ++ conf.sourceType ++ ") Not Register") 404, s.mem, ?_,
      .refl _⟩
    simp [createStream, hty]

theorem keep_push (m : StreamService) (n : String) (persisted session : ConfTable) (count : Nat) :
    (keep n m.streams.length).run ⟨m.push n false, persisted, session, count⟩ =
      (.ok (), ⟨m.added n, persisted, session, count⟩) := rfl

/-- The memory and the persisted rows are as they were. -/
structure SameStore (s t : ServiceStore) : Prop where
  mem : t.mem = s.mem
  persisted : t.persisted = s.persisted
  enterCount : t.enterCount = s.enterCount

/-- An inner context that comes to its end leaves the rows to the outer one. -/
theorem inner_commit (hc : s.enterCount ≠ 0) (rows : ConfTable) :
    { s.enter with session := rows }.commit = { s with session := rows } := by
  simp [Store.enter, Store.commit, hc]

theorem session_enter (hc : s.enterCount ≠ 0) : s.enter.session = s.session := if_neg hc

theorem enter_outer (h0 : s.enterCount = 0) : s.enter = ⟨s.mem, s.persisted, s.persisted, 1⟩ := by
  simp [Store.enter, h0]

theorem addStreamConf_ok (hc : s.enterCount ≠ 0) (hf : f.flush = none)
    (hfree : conf.streamName ∉ s.session.keys) :
    ∃ rows, (addStreamConf conf f).run s = (.ok (), { s with session := rows }) ∧
      rows.rows = s.session.rows ++ [conf] := by
  obtain ⟨rows, hins, hrows⟩ := Table.insert_of_not_mem hfree
  refine ⟨rows, ?_, hrows⟩
  rw [← inner_commit hc rows]
  unfold addStreamConf
  rw [hf]
  refine run_context_ok ?_
  simp [session_enter hc, hins]

theorem addStreamConf_error (hc : s.enterCount ≠ 0)
    (h : ¬ (f.flush = none ∧ conf.streamName ∉ s.session.keys)) :
    ∃ e t, (addStreamConf conf f).run s = (.error e, t) ∧ SameStore s t := by
  unfold addStreamConf
  by_cases hmem : conf.streamName ∈ s.session.keys
  · refine ⟨.other, s.enter.rollback, run_context_error ?_, rfl, rfl, rfl⟩
    simp [session_enter hc, Table.insert_of_mem hmem]
  · obtain ⟨rows, hins, -⟩ := Table.insert_of_not_mem hmem
    cases hf : f.flush with
    | none => exact absurd ⟨hf, hmem⟩ h
    | some e =>
      refine ⟨e, { s.enter with session := rows }.rollback, run_context_commit (a := ()) ?_, rfl, rfl,
        rfl⟩
      simp [session_enter hc, hins]

theorem delStreamConf_ok (hc : s.enterCount ≠ 0) (hq : f.query = none) (hf : f.flush = none)
    (hmem : n ∈ s.session.keys) :
    ∃ rows, (delStreamConf n f).run s = (.ok (), { s with session := rows }) ∧
      rows.rows = s.session.rows.filter fun conf => conf.streamName ≠ n := by
  obtain ⟨rows, hdel, hrows⟩ := Table.delete_of_mem hmem
  refine ⟨rows, ?_, hrows⟩
  rw [← inner_commit hc rows]
  unfold delStreamConf
  rw [hf]
  refine run_context_ok ?_
  simp [session_enter hc, hq, hdel]

theorem delStreamConf_error (hc : s.enterCount ≠ 0) (h : ¬ (f.query = none ∧ f.flush = none)) :
    ∃ e t, (delStreamConf n f).run s = (.error e, t) ∧ SameStore s t := by
  unfold delStreamConf
  cases hq : f.query with
  | some e =>
    refine ⟨e, s.enter.rollback, run_context_error ?_, rfl, rfl, rfl⟩
    simp
  | none =>
    cases hdel : s.session.delete n with
    | none =>
      refine ⟨.other, s.enter.rollback, run_context_error ?_, rfl, rfl, rfl⟩
      simp [session_enter hc, hdel]
    | some rows =>
      cases hf : f.flush with
      | none => exact absurd ⟨hq, hf⟩ h
      | some e =>
        refine ⟨e, { s.enter with session := rows }.rollback, run_context_commit (a := ()) ?_, rfl,
          rfl, rfl⟩
        simp [session_enter hc, hdel]

/-! ## `new_stream` -/

/-- The block of `new_stream` when it comes to its end. -/
theorem newStream_block (h0 : s.enterCount = 0) (hf : f.flush = none)
    (hfree : conf.streamName ∉ s.persisted.keys)
    (hcan : s.mem.CanCreate conf (f.create conf.streamName)) :
    ∃ rows i, (do
        addStreamConf conf f
        let i ← createStream conf (f.create conf.streamName)
        keep conf.streamName i
        return i : ServiceCall Nat).run s.enter =
      (.ok i, ⟨s.mem.added conf.streamName, s.persisted, rows, 1⟩) ∧
      rows.rows = s.persisted.rows ++ [conf] := by
  have hsession : s.enter.session = s.persisted := if_pos h0
  have hcount : s.enter.enterCount ≠ 0 := Nat.succ_ne_zero _
  obtain ⟨rows, hadd, hrows⟩ := addStreamConf_ok hcount hf (hsession ▸ hfree)
  rw [hsession] at hrows
  refine ⟨rows, s.mem.streams.length, ?_, hrows⟩
  have hcreate := createStream_ok (s := { s.enter with session := rows }) hcan
  simp only [run_bind, hadd, hcreate, run_pure]
  simp [Store.enter, h0, keep_push]

theorem outcome_ok {α : Type} {call : ServiceCall α} {a : α} (h : call.run s = (.ok a, t)) :
    outcome call s = (none, t) := by
  simp only [outcome, h]

theorem outcome_error {α : Type} {call : ServiceCall α} {e : StreamError}
    (h : call.run s = (.error e, t)) : outcome call s = (some e, t) := by
  simp only [outcome, h]

/-- A name without a configuration has no stream. -/
theorem ServiceInv.streamMap_of_free (h : ServiceInv s) (hfree : n ∉ s.persisted.keys) :
    s.mem.streamMap n = none := by
  cases hn : s.mem.streamMap n with
  | none => rfl
  | some i =>
    obtain ⟨conf, hmem, hname⟩ := List.mem_map.1 (h.conf n i hn)
    exact absurd (List.mem_map.2 ⟨conf, (List.mem_filter.1 hmem).1, hname⟩) hfree

theorem ServiceInv.not_registered (h : ServiceInv s) (hn : s.mem.streamMap n = none) :
    s.mem.isRegistered n = false := by
  refine Bool.eq_false_iff.2 fun hreg => ?_
  have hsome := h.base.isRegistered_iff.1 hreg
  rw [hn] at hsome
  cases hsome

/-- `new_stream` whose block comes to its end: the stream stays, whether the commit succeeds or
not. -/
theorem run_newStream_of_completes (h : ServiceInv s) (hn : NewCompletes s conf f) :
    ∃ t, run s (.newStream conf f) = (f.commit, t) ∧ t.mem = s.mem.added conf.streamName ∧
      t.enterCount = 0 ∧ (f.commit = none → t.persisted.rows = s.persisted.rows ++ [conf]) ∧
      (f.commit ≠ none → t.persisted = s.persisted) := by
  have hreg := h.not_registered (h.streamMap_of_free hn.free)
  obtain ⟨rows, i, hblock, hrows⟩ := newStream_block h.enterCount hn.flush hn.free
    ⟨hn.supported, hreg, hn.create⟩
  have hb : newStream conf f = context none f.commit (do
      addStreamConf conf f
      let i ← createStream conf (f.create conf.streamName)
      keep conf.streamName i
      return i) := by
    unfold newStream
    rw [hn.begins, hn.construct]
    rfl
  show ∃ t, outcome (newStream conf f) s = (f.commit, t) ∧ _
  rw [hb]
  cases hc : f.commit with
  | none =>
    refine ⟨_, outcome_ok (run_context_ok hblock), rfl, rfl, fun _ => hrows, fun hne => ?_⟩
    exact absurd rfl hne
  | some e =>
    refine ⟨_, outcome_error (run_context_commit hblock), rfl, rfl, fun hne => ?_, fun _ => rfl⟩
    cases hne

/-- `new_stream` whose block raises leaves everything as it was. -/
theorem run_newStream_of_raises (h : ServiceInv s) (hn : ¬ NewCompletes s conf f) :
    ∃ e t, run s (.newStream conf f) = (some e, t) ∧ Same s.mem t.mem ∧
      t.persisted = s.persisted ∧ t.enterCount = 0 := by
  show ∃ e t, outcome (newStream conf f) s = (some e, t) ∧ _
  unfold newStream
  have h0 := h.enterCount
  have hsession : s.enter.session = s.persisted := if_pos h0
  have hcount : s.enter.enterCount ≠ 0 := Nat.succ_ne_zero _
  cases hbg : f.begins with
  | some e => exact ⟨e, s, outcome_error run_context_begin, .refl _, rfl, h0⟩
  | none =>
    cases hct : f.construct with
    | some e =>
      refine ⟨e, s.enter.rollback, outcome_error (run_context_error ?_), .refl _, rfl, h0⟩
      simp
    | none =>
      by_cases hadd : f.flush = none ∧ conf.streamName ∉ s.enter.session.keys
      · obtain ⟨rows, hrun, -⟩ := addStreamConf_ok hcount hadd.1 hadd.2
        have hcan : ¬ CanCreate { s.enter with session := rows }.mem conf
            (f.create conf.streamName) := by
          rintro ⟨hty, -, hcr⟩
          exact hn ⟨hbg, hct, hsession ▸ hadd.2, hadd.1, hty, hcr⟩
        obtain ⟨e, m, hcreate, hsame⟩ := createStream_error hcan
        refine ⟨e, Store.rollback ⟨m, s.persisted, rows, s.enterCount + 1⟩,
          outcome_error (run_context_error ?_), hsame, rfl, h0⟩
        simp only [check_none, run_bind, run_pure, hrun, hcreate]
        rfl
      · obtain ⟨e, t, hrun, hmem, hper, hcnt⟩ := addStreamConf_error hcount hadd
        refine ⟨e, t.rollback, outcome_error (run_context_error ?_), ?_, hper, ?_⟩
        · simp only [check_none, run_bind, run_pure, hrun]
        · show Same s.mem t.mem
          rw [hmem]
          exact .refl _
        · show t.enterCount - 1 = 0
          rw [hcnt]
          exact h0

theorem mem_supportedNames : n ∈ supportedNames s ↔
    ∃ conf ∈ s.persisted.rows, conf.sourceType ∈ s.mem.sourceTypes ∧ conf.streamName = n := by
  simp [supportedNames, and_assoc]

theorem supportedNames_congr (hp : t.persisted = s.persisted)
    (hty : t.mem.sourceTypes = s.mem.sourceTypes) : supportedNames t = supportedNames s := by
  unfold supportedNames
  rw [hp, hty]

/-- What a call that changes nothing leaves. -/
theorem ServiceInv.of_same (h : ServiceInv s) (hm : Same s.mem t.mem)
    (hp : t.persisted = s.persisted) (hc : t.enterCount = 0) :
    ServiceInv t ∧ (Unloaded t ↔ Unloaded s) ∧ Unchanged s t := by
  have hnames := supportedNames_congr hp hm.sourceTypes
  have hun : Unloaded t ↔ Unloaded s := by
    unfold Unloaded
    rw [hnames, hm.streamMap]
  refine ⟨⟨hm.base h.base, hc, ?_, ?_⟩, hun, hm.streamMap, hm.streamList, hm.live, hp⟩
  · intro n i hi
    rw [hnames]
    rw [hm.streamMap] at hi
    exact h.conf n i hi
  · intro hut n
    rw [hm.streamMap]
    exact h.unloaded (hun.1 hut) n

/-- What a `new_stream` that succeeds leaves. -/
theorem inv_added (h : ServiceInv s) (hn : NewCompletes s conf f)
    (hm : t.mem = s.mem.added conf.streamName) (hc : t.enterCount = 0)
    (hrows : t.persisted.rows = s.persisted.rows ++ [conf]) (hl : ¬ Unloaded s) :
    ServiceInv t ∧ ¬ Unloaded t := by
  have hfree := h.streamMap_of_free hn.free
  have hself : t.mem.streamMap conf.streamName = some s.mem.streams.length := by
    rw [hm]
    exact Function.update_self ..
  have hother : ∀ {n'}, n' ≠ conf.streamName → t.mem.streamMap n' = s.mem.streamMap n' := by
    intro n' hne
    rw [hm]
    exact Function.update_of_ne hne ..
  have hnames : ∀ n', n' ∈ supportedNames t ↔ n' ∈ supportedNames s ∨ n' = conf.streamName := by
    intro n'
    have hty : t.mem.sourceTypes = s.mem.sourceTypes := by rw [hm]; rfl
    rw [mem_supportedNames, mem_supportedNames, hrows, hty]
    constructor
    · rintro ⟨c, hmem, hc, rfl⟩
      rcases List.mem_append.1 hmem with hmem | hmem
      · exact .inl ⟨c, hmem, hc, rfl⟩
      · rw [List.mem_singleton.1 hmem]
        exact .inr rfl
    · rintro (⟨c, hmem, hc, rfl⟩ | rfl)
      · exact ⟨c, List.mem_append_left _ hmem, hc, rfl⟩
      · exact ⟨conf, List.mem_append_right _ (List.mem_singleton_self _), hn.supported, rfl⟩
  have hl' : ¬ Unloaded t := by
    rintro ⟨n', hn', hnone⟩
    by_cases hne : n' = conf.streamName
    · rw [hne, hself] at hnone
      cases hnone
    · rw [hother hne] at hnone
      exact hl ⟨n', ((hnames n').1 hn').resolve_right hne, hnone⟩
  refine ⟨⟨?_, hc, fun n' i hi => ?_, fun hu => absurd hu hl'⟩, hl'⟩
  · rw [hm]
    exact h.base.added hfree
  · rw [hnames]
    by_cases hne : n' = conf.streamName
    · exact .inr hne
    · rw [hother hne] at hi
      exact .inl (h.conf n' i hi)

/-! ## `del_stream` -/

/-- `del_stream` of a name that has no stream, or without a session. -/
theorem run_delStream_of_none (h : ServiceInv s)
    (hn : ¬ (f.begins = none ∧ (s.mem.streamMap n).isSome = true)) :
    ∃ e t, run s (.delStream n f) = (some e, t) ∧ Same s.mem t.mem ∧
      t.persisted = s.persisted ∧ t.enterCount = 0 := by
  show ∃ e t, outcome (delStream n f) s = (some e, t) ∧ _
  unfold delStream
  cases hbg : f.begins with
  | some e => exact ⟨e, s, outcome_error run_context_begin, .refl _, rfl, h.enterCount⟩
  | none =>
    cases hmap : s.mem.streamMap n with
    | some i => exact absurd ⟨hbg, by rw [hmap]; rfl⟩ hn
    | none =>
      refine ⟨.streamSwitch ("Stream (" ++ n ++ ") Not Found") 404, s.enter.rollback,
        outcome_error (run_context_error ?_), .refl _, rfl, h.enterCount⟩
      have hmap' : s.enter.mem.streamMap n = none := hmap
      simp [hmap']

theorem destroy_run (hi : m.streams[i]? = some ⟨n, false⟩) (err : Option StreamError)
    (persisted session : ConfTable) (count : Nat) :
    (destroy i err).run ⟨m, persisted, session, count⟩ =
      (match err with | none => .ok () | some e => .error e,
        ⟨{ m with streams := m.streams.modify i fun st => { st with hasDestroy := true } },
          persisted, session, count⟩) := by
  cases err <;> simp [destroy, hi]

/-- `del_stream` of a stream up to the deletion of its configuration. -/
theorem delStream_block (h : ServiceInv s) (hmap : s.mem.streamMap n = some i) :
    (do
      let m ← getMem
      match m.streamMap n with
      | none => raise (.streamSwitch ("Stream (" ++ n ++ ") Not Found") 404)
      | some i => do
        setMem { m with
          streamMap := Function.update m.streamMap n none
          streamList := m.streamList.erase i }
        destroy i f.destroy
        delStreamConf n f : ServiceCall Unit).run s.enter =
    match f.destroy with
    | some e => (.error e, ⟨s.mem.removed n i, s.persisted, s.persisted, 1⟩)
    | none => (delStreamConf n f).run ⟨s.mem.removed n i, s.persisted, s.persisted, 1⟩ := by
  have hlive := h.base.mapped n i hmap
  have hdes := destroy_run (m := { s.mem with
    streamMap := Function.update s.mem.streamMap n none
    streamList := s.mem.streamList.erase i }) hlive f.destroy s.persisted s.persisted 1
  rw [enter_outer h.enterCount]
  simp only [run_bind, run_getMem, hmap, run_setMem, hdes]
  cases f.destroy <;> rfl

/-- `del_stream` in which nothing fails. -/
theorem run_delStream_of_succeeds (h : ServiceInv s) (hbg : f.begins = none)
    (hmap : s.mem.streamMap n = some i) (hf : DelSucceeds f) :
    ∃ t, run s (.delStream n f) = (none, t) ∧ t.mem = s.mem.removed n i ∧ t.enterCount = 0 ∧
      t.persisted.rows = s.persisted.rows.filter fun conf => conf.streamName ≠ n := by
  have hkey : n ∈ s.persisted.keys := by
    obtain ⟨conf, hmem, -, rfl⟩ := mem_supportedNames.1 (h.conf n i hmap)
    exact List.mem_map.2 ⟨conf, hmem, rfl⟩
  obtain ⟨rows, hdel, hrows⟩ := delStreamConf_ok (n := n) (f := f)
    (s := ⟨s.mem.removed n i, s.persisted, s.persisted, 1⟩) Nat.one_ne_zero hf.query hf.flush hkey
  have hblock := delStream_block h hmap (f := f)
  rw [hf.destroy] at hblock
  refine ⟨_, outcome_ok (a := ()) (t := Store.commit ⟨s.mem.removed n i, s.persisted, rows, 1⟩) ?_,
    rfl, rfl, hrows⟩
  unfold delStream
  rw [hbg, hf.commit, hf.destroy]
  exact run_context_ok (hblock.trans hdel)

/-- `del_stream` of a stream in which something fails has dropped and destroyed the stream. -/
theorem run_delStream_of_fails (h : ServiceInv s) (hbg : f.begins = none)
    (hmap : s.mem.streamMap n = some i) (hf : ¬ DelSucceeds f) :
    ∃ e t, run s (.delStream n f) = (some e, t) ∧ t.mem = s.mem.removed n i := by
  have hblock := delStream_block h hmap (f := f)
  show ∃ e t, outcome (delStream n f) s = (some e, t) ∧ _
  unfold delStream
  rw [hbg]
  cases hd : f.destroy with
  | some e =>
    rw [hd] at hblock
    exact ⟨e, _, outcome_error (run_context_error hblock), rfl⟩
  | none =>
    rw [hd] at hblock
    by_cases hqf : f.query = none ∧ f.flush = none
    · cases hc : f.commit with
      | none => exact absurd ⟨hd, hqf.1, hqf.2, hc⟩ hf
      | some e =>
        have hkey : n ∈ s.persisted.keys := by
          obtain ⟨conf, hmem, -, rfl⟩ := mem_supportedNames.1 (h.conf n i hmap)
          exact List.mem_map.2 ⟨conf, hmem, rfl⟩
        obtain ⟨rows, hdel, -⟩ := delStreamConf_ok (n := n) (f := f)
          (s := ⟨s.mem.removed n i, s.persisted, s.persisted, 1⟩) Nat.one_ne_zero hqf.1 hqf.2 hkey
        exact ⟨e, _, outcome_error (run_context_commit (hblock.trans hdel)), rfl⟩
    · obtain ⟨e, t, hdel, hsame⟩ := delStreamConf_error (n := n) (f := f)
        (s := ⟨s.mem.removed n i, s.persisted, s.persisted, 1⟩) Nat.one_ne_zero hqf
      exact ⟨e, _, outcome_error (run_context_error (hblock.trans hdel)), hsame.mem⟩

/-- What a `del_stream` that succeeds leaves. -/
theorem inv_removed (h : ServiceInv s) (hmap : s.mem.streamMap n = some i)
    (hm : t.mem = s.mem.removed n i) (hc : t.enterCount = 0)
    (hrows : t.persisted.rows = s.persisted.rows.filter fun conf => conf.streamName ≠ n)
    (hl : ¬ Unloaded s) : ServiceInv t ∧ ¬ Unloaded t := by
  have hself : t.mem.streamMap n = none := by
    rw [hm]
    exact Function.update_self ..
  have hother : ∀ {n'}, n' ≠ n → t.mem.streamMap n' = s.mem.streamMap n' := by
    intro n' hne
    rw [hm]
    exact Function.update_of_ne hne ..
  have hnames : ∀ n', n' ∈ supportedNames t ↔ n' ∈ supportedNames s ∧ n' ≠ n := by
    intro n'
    have hty : t.mem.sourceTypes = s.mem.sourceTypes := by rw [hm]; rfl
    rw [mem_supportedNames, mem_supportedNames, hrows, hty]
    constructor
    · rintro ⟨c, hmem, hc, rfl⟩
      obtain ⟨hmem, hne⟩ := List.mem_filter.1 hmem
      exact ⟨⟨c, hmem, hc, rfl⟩, of_decide_eq_true hne⟩
    · rintro ⟨⟨c, hmem, hc, rfl⟩, hne⟩
      exact ⟨c, List.mem_filter.2 ⟨hmem, decide_eq_true hne⟩, hc, rfl⟩
  have hl' : ¬ Unloaded t := by
    rintro ⟨n', hn', hnone⟩
    obtain ⟨hn', hne⟩ := (hnames n').1 hn'
    rw [hother hne] at hnone
    exact hl ⟨n', hn', hnone⟩
  refine ⟨⟨?_, hc, fun n' j hj => ?_, fun hu => absurd hu hl'⟩, hl'⟩
  · rw [hm]
    exact h.base.removed hmap
  · have hne : n' ≠ n := by
      rintro rfl
      cases hself.symm.trans hj
    rw [hother hne] at hj
    exact (hnames n').2 ⟨h.conf n' j hj, hne⟩

/-! ## `load` -/

/-- Nothing fails when the configurations are read. -/
def ReadOk (f : Faults) : Prop :=
  f.begins = none ∧ f.query = none ∧ f.flush = none ∧ f.commit = none

theorem getAllStreamConf_ok (h0 : s.enterCount = 0) (hq : f.query = none) (hf : f.flush = none) :
    (getAllStreamConf f).run s.enter =
      (.ok s.persisted.rows, ⟨s.mem, s.persisted, s.persisted, 1⟩) := by
  unfold getAllStreamConf
  rw [hq, hf, enter_outer h0]
  rfl

theorem read_ok (h0 : s.enterCount = 0) (hf : ReadOk f) :
    ∃ t, (context f.begins f.commit (getAllStreamConf f)).run s = (.ok s.persisted.rows, t) ∧
      SameStore s t := by
  obtain ⟨hbg, hq, hfl, hc⟩ := hf
  rw [hbg, hc]
  exact ⟨_, run_context_ok (getAllStreamConf_ok h0 hq hfl), rfl, rfl, h0.symm⟩

theorem read_error (h0 : s.enterCount = 0) (hf : ¬ ReadOk f) :
    ∃ e t, (context f.begins f.commit (getAllStreamConf f)).run s = (.error e, t) ∧
      SameStore s t := by
  cases hbg : f.begins with
  | some e => exact ⟨e, s, rfl, rfl, rfl, rfl⟩
  | none =>
    cases hq : f.query with
    | some e =>
      have hinner : (getAllStreamConf f).run s.enter = (.error e, s.enter.enter.rollback) := by
        unfold getAllStreamConf
        rw [hq]
        rfl
      exact ⟨e, _, run_context_error hinner, rfl, rfl, rfl⟩
    | none =>
      cases hfl : f.flush with
      | some e =>
        have hinner : (getAllStreamConf f).run s.enter = (.error e, s.enter.enter.rollback) := by
          unfold getAllStreamConf
          rw [hq, hfl]
          rfl
        exact ⟨e, _, run_context_error hinner, rfl, rfl, rfl⟩
      | none =>
        cases hc : f.commit with
        | none => exact absurd ⟨hbg, hq, hfl, hc⟩ hf
        | some e =>
          exact ⟨e, _, run_context_commit (getAllStreamConf_ok h0 hq hfl), rfl, rfl, h0.symm⟩

/-- When the streams are there already, nothing changes: the first creation raises. -/
theorem loadConfs_loaded (hb : s.mem.Base) (create : String → CreateOutcome)
    (confs : List StreamConf) (h : ∀ conf ∈ confs, conf.sourceType ∈ s.mem.sourceTypes →
      (s.mem.streamMap conf.streamName).isSome = true) :
    ∃ r m, (loadConfs s.mem.sourceTypes create confs).run s = (r, { s with mem := m }) ∧
      Same s.mem m := by
  induction confs with
  | nil => exact ⟨_, s.mem, rfl, .refl _⟩
  | cons conf rest ih =>
    by_cases hty : conf.sourceType ∈ s.mem.sourceTypes
    · have hcan : ¬ s.mem.CanCreate conf (create conf.streamName) := by
        rintro ⟨-, hreg, -⟩
        have hreg' := hb.isRegistered_iff.2 (h conf List.mem_cons_self hty)
        cases hreg.symm.trans hreg'
      obtain ⟨e, m, hcreate, hsame⟩ := createStream_error hcan
      refine ⟨.error e, m, ?_, hsame⟩
      simp only [loadConfs, hty, if_true, run_bind, hcreate]
    · simp only [loadConfs, hty, if_false]
      exact ih fun c hc => h c (List.mem_cons_of_mem _ hc)

/-- What the loop of `load` leaves, from streams that are not there yet. -/
structure Loaded (m : StreamService) (create : String → CreateOutcome) (confs : List StreamConf)
    (m' : StreamService) : Prop where
  base : m'.Base
  sourceTypes : m'.sourceTypes = m.sourceTypes
  keeps : ∀ n i, m.streamMap n = some i → m'.streamMap n = some i
  /-- Only streams of configurations are created. -/
  only : ∀ n i, m'.streamMap n = some i → m.streamMap n = some i ∨
    ∃ conf ∈ confs, conf.sourceType ∈ m.sourceTypes ∧ conf.streamName = n
  /-- All streams are created, or one is missing. -/
  all : (∀ conf ∈ confs, conf.sourceType ∈ m.sourceTypes → create conf.streamName = .created) →
    ∀ conf ∈ confs, conf.sourceType ∈ m.sourceTypes → m'.streamMap conf.streamName ≠ none
  missing : (∃ conf ∈ confs, conf.sourceType ∈ m.sourceTypes ∧
      create conf.streamName ≠ .created) →
    ∃ conf ∈ confs, conf.sourceType ∈ m.sourceTypes ∧ m'.streamMap conf.streamName = none

/-- A configuration whose type is not supported is passed over. -/
theorem Loaded.skip {create : String → CreateOutcome} {rest : List StreamConf}
    (hty : conf.sourceType ∉ m.sourceTypes) (h : Loaded m create rest m') :
    Loaded m create (conf :: rest) m' := by
  refine ⟨h.base, h.sourceTypes, h.keeps, fun n i hi => ?_, fun hall c hc hct => ?_, ?_⟩
  · rcases h.only n i hi with hold | ⟨c, hc, hct, hname⟩
    · exact .inl hold
    · exact .inr ⟨c, List.mem_cons_of_mem _ hc, hct, hname⟩
  · rcases List.mem_cons.1 hc with rfl | hc
    · exact absurd hct hty
    · exact h.all (fun c hc => hall c (List.mem_cons_of_mem _ hc)) c hc hct
  · rintro ⟨c, hc, hct, hcr⟩
    rcases List.mem_cons.1 hc with rfl | hc
    · exact absurd hct hty
    · obtain ⟨c', hc', hct', hnone⟩ := h.missing ⟨c, hc, hct, hcr⟩
      exact ⟨c', List.mem_cons_of_mem _ hc', hct', hnone⟩

/-- A stream is created, and the loop goes on. -/
theorem Loaded.cons {create : String → CreateOutcome} {rest : List StreamConf}
    (hn : m.streamMap conf.streamName = none) (hty : conf.sourceType ∈ m.sourceTypes)
    (h : Loaded (m.added conf.streamName) create rest m') (hcr : create conf.streamName = .created) :
    Loaded m create (conf :: rest) m' := by
  have hself : (m.added conf.streamName).streamMap conf.streamName = some m.streams.length :=
    Function.update_self ..
  have hother : ∀ {n}, n ≠ conf.streamName →
      (m.added conf.streamName).streamMap n = m.streamMap n :=
    fun hne => Function.update_of_ne hne ..
  refine ⟨h.base, h.sourceTypes, fun n i hi => h.keeps n i ?_, fun n i hi => ?_,
    fun hall c hc hct => ?_, ?_⟩
  · have hne : n ≠ conf.streamName := by
      rintro rfl
      cases hn.symm.trans hi
    rw [hother hne]
    exact hi
  · rcases h.only n i hi with hold | ⟨c, hc, hct, hname⟩
    · by_cases hne : n = conf.streamName
      · exact .inr ⟨conf, List.mem_cons_self, hty, hne.symm⟩
      · rw [hother hne] at hold
        exact .inl hold
    · exact .inr ⟨c, List.mem_cons_of_mem _ hc, hct, hname⟩
  · rcases List.mem_cons.1 hc with rfl | hc
    · rw [h.keeps _ _ hself]
      exact Option.some_ne_none _
    · exact h.all (fun c hc => hall c (List.mem_cons_of_mem _ hc)) c hc hct
  · rintro ⟨c, hc, hct, hcr'⟩
    rcases List.mem_cons.1 hc with rfl | hc
    · exact absurd hcr hcr'
    · obtain ⟨c', hc', hct', hnone⟩ := h.missing ⟨c, hc, hct, hcr'⟩
      exact ⟨c', List.mem_cons_of_mem _ hc', hct', hnone⟩

/-- The loop ends because a stream is not created. -/
theorem Loaded.stop {create : String → CreateOutcome} {rest : List StreamConf} (hb : m.Base)
    (hn : m.streamMap conf.streamName = none) (hty : conf.sourceType ∈ m.sourceTypes)
    (hs : Same m m') (hcr : create conf.streamName ≠ .created) :
    Loaded m create (conf :: rest) m' := by
  refine ⟨hs.base hb, hs.sourceTypes, fun n i hi => ?_, fun n i hi => ?_, fun hall => ?_, fun _ => ?_⟩
  · rw [hs.streamMap]
    exact hi
  · rw [hs.streamMap] at hi
    exact .inl hi
  · exact absurd (hall conf List.mem_cons_self hty) hcr
  · refine ⟨conf, List.mem_cons_self, hty, ?_⟩
    rw [hs.streamMap]
    exact hn

theorem loadConfs_new (create : String → CreateOutcome) (confs : List StreamConf)
    (hnd : (confs.map StreamConf.streamName).Nodup) (s : ServiceStore) (hb : s.mem.Base)
    (h : ∀ conf ∈ confs, s.mem.streamMap conf.streamName = none) :
    ∃ r m, (loadConfs s.mem.sourceTypes create confs).run s = (r, { s with mem := m }) ∧
      Loaded s.mem create confs m := by
  induction confs generalizing s with
  | nil =>
    refine ⟨_, s.mem, rfl, hb, rfl, fun _ _ => id, fun _ _ => .inl, fun _ c hc => ?_, ?_⟩
    · cases hc
    · rintro ⟨c, hc, -⟩
      cases hc
  | cons conf rest ih =>
    obtain ⟨hhead, htail⟩ := List.nodup_cons.1 hnd
    have hn := h conf List.mem_cons_self
    have hrest : ∀ c ∈ rest, s.mem.streamMap c.streamName = none :=
      fun c hc => h c (List.mem_cons_of_mem _ hc)
    by_cases hty : conf.sourceType ∈ s.mem.sourceTypes
    · have hreg : s.mem.isRegistered conf.streamName = false := by
        refine Bool.eq_false_iff.2 fun hreg => ?_
        have hsome := hb.isRegistered_iff.1 hreg
        rw [hn] at hsome
        cases hsome
      by_cases hcr : create conf.streamName = .created
      · have hcreate := createStream_ok (s := s) ⟨hty, hreg, hcr⟩
        obtain ⟨r, m, hrun, hl⟩ := ih htail ⟨s.mem.added conf.streamName, s.persisted, s.session,
          s.enterCount⟩ (hb.added hn) fun c hc => by
            have hne : c.streamName ≠ conf.streamName := by
              intro he
              exact hhead (he ▸ List.mem_map_of_mem hc)
            exact (Function.update_of_ne hne ..).trans (hrest c hc)
        refine ⟨r, m, ?_, hl.cons hn hty hcr⟩
        simp only [loadConfs, hty, if_true, run_bind, hcreate, keep_push]
        exact hrun
      · have hcan : ¬ s.mem.CanCreate conf (create conf.streamName) := fun hcan => hcr hcan.2.2
        obtain ⟨e, m, hcreate, hsame⟩ := createStream_error hcan
        refine ⟨.error e, m, ?_, .stop hb hn hty hsame hcr⟩
        simp only [loadConfs, hty, if_true, run_bind, hcreate]
    · obtain ⟨r, m, hrun, hl⟩ := ih htail s hb hrest
      refine ⟨r, m, ?_, hl.skip hty⟩
      simp only [loadConfs, hty, if_false]
      exact hrun

theorem run_load_of_read (h0 : s.enterCount = 0) (hf : ReadOk f) :
    ∃ t, SameStore s t ∧
      run s (.load f) = outcome (loadConfs s.mem.sourceTypes f.create s.persisted.rows) t := by
  obtain ⟨t, hread, hsame⟩ := read_ok h0 hf
  refine ⟨t, hsame, ?_⟩
  show outcome (load f) s = _
  simp only [outcome, load, run_bind, hread, run_getMem, hsame.mem]

theorem run_load_of_error (h0 : s.enterCount = 0) (hf : ¬ ReadOk f) :
    SameStore s (run s (.load f)).2 := by
  obtain ⟨e, t, hread, hsame⟩ := read_error h0 hf
  have hrun : run s (.load f) = (some e, t) := by
    refine outcome_error ?_
    simp only [load, run_bind, hread]
  rw [hrun]
  exact hsame

theorem outcome_snd {α : Type} {call : ServiceCall α} {r : Except StreamError α}
    (h : call.run s = (r, t)) : (outcome call s).2 = t := by
  cases r <;> simp only [outcome, h]

/-- `load` when the configurations are loaded already. -/
theorem load_of_loaded (h : ServiceInv s) (hl : ¬ Unloaded s) :
    ServiceInv (run s (.load f)).2 ∧ ¬ Unloaded (run s (.load f)).2 := by
  by_cases hf : ReadOk f
  · obtain ⟨t, hst, hrun⟩ := run_load_of_read h.enterCount hf
    have hb : t.mem.Base := by
      rw [hst.mem]
      exact h.base
    obtain ⟨r, m, hloop, hsame⟩ := loadConfs_loaded hb f.create s.persisted.rows fun conf hc hct => by
      rw [hst.mem] at hct ⊢
      by_contra hnone
      exact hl ⟨conf.streamName, mem_supportedNames.2 ⟨conf, hc, hct, rfl⟩,
        Option.not_isSome_iff_eq_none.1 hnone⟩
    rw [hst.mem] at hloop hsame
    rw [hrun, outcome_snd hloop]
    obtain ⟨hinv, hun, -⟩ := h.of_same (t := { t with mem := m }) hsame hst.persisted
      (hst.enterCount.trans h.enterCount)
    exact ⟨hinv, fun hu => hl (hun.1 hu)⟩
  · have hst := run_load_of_error h.enterCount hf
    obtain ⟨hinv, hun, -⟩ := h.of_same (t := (run s (.load f)).2) (by rw [hst.mem]; exact .refl _)
      hst.persisted (hst.enterCount.trans h.enterCount)
    exact ⟨hinv, fun hu => hl (hun.1 hu)⟩

/-- The loop of `load` runs on the configurations, none of which has a stream. -/
theorem load_of_read (h : ServiceInv s) (hu : Unloaded s) (hf : ReadOk f) :
    Loaded s.mem f.create s.persisted.rows (run s (.load f)).2.mem ∧
      (run s (.load f)).2.persisted = s.persisted ∧ (run s (.load f)).2.enterCount = 0 := by
  obtain ⟨t, hst, hrun⟩ := run_load_of_read h.enterCount hf
  have hb : t.mem.Base := by
    rw [hst.mem]
    exact h.base
  obtain ⟨r, m, hloop, hloaded⟩ := loadConfs_new f.create s.persisted.rows s.persisted.nodup t hb
    fun conf _ => by
      rw [hst.mem]
      exact h.unloaded hu conf.streamName
  rw [hst.mem] at hloop hloaded
  rw [hrun, outcome_snd hloop]
  exact ⟨hloaded, hst.persisted, hst.enterCount.trans h.enterCount⟩

/-- `load` in which nothing fails. -/
theorem load_of_succeeds (h : ServiceInv s) (hu : Unloaded s) (hf : LoadSucceeds s f) :
    ServiceInv (run s (.load f)).2 ∧ ¬ Unloaded (run s (.load f)).2 := by
  obtain ⟨hl, hp, hc⟩ := load_of_read h hu ⟨hf.begins, hf.query, hf.flush, hf.commit⟩
  have hnames := supportedNames_congr hp hl.sourceTypes
  have hcreated : ∀ conf ∈ s.persisted.rows, conf.sourceType ∈ s.mem.sourceTypes →
      f.create conf.streamName = .created :=
    fun conf hmem hty => hf.create _ (mem_supportedNames.2 ⟨conf, hmem, hty, rfl⟩)
  have hun : ¬ Unloaded (run s (.load f)).2 := by
    rintro ⟨n, hn, hnone⟩
    rw [hnames] at hn
    obtain ⟨conf, hmem, hty, rfl⟩ := mem_supportedNames.1 hn
    exact hl.all hcreated conf hmem hty hnone
  refine ⟨⟨hl.base, hc, fun n i hi => ?_, fun hu' => absurd hu' hun⟩, hun⟩
  rw [hnames]
  rcases hl.only n i hi with hold | ⟨conf, hmem, hty, hname⟩
  · exact h.conf n i hold
  · exact mem_supportedNames.2 ⟨conf, hmem, hty, hname⟩

/-- `load` in which something fails leaves a configuration without a stream. -/
theorem load_of_fails (h : ServiceInv s) (hu : Unloaded s) (hf : ¬ LoadSucceeds s f) :
    Unloaded (run s (.load f)).2 := by
  by_cases hread : ReadOk f
  · obtain ⟨hl, hp, -⟩ := load_of_read h hu hread
    have hmissing : ∃ conf ∈ s.persisted.rows, conf.sourceType ∈ s.mem.sourceTypes ∧
        f.create conf.streamName ≠ .created := by
      by_contra hno
      refine hf ⟨hread.1, hread.2.1, hread.2.2.1, hread.2.2.2, fun n hn => ?_⟩
      obtain ⟨conf, hmem, hty, rfl⟩ := mem_supportedNames.1 hn
      by_contra hcr
      exact hno ⟨conf, hmem, hty, hcr⟩
    obtain ⟨conf, hmem, hty, hnone⟩ := hl.missing hmissing
    refine ⟨conf.streamName, ?_, hnone⟩
    rw [supportedNames_congr hp hl.sourceTypes]
    exact mem_supportedNames.2 ⟨conf, hmem, hty, rfl⟩
  · have hst := run_load_of_error h.enterCount hread
    exact (h.of_same (t := (run s (.load f)).2) (by rw [hst.mem]; exact .refl _) hst.persisted
      (hst.enterCount.trans h.enterCount)).2.1.2 hu

/-! ## Runs -/

/-- The condition of a call is enough. -/
theorem keeps_of_orderly {e : ServiceEvent} (h : ServiceInv s) (ho : Orderly s e) :
    KeepsConsistent s e ∧ ServiceInv (run s e).2 := by
  cases e with
  | load f =>
    have hload : ServiceInv (run s (.load f)).2 ∧ ¬ Unloaded (run s (.load f)).2 := by
      by_cases hu : Unloaded s
      · exact load_of_succeeds h hu (ho hu)
      · exact load_of_loaded h hu
    refine ⟨⟨hload.1.consistent hload.2, fun hne => ?_⟩, hload.1⟩
    cases hne
  | newStream conf f =>
    obtain ⟨hl, hcommit⟩ := ho
    by_cases hn : NewCompletes s conf f
    · obtain ⟨t, hrun, hm, hc, hrows, -⟩ := run_newStream_of_completes h hn
      obtain ⟨hinv, hl'⟩ := inv_added h hn hm hc (hrows (hcommit hn)) hl
      unfold KeepsConsistent
      rw [hrun]
      exact ⟨⟨hinv.consistent hl', fun _ hne => absurd (hcommit hn) hne⟩, hinv⟩
    · obtain ⟨e, t, hrun, hsame, hp, hc⟩ := run_newStream_of_raises h hn
      obtain ⟨hinv, hun, hunch⟩ := h.of_same hsame hp hc
      unfold KeepsConsistent
      rw [hrun]
      exact ⟨⟨hinv.consistent fun hu => hl (hun.1 hu), fun _ _ => hunch⟩, hinv⟩
  | delStream n f =>
    obtain ⟨hl, hdel⟩ := ho
    by_cases hn : f.begins = none ∧ (s.mem.streamMap n).isSome = true
    · obtain ⟨i, hi⟩ := Option.isSome_iff_exists.1 hn.2
      obtain ⟨t, hrun, hm, hc, hrows⟩ := run_delStream_of_succeeds h hn.1 hi (hdel hn.1 hn.2)
      obtain ⟨hinv, hl'⟩ := inv_removed h hi hm hc hrows hl
      unfold KeepsConsistent
      rw [hrun]
      exact ⟨⟨hinv.consistent hl', fun _ hne => absurd rfl hne⟩, hinv⟩
    · obtain ⟨e, t, hrun, hsame, hp, hc⟩ := run_delStream_of_none h hn
      obtain ⟨hinv, hun, hunch⟩ := h.of_same hsame hp hc
      unfold KeepsConsistent
      rw [hrun]
      exact ⟨⟨hinv.consistent fun hu => hl (hun.1 hu), fun _ _ => hunch⟩, hinv⟩

/-- A configuration that was not loaded stays so over a `new_stream`. -/
theorem unloaded_newStream (h : ServiceInv s) (hu : Unloaded s) :
    Unloaded (run s (.newStream conf f)).2 := by
  by_cases hn : NewCompletes s conf f
  · obtain ⟨t, hrun, hm, -, hrows, hsame⟩ := run_newStream_of_completes h hn
    obtain ⟨n, hnames, hnone⟩ := hu
    obtain ⟨c, hmem, hty, rfl⟩ := mem_supportedNames.1 hnames
    have hne : c.streamName ≠ conf.streamName := by
      intro he
      exact hn.free (he ▸ List.mem_map.2 ⟨c, hmem, rfl⟩)
    rw [hrun]
    refine ⟨c.streamName, mem_supportedNames.2 ⟨c, ?_, ?_, rfl⟩, ?_⟩
    · cases hc : f.commit with
      | none =>
        rw [hrows hc]
        exact List.mem_append_left _ hmem
      | some e =>
        rw [hsame (by rw [hc]; exact Option.some_ne_none e)]
        exact hmem
    · rw [hm]
      exact hty
    · rw [hm]
      exact (Function.update_of_ne hne ..).trans hnone
  · obtain ⟨e, t, hrun, hsame, hp, hc⟩ := run_newStream_of_raises h hn
    rw [hrun]
    exact (h.of_same hsame hp hc).2.1.2 hu

/-- The condition of a call is needed. -/
theorem orderly_of_keeps {e : ServiceEvent} (h : ServiceInv s) (hk : KeepsConsistent s e) :
    Orderly s e := by
  have hloaded := hk.1.not_unloaded
  cases e with
  | load f =>
    intro hu
    by_contra hf
    exact hloaded (load_of_fails h hu hf)
  | newStream conf f =>
    refine ⟨fun hu => hloaded (unloaded_newStream h hu), fun hn => ?_⟩
    obtain ⟨t, hrun, hm, -⟩ := run_newStream_of_completes h hn
    by_contra hc
    -- the stream stays although the call raises
    have hunch := hk.2 rfl (by rw [hrun]; exact hc)
    have hmap := congrFun hunch.streamMap conf.streamName
    rw [hrun, h.streamMap_of_free hn.free] at hmap
    rw [show t.mem.streamMap conf.streamName = some s.mem.streams.length by
      rw [hm]; exact Function.update_self ..] at hmap
    cases hmap
  | delStream n f =>
    refine ⟨fun hu => ?_, fun hbg hsome => ?_⟩
    · have hn : ¬ (f.begins = none ∧ (s.mem.streamMap n).isSome = true) := by
        rintro ⟨-, hsome⟩
        rw [h.unloaded hu n] at hsome
        cases hsome
      obtain ⟨e, t, hrun, hsame, hp, hc⟩ := run_delStream_of_none h hn
      rw [hrun] at hloaded
      exact hloaded ((h.of_same hsame hp hc).2.1.2 hu)
    · obtain ⟨i, hi⟩ := Option.isSome_iff_exists.1 hsome
      by_contra hf
      -- the stream is gone although the call raises
      obtain ⟨e, t, hrun, hm⟩ := run_delStream_of_fails h hbg hi hf
      have hunch := hk.2 rfl (by rw [hrun]; exact Option.some_ne_none e)
      have hmap := congrFun hunch.streamMap n
      rw [hrun, hi] at hmap
      rw [show t.mem.streamMap n = none by rw [hm]; exact Function.update_self ..] at hmap
      cases hmap

theorem inv_fresh (sourceTypes : List String) (confs : ConfTable) :
    ServiceInv (fresh sourceTypes confs) := by
  refine ⟨⟨fun n i hi => ?_, fun i n hi => ?_, fun i => ⟨fun hi => ?_, ?_⟩, List.nodup_nil⟩, rfl,
    fun n i hi => ?_, fun _ _ => rfl⟩
  · cases hi
  · cases hi
  · cases hi
  · rintro ⟨n, hn⟩
    cases hn
  · cases hi

/-- **The stores of the service agree** after every call of a run, and a `new_stream` or
`del_stream` that raises changes none of them, if and only if the configurations are loaded first
and nothing fails once a call has changed a store. -/
theorem consistent_iff (sourceTypes : List String) (confs : ConfTable) (es : List ServiceEvent) :
    Run.Each serviceStep KeepsConsistent (fresh sourceTypes confs) es ↔
      Run.Each serviceStep Orderly (fresh sourceTypes confs) es := by
  refine Run.each_iff (fun s e t h ho ht => ?_) (fun s e h => ?_) (inv_fresh sourceTypes confs)
  · cases ht
    exact (keeps_of_orderly h ho).2
  · exact ⟨fun hk => orderly_of_keeps h hk, fun ho => (keeps_of_orderly h ho).1⟩

def noConfs : ConfTable := ⟨[], List.nodup_nil⟩

/-- A `new_stream` raises because its commit fails, and the stream stays without a
configuration. -/
theorem new_stream_commit_fails :
    ¬ Run.Each serviceStep KeepsConsistent (fresh ["rtsp"] noConfs)
      [.newStream ⟨"cam", "rtsp"⟩ { commit := some .other }] := by
  intro h
  have hmap := congrFun (h.1.2 rfl (by decide)).streamMap "cam"
  cases hmap

end StreamService

end StreamSwitch
