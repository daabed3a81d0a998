import StreamSwitch.RtspSource.Responses

/-!
# Timers of the RTSP source

Each of the four task fields of the client is the token of a waiting task of its kind, and
every waiting task has the client as its argument.
-/

namespace StreamSwitch

namespace RtspSource

variable {c c' : LiveRtspClient} {e : Event}

/-! ## What has nothing to do with timers -/

namespace LiveRtspClient

theorem handleError_same (c : LiveRtspClient) (code : RtspClientErrCode) :
    SameTimers c (c.handleError code) :=
  c.call_same _

theorem setSubsessions_same (c : LiveRtspClient) (address : Nat) (subs : List MediaSubsession) :
    SameTimers c (c.setSubsessions address subs) :=
  ⟨rfl, rfl, rfl⟩

theorem setupMetaFromSession_same (c : LiveRtspClient) (subs : List MediaSubsession) :
    SameTimers c (c.setupMetaFromSession subs) := by
  unfold setupMetaFromSession
  split
  · exact ⟨rfl, rfl, rfl⟩
  · exact (touches_checkMetadata 0 _).toSameTimers.after rfl rfl rfl

theorem setupDone_same (h : c.setupDone = .ok c') : SameTimers c c' := by
  unfold setupDone at h
  split at h
  · cases h
    exact c.handleError_same _
  · cases hs : c.session.bind c.findSession with
    | none =>
      rw [hs] at h
      cases h
    | some s =>
      rw [hs] at h
      dsimp only at h
      have hset := c.setSubsessions_same s.address (setupSinks s.subsessions 0).1
      split at h
      · cases h
        exact hset.trans (handleError_same _ _)
      · cases h
        exact (hset.trans (setupMetaFromSession_same _ _)).trans ⟨rfl, rfl, rfl⟩

theorem setupStreams_same (h : c.setupStreams = .ok c') : SameTimers c c' := by
  unfold setupStreams at h
  split at h
  · cases h
  · split at h
    · cases h
    · split at h
      · cases h
        exact ⟨rfl, rfl, rfl⟩
      · exact (setupDone_same h).after rfl rfl rfl

theorem continueAfterSETUP_same {resultCode : Int} (h : c.continueAfterSETUP resultCode = .ok c') :
    SameTimers c c' := by
  unfold continueAfterSETUP at h
  split at h
  · cases h
  · split at h
    · cases h
    · exact (setupStreams_same h).after rfl rfl rfl

theorem announceRange_same (c : LiveRtspClient) (range : Option (ℚ × ℚ)) :
    SameTimers c (c.announceRange range) := by
  unfold announceRange
  split
  · exact .refl c
  · exact ⟨rfl, rfl, rfl⟩

theorem subsessionAfterPlaying_same {address position : Nat}
    (h : c.subsessionAfterPlaying address position = some c') : SameTimers c c' := by
  unfold subsessionAfterPlaying at h
  simp only [bind, Option.bind_eq_some_iff, pure, Option.some.injEq] at h
  obtain ⟨s, -, sub, -, rfl⟩ := h
  have hset := c.setSubsessions_same address (s.subsessions.set position { sub with sink := none })
  split
  · exact hset
  · exact hset.trans (handleError_same _ _)

end LiveRtspClient

theorem frame_same {address position : Nat} {f : Frame} {x : Except Fault LiveRtspClient}
    (h : c.frame address position f = some x) (hx : x = .ok c') : SameTimers c c' := by
  unfold LiveRtspClient.frame at h
  simp only [bind, Option.bind_eq_some_iff, pure, Option.some.injEq] at h
  obtain ⟨s, -, sub, -, sink, -, rfl⟩ := h
  rcases OutputSink.fine_afterGettingFrame sub.framer sink f c with
    ⟨-, -, heq⟩ | ⟨⟨sink', c₁⟩, heq, hpass⟩
  · rw [heq] at hx
    cases hx
  · rw [heq] at hx
    cases hx
    exact hpass.touches.toSameTimers.trans (LiveRtspClient.setSubsessions_same _ _ _)

/-! ## What holds between the events -/

/-- Every waiting task has the client as its argument; a field holds a token exactly while the task
of that token, of the kind of the field, is waiting; and after `Shutdown` there is no task and no
session. -/
structure TimersOk (c : LiveRtspClient) : Prop where
  argument : ∀ t ∈ c.tasks.waiting, t.argument.clientData = .client
  field : ∀ kind token, c.tasks.slot kind = some token ↔
    ∃ t ∈ c.tasks.waiting, t.kind = kind ∧ t.token = token
  stopped : c.areAlreadyShuttingDown = true → c.tasks.waiting = [] ∧ c.session = none

/-- With what the scheduler keeps of its tokens. -/
structure TimersInv (c : LiveRtspClient) : Prop where
  argument : ∀ t ∈ c.tasks.waiting, t.argument.clientData = .client
  sound : c.tasks.Sound
  stopped : c.areAlreadyShuttingDown = true → c.tasks.waiting = [] ∧ c.session = none

theorem TimersInv.ok (h : TimersInv c) : TimersOk c := ⟨h.argument, h.sound.slot, h.stopped⟩

theorem TimersInv.of_same (h : TimersInv c) (hs : SameTimers c c') : TimersInv c' := by
  refine ⟨?_, ?_, ?_⟩
  · rw [hs.tasks]
    exact h.argument
  · rw [hs.tasks]
    exact h.sound
  · rw [hs.tasks, hs.session, hs.shuttingDown]
    exact h.stopped

theorem argument_arm {kind : TaskKind} {microseconds : Int} {tasks : Alarms TaskKind TaskArgument}
    (h : ∀ t ∈ tasks.waiting, t.argument.clientData = .client) :
    ∀ t ∈ (tasks.arm kind ⟨microseconds, .client⟩).waiting, t.argument.clientData = .client := by
  intro t ht
  rcases List.mem_cons.1 ht with rfl | ht
  · rfl
  · exact h t ht

namespace LiveRtspClient

theorem timersInv_start (h : TimersInv c) (hslot : c.tasks.slot .rtspTimeout = none) (ssrc : UInt32) :
    TimersInv (c.start ssrc) :=
  ⟨argument_arm h.argument, (Alarms.sound_arm_iff h.sound).2 hslot, nofun⟩

theorem timersInv_shutdown (h : TimersInv c) : TimersInv c.shutdown := by
  unfold shutdown
  cases hd : c.areAlreadyShuttingDown with
  | true => exact h
  | false =>
    have hsound := (((h.sound.disarm .sessionTimer).disarm .interFrameGapCheckTimer).disarm
      .rtspKeepAlive).disarm .rtspTimeout
    have hempty := hsound.waiting_eq_nil.2 (by
      intro k
      cases k
      · rw [Alarms.disarm_slot_of_ne (by decide), Alarms.disarm_slot_of_ne (by decide),
          Alarms.disarm_slot_of_ne (by decide), Alarms.disarm_slot_self]
      · rw [Alarms.disarm_slot_of_ne (by decide), Alarms.disarm_slot_of_ne (by decide),
          Alarms.disarm_slot_self]
      · rw [Alarms.disarm_slot_of_ne (by decide), Alarms.disarm_slot_self]
      · exact Alarms.disarm_slot_self ..)
    refine ⟨?_, hsound, fun _ => ⟨hempty, rfl⟩⟩
    intro t ht
    have ht' : t ∈ ([] : List (Alarm TaskKind TaskArgument)) := hempty ▸ ht
    cases ht'

/-- Of a client without a task for the gaps. -/
theorem timersInv_checkInterFrameGaps {now : Int} (h : TimersInv c)
    (hslot : c.tasks.slot .interFrameGapCheckTimer = none)
    (hstopped : c.areAlreadyShuttingDown = true →
      now ≥ c.lastFrameTime ∧ now - c.lastFrameTime ≥ interPacketGapMaxTime) :
    TimersInv (c.checkInterFrameGaps now) := by
  unfold checkInterFrameGaps
  dsimp only
  rw [Alarms.forget_of_none hslot]
  split
  · exact h.of_same (handleError_same _ _)
  · rename_i hgap
    refine ⟨argument_arm h.argument, (Alarms.sound_arm_iff h.sound).2 hslot, fun hd => ?_⟩
    exact absurd (hstopped hd) hgap

theorem timersInv_continueAfterKeepAlive (h : TimersInv c) (timeout : UInt32) :
    TimersInv (c.continueAfterKeepAlive timeout) := by
  unfold continueAfterKeepAlive
  split
  · rename_i hcond
    refine ⟨argument_arm h.argument, (Alarms.sound_arm_iff h.sound).2 hcond.2, fun hd => ?_⟩
    exact absurd (h.stopped hd).2 hcond.1
  · exact h

theorem timersInv_expire {token : Nat} {now : Int} (h : TimersInv c)
    {x : Except Fault LiveRtspClient} (hexpire : c.expire token now = some x) :
    ∃ c', x = .ok c' ∧ TimersInv c' := by
  unfold expire at hexpire
  obtain ⟨⟨task, tasks⟩, hfire, rfl⟩ := Option.map_eq_some_iff.1 hexpire
  obtain ⟨hmem, -, rfl⟩ := Alarms.fire_eq_some hfire
  have hrunning : c.areAlreadyShuttingDown = true → False := by
    intro hd
    rw [(h.stopped hd).1] at hmem
    cases hmem
  -- whatever the handler does then, the field of its task is cleared
  have hcleared : TimersInv { c with tasks := (c.tasks.remove task.token).forget task.kind } :=
    ⟨fun t ht => h.argument t (Alarms.mem_remove.1 ht).1, Alarms.sound_forget_remove h.sound hmem,
      fun hd => (hrunning hd).elim⟩
  dsimp only
  rw [h.argument task hmem]
  refine ⟨_, rfl, ?_⟩
  unfold handleTask
  cases hkind : task.kind with
  | rtspKeepAlive =>
    rw [hkind] at hcleared
    exact hcleared
  | sessionTimer =>
    rw [hkind] at hcleared
    exact hcleared.of_same (handleError_same _ _)
  | rtspTimeout =>
    rw [hkind] at hcleared
    exact hcleared.of_same (handleError_same _ _)
  | interFrameGapCheckTimer =>
    rw [hkind] at hcleared
    have hslot := Alarms.forget_slot_self (c.tasks.remove task.token) .interFrameGapCheckTimer
    have hgaps : TimersInv (checkInterFrameGaps _ now) :=
      timersInv_checkInterFrameGaps hcleared hslot fun hd => (hrunning hd).elim
    unfold checkInterFrameGaps at hgaps ⊢
    dsimp only at hgaps
    rw [Alarms.forget_of_none hslot] at hgaps
    exact hgaps

theorem continueAfterDESCRIBE_cases {resultCode : Int} {sdp : Option MediaSession}
    (h : c.continueAfterDESCRIBE resultCode sdp = .ok c') :
    (resultCode = 0 ∧ sdp ≠ none ∧ SameTimers { c with session := some c.nextAddress } c') ∨
      (¬ (resultCode = 0 ∧ sdp ≠ none) ∧
        (SameTimers c c' ∨ SameTimers { c with session := none } c')) := by
  unfold continueAfterDESCRIBE at h
  split at h
  · rename_i hcode
    cases h
    exact .inr ⟨fun hc => hcode hc.1, .inl (handleError_same _ _)⟩
  · rename_i hcode
    cases sdp with
    | none =>
      cases h
      exact .inr ⟨fun hc => hc.2 rfl, .inr (handleError_same _ _)⟩
    | some s =>
      refine .inl ⟨not_not.1 hcode, nofun, ?_⟩
      dsimp only at h
      split at h
      · cases h
        exact (handleError_same _ _).after rfl rfl rfl
      · split at h
        · cases h
          exact (handleError_same _ _).after rfl rfl rfl
        · exact (setupStreams_same h).after rfl rfl rfl

theorem continueAfterPLAY_cases {resultCode : Int} {range : Option (ℚ × ℚ)} {frameTime now : Int}
    (h : c.continueAfterPLAY resultCode range frameTime now = .ok c') :
    (resultCode ≠ 0 ∧ SameTimers c c') ∨ (resultCode = 0 ∧ ∃ c₁, SameTimers c c₁ ∧
      ((0 < c.duration ∧ ∃ s, (c₁.scheduleSessionTimer s).playStarted frameTime now = .ok c') ∨
        (¬ 0 < c.duration ∧ c₁.playStarted frameTime now = .ok c'))) := by
  have hsame := c.announceRange_same range
  have hduration : (c.announceRange range).duration = c.duration := by
    unfold announceRange
    split <;> rfl
  unfold continueAfterPLAY at h
  dsimp only at h
  split at h
  · rename_i hcode
    cases h
    exact .inl ⟨hcode, hsame.trans (handleError_same _ _)⟩
  · rename_i hcode
    refine .inr ⟨not_not.1 hcode, _, hsame, ?_⟩
    rw [hduration] at h
    split at h
    · rename_i hpos
      split at h
      · cases h
      · exact .inl ⟨hpos, _, h⟩
    · rename_i hpos
      exact .inr ⟨hpos, h⟩

theorem playStarted_eq {frameTime now : Int} (h : c.playStarted frameTime now = .ok c') :
    ∃ c₁, c' = c₁.checkInterFrameGaps now ∧ SameTimers (c.unscheduleDelayedTask .rtspTimeout) c₁ ∧
      c₁.lastFrameTime = frameTime := by
  unfold playStarted at h
  dsimp only at h
  split at h
  · cases h
  · cases h
    have hcall := call_same (c.unscheduleDelayedTask .rtspTimeout) .onRtspOK
    exact ⟨_, rfl, ⟨hcall.tasks, hcall.session, hcall.shuttingDown⟩, rfl⟩

theorem timersInv_unscheduleDelayedTask (h : TimersInv c) (kind : TaskKind) :
    TimersInv (c.unscheduleDelayedTask kind) := by
  refine ⟨fun t ht => h.argument t (Alarms.mem_of_mem_disarm ht), h.sound.disarm kind, fun hd => ?_⟩
  obtain ⟨hwaiting, hsession⟩ := h.stopped hd
  refine ⟨List.eq_nil_iff_forall_not_mem.2 fun t ht => ?_, hsession⟩
  have hmem := Alarms.mem_of_mem_disarm ht
  rw [hwaiting] at hmem
  cases hmem

/-- Looking at the gaps unschedules nothing. -/
theorem mem_checkInterFrameGaps {now : Int} {t : Alarm TaskKind TaskArgument}
    (ht : t ∈ c.tasks.waiting) : t ∈ (c.checkInterFrameGaps now).tasks.waiting := by
  unfold checkInterFrameGaps
  dsimp only
  split
  · rw [(handleError_same _ _).tasks]
    exact ht
  · exact .tail _ ht

/-- When looking at the gaps leaves the timers in order. -/
theorem of_timersOk_checkInterFrameGaps {now : Int} (h : TimersInv c)
    (hok : TimersOk (c.checkInterFrameGaps now)) :
    c.tasks.slot .interFrameGapCheckTimer = none ∧ (c.areAlreadyShuttingDown = true →
      now ≥ c.lastFrameTime ∧ now - c.lastFrameTime ≥ interPacketGapMaxTime) := by
  constructor
  · refine h.sound.slot_eq_none_of_kept hok.field ?_ fun t ht => mem_checkInterFrameGaps ht
    intro token htoken
    unfold checkInterFrameGaps at htoken
    dsimp only at htoken
    split at htoken
    · rw [(handleError_same _ _).tasks] at htoken
      cases (Alarms.forget_slot_self ..).symm.trans htoken
    · cases (Alarms.arm_slot_self ..).symm.trans htoken
      exact Nat.lt_succ_self _
  · intro hd
    by_contra hgap
    unfold checkInterFrameGaps at hok
    dsimp only at hok
    rw [if_neg hgap] at hok
    have hempty := (hok.stopped hd).1
    cases hempty

/-- A session timer has no client, and what comes behind does not unschedule it. -/
theorem not_timersOk_of_sessionTimer {s : MediaSession} {frameTime now : Int} (hsound : c.tasks.Sound)
    (h : (c.scheduleSessionTimer s).playStarted frameTime now = .ok c') : ¬ TimersOk c' := by
  obtain ⟨c₁, rfl, hsame, -⟩ := playStarted_eq h
  intro hok
  have hslot : (c.scheduleSessionTimer s).tasks.slot .rtspTimeout = c.tasks.slot .rtspTimeout :=
    Alarms.arm_slot_of_ne (by decide)
  have hmem : ∃ t ∈ c₁.tasks.waiting, t.argument.clientData = .null := by
    rw [hsame.tasks]
    refine ⟨_, Alarms.mem_disarm (List.mem_cons_self ..) ?_, rfl⟩
    rw [hslot]
    intro htoken
    obtain ⟨t, ht, -, hcount⟩ := (hsound.slot _ _).1 htoken
    have hle := hsound.given t ht
    dsimp only at hcount
    omega
  obtain ⟨t, ht, hnull⟩ := hmem
  have hclient := hok.argument t (mem_checkInterFrameGaps ht)
  rw [hnull] at hclient
  cases hclient

end LiveRtspClient

/-! ## Every order of events -/

/-- `Start` is not called while a connection is waited for; no session is described after
`Shutdown`; and PLAY is answered for a stream without an end, while no gap is looked for, and not after
`Shutdown` (but for one that finds a gap at once). -/
def Careful (c : LiveRtspClient) : Event → Prop
  | .start _ => c.tasks.slot .rtspTimeout = none
  | .describeResponse resultCode sdp =>
    resultCode = 0 ∧ sdp ≠ none → c.areAlreadyShuttingDown = false
  | .playResponse resultCode _ frameTime now =>
    resultCode = 0 → ¬ 0 < c.duration ∧ c.tasks.slot .interFrameGapCheckTimer = none ∧
      (c.areAlreadyShuttingDown = true → now ≥ frameTime ∧ now - frameTime ≥ interPacketGapMaxTime)
  | _ => True

/-- After the event the timers are in order. -/
def KeepsTimers (c : LiveRtspClient) (e : Event) : Prop := ∀ c', step c e = some c' → TimersOk c'

theorem toOption_eq_some {x : Except Fault LiveRtspClient} (h : x.toOption = some c') : x = .ok c' := by
  cases x with
  | error fault => cases h
  | ok c₁ =>
    cases h
    rfl

open LiveRtspClient

theorem timersInv_step (h : TimersInv c) (hcareful : Careful c e) (hstep : step c e = some c') :
    TimersInv c' := by
  cases e with
  | start ssrc =>
    cases hstep
    exact timersInv_start h hcareful ssrc
  | optionsResponse resultCode =>
    cases hstep
    exact h
  | describeResponse resultCode sdp =>
    rcases continueAfterDESCRIBE_cases (toOption_eq_some hstep) with
      ⟨hcode, hsdp, hsame⟩ | ⟨-, hsame | hsame⟩
    · have hrunning := hcareful ⟨hcode, hsdp⟩
      have hnew : TimersInv { c with session := some c.nextAddress } :=
        ⟨h.argument, h.sound, fun hd => nomatch hrunning.symm.trans hd⟩
      exact hnew.of_same hsame
    · exact h.of_same hsame
    · have hnone : TimersInv { c with session := none } :=
        ⟨h.argument, h.sound, fun hd => ⟨(h.stopped hd).1, rfl⟩⟩
      exact hnone.of_same hsame
  | setupResponse resultCode => exact h.of_same (continueAfterSETUP_same (toOption_eq_some hstep))
  | playResponse resultCode range frameTime now =>
    rcases continueAfterPLAY_cases (toOption_eq_some hstep) with
      ⟨-, hsame⟩ | ⟨hcode, c₁, hsame, ⟨hpos, -⟩ | ⟨-, hplay⟩⟩
    · exact h.of_same hsame
    · exact absurd hpos (hcareful hcode).1
    · obtain ⟨-, hslot, hstopped⟩ := hcareful hcode
      obtain ⟨c₂, rfl, hsame₂, rfl⟩ := playStarted_eq hplay
      have h₂ := (timersInv_unscheduleDelayedTask (h.of_same hsame) .rtspTimeout).of_same hsame₂
      refine timersInv_checkInterFrameGaps h₂ ?_ fun hd => hstopped ?_
      · rw [hsame₂.tasks]
        exact (Alarms.disarm_slot_of_ne (by decide)).trans (hsame.tasks ▸ hslot)
      · exact hsame.shuttingDown.symm.trans (hsame₂.shuttingDown.symm.trans hd)
  | keepAliveResponse resultCode timeout =>
    cases hstep
    exact timersInv_continueAfterKeepAlive h timeout
  | expiry token now =>
    obtain ⟨x, hexpire, hx⟩ := Option.bind_eq_some_iff.1 hstep
    obtain ⟨c₁, rfl, h₁⟩ := timersInv_expire h hexpire
    cases hx
    exact h₁
  | frame address position f =>
    obtain ⟨x, hframe, hx⟩ := Option.bind_eq_some_iff.1 hstep
    exact h.of_same (frame_same hframe (toOption_eq_some hx))
  | subsessionClosed address position => exact h.of_same (subsessionAfterPlaying_same hstep)
  | bye address position => exact h.of_same (subsessionAfterPlaying_same hstep)
  | shutdown =>
    cases hstep
    exact timersInv_shutdown h

theorem careful_of_timersOk (h : TimersInv c) (hstep : step c e = some c') (hok : TimersOk c') :
    Careful c e := by
  cases e with
  | start ssrc =>
    cases hstep
    refine h.sound.slot_eq_none_of_kept hok.field (fun token htoken => ?_) fun t ht => .tail _ ht
    cases (Alarms.arm_slot_self ..).symm.trans htoken
    exact Nat.lt_succ_self _
  | describeResponse resultCode sdp =>
    intro hdescribed
    rcases continueAfterDESCRIBE_cases (toOption_eq_some hstep) with ⟨-, -, hsame⟩ | ⟨hnot, -⟩
    · by_contra hd
      have hstopped := hok.stopped (hsame.shuttingDown.trans (Bool.not_eq_false _ ▸ hd))
      cases hsame.session.symm.trans hstopped.2
    · exact absurd hdescribed hnot
  | playResponse resultCode range frameTime now =>
    intro hcode
    rcases continueAfterPLAY_cases (toOption_eq_some hstep) with
      ⟨hne, -⟩ | ⟨-, c₁, hsame, ⟨-, s, hplay⟩ | ⟨hpos, hplay⟩⟩
    · exact absurd hcode hne
    · exact absurd hok (not_timersOk_of_sessionTimer (hsame.tasks ▸ h.sound) hplay)
    · obtain ⟨c₂, rfl, hsame₂, rfl⟩ := playStarted_eq hplay
      have h₂ := (timersInv_unscheduleDelayedTask (h.of_same hsame) .rtspTimeout).of_same hsame₂
      obtain ⟨hslot, hstopped⟩ := of_timersOk_checkInterFrameGaps h₂ hok
      refine ⟨hpos, ?_, fun hd => hstopped ?_⟩
      · rw [hsame₂.tasks] at hslot
        rw [← hsame.tasks, ← hslot]
        exact (Alarms.disarm_slot_of_ne (by decide)).symm
      · exact hsame₂.shuttingDown.trans (hsame.shuttingDown.trans hd)
  | _ => trivial

theorem timersInv_createNew (hasListener enableRtspKeepAlive : Bool) (singleMedium : Option String)
    (ignoreSdpSps : Bool) :
    TimersInv (.createNew hasListener enableRtspKeepAlive singleMedium ignoreSdpSps) :=
  ⟨nofun, Alarms.sound_empty, fun _ => ⟨rfl, rfl⟩⟩

theorem each_keepsTimers_iff {es : List Event} (h : TimersInv c) (hrun : Run.exec step c es = some c') :
    Run.Each step KeepsTimers c es ↔ Run.Each step Careful c es := by
  refine Run.each_iff_of_exec (fun c e c' h hc hs => timersInv_step h hc hs) ?_ hrun h
  intro c e c' h hstep
  constructor
  · intro hkeeps
    exact careful_of_timersOk h hstep (hkeeps c' hstep)
  · intro hcareful c₁ hstep₁
    exact (timersInv_step h hcareful hstep₁).ok

/-- **Timers**: along every run of a client, in whatever order its events come, the waiting tasks have
the client as their argument, the fields are their tokens, and after `Shutdown` there are none and no
session, exactly as long as every event is careful. -/
theorem timers_in_order_iff (hasListener enableRtspKeepAlive : Bool) (singleMedium : Option String)
    (ignoreSdpSps : Bool) {es : List Event} {c' : LiveRtspClient}
    (hrun : Run.exec step (.createNew hasListener enableRtspKeepAlive singleMedium ignoreSdpSps) es =
      some c') :
    Run.Each step KeepsTimers
        (.createNew hasListener enableRtspKeepAlive singleMedium ignoreSdpSps) es ↔
      Run.Each step Careful (.createNew hasListener enableRtspKeepAlive singleMedium ignoreSdpSps) es :=
  each_keepsTimers_iff (timersInv_createNew ..) hrun

/-- A session of one video track that ends after `stop` seconds. -/
def oneTrack (stop : ℚ) : MediaSession where
  subsessions := [{ mediumName := "video", codecName := "JPEG", initiates := some 4000 }]
  playEndTime := stop

/-- From `Start` to the answer of PLAY. -/
def playing (stop : ℚ) : List Event :=
  [.start 1, .describeResponse 0 (some (oneTrack stop)), .setupResponse 0, .playResponse 0 none 0 0]

theorem timers_in_order_live :
    Run.Each step KeepsTimers (.createNew true true none false) (playing 0) ↔
      Run.Each step Careful (.createNew true true none false) (playing 0) := by
  have hsome : (Run.exec step (.createNew true true none false) (playing 0)).isSome := by decide +kernel
  obtain ⟨c', hrun⟩ := Option.isSome_iff_exists.1 hsome
  exact timers_in_order_iff true true none false hrun

/-- The timer of a stream that ends after ten seconds has no client. -/
theorem session_timer_without_client : ¬ ∀ (es : List Event) (c' : LiveRtspClient),
    Run.exec step (.createNew true true none false) es = some c' →
      Run.Each step KeepsTimers (.createNew true true none false) es := by
  intro h
  have hsome : (Run.exec step (.createNew true true none false) (playing 10)).isSome := by decide +kernel
  obtain ⟨c', hrun⟩ := Option.isSome_iff_exists.1 hsome
  have hcareful : Run.Each step Careful (.createNew true true none false)
      ((playing 10).take 3 ++ [.playResponse 0 none 0 0]) :=
    (each_keepsTimers_iff (timersInv_createNew ..) hrun).1 (h _ c' hrun)
  have hduration : (Run.exec step (.createNew true true none false) ((playing 10).take 3)).map
      (·.duration) = some 10 := by decide +kernel
  obtain ⟨c₃, hrun₃, hten⟩ := Option.map_eq_some_iff.1 hduration
  have hplay := (hcareful.drop hrun₃).1 rfl
  rw [hten] at hplay
  exact hplay.1 (by decide +kernel)

end RtspSource

end StreamSwitch
