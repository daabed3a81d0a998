import StreamSwitch.Process.Watcher

/-!
# A watcher that is used by one call at a time

What the owner of a watcher can rely on when it lets only one call at a time into
`start` and `stop`, and does not call `stop` during a relaunch. The watcher is then
in one of four phases. `Held x ph` says so, with the invariant of the watcher and
that no child was handed over: a watcher that is off has no child that is alive.
-/

namespace StreamSwitch

namespace WatcherSystem

/-- The phase of a watcher, with the greenlet of the call that is in it. -/
inductive Phase
  | off
  | starting (g : Nat)
  | on
  | stopping (g : Nat)

/-- The watcher is in this phase. -/
def InPhase (x : WatcherSystem) : Phase → Prop
  | .off => x.watcher.started = false ∧ x.watcher.popen = none ∧ x.NotLaunching
  | .starting g => x.greenlets[g]? = some .startPopen
  | .on => x.watcher.started = true
  | .stopping g => ∃ pos c, x.greenlets[g]? = some pos ∧ pos.InStop c

structure Held (x : WatcherSystem) (ph : Phase) : Prop where
  inv : x.WatcherInv
  clean : ∀ child ∈ x.children, child.handed = false
  phase : x.InPhase ph

variable {x y : WatcherSystem} {ph : Phase} {g : Nat}

/-- No child of a watcher that is off is alive. -/
theorem Held.exited (h : x.Held .off) : ∀ child ∈ x.children, child.exited ≠ none := by
  intro child hc
  rcases h.inv.exited_or_handed h.phase.2.1 child hc with hx | hh
  · exact hx
  · cases (h.clean child hc).symm.trans hh

/-- Only a watcher that is on is started. -/
theorem Held.started_iff (h : x.Held ph) : x.watcher.started = true ↔ ph = .on := by
  cases ph with
  | off =>
    have hs := h.phase.1
    simp [hs]
  | starting g =>
    have hs := (h.inv.greenlets g _ h.phase).1
    simp [hs]
  | on =>
    have hs : x.watcher.started = true := h.phase
    simp [hs]
  | stopping g =>
    obtain ⟨pos, c, hg, hin⟩ := h.phase
    have hs : x.watcher.started = false := by
      rcases hin with rfl | rfl <;> exact (h.inv.greenlets g _ hg).1
    simp [hs]

theorem held_fresh (ageTime errorRestartInterval : Int) :
    (fresh ageTime errorRestartInterval).Held .off := by
  refine ⟨watcherInv_fresh _ _, fun child hc => ?_, rfl, rfl, fun g pos hg => ?_⟩
  · cases hc
  · cases hg

/-! ## Calls -/

theorem Held.start (h : x.Held .off) :
    ∃ y g, x.start = (y, .blocked g) ∧ y.Held (.starting g) := by
  obtain ⟨hs, hp, hl⟩ := h.phase
  have hinv := inv_start h.inv fun _ _ => hl
  have he : x.start = (x.spawn .startPopen, .blocked x.greenlets.length) := by
    simp [WatcherSystem.start, hs, hp]
  rw [he] at hinv
  exact ⟨_, _, he, hinv, h.clean, List.getElem?_concat_length ..⟩

theorem stop_of_not_started (hs : x.watcher.started = false) : x.stop = (x, .returned) := by
  simp [stop, hs]

theorem asyncStop_of_not_started (hs : x.watcher.started = false) (oserror : Bool) (now : Int) :
    x.asyncStop oserror now = some x := by
  simp [asyncStop, hs]

theorem clean_modify {children : List Child} (h : ∀ child ∈ children, child.handed = false)
    {f : Child → Child} (hf : ∀ child, (f child).handed = child.handed) (c : Nat) :
    ∀ child ∈ children.modify c f, child.handed = false := by
  intro child hc
  obtain ⟨i, hi⟩ := List.getElem?_of_mem hc
  rw [List.getElem?_modify] at hi
  cases ha : children[i]? with
  | none => rw [ha] at hi; cases hi
  | some a =>
    rw [ha] at hi
    have hclean := h a (List.mem_of_getElem? ha)
    cases hi
    simp only
    split
    · rw [hf, hclean]
    · exact hclean

theorem clean_terminate (h : ∀ child ∈ x.children, child.handed = false) (c : Nat) :
    ∀ child ∈ (x.terminate c).children, child.handed = false := by
  refine clean_modify h ?_ c
  exact fun _ => rfl

theorem clean_kill (h : ∀ child ∈ x.children, child.handed = false) (c : Nat) :
    ∀ child ∈ (x.kill c).children, child.handed = false := by
  refine clean_modify h ?_ c
  exact fun _ => rfl

/-- `stop` while the watcher is not relaunching its process. -/
theorem Held.stop (h : x.Held .on) (hl : x.NotLaunching) :
    (∃ y, x.stop = (y, .returned) ∧ y.Held .off) ∨
    (∃ y g, x.stop = (y, .blocked g) ∧ y.Held (.stopping g)) := by
  have hs : x.watcher.started = true := h.phase
  have hinv := inv_stop h.inv fun _ => hl
  cases hp : x.watcher.popen with
  | none =>
    have he : x.stop = (x.detach, .returned) := by simp [WatcherSystem.stop, hs, hp]
    rw [he] at hinv
    exact .inl ⟨_, he, hinv, h.clean, rfl, hp, hl⟩
  | some c =>
    have he : x.stop = ((x.detach.terminate c).spawn (.stopWait c), .blocked x.greenlets.length) := by
      simp [WatcherSystem.stop, hs, hp]
    rw [he] at hinv
    exact .inr ⟨_, _, he, hinv, clean_terminate (x := x.detach) h.clean c, .stopWait c, c,
      List.getElem?_concat_length .., .inl rfl⟩

/-- The `start` in progress comes back. -/
theorem Held.resumeStart (h : x.Held (.starting g)) {wake : Wake} {now : Int} {r : CallResult}
    (hr : x.resume g wake now = some (y, r)) :
    (r = .returned ∧ y.Held .on) ∨ (r = .raised ∧ y.Held .off) := by
  have hg : x.greenlets[g]? = some .startPopen := h.phase
  have hinv := inv_resume h.inv hr
  have hp := (h.inv.greenlets g _ hg).2
  rcases resume_cases hr with ⟨-, ⟨rfl, rfl⟩ | ⟨rfl, rfl⟩⟩ | ⟨c, ret, hg' | hg', -⟩ | ⟨c, hg', -⟩ |
    ⟨c, ret, hg' | hg', -⟩ | ⟨c, hg', -⟩ | ⟨hg', -⟩ | ⟨hg', -⟩
  · refine .inl ⟨rfl, hinv, ?_, rfl⟩
    intro child hc
    rcases List.mem_append.1 hc with hc | hc
    · exact h.clean child hc
    · rw [List.mem_singleton.1 hc]
  · have he : x.startFailed g now = x.detach.goto g .done := by
      have hp' : (x.detach.goto g .done).watcher.popen = none := hp
      simp only [startFailed, hp']
    rw [he] at hinv ⊢
    refine .inr ⟨rfl, hinv, h.clean, rfl, hp, fun g' pos hg' => ?_⟩
    rcases Tasks.getElem?_set_some hg' with ⟨-, rfl⟩ | ⟨hne, hg'⟩
    · rintro (hl | hl) <;> cases hl
    · exact (h.inv.free_of_launching hg (.inl rfl) hp hne hg').1
  all_goals rw [hg] at hg'; cases hg'

/-- The `stop` in progress goes on, or comes back. -/
theorem Held.resumeStop (h : x.Held (.stopping g)) {wake : Wake} {now : Int} {r : CallResult}
    (hr : x.resume g wake now = some (y, r)) :
    (r = .returned ∧ y.Held .off) ∨ (r = .blocked g ∧ y.Held (.stopping g)) := by
  obtain ⟨pos, c, hg, hin⟩ := h.phase
  have hinv := inv_resume h.inv hr
  have hw : x.watcher.started = false ∧ x.watcher.popen = some c := by
    rcases hin with rfl | rfl <;> exact h.inv.greenlets g _ hg
  rcases resume_cases hr with ⟨hg', -⟩ | ⟨c', ret, hg', -, rfl, rfl⟩ | ⟨c', hg', rfl, rfl⟩ |
    ⟨c', ret, hg', -⟩ | ⟨c', hg', -⟩ | ⟨hg', -⟩ | ⟨hg', -⟩
  · rw [hg] at hg'
    cases hg'
    rcases hin with hin | hin <;> cases hin
  · have hc : c' = c := by
      rw [hg] at hg'
      rcases hin with rfl | rfl <;> rcases hg' with hg' | hg' <;> cases hg' <;> rfl
    subst hc
    have he : x.stopWaited g c' ret now = (x.goto g .done).onProcessTerminate ret now := by
      unfold stopWaited
      exact if_pos hw.2
    rw [he] at hinv ⊢
    refine .inl ⟨rfl, hinv, h.clean, hw.1, rfl, fun g' pos' hg'' => ?_⟩
    rcases Tasks.getElem?_set_some hg'' with ⟨-, rfl⟩ | ⟨-, hg''⟩
    · rintro (hl | hl) <;> cases hl
    · rintro (rfl | rfl)
      · cases hw.2.symm.trans (h.inv.greenlets g' _ hg'').2
      · cases hw.1.symm.trans (h.inv.greenlets g' _ hg'').1
  · refine .inr ⟨rfl, hinv, clean_kill h.clean c', ?_⟩
    exact ⟨.stopKill c', c', Tasks.getElem?_set_self hg', .inr rfl⟩
  · rw [hg] at hg'
    rcases hin with rfl | rfl <;> rcases hg' with hg' | hg' <;> cases hg'
  · rw [hg] at hg'
    rcases hin with rfl | rfl <;> cases hg'
  · rw [hg] at hg'
    rcases hin with rfl | rfl <;> cases hg'
  · rw [hg] at hg'
    rcases hin with rfl | rfl <;> cases hg'

/-! ## What goes on beside the calls -/

/-- A greenlet that no call waits for. -/
def background (x : WatcherSystem) (g : Nat) : Bool :=
  match x.greenlets[g]? with
  | some .startPopen | some (.stopWait _) | some (.stopKill _) => false
  | _ => true

theorem background_ne (hb : x.background g = true) {pos : Greenlet}
    (hg : x.greenlets[g]? = some pos) : pos ≠ .startPopen ∧ ∀ c, ¬ pos.InStop c := by
  unfold background at hb
  rw [hg] at hb
  refine ⟨?_, fun c => ?_⟩
  · rintro rfl
    cases hb
  · rintro (rfl | rfl) <;> cases hb

/-- A turn of the polling greenlet keeps the flag, hands over no child, and moves no other
greenlet. -/
theorem pollTurn_frame (x : WatcherSystem) (g : Nat) (sees : Bool) (now : Int) :
    (x.pollTurn g sees now).watcher.started = x.watcher.started ∧
      ((∀ child ∈ x.children, child.handed = false) →
        ∀ child ∈ (x.pollTurn g sees now).children, child.handed = false) ∧
      ∀ g' : Nat, g' ≠ g → (x.pollTurn g sees now).greenlets[g']? = x.greenlets[g']? := by
  have hset : ∀ pos (g' : Nat), g' ≠ g → (x.greenlets.set g pos)[g']? = x.greenlets[g']? :=
    fun pos g' hne => List.getElem?_set_ne (Ne.symm hne)
  unfold pollTurn
  simp only
  split
  · exact ⟨rfl, id, hset .done⟩
  · split
    · exact ⟨rfl, id, hset .pollPopen⟩
    · next c _ =>
      split
      · split
        · exact ⟨rfl, id, fun _ _ => rfl⟩
        · exact ⟨rfl, id, hset .done⟩
      · split
        · split
          · split
            · exact ⟨rfl, fun h => clean_kill h c, fun _ _ => rfl⟩
            · exact ⟨rfl, id, fun _ _ => rfl⟩
          · split
            · exact ⟨rfl, fun h => clean_terminate h c, fun _ _ => rfl⟩
            · exact ⟨rfl, id, fun _ _ => rfl⟩
        · exact ⟨rfl, id, fun _ _ => rfl⟩

/-- A turn of the polling greenlet of a watcher that is not started ends it. -/
theorem pollTurn_of_not_started (hs : x.watcher.started = false) (sees : Bool) (now : Int) :
    x.pollTurn g sees now = x.goto g .done := by
  simp [pollTurn, hs]

/-- What a background greenlet does leaves alone what a phase is about. -/
theorem Held.background_frame (h : x.Held ph) (hb : x.background g = true) {wake : Wake} {now : Int}
    {r : CallResult} (hr : x.resume g wake now = some (y, r)) :
    y.watcher.started = x.watcher.started ∧ (∀ child ∈ y.children, child.handed = false) ∧
      (∀ g' : Nat, g' ≠ g → y.greenlets[g']? = x.greenlets[g']?) ∧
      (x.InPhase .off → y.watcher.popen = none ∧ y.NotLaunching) := by
  have hset : ∀ pos (g' : Nat), g' ≠ g → (x.greenlets.set g pos)[g']? = x.greenlets[g']? :=
    fun pos g' hne => List.getElem?_set_ne (Ne.symm hne)
  have hoff : ∀ pos, ¬ pos.Launching → x.NotLaunching →
      ∀ (g' : Nat) pos', (x.greenlets.set g pos)[g']? = some pos' → ¬ pos'.Launching := by
    intro pos hpos hl g' pos' hg'
    rcases Tasks.getElem?_set_some hg' with ⟨-, rfl⟩ | ⟨-, hg'⟩
    · exact hpos
    · exact hl g' pos' hg'
  rcases resume_cases hr with ⟨hg, -⟩ | ⟨c, ret, hg | hg, -⟩ | ⟨c, hg, -⟩ |
    ⟨c, ret, -, -, rfl, -⟩ | ⟨c, -, rfl, -⟩ | ⟨-, sees, rfl, -⟩ | ⟨hg, -, he⟩
  · exact absurd rfl (background_ne hb hg).1
  · exact absurd (.inl rfl) ((background_ne hb hg).2 c)
  · exact absurd (.inr rfl) ((background_ne hb hg).2 c)
  · exact absurd (.inl rfl) ((background_ne hb hg).2 c)
  · refine ⟨rfl, h.clean, hset _, fun hp => ⟨hp.2.1, hoff .done ?_ hp.2.2⟩⟩
    rintro (hl | hl) <;> cases hl
  · refine ⟨rfl, clean_kill h.clean c, hset _, fun hp => ⟨hp.2.1, hoff (.termKill c) ?_ hp.2.2⟩⟩
    rintro (hl | hl) <;> cases hl
  · obtain ⟨h1, h2, h3⟩ := pollTurn_frame x g sees now
    refine ⟨h1, h2 h.clean, h3, fun hp => ?_⟩
    rw [pollTurn_of_not_started hp.1]
    refine ⟨hp.2.1, hoff .done ?_ hp.2.2⟩
    rintro (hl | hl) <;> cases hl
  · rcases he with rfl | rfl
    · refine ⟨rfl, fun child hc => ?_, hset _, fun hp => absurd (.inr rfl) (hp.2.2 g _ hg)⟩
      rcases List.mem_append.1 hc with hc | hc
      · exact h.clean child hc
      · rw [List.mem_singleton.1 hc]
    · refine ⟨rfl, h.clean, hset _, fun hp => ⟨hp.2.1, hoff .pollSleep ?_ hp.2.2⟩⟩
      rintro (hl | hl) <;> cases hl

/-- The phase is that of the calls. -/
theorem Held.background (h : x.Held ph) (hb : x.background g = true) {wake : Wake} {now : Int}
    {r : CallResult} (hr : x.resume g wake now = some (y, r)) : y.Held ph := by
  obtain ⟨h1, h2, h3, h4⟩ := h.background_frame hb hr
  refine ⟨inv_resume h.inv hr, h2, ?_⟩
  have hphase := h.phase
  cases ph with
  | off => exact ⟨h1.trans hphase.1, h4 hphase⟩
  | starting g' =>
    have hne : g' ≠ g := by
      rintro rfl
      exact (background_ne hb hphase).1 rfl
    exact (h3 g' hne).trans hphase
  | on => exact h1.trans hphase
  | stopping g' =>
    obtain ⟨pos, c, hg, hin⟩ := hphase
    have hne : g' ≠ g := by
      rintro rfl
      exact (background_ne hb hg).2 c hin
    exact ⟨pos, c, (h3 g' hne).trans hg, hin⟩

theorem Held.exit (h : x.Held ph) {c : Nat} {code : Int} (he : x.exit c code = some y) :
    y.Held ph := by
  refine ⟨inv_exit h.inv he, ?_, ?_⟩
  · unfold WatcherSystem.exit at he
    cases hc : x.children[c]? with
    | none => rw [hc] at he; cases he
    | some child =>
      rw [hc] at he
      simp only at he
      split at he
      · cases he
        intro child' hmem
        rcases List.mem_or_eq_of_mem_set hmem with hmem | rfl
        · exact h.clean child' hmem
        · exact h.clean child (List.mem_of_getElem? hc)
      · cases he
  · have hphase := h.phase
    unfold WatcherSystem.exit at he
    cases hc : x.children[c]? with
    | none => rw [hc] at he; cases he
    | some child =>
      rw [hc] at he
      simp only at he
      split at he
      · cases he
        cases ph <;> exact hphase
      · cases he

/-- Deleting a watcher that is off changes nothing. -/
theorem Held.del (hoff : x.Held .off) (h : x.Held ph) : x.del.Held ph := by
  obtain ⟨hs, hp, -⟩ := hoff.phase
  have he : x.del = { x with watcher := { x.watcher with started := false } } := by
    simp only [WatcherSystem.del, hp]
  rw [he]
  refine ⟨h.inv.of_watcher hs.symm rfl rfl, h.clean, ?_⟩
  have hphase := h.phase
  cases ph with
  | off => exact ⟨rfl, hphase.2⟩
  | starting g => exact hphase
  | on => cases hs.symm.trans hphase
  | stopping g => exact hphase

/-! ## Launching -/

/-- While another call stops the watcher, it cannot be started. -/
theorem Held.start_of_stopping (h : x.Held (.stopping g)) : x.start = (x, .raised) := by
  obtain ⟨pos, c, hg, hin⟩ := h.phase
  have hw : x.watcher.started = false ∧ x.watcher.popen = some c := by
    rcases hin with rfl | rfl <;> exact h.inv.greenlets g _ hg
  simp [WatcherSystem.start, hw.1, hw.2]

theorem Held.notLaunching_of_stopping (h : x.Held (.stopping g)) : x.NotLaunching := by
  obtain ⟨pos, c, hg, hin⟩ := h.phase
  have hw : x.watcher.started = false ∧ x.watcher.popen = some c := by
    rcases hin with rfl | rfl <;> exact h.inv.greenlets g _ hg
  intro g' pos' hg'
  rintro (rfl | rfl)
  · cases hw.2.symm.trans (h.inv.greenlets g' _ hg').2
  · cases hw.1.symm.trans (h.inv.greenlets g' _ hg').1

theorem pollTurn_children_length (x : WatcherSystem) (g : Nat) (sees : Bool) (now : Int) :
    (x.pollTurn g sees now).children.length = x.children.length := by
  unfold pollTurn
  simp only
  split
  · rfl
  · split
    · rfl
    · split
      · split <;> rfl
      · split
        · split
          · split
            · exact List.length_modify ..
            · rfl
          · split
            · exact List.length_modify ..
            · rfl
        · rfl

/-- Only a greenlet in `Popen` launches a process. -/
theorem resume_children_length (hl : x.NotLaunching) {wake : Wake} {now : Int} {r : CallResult}
    (hr : x.resume g wake now = some (y, r)) : y.children.length = x.children.length := by
  rcases resume_cases hr with ⟨hg, -⟩ | ⟨c, ret, -, -, rfl, -⟩ | ⟨c, -, rfl, -⟩ |
    ⟨c, ret, -, -, rfl, -⟩ | ⟨c, -, rfl, -⟩ | ⟨-, sees, rfl, -⟩ | ⟨hg, -⟩
  · exact absurd (.inl rfl) (hl g _ hg)
  · unfold stopWaited
    simp only
    split <;> rfl
  · exact List.length_modify ..
  · rfl
  · exact List.length_modify ..
  · exact pollTurn_children_length x g sees now
  · exact absurd (.inr rfl) (hl g _ hg)

theorem exit_children_length {c : Nat} {code : Int} (he : x.exit c code = some y) :
    y.children.length = x.children.length := by
  unfold WatcherSystem.exit at he
  split at he
  · split at he
    · cases he
      exact List.length_set
    · cases he
  · cases he

theorem del_children_length (x : WatcherSystem) : x.del.children.length = x.children.length := by
  unfold WatcherSystem.del
  simp only
  split
  · rfl
  · simp [handOver, kill]

end WatcherSystem

end StreamSwitch
