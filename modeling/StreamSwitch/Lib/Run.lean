import Mathlib.Tactic.Common
import Mathlib.Data.List.Forall2

/-!
# Runs of a partial step function

A component is a state type `σ`, an event type `ε` and `step : σ → ε → Option σ`;
`none` means the event cannot happen in that state (or does not return).
`exec` runs a list of events. `Each Q` says that `Q` holds at every step a run
takes. The two rules every development here rests on are `exec_inv` (what each
step keeps, a run keeps) and `each_iff` (two step properties that agree on an
invariant agree along every run).
-/

namespace Run

universe u v

variable {σ : Type u} {ε : Type v} {step : σ → ε → Option σ}

/-- The state after the events `es`; `none` once a step is not possible. -/
def exec (step : σ → ε → Option σ) : σ → List ε → Option σ
  | s, [] => some s
  | s, e :: es => (step s e).bind fun s' => exec step s' es

/-- `Q` holds at every step that the run of `es` from `s` takes. -/
def Each (step : σ → ε → Option σ) (Q : σ → ε → Prop) : σ → List ε → Prop
  | _, [] => True
  | s, e :: es => Q s e ∧ ∀ s', step s e = some s' → Each step Q s' es

@[simp] theorem exec_nil (s : σ) : exec step s [] = some s := rfl

theorem exec_cons (s : σ) (e : ε) (es : List ε) :
    exec step s (e :: es) = (step s e).bind fun s' => exec step s' es := rfl

theorem exec_cons_some {s t : σ} {e : ε} {es : List ε} :
    exec step s (e :: es) = some t ↔ ∃ s', step s e = some s' ∧ exec step s' es = some t := by
  rw [exec_cons, Option.bind_eq_some_iff]

theorem exec_append (s : σ) (es es' : List ε) :
    exec step s (es ++ es') = (exec step s es).bind fun t => exec step t es' := by
  induction es generalizing s with
  | nil => rfl
  | cons e es ih =>
    rw [List.cons_append, exec_cons, exec_cons, Option.bind_assoc]
    exact congrArg _ (funext ih)

/-- The first step of a run is possible and has the property. -/
theorem Each.cons {Q : σ → ε → Prop} {s s' : σ} {e : ε} {es : List ε} (he : step s e = some s')
    (hq : Q s e) (h : Each step Q s' es) : Each step Q s (e :: es) := by
  refine ⟨hq, fun t ht => ?_⟩
  rw [he] at ht
  cases ht
  exact h

/-- Every event of a run has what all its events have. -/
theorem Each.of_forall_mem {P : ε → Prop} {s : σ} {es : List ε} (h : ∀ e ∈ es, P e) :
    Each step (fun _ e => P e) s es := by
  induction es generalizing s with
  | nil => trivial
  | cons e es ih => exact ⟨h e (.head _), fun _ _ => ih fun e he => h e (.tail _ he)⟩

theorem Each.and {Q R : σ → ε → Prop} {s : σ} {es : List ε} (hq : Each step Q s es)
    (hr : Each step R s es) : Each step (fun s e => Q s e ∧ R s e) s es := by
  induction es generalizing s with
  | nil => trivial
  | cons e es ih =>
    exact ⟨⟨hq.1, hr.1⟩, fun s' he => ih (hq.2 s' he) (hr.2 s' he)⟩

theorem Each.mono {Q R : σ → ε → Prop} {s : σ} {es : List ε} (hq : Each step Q s es)
    (h : ∀ s e, Q s e → R s e) : Each step R s es := by
  induction es generalizing s with
  | nil => trivial
  | cons e es ih => exact ⟨h s e hq.1, fun s' he => ih (hq.2 s' he)⟩

/-- The part of a run after its first events. -/
theorem Each.drop {Q : σ → ε → Prop} {s t : σ} {es es' : List ε}
    (h : Each step Q s (es ++ es')) (ht : exec step s es = some t) : Each step Q t es' := by
  induction es generalizing s with
  | nil =>
    cases ht
    exact h
  | cons e es ih =>
    obtain ⟨s', he, hs'⟩ := exec_cons_some.1 ht
    exact ih (h.2 s' he) hs'

/-- The first part of a run. -/
theorem Each.append_left {Q : σ → ε → Prop} {s : σ} {es es' : List ε}
    (h : Each step Q s (es ++ es')) : Each step Q s es := by
  induction es generalizing s with
  | nil => trivial
  | cons e es ih => exact ⟨h.1, fun s' he => ih (h.2 s' he)⟩

/-- What every step keeps, a run keeps. -/
theorem exec_inv {Inv : σ → Prop} (hstep : ∀ s e s', Inv s → step s e = some s' → Inv s')
    {s t : σ} {es : List ε} (h : exec step s es = some t) (hs : Inv s) : Inv t := by
  induction es generalizing s with
  | nil => cases h; exact hs
  | cons e es ih =>
    obtain ⟨s', h1, h2⟩ := exec_cons_some.1 h
    exact ih h2 (hstep s e s' hs h1)

/-- A step property that follows from the invariant and the condition holds along every run
whose steps meet the condition. -/
theorem each_of_inv {Inv : σ → Prop} {C Q : σ → ε → Prop}
    (hstep : ∀ s e s', Inv s → C s e → step s e = some s' → Inv s')
    (hQ : ∀ s e, Inv s → C s e → Q s e)
    {s : σ} {es : List ε} (hC : Each step C s es) (hs : Inv s) : Each step Q s es := by
  induction es generalizing s with
  | nil => trivial
  | cons e es ih =>
    exact ⟨hQ s e hs hC.1, fun s' h => ih (hC.2 s' h) (hstep s e s' hs hC.1 h)⟩

/-- A step property that follows from an invariant holds along every run. -/
theorem each_inv {Inv : σ → Prop} {Q : σ → ε → Prop}
    (hstep : ∀ s e s', Inv s → step s e = some s' → Inv s') (hQ : ∀ s e, Inv s → Q s e)
    (es : List ε) {s : σ} (hs : Inv s) : Each step Q s es := by
  induction es generalizing s with
  | nil => trivial
  | cons e es ih => exact ⟨hQ s e hs, fun s' h => ih (hstep s e s' hs h)⟩

/-- Two step properties that agree on the invariant agree along every run. -/
theorem each_iff {Inv : σ → Prop} {C Q : σ → ε → Prop}
    (hstep : ∀ s e s', Inv s → C s e → step s e = some s' → Inv s')
    (hQC : ∀ s e, Inv s → (Q s e ↔ C s e))
    {s : σ} {es : List ε} (hs : Inv s) : Each step Q s es ↔ Each step C s es := by
  constructor
  · intro h
    exact each_of_inv (fun s e s' hi hq => hstep s e s' hi ((hQC s e hi).1 hq))
      (fun s e hi hq => (hQC s e hi).1 hq) h hs
  · intro h
    exact each_of_inv hstep (fun s e hi hc => (hQC s e hi).2 hc) h hs

/-- The same for a run that comes to its end: then every step of it is possible. -/
theorem each_iff_of_exec {Inv : σ → Prop} {C Q : σ → ε → Prop}
    (hstep : ∀ s e s', Inv s → C s e → step s e = some s' → Inv s')
    (hQC : ∀ s e s', Inv s → step s e = some s' → (Q s e ↔ C s e))
    {s t : σ} {es : List ε} (ht : exec step s es = some t) (hs : Inv s) :
    Each step Q s es ↔ Each step C s es := by
  induction es generalizing s with
  | nil => exact Iff.rfl
  | cons e es ih =>
    obtain ⟨s', he, ht'⟩ := exec_cons_some.1 ht
    have hiff := hQC s e s' hs he
    constructor
    · intro h
      have hc := hiff.1 h.1
      exact .cons he hc ((ih ht' (hstep s e s' hs hc he)).1 (h.2 s' he))
    · intro h
      exact .cons he (hiff.2 h.1) ((ih ht' (hstep s e s' hs h.1 he)).2 (h.2 s' he))

/-- Where every step is possible, keeps the invariant and has a property, runs are. -/
theorem exec_total {Inv : σ → Prop} {Q : σ → ε → Prop}
    (hstep : ∀ s e, Inv s → ∃ s', step s e = some s' ∧ Inv s' ∧ Q s e)
    (es : List ε) {s : σ} (hs : Inv s) :
    ∃ t, exec step s es = some t ∧ Inv t ∧ Each step Q s es := by
  induction es generalizing s with
  | nil => exact ⟨s, rfl, hs, trivial⟩
  | cons e es ih =>
    obtain ⟨s', he, h1, hq⟩ := hstep s e hs
    obtain ⟨t, hr, ht, heach⟩ := ih h1
    refine ⟨t, exec_cons_some.2 ⟨s', he, hr⟩, ht, hq, ?_⟩
    intro s'' he'
    rw [he] at he'
    cases he'
    exact heach

/-! ## What a run puts out -/

section collect
variable {α β : Type u}

/-- The outputs `out` of the steps of a run, in order. -/
def collect (step : σ → ε → Option σ) (out : σ → ε → List α) : σ → List ε → List α
  | _, [] => []
  | s, e :: es => out s e ++ (step s e).elim [] fun s' => collect step out s' es

/-- Outputs that are related at every step are related along the run. -/
theorem forall₂_collect {R : α → β → Prop} {f : σ → ε → List α} {g : σ → ε → List β} {s : σ}
    {es : List ε} (h : Each step (fun s e => List.Forall₂ R (f s e) (g s e)) s es) :
    List.Forall₂ R (collect step f s es) (collect step g s es) := by
  induction es generalizing s with
  | nil => exact .nil
  | cons e es ih =>
    refine List.rel_append h.1 ?_
    cases he : step s e with
    | none => exact .nil
    | some s' => exact ih (h.2 s' he)

/-- What the outputs of every step have under an invariant, those of a run have. -/
theorem mem_collect_of_inv {Inv : σ → Prop} {P : α → Prop} {out : σ → ε → List α}
    (hstep : ∀ s e s', Inv s → step s e = some s' → Inv s')
    (hout : ∀ s e, Inv s → ∀ x ∈ out s e, P x)
    {s : σ} (es : List ε) (hs : Inv s) : ∀ x ∈ collect step out s es, P x := by
  induction es generalizing s with
  | nil => simp [collect]
  | cons e es ih =>
    intro x hx
    rcases List.mem_append.1 hx with hx | hx
    · exact hout s e hs x hx
    · cases he : step s e with
      | none => simp [he] at hx
      | some s' =>
        rw [he] at hx
        exact ih (hstep s e s' hs he) x hx

/-- An output of a run is one of some step. -/
theorem exists_of_mem_collect {out : σ → ε → List α} {s : σ} {es : List ε} {x : α}
    (h : x ∈ collect step out s es) : ∃ t e, x ∈ out t e := by
  induction es generalizing s with
  | nil => cases h
  | cons e es ih =>
    rcases List.mem_append.1 h with h | h
    · exact ⟨s, e, h⟩
    · cases he : step s e with
      | none => simp [he] at h
      | some s' =>
        rw [he] at h
        exact ih h

theorem collect_append (out : σ → ε → List α) (s : σ) (es es' : List ε) :
    collect step out s (es ++ es') =
      collect step out s es ++ (exec step s es).elim [] fun t => collect step out t es' := by
  induction es generalizing s with
  | nil => rfl
  | cons e es ih =>
    rw [List.cons_append, collect, collect, exec_cons, List.append_assoc]
    cases step s e with
    | none => rfl
    | some s' => exact congrArg _ (ih s')

/-- Outputs in order: `Later s` is what may still come out after `s`, and an output comes before all
that is later than the state behind it. -/
theorem pairwise_collect {Inv : σ → Prop} {C : σ → ε → Prop} {R : α → α → Prop}
    {Later : σ → α → Prop} {out : σ → ε → List α}
    (hstep : ∀ s e, Inv s → C s e → ∃ s', step s e = some s' ∧ Inv s' ∧
      (∀ x, Later s' x → Later s x) ∧ (out s e).Pairwise R ∧
      ∀ x ∈ out s e, Later s x ∧ ∀ y, Later s' y → R x y)
    {s : σ} {es : List ε} (hC : Each step C s es) (hs : Inv s) :
    (collect step out s es).Pairwise R ∧ ∀ x ∈ collect step out s es, Later s x := by
  induction es generalizing s with
  | nil => exact ⟨.nil, nofun⟩
  | cons e es ih =>
    obtain ⟨s', he, hs', hlater, hpair, hout⟩ := hstep s e hs hC.1
    obtain ⟨hrest, hrest'⟩ := ih (hC.2 s' he) hs'
    unfold collect
    rw [he, Option.elim_some]
    refine ⟨List.pairwise_append.2 ⟨hpair, hrest, fun x hx y hy => ?_⟩, fun x hx => ?_⟩
    · exact (hout x hx).2 y (hrest' y hy)
    · rcases List.mem_append.1 hx with hx | hx
      · exact (hout x hx).1
      · exact hlater x (hrest' x hx)

theorem flatMap_collect (out : σ → ε → List α) (f : α → List β) (s : σ) (es : List ε) :
    (collect step out s es).flatMap f = collect step (fun s e => (out s e).flatMap f) s es := by
  induction es generalizing s with
  | nil => rfl
  | cons e es ih =>
    unfold collect
    rw [List.flatMap_append]
    cases step s e with
    | none => rfl
    | some s' => exact congrArg _ (ih s')

/-- A store whose steps may lose but make nothing: what comes out was in it or was put in, each
once and in order. -/
theorem exec_sublist {content : σ → List α} {put got : σ → ε → List α}
    (hstep : ∀ s e, ∃ s', step s e = some s' ∧
      (got s e ++ content s').Sublist (content s ++ put s e))
    (s : σ) (es : List ε) :
    (collect step got s es).Sublist (content s ++ collect step put s es) := by
  induction es generalizing s with
  | nil => exact List.nil_sublist _
  | cons e es ih =>
    obtain ⟨s', he, hput⟩ := hstep s e
    simp only [collect, he, Option.elim_some]
    rw [← List.append_assoc]
    refine ((ih s').append_left _).trans ?_
    rw [← List.append_assoc]
    exact hput.append_right _

/-- A store whose steps lose and make nothing: what was in it and what is put in comes out, in
order, or is in it at the end. -/
theorem exec_conserved {Inv : σ → Prop} {C : σ → ε → Prop} {content : σ → List α}
    {put got : σ → ε → List α}
    (hstep : ∀ s e, Inv s → C s e →
      ∃ s', step s e = some s' ∧ Inv s' ∧ content s ++ put s e = got s e ++ content s')
    {s : σ} {es : List ε} (hC : Each step C s es) (hs : Inv s) :
    ∃ t, exec step s es = some t ∧ Inv t ∧
      content s ++ collect step put s es = collect step got s es ++ content t := by
  induction es generalizing s with
  | nil => exact ⟨s, rfl, hs, by simp [collect]⟩
  | cons e es ih =>
    obtain ⟨s', he, hs', hput⟩ := hstep s e hs hC.1
    obtain ⟨t, ht, hinv, hrun⟩ := ih (hC.2 s' he) hs'
    refine ⟨t, exec_cons_some.2 ⟨s', he, ht⟩, hinv, ?_⟩
    simp only [collect, he, Option.elim_some]
    rw [← List.append_assoc, hput, List.append_assoc, hrun, List.append_assoc]

end collect

/-! ## Refinement -/

section refines
variable {τ : Type u} {δ : Type v}

/-- Each step is, under `abs`, a step of `step'` or none. -/
def Refines (step : σ → ε → Option σ) (step' : τ → δ → Option τ) (abs : σ → τ) : Prop :=
  ∀ s e s', step s e = some s' → abs s' = abs s ∨ ∃ a, step' (abs s) a = some (abs s')

/-- What the abstract steps keep, the concrete ones keep. -/
theorem Refines.inv {step' : τ → δ → Option τ} {abs : σ → τ} (h : Refines step step' abs)
    {Inv : τ → Prop} (hstep : ∀ t a t', Inv t → step' t a = some t' → Inv t')
    {s s' : σ} {e : ε} (hs : Inv (abs s)) (he : step s e = some s') : Inv (abs s') := by
  rcases h s e s' he with heq | ⟨a, ha⟩
  · rw [heq]
    exact hs
  · exact hstep _ a _ hs ha

end refines

end Run
