import Mathlib.Logic.Basic
import Mathlib.Tactic.Common

/-!
# Sentences and the readers that accept them

A text is what tokens stand in: the places, where a token may stand, how long it is there, and the
state that a reader has at a place. A reader may fail. `Parses T p L` says that `p` succeeds where a
sentence of `L` stands and nowhere else, returns what the sentence means and is behind it then;
`Accepts` says so without the state, for what comes last. Both are put together as sentences are.
-/

namespace Sentences

variable {σ τ ε α β γ : Type}

structure Text (σ τ : Type) where
  /-- The places that a reader may be at. -/
  inside : Nat → Prop
  /-- The state of a reader at a place. -/
  state : Nat → σ
  /-- The token may stand at the place. -/
  fits : Nat → τ → Prop
  size : Nat → τ → Nat
  inside_of_fits : ∀ {i t}, inside i → fits i t → inside (i + size i t)

namespace Text

variable (T : Text σ τ)

/-- Where the tokens end. -/
def stop : Nat → List τ → Nat
  | i, [] => i
  | i, t :: ts => stop (i + T.size i t) ts

/-- The tokens stand one behind another. -/
def Stands : Nat → List τ → Prop
  | _, [] => True
  | i, t :: ts => T.fits i t ∧ Stands (i + T.size i t) ts

@[simp] theorem stop_nil (i : Nat) : T.stop i [] = i := rfl

@[simp] theorem stop_cons (i : Nat) (t : τ) (ts : List τ) :
    T.stop i (t :: ts) = T.stop (i + T.size i t) ts := rfl

@[simp] theorem stands_nil (i : Nat) : T.Stands i [] := trivial

@[simp] theorem stands_cons (i : Nat) (t : τ) (ts : List τ) :
    T.Stands i (t :: ts) ↔ T.fits i t ∧ T.Stands (i + T.size i t) ts := Iff.rfl

@[simp] theorem stop_append (i : Nat) (xs ys : List τ) :
    T.stop i (xs ++ ys) = T.stop (T.stop i xs) ys := by
  induction xs generalizing i with
  | nil => rfl
  | cons t ts ih => exact ih _

@[simp] theorem stands_append (i : Nat) (xs ys : List τ) :
    T.Stands i (xs ++ ys) ↔ T.Stands i xs ∧ T.Stands (T.stop i xs) ys := by
  induction xs generalizing i with
  | nil => simp
  | cons t ts ih => rw [List.cons_append, stands_cons, stands_cons, ih, stop_cons, and_assoc]

variable {T}

theorem Stands.inside {i : Nat} {ts : List τ} (h : T.Stands i ts) (hi : T.inside i) :
    T.inside (T.stop i ts) := by
  induction ts generalizing i with
  | nil => exact hi
  | cons t ts ih => exact ih h.2 (T.inside_of_fits hi h.1)

end Text

/-- A computation on a state that may fail. -/
abbrev Reader (σ ε : Type) := StateT σ (Except ε)

/-- Sentences, each with what it means. -/
abbrev Language (τ α : Type) := List τ → α → Prop

/-- The sentences of `L`, each with one of `M` behind it. -/
def Language.seq (L : Language τ α) (M : α → Language τ β) : Language τ β :=
  fun ts b => ∃ xs ys a, L xs a ∧ M a ys b ∧ ts = xs ++ ys

/-- `p` succeeds where a sentence of `L` stands, and is behind it then. -/
def Parses (T : Text σ τ) (p : Reader σ ε α) (L : Language τ α) : Prop :=
  ∀ i, T.inside i → ∀ a s, p (T.state i) = .ok (a, s) ↔
    ∃ ts, L ts a ∧ T.Stands i ts ∧ s = T.state (T.stop i ts)

/-- `p` succeeds where a sentence of `L` stands. -/
def Accepts (T : Text σ τ) (p : Reader σ ε α) (L : Language τ α) : Prop :=
  ∀ i, T.inside i → ∀ a, (∃ s, p (T.state i) = .ok (a, s)) ↔ ∃ ts, L ts a ∧ T.Stands i ts

variable {T : Text σ τ} {p : Reader σ ε α} {q : α → Reader σ ε β} {L L' : Language τ α}
  {M : α → Language τ β}

theorem except_bind_eq_ok {x : Except ε α} {f : α → Except ε β} {b : β} :
    (x >>= f) = .ok b ↔ ∃ a, x = .ok a ∧ f a = .ok b := by
  cases x with
  | error e =>
    refine iff_of_false (fun h => by cases h) ?_
    rintro ⟨a, h, -⟩
    cases h
  | ok a =>
    constructor
    · exact fun h => ⟨a, rfl, h⟩
    · rintro ⟨a', h, hf⟩
      cases h
      exact hf

theorem bind_eq_ok {s s' : σ} {b : β} : (p >>= q) s = .ok (b, s') ↔
    ∃ a t, p s = .ok (a, t) ∧ q a t = .ok (b, s') := by
  refine (except_bind_eq_ok (x := p s) (f := fun r => q r.1 r.2)).trans ?_
  constructor
  · rintro ⟨r, h1, h2⟩
    exact ⟨r.1, r.2, h1, h2⟩
  · rintro ⟨a, t, h1, h2⟩
    exact ⟨(a, t), h1, h2⟩

namespace Parses

theorem congr (h : Parses T p L) (hL : ∀ ts a, L ts a ↔ L' ts a) : Parses T p L' := by
  intro i hi a s
  rw [h i hi a s]
  exact exists_congr fun ts => and_congr_left' (hL ts a)

/-- Only the states at places matter. -/
theorem of_eq {p' : Reader σ ε α} (h : Parses T p' L) (hp : ∀ i, p (T.state i) = p' (T.state i)) :
    Parses T p L := by
  intro i hi a s
  rw [hp i]
  exact h i hi a s

/-- A reader of one token. -/
theorem token {R : τ → α → Prop} (h : ∀ i, T.inside i → ∀ a s, p (T.state i) = .ok (a, s) ↔
    ∃ t, R t a ∧ T.fits i t ∧ s = T.state (i + T.size i t)) :
    Parses T p fun ts a => ∃ t, R t a ∧ ts = [t] := by
  intro i hi a s
  rw [h i hi a s]
  constructor
  · rintro ⟨t, ht, hfits, rfl⟩
    exact ⟨[t], ⟨t, ht, rfl⟩, ⟨hfits, trivial⟩, rfl⟩
  · rintro ⟨_, ⟨t, ht, rfl⟩, ⟨hfits, -⟩, rfl⟩
    exact ⟨t, ht, hfits, rfl⟩

theorem pure (a : α) : Parses T (pure a : Reader σ ε α) fun ts b => ts = [] ∧ b = a := by
  intro i _ b s
  constructor
  · intro h
    cases h
    exact ⟨[], ⟨rfl, rfl⟩, trivial, rfl⟩
  · rintro ⟨ts, ⟨rfl, rfl⟩, -, rfl⟩
    rfl

theorem bind (hp : Parses T p L) (hq : ∀ a, Parses T (q a) (M a)) :
    Parses T (p >>= q) (L.seq M) := by
  intro i hi b s
  rw [bind_eq_ok]
  constructor
  · rintro ⟨a, t, h1, h2⟩
    obtain ⟨xs, hxs, hat, rfl⟩ := (hp i hi a t).1 h1
    obtain ⟨ys, hys, hat', rfl⟩ := (hq a _ (hat.inside hi) b s).1 h2
    exact ⟨xs ++ ys, ⟨xs, ys, a, hxs, hys, rfl⟩, (T.stands_append ..).2 ⟨hat, hat'⟩,
      by rw [T.stop_append]⟩
  · rintro ⟨_, ⟨xs, ys, a, hxs, hys, rfl⟩, hat, rfl⟩
    obtain ⟨h1, h2⟩ := (T.stands_append ..).1 hat
    refine ⟨a, T.state (T.stop i xs), (hp i hi a _).2 ⟨xs, hxs, h1, rfl⟩, ?_⟩
    exact (hq a _ (h1.inside hi) b _).2 ⟨ys, hys, h2, by rw [T.stop_append]⟩

theorem ite {p q : Reader σ ε α} (c : Prop) [Decidable c] (hp : Parses T p L)
    (hq : Parses T q L') :
    Parses T (if c then p else q) fun ts a => if c then L ts a else L' ts a := by
  by_cases hc : c
  · simpa only [if_pos hc] using hp
  · simpa only [if_neg hc] using hq

/-- What is read of a list is a list of sentences. -/
theorem forM {ι κ : Type} {p : ι → Reader σ ε Unit} {R : ι → κ → Prop} {toks : κ → List τ}
    (h : ∀ x, Parses T (p x) fun ts _ => ∃ y, R x y ∧ ts = toks y) (xs : List ι) :
    Parses T (xs.forM p) fun ts _ => ∃ ys, List.Forall₂ R xs ys ∧ ts = ys.flatMap toks := by
  induction xs with
  | nil =>
    refine (Parses.pure ()).congr fun ts a => ?_
    constructor
    · rintro ⟨rfl, -⟩
      exact ⟨[], .nil, rfl⟩
    · rintro ⟨ys, hys, rfl⟩
      cases hys
      exact ⟨rfl, rfl⟩
  | cons x xs ih =>
    refine ((h x).bind fun _ => ih).congr fun ts a => ?_
    constructor
    · rintro ⟨_, _, _, ⟨y, hy, rfl⟩, ⟨ys, hys, rfl⟩, rfl⟩
      exact ⟨y :: ys, .cons hy hys, rfl⟩
    · rintro ⟨_, hys, rfl⟩
      cases hys with
      | cons hy hys => exact ⟨_, _, (), ⟨_, hy, rfl⟩, ⟨_, hys, rfl⟩, rfl⟩

/-! ### What has no meaning -/

section Parts

variable {r r' : Reader σ ε Unit} {g : Reader σ ε β} {toks toks' : List τ} {κ : Type}
  {f : κ → List τ}

/-- Behind what has no meaning, the rest says what is meant. -/
theorem andThen {q : Reader σ ε β} {M : Language τ β} (hr : Parses T r fun ts _ => ts = toks)
    (hq : Parses T q M) : Parses T (r >>= fun _ => q) fun ts b => ∃ ys, M ys b ∧ ts = toks ++ ys := by
  refine (hr.bind fun _ => hq).congr fun ts b => ?_
  constructor
  · rintro ⟨_, ys, _, rfl, hys, rfl⟩
    exact ⟨ys, hys, rfl⟩
  · rintro ⟨ys, hys, rfl⟩
    exact ⟨_, ys, (), rfl, hys, rfl⟩

theorem both (hr : Parses T r fun ts _ => ts = toks) (hr' : Parses T r' fun ts _ => ts = toks') :
    Parses T (r >>= fun _ => r') fun ts _ => ts = toks ++ toks' := by
  refine (hr.andThen hr').congr fun ts _ => ?_
  constructor
  · rintro ⟨_, rfl, rfl⟩
    rfl
  · rintro rfl
    exact ⟨_, rfl, rfl⟩

theorem andOne (hr : Parses T r fun ts _ => ts = toks)
    (hr' : Parses T r' fun ts _ => ∃ k, ts = f k) :
    Parses T (r >>= fun _ => r') fun ts _ => ∃ k, ts = toks ++ f k := by
  refine (hr.andThen hr').congr fun ts _ => ?_
  constructor
  · rintro ⟨_, ⟨k, rfl⟩, rfl⟩
    exact ⟨k, rfl⟩
  · rintro ⟨k, rfl⟩
    exact ⟨_, ⟨k, rfl⟩, rfl⟩

variable {P : κ → Prop} {flag : Bool → List τ} {val : Bool → β} {isSet : β → Prop}
  [DecidablePred isSet]

/-- A part that is there if a flag is set. -/
theorem optional (hg : Parses T g fun ts a => ∃ b, ts = flag b ∧ a = val b)
    (hset : ∀ b, isSet (val b) ↔ b = true) (hr : Parses T r fun ts _ => ∃ k, P k ∧ ts = f k) :
    Parses T (g >>= fun a => if isSet a then r else Pure.pure ()) fun ts _ =>
      ∃ o : Option κ, (∀ k, o = some k → P k) ∧ ts = o.elim (flag false) (flag true ++ f ·) := by
  refine (hg.bind fun a => hr.ite (isSet a) (Parses.pure ())).congr fun ts a => ?_
  have hfalse : ¬ isSet (val false) := fun h => by cases (hset false).1 h
  have htrue : isSet (val true) := (hset true).2 rfl
  constructor
  · rintro ⟨_, ys, _, ⟨b, rfl, rfl⟩, hys, rfl⟩
    cases b with
    | false =>
      rw [if_neg hfalse] at hys
      obtain ⟨rfl, -⟩ := hys
      refine ⟨none, ?_, List.append_nil _⟩
      rintro _ ⟨⟩
    | true =>
      rw [if_pos htrue] at hys
      obtain ⟨k, hk, rfl⟩ := hys
      refine ⟨some k, ?_, rfl⟩
      rintro _ ⟨⟩
      exact hk
  · rintro ⟨o, ho, rfl⟩
    cases o with
    | none =>
      refine ⟨_, [], _, ⟨false, rfl, rfl⟩, ?_, (List.append_nil _).symm⟩
      simp only [if_neg hfalse]
      trivial
    | some k =>
      refine ⟨_, f k, _, ⟨true, rfl, rfl⟩, ?_, rfl⟩
      simp only [if_pos htrue]
      exact ⟨k, ho k rfl, rfl⟩

/-- The same of a part without a meaning. -/
theorem whenSet (hg : Parses T g fun ts a => ∃ b, ts = flag b ∧ a = val b)
    (hset : ∀ b, isSet (val b) ↔ b = true) (hr : Parses T r fun ts _ => ts = toks) :
    Parses T (g >>= fun a => if isSet a then r else Pure.pure ()) fun ts _ =>
      ∃ b : Bool, ts = flag b ++ if b then toks else [] := by
  have hpart : Parses T r fun ts _ => ∃ k : Unit, True ∧ ts = toks := by
    refine hr.congr fun ts _ => ?_
    rw [exists_const, true_and]
  refine (optional hg hset hpart).congr fun ts _ => ?_
  constructor
  · rintro ⟨o, -, rfl⟩
    cases o with
    | none => exact ⟨false, (List.append_nil _).symm⟩
    | some _ => exact ⟨true, rfl⟩
  · rintro ⟨b, rfl⟩
    cases b with
    | false => exact ⟨none, fun _ _ => trivial, List.append_nil _⟩
    | true => exact ⟨some (), fun _ _ => trivial, rfl⟩

end Parts

/-- A reader that always fails accepts nothing. -/
theorem never (h : ∀ i, ∃ e, p (T.state i) = .error e) : Parses T p fun _ _ => False := by
  intro i _ a s
  obtain ⟨e, he⟩ := h i
  rw [he]
  refine iff_of_false (fun h => by cases h) ?_
  rintro ⟨ts, h, -⟩
  exact h

theorem accepts (h : Parses T p L) : Accepts T p L := by
  intro i hi a
  simp only [h i hi a]
  constructor
  · rintro ⟨s, ts, hts, hat, -⟩
    exact ⟨ts, hts, hat⟩
  · rintro ⟨ts, hts, hat⟩
    exact ⟨_, ts, hts, hat, rfl⟩

end Parses

end Sentences
