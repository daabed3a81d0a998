import Mathlib.Tactic.Ring
import Mathlib.Algebra.Order.Ring.Int

/-!
# Seconds and microseconds

A time is a number of seconds and a number of microseconds, as in `struct timeval`,
over the integers. `micros` is what it denotes. `carry limit` is the loop that
moves whole seconds out of the microseconds until these are below `limit`, and
`ofRatio` the truncated time of a fraction of seconds; neither changes the time
denoted by more than the truncation.
-/

namespace Clock

/-- Microseconds in a second. -/
def million : Int := 1000000

structure Stamp where
  sec : Int := 0
  usec : Int := 0
deriving DecidableEq, Repr

namespace Stamp

/-- The time in microseconds. -/
def micros (t : Stamp) : Int := t.sec * million + t.usec

/-- The field-wise sum. -/
def add (t u : Stamp) : Stamp := ⟨t.sec + u.sec, t.usec + u.usec⟩

/-- The field-wise difference. -/
def sub (t u : Stamp) : Stamp := ⟨t.sec - u.sec, t.usec - u.usec⟩

@[simp] theorem micros_add (t u : Stamp) : (t.add u).micros = t.micros + u.micros := by
  simp only [micros, add]
  ring

@[simp] theorem micros_sub (t u : Stamp) : (t.sub u).micros = t.micros - u.micros := by
  simp only [micros, sub]
  ring

/-- `while (usec >= limit) { ++sec; usec -= million; }`. -/
def carry (limit : Int) (t : Stamp) : Stamp :=
  if limit ≤ t.usec then
    let n := (t.usec - limit) / million + 1
    ⟨t.sec + n, t.usec - n * million⟩
  else t

@[simp] theorem micros_carry (limit : Int) (t : Stamp) : (carry limit t).micros = t.micros := by
  unfold carry
  split
  · simp only [micros]
    ring
  · rfl

/-- `num / den` seconds, cut to whole microseconds (C division, towards zero). -/
def ofRatio (num den : Int) : Stamp :=
  ⟨num.tdiv den, (num.tmod den * million).tdiv den⟩

theorem micros_ofRatio {num den : Int} (hn : 0 ≤ num) (hd : 0 < den) :
    (ofRatio num den).micros = num * million / den := by
  have hm : 0 ≤ num % den := Int.emod_nonneg _ (by omega)
  have hmm : 0 ≤ num % den * million := Int.mul_nonneg hm (by decide)
  simp only [ofRatio, micros, Int.tdiv_eq_ediv_of_nonneg hn, Int.tmod_eq_emod_of_nonneg hn,
    Int.tdiv_eq_ediv_of_nonneg hmm]
  have hsplit : num * million = num % den * million + num / den * million * den := by
    conv_lhs => rw [← Int.emod_add_mul_ediv num den]
    ring
  rw [hsplit, Int.add_mul_ediv_right _ _ (by omega)]
  ring

/-- The microseconds are those of one second. -/
def Valid (t : Stamp) : Prop := 0 ≤ t.usec ∧ t.usec < million

/-- Not later, by the seconds and then the microseconds. -/
def Before (t u : Stamp) : Prop := t.sec < u.sec ∨ (t.sec = u.sec ∧ t.usec ≤ u.usec)

instance (t : Stamp) : Decidable t.Valid := inferInstanceAs (Decidable (_ ∧ _))

instance (t u : Stamp) : Decidable (t.Before u) := inferInstanceAs (Decidable (_ ∨ _))

theorem valid_carry {t : Stamp} (h : 0 ≤ t.usec) : (carry million t).Valid := by
  unfold carry Valid
  split
  · dsimp only
    unfold million at *
    omega
  · omega

/-- A loop that goes on only while the microseconds are more than a second leaves a whole second
where the time is one. -/
theorem usec_carry_succ {t : Stamp} (h : 0 < t.usec) :
    0 < (carry (million + 1) t).usec ∧ (carry (million + 1) t).usec ≤ million ∧
      ((carry (million + 1) t).usec = million ↔ t.usec % million = 0) := by
  unfold carry
  split
  · dsimp only
    unfold million at *
    omega
  · unfold million at *
    omega

theorem usec_carry_succ_nonneg {t : Stamp} (h : 0 ≤ t.usec) :
    0 ≤ (carry (million + 1) t).usec ∧ (carry (million + 1) t).usec ≤ million := by
  unfold carry
  split
  · dsimp only
    unfold million at *
    omega
  · unfold million at *
    omega

theorem valid_carry_succ {t : Stamp} (h : 0 < t.usec) :
    (carry (million + 1) t).Valid ↔ t.micros % million ≠ 0 := by
  obtain ⟨hpos, hle, hiff⟩ := usec_carry_succ h
  have hmod : t.micros % million = t.usec % million := by
    unfold micros
    rw [Int.add_comm, Int.add_mul_emod_self_right]
  unfold Valid
  rw [hmod]
  constructor
  · rintro ⟨-, hlt⟩ hz
    exact absurd (hiff.2 hz) (Int.ne_of_lt hlt)
  · intro hz
    exact ⟨hpos.le, lt_of_le_of_ne hle fun heq => hz (hiff.1 heq)⟩

theorem before_of_micros_le {t u : Stamp} (ht : t.Valid) (hu : u.Valid) (h : t.micros ≤ u.micros) :
    t.Before u := by
  unfold Before
  unfold Valid at ht hu
  unfold micros at h
  unfold million at *
  omega

theorem usec_ofRatio_nonneg {num den : Int} (hn : 0 ≤ num) (hd : 0 < den) :
    0 ≤ (ofRatio num den).usec := by
  have hm : 0 ≤ num.tmod den := Int.tmod_nonneg _ hn
  exact Int.tdiv_nonneg (Int.mul_nonneg hm (by decide)) hd.le

end Stamp

end Clock
