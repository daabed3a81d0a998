import Mathlib.Data.List.Infix

/-!
# First occurrences

Where a word first occurs in a text. `List.dropInfix?` gives what is before and behind it. A word
none of whose ends is its beginning does not overlap itself, so that it first occurs behind every
text without it.
-/

namespace StreamSwitch

namespace Search

variable {α : Type*} {w text before behind : List α}

/-- No end of the word is a beginning of it. -/
def Borderless (w : List α) : Prop := ∀ k, k < w.length → 0 < k → ¬ w.drop k <+: w

instance [DecidableEq α] : Decidable (Borderless w) :=
  inferInstanceAs (Decidable (∀ k, k < w.length → 0 < k → ¬ w.drop k <+: w))

/-- Behind a text without it, a borderless word does not occur before its own end. -/
theorem not_infix_append (hw : Borderless w) (h : ¬ w <:+: before) :
    ¬ w <:+: before ++ w.dropLast := by
  have hpos : 0 < w.length := by
    rw [List.length_pos_iff]
    rintro rfl
    exact h (List.nil_infix)
  rintro ⟨p, s, heq⟩
  have hlen := congrArg List.length heq
  simp only [List.length_append, List.length_dropLast] at hlen
  rw [List.append_assoc] at heq
  rcases List.append_eq_append_iff.1 heq with ⟨u, hbefore, hword⟩ | ⟨u, hp, -⟩
  · -- The occurrence begins in the text: it ends there, or its end is a beginning of the word.
    rcases List.append_eq_append_iff.1 hword with ⟨v, hu, -⟩ | ⟨v, hcut, hlast⟩
    · exact h ⟨p, v, by rw [hbefore, hu, List.append_assoc]⟩
    · have hdrop : w.drop u.length = v := by
        conv_lhs => rw [hcut]
        rw [List.drop_left]
      have hcut' := congrArg List.length hcut
      have hlast' := congrArg List.length hlast
      simp only [List.length_append, List.length_dropLast] at hcut' hlast'
      by_cases hv : v = []
      · rw [hv, List.append_nil] at hcut
        exact h ⟨p, [], by rw [hbefore, hcut, List.append_nil]⟩
      · have hvpos := List.length_pos_iff.2 hv
        have hbegin : v <+: w :=
          (show v <+: w.dropLast from ⟨s, hlast.symm⟩).trans (List.dropLast_prefix w)
        exact hw u.length (by omega) (by omega) (hdrop.symm ▸ hbegin)
  · have := congrArg List.length hp
    simp only [List.length_append] at this
    omega

variable [BEq α] [LawfulBEq α]

theorem dropInfix?_append (hw : w ≠ []) (h : ¬ w <:+: before ++ w.dropLast) :
    (before ++ w ++ behind).dropInfix? w = some (before, behind) := by
  rw [List.dropInfix?_eq_some_iff]
  refine ⟨⟨w, rfl, beq_self_eq_true w⟩, fun p v s heq hv => ?_⟩
  obtain rfl := eq_of_beq hv
  by_contra hlt
  apply h
  -- The earlier occurrence ends before the last letter of this one.
  have hpos := List.length_pos_iff.2 hw
  have hp : p ++ v <+: before ++ v ++ behind := ⟨s, heq.symm⟩
  have hb : before ++ v.dropLast <+: before ++ v ++ behind :=
    ((List.prefix_append_right_inj before).2 (List.dropLast_prefix v)).trans (List.prefix_append _ _)
  have hinside : p ++ v <+: before ++ v.dropLast := by
    refine List.prefix_of_prefix_length_le hp hb ?_
    simp only [List.length_append, List.length_dropLast]
    omega
  exact (List.suffix_append p v).isInfix.trans hinside.isInfix

theorem dropInfix?_of_not_infix (h : ¬ w <:+: text) : text.dropInfix? w = none := by
  rw [Option.eq_none_iff_forall_ne_some]
  rintro ⟨p, s⟩ hsome
  obtain ⟨⟨v, htext, hv⟩, -⟩ := List.dropInfix?_eq_some_iff.1 hsome
  obtain rfl := eq_of_beq hv
  exact h ⟨p, s, htext.symm⟩

/-- What is before the first occurrence of a letter. -/
theorem dropInfix?_letter {a : α} (h : a ∉ before) :
    (before ++ a :: behind).dropInfix? [a] = some (before, behind) := by
  have hno : ¬ [a] <:+: before ++ [a].dropLast := by
    rw [List.dropLast_singleton, List.append_nil]
    exact fun hin => h (hin.subset (List.mem_singleton_self a))
  have hfirst : (before ++ [a] ++ behind).dropInfix? [a] = some (before, behind) :=
    dropInfix?_append (List.cons_ne_nil a []) hno
  rwa [List.append_assoc, List.singleton_append] at hfirst

theorem dropInfix?_no_letter {a : α} (h : a ∉ text) : text.dropInfix? [a] = none :=
  dropInfix?_of_not_infix fun hin => h (hin.subset (List.mem_singleton_self a))

end Search

end StreamSwitch
