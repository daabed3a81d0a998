import Mathlib.Data.List.Sublists

/-!
# Lists that may have lost entries

What came through of a list, each entry at most once and in order; and all of it, where nothing
went wrong.
-/

universe u v

/-- `got` is what came of `put`, and as long as `ok` holds it is all of it. -/
def Within {α : Type u} (ok : Prop) (got put : List α) : Prop := got.Sublist put ∧ (ok → got = put)

namespace Within

variable {α : Type u} {β : Type v} {ok ok' : Prop} {got put rest : List α}

theorem refl (ok : Prop) (l : List α) : Within ok l l := ⟨List.Sublist.refl l, fun _ => rfl⟩

theorem mono (h : Within ok got put) (hok : ok' → ok) : Within ok' got put :=
  ⟨h.1, fun hgood => h.2 (hok hgood)⟩

theorem trans (h : Within ok got rest) (h' : Within ok' rest put) (hok : ok' → ok) :
    Within ok' got put :=
  ⟨h.1.trans h'.1, fun hgood => (h.2 (hok hgood)).trans (h'.2 hgood)⟩

/-- Something more is put, and it is there. -/
theorem concat (h : Within ok got put) (x : List α) : Within ok (got ++ x) (put ++ x) :=
  ⟨h.1.append_right x, fun hgood => congrArg (· ++ x) (h.2 hgood)⟩

/-- Something more is put and lost. -/
theorem lost (h : Within ok got put) (x : List α) (hok : ¬ok') : Within ok' got (put ++ x) :=
  ⟨h.1.trans (List.sublist_append_left put x), fun hgood => absurd hgood hok⟩

theorem append (h : Within ok got put) {got' put' : List α} (h' : Within ok got' put') :
    Within ok (got ++ got') (put ++ put') :=
  ⟨h.1.append h'.1, fun hgood => by rw [h.2 hgood, h'.2 hgood]⟩

theorem filterMap (h : Within ok got put) (f : α → Option β) :
    Within ok (got.filterMap f) (put.filterMap f) :=
  ⟨h.1.filterMap f, fun hgood => congrArg _ (h.2 hgood)⟩

theorem filter (h : Within ok got put) (p : α → Bool) : Within ok (got.filter p) (put.filter p) :=
  ⟨h.1.filter p, fun hgood => congrArg _ (h.2 hgood)⟩

theorem map (h : Within ok got put) (f : α → β) : Within ok (got.map f) (put.map f) :=
  ⟨h.1.map f, fun hgood => congrArg _ (h.2 hgood)⟩

/-- The first part of what came through. -/
theorem sublist_left {behind : List α} (h : Within ok (got ++ behind) put) : got.Sublist put :=
  (List.sublist_append_left got behind).trans h.1

theorem prefix_left {behind : List α} (h : Within ok (got ++ behind) put) (hok : ok) : got <+: put :=
  ⟨behind, h.2 hok⟩

end Within
