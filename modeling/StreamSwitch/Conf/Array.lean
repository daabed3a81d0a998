import Mathlib.Data.List.InsertIdx
import Mathlib.Data.List.Pairwise
import StreamSwitch.CString
import StreamSwitch.Conf.Caseless
import StreamSwitch.Lib.Halving

/-!
# The arrays of the configuration

`conf/array.c`: elements are kept in the order in which they came, and an index of them is kept sorted
by their keys. `array_get_index` looks a key up in the index by steps that are halved from the largest
power of two on.

`run_eq_plain`: on the keys of a charset, an array does what a list does that is searched from the
front. The stack of contexts that the parser keeps in an array is popped with `array_pop`, which leaves
the index as it is: that is right as long as the element popped is the greatest.
-/

namespace StreamSwitch

namespace Conf

/-! ## The code -/

/-- `data_unset`: the bytes of the key with the NUL at its end, none for a key that is not set, and
what the type of the element adds. -/
structure DataUnset (α : Type) where
  key : Bytes
  isIndexKey : Bool
  value : α
deriving DecidableEq, Repr

/-- What `type` and `insert_dup` of the elements do; `insertDup` is given the element in the array and
the one to be inserted. -/
structure Methods (α : Type) where
  τ : Type
  type : α → τ
  decEq : DecidableEq τ
  insertDup : α → α → α

structure ConfArray (α : Type) where
  data : List (Option (DataUnset α)) := []
  /-- The slots that have been written. -/
  sorted : List Nat := []
  used : Nat := 0
  size : Nat := 0
  uniqueNdx : Nat := 0
  nextPowerOf2 : Nat := 1
deriving DecidableEq, Repr

inductive Fault
  /-- A null pointer is read. -/
  | null
  /-- Memory outside an allocation is read or written. -/
  | outside
  /-- An assertion fails. -/
  | assertion
deriving DecidableEq, Repr

def intMax : Nat := 2 ^ 31 - 1

variable {α : Type}

def ConfArray.at (a : ConfArray α) (ndx : Nat) : Except Fault (DataUnset α) :=
  match a.data[ndx]? with
  | none => .error .outside
  | some none => .error .null
  | some (some du) => .ok du

/-- `a->sorted[pos]`. -/
def ConfArray.sortedAt (a : ConfArray α) (pos : Nat) : Except Fault Nat :=
  match a.sorted[pos]? with
  | none => .error .outside
  | some ndx => .ok ndx

/-- The comparison with `a->data[a->sorted[pos]]->key`. -/
def ConfArray.probe (a : ConfArray α) (aligned : Bool) (key : Bytes) (pos : Nat) :
    Except Fault Ordering := do
  let ndx ← a.sortedAt pos
  let du ← a.at ndx
  return order aligned key du.key

/-- `array_get_index`: the index, none for -1, and the position. -/
def arrayGetIndex (a : ConfArray α) (aligned : Bool) (key : Bytes) :
    Except Fault (Option Nat × Int) := do
  if key = [] then return (none, 0)
  let half := a.nextPowerOf2 / 2
  let (found, pos) ← Halving.search (a.probe aligned key) a.used half half
  match found with
  | none => return (none, pos)
  | some p =>
    let ndx ← a.sortedAt p
    return (some ndx, pos)

/-- `array_get_element`; the key is a string without its NUL. -/
def arrayGetElement (a : ConfArray α) (aligned : Bool) (key : Bytes) :
    Except Fault (Option (DataUnset α)) := do
  let (ndx, _) ← arrayGetIndex a aligned (key ++ [0])
  match ndx with
  | none => return none
  | some ndx =>
    let du ← a.at ndx
    return some du

/-- What `buffer_copy_long` makes of a number. -/
def indexKey (n : Nat) : Bytes :=
  (decimal ((n : Int).bmod (2 ^ 64))).map (fun ch => ch.toNat.toUInt8) ++ [0]

/-- `malloc` or `realloc` of `data` and `sorted`, if there is no room. -/
def ConfArray.grow (a : ConfArray α) : ConfArray α :=
  if a.size = 0 then
    { a with size := 16, data := a.data.take a.used ++ List.replicate (16 - a.used) none }
  else if a.size = a.used then
    { a with size := a.size + 16,
             data := a.data.take a.used ++ List.replicate (a.size + 16 - a.used) none }
  else a

/-- Where the index of a new element goes, behind the position at which the search ended or at it. -/
def ConfArray.place (a : ConfArray α) (aligned : Bool) (key : Bytes) (ndx : Nat) (pos : Int) :
    Except Fault Int := do
  if pos = ndx then return pos
  if pos < 0 then return pos + 1
  let c ← a.probe aligned key pos.toNat
  return if c = .gt then pos + 1 else pos

/-- The part of `array_insert_unique` behind the search, which found nothing. -/
def insertAt (a : ConfArray α) (aligned : Bool) (str : DataUnset α) (pos : Int) :
    Except Fault (ConfArray α × Int) := do
  if intMax < a.used + 1 then return (a, -1)
  let a := a.grow
  let ndx := a.used
  if a.data.length ≤ ndx then throw .outside
  let a := { a with data := a.data.set ndx (some str), used := ndx + 1 }
  let pos ← a.place aligned str.key ndx pos
  -- the size of what is moved would be negative
  if pos < 0 ∨ (ndx : Int) < pos then throw .outside
  return ({ a with
    sorted := (a.sorted.take ndx).insertIdx pos.toNat ndx ++ a.sorted.drop (ndx + 1)
    nextPowerOf2 := if a.nextPowerOf2 = ndx then 2 * a.nextPowerOf2 else a.nextPowerOf2 }, 0)

variable (m : Methods α)

/-- An element with the same key, in the array already, takes in a new one of its type. -/
def merge (dst src : DataUnset α) : DataUnset α :=
  haveI := m.decEq
  if m.type dst.value = m.type src.value then { dst with value := m.insertDup dst.value src.value }
  else dst

/-- The key of an element that has none. -/
def withKey (uniqueNdx : Nat) (str : DataUnset α) : Nat × DataUnset α :=
  if str.key = [] ∨ str.isIndexKey then
    (uniqueNdx + 1, { str with key := indexKey uniqueNdx, isIndexKey := true })
  else (uniqueNdx, str)

def arrayInsertUnique (a : ConfArray α) (aligned : Bool) (str : DataUnset α) :
    Except Fault (ConfArray α × Int) := do
  let (uniqueNdx, str) := withKey a.uniqueNdx str
  let a := { a with uniqueNdx }
  let (ndx, pos) ← arrayGetIndex a aligned str.key
  match ndx with
  | some ndx =>
    let dst ← a.at ndx
    return ({ a with data := a.data.set ndx (some (merge m dst str)) }, 0)
  | none => insertAt a aligned str pos

/-- `array_replace`: the old element is returned. -/
def arrayReplace (a : ConfArray α) (aligned : Bool) (du : DataUnset α) :
    Except Fault (ConfArray α × Option (DataUnset α)) := do
  let (ndx, _) ← arrayGetIndex a aligned du.key
  match ndx with
  | none =>
    let (a, _) ← arrayInsertUnique m a aligned du
    return (a, none)
  | some ndx =>
    let old ← a.at ndx
    return ({ a with data := a.data.set ndx (some du) }, some old)

/-- `array_pop`: the index is not looked at. -/
def arrayPop (a : ConfArray α) : Except Fault (ConfArray α × DataUnset α) := do
  if a.used = 0 then throw .assertion
  let du ← a.at (a.used - 1)
  return ({ a with used := a.used - 1, data := a.data.set (a.used - 1) none }, du)

/-! ## Runs -/

inductive Op (α : Type)
  | insertUnique (aligned : Bool) (str : DataUnset α)
  | replace (aligned : Bool) (du : DataUnset α)
  | getElement (aligned : Bool) (key : Bytes)
  | pop
deriving DecidableEq, Repr

inductive Result (α : Type)
  | inserted (ret : Int)
  | replaced (old : Option (DataUnset α))
  | element (du : Option (DataUnset α))
  | popped (du : DataUnset α)
deriving DecidableEq, Repr

def step (a : ConfArray α) : Op α → Except Fault (ConfArray α × Result α)
  | .insertUnique aligned str => do
    let (a, ret) ← arrayInsertUnique m a aligned str
    return (a, .inserted ret)
  | .replace aligned du => do
    let (a, old) ← arrayReplace m a aligned du
    return (a, .replaced old)
  | .getElement aligned key => do
    let du ← arrayGetElement a aligned key
    return (a, .element du)
  | .pop => do
    let (a, du) ← arrayPop a
    return (a, .popped du)

def run (a : ConfArray α) : List (Op α) → Except Fault (ConfArray α × List (Result α))
  | [] => .ok (a, [])
  | op :: ops => do
    let (a, r) ← step m a op
    let (a, rs) ← run a ops
    return (a, r :: rs)

/-! ## What an array is for -/

/-- A list of elements that is searched from the front. -/
structure Plain (α : Type) where
  elements : List (DataUnset α) := []
  uniqueNdx : Nat := 0
deriving DecidableEq, Repr

namespace Plain

/-- The first element with a key that is the same but for case. -/
def find (p : Plain α) (key : Bytes) : Option Nat :=
  p.elements.findIdx? fun e => order false key e.key = .eq

def insertUnique (p : Plain α) (str : DataUnset α) : Plain α × Int :=
  let (uniqueNdx, str) := withKey p.uniqueNdx str
  match p.find str.key with
  | some ndx =>
    (⟨p.elements.modify ndx fun dst => merge m dst str, uniqueNdx⟩, 0)
  | none =>
    if intMax < p.elements.length + 1 then (⟨p.elements, uniqueNdx⟩, -1)
    else (⟨p.elements ++ [str], uniqueNdx⟩, 0)

def replace (p : Plain α) (du : DataUnset α) : Plain α × Option (DataUnset α) :=
  match p.find du.key with
  | some ndx => (⟨p.elements.set ndx du, p.uniqueNdx⟩, p.elements[ndx]?)
  | none => ((p.insertUnique m du).1, none)

def getElement (p : Plain α) (key : Bytes) : Option (DataUnset α) :=
  (p.find (key ++ [0])).bind fun ndx => p.elements[ndx]?

/-- The last element may be taken if its key is the greatest. -/
def pop (p : Plain α) : Option (Plain α × DataUnset α) := do
  let last ← p.elements.getLast?
  if ∀ e ∈ p.elements.dropLast, order false e.key last.key = .lt then
    some (⟨p.elements.dropLast, p.uniqueNdx⟩, last)
  else none

def step (p : Plain α) : Op α → Option (Plain α × Result α)
  | .insertUnique _ str => some ((p.insertUnique m str).1, .inserted (p.insertUnique m str).2)
  | .replace _ du => some ((p.replace m du).1, .replaced (p.replace m du).2)
  | .getElement _ key => some (p, .element (p.getElement key))
  | .pop => (p.pop).map fun r => (r.1, .popped r.2)

/-- There is no result where an element is popped that is not the greatest. -/
def run (p : Plain α) : List (Op α) → Option (Plain α × List (Result α))
  | [] => some (p, [])
  | op :: ops => do
    let (p, r) ← step m p op
    let (p, rs) ← run p ops
    return (p, r :: rs)

end Plain

/-! ## An array holds a list -/

variable {c : Charset} {a : ConfArray α} {es : List (DataUnset α)} {srt : List Nat}

/-- What the key of an element is sorted by. -/
def foldAt (c : Charset) (es : List (DataUnset α)) (i : Nat) : List Int :=
  es[i]?.elim [] fun e => c.fold e.key

theorem foldAt_of_getElem? {i : Nat} {e : DataUnset α} (h : es[i]? = some e) :
    foldAt c es i = c.fold e.key := by
  rw [foldAt, h]
  rfl

/-- Elements in memory, and an index of some of them. -/
structure Holds (a : ConfArray α) (es : List (DataUnset α)) (srt : List Nat) : Prop where
  data : ∃ rest, a.data = es.map some ++ rest
  sorted : ∃ stale, a.sorted = srt ++ stale
  bound : ∀ i ∈ srt, i < es.length

theorem Holds.at_eq (h : Holds a es srt) {i : Nat} {e : DataUnset α} (he : es[i]? = some e) :
    a.at i = .ok e := by
  obtain ⟨rest, hdata⟩ := h.data
  obtain ⟨hi, -⟩ := List.getElem?_eq_some_iff.1 he
  rw [ConfArray.at, hdata, List.getElem?_append_left (by rwa [List.length_map]), List.getElem?_map, he]
  rfl

theorem Holds.sortedAt_eq (h : Holds a es srt) {pos i : Nat} (hi : srt[pos]? = some i) :
    a.sortedAt pos = .ok i := by
  obtain ⟨stale, hsorted⟩ := h.sorted
  obtain ⟨hpos, -⟩ := List.getElem?_eq_some_iff.1 hi
  rw [ConfArray.sortedAt, hsorted, List.getElem?_append_left hpos, hi]

theorem Holds.probe_eq (h : Holds a es srt) (aligned : Bool) (key : Bytes) {pos i : Nat}
    (hi : srt[pos]? = some i) : ∃ e, es[i]? = some e ∧
      a.probe aligned key pos = .ok (order aligned key e.key) := by
  have hlt := h.bound i (List.mem_of_getElem? hi)
  have he : es[i]? = some es[i] := List.getElem?_eq_getElem hlt
  refine ⟨es[i], he, ?_⟩
  rw [ConfArray.probe, h.sortedAt_eq hi]
  show (a.at i).bind _ = _
  rw [h.at_eq he]
  rfl

theorem Holds.compares (h : Holds a es srt) (hkeys : ∀ e ∈ es, c.Key e.key) {key : Bytes}
    (hk : c.Key key) (aligned : Bool) :
    Halving.Compares (a.probe aligned key) (foldAt c es) srt (c.fold key) := by
  constructor
  all_goals
    intro pos i hi hfold
    obtain ⟨e, he, hprobe⟩ := h.probe_eq aligned key hi
    have hek := hkeys e (List.mem_of_getElem? he)
    rw [foldAt_of_getElem? he] at hfold
    rw [hprobe]
  · rw [(order_gt_iff hk hek aligned).2 hfold]
  · rw [(order_eq_iff hk hek aligned).2 hfold.symm]
  · rw [(order_lt_iff hk hek aligned).2 hfold]

/-- **An array holds the elements of a list**, and an index of all of them that is sorted. -/
structure Rep (c : Charset) (a : ConfArray α) (p : Plain α) (srt : List Nat) : Prop where
  used : a.used = p.elements.length
  holds : Holds a p.elements srt
  size : a.data.length = a.size
  perm : srt.Perm (List.range p.elements.length)
  ordered : srt.Pairwise fun i j => foldAt c p.elements i < foldAt c p.elements j
  power : ∃ k, a.nextPowerOf2 = 2 ^ k ∧ p.elements.length ≤ 2 ^ k
  uniqueNdx : a.uniqueNdx = p.uniqueNdx
  keys : ∀ e ∈ p.elements, c.Key e.key
  named : ∀ e ∈ p.elements, e.key ≠ []

theorem Rep.init : Rep c ({} : ConfArray α) {} [] where
  used := rfl
  holds := ⟨⟨[], rfl⟩, ⟨[], rfl⟩, nofun⟩
  size := rfl
  perm := .refl _
  ordered := .nil
  power := ⟨0, rfl, Nat.zero_le _⟩
  uniqueNdx := rfl
  keys := nofun
  named := nofun

variable {p : Plain α}

theorem Rep.length_srt (h : Rep c a p srt) : srt.length = a.used := by
  rw [h.perm.length_eq, List.length_range, h.used]

theorem Rep.mem_srt (h : Rep c a p srt) {i : Nat} : i ∈ srt ↔ i < p.elements.length := by
  rw [h.perm.mem_iff, List.mem_range]

/-- No two elements have the same key. -/
theorem Rep.foldAt_inj (h : Rep c a p srt) {i j : Nat} (hi : i < p.elements.length)
    (hj : j < p.elements.length) (heq : foldAt c p.elements i = foldAt c p.elements j) : i = j := by
  by_contra hne
  have hpair : srt.Pairwise fun i j => foldAt c p.elements i ≠ foldAt c p.elements j :=
    h.ordered.imp ne_of_lt
  have : Std.Symm fun i j => foldAt c p.elements i ≠ foldAt c p.elements j := ⟨fun _ _ => Ne.symm⟩
  exact hpair.forall (h.mem_srt.2 hi) (h.mem_srt.2 hj) hne heq

/-! ## Searches -/

theorem Rep.find_eq_some (h : Rep c a p srt) {key : Bytes} (hk : c.Key key) {i : Nat}
    (hi : i < p.elements.length) (hfold : foldAt c p.elements i = c.fold key) :
    p.find key = some i := by
  have hsame : ∀ j (hj : j < p.elements.length), order false key p.elements[j].key = .eq ↔ j = i := by
    intro j hj
    rw [order_eq_iff hk (h.keys _ (List.getElem_mem hj)), ← hfold,
      ← foldAt_of_getElem? (List.getElem?_eq_getElem hj)]
    exact ⟨fun heq => (h.foldAt_inj hi hj heq).symm, fun heq => by rw [heq]⟩
  rw [Plain.find, List.findIdx?_eq_some_iff_getElem]
  refine ⟨hi, decide_eq_true ((hsame i hi).2 rfl), fun j hj => ?_⟩
  rw [decide_eq_true_eq, hsame]
  omega

theorem Rep.find_eq_none (h : Rep c a p srt) {key : Bytes} (hk : c.Key key)
    (hne : ∀ i ∈ srt, foldAt c p.elements i ≠ c.fold key) : p.find key = none := by
  rw [Plain.find, List.findIdx?_eq_none_iff]
  intro e he
  obtain ⟨i, hi, rfl⟩ := List.getElem_of_mem he
  rw [decide_eq_false_iff_not, order_eq_iff hk (h.keys _ he),
    ← foldAt_of_getElem? (List.getElem?_eq_getElem hi)]
  exact (hne i (h.mem_srt.2 hi)).symm

/-- **The search in the index**: the element that the list has first, or the place of the key. -/
theorem Rep.getIndex_cases (h : Rep c a p srt) {key : Bytes} (hk : c.Key key) (hne : key ≠ [])
    (aligned : Bool) :
    (∃ i pos e, arrayGetIndex a aligned key = .ok (some i, pos) ∧ p.find key = some i ∧
      p.elements[i]? = some e ∧ c.fold e.key = c.fold key) ∨
    ∃ l r last, srt = l ++ r ∧ (∀ i ∈ l, foldAt c p.elements i < c.fold key) ∧
      (∀ i ∈ r, c.fold key < foldAt c p.elements i) ∧
      arrayGetIndex a aligned key = .ok (none, last) ∧ p.find key = none ∧
      (last = l.length - 1 ∨ last = l.length) := by
  obtain ⟨k, hpower, hle⟩ := h.power
  have hlen := h.length_srt
  have hcompares := h.holds.compares h.keys hk aligned
  have hunfold : arrayGetIndex a aligned key = (do
      let (found, pos) ← Halving.search (a.probe aligned key) srt.length (2 ^ k / 2) (2 ^ k / 2 : Nat)
      match found with
      | none => return (none, pos)
      | some p =>
        let ndx ← a.sortedAt p
        return (some ndx, pos)) := by
    rw [arrayGetIndex, if_neg hne, hpower, hlen]
  rcases Halving.search_sorted h.ordered hcompares (k := k) (by rwa [hlen, h.used]) with
    ⟨l, i, r, hsrt, hfold, hsearch⟩ | ⟨l, r, hsrt, hl, hr, last, hsearch, hlast⟩
  · have hi : srt[l.length]? = some i := by
      rw [hsrt, List.getElem?_append_right (Nat.le_refl _), Nat.sub_self, List.getElem?_cons_zero]
    have hlt := h.mem_srt.1 (List.mem_of_getElem? hi)
    have he : p.elements[i]? = some p.elements[i] := List.getElem?_eq_getElem hlt
    refine .inl ⟨i, l.length, p.elements[i], ?_, h.find_eq_some hk hlt hfold, he, ?_⟩
    · rw [hunfold, hsearch]
      show (a.sortedAt l.length).bind _ = _
      rw [h.holds.sortedAt_eq hi]
      rfl
    · rw [← foldAt_of_getElem? he, hfold]
  · refine .inr ⟨l, r, last, hsrt, hl, hr, ?_, h.find_eq_none hk fun i hi => ?_, hlast⟩
    · rw [hunfold, hsearch]
      rfl
    · rcases List.mem_append.1 (hsrt ▸ hi) with hi | hi
      · exact ne_of_lt (hl i hi)
      · exact ne_of_gt (hr i hi)

/-! ## Steps -/

theorem map_some_modify (f : DataUnset α → DataUnset α) (i : Nat) (e : DataUnset α)
    (he : es[i]? = some e) (rest : List (Option (DataUnset α))) :
    (es.map some ++ rest).set i (some (f e)) = (es.modify i f).map some ++ rest := by
  obtain ⟨hi, heq⟩ := List.getElem?_eq_some_iff.1 he
  rw [List.set_append_left _ _ (by rwa [List.length_map]), List.modify_eq_set_getElem?, he]
  simp

/-- An element is put in the place of one with the same key. -/
theorem Rep.modify (h : Rep c a p srt) {f : DataUnset α → DataUnset α} {i : Nat} {e : DataUnset α}
    (he : p.elements[i]? = some e) (hkey : c.Key (f e).key) (hne : (f e).key ≠ [])
    (hfold : c.fold (f e).key = c.fold e.key) {u : Nat} (hu : a.uniqueNdx = u) :
    Rep c { a with data := a.data.set i (some (f e)) } ⟨p.elements.modify i f, u⟩ srt := by
  obtain ⟨rest, hdata⟩ := h.holds.data
  have hlen : (p.elements.modify i f).length = p.elements.length := List.length_modify ..
  have hfoldAt : ∀ j, foldAt c (p.elements.modify i f) j = foldAt c p.elements j := by
    intro j
    unfold foldAt
    rw [List.getElem?_modify]
    by_cases hij : i = j
    · rw [← hij, he]
      simp [hfold]
    · simp [hij]
  have hmem : ∀ x ∈ p.elements.modify i f, x = f e ∨ x ∈ p.elements := by
    intro x hx
    obtain ⟨j, hj⟩ := List.getElem?_of_mem hx
    rw [List.getElem?_modify] at hj
    by_cases hij : i = j
    · rw [← hij, he] at hj
      simp at hj
      exact .inl hj.symm
    · simp only [if_neg hij, Option.map_eq_map, Option.map_id_fun', id] at hj
      exact .inr (List.mem_of_getElem? hj)
  exact {
    used := h.used.trans hlen.symm
    holds := ⟨⟨rest, by rw [hdata, map_some_modify f i e he]⟩, h.holds.sorted,
      fun j hj => hlen ▸ h.holds.bound j hj⟩
    size := by
      rw [← h.size]
      exact List.length_set
    perm := by
      show srt.Perm (List.range (p.elements.modify i f).length)
      rw [hlen]
      exact h.perm
    ordered := by simpa only [hfoldAt] using h.ordered
    power := by
      show ∃ k, _ ∧ (p.elements.modify i f).length ≤ _
      rw [hlen]
      exact h.power
    uniqueNdx := hu
    keys := fun x hx => by
      rcases hmem x hx with rfl | hx
      · exact hkey
      · exact h.keys x hx
    named := fun x hx => by
      rcases hmem x hx with rfl | hx
      · exact hne
      · exact h.named x hx }

/-- There is room for an element in the memory. -/
theorem Rep.grow_eq (h : Rep c a p srt) : ∃ x rest, a.grow =
    { a with data := p.elements.map some ++ x :: rest, size := p.elements.length + 1 + rest.length } := by
  obtain ⟨rest, hdata⟩ := h.holds.data
  have hused := h.used
  have hsize : p.elements.length + rest.length = a.size := by
    rw [← h.size, hdata, List.length_append, List.length_map]
  have htake : a.data.take a.used = p.elements.map some := by
    rw [hdata, hused, List.take_left' (List.length_map _)]
  unfold ConfArray.grow
  split
  · refine ⟨none, List.replicate (15 - a.used) none, ?_⟩
    have hsucc : 16 - a.used = 15 - a.used + 1 := by omega
    rw [htake, hsucc, List.replicate_succ, List.length_replicate]
    congr 1
    omega
  · split
    · refine ⟨none, List.replicate 15 none, ?_⟩
      have hsucc : a.size + 16 - a.used = 15 + 1 := by omega
      rw [htake, hsucc, List.replicate_succ, List.length_replicate]
      congr 1
      omega
    · cases rest with
      | nil =>
        rw [List.length_nil] at hsize
        omega
      | cons x rest =>
        rw [List.length_cons] at hsize
        have hrest : p.elements.length + 1 + rest.length = a.size := by omega
        exact ⟨x, rest, by rw [← hdata, hrest]⟩

theorem insertIdx_append {β : Type} (l r : List β) (x : β) :
    (l ++ r).insertIdx l.length x = l ++ x :: r := by
  induction l with
  | nil => rfl
  | cons y l ih => exact congrArg (y :: ·) ih

theorem foldAt_append {i : Nat} (hi : i < es.length) (str : DataUnset α) :
    foldAt c (es ++ [str]) i = foldAt c es i := by
  rw [foldAt, List.getElem?_append_left hi, foldAt]

theorem foldAt_concat (str : DataUnset α) : foldAt c (es ++ [str]) es.length = c.fold str.key :=
  foldAt_of_getElem? List.getElem?_concat_length

/-- An index behind those that are less and in front of those that are greater. -/
theorem pairwise_middle {f : Nat → List Int} {l r : List Nat} {n : Nat}
    (h : (l ++ r).Pairwise fun i j => f i < f j) (hl : ∀ i ∈ l, f i < f n) (hr : ∀ i ∈ r, f n < f i) :
    (l ++ n :: r).Pairwise fun i j => f i < f j := by
  obtain ⟨hleft, hright, hcross⟩ := List.pairwise_append.1 h
  exact List.pairwise_append.2 ⟨hleft, List.pairwise_cons.2 ⟨hr, hright⟩, fun i hi =>
    List.forall_mem_cons.2 ⟨hl i hi, hcross i hi⟩⟩

/-- **The place of a new element**: wherever the search ended, it is between the less and the greater
keys. -/
theorem ConfArray.place_eq {aligned : Bool} {key : Bytes} {f : Nat → List Int} {l r : List Nat}
    (hcompares : Halving.Compares (a.probe aligned key) f (l ++ r) (c.fold key))
    (hl : ∀ i ∈ l, f i < c.fold key) (hr : ∀ i ∈ r, c.fold key < f i) {last : Int}
    (hlast : last = l.length - 1 ∨ last = l.length) :
    a.place aligned key (l ++ r).length last = .ok l.length := by
  have hlen : (l ++ r).length = l.length + r.length := List.length_append
  unfold ConfArray.place
  by_cases hend : last = (l ++ r).length
  · have hr0 : (l ++ r).length = l.length := by omega
    rw [if_pos hend, hend, hr0]
    rfl
  rw [if_neg hend]
  by_cases hneg : last < 0
  · have hl0 : last + 1 = l.length := by omega
    rw [if_pos hneg, hl0]
    rfl
  rw [if_neg hneg]
  obtain ⟨q, rfl⟩ := Int.eq_ofNat_of_zero_le (Int.not_lt.1 hneg)
  have hq : q < (l ++ r).length := by omega
  have hi : (l ++ r)[q]? = some (l ++ r)[q] := List.getElem?_eq_getElem hq
  rw [Int.toNat_natCast]
  by_cases hql : q < l.length
  · have hmem : (l ++ r)[q] ∈ l := by
      rw [List.getElem_append_left hql]
      exact List.getElem_mem hql
    have hsucc : (q : Int) + 1 = l.length := by omega
    rw [hcompares.gt q _ hi (hl _ hmem)]
    show Except.ok (if Ordering.gt = .gt then (q : Int) + 1 else q) = _
    rw [if_pos rfl, hsucc]
  · have hmem : (l ++ r)[q] ∈ r := by
      rw [List.getElem_append_right (Nat.not_lt.1 hql)]
      exact List.getElem_mem _
    have heq : q = l.length := by omega
    rw [hcompares.lt q _ hi (hr _ hmem), heq]
    rfl

/-- An array with elements and free memory behind them. -/
def ConfArray.filled (a : ConfArray α) (es : List (DataUnset α))
    (free : List (Option (DataUnset α))) : ConfArray α :=
  { a with data := es.map some ++ free, size := es.length + free.length, used := es.length }

/-- The array with one more element and an index in which it is. -/
def ConfArray.added (a : ConfArray α) (es : List (DataUnset α)) (free : List (Option (DataUnset α)))
    (srt : List Nat) (n : Nat) : ConfArray α :=
  { a.filled es free with
    sorted := srt
    nextPowerOf2 := if a.nextPowerOf2 = n then 2 * a.nextPowerOf2 else a.nextPowerOf2 }

/-- The index of a new element is moved in, over the first of the slots behind the others. -/
theorem insertIdx_sorted {l r stale : List Nat} {n : Nat} (hlen : (l ++ r).length = n) :
    ((l ++ r ++ stale).take n).insertIdx l.length n ++ (l ++ r ++ stale).drop (n + 1) =
      l ++ n :: r ++ stale.drop 1 := by
  have hdrop : (l ++ r).drop (n + 1) = [] := List.drop_eq_nil_of_le (by omega)
  rw [List.take_left' hlen, List.drop_append, hdrop, hlen, insertIdx_append, Nat.add_sub_cancel_left,
    List.nil_append]

/-- What `insertAt` computes. -/
theorem Rep.insertAt_eq {l r : List Nat} (h : Rep c a p (l ++ r)) {str : DataUnset α}
    (hkey : c.Key str.key) (hl : ∀ i ∈ l, foldAt c p.elements i < c.fold str.key)
    (hr : ∀ i ∈ r, c.fold str.key < foldAt c p.elements i) {last : Int}
    (hlast : last = l.length - 1 ∨ last = l.length) (hroom : p.elements.length + 1 ≤ intMax)
    (aligned : Bool) :
    ∃ free stale, Conf.insertAt a aligned str last =
      .ok (a.added (p.elements ++ [str]) free (l ++ p.elements.length :: r ++ stale)
        p.elements.length, 0) := by
  obtain ⟨x, rest, hgrow⟩ := h.grow_eq
  obtain ⟨stale, hsorted⟩ := h.holds.sorted
  have hlen : (l ++ r).length = p.elements.length := h.length_srt.trans h.used
  have hset : (p.elements.map some ++ x :: rest).set p.elements.length (some str) =
      (p.elements ++ [str]).map some ++ rest := by
    rw [List.set_append_right _ _ (by rw [List.length_map]), List.length_map, Nat.sub_self]
    simp
  have hlength : p.elements.length + 1 = (p.elements ++ [str]).length := by simp
  have hmoved : (a.sorted.take p.elements.length).insertIdx l.length p.elements.length ++
      a.sorted.drop (p.elements ++ [str]).length = l ++ p.elements.length :: r ++ stale.drop 1 := by
    rw [← hlength, hsorted]
    exact insertIdx_sorted hlen
  have hfilled : Holds (a.filled (p.elements ++ [str]) rest) (p.elements ++ [str]) (l ++ r) :=
    ⟨⟨rest, rfl⟩, ⟨stale, hsorted⟩, fun i hi => by
      rw [List.length_append]
      exact Nat.lt_add_right _ (h.mem_srt.1 hi)⟩
  have hcompares := hfilled.compares (List.forall_mem_append.2
    ⟨h.keys, List.forall_mem_singleton.2 hkey⟩) hkey aligned
  have hplace := ConfArray.place_eq hcompares
    (fun i hi => by
      rw [foldAt_append (h.mem_srt.1 (List.mem_append_left r hi))]
      exact hl i hi)
    (fun i hi => by
      rw [foldAt_append (h.mem_srt.1 (List.mem_append_right l hi))]
      exact hr i hi) hlast
  rw [hlen] at hplace
  refine ⟨rest, stale.drop 1, ?_⟩
  have hroom' : p.elements.length < (p.elements.map some ++ x :: rest).length := by
    rw [List.length_append, List.length_map, List.length_cons]
    omega
  rw [Conf.insertAt, if_neg (by rw [h.used]; omega), hgrow]
  dsimp only
  rw [h.used, if_neg (Nat.not_le.2 hroom'), hset, hlength]
  show ((a.filled (p.elements ++ [str]) rest).place aligned str.key p.elements.length last).bind _ = _
  rw [hplace]
  show (if ((l.length : Nat) : Int) < 0 ∨ ((p.elements.length : Nat) : Int) < l.length then _
    else _) = _
  rw [List.length_append] at hlen
  rw [if_neg (by omega), Int.toNat_natCast]
  show Except.ok _ = _
  rw [hmoved]
  rfl

/-- The new array holds the longer list. -/
theorem Rep.added {l r : List Nat} (h : Rep c a p (l ++ r)) {str : DataUnset α}
    (hkey : c.Key str.key) (hne : str.key ≠ [])
    (hl : ∀ i ∈ l, foldAt c p.elements i < c.fold str.key)
    (hr : ∀ i ∈ r, c.fold str.key < foldAt c p.elements i) (free : List (Option (DataUnset α)))
    (stale : List Nat) :
    Rep c (a.added (p.elements ++ [str]) free (l ++ p.elements.length :: r ++ stale)
      p.elements.length) ⟨p.elements ++ [str], a.uniqueNdx⟩ (l ++ p.elements.length :: r) := by
  have hlength : (p.elements ++ [str]).length = p.elements.length + 1 := by simp
  have hperm : (l ++ p.elements.length :: r).Perm (List.range (p.elements ++ [str]).length) := by
    rw [hlength, List.range_succ]
    exact List.perm_middle.trans ((h.perm.cons _).trans (List.perm_append_singleton _ _).symm)
  have hold : (l ++ r).Pairwise fun i j =>
      foldAt c (p.elements ++ [str]) i < foldAt c (p.elements ++ [str]) j :=
    h.ordered.imp_of_mem fun {i j} hi hj hlt => by
      rwa [foldAt_append (h.mem_srt.1 hi), foldAt_append (h.mem_srt.1 hj)]
  exact {
    used := rfl
    holds := ⟨⟨free, rfl⟩, ⟨stale, rfl⟩, fun i hi => List.mem_range.1 (hperm.mem_iff.1 hi)⟩
    size := by
      show ((p.elements ++ [str]).map some ++ free).length = _ + free.length
      rw [List.length_append, List.length_map]
    perm := hperm
    ordered := pairwise_middle hold
      (fun i hi => by
        rw [foldAt_concat, foldAt_append (h.mem_srt.1 (List.mem_append_left r hi))]
        exact hl i hi)
      (fun i hi => by
        rw [foldAt_concat, foldAt_append (h.mem_srt.1 (List.mem_append_right l hi))]
        exact hr i hi)
    power := by
      obtain ⟨k, hpower, hle⟩ := h.power
      show ∃ k', (if a.nextPowerOf2 = p.elements.length then 2 * a.nextPowerOf2
        else a.nextPowerOf2) = 2 ^ k' ∧ (p.elements ++ [str]).length ≤ 2 ^ k'
      rw [hlength, hpower]
      split
      · have hpos : 0 < 2 ^ k := Nat.two_pow_pos k
        exact ⟨k + 1, by rw [Nat.pow_succ, Nat.mul_comm], by rw [Nat.pow_succ]; omega⟩
      · exact ⟨k, rfl, by omega⟩
    uniqueNdx := rfl
    keys := List.forall_mem_append.2 ⟨h.keys, List.forall_mem_singleton.2 hkey⟩
    named := List.forall_mem_append.2 ⟨h.named, List.forall_mem_singleton.2 hne⟩ }

/-- **A new element** goes behind the others, and its index where its key belongs. -/
theorem Rep.insertAt {l r : List Nat} (h : Rep c a p (l ++ r)) {str : DataUnset α}
    (hkey : c.Key str.key) (hne : str.key ≠ [])
    (hl : ∀ i ∈ l, foldAt c p.elements i < c.fold str.key)
    (hr : ∀ i ∈ r, c.fold str.key < foldAt c p.elements i) {last : Int}
    (hlast : last = l.length - 1 ∨ last = l.length) (hroom : p.elements.length + 1 ≤ intMax)
    (aligned : Bool) :
    ∃ a', Conf.insertAt a aligned str last = .ok (a', 0) ∧
      Rep c a' ⟨p.elements ++ [str], a.uniqueNdx⟩ (l ++ p.elements.length :: r) := by
  obtain ⟨free, stale, heq⟩ := h.insertAt_eq hkey hl hr hlast hroom aligned
  exact ⟨_, heq, h.added hkey hne hl hr free stale⟩

/-! ## The keys of the array -/

/-- Numbers are in every charset. -/
theorem allows_digit (c : Charset) {ch : Char} (h : ch = '-' ∨ ch.isDigit = true) :
    c.allows ch.toNat.toUInt8 = true := by
  rcases h with rfl | h
  · cases c <;> rfl
  · have hrange : 48 ≤ ch.toNat ∧ ch.toNat ≤ 57 := by
      simpa [Char.isDigit, Char.le_def, UInt32.le_iff_toNat_le] using h
    have hall : ∀ n : Fin 58, 48 ≤ n.val → c.allows n.val.toUInt8 = true := by
      cases c <;> decide
    exact hall ⟨ch.toNat, by omega⟩ hrange.1

theorem length_decimal_le {i : Int} {k : Nat} (hk : 0 < k) (h : i.natAbs < 10 ^ k) :
    (decimal i).length ≤ k + 1 := by
  have hnat : ∀ n : Nat, n < 10 ^ k → (decimal (n : Int)).length ≤ k := fun n hn => by
    rw [decimal_ofNat]
    exact (Nat.length_toDigits_le_iff (by decide) hk).2 hn
  cases i with
  | ofNat n => exact Nat.le_succ_of_le (hnat n h)
  | negSucc n =>
    rw [decimal_negSucc, List.length_cons]
    exact Nat.succ_le_succ (hnat _ h)

theorem key_indexKey (c : Charset) (n : Nat) : c.Key (indexKey n) where
  allows b hb := by
    rcases List.mem_append.1 hb with hb | hb
    · obtain ⟨ch, hch, rfl⟩ := List.mem_map.1 hb
      exact allows_digit c (mem_decimal hch)
    · rw [List.mem_singleton.1 hb]
      cases c <;> rfl
  length := by
    have habs : ((n : Int).bmod (2 ^ 64)).natAbs < 10 ^ 20 := by
      rw [Int.bmod_def]
      omega
    have hle := length_decimal_le (by decide) habs
    rw [indexKey, List.length_append, List.length_map, List.length_singleton]
    omega

theorem withKey_key (u : Nat) {str : DataUnset α}
    (h : str.key = [] ∨ str.isIndexKey = true ∨ c.Key str.key) :
    c.Key (withKey u str).2.key ∧ (withKey u str).2.key ≠ [] := by
  unfold withKey
  split
  · exact ⟨key_indexKey c u, List.append_ne_nil_of_right_ne_nil _ (List.cons_ne_nil _ _)⟩
  · next hkey =>
    rw [not_or] at hkey
    exact ⟨(h.resolve_left hkey.1).resolve_left hkey.2, hkey.1⟩

theorem merge_key (dst src : DataUnset α) : (merge m dst src).key = dst.key := by
  unfold merge
  split <;> rfl

/-! ## Operations -/

/-- **An element is put in** as into the list. -/
theorem Rep.insertUnique (h : Rep c a p srt) {str : DataUnset α}
    (hstr : str.key = [] ∨ str.isIndexKey = true ∨ c.Key str.key) (aligned : Bool) :
    ∃ a' srt', arrayInsertUnique m a aligned str = .ok (a', (p.insertUnique m str).2) ∧
      Rep c a' (p.insertUnique m str).1 srt' := by
  obtain ⟨hkey, hne⟩ := withKey_key p.uniqueNdx hstr
  have hu : withKey a.uniqueNdx str = withKey p.uniqueNdx str := by rw [h.uniqueNdx]
  unfold arrayInsertUnique Plain.insertUnique
  rw [hu]
  generalize withKey p.uniqueNdx str = w at hkey hne
  obtain ⟨u, str⟩ := w
  have hrep : Rep c { a with uniqueNdx := u } ⟨p.elements, u⟩ srt :=
    { h with uniqueNdx := rfl, holds := ⟨h.holds.data, h.holds.sorted, h.holds.bound⟩ }
  dsimp only
  rcases hrep.getIndex_cases hkey hne aligned with
    ⟨i, pos, e, hindex, hfind, he, -⟩ | ⟨l, r, last, hsrt, hl, hr, hindex, hfind, hlast⟩
  · have hfind' : p.find str.key = some i := hfind
    have hmem := List.mem_of_getElem? he
    have hmodify := hrep.modify (f := fun dst => merge m dst str) he
      (by rw [merge_key]; exact h.keys e hmem) (by rw [merge_key]; exact h.named e hmem)
      (by rw [merge_key]) rfl
    refine ⟨_, srt, ?_, by rw [hfind']; exact hmodify⟩
    rw [hindex, hfind']
    show (ConfArray.at _ i).bind _ = _
    rw [hrep.holds.at_eq he]
    rfl
  · have hfind' : p.find str.key = none := hfind
    subst hsrt
    rw [hindex, hfind']
    show ∃ a' srt', Conf.insertAt { a with uniqueNdx := u } aligned str last = _ ∧ _
    by_cases hroom : intMax < p.elements.length + 1
    · refine ⟨{ a with uniqueNdx := u }, l ++ r, ?_, ?_⟩
      · rw [Conf.insertAt, hrep.used, if_pos hroom, if_pos hroom]
        rfl
      · rw [if_pos hroom]
        exact hrep
    · obtain ⟨a', hins, hrep'⟩ := hrep.insertAt hkey hne hl hr hlast (Nat.not_lt.1 hroom) aligned
      rw [if_neg hroom]
      exact ⟨a', _, hins, hrep'⟩

/-- **An element is replaced** as in the list. -/
theorem Rep.replace (h : Rep c a p srt) {du : DataUnset α} (hdu : du.key = [] ∨ c.Key du.key)
    (aligned : Bool) :
    ∃ a' srt', arrayReplace m a aligned du = .ok (a', (p.replace m du).2) ∧
      Rep c a' (p.replace m du).1 srt' := by
  have hnew : ∀ pos, arrayGetIndex a aligned du.key = .ok (none, pos) → p.find du.key = none →
      ∃ a' srt', arrayReplace m a aligned du = .ok (a', (p.replace m du).2) ∧
        Rep c a' (p.replace m du).1 srt' := by
    intro pos hindex hfind
    obtain ⟨a', srt', hins, hrep⟩ := h.insertUnique m (hdu.imp_right .inr) aligned
    refine ⟨a', srt', ?_, ?_⟩
    · rw [arrayReplace, hindex, Plain.replace, hfind]
      show (arrayInsertUnique m a aligned du).bind _ = _
      rw [hins]
      rfl
    · rw [Plain.replace, hfind]
      exact hrep
  by_cases hne : du.key = []
  · refine hnew 0 ?_ ?_
    · rw [arrayGetIndex, if_pos hne]
      rfl
    · rw [Plain.find, List.findIdx?_eq_none_iff]
      intro e he
      have hnil : c.Key ([] : Bytes) := ⟨nofun, by decide⟩
      rw [decide_eq_false_iff_not, hne, order_eq_iff hnil (h.keys e he)]
      exact fun heq => h.named e he (List.map_eq_nil_iff.1 heq.symm)
  · have hkey := hdu.resolve_left hne
    rcases h.getIndex_cases hkey hne aligned with
      ⟨i, pos, e, hindex, hfind, he, hfold⟩ | ⟨l, r, last, -, -, -, hindex, hfind, -⟩
    · have hmodify := h.modify (f := fun _ => du) he hkey hne hfold.symm h.uniqueNdx
      refine ⟨{ a with data := a.data.set i (some du) }, srt, ?_, ?_⟩
      · rw [arrayReplace, hindex, Plain.replace, hfind]
        show (a.at i).bind _ = Except.ok (_, p.elements[i]?)
        rw [h.holds.at_eq he, he]
        rfl
      · rw [Plain.replace, hfind]
        have hset : p.elements.modify i (fun _ => du) = p.elements.set i du := by
          rw [List.modify_eq_set_getElem?, he]
          rfl
        rwa [hset] at hmodify
    · exact hnew last hindex hfind

/-- **An element is found** as in the list. -/
theorem Rep.getElement (h : Rep c a p srt) {key : Bytes} (hkey : c.Key (key ++ [0])) (aligned : Bool) :
    arrayGetElement a aligned key = .ok (p.getElement key) := by
  have hne : key ++ [0] ≠ [] := List.append_ne_nil_of_right_ne_nil _ (List.cons_ne_nil _ _)
  rcases h.getIndex_cases hkey hne aligned with
    ⟨i, pos, e, hindex, hfind, he, -⟩ | ⟨l, r, last, -, -, -, hindex, hfind, -⟩
  · rw [arrayGetElement, hindex, Plain.getElement, hfind]
    show (a.at i).bind _ = Except.ok p.elements[i]?
    rw [h.holds.at_eq he, he]
    rfl
  · rw [arrayGetElement, hindex, Plain.getElement, hfind]
    rfl

/-- The index of the greatest element is the last one, and the others are those of the elements in
front of it. -/
theorem Rep.srt_concat (h : Rep c a p srt) {init : List (DataUnset α)} {du : DataUnset α}
    (hinit : p.elements = init ++ [du])
    (hless : ∀ i < init.length, foldAt c p.elements i < foldAt c p.elements init.length) :
    ∃ s, srt = s ++ [init.length] ∧ s.Perm (List.range init.length) := by
  have hlen : p.elements.length = init.length + 1 := by
    rw [hinit, List.length_append, List.length_singleton]
  obtain ⟨s, t, hsrt⟩ := List.append_of_mem (h.mem_srt.2
    (Nat.lt_of_lt_of_eq (Nat.lt_succ_self _) hlen.symm))
  have ht : t = [] := by
    cases t with
    | nil => rfl
    | cons i t =>
      have hpair := (List.pairwise_append.1 (hsrt ▸ h.ordered)).2.1
      have hgt := (List.pairwise_cons.1 hpair).1 i List.mem_cons_self
      have hi : i < p.elements.length := h.mem_srt.1 (by rw [hsrt]; simp)
      by_cases heq : i = init.length
      · rw [heq] at hgt
        exact absurd hgt (lt_irrefl _)
      · exact absurd hgt (lt_asymm (hless i (by omega)))
  subst hsrt ht
  have hall := h.perm
  rw [hlen, List.range_succ] at hall
  exact ⟨s, rfl, (List.perm_append_right_iff _).1 hall⟩

/-- **The greatest element is taken away**: its index is the last one. -/
theorem Rep.pop (h : Rep c a p srt) {p' : Plain α} {du : DataUnset α} (hpop : p.pop = some (p', du)) :
    ∃ a' srt', arrayPop a = .ok (a', du) ∧ Rep c a' p' srt' := by
  obtain ⟨last, hlast, hrest⟩ := Option.bind_eq_some_iff.1 hpop
  split_ifs at hrest with hgreatest
  cases hrest
  obtain ⟨init, hinit⟩ : ∃ init, p.elements = init ++ [du] := List.getLast?_eq_some_iff.1 hlast
  have hlen : p.elements.length = init.length + 1 := by
    rw [hinit, List.length_append, List.length_singleton]
  have hdrop : p.elements.dropLast = init := by rw [hinit, List.dropLast_concat]
  have hdu : p.elements[init.length]? = some du := by rw [hinit, List.getElem?_concat_length]
  have hkeys : ∀ e ∈ init, c.Key e.key := fun e he =>
    h.keys e (hinit ▸ List.mem_append_left _ he)
  have hfoldAt : ∀ i < init.length, foldAt c p.elements i = foldAt c init i := fun i hi => by
    rw [hinit, foldAt_append hi]
  have hless : ∀ i < init.length, foldAt c p.elements i < foldAt c p.elements init.length := by
    intro i hi
    have hmem := List.getElem_mem hi
    rw [hfoldAt i hi, foldAt_of_getElem? hdu, foldAt_of_getElem? (List.getElem?_eq_getElem hi),
      ← order_lt_iff (hkeys _ hmem) (h.keys du (List.mem_of_getElem? hdu)) false]
    exact hgreatest _ (hdrop ▸ hmem)
  obtain ⟨s, rfl, hperm⟩ := h.srt_concat hinit hless
  obtain ⟨rest, hdata⟩ := h.holds.data
  obtain ⟨stale, hsorted⟩ := h.holds.sorted
  refine ⟨{ a with used := a.used - 1, data := a.data.set (a.used - 1) none }, s, ?_, ?_⟩
  · rw [arrayPop, if_neg (by rw [h.used]; omega), h.used, hlen, Nat.add_sub_cancel]
    show (a.at init.length).bind _ = _
    rw [h.holds.at_eq hdu]
    rfl
  rw [hdrop]
  exact {
    used := by rw [h.used, hlen, Nat.add_sub_cancel]
    holds := ⟨⟨none :: rest, by
        rw [h.used, hlen, Nat.add_sub_cancel, hdata, hinit]
        simp⟩,
      ⟨init.length :: stale, by rw [hsorted, List.append_assoc, List.singleton_append]⟩,
      fun i hi => List.mem_range.1 (hperm.mem_iff.1 hi)⟩
    size := by
      rw [← h.size]
      exact List.length_set
    perm := hperm
    ordered := (List.pairwise_append.1 h.ordered).1.imp_of_mem fun {i j} hi hj hlt => by
      rwa [hfoldAt i (List.mem_range.1 (hperm.mem_iff.1 hi)),
        hfoldAt j (List.mem_range.1 (hperm.mem_iff.1 hj))] at hlt
    power := by
      obtain ⟨k, hk, hle⟩ := h.power
      exact ⟨k, hk, by
        show init.length ≤ 2 ^ k
        omega⟩
    uniqueNdx := h.uniqueNdx
    keys := hkeys
    named := fun e he => h.named e (hinit ▸ List.mem_append_left _ he) }

/-- The keys that an operation brings are of a charset. -/
def Op.Keys (c : Charset) : Op α → Prop
  | .insertUnique _ str => str.key = [] ∨ str.isIndexKey = true ∨ c.Key str.key
  | .replace _ du => du.key = [] ∨ c.Key du.key
  | .getElement _ key => c.Key (key ++ [0])
  | .pop => True

theorem Rep.step (h : Rep c a p srt) {op : Op α} (hop : op.Keys c) {p' : Plain α} {r : Result α}
    (hstep : p.step m op = some (p', r)) :
    ∃ a' srt', Conf.step m a op = .ok (a', r) ∧ Rep c a' p' srt' := by
  cases op with
  | insertUnique aligned str =>
    cases hstep
    obtain ⟨a', srt', hins, hrep⟩ := h.insertUnique m hop aligned
    exact ⟨a', srt', by rw [Conf.step, hins]; rfl, hrep⟩
  | replace aligned du =>
    cases hstep
    obtain ⟨a', srt', hreplace, hrep⟩ := h.replace m hop aligned
    exact ⟨a', srt', by rw [Conf.step, hreplace]; rfl, hrep⟩
  | getElement aligned key =>
    cases hstep
    exact ⟨a, srt, by rw [Conf.step, h.getElement hop aligned]; rfl, h⟩
  | pop =>
    obtain ⟨⟨q, du⟩, hpop, heq⟩ := Option.map_eq_some_iff.1 hstep
    cases heq
    obtain ⟨a', srt', hpop', hrep⟩ := h.pop hpop
    exact ⟨a', srt', by rw [Conf.step, hpop']; rfl, hrep⟩

theorem Rep.run (h : Rep c a p srt) {ops : List (Op α)} (hops : ∀ op ∈ ops, op.Keys c) {p' : Plain α}
    {rs : List (Result α)} (hrun : p.run m ops = some (p', rs)) :
    ∃ a' srt', Conf.run m a ops = .ok (a', rs) ∧ Rep c a' p' srt' := by
  induction ops generalizing a p srt rs with
  | nil =>
    cases hrun
    exact ⟨a, srt, rfl, h⟩
  | cons op ops ih =>
    obtain ⟨⟨q, r⟩, hstep, hrest⟩ := Option.bind_eq_some_iff.1 hrun
    obtain ⟨⟨q', rs'⟩, hrun', heq⟩ := Option.bind_eq_some_iff.1 hrest
    cases heq
    obtain ⟨a₁, srt₁, hstep', hrep⟩ := h.step m (hops op List.mem_cons_self) hstep
    obtain ⟨a', srt', hrun'', hrep'⟩ :=
      ih hrep (fun o ho => hops o (List.mem_cons_of_mem _ ho)) hrun'
    refine ⟨a', srt', ?_, hrep'⟩
    rw [Conf.run, hstep']
    show (Conf.run m a₁ ops).bind _ = _
    rw [hrun'']
    rfl

/-- What the types add: the text of a string, if it is set, a number, or a pointer. -/
inductive Data
  | string (value : Option Bytes)
  | count (n : Int)
  | array (value : Nat)
  | integer (n : Int)
  | config (contextNdx : Nat)
deriving DecidableEq, Repr

inductive DataType | string | count | array | integer | config
deriving DecidableEq, Repr

def Data.type : Data → DataType
  | .string _ => .string
  | .count _ => .count
  | .array _ => .array
  | .integer _ => .integer
  | .config _ => .config

/-- `data_string_insert_dup` and the others. -/
def Data.insertDup : Data → Data → Data
  | .string none, .string src => .string src
  | .string (some dst), .string src => .string (some (dst ++ [44, 32] ++ src.getD []))
  | .count dst, .count src => .count (dst + src)
  | dst, _ => dst

def dataMethods : Methods Data := ⟨DataType, Data.type, inferInstance, Data.insertDup⟩

/-- `abc` twice and `123`, as in the test of the source. Then `123` is replaced, an element without a
key gets `0`, `xyz` comes and is popped, and `ABC` is found. -/
def testOps : List (Op Data) :=
  [.insertUnique true ⟨[97, 98, 99, 0], false, .string (some [97])⟩,
    .insertUnique true ⟨[97, 98, 99, 0], false, .string (some [104])⟩,
    .insertUnique true ⟨[49, 50, 51, 0], false, .string (some [97])⟩,
    .replace true ⟨[49, 50, 51, 0], false, .count 5⟩,
    .insertUnique true ⟨[], false, .config 1⟩,
    .insertUnique true ⟨[120, 121, 122, 0], false, .count 1⟩, .pop,
    .getElement false [65, 66, 67]]

end Conf

end StreamSwitch
