import Mathlib.Algebra.GroupWithZero.Nat
import StreamSwitch.Lib.Codec

/-!
# A tagged wire format

Protocol-buffer style messages: a message is a list of fields, a field is a
number and a value (`varint`, eight fixed bytes, or a length-delimited string).
`encodeFields`/`decodeFields` are inverse to each other (`decodeFields_encode`).

A `Format` says how a message type is written as fields and how a decoder adds one
field to a partial message; `Format.codec` is its codec. Optional fields are
written by `opt`, repeated ones by `rep`, and `foldlM_opt`, `foldlM_rep` read them
back one group at a time, so the law of a concrete message is a chain of
rewrites. Fields with an unknown number or a value of another kind are skipped.
Groups and four-byte fields are rejected, and varints have no length limit.
-/

namespace Wire

universe u v

abbrev Bytes := List UInt8

/-! ## Varints -/

/-- Base-128 digits, least significant first; `fuel` bounds their number. -/
def varintAux : Nat → Nat → Bytes
  | 0, _ => []
  | fuel + 1, n =>
    if n < 128 then [UInt8.ofNat n]
    else UInt8.ofNat (n % 128 + 128) :: varintAux fuel (n / 128)

def encodeVarint (n : Nat) : Bytes := varintAux (n + 1) n

def decodeVarint : Bytes → Option (Nat × Bytes)
  | [] => none
  | b :: bs =>
    if b.toNat < 128 then some (b.toNat, bs)
    else (decodeVarint bs).map fun r => (b.toNat - 128 + 128 * r.1, r.2)

theorem decodeVarint_aux {fuel n : Nat} (h : n < fuel) (rest : Bytes) :
    decodeVarint (varintAux fuel n ++ rest) = some (n, rest) := by
  induction fuel generalizing n with
  | zero => omega
  | succ fuel ih =>
    unfold varintAux
    split
    · next hn =>
      have hb : (UInt8.ofNat n).toNat = n := by
        rw [UInt8.toNat_ofNat']; omega
      simp [decodeVarint, hb, hn]
    · next hn =>
      have hb : (UInt8.ofNat (n % 128 + 128)).toNat = n % 128 + 128 := by
        rw [UInt8.toNat_ofNat']; omega
      have hlt : n / 128 < fuel := by omega
      rw [List.cons_append, decodeVarint, hb, if_neg (by omega), ih hlt]
      simp only [Option.map_some, Option.some.injEq, Prod.mk.injEq, and_true]
      omega

@[simp] theorem decodeVarint_encode (n : Nat) (rest : Bytes) :
    decodeVarint (encodeVarint n ++ rest) = some (n, rest) :=
  decodeVarint_aux (Nat.lt_succ_self n) rest

theorem encodeVarint_ne_nil (n : Nat) : encodeVarint n ≠ [] := by
  unfold encodeVarint varintAux
  split <;> simp

/-! ## Fixed-width integers -/

def encodeLE : Nat → Nat → Bytes
  | 0, _ => []
  | k + 1, n => UInt8.ofNat (n % 256) :: encodeLE k (n / 256)

def decodeLE : Bytes → Nat
  | [] => 0
  | b :: bs => b.toNat + 256 * decodeLE bs

@[simp] theorem encodeLE_length (k n : Nat) : (encodeLE k n).length = k := by
  induction k generalizing n with
  | zero => rfl
  | succ k ih => simp [encodeLE, ih]

theorem decodeLE_encode {k n : Nat} (h : n < 256 ^ k) : decodeLE (encodeLE k n) = n := by
  induction k generalizing n with
  | zero => simp only [Nat.pow_zero] at h; simp [encodeLE, decodeLE]; omega
  | succ k ih =>
    have hq : n / 256 < 256 ^ k := by
      rw [Nat.div_lt_iff_lt_mul (by decide)]
      rwa [Nat.pow_succ] at h
    have hb : (UInt8.ofNat (n % 256)).toNat = n % 256 := by
      rw [UInt8.toNat_ofNat']; omega
    rw [encodeLE, decodeLE, ih hq, hb]
    omega

/-! ## Fields -/

inductive Value
  | varint (n : Nat)
  | fixed64 (n : UInt64)
  | len (bs : Bytes)
deriving DecidableEq

structure Field where
  number : Nat
  value : Value
deriving DecidableEq

def encodeField (f : Field) : Bytes :=
  match f.value with
  | .varint n => encodeVarint (8 * f.number) ++ encodeVarint n
  | .fixed64 n => encodeVarint (8 * f.number + 1) ++ encodeLE 8 n.toNat
  | .len bs => encodeVarint (8 * f.number + 2) ++ (encodeVarint bs.length ++ bs)

/-- The value of wire type `w`, and the bytes after it. -/
def decodeValue (w : Nat) (bs : Bytes) : Option (Value × Bytes) :=
  match w with
  | 0 => (decodeVarint bs).map fun r => (.varint r.1, r.2)
  | 1 => if 8 ≤ bs.length then some (.fixed64 (UInt64.ofNat (decodeLE (bs.take 8))), bs.drop 8)
    else none
  | 2 => (decodeVarint bs).bind fun r =>
    if r.1 ≤ r.2.length then some (.len (r.2.take r.1), r.2.drop r.1) else none
  | _ => none

def decodeField (bs : Bytes) : Option (Field × Bytes) :=
  (decodeVarint bs).bind fun r =>
    (decodeValue (r.1 % 8) r.2).map fun v => (⟨r.1 / 8, v.1⟩, v.2)

theorem decodeField_encode (f : Field) (rest : Bytes) :
    decodeField (encodeField f ++ rest) = some (f, rest) := by
  obtain ⟨k, v⟩ := f
  cases v with
  | varint n =>
    simp [decodeField, encodeField, decodeValue, List.append_assoc]
  | fixed64 n =>
    have hm : (8 * k + 1) % 8 = 1 := by omega
    have hd : (8 * k + 1) / 8 = k := by omega
    have hn : decodeLE (encodeLE 8 n.toNat) = n.toNat := decodeLE_encode n.toNat_lt
    simp [decodeField, encodeField, decodeValue, List.append_assoc, hm, hd, hn]
  | len bs =>
    have hm : (8 * k + 2) % 8 = 2 := by omega
    have hd : (8 * k + 2) / 8 = k := by omega
    simp [decodeField, encodeField, decodeValue, List.append_assoc, hm, hd]

theorem encodeField_length_pos (f : Field) : 0 < (encodeField f).length := by
  have h := fun n => List.length_pos_iff.2 (encodeVarint_ne_nil n)
  unfold encodeField
  split <;> rw [List.length_append] <;> exact Nat.add_pos_left (h _) _

def encodeFields (fs : List Field) : Bytes := fs.flatMap encodeField

/-- All fields of `bs`; `fuel` bounds their number. -/
def decodeFields : Nat → Bytes → Option (List Field)
  | _, [] => some []
  | 0, _ :: _ => none
  | fuel + 1, b :: bs =>
    (decodeField (b :: bs)).bind fun r => (decodeFields fuel r.2).map fun fs => r.1 :: fs

theorem decodeFields_of_le {fs : List Field} {fuel : Nat} (h : fs.length ≤ fuel) :
    decodeFields fuel (encodeFields fs) = some fs := by
  induction fs generalizing fuel with
  | nil => cases fuel <;> rfl
  | cons f fs ih =>
    obtain ⟨fuel, rfl⟩ : ∃ k, fuel = k + 1 := ⟨fuel - 1, by simp at h; omega⟩
    have hdec := decodeField_encode f (encodeFields fs)
    have hpos := encodeField_length_pos f
    have he : encodeFields (f :: fs) = encodeField f ++ encodeFields fs := rfl
    rw [he]
    cases hb : encodeField f ++ encodeFields fs with
    | nil =>
      have := congrArg List.length hb
      rw [List.length_append, List.length_nil] at this
      omega
    | cons b bs =>
      rw [hb] at hdec
      have ih' := @ih fuel (by simpa using h)
      simp [decodeFields, hdec, ih']

theorem length_le_encodeFields (fs : List Field) : fs.length ≤ (encodeFields fs).length := by
  induction fs with
  | nil => simp
  | cons f fs ih =>
    have he : encodeFields (f :: fs) = encodeField f ++ encodeFields fs := rfl
    have := encodeField_length_pos f
    rw [he, List.length_append, List.length_cons]
    omega

theorem decodeFields_encode (fs : List Field) :
    decodeFields (encodeFields fs).length (encodeFields fs) = some fs :=
  decodeFields_of_le (length_le_encodeFields fs)

/-! ## Scalar types -/

/-- How a type is written as one value. `read` gives `none` on a value of another kind. -/
structure Scalar (α : Type u) where
  write : α → Value
  read : Value → Option α
  read_write : ∀ a, read (write a) = some a

attribute [simp] Scalar.read_write

namespace Scalar

def uint32 : Scalar UInt32 where
  write u := .varint u.toNat
  read
    | .varint n => some (UInt32.ofNat n)
    | _ => none
  read_write u := by simp

def uint64 : Scalar UInt64 where
  write u := .varint u.toNat
  read
    | .varint n => some (UInt64.ofNat n)
    | _ => none
  read_write u := by simp

/-- Signed integers are written in 64-bit two's complement. -/
def int64 : Scalar Int64 where
  write i := .varint i.toUInt64.toNat
  read
    | .varint n => some (UInt64.ofNat n).toInt64
    | _ => none
  read_write i := by simp

def int32 : Scalar Int32 where
  write i := .varint i.toInt64.toUInt64.toNat
  read
    | .varint n => some (UInt64.ofNat n).toInt64.toInt32
    | _ => none
  read_write i := by simp

def fixed64 : Scalar UInt64 where
  write u := .fixed64 u
  read
    | .fixed64 n => some n
    | _ => none
  read_write _ := rfl

def bytes : Scalar Bytes where
  write bs := .len bs
  read
    | .len bs => some bs
    | _ => none
  read_write _ := rfl

def string : Scalar String where
  write s := .len s.toByteArray.data.toList
  read
    | .len bs => String.fromUTF8? ⟨bs.toArray⟩
    | _ => none
  read_write s := by
    have h := s.isValidUTF8
    simp [String.fromUTF8?, h]
    rfl

/-- An enumeration with the given numbers; other numbers are skipped. -/
def enum {α : Type u} (num : α → Nat) (ofNum : Nat → Option α)
    (h : ∀ a, ofNum (num a) = some a) : Scalar α where
  write a := .varint (num a)
  read
    | .varint n => ofNum n
    | _ => none
  read_write := h

/-- An embedded message. -/
def message {α : Type u} (c : Codec α) : Scalar α where
  write a := .len (c.encode a)
  read
    | .len bs => c.decode bs
    | _ => none
  read_write a := c.decode_encode a

end Scalar

/-! ## Messages -/

/-- An optional field. -/
def opt {α : Type u} (k : Nat) (sc : Scalar α) (o : Option α) : List Field :=
  (o.map fun a => (⟨k, sc.write a⟩ : Field)).toList

/-- A repeated field. -/
def rep {α : Type u} (k : Nat) (sc : Scalar α) (l : List α) : List Field :=
  l.map fun a => ⟨k, sc.write a⟩

/-- How a message type is written as fields and read back, one field at a time. -/
structure Format (M : Type v) where
  fields : M → List Field
  empty : M
  add : M → Field → Option M
  law : ∀ m, (fields m).foldlM add empty = some m

def Format.codec {M : Type v} (F : Format M) : Codec M where
  encode m := encodeFields (F.fields m)
  decode bs := (decodeFields bs.length bs).bind fun fs => fs.foldlM F.add F.empty
  decode_encode m := by
    rw [decodeFields_encode]
    exact F.law m

/-- Store the value read, or skip a value of another kind. -/
def store {M : Type v} {α : Type u} (sc : Scalar α) (x : Value) (m : M) (set : α → M) : Option M :=
  some ((sc.read x).elim m set)

section read
variable {M : Type v} {α : Type u} {add : M → Field → Option M} {k : Nat} {sc : Scalar α}

@[simp] theorem store_write (a : α) (m : M) (set : α → M) :
    store sc (sc.write a) m set = some (set a) := by
  simp [store]

/-- An optional field is read back by the setter the decoder uses for it. -/
theorem foldlM_opt (set : M → Option α → M) {m : M} (o : Option α) (rest : List Field)
    (hnone : set m none = m)
    (hadd : ∀ a, add m ⟨k, sc.write a⟩ = some (set m (some a))) :
    (opt k sc o ++ rest).foldlM add m = rest.foldlM add (set m o) := by
  cases o with
  | none => rw [hnone]; rfl
  | some a => simp [opt, hadd]

/-- A repeated field is read back by appending. -/
theorem foldlM_rep (push : M → List α → M) {m : M} (l : List α)
    (hnil : push m [] = m)
    (hadd : ∀ p a, add (push m p) ⟨k, sc.write a⟩ = some (push m (p ++ [a]))) :
    (rep k sc l).foldlM add m = some (push m l) := by
  suffices ∀ p, (rep k sc l).foldlM add (push m p) = some (push m (p ++ l)) by
    have h := this []
    rwa [hnil] at h
  induction l with
  | nil => intro p; simp [rep]
  | cons a l ih =>
    intro p
    have h := ih (p ++ [a])
    simp only [rep, List.append_assoc, List.singleton_append] at h ⊢
    rw [List.map_cons, List.foldlM_cons, hadd]
    exact h

end read

end Wire
