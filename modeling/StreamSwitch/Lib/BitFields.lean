import StreamSwitch.Lib.Bits

/-!
# Records of bit fields

A record is a list of fields, a width and a value each, the highest bit of a field first. `pack`
makes bytes of bits and `unpack` bits of bytes; `readFields` takes fields of given widths off
bits. `readFields_fieldBits`: what is read are the values that were written, in their widths.
-/

namespace Bits

abbrev Field := Nat × Nat

/-- The bits of a record. -/
def fieldBits (fs : List Field) : List Bool := fs.flatMap fun f => ofNat f.1 f.2

/-- How many bits a record has. -/
def width (fs : List Field) : Nat := (fs.map Prod.fst).sum

/-- Bytes of bits, eight each; the last byte is filled with zeros. -/
def pack : List Bool → List UInt8
  | [] => []
  | b :: bs =>
    UInt8.ofNat (value ((b :: bs ++ List.replicate 7 false).take 8)) :: pack (bs.drop 7)
termination_by bs => bs.length
decreasing_by
  simp only [List.length_drop, List.length_cons]
  omega

/-- Bits of bytes, the highest one of a byte first. -/
def unpack (bytes : List UInt8) : List Bool := bytes.flatMap fun b => ofNat 8 b.toNat

/-- Takes fields of these widths off the bits. -/
def readFields : List Nat → List Bool → Option (List Nat × List Bool)
  | [], bs => some ([], bs)
  | w :: ws, bs =>
    if w ≤ bs.length then
      (readFields ws (bs.drop w)).map fun (vs, rest) => (value (bs.take w) :: vs, rest)
    else none

/-- Records of the same widths, up to the end of the bits; `fuel` bounds their number. -/
def readRecords (ws : List Nat) : (fuel : Nat) → List Bool → Option (List (List Nat))
  | 0, bs => if bs = [] then some [] else none
  | fuel + 1, bs =>
    if bs = [] then some []
    else (readFields ws bs).bind fun r => (readRecords ws fuel r.2).map (r.1 :: ·)

/-- The values fit their widths. -/
def Fits (fs : List Field) : Prop := ∀ f ∈ fs, f.2 < 2 ^ f.1

variable {bs xs ys rest : List Bool} {fs : List Field}

theorem length_fieldBits (fs : List Field) : (fieldBits fs).length = width fs := by
  induction fs with
  | nil => rfl
  | cons f fs ih =>
    rw [fieldBits, List.flatMap_cons, List.length_append, length_ofNat]
    show f.1 + (fieldBits fs).length = f.1 + width fs
    rw [ih]

theorem fieldBits_append (fs gs : List Field) : fieldBits (fs ++ gs) = fieldBits fs ++ fieldBits gs :=
  List.flatMap_append

theorem width_append (fs gs : List Field) : width (fs ++ gs) = width fs + width gs := by
  rw [width, List.map_append, List.sum_append]
  rfl

theorem width_replicate (n : Nat) (f : Field) : width (List.replicate n f) = n * f.1 := by
  induction n with
  | zero => simp [width]
  | succ n ih =>
    rw [List.replicate_succ, Nat.succ_mul, Nat.add_comm, ← ih]
    rfl

/-! ## Bytes -/

theorem dvd_append (h : xs.length = 8) (hrest : 8 ∣ rest.length) : 8 ∣ (xs ++ rest).length := by
  rw [List.length_append]
  omega

/-- Whole bytes, one after the other. -/
theorem bytes_induction {P : (bs : List Bool) → 8 ∣ bs.length → Prop} (nil : P [] (Nat.dvd_zero 8))
    (byte : ∀ (xs rest : List Bool) (h : xs.length = 8) (hrest : 8 ∣ rest.length), P rest hrest →
      P (xs ++ rest) (dvd_append h hrest)) :
    ∀ (bs : List Bool) (h : 8 ∣ bs.length), P bs h := by
  intro bs h
  induction hn : bs.length using Nat.strongRecOn generalizing bs with
  | ind n ih =>
    by_cases hnil : bs = []
    · subst hnil
      exact nil
    · have hpos := List.length_pos_iff.2 hnil
      have hdrop : (bs.drop 8).length = bs.length - 8 := List.length_drop
      have htake : (bs.take 8).length = 8 := by
        rw [List.length_take]
        omega
      have hrest : 8 ∣ (bs.drop 8).length := by omega
      have hstep := byte _ _ htake hrest (ih _ (by omega) (bs.drop 8) hrest rfl)
      simp only [List.take_append_drop] at hstep
      exact hstep

/-- The first byte is that of the first eight bits. -/
theorem pack_byte (h : xs.length = 8) (rest : List Bool) :
    pack (xs ++ rest) = UInt8.ofNat (value xs) :: pack rest := by
  obtain ⟨b, xs, rfl⟩ := List.exists_cons_of_length_eq_add_one h
  have htail : xs.length = 7 := Nat.succ.inj h
  rw [List.cons_append, pack, List.drop_left' htail, ← List.cons_append, List.append_assoc,
    List.take_left' h]

theorem pack_append {xs ys : List Bool} (h : 8 ∣ xs.length) : pack (xs ++ ys) = pack xs ++ pack ys := by
  induction xs, h using bytes_induction with
  | nil => rw [List.nil_append, pack, List.nil_append]
  | byte xs rest h8 _ ih => rw [List.append_assoc, pack_byte h8, pack_byte h8, ih, List.cons_append]

theorem length_pack (h : 8 ∣ bs.length) : (pack bs).length = bs.length / 8 := by
  induction bs, h using bytes_induction with
  | nil =>
    rw [pack]
    rfl
  | byte xs rest h8 _ ih =>
    rw [pack_byte h8, List.length_cons, ih, List.length_append, h8]
    omega

theorem unpack_append (a b : List UInt8) : unpack (a ++ b) = unpack a ++ unpack b :=
  List.flatMap_append

theorem length_unpack (bytes : List UInt8) : (unpack bytes).length = 8 * bytes.length := by
  induction bytes with
  | nil => rfl
  | cons b bytes ih =>
    rw [unpack, List.flatMap_cons, List.length_append, length_ofNat]
    show 8 + (unpack bytes).length = 8 * (bytes.length + 1)
    omega

theorem unpack_pack (h : 8 ∣ bs.length) : unpack (pack bs) = bs := by
  induction bs, h using bytes_induction with
  | nil =>
    rw [pack]
    rfl
  | byte xs rest h8 _ ih =>
    have hlt := value_lt xs
    rw [h8] at hlt
    have hbyte : (UInt8.ofNat (value xs)).toNat = value xs := by
      rw [UInt8.toNat_ofNat']
      omega
    have hfirst : ofNat 8 (value xs) = xs := by
      have := ofNat_value xs
      rwa [h8] at this
    rw [pack_byte h8]
    show ofNat 8 (UInt8.ofNat (value xs)).toNat ++ unpack (pack rest) = xs ++ rest
    rw [hbyte, hfirst, ih]

theorem pack_cons_take {p : List Bool} (hne : p ≠ []) {k : Nat} (hk : 8 ≤ p.length + k) :
    pack p = UInt8.ofNat (value ((p ++ List.replicate k false).take 8)) :: pack (p.drop 8) := by
  obtain ⟨b, p, rfl⟩ := List.exists_cons_of_ne_nil hne
  have htake : ((b :: p) ++ List.replicate 7 false).take 8 =
      ((b :: p) ++ List.replicate k false).take 8 := by
    simp only [List.take_append, List.take_replicate, List.length_cons] at hk ⊢
    congr 2
    omega
  rw [pack, htake, List.drop_succ_cons]

/-- What is left of the last byte is filled. -/
theorem unpack_pack_fill (bs : List Bool) :
    ∃ k < 8, unpack (pack bs) = bs ++ List.replicate k false := by
  induction hn : bs.length using Nat.strongRecOn generalizing bs with
  | ind n ih =>
    subst hn
    by_cases hnil : bs = []
    · have hpack : pack [] = [] := by rw [pack]
      exact ⟨0, by decide, by rw [hnil, hpack]; rfl⟩
    have hpos := List.length_pos_iff.2 hnil
    by_cases hlt : bs.length < 8
    · -- all that there is goes into one byte
      have h8 : (bs ++ List.replicate (8 - bs.length) false).length = 8 := by
        rw [List.length_append, List.length_replicate]
        omega
      have hdrop : bs.drop 8 = [] := List.drop_eq_nil_of_le (Nat.le_of_lt hlt)
      have hfill : pack bs = pack (bs ++ List.replicate (8 - bs.length) false) := by
        have hpack : pack [] = [] := by rw [pack]
        have hbyte := pack_byte h8 []
        rw [List.append_nil, hpack] at hbyte
        rw [pack_cons_take hnil (k := 8 - bs.length) (by omega), hdrop, hpack, hbyte,
          List.take_of_length_le (Nat.le_of_eq h8)]
      exact ⟨8 - bs.length, by omega, by rw [hfill, unpack_pack ⟨1, h8⟩]⟩
    · have htake : (bs.take 8).length = 8 := by
        rw [List.length_take]
        omega
      obtain ⟨k, hk, hrest⟩ := ih (bs.drop 8).length (by rw [List.length_drop]; omega) (bs.drop 8) rfl
      have hfirst : unpack (pack (bs.take 8)) = bs.take 8 := unpack_pack ⟨1, htake⟩
      refine ⟨k, hk, ?_⟩
      conv_lhs => rw [← List.take_append_drop 8 bs]
      rw [pack_append ⟨1, htake⟩, unpack_append, hfirst, hrest, ← List.append_assoc,
        List.take_append_drop]

theorem length_pack_eq (bs : List Bool) : (pack bs).length = (bs.length + 7) / 8 := by
  obtain ⟨k, hk, hfill⟩ := unpack_pack_fill bs
  have hlength := length_unpack (pack bs)
  rw [hfill, List.length_append, List.length_replicate] at hlength
  omega

/-! ## Reading -/

/-- **What was written is read**: in its width. -/
theorem readFields_fieldBits (fs : List Field) (rest : List Bool) :
    readFields (fs.map Prod.fst) (fieldBits fs ++ rest) =
      some (fs.map fun f => f.2 % 2 ^ f.1, rest) := by
  induction fs with
  | nil => rfl
  | cons f fs ih =>
    have hbits : fieldBits (f :: fs) ++ rest = ofNat f.1 f.2 ++ (fieldBits fs ++ rest) := by
      rw [fieldBits, List.flatMap_cons, List.append_assoc]
      rfl
    have hlen : (ofNat f.1 f.2).length = f.1 := length_ofNat f.1 f.2
    rw [hbits, List.map_cons, readFields, if_pos (by rw [List.length_append]; omega),
      List.drop_left' hlen, List.take_left' hlen, ih, value_ofNat]
    rfl

/-- Values that fit are read as they are. -/
theorem readFields_fits (h : Fits fs) (rest : List Bool) :
    readFields (fs.map Prod.fst) (fieldBits fs ++ rest) = some (fs.map Prod.snd, rest) := by
  have hvalues : fs.map (fun f => f.2 % 2 ^ f.1) = fs.map Prod.snd :=
    List.map_congr_left fun f hf => Nat.mod_eq_of_lt (h f hf)
  rw [readFields_fieldBits, hvalues]

/-- Records that are not empty, one behind the other. -/
theorem readRecords_fieldBits {ws : List Nat} (hpos : 0 < ws.sum) {rs : List (List Field)}
    (hws : ∀ r ∈ rs, r.map Prod.fst = ws) (hfits : ∀ r ∈ rs, Fits r) {fuel : Nat}
    (hfuel : rs.length ≤ fuel) :
    readRecords ws fuel (fieldBits rs.flatten) = some (rs.map fun r => r.map Prod.snd) := by
  induction rs generalizing fuel with
  | nil => cases fuel <;> rfl
  | cons r rs ih =>
    obtain ⟨hr, hrest⟩ := List.forall_mem_cons.1 hws
    obtain ⟨hfit, hfits⟩ := List.forall_mem_cons.1 hfits
    have hlength : (fieldBits r).length = ws.sum := by rw [length_fieldBits, width, hr]
    obtain ⟨fuel, rfl⟩ : ∃ n, fuel = n + 1 := ⟨fuel - 1, by simp at hfuel; omega⟩
    have hne : fieldBits (r :: rs).flatten ≠ [] := by
      refine List.length_pos_iff.1 ?_
      rw [List.flatten_cons, fieldBits_append, List.length_append]
      omega
    have hread := readFields_fits hfit (fieldBits rs.flatten)
    rw [hr, ← fieldBits_append, ← List.flatten_cons] at hread
    rw [readRecords, if_neg hne, hread, Option.bind_some, ih hrest hfits (Nat.le_of_succ_le_succ hfuel),
      Option.map_some, List.map_cons]

end Bits
