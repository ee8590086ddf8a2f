import Possession.Bytes
import Mathlib.Data.Nat.Digits.Lemmas

/-!
# Octet strings as numbers and as text

What the rest of the theory needs to know about octet strings: a string of known length is
fixed by the number it writes, texts are fixed by their UTF-8 forms, and a text of small
code points has one octet for each of its characters.
-/

namespace Possession

namespace Bytes

/-- The octets of a string are the digits of its number in base 256. -/
theorem toNat_eq_ofDigits (bs : Bytes) :
    toNat bs = Nat.ofDigits 256 (bs.map UInt8.toNat).reverse := by
  induction bs with
  | nil => rfl
  | cons b bs ih =>
    rw [toNat_cons, ih, List.map_cons, List.reverse_cons, Nat.ofDigits_append,
      Nat.ofDigits_singleton, List.length_reverse, List.length_map]
    show _ * 256 ^ bs.length + _ = _
    ring

theorem toNat_octet_lt (bs : Bytes) :
    ∀ d ∈ (bs.map UInt8.toNat).reverse, d < 256 := by
  intro d hd
  rw [List.mem_reverse] at hd
  obtain ⟨b, -, rfl⟩ := List.mem_map.mp hd
  exact b.toNat_lt

theorem toNat_lt (bs : Bytes) : toNat bs < 256 ^ bs.length := by
  rw [toNat_eq_ofDigits]
  have := Nat.ofDigits_lt_base_pow_length (by omega : 1 < 256) (toNat_octet_lt bs)
  rwa [List.length_reverse, List.length_map] at this

/-- Strings of one length that write the same number are the same. -/
theorem eq_of_toNat_eq {a b : Bytes} (hlen : a.length = b.length) (h : toNat a = toNat b) :
    a = b := by
  -- digit lists of one length are fixed by their number
  rw [toNat_eq_ofDigits, toNat_eq_ofDigits] at h
  have hd := Nat.ofDigits_inj_of_len_eq (by omega) (by simpa using hlen) (toNat_octet_lt a)
    (toNat_octet_lt b) h
  exact List.map_injective_iff.mpr (fun _ _ => UInt8.toNat_inj.mp)
    (List.reverse_injective hd)

/-- The number of two strings put together. -/
theorem toNat_append (a b : Bytes) :
    toNat (a ++ b) = toNat a * 256 ^ b.length + toNat b := by
  unfold toNat
  rw [List.foldl_append]
  exact foldl_toNat b _

/-- Strings of one length are in the order of their numbers. -/
theorem lt_iff_toNat_lt {a b : Bytes} (h : a.length = b.length) :
    a < b ↔ toNat a < toNat b := by
  induction a generalizing b with
  | nil =>
    rw [List.length_eq_zero_iff.mp h.symm]
    exact iff_of_false (List.not_lt_nil []) (Nat.lt_irrefl _)
  | cons x a ih =>
    cases b with
    | nil => cases h
    | cons y b =>
      have hlen : a.length = b.length := Nat.succ.inj h
      have ha := toNat_lt a
      have hb := toNat_lt b
      rw [hlen] at ha
      rw [List.cons_lt_cons_iff, ih hlen, UInt8.lt_iff_toNat_lt, ← UInt8.toNat_inj,
        toNat_cons, toNat_cons, hlen]
      change _ ↔ x.toNat * 256 ^ b.length + toNat a < y.toNat * 256 ^ b.length + toNat b
      -- what follows an octet is less than one more of it
      rcases Nat.lt_trichotomy x.toNat y.toNat with hxy | hxy | hxy
      · have hstep := Nat.mul_le_mul_right (256 ^ b.length) hxy
        rw [Nat.succ_mul] at hstep
        omega
      · rw [hxy]
        omega
      · have hstep := Nat.mul_le_mul_right (256 ^ b.length) hxy
        rw [Nat.succ_mul] at hstep
        omega

/-- The octets written for a number are those of its remainder by what they can hold. -/
theorem toNat_ofNat (width n : Nat) : toNat (ofNat width n) = n % 256 ^ width := by
  induction width generalizing n with
  | zero =>
    rw [pow_zero, Nat.mod_one]
    rfl
  | succ w ih =>
    have hlast : toNat [UInt8.ofNat n] = n % 256 := Nat.zero_add _
    show toNat (ofNat w (n / 256) ++ [UInt8.ofNat n]) = _
    rw [toNat_append, ih, hlast, List.length_singleton, pow_one, pow_succ,
      Nat.mul_comm (256 ^ w) 256, Nat.mod_mul]
    ring

/-- The comparison that looks at every octet is equality. -/
theorem sameAs_eq_true_iff {a b : Bytes} : sameAs a b = true ↔ a = b := by
  unfold sameAs
  induction a generalizing b with
  | nil => cases b <;> simp
  | cons x xs ih =>
    cases b with
    | nil => simp
    | cons y ys =>
      simp only [Bool.and_eq_true, beq_iff_eq] at ih
      simp only [List.length_cons, List.zipWith_cons_cons, List.all_cons, Bool.and_eq_true,
        beq_iff_eq, Nat.add_right_cancel_iff, UInt8.xor_eq_zero_iff, List.cons.injEq]
      rw [← ih]
      tauto

/-- A text is fixed by its UTF-8 form. -/
theorem ofString_injective : Function.Injective ofString := by
  intro s t h
  apply String.toByteArray_inj.mp
  apply ByteArray.ext
  exact Array.toList_inj.mp h

/-- The UTF-8 form of two texts put together is their forms put together. -/
theorem ofString_append (s t : String) : ofString (s ++ t) = ofString s ++ ofString t := by
  unfold ofString
  rw [String.toUTF8_eq_toByteArray, String.toByteArray_append, ByteArray.data_append,
    Array.toList_append]
  rfl

/-- The UTF-8 form of a text is read as that text. -/
theorem toString?_ofString (s : String) : toString? (ofString s) = some s := by
  have hbytes : (⟨(ofString s).toArray⟩ : ByteArray) = s.toByteArray := by
    unfold ofString
    rw [Array.toArray_toList]
    rfl
  unfold toString? String.fromUTF8?
  rw [hbytes, dif_pos s.isValidUTF8]
  rfl

/-- A character of a small code point is one octet. -/
theorem utf8EncodeChar_of_lt {c : Char} (h : c.toNat < 128) :
    String.utf8EncodeChar c = [UInt8.ofNat c.toNat] := by
  have hval : c.val ≤ 127 := by
    show c.toNat ≤ 127
    omega
  exact String.utf8EncodeChar_eq_singleton (Char.utf8Size_eq_one_iff.mpr hval)

/-- A text of small code points has one octet for each of its characters. -/
theorem ofString_ofList {cs : List Char} (h : ∀ c ∈ cs, c.toNat < 128) :
    ofString (String.ofList cs) = cs.map fun c => UInt8.ofNat c.toNat := by
  unfold ofString
  rw [String.toUTF8_eq_toByteArray, String.toByteArray_ofList]
  induction cs with
  | nil => rfl
  | cons c cs ih =>
    have hcs := ih fun x hx => h x (List.mem_cons_of_mem _ hx)
    rw [List.utf8Encode_cons, List.utf8Encode_singleton,
      utf8EncodeChar_of_lt (h c (List.mem_cons_self ..)), ByteArray.data_append,
      Array.toList_append, hcs, List.map_cons]
    rfl

end Bytes

namespace Octets

variable {n : Nat}

theorem toNat_lt (o : Octets n) : Bytes.toNat o.bytes < 256 ^ n := by
  have := Bytes.toNat_lt o.bytes
  rwa [o.length_eq] at this

/-- Octets of one width that write the same number are the same. -/
theorem eq_of_toNat_eq {a b : Octets n} (h : Bytes.toNat a.bytes = Bytes.toNat b.bytes) :
    a = b :=
  Octets.ext (Bytes.eq_of_toNat_eq (by rw [a.length_eq, b.length_eq]) h)

theorem toNat_ofNat_of_lt {value : Nat} (h : value < 256 ^ n) :
    Bytes.toNat (ofNat n value).bytes = value := by
  show Bytes.toNat (Bytes.ofNat n value) = value
  rw [Bytes.toNat_ofNat, Nat.mod_eq_of_lt h]

/-- A string that is long enough is cut. -/
theorem bytes_fit_of_le {bs : Bytes} (h : n ≤ bs.length) :
    (fit n bs).bytes = bs.take n := by
  show bs.take n ++ List.replicate (n - bs.length) 0 = bs.take n
  rw [Nat.sub_eq_zero_of_le h, List.replicate_zero, List.append_nil]

/-- Octets fit in their own width. -/
theorem fit_bytes (o : Octets n) : fit n o.bytes = o := by
  apply Octets.ext
  rw [bytes_fit_of_le (Nat.le_of_eq o.length_eq.symm),
    List.take_of_length_le (Nat.le_of_eq o.length_eq)]

/-- Nothing is filled up with zeros. -/
theorem bytes_fit_nil : (fit n []).bytes = List.replicate n 0 := by
  show List.take n [] ++ List.replicate (n - List.length []) 0 = _
  rw [List.take_nil, List.nil_append, List.length_nil, Nat.sub_zero]

/-- Octets that do not fit do not matter. -/
theorem fit_take {m : Nat} (h : n ≤ m) (bs : Bytes) : fit n (bs.take m) = fit n bs := by
  apply Octets.ext
  have hmissing : n - (bs.take m).length = n - bs.length := by
    rw [List.length_take]
    omega
  show (bs.take m).take n ++ List.replicate (n - (bs.take m).length) 0 = _
  rw [hmissing, List.take_take, Nat.min_eq_left h]
  rfl

/-- The first octets of two strings put together. -/
theorem fit_append {m : Nat} (a : Octets m) (b : Octets n) :
    fit m (a.append b).bytes = a := by
  apply Octets.ext
  have hlen : (a.append b).bytes.length = m + n := (a.append b).length_eq
  rw [bytes_fit_of_le (by omega)]
  exact List.take_left' a.length_eq

/-- The last octets of two strings put together. -/
theorem drop_append {m : Nat} (a : Octets m) (b : Octets n) :
    (a.append b).bytes.drop m = b.bytes :=
  List.drop_left' a.length_eq

/-- Octets are their first ones and the rest put together. -/
theorem eq_append_of_drop {m : Nat} {o : Octets (m + n)} {b : Octets n}
    (h : o.bytes.drop m = b.bytes) : o = (fit m o.bytes).append b := by
  apply Octets.ext
  have hlen := o.length_eq
  show o.bytes = (fit m o.bytes).bytes ++ b.bytes
  rw [bytes_fit_of_le (by omega), ← h, List.take_append_drop]

/-- Octets of the width of two strings are two strings put together. -/
theorem exists_eq_append {m : Nat} (o : Octets (m + n)) :
    ∃ (a : Octets m) (b : Octets n), o = a.append b := by
  have hlen : (o.bytes.drop m).length = n := by
    rw [List.length_drop, o.length_eq, Nat.add_sub_cancel_left]
  exact ⟨_, ⟨o.bytes.drop m, hlen⟩, eq_append_of_drop rfl⟩

/-- A number is one of octets of a width exactly if it is below what they can write. -/
theorem exists_toNat_iff {value : Nat} : (∃ o : Octets n, value = o.toNat) ↔
    value < 256 ^ n := by
  constructor
  · intro h
    obtain ⟨o, rfl⟩ := h
    exact o.toNat_lt
  · intro h
    exact ⟨.ofNat n value, (toNat_ofNat_of_lt h).symm⟩

end Octets

end Possession
