import Possession.Proofs.Bytes
import Possession.Proofs.Result
import Possession.Token.Base62

/-!
# Base-62 numerals

Writing divides an octet string by 62 until nothing is left, and reading multiplies one by
62 and adds, both octet by octet in machine words. This file shows that the two are the
digits of a number and their number, and that they undo each other:

> `decode_eq_ok_iff`: a text is read as `n` octets exactly if it is not empty, each of its
> octets is a digit, and the number it writes is the number of those octets;
> `encode_of_decode`: what is written from those octets, as wide as the text, is the text;
> `decode_encode`: what is written from octets is read as these octets.

Zeros in front do not change the number, so a text is fixed by what it is read as only
together with its width. `length_encode` is the width of what is written, and `encode_succ`
the zero that a wider form begins with.
-/

namespace Possession.Token.Base62

/-! ### Digits -/

theorem digit_toNat_lt : ∀ d < 62, (digit d).toNat < 128 := by
  decide

theorem value?_digit : ∀ d < 62, value? (UInt8.ofNat (digit d).toNat) = some d := by
  decide

/-- The digits, by the three ranges of their codes. -/
theorem value?_eq_some_iff {b : UInt8} {d : Nat} :
    value? b = some d ↔
      (48 ≤ b.toNat ∧ b.toNat ≤ 57 ∧ d + 48 = b.toNat) ∨
        (97 ≤ b.toNat ∧ b.toNat ≤ 122 ∧ d + 87 = b.toNat) ∨
          (65 ≤ b.toNat ∧ b.toNat ≤ 90 ∧ d + 29 = b.toNat) := by
  unfold value?
  dsimp only
  split
  next hdec =>
    rw [Option.some.injEq]
    omega
  next =>
    split
    next hsmall =>
      rw [Option.some.injEq]
      omega
    next =>
      split
      next hcap =>
        rw [Option.some.injEq]
        omega
      next =>
        constructor
        · intro h
          cases h
        · omega

theorem lt_of_value? {b : UInt8} {d : Nat} (h : value? b = some d) : d < 62 := by
  rw [value?_eq_some_iff] at h
  omega

/-- Digits of one value are the same octet. -/
theorem value?_inj {a b : UInt8} {d : Nat} (ha : value? a = some d)
    (hb : value? b = some d) : a = b := by
  rw [value?_eq_some_iff] at ha hb
  apply UInt8.toNat_inj.mp
  omega

/-- A text of digits has one octet for each of them. -/
theorem ofString_map_digit {ds : List Nat} (h : ∀ d ∈ ds, d < 62) :
    Bytes.ofString (String.ofList (ds.map digit)) =
      ds.map fun d => UInt8.ofNat (digit d).toNat := by
  rw [Bytes.ofString_ofList, List.map_map]
  · rfl
  · intro c hc
    obtain ⟨d, hd, rfl⟩ := List.mem_map.mp hc
    exact digit_toNat_lt d (h d hd)

/-! ### The number of a text -/

/-- The value of an octet as a digit; zero if it is none. -/
def value (b : UInt8) : Nat := (value? b).getD 0

/-- The number that a string of digits writes, most significant first. -/
def number (text : Bytes) : Nat := Nat.ofDigits 62 (text.map value).reverse

theorem value_eq {b : UInt8} {d : Nat} (h : value? b = some d) : value b = d := by
  unfold value
  rw [h]
  rfl

theorem value_lt (b : UInt8) : value b < 62 := by
  unfold value
  cases h : value? b with
  | none => decide
  | some d => exact lt_of_value? h

theorem value_digit {d : Nat} (h : d < 62) : value (UInt8.ofNat (digit d).toNat) = d :=
  value_eq (value?_digit d h)

/-- A digit is the octet of the character of its value. -/
theorem digit_value {b : UInt8} (h : (value? b).isSome) :
    UInt8.ofNat (digit (value b)).toNat = b := by
  obtain ⟨d, hd⟩ := Option.isSome_iff_exists.mp h
  rw [value_eq hd]
  exact value?_inj (value?_digit d (lt_of_value? hd)) hd

@[simp] theorem number_nil : number [] = 0 := rfl

theorem number_cons (b : UInt8) (text : Bytes) :
    number (b :: text) = value b * 62 ^ text.length + number text := by
  unfold number
  rw [List.map_cons, List.reverse_cons, Nat.ofDigits_append, Nat.ofDigits_singleton,
    List.length_reverse, List.length_map]
  ring

/-! ### Writing -/

theorem divide_snd_lt {r : UInt32} (h : r.toNat < 62) (bs : Bytes) :
    (divide r bs).2.toNat < 62 := by
  induction bs generalizing r with
  | nil => exact h
  | cons b bs ih =>
    have hmod : (accumulate r b % 62).toNat < 62 := by
      rw [UInt32.toNat_mod]
      exact Nat.mod_lt _ (by decide)
    exact ih hmod

/-- Dividing from nothing gives quotient and remainder of the number by 62. -/
theorem toNat_divide (bs : Bytes) :
    Bytes.toNat (divide 0 bs).1 = Bytes.toNat bs / 62 ∧
      (divide 0 bs).2.toNat = Bytes.toNat bs % 62 := by
  have heq := divide_eq (r := 0) (by decide) bs
  have hlt := divide_snd_lt (r := 0) (by decide) bs
  rw [UInt32.toNat_zero, Nat.zero_mul, Nat.zero_add] at heq
  constructor <;> omega

/-- The digits of an octet string are the digits of its number. -/
theorem digits_eq (bs : Bytes) :
    digits bs = (Nat.digits 62 (Bytes.toNat bs)).map digit := by
  induction bs using digits.induct with
  | case1 bs hzero =>
    have hnum : Bytes.toNat bs = 0 := by
      rw [← Bytes.toNat_dropWhile, hzero]
      rfl
    rw [digits, hnum, Nat.digits_zero, List.map_nil]
    split
    · rfl
    next heq => rw [hzero] at heq; cases heq
  | case2 bs b rest hcons ih =>
    obtain ⟨hquot, hrem⟩ := toNat_divide (b :: rest)
    have hnum : Bytes.toNat bs = Bytes.toNat (b :: rest) := by
      rw [← Bytes.toNat_dropWhile, hcons]
    have hpos : 0 < Bytes.toNat bs :=
      Nat.lt_of_le_of_lt (Nat.zero_le _) (toNat_divide_lt hcons)
    rw [digits, Nat.digits_def' (by omega) hpos, List.map_cons]
    split
    next heq => rw [hcons] at heq; cases heq
    next b' rest' heq =>
      rw [hcons] at heq
      cases heq
      rw [ih, hquot, hrem, hnum]

/-- The written form is the digits of the number, with zeros in front up to the width. -/
theorem encode_eq (bs : Bytes) (width : Nat) :
    encode bs width =
      String.ofList ((Nat.digitsAppend 62 width (Bytes.toNat bs)).reverse.map digit) := by
  unfold encode padLeft Nat.digitsAppend
  rw [digits_eq, List.reverse_append, List.map_append, List.reverse_replicate,
    List.map_replicate, List.map_reverse, List.length_reverse, List.length_map]
  rfl

/-! ### Reading -/

/-- Result and carry of one step make up the number times 62 and the digit added. A carry
below 62 stays below 62, so no machine word on the way runs over. -/
theorem multiplyAdd_eq {carry : UInt32} (h : carry.toNat < 62) (bs : Bytes) :
    (multiplyAdd carry bs).2.toNat < 62 ∧
      (multiplyAdd carry bs).2.toNat * 256 ^ bs.length +
        Bytes.toNat (multiplyAdd carry bs).1 = Bytes.toNat bs * 62 + carry.toNat := by
  induction bs with
  | nil =>
    refine ⟨h, ?_⟩
    show carry.toNat * 256 ^ 0 + 0 = 0 * 62 + carry.toNat
    omega
  | cons b bs ih =>
    obtain ⟨hlt, heq⟩ := ih
    have hb := b.toNat_lt
    have hacc : (b.toUInt32 * 62 + (multiplyAdd carry bs).2).toNat =
        b.toNat * 62 + (multiplyAdd carry bs).2.toNat := by
      rw [UInt32.toNat_add, UInt32.toNat_mul, UInt8.toNat_toUInt32]
      show (b.toNat * 62 % 2 ^ 32 + (multiplyAdd carry bs).2.toNat) % 2 ^ 32 = _
      omega
    have hcarry : (multiplyAdd carry (b :: bs)).2.toNat =
        (b.toNat * 62 + (multiplyAdd carry bs).2.toNat) / 256 := by
      show ((b.toUInt32 * 62 + (multiplyAdd carry bs).2) / 256).toNat = _
      rw [UInt32.toNat_div, hacc]
      rfl
    have hout : Bytes.toNat (multiplyAdd carry (b :: bs)).1 =
        (b.toNat * 62 + (multiplyAdd carry bs).2.toNat) % 256 * 256 ^ bs.length +
          Bytes.toNat (multiplyAdd carry bs).1 := by
      show Bytes.toNat
        (((b.toUInt32 * 62 + (multiplyAdd carry bs).2) % 256).toUInt8 :: _) = _
      rw [Bytes.toNat_cons, length_multiplyAdd, UInt32.toNat_toUInt8,
        UInt32.toNat_mod, hacc]
      show _ % 256 % 256 * _ + _ = _
      rw [Nat.mod_mod]
      rfl
    rw [hcarry, hout, List.length_cons, Bytes.toNat_cons]
    refine ⟨by omega, ?_⟩
    -- the octet and the carry that go out are quotient and remainder of one number
    generalize hn : b.toNat * 62 + (multiplyAdd carry bs).2.toNat = n at *
    calc n / 256 * 256 ^ (bs.length + 1) +
          (n % 256 * 256 ^ bs.length + Bytes.toNat (multiplyAdd carry bs).1)
        = (256 * (n / 256) + n % 256) * 256 ^ bs.length +
            Bytes.toNat (multiplyAdd carry bs).1 := by ring
      _ = n * 256 ^ bs.length + Bytes.toNat (multiplyAdd carry bs).1 := by
          rw [Nat.div_add_mod]
      _ = b.toNat * 256 ^ bs.length * 62 + (Bytes.toNat bs * 62 + carry.toNat) := by
          rw [← heq, ← hn]
          ring
      _ = (b.toNat * Nat.pow 256 bs.length + Bytes.toNat bs) * 62 + carry.toNat := by
          show _ = (b.toNat * 256 ^ bs.length + Bytes.toNat bs) * 62 + carry.toNat
          ring

/-- Reading goes on exactly if the octet is a digit and no carry leaves the string. -/
theorem readDigits_cons {n : Nat} {b : UInt8} {text : Bytes} {out o : Octets n} :
    readDigits (b :: text) out = .ok o ↔
      (value? b).isSome ∧ ∃ next : Octets n,
        Bytes.toNat next.bytes = Bytes.toNat out.bytes * 62 + value b ∧
          readDigits text next = .ok o := by
  rw [readDigits]
  cases hb : value? b with
  | none =>
    constructor
    · intro h
      cases h
    · intro h
      obtain ⟨h, -⟩ := h
      cases h
  | some d =>
    have hd := lt_of_value? hb
    have hcarry : (UInt32.ofNat d).toNat = d :=
      UInt32.toNat_ofNat_of_lt' (Nat.lt_trans hd (by decide))
    have hsmall : (UInt32.ofNat d).toNat < 62 := by
      rw [hcarry]
      exact hd
    obtain ⟨-, heq⟩ := multiplyAdd_eq hsmall out.bytes
    rw [hcarry, out.length_eq] at heq
    have hval := value_eq hb
    dsimp only
    split
    next hne =>
      -- a carry is worth more than any string of this width
      have hpos : 0 < (multiplyAdd (UInt32.ofNat d) out.bytes).2.toNat :=
        Nat.pos_of_ne_zero fun h => hne (UInt32.toNat_inj.mp h)
      have hge := Nat.le_mul_of_pos_left (256 ^ n) hpos
      constructor
      · intro h
        cases h
      · intro h
        obtain ⟨-, next, hnext, -⟩ := h
        have := next.toNat_lt
        omega
    next heq0 =>
      rw [Decidable.not_not] at heq0
      rw [heq0, UInt32.toNat_zero, Nat.zero_mul, Nat.zero_add] at heq
      constructor
      · intro h
        refine ⟨rfl, _, ?_, h⟩
        rw [hval]
        exact heq
      · intro h
        obtain ⟨-, next, hnext, h⟩ := h
        rw [hval, ← heq] at hnext
        rw [← h]
        congr 1
        exact Octets.eq_of_toNat_eq hnext.symm

/-- Reading digits onto octets: their number goes in front of the number of the text. -/
theorem readDigits_eq_ok_iff {n : Nat} {text : Bytes} {out o : Octets n} :
    readDigits text out = .ok o ↔
      (∀ b ∈ text, (value? b).isSome) ∧
        Bytes.toNat out.bytes * 62 ^ text.length + number text = Bytes.toNat o.bytes := by
  induction text generalizing out with
  | nil =>
    show Except.ok out = Except.ok o ↔ _
    rw [number_nil, List.length_nil, pow_zero, Nat.mul_one, Nat.add_zero]
    constructor
    · intro h
      cases h
      exact ⟨by simp, rfl⟩
    · intro h
      obtain ⟨-, h⟩ := h
      rw [Octets.eq_of_toNat_eq h]
  | cons b text ih =>
    rw [readDigits_cons, List.forall_mem_cons, number_cons, List.length_cons]
    constructor
    · intro h
      obtain ⟨hb, next, hnext, h⟩ := h
      obtain ⟨hall, hnum⟩ := ih.mp h
      rw [hnext] at hnum
      refine ⟨⟨hb, hall⟩, ?_⟩
      rw [← hnum]
      ring
    · intro h
      obtain ⟨⟨hb, hall⟩, hnum⟩ := h
      -- the string read so far fits, because the whole does
      have hfit : Bytes.toNat out.bytes * 62 + value b < 256 ^ n := by
        have hle : Bytes.toNat out.bytes * 62 + value b ≤
            (Bytes.toNat out.bytes * 62 + value b) * 62 ^ text.length :=
          Nat.le_mul_of_pos_right _ (Nat.pow_pos (by omega))
        have hlt := o.toNat_lt
        rw [← hnum] at hlt
        have :
          Bytes.toNat out.bytes * 62 ^ (text.length + 1) + (value b * 62 ^ text.length +
            number text) =
            (Bytes.toNat out.bytes * 62 + value b) * 62 ^ text.length +
              number text := by ring
        omega
      refine ⟨hb, Octets.ofNat n (Bytes.toNat out.bytes * 62 + value b), ?_, ?_⟩
      · exact Octets.toNat_ofNat_of_lt hfit
      · rw [ih]
        refine ⟨hall, ?_⟩
        rw [Octets.toNat_ofNat_of_lt hfit, ← hnum]
        ring

theorem toNat_fit_nil (n : Nat) : Bytes.toNat (Octets.fit n []).bytes = 0 := by
  rw [Octets.bytes_fit_nil, ← Bytes.toNat_dropWhile, List.dropWhile_replicate]
  rfl

/-- A text is read exactly if it is a numeral whose number fits. -/
theorem decode_eq_ok_iff {n : Nat} {text : String} {o : Octets n} :
    decode n text = .ok o ↔
      Bytes.ofString text ≠ [] ∧ (∀ b ∈ Bytes.ofString text, (value? b).isSome) ∧
        number (Bytes.ofString text) = Bytes.toNat o.bytes := by
  unfold decode
  rw [Result.mapError_eq_ok]
  unfold decode?
  cases htext : Bytes.ofString text with
  | nil => simp
  | cons b rest =>
    show readDigits (b :: rest) (.fit n []) = .ok o ↔ _
    rw [readDigits_eq_ok_iff, toNat_fit_nil, Nat.zero_mul, Nat.zero_add]
    constructor
    · intro h
      obtain ⟨hall, hnum⟩ := h
      exact ⟨List.cons_ne_nil _ _, hall, hnum⟩
    · intro h
      obtain ⟨-, hall, hnum⟩ := h
      exact ⟨hall, hnum⟩

/-! ### Writing and reading -/

/-- A written form consists of digits. -/
theorem exists_digit_of_mem_encode {bs : Bytes} {width : Nat} {c : Char}
    (h : c ∈ (encode bs width).toList) : ∃ d < 62, digit d = c := by
  rw [encode_eq, String.toList_ofList] at h
  obtain ⟨d, hd, rfl⟩ := List.mem_map.mp h
  exact ⟨d, Nat.lt_of_mem_digitsAppend (by omega) width d (List.mem_reverse.mp hd), rfl⟩

/-- The written form of octets writes their number in digits. -/
theorem ofString_encode (bs : Bytes) (width : Nat) :
    Bytes.ofString (encode bs width) =
      (Nat.digitsAppend 62 width (Bytes.toNat bs)).reverse.map
        fun d => UInt8.ofNat (digit d).toNat := by
  rw [encode_eq, ofString_map_digit]
  intro d hd
  exact Nat.lt_of_mem_digitsAppend (by omega) width d (List.mem_reverse.mp hd)

/-- The octets of a written form have values as digits. -/
theorem isSome_value?_of_mem_encode {bs : Bytes} {width : Nat} {b : UInt8}
    (h : b ∈ Bytes.ofString (encode bs width)) : (value? b).isSome := by
  rw [ofString_encode] at h
  obtain ⟨d, hd, rfl⟩ := List.mem_map.mp h
  rw [value?_digit d
    (Nat.lt_of_mem_digitsAppend (by omega) width d (List.mem_reverse.mp hd))]
  rfl

/-- A written form writes the number of its octets: zeros in front of the digits do not
count. -/
theorem number_encode (bs : Bytes) (width : Nat) :
    number (Bytes.ofString (encode bs width)) = Bytes.toNat bs := by
  have hdig : ∀ d ∈ Nat.digitsAppend 62 width (Bytes.toNat bs), d < 62 :=
    fun d hd => Nat.lt_of_mem_digitsAppend (by omega) width d hd
  have hvalues : (Bytes.ofString (encode bs width)).map value =
      (Nat.digitsAppend 62 width (Bytes.toNat bs)).reverse := by
    rw [ofString_encode, List.map_map]
    calc _ = (Nat.digitsAppend 62 width (Bytes.toNat bs)).reverse.map id :=
          List.map_congr_left fun d hd => value_digit (hdig d (List.mem_reverse.mp hd))
      _ = _ := List.map_id _
  unfold number
  rw [hvalues, List.reverse_reverse, Nat.digitsAppend, Nat.ofDigits_append_replicate_zero,
    Nat.ofDigits_digits]

/-- What is written from octets is read as these octets, if there is anything to read. -/
theorem decode_encode {n : Nat} (o : Octets n) (width : Nat)
    (h : encode o.bytes width ≠ "") : decode n (encode o.bytes width) = .ok o := by
  rw [decode_eq_ok_iff]
  refine ⟨?_, fun b => isSome_value?_of_mem_encode, number_encode o.bytes width⟩
  intro hnil
  exact h (Bytes.ofString_injective hnil)

/-- A text of digits is the digits of their values. -/
theorem eq_ofList_of_isSome {text : String}
    (h : ∀ b ∈ Bytes.ofString text, (value? b).isSome) :
    text = String.ofList (((Bytes.ofString text).map value).map digit) := by
  -- texts are compared by their octets, where a digit and its value determine each other
  apply Bytes.ofString_injective
  rw [ofString_map_digit, List.map_map]
  · calc Bytes.ofString text = (Bytes.ofString text).map id := (List.map_id _).symm
      _ = _ := List.map_congr_left fun b hb => (digit_value (h b hb)).symm
  · intro d hd
    obtain ⟨b, -, rfl⟩ := List.mem_map.mp hd
    exact value_lt b

/-- A text of digits has one character for each of its octets. -/
theorem length_of_isSome {text : String}
    (h : ∀ b ∈ Bytes.ofString text, (value? b).isSome) :
    text.length = (Bytes.ofString text).length := by
  conv_lhs => rw [eq_ofList_of_isSome h]
  rw [String.length_ofList, List.length_map, List.length_map]

/-- What is written from the octets of a text, as wide as the text, is the text. -/
theorem encode_of_decode {n : Nat} {text : String} {o : Octets n}
    (h : decode n text = .ok o) : encode o.bytes text.length = text := by
  obtain ⟨-, hall, hnum⟩ := decode_eq_ok_iff.mp h
  have htext := eq_ofList_of_isSome hall
  have hlen := length_of_isSome hall
  -- among digit lists of one width, the number has no other than the one that was read
  have hdigits : Nat.digitsAppend 62 text.length (Bytes.toNat o.bytes) =
      ((Bytes.ofString text).map value).reverse := by
    rw [← hnum]
    apply (Nat.setInvOn_digitsAppend_ofDigits (by omega) text.length).1
    constructor
    · rw [List.length_reverse, List.length_map, hlen]
    · intro d hd
      obtain ⟨b, -, rfl⟩ := List.mem_map.mp (List.mem_reverse.mp hd)
      exact value_lt b
  rw [encode_eq, hdigits, List.reverse_reverse]
  exact htext.symm

/-- A text is read as octets exactly if it is what is written from them, as wide as the
text. -/
theorem decode_eq_ok_iff_encode {n : Nat} {text : String} {o : Octets n} (hne : text ≠ "") :
    decode n text = .ok o ↔ encode o.bytes text.length = text := by
  constructor
  · exact encode_of_decode
  · intro h
    have hdec := decode_encode o text.length
    rw [h] at hdec
    exact hdec hne

/-! ### Widths -/

/-- The width of a written form. -/
theorem length_encode (bs : Bytes) (width : Nat) :
    (encode bs width).length = max width (Nat.digits 62 (Bytes.toNat bs)).length := by
  rw [encode_eq, String.length_ofList, List.length_map, List.length_reverse,
    Nat.digitsAppend, List.length_append, List.length_replicate]
  omega

/-- One more character of width is one more zero in front, if the digits do not fill it. -/
theorem encode_succ (bs : Bytes) (width : Nat) :
    encode bs (width + 1) =
      if (encode bs width).length = width then "0" ++ encode bs width
      else encode bs width := by
  have hcount : (digits bs).reverse.length = (Nat.digits 62 (Bytes.toNat bs)).length := by
    rw [List.length_reverse, digits_eq, List.length_map]
  rw [length_encode, ← hcount]
  unfold encode padLeft
  generalize (digits bs).reverse = ds
  split
  next heq =>
    have hzeros : width + 1 - ds.length = (width - ds.length) + 1 := by omega
    rw [hzeros, List.replicate_succ, List.cons_append]
    apply String.toList_inj.mp
    rw [String.toList_append, String.toList_ofList, String.toList_ofList,
      String.toList_ofList]
    rfl
  next hne =>
    have hzeros : width + 1 - ds.length = width - ds.length := by omega
    rw [hzeros]

/-- Octets are written within a bound that has as many numerals as they have numbers. -/
theorem length_encode_le (bs : Bytes) {width bound : Nat} (hw : width ≤ bound)
    (h : 256 ^ bs.length ≤ 62 ^ bound) :
    width ≤ (encode bs width).length ∧ (encode bs width).length ≤ bound := by
  have hdigits : (Nat.digits 62 (Bytes.toNat bs)).length ≤ bound :=
    (Nat.digits_length_le_iff (by omega) _).mpr (Nat.lt_of_lt_of_le (Bytes.toNat_lt bs) h)
  rw [length_encode]
  omega

end Possession.Token.Base62
