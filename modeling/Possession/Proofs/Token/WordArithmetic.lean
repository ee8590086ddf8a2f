import Possession.Proofs.Token.Alphabet

/-!
# Base-62 arithmetic in words

A number is written by dividing its octets in their places, and read by multiplying octets
in their places; the octet at hand and what is carried from one octet to the next share a
word of 32 bits. Here are both loops with the operations of a machine: shifts that lose what
they push out, casts that drop what does not fit, and an index in front of which no octet is
looked at any more. They write and read what the library writes and reads
(`Writing.Reached.text_eq`, `decode_eq_readInWords`), and nothing is lost in them:

> `arithmetic_stays_in_range`: at each octet that is divided the word is below 62 times 256,
> and each quotient is an octet; each remainder has a digit; in front of the index there are
> zeros; each pass leaves a smaller number, so the passes come to an end; and at each octet
> that is multiplied the carry is at most 61 and the word has at most 14 bits.

Each bound follows from the one at the octet before: a remainder below 62 makes a word below
62 times 256, and with it a remainder below 62 again (`dividesInRange`); a carry of at most
61 makes a word of at most 255 times 62 and 61, from which at most 61 is carried on
(`multipliesInRange`). From pass to pass it is the index that has to be right: it stands at
the first octet that is not zero, so that a pass divides all of the number that is left, and
divides something (`Writing.Reached.positioned`).
-/

namespace Possession.Token.Base62

/-! ## Dividing in places -/

/-- The word that is divided at an octet: the remainder so far, moved up, with the octet
below it. -/
def shiftIn (remainder : UInt32) (b : UInt8) : UInt32 := remainder <<< 8 ||| b.toUInt32

/-- One octet of a pass: its quotient comes behind those so far, and its remainder is
carried on. -/
def divideOctet (state : Bytes × UInt32) (b : UInt8) : Bytes × UInt32 :=
  (state.1 ++ [(shiftIn state.2 b / 62).toUInt8], shiftIn state.2 b % 62)

/-- A pass over octets from the first on: the quotients in their places, and the last
remainder. -/
def divideOctets (bs : Bytes) : Bytes × UInt32 := bs.foldl divideOctet ([], 0)

/-- The variables of the loop that writes a number. -/
structure Writing where
  /-- The number that is left, the most significant octet first. -/
  number : Bytes
  /-- The place of the first octet that is not zero; behind the last if all are. -/
  start : Nat
  /-- The digits that are written, the least significant first. -/
  digits : Bytes
deriving DecidableEq

namespace Writing

/-- Before the first pass. -/
def ofNumber (bs : Bytes) : Writing := ⟨bs, bs.findIdx (· != 0), []⟩

/-- One pass: the octets from `start` on are divided, the remainder is looked up in the
alphabet, and `start` moves on over what has become zero. There is none if the remainder is
no place of the alphabet. -/
def pass (w : Writing) : Option Writing :=
  let divided := divideOctets (w.number.drop w.start)
  let number := w.number.take w.start ++ divided.1
  alphabet[divided.2.toNat]?.map fun digit =>
    ⟨number, w.start + (number.drop w.start).findIdx (· != 0), w.digits ++ [digit]⟩

/-- The text that is made of the digits: zeros behind them up to a width, and all turned
round. -/
def text (w : Writing) (width : Nat) : Bytes :=
  (w.digits ++ List.replicate (width - w.digits.length) 48).reverse

/-- The octets in a pass, when those of `front` have been divided and those of `rest` have
not. -/
def during (w : Writing) (front rest : Bytes) : Bytes :=
  w.number.take w.start ++ (divideOctets front).1 ++ rest

/-- The states between passes, from the first on. -/
inductive Reached (bs : Bytes) : Writing → Prop where
  | start : Reached bs (ofNumber bs)
  | pass {w next : Writing} : Reached bs w → w.start < w.number.length →
      w.pass = some next → Reached bs next

end Writing

/-- The remainder that comes to an octet is below 62, and so is the one that is carried on;
the word is what it would be without bounds, below 62 times 256, and so are quotient and
remainder. -/
structure DividesInRange (remainder : UInt32) (b : UInt8) : Prop where
  carried : remainder.toNat < alphabet.length
  word : (shiftIn remainder b).toNat = remainder.toNat * 256 + b.toNat
  below : (shiftIn remainder b).toNat < 62 * 256
  quotient : (shiftIn remainder b / 62).toUInt8.toNat = (shiftIn remainder b).toNat / 62
  rest : (shiftIn remainder b % 62).toNat = (shiftIn remainder b).toNat % 62
  next : (shiftIn remainder b % 62).toNat < alphabet.length

theorem toNat_shiftIn {remainder : UInt32} (h : remainder.toNat < 62) (b : UInt8) :
    (shiftIn remainder b).toNat = remainder.toNat * 256 + b.toNat := by
  have hb : b.toNat < 2 ^ 8 := b.toNat_lt
  have hmoved : remainder.toNat <<< 8 % 2 ^ 32 = remainder.toNat <<< 8 := by
    rw [Nat.shiftLeft_eq]
    omega
  unfold shiftIn
  rw [UInt32.toNat_or, UInt32.toNat_shiftLeft, UInt8.toNat_toUInt32]
  -- the octet has only the bits from which the remainder has been moved away
  show remainder.toNat <<< 8 % 2 ^ 32 ||| b.toNat = _
  rw [hmoved, ← Nat.shiftLeft_add_eq_or_of_lt hb, Nat.shiftLeft_eq]

/-- Moving up and putting below is multiplying and adding. -/
theorem shiftIn_eq_accumulate {remainder : UInt32} (h : remainder.toNat < 62) (b : UInt8) :
    shiftIn remainder b = accumulate remainder b := by
  apply UInt32.toNat_inj.mp
  rw [toNat_shiftIn h, toNat_accumulate h]

/-- One octet that is divided. -/
theorem dividesInRange {remainder : UInt32} (h : remainder.toNat < 62) (b : UInt8) :
    DividesInRange remainder b := by
  have hb := b.toNat_lt
  have hword := toNat_shiftIn h b
  have hrest : (shiftIn remainder b % 62).toNat = (shiftIn remainder b).toNat % 62 :=
    UInt32.toNat_mod _ _
  have hquotient :
    (shiftIn remainder b / 62).toUInt8.toNat = (shiftIn remainder b).toNat / 62 := by
    rw [UInt32.toNat_toUInt8, UInt32.toNat_div]
    show (shiftIn remainder b).toNat / 62 % 256 = _
    omega
  refine ⟨?_, hword, by omega, hquotient, hrest, ?_⟩
  · rw [length_alphabet]
    exact h
  · rw [length_alphabet, hrest]
    exact Nat.mod_lt _ (by decide)

/-- Dividing in places is long division. -/
theorem foldl_divideOctet (quotients : Bytes) {remainder : UInt32}
    (h : remainder.toNat < 62) (bs : Bytes) : bs.foldl divideOctet (quotients, remainder) =
      (quotients ++ (divide remainder bs).1, (divide remainder bs).2) := by
  induction bs generalizing quotients remainder with
  | nil => rw [List.foldl_nil, divide, List.append_nil]
  | cons b bs ih =>
    -- the bound is what keeps the remainder of the loop and that of the division the same
    have hnext := (dividesInRange h b).next
    rw [length_alphabet] at hnext
    rw [List.foldl_cons, divideOctet, ih _ hnext, shiftIn_eq_accumulate h,
      List.append_assoc]
    rfl

theorem divideOctets_eq (bs : Bytes) : divideOctets bs = divide 0 bs :=
  foldl_divideOctet [] (by decide) bs

namespace Writing

variable {bs : Bytes} {w next : Writing}

/-! ### One pass -/

/-- The index stands at the first octet that is not zero. -/
def Positioned (w : Writing) : Prop := w.start = w.number.findIdx (· != 0)

namespace Positioned

theorem take_start (h : w.Positioned) :
    w.number.take w.start = w.number.takeWhile (· == 0) := by
  rw [h, List.takeWhile_eq_take_findIdx_not]
  rfl

theorem drop_start (h : w.Positioned) :
    w.number.drop w.start = w.number.dropWhile (· == 0) := by
  rw [h, List.dropWhile_eq_drop_findIdx_not]
  rfl

theorem eq_zero (h : w.Positioned) {b : UInt8} (hb : b ∈ w.number.take w.start) :
    b = 0 := by
  rw [h.take_start] at hb
  exact beq_iff_eq.mp (List.all_eq_true.mp List.all_takeWhile b hb)

theorem length_take (h : w.Positioned) : (w.number.take w.start).length = w.start := by
  rw [List.length_take, h]
  exact Nat.min_eq_left List.findIdx_le_length

/-- What is divided in a pass is all of the number. -/
theorem toNat_drop_start (h : w.Positioned) :
    Bytes.toNat (w.number.drop w.start) = Bytes.toNat w.number := by
  rw [h.drop_start, Bytes.toNat_dropWhile]

/-- Before the end there is an octet that is not zero, so something is left. -/
theorem toNat_pos (h : w.Positioned) (hlt : w.start < w.number.length) :
    0 < Bytes.toNat w.number := by
  have hcons := List.drop_eq_getElem_cons hlt
  rw [h.drop_start] at hcons
  exact Nat.lt_of_le_of_lt (Nat.zero_le _) (toNat_divide_lt hcons)

/-- At the end nothing is left. -/
theorem toNat_eq_zero (h : w.Positioned) (hend : w.number.length ≤ w.start) :
    Bytes.toNat w.number = 0 := by
  rw [← h.toNat_drop_start, List.drop_eq_nil_of_le hend]
  rfl

end Positioned

/-- A pass divides the number by 62 and writes the digit of its remainder. -/
structure LeadsTo (w next : Writing) : Prop where
  positioned : next.Positioned
  number : Bytes.toNat next.number = Bytes.toNat w.number / 62
  digits : next.digits = w.digits ++ [UInt8.ofNat (digit (Bytes.toNat w.number % 62)).toNat]

theorem LeadsTo.toNat_lt (h : w.LeadsTo next) (hw : w.Positioned)
    (hlt : w.start < w.number.length) : Bytes.toNat next.number < Bytes.toNat w.number := by
  rw [h.number]
  exact Nat.div_lt_self (hw.toNat_pos hlt) (by decide)

/-- There is a pass: the remainder is the number modulo 62, which has a digit. -/
theorem exists_pass (h : w.Positioned) : ∃ next, w.pass = some next ∧ w.LeadsTo next := by
  obtain ⟨hquotient, hremainder⟩ := toNat_divide (w.number.drop w.start)
  rw [h.toNat_drop_start] at hquotient hremainder
  have hdigit := getElem?_alphabet (Nat.mod_lt (Bytes.toNat w.number) (by decide : 0 < 62))
  have hzeros : ∀ b ∈ w.number.take w.start, (b != 0) = false := by
    intro b hb
    rw [h.eq_zero hb]
    rfl
  unfold pass
  dsimp only
  rw [divideOctets_eq, hremainder, hdigit]
  refine ⟨_, rfl, ?_, ?_, rfl⟩
  · -- in front of the quotients there are still zeros
    show w.start + _ =
      List.findIdx _ (w.number.take w.start ++ (divide 0 (w.number.drop w.start)).1)
    rw [List.findIdx_append, List.findIdx_eq_length.mpr hzeros, if_neg (Nat.lt_irrefl _),
      h.length_take, List.drop_left' h.length_take, Nat.add_comm]
  · show Bytes.toNat (w.number.take w.start ++ (divide 0 (w.number.drop w.start)).1) = _
    rw [← hquotient, ← Bytes.toNat_dropWhile, List.dropWhile_append_of_pos,
      Bytes.toNat_dropWhile]
    intro b hb
    rw [h.eq_zero hb]
    rfl

theorem leadsTo_of_pass (h : w.Positioned) (hpass : w.pass = some next) :
    w.LeadsTo next := by
  obtain ⟨next', hpass', hnext⟩ := exists_pass h
  rw [hpass] at hpass'
  cases hpass'
  exact hnext

/-! ### All passes -/

namespace Reached

theorem positioned (h : Reached bs w) : w.Positioned := by
  induction h with
  | start => rfl
  | pass _ _ hpass ih => exact (leadsTo_of_pass ih hpass).positioned

/-- The digits that are written and those of the number that is left are those of the number
at the start. -/
theorem digits_eq (h : Reached bs w) :
    (Nat.digits 62 (Bytes.toNat bs)).map (fun d => UInt8.ofNat (digit d).toNat) =
      w.digits ++ (Nat.digits 62 (Bytes.toNat w.number)).map fun d =>
        UInt8.ofNat (digit d).toNat := by
  induction h with
  | start => rfl
  | @pass w next hw hlt hpass ih =>
    -- the least digit of what is left becomes the last of those that are written
    have hnext := leadsTo_of_pass hw.positioned hpass
    rw [ih, hnext.digits, hnext.number,
      Nat.digits_def' (by decide) (hw.positioned.toNat_pos hlt), List.map_cons,
      List.append_assoc]
    rfl

/-- From each state the passes come to an end, since the number becomes smaller. -/
theorem exists_end (h : Reached bs w) :
    ∃ last, Reached bs last ∧ last.number.length ≤ last.start := by
  induction hn : Bytes.toNat w.number using Nat.strong_induction_on generalizing w with
  | _ n ih =>
    rcases Nat.lt_or_ge w.start w.number.length with hlt | hend
    · -- something is left, and so less of it after the next pass
      obtain ⟨next, hpass, hnext⟩ := exists_pass h.positioned
      have hless : Bytes.toNat next.number < n := hn ▸ hnext.toNat_lt h.positioned hlt
      exact ih _ hless (h.pass hlt hpass) rfl
    · exact ⟨w, h, hend⟩

/-- At the end the digits are the written form. -/
theorem text_eq (h : Reached bs w) (hend : w.number.length ≤ w.start) (width : Nat) :
    w.text width = Bytes.ofString (encode bs width) := by
  have hdigits := h.digits_eq
  rw [h.positioned.toNat_eq_zero hend, Nat.digits_zero, List.map_nil,
    List.append_nil] at hdigits
  rw [ofString_encode, Nat.digitsAppend, List.map_reverse, List.map_append, hdigits,
    List.map_replicate, ← List.length_map (f := fun d => UInt8.ofNat (digit d).toNat),
    hdigits]
  rfl

/-- Two passes write 256; the first leaves 4, and its first octet has become zero. -/
example : (ofNumber [1, 0]).pass = some ⟨[0, 4], 1, [56]⟩ ∧
    (Writing.mk [0, 4] 1 [56]).pass = some ⟨[0, 0], 2, [56, 52]⟩ ∧
    (Writing.mk [0, 0] 2 [56, 52]).text 3 = Bytes.ofString "048" := by
  decide +kernel

/-- At each moment of a pass there are zeros in front of the index. -/
theorem eq_zero_of_mem_during (h : Reached bs w) {front rest : Bytes} {b : UInt8}
    (hb : b ∈ (w.during front rest).take w.start) : b = 0 := by
  unfold during at hb
  rw [List.append_assoc, List.take_left' h.positioned.length_take] at hb
  exact h.positioned.eq_zero hb

end Reached

end Writing

/-! ## Multiplying in places -/

/-- The value of a digit, counted from the first character of its range. -/
def valueWord? (c : UInt8) : Option UInt32 :=
  if 48 ≤ c ∧ c ≤ 57 then some (c - 48).toUInt32
  else if 97 ≤ c ∧ c ≤ 122 then some ((c - 97).toUInt32 + 10)
  else if 65 ≤ c ∧ c ≤ 90 then some ((c - 65).toUInt32 + 36)
  else none

/-- The word at an octet that is multiplied: its product with the carry so far. -/
def product (b : UInt8) (carry : UInt32) : UInt32 := b.toUInt32 * 62 + carry

/-- One octet from the right: the low octet of its word comes in front of those so far, and
the rest is carried on. -/
def multiplyOctet (b : UInt8) (state : Bytes × UInt32) : Bytes × UInt32 :=
  ((product b state.2 &&& 0xff).toUInt8 :: state.1, product b state.2 >>> 8)

/-- Multiplies octets by 62 in their places, from the last on, and adds the carry. -/
def multiplyOctets (carry : UInt32) (bs : Bytes) : Bytes × UInt32 :=
  bs.foldr multiplyOctet ([], carry)

/-- Reads digits onto `n` octets. -/
def readInWords (n : Nat) : Bytes → Bytes → Except Failure Bytes
  | [], out => .ok out
  | c :: text, out =>
    match valueWord? c with
    | none => .error (.badDigit c)
    | some carry =>
      if (multiplyOctets carry out).2 ≠ 0 then .error (.overflow n)
      else readInWords n text (multiplyOctets carry out).1

/-- The carry that comes to an octet is at most 61, and so is the one that goes on; the word
is what it would be without bounds, in 14 bits, and so are the octet and the carry that are
made of it. -/
structure MultipliesInRange (b : UInt8) (carry : UInt32) : Prop where
  carried : carry.toNat ≤ 61
  times : (b.toUInt32 * 62).toNat = b.toNat * 62
  word : (product b carry).toNat = b.toNat * 62 + carry.toNat
  below : (product b carry).toNat < 2 ^ 14
  low : (product b carry &&& 0xff).toUInt8.toNat = (product b carry).toNat % 256
  high : (product b carry >>> 8).toNat = (product b carry).toNat / 256
  next : (product b carry >>> 8).toNat ≤ 61

/-- The place of a character behind the first of its range, counted on from a value of the
first. -/
theorem toNat_sub_add (c first : UInt8) (value : UInt32) (h : first.toNat ≤ c.toNat)
    (hvalue : value.toNat < 62) :
    ((c - first).toUInt32 + value).toNat = c.toNat - first.toNat + value.toNat := by
  have hc := c.toNat_lt
  rw [UInt32.toNat_add, UInt8.toNat_toUInt32,
    UInt8.toNat_sub_of_le c first (UInt8.le_iff_toNat_le.mpr h)]
  omega

/-- No value of a digit is lost in a word. -/
theorem toNat_valueWord? (c : UInt8) : (valueWord? c).map UInt32.toNat = value? c := by
  unfold valueWord? value?
  simp only [UInt8.le_iff_toNat_le]
  show Option.map _ (if 48 ≤ c.toNat ∧ c.toNat ≤ 57 then _
    else if 97 ≤ c.toNat ∧ c.toNat ≤ 122 then _
    else if 65 ≤ c.toNat ∧ c.toNat ≤ 90 then _ else _) = _
  split
  next h =>
    rw [Option.map_some, UInt8.toNat_toUInt32,
      UInt8.toNat_sub_of_le c 48 (UInt8.le_iff_toNat_le.mpr h.1)]
    rfl
  next =>
    split
    next h =>
      have hsmall : c.toNat - 97 + 10 = c.toNat - 87 := by omega
      rw [Option.map_some, toNat_sub_add c 97 10 h.1 (by decide)]
      exact congrArg some hsmall
    next =>
      split
      next h =>
        have hcapital : c.toNat - 65 + 36 = c.toNat - 29 := by omega
        rw [Option.map_some, toNat_sub_add c 65 36 h.1 (by decide)]
        exact congrArg some hcapital
      next => rfl

/-- The carry with which a digit begins. -/
theorem value?_eq_toNat {c : UInt8} {carry : UInt32} (h : valueWord? c = some carry) :
    value? c = some carry.toNat := by
  rw [← toNat_valueWord?, h]
  rfl

/-- One octet that is multiplied. -/
theorem multipliesInRange {carry : UInt32} (h : carry.toNat ≤ 61) (b : UInt8) :
    MultipliesInRange b carry := by
  have hb := b.toNat_lt
  have htimes : (b.toUInt32 * 62).toNat = b.toNat * 62 := by
    rw [UInt32.toNat_mul, UInt8.toNat_toUInt32]
    show b.toNat * 62 % 2 ^ 32 = _
    omega
  have hword : (product b carry).toNat = b.toNat * 62 + carry.toNat := by
    unfold product
    rw [UInt32.toNat_add, htimes]
    omega
  have hlow : (product b carry &&& 0xff).toNat = (product b carry).toNat % 256 := by
    rw [UInt32.toNat_and]
    exact Nat.and_two_pow_sub_one_eq_mod _ 8
  have hhigh : (product b carry >>> 8).toNat = (product b carry).toNat / 256 := by
    rw [UInt32.toNat_shiftRight]
    exact Nat.shiftRight_eq_div_pow _ 8
  refine ⟨h, htimes, hword, by omega, ?_, hhigh, by omega⟩
  rw [UInt32.toNat_toUInt8, hlow]
  exact Nat.mod_mod _ 256

/-- What is carried on is at most 61. -/
theorem multiplyOctets_carry_le {carry : UInt32} (h : carry.toNat ≤ 61) (bs : Bytes) :
    (multiplyOctets carry bs).2.toNat ≤ 61 := by
  induction bs with
  | nil => exact h
  | cons b bs ih => exact (multipliesInRange ih b).next

/-- Masks and shifts are remainders and quotients. -/
theorem multiplyOctets_eq {carry : UInt32} (h : carry.toNat ≤ 61) (bs : Bytes) :
    multiplyOctets carry bs = multiplyAdd carry bs := by
  induction bs with
  | nil => rfl
  | cons b bs ih =>
    -- the octets behind come first
    have hstep := multipliesInRange (multiplyOctets_carry_le h bs) b
    show multiplyOctet b (multiplyOctets carry bs) = _
    unfold multiplyOctet
    rw [ih] at hstep ⊢
    rw [multiplyAdd]
    refine Prod.ext (congrArg (· :: _) (UInt8.toNat_inj.mp ?_)) (UInt32.toNat_inj.mp ?_)
    · rw [hstep.low, UInt32.toNat_toUInt8, UInt32.toNat_mod]
      exact (Nat.mod_mod _ 256).symm
    · rw [hstep.high, UInt32.toNat_div]
      rfl

/-- Reading in words is reading. -/
theorem readInWords_eq {n : Nat} (text : Bytes) (out : Octets n) :
    readInWords n text out.bytes = (readDigits text out).map Octets.bytes := by
  induction text generalizing out with
  | nil => rfl
  | cons c text ih =>
    rw [readInWords, readDigits]
    cases hword : valueWord? c with
    | none =>
      rw [← toNat_valueWord?, hword]
      rfl
    | some carry =>
      have hvalue := value?_eq_toNat hword
      have hcarry : carry.toNat ≤ 61 := Nat.le_of_lt_succ (lt_of_value? hvalue)
      rw [hvalue]
      dsimp only
      simp only [multiplyOctets_eq hcarry, UInt32.ofNat_toNat]
      split
      next => rfl
      next =>
        exact ih
          ⟨(multiplyAdd carry out.bytes).1, by rw [length_multiplyAdd, out.length_eq]⟩

/-! ## Nothing is lost -/

/-- What is promised of the loop that writes an octet string. -/
structure WritesInRange (bs : Bytes) : Prop where
  /-- In front of `start` there are zeros, at each moment of each pass. -/
  zeros : ∀ w, Writing.Reached bs w → w.start ≤ w.number.length ∧
    ∀ front rest, w.number.drop w.start = front ++ rest →
    ∀ b ∈ (w.during front rest).take w.start, b = 0
  /-- Each octet of each pass is divided in range. -/
  steps : ∀ w, Writing.Reached bs w → ∀ front b rest,
    w.number.drop w.start = front ++ b :: rest →
    DividesInRange (divideOctets front).2 b
  /-- Each pass has a remainder that has a digit, and leaves a smaller number. -/
  passes : ∀ w, Writing.Reached bs w → w.start < w.number.length →
    (divideOctets (w.number.drop w.start)).2.toNat < alphabet.length ∧
      ∃ next, w.pass = some next ∧ Bytes.toNat next.number < Bytes.toNat w.number
  /-- There is a last pass, and the text that is then made is the written form. -/
  ends : ∀ width, ∃ w, Writing.Reached bs w ∧ w.number.length ≤ w.start ∧
    w.text width = Bytes.ofString (encode bs width)

/-- What is promised of the loop that reads a text as `n` octets. -/
structure ReadsInRange (n : Nat) (text : String) : Prop where
  /-- The value of each digit fits in its word. -/
  values : ∀ c ∈ Bytes.ofString text, (valueWord? c).map UInt32.toNat = value? c
  /-- For each digit, whatever the octets in front of it have been read as, each octet is
  multiplied in range. -/
  steps : ∀ front c rest out carry, Bytes.ofString text = front ++ c :: rest →
    readInWords n front (List.replicate n 0) = .ok out → valueWord? c = some carry →
      carry.toNat ≤ 61 ∧ ∀ before b behind, out = before ++ b :: behind →
        MultipliesInRange b (multiplyOctets carry behind).2
  /-- What the loop answers is what the text is read as. -/
  answer : text ≠ "" → (decode n text).map Octets.bytes =
    (readInWords n (Bytes.ofString text) (List.replicate n 0)).mapError fun f =>
      .format f.reason

theorem divideOctets_lt (bs : Bytes) : (divideOctets bs).2.toNat < 62 := by
  rw [divideOctets_eq]
  exact divide_snd_lt (by decide) bs

theorem decode_eq_readInWords {n : Nat} {text : String} (h : text ≠ "") :
    (decode n text).map Octets.bytes =
      (readInWords n (Bytes.ofString text) (List.replicate n 0)).mapError fun f =>
        .format f.reason := by
  rw [← Octets.bytes_fit_nil, readInWords_eq]
  unfold decode
  cases hbytes : Bytes.ofString text with
  | nil =>
    have hempty : Bytes.ofString text = Bytes.ofString "" := hbytes
    exact absurd (Bytes.ofString_injective hempty) h
  | cons c rest =>
    show ((readDigits (c :: rest) (.fit n [])).mapError _).map Octets.bytes = _
    cases readDigits (c :: rest) (.fit n []) with
    | error f => rfl
    | ok o => rfl

/-- **No step of the arithmetic runs over.** For every octet string and every width the loop
that writes keeps to its range at every octet and on every pass, and so does the loop that
reads for every text and every number of octets. -/
theorem arithmetic_stays_in_range :
    (∀ bs, WritesInRange bs) ∧ ∀ n text, ReadsInRange n text := by
  constructor
  · intro bs
    refine ⟨?_, ?_, ?_, ?_⟩
    · intro w hw
      have hstart := hw.positioned.length_take
      rw [List.length_take] at hstart
      refine ⟨by omega, ?_⟩
      intro front rest _ b hb
      exact hw.eq_zero_of_mem_during hb
    · intro w hw front b rest hcut
      exact dividesInRange (divideOctets_lt front) b
    · intro w hw hlt
      obtain ⟨next, hpass, hnext⟩ := Writing.exists_pass hw.positioned
      refine ⟨?_, next, hpass, hnext.toNat_lt hw.positioned hlt⟩
      rw [length_alphabet]
      exact divideOctets_lt _
    · intro width
      obtain ⟨w, hw, hend⟩ := Writing.Reached.start.exists_end
      exact ⟨w, hw, hend, hw.text_eq hend width⟩
  · intro n text
    refine ⟨?_, ?_, decode_eq_readInWords⟩
    · intro c _
      exact toNat_valueWord? c
    · intro front c rest out carry hcut hfront hword
      have hcarry : carry.toNat ≤ 61 :=
        Nat.le_of_lt_succ (lt_of_value? (value?_eq_toNat hword))
      refine ⟨hcarry, ?_⟩
      intro before b behind hout
      exact multipliesInRange (multiplyOctets_carry_le hcarry behind) b

end Possession.Token.Base62
