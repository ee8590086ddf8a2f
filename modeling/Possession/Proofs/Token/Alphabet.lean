import Possession.Proofs.Token.Numeral

/-!
# Texts of the alphabet

A base-62 text is a text in an alphabet of 62 characters, in which each stands for its
place. This file says what is read and what is written in these terms alone, for every text
and every width:

> `decode_answers`: a text is read as `n` octets exactly if it is not empty, consists of the
> alphabet and writes a number that fits in them, and then they are that number; every other
> text is refused, for the first fault from the left;
> `encode_decode_inverse`: what is written is a text of the alphabet with the number of its
> octets and a known width, reading undoes writing, and writing undoes reading.

The reader looks at the carry of one digit at a time and stops at the first. One digit is
the whole argument (`readDigits_singleton`): it goes through exactly if the number read so
far, with the digit behind it, still fits. Further digits only make a number greater, so
nothing is refused too early, and a text that is refused is cut where the reader stopped
(`readDigits_eq_error_iff`).
-/

namespace Possession.Token.Base62

/-! ## The alphabet -/

/-- The digits, the least first. -/
def alphabet : Bytes :=
  Bytes.ofString "0123456789abcdefghijklmnopqrstuvwxyzABCDEFGHIJKLMNOPQRSTUVWXYZ"

/-- The number that a string of digits writes with base 62: each digit counts its place in
the alphabet. -/
def positional (text : Bytes) : Nat := text.foldl (fun n b => n * 62 + alphabet.idxOf b) 0

/-- A string of digits whose number fits in `n` octets. -/
def Fits (n : Nat) (text : Bytes) : Prop :=
  (∀ b ∈ text, b ∈ alphabet) ∧ positional text < 256 ^ n

/-- The alphabet is the digits of the values below 62, in this order. -/
theorem alphabet_eq :
    alphabet = (List.range 62).map fun d => UInt8.ofNat (digit d).toNat := by
  decide +kernel

theorem length_alphabet : alphabet.length = 62 := by
  rw [alphabet_eq, List.length_map, List.length_range]

/-- The octet of the digit of a value. -/
theorem getElem?_alphabet {d : Nat} (h : d < 62) :
    alphabet[d]? = some (UInt8.ofNat (digit d).toNat) := by
  rw [alphabet_eq, List.getElem?_map, List.getElem?_range h]
  rfl

/-- No digit has two places. -/
theorem nodup_alphabet : alphabet.Nodup := by
  rw [alphabet_eq]
  apply List.Nodup.map_on _ List.nodup_range
  intro a ha b hb h
  rw [← value_digit (List.mem_range.mp ha), h, value_digit (List.mem_range.mp hb)]

/-- The octets with a value are those of the alphabet. -/
theorem isSome_value?_iff {b : UInt8} : (value? b).isSome ↔ b ∈ alphabet := by
  rw [alphabet_eq, List.mem_map]
  constructor
  · intro h
    exact ⟨value b, List.mem_range.mpr (value_lt b), digit_value h⟩
  · intro h
    obtain ⟨d, hd, rfl⟩ := h
    rw [value?_digit d (List.mem_range.mp hd)]
    rfl

/-- The value of a digit is its place in the alphabet. -/
theorem idxOf_alphabet {b : UInt8} (h : b ∈ alphabet) : alphabet.idxOf b = value b := by
  have hlen : value b < alphabet.length := by
    rw [length_alphabet]
    exact value_lt b
  have hplace : alphabet[value b] = b := by
    simp only [alphabet_eq, List.getElem_map, List.getElem_range]
    exact digit_value (isSome_value?_iff.mpr h)
  conv_lhs => rw [← hplace]
  exact nodup_alphabet.idxOf_getElem _ hlen

theorem value?_of_mem {b : UInt8} (h : b ∈ alphabet) :
    value? b = some (alphabet.idxOf b) := by
  obtain ⟨d, hd⟩ := Option.isSome_iff_exists.mp (isSome_value?_iff.mpr h)
  rw [idxOf_alphabet h, value_eq hd, hd]

/-- The number of a text of the alphabet. -/
theorem positional_eq_number {text : Bytes} (h : ∀ b ∈ text, b ∈ alphabet) :
    positional text = number text := by
  -- more generally, digits already read count for as many places as digits follow
  have hfold : ∀ m, text.foldl (fun n b => n * 62 + alphabet.idxOf b) m =
      m * 62 ^ text.length + number text := by
    induction text with
    | nil =>
      intro m
      rw [List.foldl_nil, number_nil, List.length_nil, pow_zero, Nat.mul_one, Nat.add_zero]
    | cons b text ih =>
      intro m
      obtain ⟨hb, htext⟩ := List.forall_mem_cons.mp h
      rw [List.foldl_cons, ih htext, number_cons, idxOf_alphabet hb, List.length_cons]
      ring
  unfold positional
  rw [hfold, Nat.zero_mul, Nat.zero_add]

theorem positional_concat (front : Bytes) (b : UInt8) :
    positional (front ++ [b]) = positional front * 62 + alphabet.idxOf b := by
  unfold positional
  rw [List.foldl_append]
  rfl

/-! ## Reading digit by digit -/

section Reading

variable {n : Nat} {text : Bytes} {out o : Octets n} {f : Failure}

/-- Digits are read onto octets exactly if the octets that come out have the number of
both. -/
theorem readDigits_eq_ok_iff_positional :
    readDigits text out = .ok o ↔ (∀ b ∈ text, b ∈ alphabet) ∧
      Bytes.toNat out.bytes * 62 ^ text.length + positional text = Bytes.toNat o.bytes := by
  rw [readDigits_eq_ok_iff]
  simp only [isSome_value?_iff]
  constructor
  · intro h
    exact ⟨h.1, by rw [positional_eq_number h.1]; exact h.2⟩
  · intro h
    exact ⟨h.1, by rw [← positional_eq_number h.1]; exact h.2⟩

/-- **One digit.** It goes through exactly if what has been read fits with the digit behind
it. -/
theorem readDigits_singleton (b : UInt8) (out : Octets n) :
    readDigits [b] out =
      if b ∈ alphabet then
        if Bytes.toNat out.bytes * 62 + alphabet.idxOf b < 256 ^ n then
          .ok (.ofNat n (Bytes.toNat out.bytes * 62 + alphabet.idxOf b))
        else .error (.overflow n)
      else .error (.badDigit b) := by
  have hnumber : positional [b] = alphabet.idxOf b := Nat.zero_add _
  by_cases hb : b ∈ alphabet
  · rw [if_pos hb]
    by_cases hfits : Bytes.toNat out.bytes * 62 + alphabet.idxOf b < 256 ^ n
    · rw [if_pos hfits, readDigits_eq_ok_iff_positional, Octets.toNat_ofNat_of_lt hfits,
        hnumber]
      refine ⟨?_, by rw [List.length_singleton, pow_one]⟩
      intro c hc
      rw [List.mem_singleton.mp hc]
      exact hb
    · rw [if_neg hfits, readDigits, value?_of_mem hb]
      dsimp only
      split
      next => rfl
      next hcarry =>
        -- without a carry the digit would have gone through
        obtain ⟨o, hread⟩ : ∃ o, readDigits [b] out = .ok o := by
          rw [readDigits, value?_of_mem hb]
          dsimp only
          rw [if_neg hcarry]
          exact ⟨_, rfl⟩
        obtain ⟨-, heq⟩ := readDigits_eq_ok_iff_positional.mp hread
        rw [hnumber, List.length_singleton, pow_one] at heq
        rw [heq] at hfits
        exact absurd (Octets.toNat_lt _) hfits
  · have hnone : value? b = none :=
      Option.not_isSome_iff_eq_none.mp (mt isSome_value?_iff.mp hb)
    rw [if_neg hb, readDigits, hnone]

/-- Digits are read one after the other. -/
theorem readDigits_cons_eq (b : UInt8) (text : Bytes) (out : Octets n) :
    readDigits (b :: text) out = readDigits [b] out >>= readDigits text := by
  rw [readDigits, readDigits]
  cases value? b with
  | none => rfl
  | some d =>
    dsimp only
    split
    next => rfl
    next => rfl

theorem readDigits_append (front rest : Bytes) (out : Octets n) :
    readDigits (front ++ rest) out = readDigits front out >>= readDigits rest := by
  induction front generalizing out with
  | nil => rfl
  | cons b front ih =>
    rw [List.cons_append, readDigits_cons_eq, readDigits_cons_eq b front]
    cases readDigits [b] out with
    | error e => rfl
    | ok next => exact ih next

/-- Where reading stops, there are digits that have been read, and an octet that cannot
follow them. -/
theorem readDigits_eq_error_iff :
    readDigits text out = .error f ↔ ∃ front b rest next, text = front ++ b :: rest ∧
      readDigits front out = .ok next ∧ readDigits [b] next = .error f := by
  constructor
  · intro h
    induction text generalizing out with
    | nil => cases h
    | cons b text ih =>
      rw [readDigits_cons_eq, Result.bind_eq_error] at h
      rcases h with hstop | ⟨next, hb, h⟩
      · exact ⟨[], b, text, out, rfl, rfl, hstop⟩
      · obtain ⟨front, b', rest, next', rfl, hfront, hstop⟩ := ih h
        refine ⟨b :: front, b', rest, next', rfl, ?_, hstop⟩
        rw [readDigits_cons_eq, hb]
        exact hfront
  · intro h
    obtain ⟨front, b, rest, next, rfl, hfront, hstop⟩ := h
    rw [readDigits_append, hfront]
    show readDigits (b :: rest) next = _
    rw [readDigits_cons_eq, hstop]
    rfl

end Reading

/-! ## Every text -/

section Texts

variable {n : Nat} {text : Bytes} {o : Octets n}

/-- The fault of a text that comes first from the left, if it is to write `n` octets: there
is nothing to read, or behind digits whose number fits stands an octet that is no digit, or
a digit with which the number no longer fits. -/
def FirstFault (n : Nat) (text : Bytes) : Failure → Prop
  | .empty => text = []
  | .badDigit b => ∃ front rest, text = front ++ b :: rest ∧ Fits n front ∧ b ∉ alphabet
  | .overflow m => m = n ∧ ∃ front b rest, text = front ++ b :: rest ∧ Fits n front ∧
      b ∈ alphabet ∧ 256 ^ n ≤ positional (front ++ [b])

/-- Digits that fit are read as their number. -/
theorem readDigits_zero_eq_ok_iff :
    readDigits text (.fit n []) = .ok o ↔ Fits n text ∧ o = .ofNat n (positional text) := by
  rw [readDigits_eq_ok_iff_positional, toNat_fit_nil, Nat.zero_mul, Nat.zero_add]
  constructor
  · intro h
    obtain ⟨hall, hnum⟩ := h
    have hfits : positional text < 256 ^ n := by
      rw [hnum]
      exact o.toNat_lt
    refine ⟨⟨hall, hfits⟩, Octets.eq_of_toNat_eq ?_⟩
    rw [Octets.toNat_ofNat_of_lt hfits, hnum]
  · intro h
    obtain ⟨⟨hall, hfits⟩, rfl⟩ := h
    exact ⟨hall, (Octets.toNat_ofNat_of_lt hfits).symm⟩

theorem decode?_eq_ok_iff : decode? n text = .ok o ↔
    text ≠ [] ∧ Fits n text ∧ o = .ofNat n (positional text) := by
  cases text with
  | nil =>
    constructor
    · intro h
      cases h
    · intro h
      exact absurd rfl h.1
  | cons b rest =>
    show readDigits (b :: rest) (.fit n []) = .ok o ↔ _
    rw [readDigits_zero_eq_ok_iff]
    exact ⟨fun h => ⟨List.cons_ne_nil b rest, h⟩, fun h => h.2⟩

/-- An octet cannot follow digits that fit if it is no digit, or if the number no longer
fits with it. -/
theorem readDigits_singleton_eq_error_iff {front : Bytes} {b : UInt8} {f : Failure}
    (h : Fits n front) : readDigits [b] (.ofNat n (positional front)) = .error f ↔
      (b ∉ alphabet ∧ f = .badDigit b) ∨
        (b ∈ alphabet ∧ 256 ^ n ≤ positional (front ++ [b]) ∧ f = .overflow n) := by
  rw [readDigits_singleton, Octets.toNat_ofNat_of_lt h.2, ← positional_concat, ← Nat.not_lt]
  by_cases hb : b ∈ alphabet
  · by_cases hfits : positional (front ++ [b]) < 256 ^ n
    · simp [hb, hfits]
    · simp [hb, hfits, eq_comm]
  · simp [hb, eq_comm]

/-- A text that is refused has digits that fit in front of an octet that cannot follow
them. -/
theorem readDigits_zero_eq_error_iff {f : Failure} :
    readDigits text (.fit n []) = .error f ↔ ∃ front b rest, text = front ++ b :: rest ∧
      Fits n front ∧ readDigits [b] (.ofNat n (positional front)) = .error f := by
  rw [readDigits_eq_error_iff]
  constructor
  · intro h
    obtain ⟨front, b, rest, next, hcut, hfront, hstop⟩ := h
    obtain ⟨hfits, rfl⟩ := readDigits_zero_eq_ok_iff.mp hfront
    exact ⟨front, b, rest, hcut, hfits, hstop⟩
  · intro h
    obtain ⟨front, b, rest, hcut, hfits, hstop⟩ := h
    exact ⟨front, b, rest, _, hcut, readDigits_zero_eq_ok_iff.mpr ⟨hfits, rfl⟩, hstop⟩

/-- A text that is not empty is refused for its first fault. -/
theorem firstFault_of_ne_nil {f : Failure} (hne : text ≠ []) :
    FirstFault n text f ↔ ∃ front b rest, text = front ++ b :: rest ∧
      Fits n front ∧ readDigits [b] (.ofNat n (positional front)) = .error f := by
  constructor
  · intro h
    cases f with
    | empty => exact absurd h hne
    | badDigit b =>
      obtain ⟨front, rest, hcut, hfits, hb⟩ := h
      exact ⟨front, b, rest, hcut, hfits,
        (readDigits_singleton_eq_error_iff hfits).mpr (Or.inl ⟨hb, rfl⟩)⟩
    | overflow m =>
      obtain ⟨rfl, front, b, rest, hcut, hfits, hb, hgreat⟩ := h
      exact ⟨front, b, rest, hcut, hfits,
        (readDigits_singleton_eq_error_iff hfits).mpr (Or.inr ⟨hb, hgreat, rfl⟩)⟩
  · intro h
    obtain ⟨front, b, rest, hcut, hfits, hstop⟩ := h
    rcases (readDigits_singleton_eq_error_iff hfits).mp hstop with
      ⟨hb, rfl⟩ | ⟨hb, hgreat, rfl⟩
    · exact ⟨front, rest, hcut, hfits, hb⟩
    · exact ⟨rfl, front, b, rest, hcut, hfits, hb, hgreat⟩

/-- Reading fails with the first fault of the text. -/
theorem decode?_eq_error_iff {f : Failure} : decode? n text = .error f ↔
    FirstFault n text f := by
  cases text with
  | nil =>
    show Except.error .empty = Except.error f ↔ _
    cases f with
    | empty => exact iff_of_true rfl rfl
    | badDigit b => exact iff_of_false nofun fun ⟨_, _, hcut, _⟩ => absurd hcut (by simp)
    | overflow m =>
      exact iff_of_false nofun fun ⟨_, _, _, _, hcut, _⟩ => absurd hcut (by simp)
  | cons b rest =>
    rw [firstFault_of_ne_nil (List.cons_ne_nil b rest), ← readDigits_zero_eq_error_iff]
    rfl

end Texts

section Answers

variable {n : Nat} {text : String}

theorem decode_eq_ok_iff_fits {o : Octets n} : decode n text = .ok o ↔
    text ≠ "" ∧ Fits n (Bytes.ofString text) ∧
    o = .ofNat n (positional (Bytes.ofString text)) := by
  have hempty : Bytes.ofString text = [] ↔ text = "" :=
    Bytes.ofString_injective.eq_iff (b := "")
  unfold decode
  rw [Result.mapError_eq_ok, decode?_eq_ok_iff, ne_eq, hempty]

theorem decode_eq_error_iff {e : Error} : decode n text = .error e ↔
    ∃ f, FirstFault n (Bytes.ofString text) f ∧ e = .format f.reason := by
  unfold decode
  rw [Result.mapError_eq_error]
  simp only [decode?_eq_error_iff, eq_comm (a := e)]

/-- The texts that are malformed are those that are empty or do not fit. -/
theorem decode_eq_format_iff : (∃ reason, decode n text = .error (.format reason)) ↔
    ¬ (text ≠ "" ∧ Fits n (Bytes.ofString text)) := by
  constructor
  · intro h hfits
    obtain ⟨reason, hrefused⟩ := h
    rw [decode_eq_ok_iff_fits.mpr ⟨hfits.1, hfits.2, rfl⟩] at hrefused
    cases hrefused
  · intro h
    cases hdecode : decode n text with
    | ok o =>
      obtain ⟨hne, hfits, -⟩ := decode_eq_ok_iff_fits.mp hdecode
      exact absurd ⟨hne, hfits⟩ h
    | error e =>
      obtain ⟨f, -, rfl⟩ := decode_eq_error_iff.mp hdecode
      exact ⟨f.reason, rfl⟩

end Answers

/-- **What is read.** A text is read as `n` octets exactly if it is not empty, all of its
octets are in the alphabet, and the number that it writes is less than 256 to the `n`; and
then they are that number, the most significant octet first. Every other text is malformed,
and the text of the refusal tells the fault that comes first from the left. -/
theorem decode_answers (n : Nat) (text : String) :
    (∀ o : Octets n, decode n text = .ok o ↔
      text ≠ "" ∧ Fits n (Bytes.ofString text) ∧
      o = .ofNat n (positional (Bytes.ofString text))) ∧
    ((∃ reason, decode n text = .error (.format reason)) ↔
      ¬ (text ≠ "" ∧ Fits n (Bytes.ofString text))) ∧
    ∀ e, decode n text = .error e ↔
      ∃ f, FirstFault n (Bytes.ofString text) f ∧ e = .format f.reason := by
  refine ⟨?_, decode_eq_format_iff, ?_⟩
  · intro o
    exact decode_eq_ok_iff_fits
  · intro e
    exact decode_eq_error_iff

/-! ## Writing and reading -/

/-- A written form has one character for each of its octets. -/
theorem length_ofString_encode (bs : Bytes) (width : Nat) :
    (Bytes.ofString (encode bs width)).length = (encode bs width).length :=
  (length_of_isSome fun _ => isSome_value?_of_mem_encode).symm

/-- **Writing and reading undo each other.** Octets are written in the alphabet, with their
number, as wide as asked for or as its digits need; a number of zero needs none. If anything
is written it is read as these octets, and what any text is read as is written, as wide as
the text, as that text. Sixteen octets fill 22 characters, and forty-four octets 59 or
60. -/
theorem encode_decode_inverse (bs : Bytes) (width : Nat) :
    (∀ b ∈ Bytes.ofString (encode bs width), b ∈ alphabet) ∧
    positional (Bytes.ofString (encode bs width)) = Bytes.toNat bs ∧
    (Bytes.ofString (encode bs width)).length =
      max width (Nat.digits 62 (Bytes.toNat bs)).length ∧
    (0 < (Bytes.ofString (encode bs width)).length →
      decode bs.length (encode bs width) = .ok ⟨bs, rfl⟩) ∧
    (∀ (n : Nat) (text : String) (o : Octets n), decode n text = .ok o →
      encode o.bytes (Bytes.ofString text).length = text) ∧
    (bs.length = 16 → (Bytes.ofString (encode bs 22)).length = 22) ∧
    (bs.length = 44 → (Bytes.ofString (encode bs 59)).length = 59 ∨
      (Bytes.ofString (encode bs 59)).length = 60) := by
  have hall : ∀ b ∈ Bytes.ofString (encode bs width), b ∈ alphabet :=
    fun b hb => isSome_value?_iff.mp (isSome_value?_of_mem_encode hb)
  refine ⟨hall, ?_, ?_, ?_, ?_, ?_, ?_⟩
  · rw [positional_eq_number hall, number_encode]
  · rw [length_ofString_encode, length_encode]
  · intro hpos
    apply decode_encode ⟨bs, rfl⟩ width
    intro hempty
    rw [hempty] at hpos
    exact absurd hpos (by decide)
  · intro n text o hread
    obtain ⟨-, hdigits, -⟩ := decode_eq_ok_iff.mp hread
    rw [← length_of_isSome hdigits]
    exact encode_of_decode hread
  · intro hlen
    have hwidth := length_encode_le bs (Nat.le_refl 22) (by rw [hlen]; decide)
    rw [length_ofString_encode]
    omega
  · intro hlen
    have hwidth := length_encode_le bs (Nat.le_succ 59) (by rw [hlen]; decide)
    rw [length_ofString_encode]
    omega

/-- Zeros in front stay what they are: those of octets are read into three octets and not
into two, those of digits are written as wide as the text was. -/
theorem zeros_in_front_come_back :
    0 < (Bytes.ofString (encode [0, 1, 0] 4)).length ∧
      decode 3 (encode [0, 1, 0] 4) = .ok ⟨[0, 1, 0], rfl⟩ ∧
      decode 2 "0048" = .ok ⟨[1, 0], rfl⟩ ∧ encode [1, 0] 4 = "0048" ∧
      (Bytes.ofString (encode (List.replicate 16 0) 22)).length = 22 ∧
      ((Bytes.ofString (encode (List.replicate 44 255) 59)).length = 59 ∨
        (Bytes.ofString (encode (List.replicate 44 255) 59)).length = 60) := by
  obtain ⟨-, -, hwidth, hread, hback, -, -⟩ := encode_decode_inverse [0, 1, 0] 4
  obtain ⟨-, -, -, -, -, hpayload, -⟩ := encode_decode_inverse (List.replicate 16 0) 22
  obtain ⟨-, -, -, -, -, -, hsealed⟩ := encode_decode_inverse (List.replicate 44 255) 59
  have hpos : 0 < (Bytes.ofString (encode [0, 1, 0] 4)).length := by
    rw [hwidth]
    omega
  have htext : decode 2 "0048" = .ok ⟨[1, 0], rfl⟩ := by decide +kernel
  exact ⟨hpos, hread hpos, htext, hback 2 "0048" _ htext, hpayload rfl, hsealed rfl⟩

end Possession.Token.Base62
