import Possession.Digest.Fingerprint
import Possession.Proofs.Bytes

/-!
# Base64url, read back

> `decode?_encode`: what is written for an octet string is read as that octet string.

A written form has no point (`point_not_mem_encode`), which is why the parts of a signed
token can be told apart, and different octet strings have different written forms
(`encode_injective`).

> `decode?_eq_some_iff`: nothing else is read as that octet string.

So a number that stands in a key has one spelling: a reader that took other digits, or took
any low bits in a last digit, would let the same key be written in several ways.
-/

namespace Possession.Text.Base64Url

/-- A digit is read as the value it stands for. -/
theorem value?_digit {n : Nat} (h : n < 64) : value? (digit n) = some n := by
  revert n
  decide

/-- An octet is read from the values of the digits that were written for it. -/
theorem ofNat_eq {n : Nat} {a : UInt8} (h : n = a.toNat) : UInt8.ofNat n = a := by
  rw [h]
  exact UInt8.ofNat_toNat

/-- The digits of an octet string have values, and the octets of these values are the
string. -/
theorem exists_values (bs : Bytes) :
    ∃ values, (encodeChars bs).mapM value? = some values ∧
    decodeValues values = some bs := by
  fun_induction encodeChars bs with
  | case1 => exact ⟨[], rfl, rfl⟩
  | case2 a n =>
    have ha := a.toNat_lt
    refine ⟨[n / 64, n % 64], ?_, ?_⟩
    · simp only [List.mapM_cons, List.mapM_nil, value?_digit (show n / 64 < 64 by omega),
        value?_digit (show n % 64 < 64 by omega)]
      rfl
    · unfold decodeValues
      rw [if_pos (by omega), ofNat_eq (show n / 64 * 4 + n % 64 / 16 = a.toNat by omega)]
  | case3 a b n =>
    have ha := a.toNat_lt
    have hb := b.toNat_lt
    refine ⟨[n / 4096, n / 64 % 64, n % 64], ?_, ?_⟩
    · simp only [List.mapM_cons, List.mapM_nil, value?_digit (show n / 4096 < 64 by omega),
        value?_digit (show n / 64 % 64 < 64 by omega),
        value?_digit (show n % 64 < 64 by omega)]
      rfl
    · unfold decodeValues
      rw [if_pos (by omega),
        ofNat_eq (show n / 4096 * 4 + n / 64 % 64 / 16 = a.toNat by omega),
        ofNat_eq (show n / 64 % 64 % 16 * 16 + n % 64 / 4 = b.toNat by omega)]
  | case4 a b c rest n ih =>
    have ha := a.toNat_lt
    have hb := b.toNat_lt
    have hc := c.toNat_lt
    obtain ⟨values, hvalues, hrest⟩ := ih
    refine ⟨n / 262144 :: n / 4096 % 64 :: n / 64 % 64 :: n % 64 :: values, ?_, ?_⟩
    · simp only [List.mapM_cons, value?_digit (show n / 262144 < 64 by omega),
        value?_digit (show n / 4096 % 64 < 64 by omega),
        value?_digit (show n / 64 % 64 < 64 by omega),
        value?_digit (show n % 64 < 64 by omega), hvalues]
      rfl
    · unfold decodeValues
      rw [hrest, ofNat_eq (show n / 262144 * 4 + n / 4096 % 64 / 16 = a.toNat by omega),
        ofNat_eq (show n / 4096 % 64 % 16 * 16 + n / 64 % 64 / 4 = b.toNat by omega),
        ofNat_eq (show n / 64 % 64 % 4 * 64 + n % 64 = c.toNat by omega)]
      rfl

/-- A text whose digits all have values consists of digits. -/
theorem value?_isSome_of_mem {cs : List Char} {values : List Nat}
    (h : cs.mapM value? = some values) : ∀ c ∈ cs, (value? c).isSome := by
  induction cs generalizing values with
  | nil => exact fun c hc => absurd hc (List.not_mem_nil)
  | cons c cs ih =>
    rw [List.mapM_cons] at h
    obtain ⟨n, hn, h⟩ := Option.bind_eq_some_iff.mp h
    obtain ⟨ns, hns, -⟩ := Option.bind_eq_some_iff.mp h
    intro d hd
    rcases List.mem_cons.mp hd with rfl | hd
    · exact Option.isSome_of_eq_some hn
    · exact ih hns d hd

theorem point_not_mem_encode (bs : Bytes) : '.' ∉ (encode bs).toList := by
  obtain ⟨values, hvalues, -⟩ := exists_values bs
  unfold encode
  rw [String.toList_ofList]
  intro h
  exact absurd (value?_isSome_of_mem hvalues '.' h) (by decide)

/-- What is written for an octet string is read as that octet string. -/
theorem decode?_encode (bs : Bytes) : decode? (encode bs) = some bs := by
  obtain ⟨values, hvalues, hbytes⟩ := exists_values bs
  unfold decode? encode
  rw [String.toList_ofList, hvalues]
  exact hbytes

theorem encode_injective : Function.Injective encode := by
  intro a b h
  have ha := decode?_encode a
  rw [h, decode?_encode] at ha
  exact (Option.some.inj ha).symm

/-! ## Each octet string has one written form -/

/-- A digit that is read is the one that is written for its value. -/
theorem digit_of_value? {c : Char} {n : Nat} (h : value? c = some n) :
    n < 64 ∧ digit n = c := by
  unfold value? at h
  dsimp only at h
  unfold digit
  split at h
  next hupper =>
    cases h
    rw [if_pos (by omega), Nat.add_sub_cancel' hupper.1, Char.ofNat_toNat]
    exact ⟨by omega, rfl⟩
  split at h
  next hlower =>
    cases h
    rw [if_neg (by omega), if_pos (by omega), Nat.add_sub_cancel' (by omega),
      Char.ofNat_toNat]
    exact ⟨by omega, rfl⟩
  split at h
  next hdigit =>
    cases h
    rw [if_neg (by omega), if_neg (by omega), if_pos (by omega), Nat.add_sub_cancel,
      Char.ofNat_toNat]
    exact ⟨by omega, rfl⟩
  split at h
  next hdash =>
    cases h
    exact ⟨by decide, hdash.symm⟩
  split at h
  next hline =>
    cases h
    exact ⟨by decide, hline.symm⟩
  next => cases h

/-- A text that is read digit by digit is the one that is written for the values. -/
theorem map_digit_of_mapM {cs : List Char} {values : List Nat}
    (h : cs.mapM value? = some values) : values.map digit = cs ∧ ∀ n ∈ values, n < 64 := by
  induction cs generalizing values with
  | nil =>
    cases h
    exact ⟨rfl, nofun⟩
  | cons c cs ih =>
    rw [List.mapM_cons] at h
    obtain ⟨n, hn, h⟩ := Option.bind_eq_some_iff.mp h
    obtain ⟨ns, hns, h⟩ := Option.bind_eq_some_iff.mp h
    cases h
    obtain ⟨hlt, hdigit⟩ := digit_of_value? hn
    obtain ⟨hmap, hall⟩ := ih hns
    rw [List.map_cons, hdigit, hmap]
    exact ⟨rfl, List.forall_mem_cons.mpr ⟨hlt, hall⟩⟩

/-- The values that are read for an octet string are those that are written for it: the low
bits that a last digit has too many are zero. -/
theorem encodeChars_of_decodeValues {values : List Nat} {bs : Bytes}
    (hlt : ∀ n ∈ values, n < 64) (h : decodeValues values = some bs) :
    encodeChars bs = values.map digit := by
  fun_induction decodeValues values generalizing bs with
  | case1 =>
    cases h
    rfl
  | case2 => cases h
  | case3 p q hzero =>
    cases h
    have hp := hlt p (by simp)
    have hq := hlt q (by simp)
    unfold encodeChars
    dsimp only
    rw [UInt8.toNat_ofNat_of_lt' (show p * 4 + q / 16 < 256 by omega),
      show (p * 4 + q / 16) * 16 / 64 = p by omega,
      show (p * 4 + q / 16) * 16 % 64 = q by omega]
    rfl
  | case4 => cases h
  | case5 p q r hzero =>
    cases h
    have hp := hlt p (by simp)
    have hq := hlt q (by simp)
    have hr := hlt r (by simp)
    obtain ⟨n, hn⟩ : ∃ n, n = ((p * 4 + q / 16) * 256 + (q % 16 * 16 + r / 4)) * 4 :=
      ⟨_, rfl⟩
    unfold encodeChars
    dsimp only
    rw [UInt8.toNat_ofNat_of_lt' (show p * 4 + q / 16 < 256 by omega),
      UInt8.toNat_ofNat_of_lt' (show q % 16 * 16 + r / 4 < 256 by omega), ← hn,
      show n / 4096 = p by omega, show n / 64 % 64 = q by omega, show n % 64 = r by omega]
    rfl
  | case6 => cases h
  | case7 p q r s rest ih =>
    obtain ⟨later, hlater, rfl⟩ := Option.map_eq_some_iff.mp h
    have hp := hlt p (by simp)
    have hq := hlt q (by simp)
    have hr := hlt r (by simp)
    have hs := hlt s (by simp)
    have hrest := ih (fun n hn => hlt n (by simp [hn])) hlater
    obtain ⟨n, hn⟩ : ∃ n, n = ((p * 4 + q / 16) * 256 + (q % 16 * 16 + r / 4)) * 256 +
      (r % 4 * 64 + s) := ⟨_, rfl⟩
    unfold encodeChars
    dsimp only
    rw [UInt8.toNat_ofNat_of_lt' (show p * 4 + q / 16 < 256 by omega),
      UInt8.toNat_ofNat_of_lt' (show q % 16 * 16 + r / 4 < 256 by omega),
      UInt8.toNat_ofNat_of_lt' (show r % 4 * 64 + s < 256 by omega), ← hn,
      show n / 262144 = p by omega, show n / 4096 % 64 = q by omega,
      show n / 64 % 64 = r by omega, show n % 64 = s by omega, hrest]
    rfl

/-- An octet string has one written form: this is the one that is read as it. -/
theorem decode?_eq_some_iff {text : String} {bs : Bytes} :
    decode? text = some bs ↔ text = encode bs := by
  constructor
  · intro h
    obtain ⟨values, hvalues, hbytes⟩ := Option.bind_eq_some_iff.mp h
    obtain ⟨hdigits, hlt⟩ := map_digit_of_mapM hvalues
    unfold encode
    rw [encodeChars_of_decodeValues hlt hbytes, hdigits, String.ofList_toList]
  · intro h
    rw [h]
    exact decode?_encode bs
end Possession.Text.Base64Url
