import Mathlib.Data.List.Induction
import Mathlib.Tactic.IntervalCases
import Possession.Proofs.Text.Cut
import Possession.Proofs.Text.Digits
import Possession.Web.Address

/-!
# Numeric addresses, printed and read back

There are many ways to write an address, and one in which it is printed. What is printed is
read as that address:

> `ofIpv4?_printIpv4`: of four numbers, for every address of 32 bits;
> `ofIpv6?_printIpv6`: of eight pieces, whichever run of zeros is left out.

Reading gives no other addresses (`ofIpv4?_lt`, `ofIpv6?_eq_some`). Both rest on numbers in
a base: the digits of a number are read as the number, and digits read make a number of at
most as many digits.
-/

namespace Possession.Web.Address

open Text.CodePoints (cut)

/-! ## Numbers -/

theorem digit?_digitChar {b d : Nat} (hb : b ≤ 16) (hd : d < b) :
    digit? b (Nat.digitChar d) = some d := by
  have hvalue : ∀ d < 16, Json.hexValue? (Nat.digitChar d) = some d := by decide
  unfold digit?
  rw [hvalue d (by omega)]
  simp [hd]

theorem digit?_lt {b d : Nat} {c : Char} (h : digit? b c = some d) : d < b := by
  unfold digit? at h
  simpa using (Option.filter_eq_some_iff.mp h).2

/-- Digits below a base make a number with as many digits. -/
theorem foldl_lt {b : Nat} {ds : List Nat} (h : ∀ d ∈ ds, d < b) :
    ds.foldl (fun n d => n * b + d) 0 < b ^ ds.length := by
  induction ds using List.reverseRecOn with
  | nil => exact Nat.one_pos
  | append_singleton ds d ih =>
    rw [List.forall_mem_append] at h
    obtain ⟨hds, hd⟩ := h
    have hd := hd d (List.mem_singleton_self d)
    rw [List.foldl_append, List.length_append, List.length_singleton, Nat.pow_succ]
    calc ds.foldl (fun n d => n * b + d) 0 * b + d
        < (ds.foldl (fun n d => n * b + d) 0 + 1) * b := by rw [Nat.succ_mul]; omega
      _ ≤ b ^ ds.length * b := Nat.mul_le_mul_right b (ih hds)

/-- A list is read if each element is, and the results are those of the elements. -/
theorem mapM_eq_some_iff {α β : Type} {f : α → Option β} {xs : List α} {ys : List β} :
    xs.mapM f = some ys ↔ xs.map f = ys.map some := by
  induction xs generalizing ys with
  | nil => cases ys <;> simp
  | cons x xs ih =>
    rw [List.mapM_cons, List.map_cons]
    cases ys with
    | nil => cases f x <;> cases xs.mapM f <;> simp
    | cons y ys =>
      rw [List.map_cons, List.cons.injEq, ← ih]
      cases f x <;> cases xs.mapM f <;> simp

theorem length_of_mapM {α β : Type} {f : α → Option β} {xs : List α} {ys : List β}
    (h : xs.mapM f = some ys) : xs.length = ys.length := by
  simpa using congrArg List.length (mapM_eq_some_iff.mp h)

/-- What holds of each result of an element holds of the results of a list. -/
theorem forall_of_mapM {α β : Type} {f : α → Option β} {p : β → Prop} {xs : List α}
    {ys : List β} (hp : ∀ x y, f x = some y → p y) (h : xs.mapM f = some ys) :
    ∀ y ∈ ys, p y := by
  intro y hy
  have hmem : some y ∈ xs.map f := mapM_eq_some_iff.mp h ▸ List.mem_map_of_mem hy
  obtain ⟨x, -, hx⟩ := List.mem_map.mp hmem
  exact hp x y hx

/-- Elements that are each read back are read back as a list. -/
theorem mapM_map_of_forall {α β : Type} {f : α → Option β} {write : β → α} {ys : List β}
    (h : ∀ y ∈ ys, f (write y) = some y) : (ys.map write).mapM f = some ys := by
  rw [mapM_eq_some_iff, List.map_map]
  exact List.map_congr_left h

/-- The number of some digits is below the power of the base with as many digits. -/
theorem number?_lt {b n : Nat} {cs : List Char} (h : number? b cs = some n) :
    n < b ^ cs.length := by
  obtain ⟨ds, hds, rfl⟩ := Option.map_eq_some_iff.mp h
  rw [length_of_mapM hds]
  exact foldl_lt (forall_of_mapM (fun _ _ => digit?_lt) hds)

/-- A digit behind a number. -/
theorem number?_append {b n d : Nat} {cs : List Char} {c : Char}
    (hn : number? b cs = some n) (hd : digit? b c = some d) :
    number? b (cs ++ [c]) = some (n * b + d) := by
  obtain ⟨ds, hds, rfl⟩ := Option.map_eq_some_iff.mp hn
  unfold number?
  rw [List.mapM_append, hds]
  simp [hd]

/-- The digits of a number are read as the number. -/
theorem number?_toDigits {b : Nat} (hb : 1 < b) (hb' : b ≤ 16) (n : Nat) :
    number? b (Nat.toDigits b n) = some n := by
  induction n using Nat.strongRecOn with
  | ind n ih =>
    rw [Nat.toDigits_eq_if hb]
    split
    next hlt =>
      have hzero : number? b [] = some 0 := rfl
      simpa using number?_append hzero (digit?_digitChar hb' hlt)
    next hge =>
      have hmod : n % b < b := Nat.mod_lt _ (by omega)
      rw [number?_append (ih (n / b) (Nat.div_lt_self (by omega) hb))
        (digit?_digitChar hb' hmod)]
      rw [Nat.div_add_mod']

/-! ## Four octets -/

/-- The octets of an address, first one first. -/
def octets (a : Nat) : List Nat :=
  [a / 16777216 % 256, a / 65536 % 256, a / 256 % 256, a % 256]

theorem toList_printIpv4 (a : Nat) :
    (printIpv4 a).toList = ['.'].intercalate ((octets a).map (Nat.toDigits 10)) := by
  unfold printIpv4 octets
  rw [String.toList_intercalate, List.map_map]
  simp only [List.map_cons, List.map_nil, Function.comp, Nat.toString_eq_ofList_toDigits,
    String.toList_ofList]
  rfl

theorem cut_printIpv4 (a : Nat) :
    cut '.' (printIpv4 a).toList = (octets a).map (Nat.toDigits 10) := by
  rw [toList_printIpv4]
  refine Text.cut_intercalate ?_ (by simp [octets])
  intro w hw hmem
  obtain ⟨n, -, rfl⟩ := List.mem_map.mp hw
  cases Text.isDigit_of_mem_toDigits hmem

theorem mem_printIpv4 {a : Nat} {c : Char} (h : c ∈ (printIpv4 a).toList) :
    c.isDigit = true ∨ c = '.' := by
  rw [toList_printIpv4] at h
  rcases Text.mem_intercalate h with h | ⟨w, hw, hc⟩
  · exact .inr h
  · obtain ⟨n, -, rfl⟩ := List.mem_map.mp hw
    exact .inl (Text.isDigit_of_mem_toDigits hc)

/-- Decimal digits have no prefix of another base. -/
theorem part?_toDigits (n : Nat) : part? (Nat.toDigits 10 n) = some n := by
  rcases Nat.eq_zero_or_pos n with rfl | hpos
  · rfl
  · have hhead := Text.head?_toDigits hpos
    have hread := number?_toDigits (by omega : 1 < 10) (by omega) n
    unfold part?
    split
    next heq => exact absurd heq Nat.toDigits_ne_nil
    next heq => simp [heq] at hhead
    next heq => simp [heq] at hhead
    next heq => simp [heq] at hhead
    next => exact hread

theorem parts_printIpv4 (a : Nat) :
    parts (printIpv4 a).toList = (octets a).map (Nat.toDigits 10) := by
  unfold parts
  rw [cut_printIpv4]
  exact if_neg (by simp [octets, Nat.toDigits_ne_nil])

/-- A printed address is seen to be an address. -/
theorem endsInNumber_printIpv4 (a : Nat) : endsInNumber (printIpv4 a).toList = true := by
  have hlast :
    (parts (printIpv4 a).toList).getLast? = some (Nat.toDigits 10 (a % 256)) := by
    rw [parts_printIpv4]
    rfl
  unfold endsInNumber
  rw [hlast]
  simp [part?_toDigits]

theorem printIpv4_ne_nil (a : Nat) : (printIpv4 a).toList ≠ [] := by
  intro hnil
  have hnumber := endsInNumber_printIpv4 a
  rw [hnil] at hnumber
  cases hnumber

/-- A printed address is read as the address. -/
theorem ofIpv4?_printIpv4 {a : Nat} (h : a < 256 ^ 4) :
    ofIpv4? (printIpv4 a).toList = some a := by
  unfold ofIpv4?
  rw [parts_printIpv4, mapM_map_of_forall fun n _ => part?_toDigits n]
  have hfirst : a / 16777216 % 256 ≤ 255 := by omega
  have hsecond : a / 65536 % 256 ≤ 255 := by omega
  have hthird : a / 256 % 256 ≤ 255 := by omega
  have hsum : ((a / 16777216 % 256 * 256 + a / 65536 % 256) * 256 + a / 256 % 256) * 256 +
      a % 256 = a := by omega
  simp [octets, combine?, Nat.mod_lt, hsum, Nat.not_lt.mpr hfirst, Nat.not_lt.mpr hsecond,
    Nat.not_lt.mpr hthird]

theorem combine?_lt {ns : List Nat} {a : Nat} (h : combine? ns = some a) : a < 256 ^ 4 := by
  unfold combine? at h
  dsimp only at h
  split at h
  next => cases h
  next last front _ =>
    split at h
    next => cases h
    next hok =>
      simp only [Bool.or_eq_true, decide_eq_true_eq, List.any_eq_true, not_or, not_exists,
        not_and, ge_iff_le, Nat.not_le, Nat.not_lt] at hok
      obtain ⟨⟨hlen, hfront⟩, hlast⟩ := hok
      have hvalue :
        front.reverse.foldl (fun n p => n * 256 + p) 0 < 256 ^ front.reverse.length :=
        foldl_lt fun p hp => Nat.lt_succ_of_le (hfront p (List.mem_reverse.mp hp))
      rw [List.length_reverse] at hvalue
      rw [← Option.some.inj h]
      change last < 256 ^ (4 - front.length) at hlast
      -- what the front writes leaves room for a last part of all the octets that are left
      calc front.reverse.foldl (fun n p => n * 256 + p) 0 * 256 ^ (4 - front.length) + last
          < (front.reverse.foldl (fun n p => n * 256 + p) 0 + 1) * 256 ^
            (4 - front.length) := by
            rw [Nat.succ_mul]
            omega
        _ ≤ 256 ^ front.length * 256 ^ (4 - front.length) := Nat.mul_le_mul_right _ hvalue
        _ = 256 ^ 4 := by rw [← Nat.pow_add, Nat.add_sub_cancel' (Nat.le_succ_of_le hlen)]

/-- An address that is read has 32 bits. -/
theorem ofIpv4?_lt {cs : List Char} {a : Nat} (h : ofIpv4? cs = some a) : a < 256 ^ 4 := by
  obtain ⟨ns, -, hns⟩ := Option.bind_eq_some_iff.mp h
  exact combine?_lt hns

/-! ## Eight pieces -/

/-- The pieces of an address. -/
structure IsPieces (ps : List Nat) : Prop where
  length : ps.length = 8
  lt : ∀ p ∈ ps, p < 65536

/-- Pieces as they are written, with colons between them. -/
def joined (ps : List Nat) : List Char := [':'].intercalate (ps.map (Nat.toDigits 16))

theorem toList_joinPieces (ps : List Nat) : (joinPieces ps).toList = joined ps := by
  unfold joinPieces joined
  rw [String.toList_intercalate, List.map_map]
  simp only [Function.comp_def, String.toList_ofList]
  rfl

theorem not_mem_toDigits {c : Char} (hc : ∀ d < 16, Nat.digitChar d ≠ c) (n : Nat) :
    c ∉ Nat.toDigits 16 n := by
  intro h
  obtain ⟨d, hd, heq⟩ := Text.exists_digit_of_mem_toDigits (by omega) h
  exact hc d hd heq.symm

theorem joined_cons_cons (p q : Nat) (ps : List Nat) :
    joined (p :: q :: ps) = Nat.toDigits 16 p ++ ':' :: joined (q :: ps) := by
  unfold joined
  rw [List.map_cons, List.map_cons, List.intercalate_cons_cons, List.append_assoc]
  rfl

/-- What is written for some pieces begins with a digit. -/
theorem exists_joined_eq_cons (p : Nat) (ps : List Nat) :
    ∃ c cs, joined (p :: ps) = c :: cs ∧ c ≠ ':' := by
  obtain ⟨c, cs, hdigits⟩ :=
    List.exists_cons_of_ne_nil (Nat.toDigits_ne_nil (b := 16) (n := p))
  have hc : c ≠ ':' := by
    rintro rfl
    exact not_mem_toDigits (by decide) p (hdigits ▸ List.mem_cons_self ..)
  cases ps with
  | nil => exact ⟨c, cs, by simp [joined, hdigits], hc⟩
  | cons q ps => exact ⟨c, _, by rw [joined_cons_cons, hdigits, List.cons_append], hc⟩

/-- What is written is digits and colons. -/
theorem mem_joined {ps : List Nat} {c : Char} (h : c ∈ joined ps) :
    c = ':' ∨ ∃ d < 16, c = Nat.digitChar d := by
  rcases Text.mem_intercalate h with h | ⟨w, hw, hc⟩
  · exact .inl h
  · obtain ⟨p, -, rfl⟩ := List.mem_map.mp hw
    exact .inr (Text.exists_digit_of_mem_toDigits (by omega) hc)

/-! ### Reading pieces -/

theorem piece?_toDigits {p : Nat} (h : p < 65536) :
    piece? (Nat.toDigits 16 p) = some p := by
  have hlen : (Nat.toDigits 16 p).length ≤ 4 :=
    (Nat.length_toDigits_le_iff (by omega) (by omega)).mpr h
  unfold piece?
  rw [if_neg (by simp [Nat.toDigits_ne_nil, hlen])]
  exact number?_toDigits (by omega) (by omega) p

theorem pieces?_toDigits {ps : List Nat} (h : ∀ p ∈ ps, p < 65536) :
    pieces? (ps.map (Nat.toDigits 16)) = some ps := by
  induction ps with
  | nil => rfl
  | cons p ps ih =>
    obtain ⟨hp, hps⟩ := List.forall_mem_cons.mp h
    have hread := piece?_toDigits hp
    have hpoint : (Nat.toDigits 16 p).contains '.' = false := by
      simpa using not_mem_toDigits (by decide) p
    cases ps with
    | nil =>
      simp only [List.map_cons, List.map_nil, pieces?, hpoint, hread]
      rfl
    | cons q ps =>
      have hrest := ih hps
      rw [List.map_cons] at hrest
      simp only [List.map_cons, pieces?, hread, hrest]
      rfl

/-- Pieces between colons are read as they are, also if there are none. -/
theorem side?_joined {ps : List Nat} (h : ∀ p ∈ ps, p < 65536) :
    side? (joined ps) = some ps := by
  unfold side?
  cases ps with
  | nil => rfl
  | cons p ps =>
    obtain ⟨c, cs, hcs, -⟩ := exists_joined_eq_cons p ps
    rw [if_neg (by simp [hcs])]
    unfold joined
    rw [Text.cut_intercalate _ (by simp)]
    · exact pieces?_toDigits h
    · intro w hw
      obtain ⟨n, -, rfl⟩ := List.mem_map.mp hw
      exact not_mem_toDigits (by decide) n

/-! ### The double colon -/

theorem cutDouble_append {w : List Char} (h : ':' ∉ w) (rest : List Char) :
    cutDouble (w ++ rest) = (cutDouble rest).map fun (a, b) => (w ++ a, b) := by
  induction w with
  | nil => simp
  | cons c w ih =>
    obtain ⟨hc, hw⟩ := not_or.mp (List.mem_cons.not.mp h)
    rw [List.cons_append, cutDouble.eq_2 _ _ (fun _ e => absurd e.symm hc), ih hw,
      Option.map_map]
    rfl

/-- A colon in front of another character is not a double colon. -/
theorem cutDouble_colon {c : Char} (h : c ≠ ':') (rest : List Char) :
    cutDouble (':' :: c :: rest) = (cutDouble (c :: rest)).map fun (a, b) =>
      (':' :: a, b) := by
  rw [cutDouble.eq_2]
  intro r _ hr
  exact h (List.cons.inj hr).1

/-- Pieces between colons hold no double colon, and do not make one with what follows. -/
theorem cutDouble_joined_append (ps : List Nat) (rest : List Char) :
    cutDouble (joined ps ++ rest) = (cutDouble rest).map fun (a, b) =>
      (joined ps ++ a, b) := by
  induction ps with
  | nil => simp [joined]
  | cons p ps ih =>
    have hp : ':' ∉ Nat.toDigits 16 p := not_mem_toDigits (by decide) p
    cases ps with
    | nil => simpa [joined] using cutDouble_append hp rest
    | cons q ps =>
      -- the colon between two pieces stands in front of a digit
      obtain ⟨c, cs, hcs, hc⟩ := exists_joined_eq_cons q ps
      rw [joined_cons_cons, List.append_assoc, cutDouble_append hp, List.cons_append, hcs,
        List.cons_append, cutDouble_colon hc, ← List.cons_append, ← hcs, ih, Option.map_map,
        Option.map_map]
      simp [Function.comp_def]

/-! ### Runs of zeros -/

/-- The length of the run of zeros that a list begins with. -/
def run (ps : List Nat) : Nat := (ps.takeWhile (· = 0)).length

theorem zeroRuns_cons (p : Nat) (ps : List Nat) :
    zeroRuns (p :: ps) = run (p :: ps) :: zeroRuns ps := by
  induction ps generalizing p with
  | nil => by_cases h : p = 0 <;> simp [zeroRuns, run, h]
  | cons q ps ih =>
    rw [zeroRuns, ih q]
    by_cases h : p = 0 <;> simp [run, h]

/-- Each entry is the run that starts at its place. -/
theorem getElem?_zeroRuns {ps : List Nat} {i r : Nat} (h : (zeroRuns ps)[i]? = some r) :
    r = run (ps.drop i) := by
  induction ps generalizing i with
  | nil => cases h
  | cons p ps ih =>
    rw [zeroRuns_cons] at h
    cases i with
    | zero => exact (Option.some.inj h).symm
    | succ i => exact ih h

/-- A list is the run that it begins with, and what follows. -/
theorem replicate_run_append (ps : List Nat) :
    List.replicate (run ps) 0 ++ ps.drop (run ps) = ps := by
  induction ps with
  | nil => rfl
  | cons p ps ih =>
    by_cases h : p = 0
    · have hrun : run (p :: ps) = run ps + 1 := by simp [run, h]
      rw [hrun, List.replicate_succ, List.drop_succ_cons, List.cons_append, ih, h]
    · have hrun : run (p :: ps) = 0 := by simp [run, h]
      rw [hrun]
      rfl

theorem foldl_max_mem (ns : List Nat) (m : Nat) :
    ns.foldl max m = m ∨ ns.foldl max m ∈ ns := by
  induction ns generalizing m with
  | nil => exact .inl rfl
  | cons n ns ih =>
    rw [List.foldl_cons]
    rcases ih (max m n) with h | h
    · rw [h]
      rcases Nat.le_total m n with hle | hle
      · exact .inr (by simp [Nat.max_eq_right hle])
      · exact .inl (Nat.max_eq_left hle)
    · exact .inr (List.mem_cons_of_mem n h)

/-- The first longest run is a run of the list, from its place on. -/
theorem longest_run {ps : List Nat} (h : 0 < (zeroRuns ps).foldl max 0) :
    (zeroRuns ps).foldl max 0 =
      run (ps.drop ((zeroRuns ps).findIdx (· == (zeroRuns ps).foldl max 0))) := by
  generalize hlongest : (zeroRuns ps).foldl max 0 = longest at h ⊢
  have hmem : longest ∈ zeroRuns ps := by
    rcases foldl_max_mem (zeroRuns ps) 0 with h0 | hm
    · omega
    · rwa [hlongest] at hm
  have hlt : (zeroRuns ps).findIdx (· == longest) < (zeroRuns ps).length :=
    List.findIdx_lt_length_of_exists ⟨longest, hmem, beq_self_eq_true longest⟩
  have hfound := @List.findIdx_getElem _ (· == longest) (zeroRuns ps) hlt
  exact getElem?_zeroRuns (by rw [List.getElem?_eq_getElem hlt, eq_of_beq hfound])

/-- A printed address is all its pieces, or those before and behind a run of zeros. -/
theorem toList_printIpv6 (ps : List Nat) :
    (printIpv6 ps).toList = joined ps ∨
      ∃ front zeros back, ps = front ++ List.replicate zeros 0 ++ back ∧ 2 ≤ zeros ∧
        (printIpv6 ps).toList = joined front ++ ':' :: ':' :: joined back := by
  unfold printIpv6
  dsimp only
  split
  next => exact .inl (toList_joinPieces ps)
  next hlong =>
    have hrun := @longest_run ps (by omega)
    generalize (zeroRuns ps).foldl max 0 = zeros at hlong hrun ⊢
    generalize (zeroRuns ps).findIdx (· == zeros) = start at hrun ⊢
    refine .inr ⟨ps.take start, zeros, ps.drop (start + zeros), ?_, by omega, ?_⟩
    · have hback := replicate_run_append (ps.drop start)
      rw [← hrun, List.drop_drop] at hback
      rw [List.append_assoc, hback, List.take_append_drop]
    · rw [String.toList_append, String.toList_append, toList_joinPieces, toList_joinPieces,
        List.append_assoc]
      rfl

theorem mem_printIpv6 {ps : List Nat} {c : Char} (h : c ∈ (printIpv6 ps).toList) :
    c = ':' ∨ ∃ d < 16, c = Nat.digitChar d := by
  rcases toList_printIpv6 ps with htext | ⟨front, zeros, back, -, -, htext⟩
  · exact mem_joined (htext ▸ h)
  · rw [htext, List.mem_append, List.mem_cons, List.mem_cons] at h
    rcases h with h | h | h | h
    · exact mem_joined h
    · exact .inl h
    · exact .inl h
    · exact mem_joined h

/-- A printed address is read as the address. -/
theorem ofIpv6?_printIpv6 {ps : List Nat} (h : IsPieces ps) :
    ofIpv6? (printIpv6 ps).toList = some ps := by
  obtain ⟨hlen, hlt⟩ := h
  unfold ofIpv6?
  rcases toList_printIpv6 ps with htext | ⟨front, zeros, back, rfl, hzeros, htext⟩
  · have hcut : cutDouble (joined ps) = none := by
      simpa [cutDouble] using cutDouble_joined_append ps []
    simp [htext, hcut, side?_joined hlt, hlen]
  · have hcut : cutDouble (joined front ++ ':' :: ':' :: joined back) =
        some (joined front, joined back) := by
      rw [cutDouble_joined_append]
      simp [cutDouble]
    have hpoint : '.' ∉ joined front := by
      intro hmem
      rcases mem_joined hmem with hcolon | ⟨d, hd, heq⟩
      · cases hcolon
      · revert d
        decide
    have hfront : side? (joined front) = some front :=
      side?_joined fun p hp => hlt p (by simp [hp])
    have hback : side? (joined back) = some back :=
      side?_joined fun p hp => hlt p (by simp [hp])
    -- what is left out is as long as what is missing to eight pieces
    simp only [List.length_append, List.length_replicate] at hlen
    have hgap : 8 - front.length - back.length = zeros := by omega
    rw [htext, hcut]
    simp only [hfront, hback, hgap]
    rw [if_neg (by simpa using hpoint), if_pos (by omega)]

/-! ### What reading gives -/

theorem strictOctet?_lt {cs : List Char} {n : Nat} (h : strictOctet? cs = some n) :
    n < 256 := by
  unfold strictOctet? at h
  split at h
  next => cases h
  next =>
    cases h
    decide
  next => cases h
  next =>
    split at h
    next => cases h
    next => simpa using (Option.filter_eq_some_iff.mp h).2

theorem embedded?_lt {cs : List Char} {ps : List Nat} (h : embedded? cs = some ps) :
    ∀ p ∈ ps, p < 65536 := by
  unfold embedded? at h
  split at h
  next a b c d hread =>
    have hoctets := forall_of_mapM (fun _ _ => strictOctet?_lt) hread
    simp only [List.forall_mem_cons] at hoctets
    obtain ⟨ha, hb, hc, hd, -⟩ := hoctets
    cases h
    simp only [List.forall_mem_cons, List.not_mem_nil, false_implies, implies_true,
      and_true]
    omega
  next => cases h

theorem piece?_lt {cs : List Char} {p : Nat} (h : piece? cs = some p) : p < 65536 := by
  unfold piece? at h
  split at h
  next => cases h
  next hlen =>
    simp only [Bool.or_eq_true, decide_eq_true_eq, not_or, Nat.not_lt, gt_iff_lt] at hlen
    calc p < 16 ^ cs.length := number?_lt h
      _ ≤ 16 ^ 4 := Nat.pow_le_pow_right (by omega) hlen.2

theorem pieces?_lt {ws : List (List Char)} {ps : List Nat} (h : pieces? ws = some ps) :
    ∀ p ∈ ps, p < 65536 := by
  fun_induction pieces? ws generalizing ps with
  | case1 =>
    cases h
    simp
  | case2 last hpoint => exact embedded?_lt h
  | case3 last hpoint =>
    obtain ⟨p, hp, rfl⟩ := Option.map_eq_some_iff.mp h
    simpa using piece?_lt hp
  | case4 w rest hne ih =>
    obtain ⟨p, hp, h⟩ := Option.bind_eq_some_iff.mp h
    obtain ⟨qs, hqs, h⟩ := Option.bind_eq_some_iff.mp h
    cases h
    exact List.forall_mem_cons.mpr ⟨piece?_lt hp, ih hqs⟩

theorem side?_lt {cs : List Char} {ps : List Nat} (h : side? cs = some ps) :
    ∀ p ∈ ps, p < 65536 := by
  unfold side? at h
  split at h
  next =>
    cases h
    simp
  next => exact pieces?_lt h

/-- An address that is read has eight pieces of 16 bits. -/
theorem isPieces_of_ofIpv6? {cs : List Char} {ps : List Nat} (h : ofIpv6? cs = some ps) :
    IsPieces ps := by
  unfold ofIpv6? at h
  split at h
  next =>
    obtain ⟨hside, hlen⟩ := Option.filter_eq_some_iff.mp h
    exact ⟨eq_of_beq hlen, side?_lt hside⟩
  next =>
    split at h
    next => cases h
    next =>
      split at h
      next a b ha hb =>
        split at h
        next hlen =>
          cases h
          constructor
          · simp only [List.length_append, List.length_replicate]
            omega
          · intro p hp
            simp only [List.mem_append, List.mem_replicate] at hp
            rcases hp with (hp | ⟨-, rfl⟩) | hp
            · exact side?_lt ha p hp
            · decide
            · exact side?_lt hb p hp
        next => cases h
      next => cases h

end Possession.Web.Address
