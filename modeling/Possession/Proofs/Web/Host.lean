import Possession.Proofs.Bytes
import Possession.Proofs.Result
import Possession.Proofs.Web.Address
import Possession.Proofs.Web.Idna
import Possession.Web.Url

/-!
# Hosts of URLs

The host of a URL of the web is a domain name or an address. A domain name is read by a
reader that is given. Two facts of the standard of domain names are asked of it for all
names (`DomainReader.IsStandard`), and the reader that the program runs with has them
(`toAscii?_isStandard`). That a name in ASCII form is its own ASCII form is asked only of
the host that is written (`DomainReader.Leaves`): a reader may have bounds on the length of
encoded labels, and refuse one that it has written itself. Then a host that has been read
(`IsHost`) is written as a text that is read as this host, and that cannot be taken for a
user, a port or a path:

> `IsHost.readHost_render`: the written form of a host is read as the host;
> `IsHost.cutPort_append`: what follows it is cut off at the same place as if it stood
> alone.
-/

namespace Possession.Web

open Address

namespace Url

/-- What is known of the reading of domain names: it keeps out the characters that structure
a URL, and names of digits and points are in ASCII form. -/
structure DomainReader.IsStandard (D : DomainReader) : Prop where
  allowed : ∀ {cs name : List Char}, D cs = some name → ∀ c ∈ name,
    Idna.isForbidden c = false
  numeric : ∀ {cs : List Char}, (∀ c ∈ cs, c.isDigit = true ∨ c = '.') → D cs = some cs

/-- The reader that the program runs with is as the standard says. -/
theorem toAscii?_isStandard : DomainReader.IsStandard Idna.toAscii? where
  allowed := Idna.isForbidden_of_toAscii?
  numeric := Idna.toAscii?_of_isDigit

/-- The reader leaves the written form of a host as it is. An address in brackets it does
not get to see. -/
def DomainReader.Leaves (D : DomainReader) : Host → Prop
  | .ipv6 _ => True
  | host => D host.render.toList = some host.render.toList

/-- The hosts that a URL of the web can have. -/
inductive IsHost (D : DomainReader) : Host → Prop where
  | domain (name : List Char) (nonempty : name ≠ []) (plain : endsInNumber name = false)
      (given : ∃ cs, D cs = some name) (allowed : ∀ c ∈ name, Idna.isForbidden c = false) :
      IsHost D (.domain (String.ofList name))
  | ipv4 (a : Nat) (lt : a < 256 ^ 4) : IsHost D (.ipv4 a)
  | ipv6 (ps : List Nat) (pieces : IsPieces ps) : IsHost D (.ipv6 ps)

variable {D E : DomainReader}

/-- Of the hosts that have been read, only names can be other than their ASCII form. -/
theorem IsHost.leaves (hD : D.IsStandard) {host : Host} (h : IsHost D host)
    (hname : ∀ cs name, D cs = some name → host = .domain (String.ofList name) →
      D name = some name) : D.Leaves host := by
  cases h with
  | domain name _ _ given _ =>
    obtain ⟨cs, hread⟩ := given
    have hkept := hname cs name hread rfl
    simpa [DomainReader.Leaves, Host.render] using hkept
  | ipv4 a _ => exact hD.numeric fun c => mem_printIpv4
  | ipv6 ps _ => exact trivial

/-! ## What reading gives -/

theorem isHost_of_bracketed {cs : List Char} {host : Host} (h : bracketed cs = .ok host) :
    IsHost D host := by
  unfold bracketed at h
  split at h
  next =>
    split at h
    next ps hps =>
      cases h
      exact .ipv6 ps (isPieces_of_ofIpv6? hps)
    next => cases h
  next => cases h

theorem isHost_of_specialHost (hD : D.IsStandard) {cs : List Char} {host : Host}
    (h : specialHost D cs = .ok host) : IsHost D host := by
  unfold specialHost at h
  split at h
  next => exact isHost_of_bracketed h
  next =>
    split at h
    next => cases h
    next => cases h
    next name hne hread =>
      obtain ⟨s, -, hread⟩ := Option.bind_eq_some_iff.mp hread
      split at h
      next =>
        split at h
        next a ha =>
          cases h
          exact .ipv4 a (ofIpv4?_lt ha)
        next => cases h
      next hnumber =>
        cases h
        exact .domain name hne (Bool.eq_false_of_not_eq_true hnumber) ⟨_, hread⟩
          (hD.allowed hread)

theorem exists_isHost_of_readHost (hD : D.IsStandard) {n : Nat} {cs : List Char}
    {host : Option Host} (h : readHost D (.web n) cs = .ok host) :
    ∃ h, host = some h ∧ IsHost D h := by
  unfold readHost Family.isSpecial at h
  rw [if_pos rfl] at h
  split at h
  next => cases h
  next =>
    obtain ⟨given, hgiven, rfl⟩ := Result.map_eq_ok.mp h
    exact ⟨given, rfl, isHost_of_specialHost hD hgiven⟩

/-! ## Characters of written hosts -/

theorem toList_render_ipv6 (ps : List Nat) :
    (Host.ipv6 ps).render.toList = '[' :: ((printIpv6 ps).toList ++ [']']) := by
  rw [Host.render, String.toList_append, String.toList_append, List.append_assoc]
  rfl

theorem IsHost.render_ne_nil {host : Host} (h : IsHost D host) :
    host.render.toList ≠ [] := by
  cases h with
  | domain name nonempty _ _ _ => rwa [Host.render, String.toList_ofList]
  | ipv4 a _ => exact printIpv4_ne_nil a
  | ipv6 ps _ => exact toList_render_ipv6 ps ▸ List.cons_ne_nil _ _

/-- Characters between the slashes in front of a host and the path, if there is no user. -/
structure IsAuthorityChar (c : Char) : Prop where
  visible : 32 < c.toNat
  notSlash : c ≠ '/'
  notBackslash : c ≠ '\\'
  notQuery : c ≠ '?'
  notFragment : c ≠ '#'
  notUser : c ≠ '@'

theorem isAuthorityChar_iff {c : Char} : IsAuthorityChar c ↔
    32 < c.toNat ∧ c ≠ '/' ∧ c ≠ '\\' ∧ c ≠ '?' ∧ c ≠ '#' ∧ c ≠ '@' := by
  constructor
  · intro h
    exact ⟨h.1, h.2, h.3, h.4, h.5, h.6⟩
  · intro h
    exact ⟨h.1, h.2.1, h.2.2.1, h.2.2.2.1, h.2.2.2.2.1, h.2.2.2.2.2⟩

instance : DecidablePred IsAuthorityChar :=
  fun _ => decidable_of_iff _ isAuthorityChar_iff.symm

theorem isAuthorityChar_of_isForbidden {c : Char} (h : Idna.isForbidden c = false) :
    IsAuthorityChar c := by
  unfold Idna.isForbidden at h
  simp only [Bool.or_eq_false_iff, decide_eq_false_iff_not, Nat.not_le] at h
  obtain ⟨⟨hvisible, -⟩, hset⟩ := h
  have hother : ∀ d, "%#/:<>?@[\\]^|".toList.contains d = true → c ≠ d := by
    intro d hd heq
    rw [heq, hd] at hset
    cases hset
  exact ⟨hvisible, hother _ rfl, hother _ rfl, hother _ rfl, hother _ rfl, hother _ rfl⟩

theorem isAuthorityChar_of_isDigit {c : Char} (h : c.isDigit = true) :
    IsAuthorityChar c := by
  have hcode := Text.isDigit_iff.mp h
  have hother : ∀ d : Char, d.isDigit = false → c ≠ d := by
    intro d hd heq
    rw [heq, hd] at h
    cases h
  exact ⟨by omega, hother _ rfl, hother _ rfl, hother _ rfl, hother _ rfl, hother _ rfl⟩

theorem IsHost.mem_render {host : Host} (h : IsHost D host) {c : Char}
    (hc : c ∈ host.render.toList) : IsAuthorityChar c := by
  cases h with
  | domain name _ _ _ allowed =>
    rw [Host.render, String.toList_ofList] at hc
    exact isAuthorityChar_of_isForbidden (allowed c hc)
  | ipv4 a _ =>
    rcases mem_printIpv4 hc with hc | rfl
    · exact isAuthorityChar_of_isDigit hc
    · decide
  | ipv6 ps _ =>
    have hdigit : ∀ d < 16, IsAuthorityChar (Nat.digitChar d) := by decide
    rw [toList_render_ipv6, List.mem_cons, List.mem_append, List.mem_singleton] at hc
    rcases hc with rfl | hc | rfl
    · decide
    · rcases mem_printIpv6 hc with rfl | ⟨d, hd, rfl⟩
      · decide
      · exact hdigit d hd
    · decide

/-! ## Reading written hosts -/

/-- A text without percent signs has the octets of the text. -/
theorem decodePercent_of_not_mem {cs : List Char} (h : '%' ∉ cs) :
    decodePercent cs = Bytes.ofString (String.ofList cs) := by
  induction cs with
  | nil => rfl
  | cons c cs ih =>
    obtain ⟨hc, hcs⟩ := not_or.mp (List.mem_cons.not.mp h)
    rw [decodePercent.eq_2 _ _ fun _ _ _ e => absurd e.symm hc, ih hcs,
      ← Bytes.ofString_append]
    rw [String.singleton_eq_ofList, ← String.ofList_append]
    rfl

/-- A name that is its own ASCII form is read as the address that it stands for, or as
itself if it stands for none. -/
theorem specialHost_of_read {name : List Char} (hne : name ≠ []) (hbracket : '[' ∉ name)
    (hpercent : '%' ∉ name) (hread : E name = some name) {host : Host}
    (hhost : endsInNumber name = false ∧ host = .domain (String.ofList name) ∨
      endsInNumber name = true ∧ ∃ a, ofIpv4? name = some a ∧ host = .ipv4 a) :
    specialHost E name = .ok host := by
  have hhead : ¬(name.head? == some '[') = true := by
    intro hhead
    exact hbracket (List.mem_of_mem_head? (eq_of_beq hhead))
  have htext :
    ((Bytes.toString? (decodePercent name)).bind fun s => E s.toList) = some name := by
    rw [decodePercent_of_not_mem hpercent, Bytes.toString?_ofString, Option.bind_some,
      String.toList_ofList, hread]
  obtain ⟨c, cs, rfl⟩ := List.exists_cons_of_ne_nil hne
  unfold specialHost
  simp only [if_neg hhead, htext]
  rcases hhost with ⟨hnumber, rfl⟩ | ⟨hnumber, a, ha, rfl⟩
  · rw [if_neg (by simp [hnumber])]
  · simp only [if_pos hnumber, ha]

/-- Whichever reader gave a host, one that leaves it alone reads its written form as the
host. -/
theorem IsHost.specialHost_render {host : Host} (h : IsHost D host) (hE : E.Leaves host) :
    specialHost E host.render.toList = .ok host := by
  cases h with
  | domain name nonempty plain given allowed =>
    have hno : ∀ c, Idna.isForbidden c = true → c ∉ name := by
      intro c hc hmem
      rw [allowed c hmem] at hc
      cases hc
    have hread : E name = some name := by
      simpa [DomainReader.Leaves, Host.render] using hE
    rw [Host.render, String.toList_ofList]
    exact specialHost_of_read nonempty (hno _ (by decide)) (hno _ (by decide)) hread
      (.inl ⟨plain, rfl⟩)
  | ipv4 a lt =>
    have hno : ∀ c : Char, c.isDigit = false → c ≠ '.' → c ∉ (printIpv4 a).toList := by
      intro c hdigit hpoint hmem
      rcases mem_printIpv4 hmem with h | h
      · rw [hdigit] at h
        cases h
      · exact hpoint h
    exact specialHost_of_read (printIpv4_ne_nil a) (hno _ (by decide) (by decide))
      (hno _ (by decide) (by decide)) hE
      (.inr ⟨endsInNumber_printIpv4 a, a, ofIpv4?_printIpv4 lt, rfl⟩)
  | ipv6 ps pieces =>
    -- an address in brackets does not go to the reader of names
    rw [toList_render_ipv6]
    unfold specialHost bracketed
    have hlast : ('[' :: ((printIpv6 ps).toList ++ [']'])).getLast? = some ']' := by
      rw [← List.cons_append, List.getLast?_concat]
    rw [if_pos (by simp), hlast, if_pos (by simp), List.drop_one, List.tail_cons,
      List.dropLast_concat, ofIpv6?_printIpv6 pieces]

/-- The written form of a host is read as the host. -/
theorem IsHost.readHost_render {host : Host} (h : IsHost D host) (hE : E.Leaves host)
    (n : Nat) : readHost E (.web n) host.render.toList = .ok (some host) := by
  have hread := h.specialHost_render hE
  have hne : ¬host.render.toList.isEmpty = true := by
    simpa using h.render_ne_nil
  unfold readHost Family.isSpecial
  rw [if_pos rfl, if_neg hne, hread]
  rfl

/-! ## Cutting off what follows -/

theorem cutPort_append_of_forall {w : List Char} (h : ∀ c ∈ w, c ≠ ':' ∧ c ≠ '[')
    (rest : List Char) :
    cutPort false (w ++ rest) = (w ++ (cutPort false rest).1, (cutPort false rest).2) := by
  induction w with
  | nil => rfl
  | cons c w ih =>
    obtain ⟨⟨hcolon, hopen⟩, hw⟩ := List.forall_mem_cons.mp h
    rw [List.cons_append, cutPort, if_neg (by simp [hcolon]), if_neg hopen]
    simp [ih hw]

/-- In brackets, nothing is cut off. -/
theorem cutPort_inside {w : List Char} (h : ']' ∉ w) (rest : List Char) :
    cutPort true (w ++ ']' :: rest) =
      (w ++ ']' :: (cutPort false rest).1, (cutPort false rest).2) := by
  induction w with
  | nil => simp [cutPort]
  | cons c w ih =>
    obtain ⟨hclose, hw⟩ := not_or.mp (List.mem_cons.not.mp h)
    rw [List.cons_append, cutPort, if_neg (by simp)]
    simp [Ne.symm hclose, ih hw]

/-- What follows the written form of a host is cut off as if it stood alone. -/
theorem IsHost.cutPort_append {host : Host} (h : IsHost D host) (rest : List Char) :
    cutPort false (host.render.toList ++ rest) =
      (host.render.toList ++ (cutPort false rest).1, (cutPort false rest).2) := by
  cases h with
  | domain name _ _ _ allowed =>
    rw [Host.render, String.toList_ofList]
    refine cutPort_append_of_forall ?_ rest
    intro c hc
    have hc := allowed c hc
    constructor
    all_goals
      rintro rfl
      revert hc
      decide
  | ipv4 a _ =>
    refine cutPort_append_of_forall ?_ rest
    intro c hc
    rcases mem_printIpv4 hc with hc | rfl
    · constructor
      all_goals
        rintro rfl
        cases hc
    · decide
  | ipv6 ps _ =>
    have hclose : ']' ∉ (printIpv6 ps).toList := by
      intro hc
      rcases mem_printIpv6 hc with hc | ⟨d, hd, hc⟩
      · cases hc
      · revert d
        decide
    rw [toList_render_ipv6, List.cons_append, List.append_assoc, cutPort, if_neg (by simp)]
    simp [cutPort_inside hclose]

end Url

end Possession.Web
