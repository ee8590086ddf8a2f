import Possession.Proof.Target
import Possession.Proofs.Web.Url

/-!
# Canonical URLs

The canonical form of a URL is put together from its parts as a text, and what is compared
later is that text. It stands for the parts because it can be read again:

> `canonicalUrl_self`: a canonical form is its own canonical form, if its host is left
> alone;
> `canonicalUrl_eq_iff`: two URLs have one canonical form exactly if they have the same
> scheme, host, effective port and path.

Both follow from `IsWeb.parse_written`: the text that is put together is read as the parts
it was put together from, for every kind of host, with or without a port, and for every path
that reading gives. The first asks of the reader of domain names that it leaves the name in
the URL at hand as it is. The standard says this of all names; a reader with bounds on
encoded labels does so within them, and always for names that are plain ASCII
(`canonicalUrl_self_of_plain`). The second asks for nothing of the kind: whether two texts
are the same does not depend on how names are read, so the texts are taken apart with a
reader that leaves all names alone.
-/

namespace Possession

namespace Web.Url

/-- The port that a URL leads to: the one it names, or the one of its scheme. -/
def effectivePort (url : Url) : Option Nat :=
  url.port.or (match Family.ofScheme url.scheme with
    | .web n => some n
    | _ => none)

theorem IsWeb.effectivePort_eq {D : DomainReader} {url : Url} {n : Nat} {host : Host}
    (h : IsWeb D url n host) : url.effectivePort = some (url.port.getD n) := by
  unfold effectivePort
  rw [h.scheme]
  cases url.port <;> rfl

/-- The effective port tells which port is written, as the one of the scheme never is. -/
theorem IsWeb.port_eq_of_effectivePort {D : DomainReader} {url url' : Url} {n : Nat}
    {host host' : Host} (h : IsWeb D url n host) (h' : IsWeb D url' n host')
    (hport : url.effectivePort = url'.effectivePort) : url.port = url'.port := by
  rw [h.effectivePort_eq, h'.effectivePort_eq, Option.some.injEq] at hport
  cases hp : url.port with
  | none =>
    cases hp' : url'.port with
    | none => rfl
    | some p' =>
      rw [hp, hp'] at hport
      exact absurd hport.symm (h'.port p' hp').2
  | some p =>
    cases hp' : url'.port with
    | none =>
      rw [hp, hp'] at hport
      exact absurd hport (h.port p hp).2
    | some p' =>
      rw [hp, hp'] at hport
      exact congrArg some hport

end Web.Url

namespace Proof

open Web Url

variable {D E : DomainReader}

theorem toList_renderCanonical (url : Url) (host : Host) :
    (renderCanonical url host).toList =
      written url.scheme host url.port url.path.toList := by
  unfold renderCanonical written
  cases url.port <;>
    simp [writtenPort, String.toList_append]

/-- A canonical form is the text of the parts of a URL of the web that has been read. -/
theorem exists_isWeb_of_canonicalUrl (hD : D.IsStandard) {text c : String}
    (h : canonicalUrl D text = .ok c) :
    ∃ url n host, parse D text = .ok url ∧ (url.scheme = "http" ∨ url.scheme = "https") ∧
      IsWeb D url n host ∧ c = renderCanonical url host := by
  unfold canonicalUrl at h
  split at h
  next => cases h
  next url hurl =>
    split at h
    next hscheme =>
      obtain ⟨n, hfamily⟩ : ∃ n, Family.ofScheme url.scheme = .web n := by
        rcases hscheme with hs | hs
        · exact ⟨80, by rw [hs]; rfl⟩
        · exact ⟨443, by rw [hs]; rfl⟩
      obtain ⟨host, hweb⟩ := exists_isWeb_of_parse hD hurl hfamily
      rw [hweb.host_eq] at h
      cases h
      exact ⟨url, n, host, hurl, hscheme, hweb, rfl⟩
    next => cases h

/-- The text that is put together from the parts of a URL is read as these parts. -/
theorem parse_renderCanonical {url : Url} {n : Nat} {host : Host} (h : IsWeb D url n host)
    (hE : E.Leaves host) : parse E (renderCanonical url host) =
      .ok ⟨url.scheme, "", none, some host, url.port, url.path, none⟩ := by
  rw [← h.parse_written hE, ← toList_renderCanonical, String.ofList_toList]

/-- A canonical form is its own canonical form, if the name in it is its own ASCII form. -/
theorem canonicalUrl_self (hD : D.IsStandard) {text c : String} {url : Url}
    (h : canonicalUrl D text = .ok c) (hurl : parse D text = .ok url)
    (hname : ∀ cs name, D cs = some name → url.host = some (.domain (String.ofList name)) →
      D name = some name) : canonicalUrl D c = .ok c := by
  obtain ⟨_, n, host, hread, hscheme, hweb, rfl⟩ := exists_isWeb_of_canonicalUrl hD h
  cases hurl.symm.trans hread
  have hleaves : D.Leaves host := hweb.host.leaves hD fun cs name hcs hhost =>
    hname cs name hcs (hweb.host_eq.trans (congrArg some hhost))
  unfold canonicalUrl
  rw [parse_renderCanonical hweb hleaves]
  exact if_pos hscheme

/-- With the reader that the program runs with, a canonical form is its own canonical form
if its host is an address or a name that is plain ASCII. -/
theorem canonicalUrl_self_of_plain {text c : String} {url : Url}
    (h : canonicalUrl Idna.toAscii? text = .ok c)
    (hurl : parse Idna.toAscii? text = .ok url)
    (hplain : ∀ name, url.host = some (.domain name) →
      (∀ x ∈ name.toList, x ∈ Idna.plainChars) ∧
      ∀ l ∈ Text.CodePoints.cut '.' name.toList, ¬Idna.acePrefix <+: l) :
    canonicalUrl Idna.toAscii? c = .ok c := by
  refine canonicalUrl_self toAscii?_isStandard h hurl fun cs name _ hhost => ?_
  obtain ⟨hchars, hlabels⟩ := hplain _ hhost
  rw [String.toList_ofList] at hchars hlabels
  exact Idna.toAscii?_of_plain hchars hlabels

/-- A canonical form begins with a scheme and a double slash. -/
theorem canonicalUrl_begins (hD : D.IsStandard) {text c : String}
    (h : canonicalUrl D text = .ok c) :
    "http://".toList <+: c.toList ∨ "https://".toList <+: c.toList := by
  obtain ⟨url, n, host, -, hscheme, -, rfl⟩ := exists_isWeb_of_canonicalUrl hD h
  rw [toList_renderCanonical]
  rcases hscheme with hs | hs
  · exact .inl (hs ▸ List.prefix_append "http://".toList _)
  · exact .inr (hs ▸ List.prefix_append "https://".toList _)

/-- A canonical form has neither a query nor a fragment. -/
theorem not_mem_of_canonicalUrl (hD : D.IsStandard) {text c : String}
    (h : canonicalUrl D text = .ok c) {x : Char} (hx : x = '?' ∨ x = '#') :
    x ∉ c.toList := by
  obtain ⟨url, n, host, -, -, hweb, rfl⟩ := exists_isWeb_of_canonicalUrl hD h
  rw [toList_renderCanonical]
  intro hmem
  obtain ⟨-, hquery, hfragment⟩ := hweb.mem_written hmem
  exact hx.elim hquery hfragment

/-- One text is put together from the parts of one URL. -/
theorem eq_of_renderCanonical_eq {url url' : Url} {n n' : Nat} {host host' : Host}
    (h : IsWeb D url n host) (h' : IsWeb D url' n' host')
    (heq : renderCanonical url host = renderCanonical url' host') :
    url.scheme = url'.scheme ∧ host = host' ∧ url.port = url'.port ∧
    url.path = url'.path := by
  have hleaves : ∀ host, DomainReader.Leaves some host := fun host => by
    cases host <;> trivial
  have hparts := parse_renderCanonical h (hleaves host)
  rw [heq, parse_renderCanonical h' (hleaves host')] at hparts
  simp only [Except.ok.injEq, Url.mk.injEq, Option.some.injEq] at hparts
  obtain ⟨hscheme, -, -, hhost, hport, hpath, -⟩ := hparts
  exact ⟨hscheme.symm, hhost.symm, hport.symm, hpath.symm⟩

/-- Two URLs have one canonical form exactly if they agree in the parts that are kept,
whichever port they write out. -/
theorem canonicalUrl_eq_iff (hD : D.IsStandard) {text text' c c' : String} {url url' : Url}
    (h : canonicalUrl D text = .ok c) (h' : canonicalUrl D text' = .ok c')
    (hurl : parse D text = .ok url) (hurl' : parse D text' = .ok url') :
    c = c' ↔ url.scheme = url'.scheme ∧ url.host = url'.host ∧
      url.effectivePort = url'.effectivePort ∧ url.path = url'.path := by
  obtain ⟨_, n, host, hread, -, hweb, rfl⟩ := exists_isWeb_of_canonicalUrl hD h
  obtain ⟨_, n', host', hread', -, hweb', rfl⟩ := exists_isWeb_of_canonicalUrl hD h'
  cases hurl.symm.trans hread
  cases hurl'.symm.trans hread'
  constructor
  · intro hc
    obtain ⟨hscheme, hhost, hport, hpath⟩ := eq_of_renderCanonical_eq hweb hweb' hc
    refine ⟨hscheme, ?_, ?_, hpath⟩
    · rw [hweb.host_eq, hweb'.host_eq, hhost]
    · unfold effectivePort
      rw [hscheme, hport]
  · intro hparts
    -- with one scheme, the default port is the same, and so is the port that is written
    obtain ⟨hscheme, hhost, hport, hpath⟩ := hparts
    have hfamily := hweb'.scheme
    rw [← hscheme, hweb.scheme] at hfamily
    cases hfamily
    rw [hweb.host_eq, hweb'.host_eq] at hhost
    cases hhost
    unfold renderCanonical
    rw [hscheme, hpath, hweb.port_eq_of_effectivePort hweb' hport]

/-- Canonical forms stand for what they are the forms of: a canonical form is of the web,
has neither query nor fragment, and is its own canonical form, as long as the name of its
host is left alone when it is read again; and of two URLs that have canonical forms, these
are the same exactly if scheme, host, effective port and path are, whatever user, query,
fragment and default port were written. -/
theorem canonical_forms_are_fixed_points (hD : D.IsStandard) :
    (∀ text c, canonicalUrl D text = .ok c →
      (∀ url, parse D text = .ok url →
        (∀ cs name, D cs = some name → url.host = some (.domain (String.ofList name)) →
          D name = some name) →
        canonicalUrl D c = .ok c) ∧
      ("http://".toList <+: c.toList ∨ "https://".toList <+: c.toList) ∧
      '?' ∉ c.toList ∧ '#' ∉ c.toList) ∧
    ∀ text text' c c' url url', canonicalUrl D text = .ok c →
      canonicalUrl D text' = .ok c' → parse D text = .ok url → parse D text' = .ok url' →
      (c = c' ↔ url.scheme = url'.scheme ∧ url.host = url'.host ∧
        url.effectivePort = url'.effectivePort ∧ url.path = url'.path) := by
  constructor
  · intro text c h
    exact ⟨fun url => canonicalUrl_self hD h, canonicalUrl_begins hD h,
      not_mem_of_canonicalUrl hD h (.inl rfl), not_mem_of_canonicalUrl hD h (.inr rfl)⟩
  · intro text text' c c' url url' h h' hurl hurl'
    exact canonicalUrl_eq_iff hD h h' hurl hurl'

/-- One URL in many spellings, and another one that differs in its port. -/
theorem sample_urls_have_fixed_forms :
    canonicalUrl Idna.toAscii? "HTTPS://me@API.example.com:443/a/../b?q=1#f" =
      .ok "https://api.example.com/b" ∧
    canonicalUrl Idna.toAscii? "https://api.example.com/b" =
      .ok "https://api.example.com/b" ∧
    canonicalUrl Idna.toAscii? "https://api.example.com:8443/b" =
      .ok "https://api.example.com:8443/b" ∧
    "https://api.example.com/b" ≠ "https://api.example.com:8443/b" := by
  have hread : parse Idna.toAscii? "HTTPS://me@API.example.com:443/a/../b?q=1#f" =
      .ok ⟨"https", "me", none, some (.domain "api.example.com"), none, "/b",
        some "q=1"⟩ := by rfl
  have hread' : parse Idna.toAscii? "https://api.example.com:8443/b" =
      .ok ⟨"https", "", none, some (.domain "api.example.com"), some 8443, "/b",
        none⟩ := by rfl
  have h : canonicalUrl Idna.toAscii? "HTTPS://me@API.example.com:443/a/../b?q=1#f" =
      .ok "https://api.example.com/b" := by rfl
  have h' : canonicalUrl Idna.toAscii? "https://api.example.com:8443/b" =
      .ok "https://api.example.com:8443/b" := by rfl
  have hname :
    Idna.toAscii? "api.example.com".toList = some "api.example.com".toList := by rfl
  obtain ⟨hforms, hparts⟩ := canonical_forms_are_fixed_points toAscii?_isStandard
  refine ⟨h, (hforms _ _ h).1 _ hread fun cs name _ hhost => ?_, h', ?_⟩
  · simp only [Option.some.injEq, Host.domain.injEq] at hhost
    rw [hhost, String.toList_ofList] at hname
    exact hname
  · rw [ne_eq, hparts _ _ _ _ _ _ h h' hread hread']
    exact fun hsame => nomatch hsame.2.2.1

end Proof

end Possession
