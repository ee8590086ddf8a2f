import Possession.Proofs.Web.Host
import Possession.Proofs.Web.Path

/-!
# URLs of the web, read and written

Reading takes a URL apart, at marks that tell where a part ends; writing puts its scheme,
host, port and path together. What has been read as a URL of the web has parts of a certain
form (`IsWeb`), and these are found again in what is written:

> `exists_isWeb_of_parse`: what is read with a scheme of the web has the parts of a URL of
> the web;
> `IsWeb.parse_written`: the text of such parts is read as these parts.

The second follows the reader from left to right. Each part is without the marks that would
end it too early, and is itself read as what it was written for.
-/

namespace Possession.Web.Url

variable {D E : DomainReader} {n : Nat}

/-! ## Ports -/

/-- A port that is left out is the one of the scheme. -/
theorem readPort_toDigits {p : Nat} (h : p ≤ 65535) :
    readPort (Nat.toDigits 10 p) = .ok (some p, []) := by
  have hspan : (Nat.toDigits 10 p).span Char.isDigit = (Nat.toDigits 10 p, []) := by
    have hall : ∀ c ∈ Nat.toDigits 10 p, c.isDigit = true :=
      fun _ => Text.isDigit_of_mem_toDigits
    rw [List.span_eq_takeWhile_dropWhile, List.takeWhile_eq_self_iff.mpr hall,
      List.dropWhile_eq_nil_iff.mpr hall]
  have hempty : (Nat.toDigits 10 p).isEmpty = false := by simp [Nat.toDigits_ne_nil]
  unfold readPort
  rw [hspan]
  dsimp only
  rw [Text.foldl_toDigits, if_neg (by omega), hempty]
  rfl

theorem le_of_readPort {cs left : List Char} {port : Option Nat}
    (h : readPort cs = .ok (port, left)) : ∀ p ∈ port, p ≤ 65535 := by
  have hread : ∀ {n : Nat} {none? : Bool} {rest : List Char},
      (if n > 65535 then Except.error UrlError.port
        else .ok (if none? then none else some n, rest)) = .ok (port, left) →
      ∀ p ∈ port, p ≤ 65535 := by
    intro n none? rest h p hp
    split at h
    next => cases h
    next hle =>
      cases h
      split at hp
      next => cases hp
      next =>
        cases hp
        omega
  unfold readPort at h
  dsimp only at h
  split at h
  next => exact hread h
  next => exact hread h
  next => cases h

/-! ## What reading gives -/

/-- A port that is kept is not the one that goes without saying. -/
theorem mem_port {port default : Option Nat} {p : Nat}
    (h : p ∈ if port == default then none else port) : p ∈ port ∧ default ≠ some p := by
  by_cases heq : port = default
  · rw [if_pos (by simpa using heq)] at h
    cases h
  · rw [if_neg (by simpa using heq)] at h
    exact ⟨h, fun e => heq (h.trans e.symm)⟩

/-- Of what is read behind the double slash, the host and the path are what their readers
give, and the port is not the one that goes without saying. -/
theorem readAuthority_eq_ok {scheme : String} {f : Family} {cs : List Char} {url : Url}
    (h : readAuthority D scheme f cs = .ok url) :
    url.scheme = scheme ∧ (∃ hostText, readHost D f hostText = .ok url.host) ∧
      (∀ p ∈ url.port, p ≤ 65535 ∧ f ≠ .web p) ∧
      ∃ pathText, url.path = String.ofList (pathBehindHost f pathText) := by
  unfold readAuthority at h
  dsimp only at h
  split at h
  next => cases h
  next =>
    obtain ⟨host, hhost, h⟩ := Result.bind_eq_ok.mp h
    split at h
    next => cases h
    next =>
      split at h
      next =>
        obtain ⟨⟨port, left⟩, hread, h⟩ := Result.bind_eq_ok.mp h
        cases h
        refine ⟨rfl, ⟨_, hhost⟩, ?_, _, rfl⟩
        intro p hp
        obtain ⟨hp, hne⟩ := mem_port hp
        refine ⟨le_of_readPort hread p hp, ?_⟩
        rintro rfl
        exact hne rfl
      next =>
        cases h
        refine ⟨rfl, ⟨_, hhost⟩, ?_, _, rfl⟩
        intro p hp
        cases (mem_port hp).1

theorem scheme_of_readFile {cs : List Char} {url : Url} (h : readFile D cs = .ok url) :
    url.scheme = "file" := by
  unfold readFile at h
  split at h
  next =>
    dsimp only at h
    split at h
    next =>
      split at h
      next =>
        cases h
        rfl
      next =>
        obtain ⟨host, -, h⟩ := Result.bind_eq_ok.mp h
        cases h
        rfl
    next =>
      cases h
      rfl
  next =>
    cases h
    rfl

/-- The parts of a URL of the web: a host, a port that does not go without saying, and a
path. -/
structure IsWeb (D : DomainReader) (url : Url) (n : Nat) (host : Host) : Prop where
  scheme : Family.ofScheme url.scheme = .web n
  host_eq : url.host = some host
  host : IsHost D host
  port : ∀ p ∈ url.port, p ≤ 65535 ∧ p ≠ n
  path : IsPath url.path.toList

/-- A URL that is read with a scheme of the web has the parts of a URL of the web. -/
theorem exists_isWeb_of_parse (hD : D.IsStandard) {text : String} {url : Url}
    (h : parse D text = .ok url) (hscheme : Family.ofScheme url.scheme = .web n) :
    ∃ host, IsWeb D url n host := by
  unfold parse at h
  split at h
  next => cases h
  next scheme rest _ =>
    split at h
    next m hfamily =>
      obtain ⟨rfl, ⟨hostText, hhost⟩, hport, pathText, hpath⟩ := readAuthority_eq_ok h
      rw [hfamily] at hscheme
      cases hscheme
      obtain ⟨host, hsome, hhost⟩ := exists_isHost_of_readHost hD hhost
      refine ⟨host, hfamily, hsome, hhost, fun p hp => ?_, ?_⟩
      · exact ⟨(hport p hp).1, fun e => (hport p hp).2 (e ▸ rfl)⟩
      · rw [hpath, String.toList_ofList]
        exact isPath_pathBehindHost pathText
    next =>
      rw [scheme_of_readFile h] at hscheme
      cases hscheme
    next hfamily =>
      -- whatever follows, the scheme is kept as it was read
      have hread : url.scheme = scheme := by
        split at h
        next => exact (readAuthority_eq_ok h).1
        next =>
          cases h
          rfl
      rw [hread, hfamily] at hscheme
      cases hscheme

/-! ## Reading what is written -/

/-- A text of visible characters is left as it is. -/
theorem clean_of_forall {cs : List Char} (h : ∀ c ∈ cs, 32 < c.toNat) : clean cs = cs := by
  have hdrop : ∀ {ds : List Char}, (∀ c ∈ ds, 32 < c.toNat) →
      ds.dropWhile (fun c => decide (c.toNat ≤ 32)) = ds := by
    intro ds hds
    cases ds with
    | nil => rfl
    | cons d ds =>
      have hd := hds d (List.mem_cons_self ..)
      rw [List.dropWhile_cons_of_neg (by simpa using hd)]
  unfold clean
  dsimp only
  rw [hdrop h, hdrop (fun c hc => h c (List.mem_reverse.mp hc)), List.reverse_reverse,
    List.filter_eq_self]
  intro c hc
  have hvisible := h c hc
  simp only [Bool.not_eq_true', Bool.or_eq_false_iff, decide_eq_false_iff_not]
  refine ⟨⟨?_, ?_⟩, ?_⟩
  all_goals
    rintro rfl
    revert hvisible
    decide

theorem cutUser_of_not_mem {cs : List Char} (h : '@' ∉ cs) : cutUser cs = (none, cs) := by
  unfold cutUser
  rw [Text.cutLast_of_not_mem h]

theorem cutQuery_of_not_mem {cs : List Char} (hfragment : '#' ∉ cs) (hquery : '?' ∉ cs) :
    cutQuery cs = (cs, none) := by
  have htake : cs.takeWhile (· ≠ '#') = cs :=
    List.takeWhile_eq_self_iff.mpr fun c hc => decide_eq_true fun e => hfragment (e ▸ hc)
  have hdrop : cs.dropWhile (· ≠ '?') = [] :=
    List.dropWhile_eq_nil_iff.mpr fun c hc => decide_eq_true fun e => hquery (e ▸ hc)
  unfold cutQuery
  dsimp only
  rw [htake, hdrop]

/-- The written form of a port, if there is one. -/
def writtenPort (port : Option Nat) : List Char :=
  match port with
  | some p => ':' :: Nat.toDigits 10 p
  | none => []

theorem cutPort_writtenPort (port : Option Nat) :
    cutPort false (writtenPort port) = ([], port.map (Nat.toDigits 10)) := by
  cases port <;> simp [writtenPort, cutPort]

theorem mem_writtenPort {port : Option Nat} {c : Char} (h : c ∈ writtenPort port) :
    IsAuthorityChar c := by
  cases port with
  | none => cases h
  | some p =>
    rcases List.mem_cons.mp h with rfl | h
    · decide
    · exact isAuthorityChar_of_isDigit (Text.isDigit_of_mem_toDigits h)

theorem not_endsAuthority {c : Char} (h : IsAuthorityChar c) :
    Family.endsAuthority (.web n) c = false := by
  simp [Family.endsAuthority, Family.isSlash, h.notSlash, h.notBackslash, h.notQuery,
    h.notFragment]

/-- The parts of a URL of the web, written behind the double slash, are read as they are. -/
theorem readAuthority_written {scheme : String} {host : Host} (hhost : IsHost D host)
    (hE : E.Leaves host) {port : Option Nat} (hport : ∀ p ∈ port, p ≤ 65535 ∧ p ≠ n)
    {path : List Char} (hpath : IsPath path) :
    readAuthority E scheme (.web n) (host.render.toList ++ writtenPort port ++ path) =
      .ok ⟨scheme, "", none, some host, port, String.ofList path, none⟩ := by
  have hchars : ∀ c ∈ host.render.toList ++ writtenPort port, IsAuthorityChar c :=
    List.forall_mem_append.mpr ⟨fun c => hhost.mem_render, fun c => mem_writtenPort⟩
  -- the authority ends at the first slash of the path
  have hgo : ∀ c ∈ host.render.toList ++ writtenPort port,
      (!Family.endsAuthority (.web n) c) = true := fun c hc => by
    rw [not_endsAuthority (hchars c hc)]
    rfl
  have hstop : path.takeWhile (!Family.endsAuthority (.web n) ·) = [] ∧
      path.dropWhile (!Family.endsAuthority (.web n) ·) = path := by
    obtain ⟨segs, hne, -, rfl⟩ := hpath
    rw [flatMap_slash hne]
    exact ⟨rfl, rfl⟩
  have huser : cutUser (host.render.toList ++ writtenPort port) =
      (none, host.render.toList ++ writtenPort port) :=
    cutUser_of_not_mem fun hmem => (hchars _ hmem).notUser rfl
  -- a colon inside brackets does not begin a port, so the host comes off whole
  have hcut : cutPort false (host.render.toList ++ writtenPort port) =
      (host.render.toList, port.map (Nat.toDigits 10)) := by
    rw [hhost.cutPort_append, cutPort_writtenPort, List.append_nil]
  have hquery : cutQuery path = (path, none) :=
    cutQuery_of_not_mem (fun hmem => (hpath.mem hmem).not_mem_reserved.2.2 rfl)
      (fun hmem => (hpath.mem hmem).not_mem_reserved.2.1 rfl)
  unfold readAuthority
  dsimp only
  rw [List.takeWhile_append_of_pos hgo, List.dropWhile_append_of_pos hgo, hstop.1, hstop.2,
    List.append_nil, huser]
  dsimp only
  rw [hcut]
  dsimp only
  rw [hhost.readHost_render hE]
  have hname : splitUser [] = ("", none) := rfl
  cases port with
  | none =>
    simp [Result.ok_bind, hname, hquery, hpath.pathBehindHost]
  | some p =>
    obtain ⟨hle, hne⟩ := hport p rfl
    simp [Result.ok_bind, hname, readPort_toDigits hle, hquery, hpath.pathBehindHost, hne]

theorem scheme_mem_of_ofScheme {s : String} (h : Family.ofScheme s = .web n) :
    s ∈ ["http", "ws", "https", "wss", "ftp"] := by
  unfold Family.ofScheme at h
  split at h
  all_goals first
    | decide
    | cases h

/-- A scheme of the web in front of a colon is cut off as it stands. -/
theorem cutScheme_written {s : String} (h : Family.ofScheme s = .web n) (rest : List Char) :
    cutScheme (s.toList ++ ':' :: rest) = some (s, rest) := by
  have hmem := scheme_mem_of_ofScheme h
  simp only [List.mem_cons, List.not_mem_nil, or_false] at hmem
  rcases hmem with rfl | rfl | rfl | rfl | rfl <;> rfl

/-- The text of a URL of the web, without a user, a query and a fragment. -/
def written (scheme : String) (host : Host) (port : Option Nat) (path : List Char) :
    List Char :=
  scheme.toList ++ ':' :: '/' :: '/' :: (host.render.toList ++ writtenPort port ++ path)

/-- What is written is visible, and has no place for a query or a fragment. -/
theorem IsWeb.mem_written {url : Url} {host : Host} (h : IsWeb D url n host) {c : Char}
    (hc : c ∈ written url.scheme host url.port url.path.toList) :
    32 < c.toNat ∧ c ≠ '?' ∧ c ≠ '#' := by
  have hscheme : ∀ s ∈ ["http", "ws", "https", "wss", "ftp"],
      s.toList.all (fun c => decide (32 < c.toNat ∧ c ≠ '?' ∧ c ≠ '#')) = true := by decide
  have hauthority : IsAuthorityChar c → 32 < c.toNat ∧ c ≠ '?' ∧ c ≠ '#' := fun hc =>
    ⟨hc.visible, hc.notQuery, hc.notFragment⟩
  unfold written at hc
  rw [List.mem_append, List.mem_cons, List.mem_cons, List.mem_cons, List.mem_append,
    List.mem_append] at hc
  rcases hc with hc | rfl | rfl | rfl | (hc | hc) | hc
  · have hall := hscheme _ (scheme_mem_of_ofScheme h.scheme)
    exact of_decide_eq_true (List.all_eq_true.mp hall c hc)
  · decide
  · decide
  · decide
  · exact hauthority (h.host.mem_render hc)
  · exact hauthority (mem_writtenPort hc)
  · exact (h.path.mem hc).not_mem_reserved

/-- What is written is read as what it was written for, by each reader of names that leaves
the host alone. -/
theorem IsWeb.parse_written {url : Url} {host : Host} (h : IsWeb D url n host)
    (hE : E.Leaves host) :
    parse E (String.ofList (written url.scheme host url.port url.path.toList)) =
      .ok ⟨url.scheme, "", none, some host, url.port, url.path, none⟩ := by
  have hclean := clean_of_forall fun c hc => (h.mem_written (c := c) hc).1
  -- any number of slashes is skipped, but the host does not begin with one
  have hslashes : ('/' :: '/' :: (host.render.toList ++ writtenPort url.port ++
      url.path.toList)).dropWhile (fun c => decide (c = '/') || decide (c = '\\')) =
      host.render.toList ++ writtenPort url.port ++ url.path.toList := by
    obtain ⟨c, cs, hcs⟩ := List.exists_cons_of_ne_nil h.host.render_ne_nil
    have hc : IsAuthorityChar c := h.host.mem_render (hcs ▸ List.mem_cons_self ..)
    have hstop : ¬(decide (c = '/') || decide (c = '\\')) = true := by
      simp [hc.notSlash, hc.notBackslash]
    rw [List.dropWhile_cons_of_pos rfl, List.dropWhile_cons_of_pos rfl, hcs,
      List.cons_append, List.cons_append]
    exact List.dropWhile_cons_of_neg hstop
  unfold parse
  rw [String.toList_ofList, hclean, written, cutScheme_written h.scheme]
  dsimp only
  rw [h.scheme]
  dsimp only
  rw [hslashes, readAuthority_written h.host hE h.port h.path, String.ofList_toList]

end Possession.Web.Url
