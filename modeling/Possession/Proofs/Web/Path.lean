import Possession.Proofs.Text.Cut
import Possession.Web.Url

/-!
# Paths of URLs

A path is put together from segments, of which none is a dot or a double dot, and all are in
percent form (`IsSegment`). What reading gives is such a path (`isPath_pathBehindHost`), and
such a path is read as it stands (`IsPath.pathBehindHost`): dots have been resolved,
backslashes are slashes, and percent forms are not put into percent form again.
-/

namespace Possession.Web.Url

open Text.CodePoints (cut)

/-! ## Characters -/

/-- Characters that a path shows as they are. -/
def IsPathChar (c : Char) : Prop := isPathReserved c = false ∧ c.toNat ≤ 126

instance : DecidablePred IsPathChar := fun _ => inferInstanceAs (Decidable (_ ∧ _))

theorem IsPathChar.not_mem_reserved {c : Char} (h : IsPathChar c) :
    32 < c.toNat ∧ c ≠ '?' ∧ c ≠ '#' := by
  obtain ⟨hreserved, -⟩ := h
  unfold isPathReserved isControl at hreserved
  rw [Bool.or_eq_false_iff, decide_eq_false_iff_not] at hreserved
  obtain ⟨hcontrol, hset⟩ := hreserved
  have hother : ∀ d ∈ " \"<>`#?\x7b\x7d".toList, c ≠ d := by
    rintro d hd rfl
    rw [List.contains_iff_mem.mpr hd] at hset
    cases hset
  refine ⟨?_, hother '?' (by decide), hother '#' (by decide)⟩
  have hblank : c.toNat ≠ 32 := fun h => hother ' ' (by decide) (Char.toNat_inj.mp h)
  omega

/-- The characters of a percent form are shown as they are, and do not separate segments. -/
theorem mem_percent {b : UInt8} {c : Char} (h : c ∈ percent b) :
    IsPathChar c ∧ c ≠ '/' ∧ c ≠ '\\' := by
  have hdigit : ∀ d < 16, IsPathChar (Nat.digitChar d).toUpper ∧
      (Nat.digitChar d).toUpper ≠ '/' ∧ (Nat.digitChar d).toUpper ≠ '\\' := by decide
  have hb : b.toNat < 256 := b.toNat_lt
  simp only [percent, List.mem_cons, List.not_mem_nil, or_false] at h
  rcases h with rfl | rfl | rfl
  · decide
  · exact hdigit _ (by omega)
  · exact hdigit _ (by omega)

/-- What is in percent form is shown as it is; a character was there before, or is of a
percent form. -/
theorem mem_encodeChars {cs : List Char} {c : Char}
    (h : c ∈ encodeChars isPathReserved cs) :
    IsPathChar c ∧ (c ∈ cs ∨ c ≠ '/' ∧ c ≠ '\\') := by
  obtain ⟨d, hd, hc⟩ := List.mem_flatMap.mp h
  split at hc
  next =>
    obtain ⟨b, -, hb⟩ := List.mem_flatMap.mp hc
    exact ⟨(mem_percent hb).1, .inr (mem_percent hb).2⟩
  next hplain =>
    rw [List.mem_singleton] at hc
    subst hc
    simp only [Bool.or_eq_true, decide_eq_true_eq, not_or, Nat.not_lt,
      Bool.not_eq_true] at hplain
    exact ⟨hplain, .inl hd⟩

/-- Characters that are shown as they are are not put into percent form. -/
theorem encodeChars_of_forall {cs : List Char} (h : ∀ c ∈ cs, IsPathChar c) :
    encodeChars isPathReserved cs = cs := by
  induction cs with
  | nil => rfl
  | cons c cs ih =>
    obtain ⟨⟨hreserved, hcode⟩, hcs⟩ := List.forall_mem_cons.mp h
    have hplain : ¬(isPathReserved c || c.toNat > 126) = true := by
      rw [hreserved]
      simpa using hcode
    have hrest := ih hcs
    unfold encodeChars at hrest ⊢
    rw [List.flatMap_cons, if_neg hplain, hrest]
    rfl

/-! ## Segments -/

/-- A segment that stays in place, between slashes. -/
structure IsSegment (s : List Char) : Prop where
  notDot : isDot s = false
  notDoubleDot : isDoubleDot s = false
  chars : ∀ c ∈ s, IsPathChar c ∧ c ≠ '/' ∧ c ≠ '\\'

theorem isSegment_nil : IsSegment [] := ⟨rfl, rfl, nofun⟩

theorem mem_goUp {segs : List (List Char)} {s : List Char} (h : s ∈ goUp segs) :
    s ∈ segs := by
  unfold goUp at h
  split at h
  next => cases h
  next =>
    split at h
    next => exact h
    next => exact List.mem_cons_of_mem _ h

theorem resolve_ne_nil {before segs : List (List Char)} (h : segs ≠ []) :
    resolve before segs ≠ [] := by
  fun_induction resolve before segs with
  | case1 => exact absurd rfl h
  | case2 | case3 | case4 => simp
  | case5 _ _ _ hne _ ih | case6 _ _ _ hne _ _ ih | case7 _ _ _ hne _ _ ih =>
    exact ih fun e => hne e

/-- What holds of the empty segment and of each segment that stays in place holds of all
segments that are left. -/
theorem forall_resolve {P : List Char → Prop} (hnil : P []) {before segs : List (List Char)}
    (hbefore : ∀ s ∈ before, P s)
    (hsegs : ∀ s ∈ segs, isDot s = false → isDoubleDot s = false → P s) :
    ∀ s ∈ resolve before segs, P s := by
  -- going up only drops segments, and a segment is added if it stays in place
  have hup : ∀ {before : List (List Char)}, (∀ s ∈ before, P s) → ∀ s ∈ goUp before, P s :=
    fun h s hs => h s (mem_goUp hs)
  have hend : ∀ {before : List (List Char)}, (∀ s ∈ before, P s) → ∀ t, P t →
      ∀ s ∈ before.reverse ++ [t], P s := by
    intro before h t ht s hs
    rcases List.mem_append.mp hs with hs | hs
    · exact h s (List.mem_reverse.mp hs)
    · rwa [List.mem_singleton.mp hs]
  fun_induction resolve before segs with
  | case1 before => exact fun s hs => hbefore s (List.mem_reverse.mp hs)
  | case2 before s _ => exact hend (hup hbefore) [] hnil
  | case3 before s _ _ => exact hend hbefore [] hnil
  | case4 before s hdouble hdot =>
    exact hend hbefore s (hsegs s (List.mem_cons_self ..) (Bool.not_eq_true _ ▸ hdot)
      (Bool.not_eq_true _ ▸ hdouble))
  | case5 before s rest _ _ ih =>
    exact ih (hup hbefore) fun t ht => hsegs t (List.mem_cons_of_mem s ht)
  | case6 before s rest _ _ _ ih =>
    exact ih hbefore fun t ht => hsegs t (List.mem_cons_of_mem s ht)
  | case7 before s rest _ hdouble hdot ih =>
    refine ih ?_ fun t ht => hsegs t (List.mem_cons_of_mem s ht)
    exact List.forall_mem_cons.mpr
      ⟨hsegs s (List.mem_cons_self ..) (Bool.not_eq_true _ ▸ hdot)
      (Bool.not_eq_true _ ▸ hdouble), hbefore⟩

/-- Segments that stay in place are left as they are. -/
theorem resolve_of_forall {before segs : List (List Char)} (h : ∀ s ∈ segs, IsSegment s) :
    resolve before segs = before.reverse ++ segs := by
  fun_induction resolve before segs with
  | case1 before => simp
  | case2 before s hdouble =>
    rw [(h s (List.mem_cons_self ..)).notDoubleDot] at hdouble
    cases hdouble
  | case3 before s _ hdot =>
    rw [(h s (List.mem_cons_self ..)).notDot] at hdot
    cases hdot
  | case4 before s _ _ => rfl
  | case5 before s rest _ hdouble _ =>
    rw [(h s (List.mem_cons_self ..)).notDoubleDot] at hdouble
    cases hdouble
  | case6 before s rest _ _ hdot _ =>
    rw [(h s (List.mem_cons_self ..)).notDot] at hdot
    cases hdot
  | case7 before s rest _ _ _ ih =>
    rw [ih fun t ht => h t (List.mem_cons_of_mem s ht), List.reverse_cons,
      List.append_assoc]
    rfl

/-! ## Paths -/

/-- A path of segments that stay in place, each with a slash in front. -/
def IsPath (path : List Char) : Prop :=
  ∃ segs, segs ≠ [] ∧ (∀ s ∈ segs, IsSegment s) ∧ path = segs.flatMap ('/' :: ·)

/-- Segments with slashes in front are segments with slashes between them, behind a
slash. -/
theorem flatMap_slash {segs : List (List Char)} (h : segs ≠ []) :
    segs.flatMap ('/' :: ·) = '/' :: ['/'].intercalate segs := by
  induction segs with
  | nil => exact absurd rfl h
  | cons s segs ih =>
    cases segs with
    | nil => simp
    | cons t segs =>
      rw [List.flatMap_cons, ih (by simp), List.intercalate_cons_cons]
      simp

theorem IsPath.mem {path : List Char} (h : IsPath path) {c : Char} (hc : c ∈ path) :
    IsPathChar c := by
  obtain ⟨segs, -, hsegs, rfl⟩ := h
  obtain ⟨s, hs, hc⟩ := List.mem_flatMap.mp hc
  rcases List.mem_cons.mp hc with rfl | hc
  · decide
  · exact ((hsegs s hs).chars c hc).1

variable {n : Nat}

/-- Text between slashes holds no slashes of either kind. -/
theorem mem_of_mem_segments {cs s : List Char} (hs : s ∈ segments (.web n) cs) {c : Char}
    (hc : c ∈ s) : c ≠ '/' ∧ c ≠ '\\' := by
  obtain ⟨hmem, hslash⟩ := Text.mem_of_mem_cut hs hc
  refine ⟨hslash, ?_⟩
  rintro rfl
  obtain ⟨d, -, hd⟩ := List.mem_map.mp hmem
  split at hd
  next => cases hd
  next hno =>
    subst hd
    exact hno rfl

theorem isPath_resolvedPath (cs : List Char) : IsPath (resolvedPath (.web n) cs) := by
  refine ⟨resolve [] ((segments (.web n) cs).map (encodeChars isPathReserved)), ?_, ?_, rfl⟩
  · exact resolve_ne_nil (List.map_eq_nil_iff.not.mpr (Text.cut_ne_nil _))
  · refine forall_resolve isSegment_nil nofun ?_
    intro t ht hdot hdouble
    refine ⟨hdot, hdouble, ?_⟩
    obtain ⟨s, hs, rfl⟩ := List.mem_map.mp ht
    intro c hc
    obtain ⟨hchar, hc | hc⟩ := mem_encodeChars hc
    · exact ⟨hchar, mem_of_mem_segments hs hc⟩
    · exact ⟨hchar, hc⟩

/-- What reading gives for the text behind a host is a path. -/
theorem isPath_pathBehindHost (cs : List Char) : IsPath (pathBehindHost (.web n) cs) := by
  unfold pathBehindHost
  split
  next c rest =>
    split
    next => exact isPath_resolvedPath rest
    next => exact isPath_resolvedPath (c :: rest)
  next => exact ⟨[[]], by simp, by simpa using isSegment_nil, rfl⟩

theorem segments_intercalate {segs : List (List Char)} (hne : segs ≠ [])
    (h : ∀ s ∈ segs, IsSegment s) : segments (.web n) (['/'].intercalate segs) = segs := by
  have hslashes : ∀ c ∈ ['/'].intercalate segs,
    (if Family.isSlash (.web n) c then '/' else c) = c := by
    intro c hc
    rcases Text.mem_intercalate hc with rfl | ⟨s, hs, hc⟩
    · rfl
    · obtain ⟨-, hslash, hback⟩ := (h s hs).chars c hc
      simp [Family.isSlash, hslash, hback]
  unfold segments
  rw [List.map_congr_left hslashes, List.map_id', Text.cut_intercalate _ hne]
  exact fun s hs hmem => ((h s hs).chars _ hmem).2.1 rfl

/-- A path is read as it stands. -/
theorem IsPath.pathBehindHost {path : List Char} (h : IsPath path) :
    Url.pathBehindHost (.web n) path = path := by
  obtain ⟨segs, hne, hsegs, rfl⟩ := h
  rw [flatMap_slash hne]
  show resolvedPath (.web n) (['/'].intercalate segs) = _
  have hencoded : segs.map (encodeChars isPathReserved) = segs := by
    refine (List.map_congr_left fun s hs => ?_).trans (List.map_id segs)
    exact encodeChars_of_forall fun c hc => ((hsegs s hs).chars c hc).1
  unfold resolvedPath
  rw [segments_intercalate hne hsegs, hencoded, resolve_of_forall hsegs]
  exact flatMap_slash hne

end Possession.Web.Url
