import Possession.Proofs.Json.Members
import Possession.Proofs.Json.RoundTrip
import Possession.Proofs.Text.Base64Url
import Possession.Proof.Key

/-!
# What a thumbprint is made of

A key comes as a JSON object, which may have any other members and may list them in any
order. The text under its thumbprint is to depend on the key alone:

> `canonical_text_names_key`: two objects that are read as keys have the same text exactly
> if they agree on the type of key and on each member required for it, and the text of an
> object is the object of just these members, ordered by name and without blanks.

An object is read as a key exactly if the members of the key stand in it as texts
(`ofJson_eq_ok_iff`), so keys are the same where the objects agree (`agree_iff`). That
different keys have different texts is `Key.octets_injective`: no value of a member, with
whatever quotes and backslashes, can pass for the end of the member, since the text is read
back as the object that it was written for.
-/

namespace Possession

/-! ## Values that are written -/

namespace Json

/-- Items with a comma between any two. -/
theorem commas_eq_intercalate (items : List (List Char)) :
    commas items = [','].intercalate items := by
  induction items with
  | nil => rfl
  | cons x items ih =>
    cases items with
    | nil => simp [commas]
    | cons y items =>
      rw [commas, ih]
      simp [List.intercalate]

/-- Values that are read back have different texts. -/
theorem render_injective {v w : Json} (hv : v.Plain maxDepth) (hw : w.Plain maxDepth)
    (h : v.render = w.render) : v = w := by
  have hread := parse?_render hv
  rw [h, parse?_render hw] at hread
  exact (Option.some.inj hread).symm

end Json

namespace Proof.Key

open Json (lookup field require)

/-! ## The members of a key -/

/-- The members that are required of a key of some type, besides the type itself. -/
def required : (kty : String) → List String
  | "EC" => ["crv", "x", "y"]
  | "RSA" => ["n", "e"]
  | "OKP" => ["crv", "x"]
  | _ => []

/-- The members of a key with their texts. -/
def members : Key → List (String × String)
  | ec crv x y => [("crv", crv), ("kty", "EC"), ("x", x), ("y", y)]
  | rsa n e => [("e", e), ("kty", "RSA"), ("n", n)]
  | okp crv x => [("crv", crv), ("kty", "OKP"), ("x", x)]

/-- Two objects agree on the type of a key and on each member required for it. -/
def Agree (a b : List (String × Json)) : Prop :=
  ∃ kty, lookup "kty" a = some (.str kty) ∧ lookup "kty" b = some (.str kty) ∧
    ∀ name ∈ required kty, lookup name a = lookup name b

theorem canonical_eq (k : Key) :
    k.canonical = .obj (k.members.map fun m => (m.1, .str m.2)) := by
  cases k <;> rfl

theorem kty_mem_members (k : Key) : ("kty", k.kty) ∈ k.members := by
  cases k <;> simp [members, kty]

/-- A key has the members that are required for its type, and its type. -/
theorem mem_names_iff (k : Key) (name : String) :
    name ∈ k.members.map Prod.fst ↔ name = "kty" ∨ name ∈ required k.kty := by
  cases k <;> simp [members, kty, required] <;> tauto

/-- The members of a key are in the order of their names. -/
theorem names_ascending (k : Key) : (k.members.map Prod.fst).Pairwise (· < ·) := by
  cases k with
  | ec => exact show ["crv", "kty", "x", "y"].Pairwise (· < ·) by decide
  | rsa => exact show ["e", "kty", "n"].Pairwise (· < ·) by decide
  | okp => exact show ["crv", "kty", "x"].Pairwise (· < ·) by decide

section Reading

variable {object : List (String × Json)} {k : Key}

/-- The members of a key that is read stand in the object as texts. -/
theorem lookup_of_ofMembers (h : ofMembers object = .ok k) :
    ∀ m ∈ k.members, lookup m.1 object = some (.str m.2) := by
  unfold ofMembers at h
  obtain ⟨v, hkty, h⟩ := Result.bind_eq_ok.mp h
  rw [Json.require_eq_ok_iff] at hkty
  split at h
  next =>
    simp only [Result.bind_eq_ok, Json.require_eq_ok_iff] at h
    obtain ⟨_, hcrv, _, hx, _, hy, crv, rfl, x, rfl, y, rfl, hk⟩ := h
    cases hk
    rw [Json.field_text_eq_ok_iff] at hcrv hx hy
    simp [members, hkty, hcrv, hx, hy]
  next =>
    simp only [Result.bind_eq_ok, Json.require_eq_ok_iff] at h
    obtain ⟨_, he, _, hn, n, rfl, e, rfl, hk⟩ := h
    cases hk
    rw [Json.field_text_eq_ok_iff] at he hn
    simp [members, hkty, he, hn]
  next =>
    simp only [Result.bind_eq_ok, Json.require_eq_ok_iff] at h
    obtain ⟨_, hcrv, _, hx, crv, rfl, x, rfl, hk⟩ := h
    cases hk
    rw [Json.field_text_eq_ok_iff] at hcrv hx
    simp [members, hkty, hcrv, hx]
  next => cases h
  next => cases h

/-- An object is read as a key exactly if the members of the key stand in it as texts. -/
theorem ofJson_eq_ok_iff :
    ofJson (.obj object) = .ok k ↔
      ∀ m ∈ k.members, lookup m.1 object = some (.str m.2) := by
  show ofMembers object = .ok k ↔ _
  constructor
  · exact lookup_of_ofMembers
  · intro h
    cases k with
    | ec crv x y =>
      have hcrv := Json.field_text_eq_ok_iff.mpr (h ("crv", crv) (by simp [members]))
      have hx := Json.field_text_eq_ok_iff.mpr (h ("x", x) (by simp [members]))
      have hy := Json.field_text_eq_ok_iff.mpr (h ("y", y) (by simp [members]))
      simp only [ofMembers, h ("kty", "EC") (by simp [members]), hcrv, hx, hy]
      rfl
    | rsa n e =>
      have he := Json.field_text_eq_ok_iff.mpr (h ("e", e) (by simp [members]))
      have hn := Json.field_text_eq_ok_iff.mpr (h ("n", n) (by simp [members]))
      simp only [ofMembers, h ("kty", "RSA") (by simp [members]), he, hn]
      rfl
    | okp crv x =>
      have hcrv := Json.field_text_eq_ok_iff.mpr (h ("crv", crv) (by simp [members]))
      have hx := Json.field_text_eq_ok_iff.mpr (h ("x", x) (by simp [members]))
      simp only [ofMembers, h ("kty", "OKP") (by simp [members]), hcrv, hx]
      rfl

/-- Objects that are read as keys agree exactly if they are read as the same key. -/
theorem agree_iff {a b : List (String × Json)} {l : Key} (ha : ofJson (.obj a) = .ok k)
    (hb : ofJson (.obj b) = .ok l) : Agree a b ↔ k = l := by
  have hlookA := ofJson_eq_ok_iff.mp ha
  have hlookB := ofJson_eq_ok_iff.mp hb
  constructor
  · intro h
    obtain ⟨kty, htypeA, htypeB, hsame⟩ := h
    have hkty : k.kty = kty := by simpa using (hlookA _ k.kty_mem_members).symm.trans htypeA
    -- the second object has all members of the first key, so this is the key that is read
    -- from it
    have hread : ofJson (.obj b) = .ok k := by
      rw [ofJson_eq_ok_iff]
      intro m hm
      rw [← hlookA m hm]
      rcases (k.mem_names_iff m.1).mp (List.mem_map_of_mem hm) with hname | hname
      · rw [hname, htypeA, htypeB]
      · rw [hkty] at hname
        exact (hsame m.1 hname).symm
    exact Except.ok.inj (hread.symm.trans hb)
  · intro h
    subst h
    refine ⟨k.kty, hlookA _ k.kty_mem_members, hlookB _ k.kty_mem_members, ?_⟩
    intro name hname
    obtain ⟨m, hm, rfl⟩ := List.mem_map.mp ((k.mem_names_iff name).mpr (Or.inr hname))
    rw [hlookA m hm, hlookB m hm]

end Reading

/-! ## The text of a key -/

/-- What the thumbprint of a key is a fingerprint of. -/
def octets (k : Key) : Bytes := Bytes.ofString k.canonical.render

theorem plain_canonical (k : Key) : k.canonical.Plain Json.maxDepth := by
  unfold canonical Json.maxDepth
  cases k <;> simp [Json.Plain]

theorem canonical_injective : Function.Injective canonical := by
  intro a b h
  cases a <;> cases b <;> simp_all [canonical]

/-- Different keys have different texts. -/
theorem octets_injective : Function.Injective octets := by
  intro a b h
  exact canonical_injective
    (Json.render_injective a.plain_canonical b.plain_canonical (Bytes.ofString_injective h))

/-- A thumbprint names a key as it is written, if the digest does not take two such texts
for one. -/
theorem thumbprint_eq_iff {a b : Key}
    (h : Digest.sha256 a.octets = Digest.sha256 b.octets → a.octets = b.octets) :
    a.thumbprint = b.thumbprint ↔ a = b := by
  constructor
  · intro hname
    exact octets_injective (h (Text.Base64Url.encode_injective hname))
  · intro hsame
    rw [hsame]

/-- A text lists the type of an object and the members that are required for this type: each
of them once, in the order of the names, with the text that the object has for it, and
without blanks between. It is read back as an object with these members and no others. -/
structure CanonicalText (object : List (String × Json)) (kty : String)
    (listed : List (String × String)) (text : String) : Prop where
  typed : lookup "kty" object = some (.str kty)
  names : ∀ name, name ∈ listed.map Prod.fst ↔ name = "kty" ∨ name ∈ required kty
  ascending : (listed.map Prod.fst).Pairwise (· < ·)
  texts : ∀ m ∈ listed, lookup m.1 object = some (.str m.2)
  shape : text = String.ofList ('\x7b' ::
    [','].intercalate (listed.map fun m => Json.quoted m.1 ++ ':' :: Json.quoted m.2) ++
      ['\x7d'])
  read : Json.parse? text = some (.obj (listed.map fun m => (m.1, .str m.2)))

theorem render_canonical (k : Key) : k.canonical.render = String.ofList ('\x7b' ::
    [','].intercalate (k.members.map fun m => Json.quoted m.1 ++ ':' :: Json.quoted m.2) ++
      ['\x7d']) := by
  unfold Json.render
  rw [canonical_eq, Json.write, Json.commas_eq_intercalate, Json.writeMembers_eq,
    List.map_map]
  rfl

theorem canonicalText_render {object : List (String × Json)} {k : Key}
    (h : ofJson (.obj object) = .ok k) :
    CanonicalText object k.kty k.members k.canonical.render where
  typed := ofJson_eq_ok_iff.mp h _ k.kty_mem_members
  names := k.mem_names_iff
  ascending := k.names_ascending
  texts := ofJson_eq_ok_iff.mp h
  shape := k.render_canonical
  read := by rw [Json.parse?_render k.plain_canonical, canonical_eq]

/-- **The thumbprint names the key.** For two JSON objects that are read as keys, with any
other members and in any order: their texts are the same exactly if the objects agree on the
type of key and on each member required for it. The text of an object lists these members
and nothing else, and the thumbprint is its fingerprint. So if SHA-256 does not take the one
text for the other, one thumbprint means one key. -/
theorem canonical_text_names_key {a b : List (String × Json)} {k l : Key}
    (ha : ofJson (.obj a) = .ok k) (hb : ofJson (.obj b) = .ok l) :
    (k.canonical.render = l.canonical.render ↔ Agree a b) ∧
    (∃ listed, CanonicalText a k.kty listed k.canonical.render) ∧
    k.thumbprint = Digest.fingerprint (Bytes.ofString k.canonical.render) ∧
    ((Digest.sha256 (Bytes.ofString k.canonical.render) =
        Digest.sha256 (Bytes.ofString l.canonical.render) →
          k.canonical.render = l.canonical.render) →
      (k.thumbprint = l.thumbprint ↔ Agree a b) ∧
        (k.thumbprint = l.thumbprint ↔ k = l)) := by
  have htext : k.canonical.render = l.canonical.render ↔ k = l := by
    rw [← Bytes.ofString_injective.eq_iff]
    exact octets_injective.eq_iff
  rw [agree_iff ha hb]
  refine ⟨htext, ⟨k.members, canonicalText_render ha⟩, rfl, ?_⟩
  intro hcollision
  have hname := thumbprint_eq_iff fun h => congrArg Bytes.ofString (hcollision h)
  exact ⟨hname, hname⟩

/-! ## A sample -/

/-- An object that says a key, and for what it is used. -/
def usedObject : List (String × Json) :=
  [("use", .str "sig"), ("kty", .str "EC"), ("crv", .str "P-256"), ("x", .str "1"),
    ("y", .str "2")]

/-- The same key in another order, with a name of its own. -/
def namedObject : List (String × Json) :=
  [("y", .str "2"), ("kid", .int 7), ("x", .str "1"), ("kty", .str "EC"),
    ("crv", .str "P-256")]

/-- A key with a member that looks like the end of another object. -/
def forgedObject : List (String × Json) :=
  [("kty", .str "EC"), ("crv", .str "P-256"), ("x", .str "1\",\"y\":\"2"), ("y", .str "")]

theorem same_text_for_same_key :
    ofJson (.obj usedObject) = .ok (.ec "P-256" "1" "2") ∧
      ofJson (.obj namedObject) = .ok (.ec "P-256" "1" "2") ∧ Agree usedObject namedObject ∧
      ofJson (.obj forgedObject) = .ok (.ec "P-256" "1\",\"y\":\"2" "") ∧
      (Key.ec "P-256" "1" "2").canonical.render ≠
        (Key.ec "P-256" "1\",\"y\":\"2" "").canonical.render := by
  have hused : ofJson (.obj usedObject) = .ok (.ec "P-256" "1" "2") := rfl
  have hnamed : ofJson (.obj namedObject) = .ok (.ec "P-256" "1" "2") := rfl
  have hforged : ofJson (.obj forgedObject) = .ok (.ec "P-256" "1\",\"y\":\"2" "") := rfl
  refine ⟨hused, hnamed, (canonical_text_names_key hused hnamed).1.mp rfl, hforged, ?_⟩
  intro htext
  obtain ⟨kty, htype, -, hsame⟩ := (canonical_text_names_key hused hforged).1.mp htext
  obtain rfl : "EC" = kty := by simpa [Json.lookup, usedObject] using htype
  have hx := hsame "x" (by decide)
  simp [Json.lookup, usedObject, forgedObject] at hx

end Proof.Key

end Possession
