import Possession.Proofs.Verifier.Agreement

/-!
# Which values are claims

The claims of a proof are read from a JSON value, which whoever makes the proof has chosen.

> `ofJson_eq_ok_iff`: a value is read as claims exactly if it is an object that names them
> (`Names`), or a list that gives them in the order of their declaration (`Lists`);
> `Jwt.claims_eq_ok_iff`: so an authentic proof has these claims exactly if its claim set
> does;
> `claims_by_name_iff`: only objects are read, and all other claim sets refused as
> malformed, exactly where no list gives claims.

That a list of four or five items is read is nothing that a claim set has to offer: it has
members. A list of four is stopped by the check of the registered claims, which comes
before, and a list of five is not.
-/

namespace Possession

namespace Proof.Claims

open Json (lookup)

/-! ## Objects -/

/-- The members of an object that are claims: three texts, an integer of 64 bits, and
perhaps a text. -/
structure NamedBy (c : Claims) (members : List (String × Json)) : Prop where
  jti : lookup "jti" members = some (.str c.jti)
  htm : lookup "htm" members = some (.str c.htm)
  htu : lookup "htu" members = some (.str c.htu)
  iat : lookup "iat" members = some (.int c.iat.toInt)
  /-- Without a fingerprint the member is absent or null. -/
  ath : lookup "ath" members = some (c.ath.elim .null .str) ∨
    c.ath = none ∧ lookup "ath" members = none

/-- A value is an object that names claims. -/
def Names (v : Json) (c : Claims) : Prop := ∃ members, v = .obj members ∧ c.NamedBy members

theorem ofMembers_eq_ok_iff {members : List (String × Json)} {c : Claims} :
    ofMembers members = .ok c ↔ c.NamedBy members := by
  unfold ofMembers
  constructor
  · intro h
    simp only [Result.bind_eq_ok, Json.require_eq_ok_iff] at h
    obtain ⟨ath, hath, _, hhtm, _, hhtu, _, hiat, _, hjti, jti, rfl, htm, rfl, htu, rfl,
      iat, rfl, hc⟩ := h
    cases hc
    rw [Json.field_text_eq_ok_iff] at hhtm hhtu hjti
    rw [Json.field_int64_eq_ok_iff] at hiat
    refine ⟨hjti, hhtm, hhtu, hiat, ?_⟩
    cases ath with
    | none => exact Or.inr ⟨rfl, Json.field_eq_ok_none_iff.mp hath⟩
    | some ath =>
      obtain ⟨v, hv, hread⟩ := Json.field_eq_ok_some_iff.mp hath
      rw [Json.decodeOption_text_eq_ok_iff] at hread
      subst hread
      exact Or.inl hv
  · intro h
    obtain ⟨hjti, hhtm, hhtu, hiat, hath⟩ := h
    rw [← Json.field_text_eq_ok_iff] at hjti hhtm hhtu
    rw [← Json.field_int64_eq_ok_iff] at hiat
    obtain ⟨ath, hread, hc⟩ :
      ∃ ath, Json.field "ath" (Json.decodeOption Json.decodeString) members =
        .ok ath ∧ ath.getD none = c.ath := by
      rcases hath with hv | ⟨hnone, hv⟩
      · exact ⟨some c.ath, Json.field_eq_ok_some_iff.mpr
          ⟨_, hv, Json.decodeOption_text_eq_ok_iff.mpr rfl⟩, rfl⟩
      · exact ⟨none, Json.field_eq_ok_none_iff.mpr hv, hnone.symm⟩
    simp only [hread, hhtm, hhtu, hiat, hjti, Result.ok_bind]
    show Except.ok (Claims.mk c.jti c.htm c.htu c.iat (ath.getD none)) = _
    rw [hc]

/-! ## Lists -/

/-- Claims in the order of their declaration, without the fingerprint. -/
def listed (c : Claims) : List Json :=
  [.str c.jti, .str c.htm, .str c.htu, .int c.iat.toInt]

/-- Claims in the order of their declaration. -/
def listedInFull (c : Claims) : List Json := c.listed ++ [c.ath.elim .null .str]

/-- A value is a list that gives claims by position. -/
def Lists (v : Json) (c : Claims) : Prop :=
  v = .arr c.listedInFull ∨ c.ath = none ∧ v = .arr c.listed

theorem item_eq_ok_iff {α : Type} {expected : String} {i : Nat}
    {decode : Json → Json.Decoded α} {items : List Json} {a : α} :
    Json.item expected i decode items = .ok a ↔
      ∃ v, items[i]? = some v ∧ decode v = .ok a := by
  unfold Json.item
  cases items[i]? <;> simp

theorem itemD_eq_ok_iff {α : Type} {i : Nat} {default : α} {decode : Json → Json.Decoded α}
    {items : List Json} {a : α} :
    Json.itemD i default decode items = .ok a ↔
      (∃ v, items[i]? = some v ∧ decode v = .ok a) ∨ items[i]? = none ∧ default = a := by
  unfold Json.itemD
  cases items[i]? <;> simp

/-- A list of claims by position: its items are looked up one by one, and there are no
others. -/
theorem ofItems_eq_ok_iff (expected : String) {items : List Json} {c : Claims} :
    ofItems expected items = .ok c ∧ items.length ≤ 5 ↔ Lists (.arr items) c := by
  unfold ofItems Lists listedInFull listed
  simp only [Result.bind_eq_ok, item_eq_ok_iff, itemD_eq_ok_iff,
    Json.decodeString_eq_ok_iff, Json.decodeInt64_eq_ok_iff,
    Json.decodeOption_text_eq_ok_iff, Json.arr.injEq]
  constructor
  · intro h
    obtain ⟨⟨jti, ⟨_, hjti, rfl⟩, htm, ⟨_, hhtm, rfl⟩, htu, ⟨_, hhtu, rfl⟩, iat,
      ⟨_, hiat, rfl⟩, ath, hath, hc⟩, hlen⟩ := h
    cases hc
    -- the first four items are there, and then there is one more or none
    rcases items with - | ⟨a, - | ⟨b, - | ⟨c, - | ⟨d, - | ⟨e, - | ⟨f, rest⟩⟩⟩⟩⟩⟩
    · cases hjti
    · cases hhtm
    · cases hhtu
    · cases hiat
    · cases hjti; cases hhtm; cases hhtu; cases hiat
      rcases hath with ⟨_, hath, -⟩ | ⟨-, rfl⟩
      · cases hath
      · exact Or.inr ⟨rfl, rfl⟩
    · cases hjti; cases hhtm; cases hhtu; cases hiat
      rcases hath with ⟨_, hath, rfl⟩ | ⟨hath, -⟩
      · cases hath
        exact Or.inl rfl
      · cases hath
    · simp only [List.length_cons] at hlen
      omega
  · intro h
    obtain ⟨jti, htm, htu, iat, ath⟩ := c
    rcases h with rfl | ⟨rfl, rfl⟩
    · refine ⟨⟨jti, ⟨_, rfl, rfl⟩, htm, ⟨_, rfl, rfl⟩, htu, ⟨_, rfl, rfl⟩, iat,
        ⟨_, rfl, rfl⟩, ath, Or.inl ⟨_, rfl, rfl⟩, rfl⟩, ?_⟩
      simp
    · refine ⟨⟨jti, ⟨_, rfl, rfl⟩, htm, ⟨_, rfl, rfl⟩, htu, ⟨_, rfl, rfl⟩, iat,
        ⟨_, rfl, rfl⟩, none, Or.inr ⟨rfl, rfl⟩, rfl⟩, ?_⟩
      simp

/-- A value is read as claims exactly if it is an object that names them or a list that
gives them. -/
theorem ofJson_eq_ok_iff {v : Json} {c : Claims} :
    ofJson v = .ok c ↔ Names v c ∨ Lists v c := by
  unfold ofJson Json.decodeRecord
  split
  next members =>
    rw [ofMembers_eq_ok_iff]
    simp [Names, Lists]
  next items =>
    rw [← ofItems_eq_ok_iff ("struct ProofClaims with " ++ Json.elements 5),
      Result.bind_eq_ok]
    have hnames : ¬ Names (.arr items) c := by
      simp [Names]
    by_cases hlen : items.length ≤ 5
    · simp [hlen, hnames]
    · simp [hlen, hnames]
  next v hobj harr =>
    refine iff_of_false nofun ?_
    rintro (⟨members, rfl, -⟩ | rfl | ⟨-, rfl⟩)
    · exact hobj _ rfl
    · exact harr _ rfl
    · exact harr _ rfl

end Proof.Claims

/-! ## Claim sets in order -/

namespace Json

/-- A value without items and members is the same in order. -/
theorem normalize_eq_iff_of_leaf {v w : Json} (harr : ∀ items, w ≠ .arr items)
    (hobj : ∀ members, w ≠ .obj members) : v.normalize = w ↔ v = w := by
  cases v with
  | arr items =>
    exact iff_of_false (fun h => harr _ h.symm) (fun h => harr _ h.symm)
  | obj members =>
    exact iff_of_false (fun h => hobj _ h.symm) (fun h => hobj _ h.symm)
  | _ => exact Iff.rfl

/-- A list of such values is the same in order. -/
theorem normalizeItems_eq_iff_of_leaves {items leaves : List Json}
    (h : ∀ w ∈ leaves, (∀ items, w ≠ .arr items) ∧ ∀ members, w ≠ .obj members) :
    normalizeItems items = leaves ↔ items = leaves := by
  induction leaves generalizing items with
  | nil => cases items <;> simp [normalizeItems]
  | cons w leaves ih =>
    obtain ⟨harr, hobj⟩ := h w List.mem_cons_self
    have hrest : ∀ items, normalizeItems items = leaves ↔ items = leaves :=
      fun items => ih fun v hv => h v (List.mem_cons_of_mem _ hv)
    cases items with
    | nil => simp [normalizeItems]
    | cons v items =>
      rw [normalizeItems, List.cons.injEq, List.cons.injEq, hrest,
        normalize_eq_iff_of_leaf harr hobj]

theorem normalize_eq_arr_iff {v : Json} {leaves : List Json}
    (h : ∀ w ∈ leaves, (∀ items, w ≠ .arr items) ∧ ∀ members, w ≠ .obj members) :
    v.normalize = .arr leaves ↔ v = .arr leaves := by
  cases v with
  | arr items =>
    rw [normalize, Json.arr.injEq, Json.arr.injEq, normalizeItems_eq_iff_of_leaves h]
  | obj members => exact iff_of_false nofun nofun
  | _ => exact Iff.rfl

end Json

namespace Proof.Claims

theorem normalize_eq_listedInFull_iff {v : Json} {c : Claims} :
    v.normalize = .arr c.listedInFull ↔ v = .arr c.listedInFull := by
  refine Json.normalize_eq_arr_iff ?_
  unfold listedInFull listed
  cases c.ath <;> simp

theorem normalize_eq_listed_iff {v : Json} {c : Claims} :
    v.normalize = .arr c.listed ↔ v = .arr c.listed := by
  refine Json.normalize_eq_arr_iff ?_
  unfold listed
  simp

end Proof.Claims

/-! ## Authentic tokens -/

namespace Jose.Jwt

open Proof (Claims)

variable {S : Scheme} {jwt : Jwt} {key : Proof.Key} {payload : String} {c : Claims}

/-- A token verifies under a key, and this is the text of its claim set. -/
def Authentic (S : Scheme) (jwt : Jwt) (key : Proof.Key) (payload : String) : Prop :=
  ∃ vk t, VerifyingKey.ofKey? key = some vk ∧ Compact.parse? jwt.raw = some t ∧
    authenticate S jwt.algorithm vk t = .ok () ∧ t.payload = payload

/-- Only an authentic token gives out claims. -/
theorem authentic_of_claims (h : jwt.claims S key = .ok c) :
    ∃ payload, jwt.Authentic S key payload := by
  unfold claims at h
  split at h
  next => cases h
  next v hset =>
    unfold claimSet at hset
    split at hset
    next => cases hset
    next vk hkey =>
      split at hset
      next => cases hset
      next t hparse =>
        split at hset
        next => cases hset
        next hauth => exact ⟨t.payload, vk, t, hkey, hparse, hauth, rfl⟩

/-- The registered claims come first: a list of just as many items will do for them. -/
theorem isClaimSet_listedInFull (c : Claims) : isClaimSet (.arr c.listedInFull) = true := by
  unfold Claims.listedInFull
  cases c.ath <;> rfl

theorem isClaimSet_listed (c : Claims) : isClaimSet (.arr c.listed) = false := rfl

theorem readClaimSet_eq_ok_iff {w : Json} : readClaimSet payload = .ok w ↔
    ∃ v, readPart payload = .ok v ∧ isClaimSet v ∧ v.normalize = w := by
  unfold readClaimSet
  cases readPart payload with
  | error e => exact iff_of_false nofun fun ⟨v, h, _⟩ => nomatch h
  | ok v =>
    dsimp only
    by_cases hset : isClaimSet v
    · simp [hset]
    · simp [hset]

theorem readClaimSet_eq_error {e : Error} (h : readClaimSet payload = .error e) :
    ∃ reason, e = .format reason := by
  unfold readClaimSet at h
  split at h
  · cases h
    exact ⟨_, rfl⟩
  · split at h
    · cases h
    · cases h
      exact ⟨_, rfl⟩

/-- The claims of an authentic token are what its claim set is read as. -/
theorem claims_of_authentic (h : jwt.Authentic S key payload) :
    jwt.claims S key =
      readClaimSet payload >>= fun v =>
        (Claims.ofJson v).mapError fun m =>
          .format ("Unexpected claim set: " ++ m.message) := by
  obtain ⟨vk, t, hkey, hparse, hauth, rfl⟩ := h
  unfold claims claimSet
  rw [hkey]
  dsimp only
  rw [hparse]
  dsimp only
  rw [hauth]
  dsimp only
  cases readClaimSet t.payload <;> rfl

/-- An authentic token has claims exactly if its claim set names them, in members that do
for the registered claims, or is the full list of them. -/
theorem claims_eq_ok_iff (h : jwt.Authentic S key payload) :
    jwt.claims S key = .ok c ↔
      (∃ v, readPart payload = .ok v ∧ isClaimSet v ∧ Claims.Names v.normalize c) ∨
        readPart payload = .ok (.arr c.listedInFull) := by
  simp only [claims_of_authentic h, Result.bind_eq_ok, Result.mapError_eq_ok,
    readClaimSet_eq_ok_iff, Claims.ofJson_eq_ok_iff]
  constructor
  · intro h
    obtain ⟨_, ⟨v, hread, hset, rfl⟩, hnames | hlist | ⟨-, hlist⟩⟩ := h
    · exact Or.inl ⟨v, hread, hset, hnames⟩
    · rw [Claims.normalize_eq_listedInFull_iff] at hlist
      exact Or.inr (hlist ▸ hread)
    · rw [Claims.normalize_eq_listed_iff] at hlist
      rw [hlist, isClaimSet_listed] at hset
      cases hset
  · intro h
    rcases h with ⟨v, hread, hset, hnames⟩ | hread
    · exact ⟨_, ⟨v, hread, hset, rfl⟩, Or.inl hnames⟩
    · exact ⟨_, ⟨_, hread, isClaimSet_listedInFull c, rfl⟩,
        Or.inr (Or.inl (Claims.normalize_eq_listedInFull_iff.mpr rfl))⟩

/-- An authentic token without claims is malformed. -/
theorem claims_eq_error {e : Error} (h : jwt.Authentic S key payload)
    (herror : jwt.claims S key = .error e) : ∃ reason, e = .format reason := by
  rw [claims_of_authentic h] at herror
  rcases Result.bind_eq_error.mp herror with hread | ⟨v, -, hdecode⟩
  · exact readClaimSet_eq_error hread
  · obtain ⟨m, -, rfl⟩ := Result.mapError_eq_error.mp hdecode
    exact ⟨_, rfl⟩

/-- **Which claim sets are read.** A value is read as claims exactly if it is an object that
names them, or a list of four or five items that gives them; so objects alone are read
exactly where no list gives claims. A token that verifies under a key is refused as
malformed, if its claim set is no object that names claims, exactly unless its claim set is
a list of five items that gives claims, and then it has these. -/
theorem claims_by_name_iff (h : jwt.Authentic S key payload) :
    (∀ v, (∀ c, Claims.ofJson v = .ok c ↔ Claims.Names v c ∨ Claims.Lists v c) ∧
      ((∀ c, Claims.ofJson v = .ok c ↔ Claims.Names v c) ↔ ¬ ∃ c, Claims.Lists v c)) ∧
    (((¬ ∃ v c, readPart payload = .ok v ∧ Claims.Names v.normalize c) →
        ∃ reason, jwt.claims S key = .error (.format reason)) ↔
      ¬ ∃ c : Claims, readPart payload = .ok (.arr c.listedInFull)) ∧
    ∀ c : Claims, readPart payload = .ok (.arr c.listedInFull) →
      jwt.claims S key = .ok c := by
  refine ⟨?_, ?_, fun c hread => (claims_eq_ok_iff h).mpr (Or.inr hread)⟩
  · intro v
    refine ⟨fun c => Claims.ofJson_eq_ok_iff, ?_⟩
    simp only [Claims.ofJson_eq_ok_iff]
    constructor
    · intro honly hlists
      obtain ⟨c, hlists⟩ := hlists
      -- a list has no members
      obtain ⟨members, rfl, -⟩ := (honly c).mp (Or.inr hlists)
      rcases hlists with h | ⟨-, h⟩ <;> cases h
    · intro hnone c
      exact or_iff_left fun hlists => hnone ⟨c, hlists⟩
  · constructor
    · intro hrefused hlist
      obtain ⟨c, hread⟩ := hlist
      have hnames : ¬ ∃ v c, readPart payload = .ok v ∧ Claims.Names v.normalize c := by
        rintro ⟨v, c', hread', members, hobj, -⟩
        obtain rfl := Except.ok.inj (hread.symm.trans hread')
        rw [Claims.normalize_eq_listedInFull_iff.mpr rfl] at hobj
        cases hobj
      obtain ⟨reason, herror⟩ := hrefused hnames
      rw [(claims_eq_ok_iff h).mpr (Or.inr hread)] at herror
      cases herror
    · intro hnone hnames
      cases hclaims : jwt.claims S key with
      | ok c =>
        rcases (claims_eq_ok_iff h).mp hclaims with ⟨v, hread, -, hv⟩ | hread
        · exact absurd ⟨v, c, hread, hv⟩ hnames
        · exact absurd ⟨c, hread⟩ hnone
      | error e =>
        obtain ⟨reason, rfl⟩ := claims_eq_error h hclaims
        exact ⟨reason, rfl⟩

/-! ## A sample -/

/-- Claims of a proof for `GET http://h/`. -/
def sampleClaims : Claims := ⟨"AAAAAAAAAAAAAAAAAAAAAA", "GET", "http://h/", 0, none⟩

/-- A claim set that lists them. -/
def sampleList : Json :=
  .arr [.str "AAAAAAAAAAAAAAAAAAAAAA", .str "GET", .str "http://h/", .int 0, .null]

/-- What is signed in a proof with this claim set. -/
def listMessage : Bytes :=
  Bytes.ofString (Compact.message
    ⟨writePart (Proof.baseSigner.header Proof.proofType), writePart sampleList, ""⟩)

/-- Its signature under the private number one. -/
def listSignature : Bytes :=
  Bytes.ofNat 32
    31575532686223205036426342520374036679741146352262136128574340376599374772205 ++
    Bytes.ofNat 32
      30644130149321060291848714474655638852688028221536623603883528752322768990456

theorem listSignature_verifies : Scheme.standard.verify .es256
    (.ec (4 :: Proof.baseSigner.x.bytes ++ Proof.baseSigner.y.bytes)) listMessage
      listSignature =
      true := by
  decide +kernel

/-- A proof with a list for a claim set. -/
def listProof : String :=
  Compact.render ⟨writePart (Proof.baseSigner.header Proof.proofType), writePart sampleList,
    Text.Base64Url.encode listSignature⟩

/-- What its header says. -/
def listJwt : Jwt := ⟨listProof, .es256, some Proof.proofType, some Proof.baseSigner.key⟩

theorem parse?_listProof : Compact.parse? listProof =
    some ⟨writePart (Proof.baseSigner.header Proof.proofType), writePart sampleList,
      Text.Base64Url.encode listSignature⟩ :=
  Compact.parse?_render (point_not_mem_writePart _) (Text.Base64Url.point_not_mem_encode _)

theorem parse_listProof : parse listProof = .ok listJwt :=
  parse_of_parts parse?_listProof (Proof.baseSigner.plain_header _)
    (Proof.baseSigner.ofJson_header _) List.mem_cons_self rfl

theorem authentic_listProof :
    listJwt.Authentic .standard Proof.baseSigner.key (writePart sampleList) := by
  exact ⟨_, _, Proof.baseSigner.ofKey?_key, parse?_listProof, authenticate_eq_ok_iff.mpr
    ⟨rfl, listSignature, Text.Base64Url.decode?_encode _, listSignature_verifies⟩, rfl⟩

theorem readPart_sampleList :
    readPart (writePart sampleList) = .ok (.arr sampleClaims.listedInFull) := by
  refine readPart_writePart ?_
  unfold sampleList Json.maxDepth
  simp [Json.Plain]

/-- The sample is authentic, and its list is read as the claims that it gives. -/
theorem listed_claims_are_read :
    parse listProof = .ok listJwt ∧
      listJwt.Authentic .standard Proof.baseSigner.key (writePart sampleList) ∧
      listJwt.claims .standard Proof.baseSigner.key = .ok sampleClaims :=
  ⟨parse_listProof, authentic_listProof,
    (claims_by_name_iff authentic_listProof).2.2 sampleClaims readPart_sampleList⟩

/-- A list is read as claims that no object names, and an authentic proof with this list for
a claim set is not refused. -/
theorem list_is_no_object :
    Claims.ofJson sampleList = .ok sampleClaims ∧ ¬ Claims.Names sampleList sampleClaims ∧
      parse listProof = .ok listJwt ∧
      listJwt.Authentic .standard Proof.baseSigner.key (writePart sampleList) ∧
      readPart (writePart sampleList) = .ok sampleList ∧
      ¬ ∃ reason, listJwt.claims .standard Proof.baseSigner.key =
        .error (.format reason) := by
  have hread := (claims_eq_ok_iff authentic_listProof).mpr (Or.inr readPart_sampleList)
  refine ⟨Claims.ofJson_eq_ok_iff.mpr (Or.inr (Or.inl rfl)), ?_, parse_listProof,
    authentic_listProof, readPart_sampleList, ?_⟩
  · rintro ⟨members, h, -⟩
    cases h
  · rintro ⟨reason, h⟩
    rw [hread] at h
    cases h

end Jose.Jwt

end Possession
