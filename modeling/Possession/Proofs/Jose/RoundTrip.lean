import Possession.Jose.Signer
import Possession.Proofs.Json.Members
import Possession.Proofs.Json.RoundTrip
import Possession.Proofs.Text.Base64Url
import Possession.Proofs.Text.Cut
import Possession.Text.Blank

/-!
# Signed tokens, read back

What a signer writes, a reader of proofs reads as it was written:

> `parse_serialize`: the header of a token gives the type and the public key that it was
> written with;
> `claims_serialize`: under the signer's key a token of claims gives these claims.

This is said of any type and any claims. A token goes through four layers, and each of them
is read back by itself: the cut at the points (`Compact.parse?_render`), base64url and UTF-8
(`readPart_writePart`, with the theorems it uses), the JSON text, and the records in the
JSON values. Of the signature only `Signer.Verified` is assumed: what the signer signs
verifies under its public key.
-/

namespace Possession

namespace Proof.Claims

/-- The JSON object of claims is of the kind that is read back. -/
theorem plain_toJson (c : Claims) : c.toJson.Plain Json.maxDepth := by
  have hlow := c.iat.le_toInt
  have hhigh := c.iat.toInt_lt
  unfold toJson Json.maxDepth
  cases c.ath with
  | none =>
    simp [Json.Plain]
    omega
  | some ath =>
    simp [Json.Plain]
    omega

/-- The members of claims in the order of their names. -/
theorem normalize_toJson (c : Claims) : c.toJson.normalize = .obj
    ((match c.ath with
      | some a => [("ath", .str a)]
      | none => []) ++
      [("htm", .str c.htm), ("htu", .str c.htu), ("iat", .int c.iat.toInt),
        ("jti", .str c.jti)]) := by
  unfold toJson
  cases c.ath <;> rfl

/-- Claims are read back from their JSON object, with its members in order. -/
theorem ofJson_normalize (c : Claims) : ofJson c.toJson.normalize = .ok c := by
  rw [normalize_toJson]
  obtain ⟨jti, htm, htu, iat, ath⟩ := c
  unfold ofJson Json.decodeRecord ofMembers
  dsimp only
  cases ath with
  | none =>
    rw [Json.field_int64_eq_ok_iff (n := iat).mpr rfl]
    rfl
  | some ath =>
    rw [Json.field_int64_eq_ok_iff (n := iat).mpr rfl]
    rfl

end Proof.Claims

namespace Jose

namespace Compact

open Text.CodePoints (cutLast)

theorem toList_message (t : Compact) :
    t.message.toList = t.header.toList ++ '.' :: t.payload.toList := by
  unfold message
  simp

theorem toList_render (t : Compact) :
    t.render.toList = t.message.toList ++ '.' :: t.signature.toList := by
  unfold render
  simp

/-- The parts of a text are those that it is made of, the last two without points. -/
theorem parse?_eq_some_iff {text : String} {t : Compact} : parse? text = some t ↔
    text = t.render ∧ '.' ∉ t.payload.toList ∧ '.' ∉ t.signature.toList := by
  unfold parse?
  constructor
  · intro h
    obtain ⟨⟨message, signature⟩, hlast, h⟩ := Option.bind_eq_some_iff.mp h
    obtain ⟨⟨header, payload⟩, hfirst, h⟩ := Option.bind_eq_some_iff.mp h
    cases h
    obtain ⟨htext, hsignature⟩ := Text.cutLast_eq_some_iff.mp hlast
    obtain ⟨hmessage, hpayload⟩ := Text.cutLast_eq_some_iff.mp hfirst
    refine ⟨String.toList_inj.mp ?_, ?_, ?_⟩
    · rw [toList_render, toList_message, String.toList_ofList, String.toList_ofList,
        String.toList_ofList, htext, hmessage]
    · rwa [String.toList_ofList]
    · rwa [String.toList_ofList]
  · intro h
    obtain ⟨rfl, hpayload, hsignature⟩ := h
    rw [toList_render, Text.cutLast_append hsignature]
    show (cutLast '.' t.message.toList).bind _ = _
    rw [toList_message, Text.cutLast_append hpayload]
    show some (Compact.mk _ _ _) = some t
    rw [String.ofList_toList, String.ofList_toList, String.ofList_toList]

/-- The parts of a token are those that it was made of. -/
theorem parse?_render {t : Compact} (hpayload : '.' ∉ t.payload.toList)
    (hsignature : '.' ∉ t.signature.toList) : parse? t.render = some t :=
  parse?_eq_some_iff.mpr ⟨rfl, hpayload, hsignature⟩

/-- A token is not blank: it has a point. -/
theorem isBlank_render (t : Compact) : Text.isBlank t.render = false := by
  have hpoint : '.' ∈ t.render.toList := by
    simp [render]
  exact List.all_eq_false.mpr ⟨'.', hpoint, by decide⟩

end Compact

/-- A part is read back as the value that was written in it. -/
theorem readPart_writePart {v : Json} (h : v.Plain Json.maxDepth) :
    readPart (writePart v) = .ok v := by
  unfold readPart writePart
  rw [Text.Base64Url.decode?_encode]
  dsimp only
  rw [Bytes.toString?_ofString, Option.bind_some, Json.parse?_render h]

/-- No part that is written contains a point. -/
theorem point_not_mem_writePart (v : Json) : '.' ∉ (writePart v).toList :=
  Text.Base64Url.point_not_mem_encode _

namespace Signer

/-- What a signer signs verifies under its public key. -/
def Verified (s : Signer) (S : Scheme) : Prop :=
  ∀ message signature, s.sign message = some signature →
    S.verify .es256 (.ec (4 :: s.x.bytes ++ s.y.bytes)) message signature = true

variable {s : Signer}

/-- A token that is written has a header and a payload, and a signature of both. -/
theorem serialize_eq_ok_iff {typ : String} {v : Json} {text : String} :
    s.serialize typ v = .ok text ↔ ∃ signature,
      s.sign (Bytes.ofString
        (Compact.message ⟨writePart (s.header typ), writePart v, ""⟩)) = some signature ∧
      text = Compact.render ⟨writePart (s.header typ), writePart v,
        Text.Base64Url.encode signature⟩ := by
  unfold serialize
  dsimp only
  cases s.sign
    (Bytes.ofString (Compact.message ⟨writePart (s.header typ), writePart v, ""⟩)) with
  | none => simp
  | some signature => simp [eq_comm]

/-- The parts of a token that is written are the written parts. -/
theorem parse?_of_serialize {typ : String} {v : Json} {text : String}
    (h : s.serialize typ v = .ok text) : ∃ signature,
      s.sign (Bytes.ofString
        (Compact.message ⟨writePart (s.header typ), writePart v, ""⟩)) = some signature ∧
      Compact.parse? text =
        some ⟨writePart (s.header typ), writePart v, Text.Base64Url.encode signature⟩ := by
  obtain ⟨signature, hsign, rfl⟩ := serialize_eq_ok_iff.mp h
  exact ⟨signature, hsign,
    Compact.parse?_render (point_not_mem_writePart v)
      (Text.Base64Url.point_not_mem_encode signature)⟩

/-- A token that is written is not blank. -/
theorem isBlank_of_serialize {typ : String} {v : Json} {text : String}
    (h : s.serialize typ v = .ok text) : Text.isBlank text = false := by
  obtain ⟨signature, -, rfl⟩ := serialize_eq_ok_iff.mp h
  exact Compact.isBlank_render _

theorem plain_header (s : Signer) (typ : String) : (s.header typ).Plain Json.maxDepth := by
  unfold header headerKey Json.maxDepth
  simp [Json.Plain]

/-- The header of a token is read back: its type, its algorithm and the signer's key. -/
theorem ofJson_header (s : Signer) (typ : String) :
    Header.ofJson (s.header typ) = .ok ⟨some typ, .es256, some (.ec "P-256"
      (Text.Base64Url.encode s.x.bytes) (Text.Base64Url.encode s.y.bytes))⟩ := rfl

/-- The signer's key is read back ready for use. -/
theorem ofKey?_key (s : Signer) :
    VerifyingKey.ofKey? s.key = some (.ec (4 :: s.x.bytes ++ s.y.bytes)) := by
  unfold VerifyingKey.ofKey? key
  simp only [Text.Base64Url.decode?_encode]
  rfl

end Signer

namespace Jwt

variable {s : Signer} {typ text : String}

theorem isClaimSet_toJson (c : Proof.Claims) : isClaimSet c.toJson = true := by
  unfold Proof.Claims.toJson
  cases c.ath <;> rfl

/-- The header of a text is read off the first of its three parts. -/
theorem readHeader_eq_ok_iff {h : Header} : readHeader text = .ok h ↔
    ∃ t v, Compact.parse? text = some t ∧ readPart t.header = .ok v ∧
      Header.ofJson v = .ok h := by
  unfold readHeader
  cases Compact.parse? text with
  | none => simp
  | some t =>
    cases hpart : readPart t.header with
    | error e => simp [hpart]
    | ok v => cases hheader : Header.ofJson v <;> simp [hpart, hheader]

/-- A key that is given out is the public key of a header. -/
theorem readKey_eq_ok_some_iff {jwk : Option EmbeddedKey} {key : Proof.Key} :
    readKey jwk = .ok (some key) ↔ ∃ k, jwk = some k ∧ k.publicKey = .ok key := by
  unfold readKey
  cases jwk with
  | none => simp
  | some k => cases hpublic : k.publicKey <;> simp [hpublic]

/-- A text is read as a token exactly if its header names an algorithm that a proof may use
and carries no symmetric key. -/
theorem parse_eq_ok_iff {jwt : Jwt} : parse text = .ok jwt ↔
    ∃ h key, readHeader text = .ok h ∧ h.alg ∈ Algorithm.allowed ∧
      readKey h.jwk = .ok key ∧ jwt = ⟨text, h.alg, h.typ, key⟩ := by
  unfold parse
  cases hheader : readHeader text with
  | error e => simp
  | ok h =>
    by_cases halg : h.alg ∈ Algorithm.allowed
    · dsimp only
      rw [if_pos halg, Result.map_eq_ok]
      simp [halg, eq_comm]
    · simp [halg]

/-- A text whose first part is a header gives what the header says, if it names an algorithm
that a proof may use and carries no symmetric key. -/
theorem parse_of_parts {header : Json} {payload signature : String} {h : Header}
    {key : Option Proof.Key}
    (hparts : Compact.parse? text = some ⟨writePart header, payload, signature⟩)
    (hplain : header.Plain Json.maxDepth) (hheader : Header.ofJson header = .ok h)
    (halg : h.alg ∈ Algorithm.allowed) (hkey : readKey h.jwk = .ok key) :
    parse text = .ok ⟨text, h.alg, h.typ, key⟩ := by
  have hread : readHeader text = .ok h :=
    readHeader_eq_ok_iff.mpr ⟨_, header, hparts, readPart_writePart hplain, hheader⟩
  exact parse_eq_ok_iff.mpr ⟨h, key, hread, halg, hkey, rfl⟩

/-- A token is authentic under a key of the family of its algorithm, with which its last
part verifies as a signature of the others. -/
theorem authenticate_eq_ok_iff {S : Scheme} {a : Algorithm} {vk : VerifyingKey}
    {t : Compact} : authenticate S a vk t = .ok () ↔ vk.suits a = true ∧ ∃ signature,
      Text.Base64Url.decode? t.signature = some signature ∧
      S.verify a vk (Bytes.ofString t.message) signature = true := by
  unfold authenticate
  cases vk.suits a with
  | false => simp
  | true =>
    cases Text.Base64Url.decode? t.signature with
    | none => simp
    | some signature =>
      cases S.verify a vk (Bytes.ofString t.message) signature <;> simp

/-- A text whose second part is a claim set gives the claims under a key with which its
signature verifies. -/
theorem claims_of_parts {S : Scheme} {jwt : Jwt} {header : String} {c : Proof.Claims}
    {signature : Bytes} {key : Proof.Key} {vk : VerifyingKey}
    (hparts : Compact.parse? jwt.raw =
      some ⟨header, writePart c.toJson, Text.Base64Url.encode signature⟩)
    (hkey : VerifyingKey.ofKey? key = some vk) (hsuits : vk.suits jwt.algorithm = true)
    (hverify : S.verify jwt.algorithm vk
      (Bytes.ofString (Compact.message ⟨header, writePart c.toJson, ""⟩)) signature =
        true) :
    claims S jwt key = .ok c := by
  have hauth : authenticate S jwt.algorithm vk
      ⟨header, writePart c.toJson, Text.Base64Url.encode signature⟩ = .ok () :=
    authenticate_eq_ok_iff.mpr ⟨hsuits, signature, Text.Base64Url.decode?_encode signature,
      hverify⟩
  have hread : readClaimSet (writePart c.toJson) = .ok c.toJson.normalize := by
    unfold readClaimSet
    rw [readPart_writePart c.plain_toJson]
    exact if_pos (isClaimSet_toJson c)
  -- the reader's steps in order: the key, the parts, the signature, the claim set, the
  -- claims
  unfold claims claimSet
  rw [hkey]
  dsimp only
  rw [hparts]
  dsimp only
  rw [hauth]
  dsimp only
  rw [hread]
  dsimp only
  rw [c.ofJson_normalize]
  rfl

/-- **The header of a token.** It gives the type and the public key that it was written
with. -/
theorem parse_serialize {v : Json} (h : s.serialize typ v = .ok text) :
    parse text = .ok ⟨text, .es256, some typ, some s.key⟩ := by
  obtain ⟨signature, -, hparts⟩ := Signer.parse?_of_serialize h
  exact parse_of_parts hparts (s.plain_header typ) (s.ofJson_header typ)
    (List.mem_cons_self ..) rfl

/-- **The claims of a token.** Under the signer's key it gives the claims that it was
written with. -/
theorem claims_serialize {S : Scheme} (hs : s.Verified S) {c : Proof.Claims}
    (h : s.serialize typ c.toJson = .ok text) :
    claims S ⟨text, .es256, some typ, some s.key⟩ s.key = .ok c := by
  obtain ⟨signature, hsign, hparts⟩ := Signer.parse?_of_serialize h
  exact claims_of_parts hparts s.ofKey?_key rfl (hs _ _ hsign)

/-- What a signer writes is an authentic proof of the claims, under the signer's key. -/
theorem parser_serialize {S : Scheme} (hs : s.Verified S) {c : Proof.Claims}
    (h : s.serialize typ c.toJson = .ok text) :
    ∃ envelope, parser S text = .ok envelope ∧ envelope.typ = some typ ∧
      envelope.key = some s.key ∧ envelope.claims s.key = .ok c := by
  refine ⟨envelope S ⟨text, .es256, some typ, some s.key⟩, ?_, rfl, rfl,
    claims_serialize hs h⟩
  unfold parser
  rw [parse_serialize h]
  rfl

end Jwt

end Jose

end Possession
