import Possession.Proofs.Token.Opening

/-!
# What tokens are drawn from

A mint draws sixteen octets for a payload and twelve for a nonce. Here both come from one
script, and the mint is called any number of times, with labels that it may use and others:

> `getElem?_made`: the tokens that are made are those for the first labels that may be used,
> and each of them is made of the next 28 octets of the script;
> `randomness_is_used_once`: so no octet of the script has a part in two tokens, and a call
> fails for want of octets exactly if fewer than 28 are left before it.

One call can go wrong between its two draws: with 16 to 27 octets left it uses up sixteen of
them and makes nothing. What carries the induction is that fewer than 28 are left after that
too (`generate_script`), so that no later call makes a token of what is behind the octets
that were lost.
-/

namespace Possession.Token

/-! ## Random payloads -/

namespace Payload

/-- The bits of an octet of a payload that carry no mark. -/
def freeBits (i : Nat) : UInt8 := if i = 6 then 0x0f else if i = 8 then 0x3f else 0xff

/-- A payload is what was drawn, marked as a random UUID. -/
structure MarkedFrom (p drawn : Payload) : Prop where
  kept : ∀ i, p.get i &&& freeBits i = drawn.get i &&& freeBits i
  version : p.get 6 &&& 0xf0 = 0x40
  variant : p.get 8 &&& 0xc0 = 0x80

theorem get_set_self (p : Payload) {i : Nat} (h : i < 16) (b : UInt8) :
    (p.set i b).get i = b := by
  show (p.bytes.set i b).getD i 0 = b
  rw [List.getD_eq_getElem?_getD, List.getElem?_set_self (by rw [p.length_eq]; exact h),
    Option.getD_some]

theorem get_set_ne (p : Payload) {i j : Nat} (h : i ≠ j) (b : UInt8) :
    (p.set i b).get j = p.get j := by
  show (p.bytes.set i b).getD j 0 = p.bytes.getD j 0
  rw [List.getD_eq_getElem?_getD, List.getD_eq_getElem?_getD, List.getElem?_set_ne h]

/-- The bits of a mark and those of an octet that is freed for it are looked at one by
one. -/
theorem and_mark (x free mark mask : UInt8) :
    ((x &&& free) ||| mark) &&& mask = (x &&& (free &&& mask)) ||| (mark &&& mask) := by
  rw [← UInt8.and_assoc, ← UInt8.toNat_inj]
  simp only [UInt8.toNat_and, UInt8.toNat_or, Nat.and_or_distrib_right]

theorem markedFrom_random (drawn : Payload) : (random drawn).MarkedFrom drawn := by
  have hversion : (random drawn).get 6 = (drawn.get 6 &&& 0x0f) ||| 0x40 := by
    show ((drawn.set 6 _).set 8 _).get 6 = _
    rw [get_set_ne _ (by decide), get_set_self _ (by decide)]
    rfl
  have hvariant : (random drawn).get 8 = (drawn.get 8 &&& 0x3f) ||| 0x80 := by
    show ((drawn.set 6 _).set 8 _).get 8 = _
    rw [get_set_self _ (by decide)]
  refine ⟨fun i => ?_, ?_, ?_⟩
  · by_cases h6 : i = 6
    · subst h6
      show _ &&& 0x0f = _ &&& 0x0f
      rw [hversion, and_mark]
      exact UInt8.or_zero
    by_cases h8 : i = 8
    · subst h8
      show _ &&& 0x3f = _ &&& 0x3f
      rw [hvariant, and_mark]
      exact UInt8.or_zero
    · show ((drawn.set 6 _).set 8 _).get i &&& _ = _
      rw [get_set_ne _ (Ne.symm h8), get_set_ne _ (Ne.symm h6)]
  · rw [hversion, and_mark, show (0x0f &&& 0xf0 : UInt8) = 0 from rfl, UInt8.and_zero]
    rfl
  · rw [hvariant, and_mark, show (0x3f &&& 0xc0 : UInt8) = 0 from rfl, UInt8.and_zero]
    rfl

end Payload

/-! ## Runs of a mint -/

/-- A call for a token, with the clock that it finds. -/
structure Call where
  clock : Clock
  label : Option String

/-- A call that has taken place. -/
structure Minting where
  call : Call
  before : Mint
  answer : Result String
  after : Mint

/-- The label and the text of the token that a call has made. -/
def Minting.token? (o : Minting) : Option (Option String × String) :=
  o.answer.toOption.map fun text => (o.call.label, text)

/-- The calls on a mint, one after the other. -/
def Mint.log (M : MacScheme) : Mint → List Call → List Minting
  | _, [] => []
  | m, c :: calls =>
    let next := m.generate M c.clock c.label
    ⟨c, m, next.1, next.2⟩ :: next.2.log M calls

/-- The tokens that are made in these calls, with their labels. -/
def Mint.made (M : MacScheme) (m : Mint) (calls : List Call) :
    List (Option String × String) :=
  (m.log M calls).filterMap Minting.token?

/-- A mint whose nonces and random payloads come from one script. -/
def Mint.onScript (secret : Secret) (left : Bytes) : Mint :=
  ⟨secret, .script left, .random .shared⟩

/-- The token that is made of 28 octets. -/
def MacScheme.tokenOf (M : MacScheme) (secret : Secret) (label : Option String)
    (slice : Bytes) : String :=
  (M.sealToken secret (.fit 12 (slice.drop 16)) label (.random (.fit 16 slice))).render

/-! ## One call -/

section Call

variable (M : MacScheme) (secret : Secret) {left : Bytes} {label : Option String}

theorem nextPayload_script (clock : Clock) (h : 16 ≤ left.length) :
    (Mint.onScript secret left).nextPayload clock =
      (.ok (.random (.fit 16 left)), .onScript secret (left.drop 16)) := by
  unfold Mint.nextPayload Mint.onScript PayloadSource.next PayloadSource.drawFrom
  simp only [Entropy.draw_script_of_le h]
  rfl

theorem nextPayload_script_of_lt (clock : Clock) (h : left.length < 16) :
    (Mint.onScript secret left).nextPayload clock =
      (.error (Entropy.shortage 16 left.length), .onScript secret left) := by
  unfold Mint.nextPayload Mint.onScript PayloadSource.next PayloadSource.drawFrom
  simp only [Entropy.draw_script_of_lt h]
  rfl

/-- A label that may not be used is refused before anything is drawn. -/
theorem generate_of_not_labelOk (h : ¬ LabelOk label) (m : Mint) (clock : Clock) :
    ∃ reason, m.generate M clock label = (.error (.argument reason), m) := by
  rw [← filter_isLabel_eq_none_iff] at h
  obtain ⟨l, hl⟩ := Option.ne_none_iff_exists'.mp h
  unfold Mint.generate
  rw [hl]
  exact ⟨_, rfl⟩

/-- With 28 octets left a token is made of them. -/
theorem generate_script (hlabel : LabelOk label) (clock : Clock) (h : 28 ≤ left.length) :
    (Mint.onScript secret left).generate M clock label =
      (.ok (M.tokenOf secret label (left.take 28)), .onScript secret (left.drop 28)) := by
  have hnonce : 12 ≤ (left.drop 16).length := by
    rw [List.length_drop]
    omega
  unfold Mint.generate
  rw [filter_isLabel_eq_none_iff.mpr hlabel]
  dsimp only
  rw [nextPayload_script secret clock (by omega)]
  dsimp only [Mint.onScript]
  rw [Entropy.draw_script_of_le hnonce, List.drop_drop]
  unfold MacScheme.tokenOf
  rw [Octets.fit_take (by decide), List.drop_take, Octets.fit_take (by decide)]

/-- With fewer than 28 octets left none is made, and fewer than 28 are left after that. -/
theorem generate_script_of_lt (hlabel : LabelOk label) (clock : Clock)
    (h : left.length < 28) :
    ∃ reason rest, (Mint.onScript secret left).generate M clock label =
      (.error (.entropy reason), .onScript secret rest) ∧ rest <:+ left := by
  unfold Mint.generate
  rw [filter_isLabel_eq_none_iff.mpr hlabel]
  dsimp only
  rcases Nat.lt_or_ge left.length 16 with hnone | hpayload
  · rw [nextPayload_script_of_lt secret clock hnone]
    exact ⟨_, left, rfl, List.suffix_refl left⟩
  · -- the payload is drawn and lost
    have hnonce : (left.drop 16).length < 12 := by
      rw [List.length_drop]
      omega
    rw [nextPayload_script secret clock hpayload]
    dsimp only [Mint.onScript]
    rw [Entropy.draw_script_of_lt hnonce]
    exact ⟨_, left.drop 16, rfl, List.drop_suffix 16 left⟩

/-- A call leaves a rest of the script behind. -/
theorem generate_script_suffix (left : Bytes) (clock : Clock) (label : Option String) :
    ∃ rest, ((Mint.onScript secret left).generate M clock label).2 = .onScript secret rest ∧
      rest <:+ left := by
  by_cases hlabel : LabelOk label
  · rcases Nat.lt_or_ge left.length 28 with hshort | hlong
    · obtain ⟨_, rest, hcall, hrest⟩ := generate_script_of_lt M secret hlabel clock hshort
      exact ⟨rest, by rw [hcall], hrest⟩
    · exact ⟨left.drop 28, by
        rw [generate_script M secret hlabel clock hlong], List.drop_suffix 28 left⟩
  · obtain ⟨_, hcall⟩ := generate_of_not_labelOk M hlabel (.onScript secret left) clock
    exact ⟨left, by rw [hcall], List.suffix_refl left⟩

end Call

/-! ## All calls -/

section Calls

variable {M : MacScheme} {secret : Secret} {left : Bytes} {c : Call} {calls : List Call}

/-- Each call finds a rest of the script. -/
theorem before_of_mem_log {o : Minting} (h : o ∈ (Mint.onScript secret left).log M calls) :
    (∃ rest, o.before = .onScript secret rest ∧ rest <:+ left) ∧
      o.before.generate M o.call.clock o.call.label = (o.answer, o.after) := by
  induction calls generalizing left with
  | nil => cases h
  | cons c calls ih =>
    rw [Mint.log, List.mem_cons] at h
    rcases h with rfl | h
    · exact ⟨⟨left, rfl, List.suffix_refl left⟩, rfl⟩
    · obtain ⟨rest, hafter, hrest⟩ := generate_script_suffix M secret left c.clock c.label
      rw [hafter] at h
      obtain ⟨⟨rest', hbefore, hrest'⟩, hcall⟩ := ih h
      exact ⟨⟨rest', hbefore, hrest'.trans hrest⟩, hcall⟩

theorem made_of_ok {m m' : Mint} {text : String}
    (h : m.generate M c.clock c.label = (.ok text, m')) :
    m.made M (c :: calls) = (c.label, text) :: m'.made M calls := by
  unfold Mint.made
  rw [Mint.log, h]
  rfl

theorem made_of_error {m m' : Mint} {e : Error}
    (h : m.generate M c.clock c.label = (.error e, m')) :
    m.made M (c :: calls) = m'.made M calls := by
  unfold Mint.made
  rw [Mint.log, h]
  rfl

/-- The tokens are those for the first labels that may be used, each of the next 28
octets. -/
theorem getElem?_made (i : Nat) :
    ((Mint.onScript secret left).made M calls)[i]? =
      if 28 * (i + 1) ≤ left.length then
        (calls.filter fun c => LabelOk c.label)[i]?.map fun c =>
          (c.label, M.tokenOf secret c.label ((left.drop (28 * i)).take 28))
      else none := by
  induction calls generalizing left i with
  | nil => simp [Mint.made, Mint.log]
  | cons c calls ih =>
    by_cases hlabel : LabelOk c.label
    · rw [List.filter_cons_of_pos (by simpa using hlabel)]
      rcases Nat.lt_or_ge left.length 28 with hshort | hlong
      · obtain ⟨_, rest, hcall, hrest⟩ :=
          generate_script_of_lt M secret hlabel c.clock hshort
        have hlen := hrest.length_le
        rw [made_of_error hcall, ih, if_neg (by omega), if_neg (by omega)]
      · rw [made_of_ok (generate_script M secret hlabel c.clock hlong)]
        cases i with
        | zero => simp [hlong]
        | succ i =>
          -- one slice less is left, and one token less to count
          have hcount : 28 * (i + 1) ≤ (left.drop 28).length ↔
            28 * (i + 1 + 1) ≤ left.length := by
            rw [List.length_drop]
            omega
          have hslice : 28 + 28 * i = 28 * (i + 1) := by omega
          simp only [List.getElem?_cons_succ, ih, hcount, List.drop_drop, hslice]
    · obtain ⟨_, hcall⟩ := generate_of_not_labelOk M hlabel (.onScript secret left) c.clock
      rw [made_of_error hcall, ih, List.filter_cons_of_neg (by simpa using hlabel)]

end Calls

/-! ## Octets and the tokens that they have a part in -/

section Parts

variable (M : MacScheme) (secret : Secret) (script : Bytes) (calls : List Call)

/-- An octet of the script has a part in the token that is made `i`-th: another octet in its
place would make another token. -/
def HasPart (j i : Nat) : Prop :=
  ∃ b : UInt8, ((Mint.onScript secret (script.set j b)).made M calls)[i]? ≠
    ((Mint.onScript secret script).made M calls)[i]?

/-- What is promised of the tokens that are drawn from a script. -/
structure UsedOnce : Prop where
  /-- The tokens in their order are made of consecutive slices, each of sixteen octets for
  the payload and twelve for the nonce. -/
  slices : ∀ i label text, ((Mint.onScript secret script).made M calls)[i]? =
    some (label, text) →
    ∃ (drawn payload : Payload) (nonce : Octets 12),
      (script.drop (28 * i)).take 28 = drawn.bytes ++ nonce.bytes ∧
      payload.MarkedFrom drawn ∧
        M.openToken secret text = .ok ⟨label, payload⟩ ∧ nonceOf text = .ok nonce
  /-- A call with a label that may not be used is refused and uses nothing up. -/
  refused : ∀ o ∈ (Mint.onScript secret script).log M calls, ¬ LabelOk o.call.label →
    (∃ reason, o.answer = .error (.argument reason)) ∧ o.after = o.before
  /-- Another call makes a token if 28 octets are left before it, and fails for want of them
  otherwise. -/
  served : ∀ o ∈ (Mint.onScript secret script).log M calls, LabelOk o.call.label →
    ∃ left, o.before = .onScript secret left ∧ left <:+ script ∧
      ((∃ text, o.answer = .ok text) ↔ 28 ≤ left.length) ∧
      ((∃ reason, o.answer = .error (.entropy reason)) ↔ left.length < 28)
  /-- No octet has a part in two tokens. -/
  apart : ∀ j i i', HasPart M secret script calls j i →
    HasPart M secret script calls j i' → i = i'

variable {M secret script calls}

/-- Twenty-eight octets are a payload's and a nonce's. -/
theorem slice_eq_append {slice : Bytes} (h : slice.length = 28) :
    slice = (Octets.fit 16 slice).bytes ++ (Octets.fit 12 (slice.drop 16)).bytes := by
  obtain ⟨a, b, hab⟩ := Octets.exists_eq_append (m := 16) (n := 12) ⟨slice, h⟩
  obtain rfl : slice = (a.append b).bytes := congrArg Octets.bytes hab
  rw [Octets.fit_append, Octets.drop_append, Octets.fit_bytes]
  rfl

/-- An octet has a part at most in the token that is made of the slice in which it is. -/
theorem slice_of_hasPart {j i : Nat} (h : HasPart M secret script calls j i) :
    28 * i ≤ j ∧ j < 28 * (i + 1) := by
  obtain ⟨b, hne⟩ := h
  by_contra hout
  refine hne ?_
  have hslice :
    ((script.set j b).drop (28 * i)).take 28 = (script.drop (28 * i)).take 28 := by
    rw [List.drop_set]
    split
    · rfl
    · rw [List.take_set_of_le (by omega)]
  rw [getElem?_made, getElem?_made, hslice, List.length_set]

end Parts

/-- **Randomness is used once.** For every script, and every run of calls with any labels on
a mint whose nonces and random payloads come from it: the tokens are made of consecutive
slices of the script, in the order of the calls; a call with a label that may not be used
leaves the script alone; every other call fails, for want of octets, exactly if fewer than
28 are left; and no octet has a part in two tokens. -/
theorem randomness_is_used_once (M : MacScheme) (secret : Secret) (script : Bytes)
    (calls : List Call) : UsedOnce M secret script calls := by
  refine ⟨?_, ?_, ?_, ?_⟩
  · intro i label text hmade
    rw [getElem?_made] at hmade
    split at hmade
    next hlong =>
      obtain ⟨c, hc, htoken⟩ := Option.map_eq_some_iff.mp hmade
      cases htoken
      have hlabel : LabelOk c.label := by
        have hmem := List.mem_filter.mp (List.mem_of_getElem? hc)
        exact of_decide_eq_true hmem.2
      have hlen : ((script.drop (28 * i)).take 28).length = 28 := by
        rw [List.length_take, List.length_drop]
        omega
      generalize (script.drop (28 * i)).take 28 = slice at hlen
      refine ⟨.fit 16 slice, .random (.fit 16 slice), .fit 12 (slice.drop 16),
        slice_eq_append hlen, Payload.markedFrom_random _, ?_⟩
      exact (opens_iff_spells (o := ⟨c.label, _⟩)).mpr ⟨hlabel, Or.inl rfl⟩
    next => cases hmade
  · intro o ho hlabel
    obtain ⟨-, hcall⟩ := before_of_mem_log ho
    obtain ⟨reason, hrefused⟩ := generate_of_not_labelOk M hlabel o.before o.call.clock
    obtain ⟨hanswer, hafter⟩ := Prod.mk.inj (hrefused.symm.trans hcall)
    exact ⟨⟨reason, hanswer.symm⟩, hafter.symm⟩
  · intro o ho hlabel
    obtain ⟨⟨left, hbefore, hleft⟩, hcall⟩ := before_of_mem_log ho
    refine ⟨left, hbefore, hleft, ?_⟩
    rw [hbefore] at hcall
    rcases Nat.lt_or_ge left.length 28 with hshort | hlong
    · obtain ⟨reason, rest, hfails, -⟩ :=
        generate_script_of_lt M secret hlabel o.call.clock hshort
      rw [← (Prod.mk.inj (hfails.symm.trans hcall)).1]
      exact ⟨iff_of_false nofun (by omega), iff_of_true ⟨reason, rfl⟩ hshort⟩
    · rw [generate_script M secret hlabel o.call.clock hlong] at hcall
      rw [← (Prod.mk.inj hcall).1]
      exact ⟨iff_of_true ⟨_, rfl⟩ hlong, iff_of_false nofun (by omega)⟩
  · intro j i i' h h'
    have hslice := slice_of_hasPart h
    have hslice' := slice_of_hasPart h'
    omega

end Possession.Token
