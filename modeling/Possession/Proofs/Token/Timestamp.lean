import Possession.Proofs.Bytes
import Possession.Proofs.Result
import Possession.Token.Payload

/-!
# Payloads in order of time

A time-ordered payload begins with a clock reading in milliseconds, so that payloads sort in
the order in which they were drawn. There are six octets for the reading, and what does not
fit in them is cut off:

> `toNat_timeOrdered`: a payload, read as a number, has the reading modulo 2^48 above 80
> random bits;
> `payloads_sort_iff`: payloads drawn at two readings sort like these exactly if the
> readings do so modulo 2^48, and only readings before the epoch are refused.

Below 2^48 milliseconds both is as one expects of a payload that sorts by time. The first
reading that does not fit is not refused, though its payload sorts before all earlier ones
(`later_payload_sorts_first`).
-/

namespace Possession.Token

/-! ## The octets of a payload -/

namespace Payload

/-- The marks of a version are behind the first six octets. -/
theorem take_stamp (version : UInt8) (p : Payload) :
    (stamp version p).bytes.take 6 = p.bytes.take 6 := by
  show ((p.bytes.set 6 _).set 8 _).take 6 = _
  rw [List.take_set_of_le (by decide), List.take_set_of_le (by decide)]

variable (millis : Nat) (random : Octets 10)

theorem take_timeOrdered :
    (timeOrdered millis random).bytes.take 6 = Bytes.ofNat 6 millis := by
  unfold timeOrdered
  rw [take_stamp]
  exact List.take_left' (Octets.ofNat 6 millis).length_eq

/-- A payload as a number: what fits of the time, above 80 bits that are drawn or fixed. -/
theorem toNat_timeOrdered : ∃ rest < 2 ^ 80,
    Bytes.toNat (timeOrdered millis random).bytes = millis % 2 ^ 48 * 2 ^ 80 + rest := by
  have hlen : ((timeOrdered millis random).bytes.drop 6).length = 10 := by
    rw [List.length_drop, (timeOrdered millis random).length_eq]
  refine ⟨Bytes.toNat ((timeOrdered millis random).bytes.drop 6), ?_, ?_⟩
  · have hrest := Bytes.toNat_lt ((timeOrdered millis random).bytes.drop 6)
    rwa [hlen, show 256 ^ 10 = 2 ^ 80 from rfl] at hrest
  · rw [← List.take_append_drop 6 (timeOrdered millis random).bytes, Bytes.toNat_append,
      List.take_append_drop, hlen, take_timeOrdered, Bytes.toNat_ofNat]
    rfl

/-- Payloads are sorted by their octets as by their numbers. -/
theorem lt_iff_toNat_lt (p q : Payload) :
    p.bytes < q.bytes ↔ Bytes.toNat p.bytes < Bytes.toNat q.bytes :=
  Bytes.lt_iff_toNat_lt (p.length_eq.trans q.length_eq.symm)

variable {millis random} {m n : Nat}

/-- Times in order modulo 2^48 give payloads in order, whatever is drawn for them. -/
theorem timeOrdered_lt (h : m % 2 ^ 48 < n % 2 ^ 48) (r s : Octets 10) :
    (timeOrdered m r).bytes < (timeOrdered n s).bytes := by
  obtain ⟨below, hbelow, hm⟩ := toNat_timeOrdered m r
  obtain ⟨above, -, hn⟩ := toNat_timeOrdered n s
  rw [lt_iff_toNat_lt, hm, hn]
  omega

/-- Times that are the same modulo 2^48 give the same payload, if the same is drawn for
them. -/
theorem timeOrdered_congr (h : m % 2 ^ 48 = n % 2 ^ 48) (r : Octets 10) :
    timeOrdered m r = timeOrdered n r := by
  have htime : Octets.ofNat 6 m = Octets.ofNat 6 n := by
    apply Octets.eq_of_toNat_eq
    show Bytes.toNat (Bytes.ofNat 6 m) = Bytes.toNat (Bytes.ofNat 6 n)
    rw [Bytes.toNat_ofNat, Bytes.toNat_ofNat]
    exact h
  unfold timeOrdered
  rw [htime]

/-- All payloads for one time sort before all payloads for another exactly if the times are
in order modulo 2^48. -/
theorem forall_timeOrdered_lt_iff :
    (∀ r s, (timeOrdered m r).bytes < (timeOrdered n s).bytes) ↔
      m % 2 ^ 48 < n % 2 ^ 48 := by
  constructor
  · intro h
    have hzeros := h (.fit 10 []) (.fit 10 [])
    rcases Nat.lt_trichotomy (m % 2 ^ 48) (n % 2 ^ 48) with hlt | heq | hgt
    · exact hlt
    · rw [timeOrdered_congr heq] at hzeros
      exact absurd hzeros (List.lt_irrefl _)
    · exact absurd hzeros (List.lt_asymm (timeOrdered_lt hgt _ _))
  · exact timeOrdered_lt

end Payload

/-! ## What a source draws -/

open PayloadSource (timeOrdered)

/-- A payload that a time-ordered source draws while its clock reads a time in
milliseconds. -/
def DrawnAt (millis : Int64) (p : Payload) : Prop :=
  ∃ clock entropy stream, clock.nowMillis = .ok millis ∧
    ((timeOrdered stream).next clock entropy).result = .ok p

/-- Every time-ordered source whose clock reads this time refuses to draw for it. -/
def RefusedAt (millis : Int64) : Prop :=
  ∀ clock entropy stream, clock.nowMillis = .ok millis →
    ∃ reason, ((timeOrdered stream).next clock entropy).result = .error (.source reason)

/-- Payloads that are drawn at one time sort before those that are drawn at another. -/
def SortedAt (m n : Int64) : Prop := ∀ p q, DrawnAt m p → DrawnAt n q → p.bytes < q.bytes

section Draws

variable {clock : Clock} {t m n : Int64}

theorem timestamp_eq (h : clock.nowMillis = .ok t) : PayloadSource.timestamp clock =
    if t.toInt < 0 then
      .error (.source ("Timestamp " ++ toString t.toInt ++ "ms out of range for UUIDv7"))
    else .ok t.toInt.toNat := by
  unfold PayloadSource.timestamp
  rw [h]

theorem next_eq_error (h : clock.nowMillis = .ok t) (hneg : t.toInt < 0) (entropy : Entropy)
    (stream : Stream) :
    ∃ reason, ((timeOrdered stream).next clock entropy).result =
      .error (.source reason) := by
  unfold PayloadSource.next
  rw [timestamp_eq h, if_pos hneg]
  exact ⟨_, rfl⟩

/-- At a time that is not before the epoch, a source draws ten octets and puts the time in
front. -/
theorem next_eq_map (h : clock.nowMillis = .ok t) (hpos : 0 ≤ t.toInt) (entropy : Entropy)
    (stream : Stream) :
    ((timeOrdered stream).next clock entropy).result =
      (PayloadSource.drawFrom 10 timeOrdered entropy stream).result.map
        (Payload.timeOrdered t.toInt.toNat) := by
  unfold PayloadSource.next
  rw [timestamp_eq h, if_neg (by omega)]

/-- A script of the ten octets that are to be drawn. -/
theorem next_script (h : clock.nowMillis = .ok t) (hpos : 0 ≤ t.toInt) (entropy : Entropy)
    (random : Octets 10) :
    ((timeOrdered (.own (.script random.bytes))).next clock entropy).result =
      .ok (Payload.timeOrdered t.toInt.toNat random) := by
  rw [next_eq_map h hpos]
  unfold PayloadSource.drawFrom Entropy.draw
  dsimp only
  rw [random.length_eq, if_neg (Nat.lt_irrefl 10), Octets.fit_bytes]
  rfl

/-- What can be drawn at a time: the time, with any ten octets behind it. -/
theorem drawnAt_iff {p : Payload} :
    DrawnAt t p ↔ 0 ≤ t.toInt ∧ ∃ random, Payload.timeOrdered t.toInt.toNat random = p := by
  constructor
  · intro h
    obtain ⟨clock, entropy, stream, hclock, hdrawn⟩ := h
    by_cases hneg : t.toInt < 0
    · obtain ⟨reason, hrefused⟩ := next_eq_error hclock hneg entropy stream
      rw [hrefused] at hdrawn
      cases hdrawn
    · have hpos : 0 ≤ t.toInt := by omega
      rw [next_eq_map hclock hpos] at hdrawn
      obtain ⟨random, -, hp⟩ := Result.map_eq_ok.mp hdrawn
      exact ⟨hpos, random, hp⟩
  · intro h
    obtain ⟨hpos, random, rfl⟩ := h
    exact ⟨.millis t, .exhausted, _, rfl, next_script rfl hpos .exhausted random⟩

/-- A time is refused if it is before the epoch, and for no other reason. -/
theorem refusedAt_iff : RefusedAt t ↔ t.toInt < 0 := by
  constructor
  · intro h
    by_contra hpos
    obtain ⟨reason, hrefused⟩ :=
      h (.millis t) .exhausted (.own (.script (Octets.fit 10 []).bytes)) rfl
    rw [next_script rfl (by omega)] at hrefused
    cases hrefused
  · intro hneg clock entropy stream hclock
    exact next_eq_error hclock hneg entropy stream

theorem sortedAt_iff : SortedAt m n ↔
    m.toInt < 0 ∨ n.toInt < 0 ∨ m.toInt.toNat % 2 ^ 48 < n.toInt.toNat % 2 ^ 48 := by
  rw [← Payload.forall_timeOrdered_lt_iff]
  unfold SortedAt
  simp only [drawnAt_iff]
  constructor
  · intro h
    by_cases hm : m.toInt < 0
    · exact Or.inl hm
    by_cases hn : n.toInt < 0
    · exact Or.inr (Or.inl hn)
    · exact Or.inr (Or.inr fun r s => h _ _ ⟨by omega, r, rfl⟩ ⟨by omega, s, rfl⟩)
  · intro h p q hp hq
    obtain ⟨hm, r, rfl⟩ := hp
    obtain ⟨hn, s, rfl⟩ := hq
    rcases h with hneg | hneg | hsorted
    · omega
    · omega
    · exact hsorted r s

end Draws

/-- **Payloads sort by time** as long as the time fits. For two clock readings, the payloads
drawn at the earlier one sort before those drawn at the later one, and just the readings are
refused that are before the epoch or have no 48 bits, exactly if the later one has 48 bits.
The order alone is right exactly if the readings are in order modulo 2^48, or the earlier
one is refused. -/
theorem payloads_sort_iff {m n : Int64} (h : m < n) :
    (SortedAt m n ∧ (∀ t ∈ [m, n], RefusedAt t ↔ t.toInt < 0 ∨ 2 ^ 48 ≤ t.toInt) ↔
      n.toInt < 2 ^ 48) ∧
    (SortedAt m n ↔ m.toInt < 0 ∨ m.toInt % 2 ^ 48 < n.toInt % 2 ^ 48) := by
  rw [Int64.lt_iff_toInt_lt] at h
  have horder : SortedAt m n ↔ m.toInt < 0 ∨ m.toInt % 2 ^ 48 < n.toInt % 2 ^ 48 := by
    rw [sortedAt_iff]
    omega
  refine ⟨?_, horder⟩
  rw [horder]
  simp only [refusedAt_iff, List.forall_mem_cons, List.not_mem_nil, false_imp_iff,
    implies_true, and_true]
  omega

/-- The last two milliseconds that fit sort as they should, and the last one and the first
that does not fit sort the other way. -/
theorem last_milliseconds_sort :
    (281474976710654 : Int64) < 281474976710655 ∧
    (281474976710655 : Int64) < 281474976710656 ∧
      SortedAt 281474976710654 281474976710655 ∧
      ¬ SortedAt 281474976710655 281474976710656 := by
  have hlast : (281474976710654 : Int64) < 281474976710655 := by decide
  have hnext : (281474976710655 : Int64) < 281474976710656 := by decide
  refine ⟨hlast, hnext, ((payloads_sort_iff hlast).1.mpr (by decide)).1, ?_⟩
  rw [(payloads_sort_iff hnext).2]
  decide

/-- A time-ordered source that draws zeros, once. -/
def zeroSource : PayloadSource := timeOrdered (.own (.script (Octets.fit 10 []).bytes))

/-- A clock of whole seconds moves on by one second, over the end of what 48 bits can hold.
The later payload is not refused, and it sorts before the earlier one. -/
theorem later_payload_sorts_first :
    ∃ p q : Payload,
      (Clock.seconds 281474976710).nowMillis = .ok 281474976710000 ∧
      ((Clock.seconds 281474976710).advance 1).nowMillis = .ok 281474976711000 ∧
      (zeroSource.next (.seconds 281474976710) .exhausted).result = .ok p ∧
      (zeroSource.next ((Clock.seconds 281474976710).advance 1) .exhausted).result = .ok q ∧
      q.bytes < p.bytes :=
  ⟨_, _, rfl, rfl, rfl, rfl, by decide⟩

end Possession.Token
