import TypedRows.Proofs.Number.IntegerPart
import TypedRows.Proofs.Value.ClientInverse

/-!
# Instants with nanoseconds

An instant counts milliseconds since the epoch and has the nanoseconds of its second beside them,
so that the milliseconds of the second are told twice. Instants are made of milliseconds or of
decimal seconds and are moved by milliseconds; each of the three keeps the two counts in step. An
instant is then told by its nanoseconds since the epoch, on which a move is an addition.

## Main definitions

* `TypedRows.SqlTimestamp.IsConsistent` — both counts tell the same milliseconds of the second.
* `TypedRows.SqlTimestamp.sinceEpoch` — the nanoseconds since the epoch.
* `TypedRows.SqlTimestamp.Built` — the instants that are made and moved.
* `TypedRows.Decimal.nanoseconds` — the whole nanoseconds of a decimal number of seconds.

## Main results

* `TypedRows.SqlTimestamp.isConsistent_shifted` — what a move keeps.
* `TypedRows.SqlTimestamp.foldl_shifted` — moves add up.
* `TypedRows.SqlTimestamp.ofSeconds?_eq_some_iff` — the instants of decimal seconds.
* `TypedRows.SqlTimestamp.instants_stay_consistent`
-/

set_option autoImplicit false

namespace TypedRows

/-- The nanoseconds of a number of seconds, cut off towards zero. -/
def Decimal.nanoseconds (seconds : Decimal) : Int := integerPart (seconds.rational * 1000000000)

/-- The nanoseconds of decimal seconds are a product cut off at the point. -/
lemma Decimal.nanoseconds_eq_truncated (seconds : Decimal) :
    seconds.nanoseconds = (seconds.timesInt 1000000000).truncated := by
  rw [truncated_eq, rational_timesInt]
  rfl

namespace SqlTimestamp

variable {t : SqlTimestamp} {seconds : Decimal}

/-! ## Two counts of one instant -/

/-- The nanoseconds are those of a second, and their milliseconds are those that the instant is
past its second. -/
structure IsConsistent (t : SqlTimestamp) : Prop where
  nanos_lt : t.nanos < 1000000000
  nanos_div : ((t.nanos / 1000000 : Nat) : Int) = t.millis.toInt % 1000

/-- The nanoseconds from the epoch to an instant: its milliseconds and what lies below them. -/
def sinceEpoch (t : SqlTimestamp) : Int := t.millis.toInt * 1000000 + (t.nanos % 1000000 : Nat)

/-- **Consistent instants are told by their nanoseconds since the epoch.** -/
lemma IsConsistent.eq_of_sinceEpoch {s : SqlTimestamp} (hs : s.IsConsistent)
    (ht : t.IsConsistent) (h : s.sinceEpoch = t.sinceEpoch) : s = t := by
  obtain ⟨-, hs⟩ := hs
  obtain ⟨-, ht⟩ := ht
  cases s
  cases t
  simp only [sinceEpoch, mk.injEq] at *
  exact ⟨Int64.toInt_inj.1 (by omega), by omega⟩

/-- The nanoseconds that milliseconds account for, with some below a millisecond added. -/
lemma isConsistent_mk {millis : Int64} {below : Nat} (h : below < 1000000) :
    IsConsistent ⟨millis, nanosOfMillis millis.toInt + below⟩ := by
  constructor <;>
  · simp only [nanosOfMillis, Calendar.millisPerSecond]
    omega

/-- An instant of whole milliseconds is consistent. -/
lemma isConsistent_ofMillis (millis : Int64) : (ofMillis millis).IsConsistent := by
  have h := @isConsistent_mk millis 0 (by decide)
  rwa [Nat.add_zero] at h

/-- The nanoseconds since the epoch of whole milliseconds. -/
lemma sinceEpoch_ofMillis (millis : Int64) :
    (ofMillis millis).sinceEpoch = millis.toInt * 1000000 := by
  simp [sinceEpoch, ofMillis, nanosOfMillis]

/-! ## Moves -/

/-- **A move leaves the two counts in step**, whatever they were before. -/
lemma isConsistent_shifted (t : SqlTimestamp) (delta : Int) : (t.shifted delta).IsConsistent :=
  isConsistent_mk (Nat.mod_lt _ (by decide))

/-- What lies below a millisecond is kept. -/
@[simp] lemma nanos_shifted_mod (t : SqlTimestamp) (delta : Int) :
    (t.shifted delta).nanos % 1000000 = t.nanos % 1000000 := by
  simp [shifted, nanosOfMillis]

/-- **A move is an addition** as long as the milliseconds fit. -/
lemma sinceEpoch_shifted {delta : Int} (h : FitsLong (t.millis.toInt + delta)) :
    (t.shifted delta).sinceEpoch = t.sinceEpoch + delta * 1000000 := by
  have hmillis : (t.shifted delta).millis.toInt = t.millis.toInt + delta := h.toInt_ofInt
  rw [sinceEpoch, sinceEpoch, hmillis, nanos_shifted_mod]
  omega

/-- Two moves are one by their sum. -/
lemma shifted_shifted (t : SqlTimestamp) (a b : Int) :
    (t.shifted a).shifted b = t.shifted (a + b) := by
  have hmillis : Int64.ofInt ((Int64.ofInt (t.millis.toInt + a)).toInt + b)
      = Int64.ofInt (t.millis.toInt + (a + b)) := by
    rw [Int64.ofInt_add, Int64.ofInt_toInt, ← Int64.ofInt_add, Int.add_assoc]
  rw [shifted, nanos_shifted_mod]
  simp only [shifted, hmillis]

/-- An instant whose counts are in step stays where it is when it is moved by nothing. -/
lemma IsConsistent.shifted_zero (h : t.IsConsistent) : t.shifted 0 = t := by
  refine (isConsistent_shifted t 0).eq_of_sinceEpoch h ?_
  have hfits : FitsLong (t.millis.toInt + 0) := by
    rw [Int.add_zero]
    exact ⟨t.millis.le_toInt, t.millis.toInt_lt⟩
  rw [sinceEpoch_shifted hfits, Int.zero_mul, Int.add_zero]

/-- **Moves add up**: after any number of them the instant is moved by their sum. -/
lemma IsConsistent.foldl_shifted (h : t.IsConsistent) (deltas : List Int) :
    deltas.foldl shifted t = t.shifted deltas.sum := by
  induction deltas generalizing t with
  | nil => exact h.shifted_zero.symm
  | cons delta deltas ih =>
    rw [List.foldl_cons, ih (isConsistent_shifted t delta), shifted_shifted, List.sum_cons]

/-! ## Decimal seconds -/

/-- **The instants of decimal seconds**: the whole nanoseconds are split into milliseconds and the
nanoseconds of the second, when the whole seconds fit the milliseconds. -/
theorem ofSeconds?_eq_some_iff : ofSeconds? seconds = some t
    ↔ FitsLong (seconds.nanoseconds / 1000000000 * 1000)
      ∧ t = ⟨Int64.ofInt (seconds.nanoseconds / 1000000),
        (seconds.nanoseconds % 1000000000).toNat⟩ := by
  have hnanos (n : Int) : (seconds.timesInt 1000000000).toSigned? 128 = some n
      ↔ seconds.nanoseconds = n ∧ -(2 ^ 127) ≤ n ∧ n < 2 ^ 127 := by
    rw [Decimal.toSigned?_eq_some_iff, Decimal.rational_timesInt]
    rfl
  rw [ofSeconds?]
  cases htotal : (seconds.timesInt 1000000000).toSigned? 128 with
  | none =>
    -- seconds that fit the milliseconds do not leave the 128 bits of their nanoseconds
    simp only [false_iff, not_and, reduceCtorEq]
    intro hfits
    unfold FitsLong at hfits
    rw [(hnanos _).2 ⟨rfl, by omega, by omega⟩] at htotal
    cases htotal
  | some total =>
    obtain ⟨rfl, -⟩ := (hnanos total).1 htotal
    have hmillis : seconds.nanoseconds / 1000000000 * 1000
        + ((seconds.nanoseconds % 1000000000).toNat / 1000000 : Nat)
          = seconds.nanoseconds / 1000000 := by
      omega
    simp only [hmillis]
    unfold FitsLong
    split_ifs with hover
    · simp only [false_iff, not_and]
      omega
    · simp only [Option.some.injEq, eq_comm (b := t), iff_and_self]
      omega

/-- The instant of decimal seconds is that of their whole nanoseconds exactly when it has as many
milliseconds as 64 bits hold; else they wrap around. -/
lemma sinceEpoch_eq_nanoseconds_iff (h : ofSeconds? seconds = some t) :
    t.sinceEpoch = seconds.nanoseconds ↔ FitsLong (seconds.nanoseconds / 1000000) := by
  obtain ⟨-, rfl⟩ := ofSeconds?_eq_some_iff.1 h
  constructor
  · -- milliseconds that wrap around are those of another instant
    intro heq
    simp only [sinceEpoch] at heq
    have hmillis : (Int64.ofInt (seconds.nanoseconds / 1000000)).toInt
        = seconds.nanoseconds / 1000000 := by
      omega
    rw [← hmillis]
    exact ⟨Int64.le_toInt _, Int64.toInt_lt _⟩
  · intro hfits
    simp only [sinceEpoch]
    rw [hfits.toInt_ofInt]
    omega

/-- An instant of decimal seconds is consistent when its milliseconds fit 64 bits. -/
lemma isConsistent_of_ofSeconds? (h : ofSeconds? seconds = some t)
    (hfits : FitsLong (seconds.nanoseconds / 1000000)) : t.IsConsistent := by
  obtain ⟨-, rfl⟩ := ofSeconds?_eq_some_iff.1 h
  have hmillis := hfits.toInt_ofInt
  constructor
  · dsimp only
    omega
  · simp only [hmillis]
    omega

/-! ## All instants -/

/-- The instants that are made of milliseconds, or of decimal seconds whose milliseconds fit 64
bits, and are moved any number of times. -/
inductive Built : SqlTimestamp → Prop where
  | ofMillis (millis : Int64) : Built (ofMillis millis)
  | ofSeconds {seconds : Decimal} {t : SqlTimestamp} : ofSeconds? seconds = some t →
    FitsLong (seconds.nanoseconds / 1000000) → Built t
  | shifted {t : SqlTimestamp} (delta : Int) : Built t → Built (t.shifted delta)

/-- **The two counts of every instant are in step.** -/
lemma Built.isConsistent (h : Built t) : t.IsConsistent := by
  induction h with
  | ofMillis millis => exact isConsistent_ofMillis millis
  | ofSeconds h hfits => exact isConsistent_of_ofSeconds? h hfits
  | shifted delta => exact isConsistent_shifted _ delta

/-- **Instants stay consistent.** The nanoseconds of every instant that is made and moved are less
than a second and have the milliseconds that the instant is past its second. A move by nothing
leaves it as it is, two moves and any number of them are one by their sum, and what lies below a
millisecond never changes; a move adds to the nanoseconds since the epoch as long as the
milliseconds fit 64 bits. Milliseconds are those of the instant that is made of them. Decimal
seconds make an instant exactly when the milliseconds of the whole seconds fit, and it is that of
their nanoseconds, cut off towards zero, exactly when all of its milliseconds fit.

**Proof sketch.** A move counts the nanoseconds anew from the milliseconds, of which it keeps only
what lies below one. Consistent instants are told by their nanoseconds since the epoch, so that
moves are additions. Whole seconds are rounded down, which the nanoseconds make up for. -/
theorem instants_stay_consistent :
    (∀ t, Built t → t.IsConsistent
        ∧ t.shifted 0 = t
        ∧ (∀ a b, (t.shifted a).shifted b = t.shifted (a + b))
        ∧ (∀ deltas : List Int, deltas.foldl shifted t = t.shifted deltas.sum
          ∧ (deltas.foldl shifted t).nanos % 1000000 = t.nanos % 1000000)
        ∧ ∀ a, FitsLong (t.millis.toInt + a) →
          (t.shifted a).sinceEpoch = t.sinceEpoch + a * 1000000)
      ∧ (∀ millis, (ofMillis millis).sinceEpoch = millis.toInt * 1000000)
      ∧ ∀ seconds : Decimal,
        ((∃ t, ofSeconds? seconds = some t) ↔ FitsLong (seconds.nanoseconds / 1000000000 * 1000))
        ∧ ∀ t, ofSeconds? seconds = some t →
          (t.sinceEpoch = seconds.nanoseconds ↔ FitsLong (seconds.nanoseconds / 1000000)) := by
  refine ⟨fun t ht => ?_, sinceEpoch_ofMillis, fun seconds => ⟨?_, fun t h => ?_⟩⟩
  · have hconsistent := ht.isConsistent
    refine ⟨hconsistent, hconsistent.shifted_zero, t.shifted_shifted, fun deltas => ?_,
      fun a => sinceEpoch_shifted⟩
    rw [hconsistent.foldl_shifted deltas]
    exact ⟨rfl, t.nanos_shifted_mod _⟩
  · constructor
    · rintro ⟨t, h⟩
      exact (ofSeconds?_eq_some_iff.1 h).1
    · exact fun hfits => ⟨_, ofSeconds?_eq_some_iff.2 ⟨hfits, rfl⟩⟩
  · exact sinceEpoch_eq_nanoseconds_iff h

/-- Half a second and a bit before 1970, given with ten digits, and an hour before that. -/
theorem instants_stay_consistent_before_1970 :
    ofSeconds? ⟨-5000000019, 10⟩ = some ⟨-501, 499999999⟩
      ∧ Built ((⟨-501, 499999999⟩ : SqlTimestamp).shifted (-3600000))
      ∧ (⟨-501, 499999999⟩ : SqlTimestamp).sinceEpoch = Decimal.nanoseconds ⟨-5000000019, 10⟩
      ∧ Decimal.nanoseconds ⟨-5000000019, 10⟩ = -500000001
      ∧ ((⟨-501, 499999999⟩ : SqlTimestamp).shifted (-3600000)).IsConsistent
      ∧ ((⟨-501, 499999999⟩ : SqlTimestamp).shifted (-3600000)).shifted 3600000
        = ⟨-501, 499999999⟩
      ∧ FitsLong (-501 + -3600000)
      ∧ ((⟨-501, 499999999⟩ : SqlTimestamp).shifted (-3600000)).sinceEpoch
        = -500000001 + -3600000 * 1000000 := by
  have hseconds : ofSeconds? ⟨-5000000019, 10⟩ = some ⟨-501, 499999999⟩ := by decide +kernel
  have hnanos : Decimal.nanoseconds ⟨-5000000019, 10⟩ = -500000001 := by
    rw [Decimal.nanoseconds_eq_truncated]
    decide +kernel
  have hfits : FitsLong (Decimal.nanoseconds ⟨-5000000019, 10⟩ / 1000000) := by
    rw [hnanos]
    decide
  have hbuilt : Built ⟨-501, 499999999⟩ := .ofSeconds hseconds hfits
  obtain ⟨hall, -, hdecimal⟩ := instants_stay_consistent
  obtain ⟨-, hzero, htwice, -, hadd⟩ := hall _ hbuilt
  refine ⟨hseconds, hbuilt.shifted _, ((hdecimal _).2 _ hseconds).2 hfits, hnanos,
    (hall _ (hbuilt.shifted _)).1, (htwice _ _).trans hzero, by decide, ?_⟩
  rw [hadd _ (by decide)]
  rfl

end SqlTimestamp

end TypedRows
