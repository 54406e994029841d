import Mathlib.Data.List.Chain
import Mathlib.Order.Bounds.Basic
import TypedRows.Proofs.Calendar.CivilOrder

/-!
# Wall-clock times that exist

A timestamp is taken to an instant by the offset of its wall-clock time, and back by the offset
of the instant. The two look-ups search the same changes in two ways, so that they could
disagree near a change. They agree wherever the wall clocks of the zone show the time at all: the
instant is then the first one at which they show it.

## Main definitions

* `TypedRows.Calendar.OffsetTable.IsRegular` — what is asked of a table of offset changes.
* `TypedRows.Calendar.Zone.table?` — the offset changes of a zone that has them.

## Main results

* `TypedRows.Calendar.OffsetTable.isRegular_of_mem_all` — the tables here are regular.
* `TypedRows.Calendar.isLeast_instantOfWall` — a wall-clock time that is shown is taken to the
  first instant at which it is.
* `TypedRows.Calendar.timestampOfInstant_of_wall` — where wall clocks show the time of a timestamp
  the timestamp is read.
* `TypedRows.Calendar.existing_wall_times_survive`
-/

set_option autoImplicit false

namespace TypedRows.Calendar

open YearMonthDay

namespace OffsetTable

/-! ## Regular tables -/

/-- A table of changes one after another, of offsets shorter than a day, the first change two days
into the known instants at the earliest. -/
structure IsRegular (t : OffsetTable) : Prop where
  ascending : (t.changes.map Prod.fst).IsChain (· < ·)
  short : ∀ offset ∈ t.first :: t.changes.map Prod.snd, -86400 < offset ∧ offset < 86400
  known : ∀ start ∈ t.changes.map Prod.fst, Zone.firstKnown + 2 * millisPerDay ≤ start * 1000

instance (t : OffsetTable) : Decidable t.IsRegular :=
  decidable_of_iff (_ ∧ _ ∧ _) ⟨fun ⟨h₁, h₂, h₃⟩ => ⟨h₁, h₂, h₃⟩, fun ⟨h₁, h₂, h₃⟩ => ⟨h₁, h₂, h₃⟩⟩

/-- The tables of all named zones are regular. -/
theorem isRegular_of_mem_all : ∀ z ∈ NamedZone.all, z.table.IsRegular := by
  decide +kernel

/-! ## Look-ups in seconds -/

/-- The offset at an instant is one of the table. -/
lemma offsetAfter_mem (instant current : Int) (changes : List (Int × Int)) :
    offsetAfter instant current changes ∈ current :: changes.map Prod.snd := by
  induction changes generalizing current with
  | nil => simp [offsetAfter]
  | cons change changes ih =>
    rw [offsetAfter]
    split
    · exact List.mem_cons_self
    · exact List.mem_cons_of_mem _ (ih change.2)

/-- A start that may be missing is not after an instant. -/
lemma all_le_iff {start? : Option Int} {instant : Int} :
    start?.all (· ≤ instant) = true ↔ ∀ start ∈ start?, start ≤ instant := by
  cases start? <;> simp

/-- **The look-up by wall-clock time finds the first instant that shows it.** When some instant
shows the time, the look-up gives an offset, the instant it takes the time back to has this
offset, and it is the instant given or lies before one of the changes up to it.

**Proof sketch.** Induction on the changes. If the offset in force takes the time back to an instant
before the next change, the look-up stops there; any other instant that shows the time has this
change behind it. If it does not, the instant that shows the time has the change behind it
too, and both look-ups go on from there. -/
lemma exists_wallOffsetAfter? {wall instant : Int} {start? : Option Int} {current : Int}
    {changes : List (Int × Int)}
    (hascending : (start?.toList ++ changes.map Prod.fst).IsChain (· < ·))
    (hstart : ∀ start ∈ start?, start ≤ instant)
    (hshown : instant + offsetAfter instant current changes = wall) :
    ∃ offset, wallOffsetAfter? wall start? current changes = some offset ∧
      offsetAfter (wall - offset) current changes = offset ∧
      (∀ start ∈ start?, start ≤ wall - offset) ∧
      (wall - offset = instant ∨
        ∃ start ∈ changes.map Prod.fst, wall - offset < start ∧ start ≤ instant) := by
  induction changes generalizing start? current with
  | nil =>
    have hinstant : wall - current = instant := by
      rw [offsetAfter] at hshown
      omega
    refine ⟨current, ?_, rfl, by rwa [hinstant], .inl hinstant⟩
    rw [wallOffsetAfter?, hinstant, if_pos (all_le_iff.mpr hstart)]
  | cons change changes ih =>
    obtain ⟨next, offset⟩ := change
    rw [wallOffsetAfter?]
    simp only [Bool.and_eq_true, all_le_iff, decide_eq_true_eq]
    by_cases hhere : (∀ start ∈ start?, start ≤ wall - current) ∧ wall - current < next
    · -- the offset in force takes the time back to an instant where it is in force
      have hcurrent : offsetAfter (wall - current) current ((next, offset) :: changes) = current := by
        rw [offsetAfter, if_pos hhere.2]
      refine ⟨current, if_pos hhere, hcurrent, hhere.1, ?_⟩
      by_cases hbefore : instant < next
      · rw [offsetAfter, if_pos hbefore] at hshown
        exact .inl (by omega)
      · exact .inr ⟨next, by simp, hhere.2, by omega⟩
    · -- the instant that shows the time has the change behind it
      have hafter : next ≤ instant := by
        by_contra hbefore
        rw [offsetAfter, if_pos (by omega)] at hshown
        obtain rfl : instant = wall - current := by omega
        exact hhere ⟨hstart, by omega⟩
      rw [offsetAfter, if_neg (by omega)] at hshown
      have htail : ((some next).toList ++ changes.map Prod.fst).IsChain (· < ·) :=
        hascending.right_of_append
      obtain ⟨found, hfound, hoffset, hnext, hor⟩ := ih htail (by simpa using hafter) hshown
      have hle : next ≤ wall - found := hnext next rfl
      refine ⟨found, ?_, ?_, fun start hs => ?_, hor.imp_right ?_⟩
      · rw [if_neg hhere, hfound]
      · rw [offsetAfter, if_neg (by omega), hoffset]
      · cases hs
        have hlt : start < next := (List.isChain_cons_cons.mp hascending).1
        omega
      · rintro ⟨start, hmem, hlt⟩
        exact ⟨start, List.mem_cons_of_mem _ hmem, hlt⟩

/-! ## Look-ups in milliseconds -/

variable {t : OffsetTable}

/-- Two offsets of a regular table differ by less than two days. -/
lemma IsRegular.sub_lt (h : t.IsRegular) (instant instant' : Int) :
    t.offsetAt instant - t.offsetAt instant' < 2 * 86400 := by
  have hbound := h.short _ (offsetAfter_mem instant t.first t.changes)
  have hbound' := h.short _ (offsetAfter_mem instant' t.first t.changes)
  rw [offsetAt, offsetAt]
  omega

/-- **A wall-clock time that is shown is taken back to the first instant that shows it.** The
instant is one that offsets are known for: were it not the given one, it would lie within two days
of a change. -/
theorem IsRegular.wall_sub_millisAtWall (h : t.IsRegular) {wall instant : Int}
    (hwall : Zone.IsKnown wall) (hknown : Zone.IsKnown instant)
    (hshown : instant + t.millisAt instant = wall) :
    Zone.IsKnown (wall - t.millisAtWall wall) ∧
      wall - t.millisAtWall wall + t.millisAt (wall - t.millisAtWall wall) = wall ∧
      wall - t.millisAtWall wall ≤ instant := by
  rw [millisAt, if_pos hknown] at hshown
  have hseconds : instant / 1000 + t.offsetAt (instant / 1000) = wall / 1000 := by omega
  have hascending : ((none : Option Int).toList ++ t.changes.map Prod.fst).IsChain (· < ·) :=
    h.ascending
  obtain ⟨offset, hfound, hoffset, -, hor⟩ :=
    exists_wallOffsetAfter? hascending (by simp) hseconds
  have hback : t.millisAtWall wall = offset * 1000 := by
    rw [millisAtWall, if_pos hwall, offsetAtWall?, hfound]
  change t.offsetAt (wall / 1000 - offset) = offset at hoffset
  have hearlier : Zone.IsKnown (wall - offset * 1000) ∧ wall - offset * 1000 ≤ instant := by
    obtain hsame | ⟨start, hmem, hlt, hle⟩ := hor
    · obtain rfl : wall - offset * 1000 = instant := by omega
      exact ⟨hknown, le_rfl⟩
    · have hfirst := h.known start hmem
      have hnear := h.sub_lt (wall / 1000 - offset) (instant / 1000)
      rw [hoffset] at hnear
      unfold Zone.IsKnown at hknown ⊢
      unfold millisPerDay at hfirst
      omega
  have hsecond : (wall - offset * 1000) / 1000 = wall / 1000 - offset := by omega
  rw [hback, millisAt, if_pos hearlier.1, hsecond, hoffset]
  exact ⟨hearlier.1, by omega, hearlier.2⟩

end OffsetTable

/-! ## Wall clocks of a zone -/

section

variable [Platform]

/-- The offset changes of a zone that has them. -/
def Zone.table? : Zone → Option OffsetTable
  | .utc | .fixed _ => none
  | .named z => some z.table
  | .platform => some Platform.table

variable {zone : Option Zone} (hzone : ∀ z ∈ zone, ∀ t ∈ z.table?, t.IsRegular)

include hzone in
/-- **A wall-clock time that is shown is taken to the first instant at which it is.** A zone of one
offset shows it once. -/
theorem isLeast_instantOfWall {wall instant : Int} (hwall : Zone.IsKnown wall)
    (hknown : Zone.IsKnown instant) (hshown : wallOfInstant zone instant = wall) :
    IsLeast {i | Zone.IsKnown i ∧ wallOfInstant zone i = wall} (instantOfWall zone wall) := by
  have honce (offset : Int) (h : ∀ i, wallOfInstant zone i = i + offset)
      (hback : instantOfWall zone wall = wall - offset) :
      IsLeast {i | Zone.IsKnown i ∧ wallOfInstant zone i = wall} (instantOfWall zone wall) := by
    obtain rfl : instant = instantOfWall zone wall := by
      rw [hback, ← hshown, h, Int.add_sub_cancel]
    refine ⟨⟨hknown, hshown⟩, fun i hi => ?_⟩
    have heq := hi.2
    rw [← hshown, h, h] at heq
    omega
  have hchanging {t : OffsetTable} (ht : t.IsRegular)
      (h : ∀ i, wallOfInstant zone i = i + t.millisAt i)
      (hback : instantOfWall zone wall = wall - t.millisAtWall wall) :
      IsLeast {i | Zone.IsKnown i ∧ wallOfInstant zone i = wall} (instantOfWall zone wall) := by
    simp only [h] at hshown ⊢
    obtain ⟨hknown', hshown', -⟩ := ht.wall_sub_millisAtWall hwall hknown hshown
    rw [hback]
    exact ⟨⟨hknown', hshown'⟩, fun i hi => (ht.wall_sub_millisAtWall hwall hi.1 hi.2).2.2⟩
  match zone, hzone with
  | none, _ => exact honce 0 (by simp [wallOfInstant]) (by simp [instantOfWall])
  | some .utc, _ => exact honce 0 (fun _ => rfl) rfl
  | some (.fixed offset), _ => exact honce offset (fun _ => rfl) rfl
  | some (.named _), hzone => exact hchanging (hzone _ rfl _ rfl) (fun _ => rfl) rfl
  | some .platform, hzone => exact hchanging (hzone _ rfl _ rfl) (fun _ => rfl) rfl

/-! ## Dates and timestamps -/

/-- A date is read where wall clocks show its midnight: there is no part of a day to cut off. -/
lemma dateOfInstant_of_wall {date : EpochDay} {instant : Int} (h : ¬ (ofEpochDay date).IsSkipped)
    (hshown : wallOfInstant zone instant = civilDay (ofEpochDay date) * millisPerDay) :
    dateOfInstant instant zone = date := by
  have hday : (civilDay (ofEpochDay date) * millisPerDay).tdiv millisPerDay
      = civilDay (ofEpochDay date) := Int.mul_tdiv_cancel _ (by decide)
  rw [dateOfInstant, hshown, hday, civilLabel_civilDay h, epochDay_ofEpochDay]

/-- **A timestamp is read where wall clocks show its time**, but for the labels that the civil
calendar leaves out and the days beyond 32 bits. -/
theorem timestampOfInstant_of_wall {timestamp instant : Int}
    (h₁ : -2147483648 ≤ timestamp / millisPerDay) (h₂ : timestamp / millisPerDay < 2147483648)
    (h : ¬ (ofEpochDay (dayOf timestamp)).IsSkipped)
    (hshown : wallOfInstant zone instant = wallOfTimestamp timestamp) :
    timestampOfInstant instant zone = timestamp := by
  have hnonneg := timeOfDay_nonneg timestamp
  have hlt := timeOfDay_lt timestamp
  have hday : wallOfTimestamp timestamp / millisPerDay
      = civilDay (ofEpochDay (dayOf timestamp)) := by
    unfold wallOfTimestamp
    unfold millisPerDay at hlt ⊢
    omega
  have htime : timeOfDay (wallOfTimestamp timestamp) = timeOfDay timestamp := by
    unfold wallOfTimestamp
    generalize timeOfDay timestamp = time at hnonneg hlt
    unfold timeOfDay
    unfold millisPerDay at hlt ⊢
    omega
  rw [timestampOfInstant, hshown, hday, htime, civilLabel_civilDay h, epochDay_ofEpochDay,
    atDay_dayOf h₁ h₂]

end

/-- **Existing wall-clock times survive every zone.** The tables of the zones here are regular. In a
zone without offset changes or with regular ones, named or the platform's own, take a timestamp
whose day fits 32 bits and is none that the civil calendar leaves out. If its wall-clock time is one
that offsets are looked up for and is shown at some known instant, then the timestamp is taken to
the first known instant that shows it, and at that instant the timestamp is read. -/
theorem existing_wall_times_survive :
    (∀ z ∈ NamedZone.all, z.table.IsRegular) ∧
    ∀ [Platform] {zone : Option Zone}, (∀ z ∈ zone, ∀ t ∈ z.table?, t.IsRegular) →
      ∀ {timestamp : Int}, -2147483648 ≤ timestamp / millisPerDay →
      timestamp / millisPerDay < 2147483648 →
      ¬ (ofEpochDay (dayOf timestamp)).IsSkipped →
      Zone.IsKnown (wallOfTimestamp timestamp) →
      (∃ instant, Zone.IsKnown instant ∧ wallOfInstant zone instant = wallOfTimestamp timestamp) →
      IsLeast {i | Zone.IsKnown i ∧ wallOfInstant zone i = wallOfTimestamp timestamp}
        (instantOfTimestamp timestamp zone) ∧
      timestampOfInstant (instantOfTimestamp timestamp zone) zone = timestamp := by
  refine ⟨OffsetTable.isRegular_of_mem_all, ?_⟩
  intro _ zone hzone timestamp h₁ h₂ hskipped hwall ⟨instant, hknown, hshown⟩
  have hleast := isLeast_instantOfWall hzone hwall hknown hshown
  exact ⟨hleast, timestampOfInstant_of_wall h₁ h₂ hskipped hleast.1.2⟩

section

attribute [local instance] Platform.utc

/-- The clocks of Los Angeles show 2023-11-05 01:30 twice. The timestamp is taken to the first of the
two instants, an hour before the second, and comes back. -/
theorem existing_wall_times_survive_when_repeated :
    let zone : Option Zone := some (.named .losAngeles)
    wallOfInstant zone (1699173000000 + millisPerHour) = wallOfTimestamp 1699147800000 ∧
      instantOfTimestamp 1699147800000 zone = 1699173000000 ∧
      IsLeast {i | Zone.IsKnown i ∧ wallOfInstant zone i = wallOfTimestamp 1699147800000}
        (instantOfTimestamp 1699147800000 zone) ∧
      timestampOfInstant (instantOfTimestamp 1699147800000 zone) zone = 1699147800000 := by
  have hlater : wallOfInstant (some (.named .losAngeles)) (1699173000000 + millisPerHour)
      = wallOfTimestamp 1699147800000 := by
    decide +kernel
  refine ⟨hlater, by decide +kernel, existing_wall_times_survive.2 ?_ (by decide) (by decide)
    (by decide) (by decide) ⟨_, by decide, hlater⟩⟩
  rintro _ ⟨⟩ _ ⟨⟩
  exact existing_wall_times_survive.1 _ List.mem_cons_self

end

end TypedRows.Calendar
