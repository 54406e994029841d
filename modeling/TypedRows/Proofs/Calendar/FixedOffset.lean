import TypedRows.Proofs.Calendar.WallTimes

/-!
# Instants and back in a zone of one offset

In a zone whose offset never changes the wall clock of an instant is the instant moved by the
offset, and moving it back undoes that. The dates, timestamps and times of day that were taken to
instants therefore come back, but for the labels that the civil calendar leaves out, the days
beyond 32 bits and what is no time of day.

## Main definitions

* `TypedRows.Calendar.fixedOffset?` — the offset of a zone that never changes.

## Main results

* `TypedRows.Calendar.dateOfInstant_instantOfDate`,
  `TypedRows.Calendar.timestampOfInstant_instantOfTimestamp`,
  `TypedRows.Calendar.timeOfInstant_instantOfTime`
-/

set_option autoImplicit false

namespace TypedRows.Calendar

open YearMonthDay

/-- The offset of a zone that never changes, and of no zone at all. -/
def fixedOffset? : Option Zone → Option Int
  | none | some .utc => some 0
  | some (.fixed offset) => some offset
  | some (.named _) | some .platform => none

variable [Platform] {zone : Option Zone} {offset : Int}

/-- In a zone of one offset the instant of a wall-clock time is the offset before it. -/
lemma instantOfWall_of_fixed (hz : fixedOffset? zone = some offset) (wall : Int) :
    instantOfWall zone wall = wall - offset := by
  rcases zone with _ | _ | _ | _ | _ <;> cases hz <;> simp [instantOfWall, Zone.offsetAtWall]

/-- In a zone of one offset the wall clocks are the offset ahead of the instant. -/
lemma wallOfInstant_of_fixed (hz : fixedOffset? zone = some offset) (instant : Int) :
    wallOfInstant zone instant = instant + offset := by
  rcases zone with _ | _ | _ | _ | _ <;> cases hz <;> simp [wallOfInstant, Zone.offsetAt]

/-- Wall clocks show the time whose instant was taken. -/
lemma wallOfInstant_instantOfWall (hz : fixedOffset? zone = some offset) (wall : Int) :
    wallOfInstant zone (instantOfWall zone wall) = wall := by
  rw [wallOfInstant_of_fixed hz, instantOfWall_of_fixed hz, Int.sub_add_cancel]

/-- **A date comes back from its instant**, which is a midnight on the wall clocks. -/
theorem dateOfInstant_instantOfDate (hz : fixedOffset? zone = some offset) {date : EpochDay}
    (h : ¬ (ofEpochDay date).IsSkipped) : dateOfInstant (instantOfDate date zone) zone = date :=
  dateOfInstant_of_wall h (wallOfInstant_instantOfWall hz _)

/-- **A timestamp comes back from its instant.** -/
theorem timestampOfInstant_instantOfTimestamp (hz : fixedOffset? zone = some offset)
    {timestamp : Int} (h₁ : -2147483648 ≤ timestamp / millisPerDay)
    (h₂ : timestamp / millisPerDay < 2147483648)
    (h : ¬ (ofEpochDay (dayOf timestamp)).IsSkipped) :
    timestampOfInstant (instantOfTimestamp timestamp zone) zone = timestamp :=
  timestampOfInstant_of_wall h₁ h₂ h (wallOfInstant_instantOfWall hz _)

/-- **A time of day comes back from its instant.** -/
theorem timeOfInstant_instantOfTime (hz : fixedOffset? zone = some offset) {time : Int}
    (h₁ : 0 ≤ time) (h₂ : time < millisPerDay) :
    timeOfInstant (instantOfTime time zone) zone = time := by
  rw [timeOfInstant, instantOfTime, wallOfInstant_instantOfWall hz, timeOfDay,
    Int.emod_eq_of_lt h₁ h₂]

end TypedRows.Calendar
