import TypedRows.Proofs.Calendar.FixedOffset

/-!
# Dates in zones that change their clocks at midnight

A date is taken to the instant of its local midnight. Where clocks are set forward over midnight
no instant shows it, and the offset in force at the same number taken as an instant stands in. The
instant that comes of it shows a time as far off midnight as the clocks are set: after midnight
when the change is still to come at midnight UTC, and before midnight when it is over by then. On
the way back the part of a day is cut off towards 1970, so that only one of the two sides is in
the day of the date.

## Main definitions

* `TypedRows.Calendar.ClockChange` — an instant with the offsets before it and from it on.
* `TypedRows.Calendar.OffsetTable.clockChanges`, `TypedRows.Calendar.Zone.clockChanges` — the
  changes of a table and of a zone.
* `TypedRows.Calendar.ClockChange.Skips` — the wall-clock times that clocks are set forward over.
* `TypedRows.Calendar.OffsetTable.IsSparse` — tables whose changes are days apart.

## Main results

* `TypedRows.Calendar.OffsetTable.exists_shown_or_skipped` — a wall-clock time is shown or skipped.
* `TypedRows.Calendar.OffsetTable.IsSparse.wall_of_skips` — what is shown at the instant of a
  skipped time.
* `TypedRows.Calendar.date_comes_back_iff`
-/

set_option autoImplicit false

namespace TypedRows.Calendar

open YearMonthDay

/-! ## Changes of clocks -/

/-- A change of clocks at an instant, from the offset before to the offset after; in seconds. -/
structure ClockChange where
  instant : Int
  before : Int
  after : Int
  deriving DecidableEq, Repr

namespace ClockChange

/-- Clocks are set forward over a wall-clock time. -/
def Skips (c : ClockChange) (wall : Int) : Prop :=
  c.instant + c.before ≤ wall ∧ wall < c.instant + c.after

instance (c : ClockChange) (wall : Int) : Decidable (c.Skips wall) := by
  unfold Skips; infer_instance

/-- How far clocks are set forward. -/
def gap (c : ClockChange) : Int := c.after - c.before

end ClockChange

/-- Offsets are known for a day before and a day after an instant. -/
def Zone.IsKnownAround (millis : Int) : Prop :=
  firstKnown + millisPerDay ≤ millis ∧ millis ≤ lastKnown - millisPerDay

/-- Offsets are known at the instants within a day. -/
lemma Zone.IsKnownAround.isKnown {millis instant : Int} (h : IsKnownAround millis)
    (h₁ : millis - millisPerDay ≤ instant) (h₂ : instant ≤ millis + millisPerDay) :
    IsKnown instant := by
  unfold IsKnownAround at h
  unfold IsKnown
  omega

/-- Offsets are known at the instant itself. -/
lemma Zone.IsKnownAround.isKnown_self {millis : Int} (h : IsKnownAround millis) :
    IsKnown millis := by
  apply h.isKnown <;> unfold millisPerDay <;> omega

namespace OffsetTable

/-- The changes of clocks when `current` is in force before them. -/
def changesAfter : (current : Int) → List (Int × Int) → List ClockChange
  | _, [] => []
  | current, (start, offset) :: changes =>
    ⟨start, current, offset⟩ :: changesAfter offset changes

/-- The changes of clocks of a table. -/
def clockChanges (t : OffsetTable) : List ClockChange := changesAfter t.first t.changes

/-- Changes that are two days apart at least, and all in the time of the Gregorian calendar. -/
structure IsSparse (t : OffsetTable) : Prop where
  apart : (t.changes.map Prod.fst).IsChain (· + 2 * 86400 ≤ ·)
  gregorian : ∀ start ∈ t.changes.map Prod.fst,
    (cutover - epochJulianDay + 1) * 86400 ≤ start

instance (t : OffsetTable) : Decidable t.IsSparse :=
  decidable_of_iff (_ ∧ _) ⟨fun ⟨h₁, h₂⟩ => ⟨h₁, h₂⟩, fun ⟨h₁, h₂⟩ => ⟨h₁, h₂⟩⟩

/-- The changes of all named zones are days apart. -/
theorem isSparse_of_mem_all : ∀ z ∈ NamedZone.all, z.table.IsSparse := by
  decide +kernel

/-! ## Offsets near a change -/

/-- The changes of clocks are at the instants of the table. -/
lemma instant_mem_of_mem_changesAfter {c : ClockChange} {current : Int}
    {changes : List (Int × Int)} (hc : c ∈ changesAfter current changes) :
    c.instant ∈ changes.map Prod.fst := by
  induction changes generalizing current with
  | nil => simp [changesAfter] at hc
  | cons change changes ih =>
    rcases List.mem_cons.mp hc with rfl | hc
    · exact List.mem_cons_self
    · exact List.mem_cons_of_mem _ (ih hc)

/-- Before all changes the offset stays what it is. -/
lemma offsetAfter_of_lt {instant current : Int} {changes : List (Int × Int)}
    (h : ∀ start ∈ changes.map Prod.fst, instant < start) :
    offsetAfter instant current changes = current := by
  cases changes with
  | nil => rfl
  | cons change changes => rw [offsetAfter, if_pos (h _ List.mem_cons_self)]

/-- Within two days of a change the offset is one of its two. -/
lemma offsetAfter_near {c : ClockChange} {current instant : Int} {changes : List (Int × Int)}
    (hapart : (changes.map Prod.fst).Pairwise (· + 2 * 86400 ≤ ·))
    (hc : c ∈ changesAfter current changes) (h₁ : c.instant - 2 * 86400 ≤ instant)
    (h₂ : instant < c.instant + 2 * 86400) :
    offsetAfter instant current changes = if instant < c.instant then c.before else c.after := by
  induction changes generalizing current with
  | nil => simp [changesAfter] at hc
  | cons change changes ih =>
    obtain ⟨hfirst, hrest⟩ := List.pairwise_cons.mp hapart
    rw [offsetAfter]
    rcases List.mem_cons.mp hc with rfl | hc
    · by_cases hlt : instant < change.1
      · rw [if_pos hlt, if_pos hlt]
      · rw [if_neg hlt, if_neg hlt, offsetAfter_of_lt]
        intro start hstart
        have := hfirst start hstart
        dsimp only at h₂
        omega
    · have := hfirst _ (instant_mem_of_mem_changesAfter hc)
      rw [if_neg (by omega), ih hrest hc]

/-! ## Times that are shown and times that are skipped -/

/-- **A wall-clock time is shown or skipped.** When the offset in force takes the time back to an
instant after the next change, the change is over or sets the clocks over the time. -/
theorem exists_shown_or_skipped {wall : Int} {start? : Option Int} {current : Int}
    {changes : List (Int × Int)}
    (hascending : (start?.toList ++ changes.map Prod.fst).IsChain (· < ·))
    (hstart : ∀ start ∈ start?, start + current ≤ wall) :
    (∃ instant, (∀ start ∈ start?, start ≤ instant)
        ∧ instant + offsetAfter instant current changes = wall)
      ∨ ∃ c ∈ changesAfter current changes, c.Skips wall := by
  induction changes generalizing start? current with
  | nil =>
    refine .inl ⟨wall - current, fun start hs => ?_, by simp [offsetAfter]⟩
    have := hstart start hs
    omega
  | cons change changes ih =>
    obtain ⟨next, offset⟩ := change
    by_cases hhere : wall - current < next
    · refine .inl ⟨wall - current, fun start hs => ?_, by simp [offsetAfter, hhere]⟩
      have := hstart start hs
      omega
    · by_cases hskips : wall < next + offset
      · refine .inr ⟨⟨next, current, offset⟩, List.mem_cons_self, ?_⟩
        dsimp only [ClockChange.Skips]
        omega
      · have htail : ((some next).toList ++ changes.map Prod.fst).IsChain (· < ·) :=
          hascending.right_of_append
        refine (ih htail (by simpa using hskips)).imp ?_ ?_
        · rintro ⟨instant, hnext, hshown⟩
          have hle : next ≤ instant := hnext next rfl
          refine ⟨instant, fun start hs => ?_, by rw [offsetAfter, if_neg (by omega), hshown]⟩
          cases hs
          have hlt : start < next := (List.isChain_cons_cons.mp hascending).1
          omega
        · rintro ⟨c, hc, hskips⟩
          exact ⟨c, List.mem_cons_of_mem _ hc, hskips⟩

/-- A look-up by wall-clock time finds the offset of an instant that shows the time. -/
lemma offsetAfter_of_wallOffsetAfter? {wall : Int} {start? : Option Int} {current found : Int}
    {changes : List (Int × Int)}
    (hascending : (start?.toList ++ changes.map Prod.fst).IsChain (· < ·))
    (h : wallOffsetAfter? wall start? current changes = some found) :
    (∀ start ∈ start?, start ≤ wall - found)
      ∧ offsetAfter (wall - found) current changes = found := by
  induction changes generalizing start? current with
  | nil =>
    rw [wallOffsetAfter?] at h
    split_ifs at h with hhere
    obtain rfl := Option.some.inj h
    exact ⟨all_le_iff.mp hhere, rfl⟩
  | cons change changes ih =>
    obtain ⟨next, offset⟩ := change
    rw [wallOffsetAfter?] at h
    split_ifs at h with hhere
    · obtain rfl := Option.some.inj h
      rw [Bool.and_eq_true, all_le_iff, decide_eq_true_eq] at hhere
      exact ⟨hhere.1, by rw [offsetAfter, if_pos hhere.2]⟩
    · have htail : ((some next).toList ++ changes.map Prod.fst).IsChain (· < ·) :=
        hascending.right_of_append
      obtain ⟨hnext, hoffset⟩ := ih htail h
      have hle : next ≤ wall - found := hnext next rfl
      refine ⟨fun start hs => ?_, by rw [offsetAfter, if_neg (by omega), hoffset]⟩
      cases hs
      have hlt : start < next := (List.isChain_cons_cons.mp hascending).1
      omega

/-! ## What is shown at the instant of a wall-clock time -/

variable {t : OffsetTable} {c : ClockChange}

/-- The offsets of a change are among those of the table. -/
lemma offsets_mem_of_mem_changesAfter {current : Int} {changes : List (Int × Int)}
    (hc : c ∈ changesAfter current changes) :
    c.before ∈ current :: changes.map Prod.snd ∧ c.after ∈ current :: changes.map Prod.snd := by
  induction changes generalizing current with
  | nil => simp [changesAfter] at hc
  | cons change changes ih =>
    rcases List.mem_cons.mp hc with rfl | hc
    · simp
    · exact ⟨List.mem_cons_of_mem _ (ih hc).1, List.mem_cons_of_mem _ (ih hc).2⟩

/-- The offsets of the changes of a regular table are shorter than a day. -/
lemma IsRegular.short_of_mem (h : t.IsRegular) (hc : c ∈ t.clockChanges) :
    (-86400 < c.before ∧ c.before < 86400) ∧ -86400 < c.after ∧ c.after < 86400 :=
  ⟨h.short _ (offsets_mem_of_mem_changesAfter hc).1,
    h.short _ (offsets_mem_of_mem_changesAfter hc).2⟩

/-- Within two days of a change the offset is one of its two. -/
lemma IsSparse.offsetAt_near (h : t.IsSparse) (hc : c ∈ t.clockChanges) {instant : Int}
    (h₁ : c.instant - 2 * 86400 ≤ instant) (h₂ : instant < c.instant + 2 * 86400) :
    t.offsetAt instant = if instant < c.instant then c.before else c.after := by
  have htrans : IsTrans Int (· + 2 * 86400 ≤ ·) := ⟨fun a b d hab hbd => by omega⟩
  exact offsetAfter_near (List.isChain_iff_pairwise.mp h.apart) hc h₁ h₂

/-- A skipped time is shown at no instant. -/
lemma IsSparse.offsetAtWall?_of_skips (h : t.IsSparse) (hregular : t.IsRegular)
    (hc : c ∈ t.clockChanges) {wall : Int} (hskips : c.Skips wall) :
    t.offsetAtWall? wall = none := by
  obtain ⟨hfrom, hto⟩ := hskips
  obtain ⟨hbefore, hafter⟩ := hregular.short_of_mem hc
  refine Option.eq_none_iff_forall_ne_some.mpr fun found hfound => ?_
  have hascending : ((none : Option Int).toList ++ t.changes.map Prod.fst).IsChain (· < ·) :=
    hregular.ascending
  have hoffset : t.offsetAt (wall - found) = found :=
    (offsetAfter_of_wallOffsetAfter? hascending hfound).2
  have hshort := hregular.short _ (offsetAfter_mem (wall - found) t.first t.changes)
  rw [← offsetAt, hoffset] at hshort
  rw [h.offsetAt_near hc (by omega) (by omega)] at hoffset
  split_ifs at hoffset <;> omega

/-- A wall-clock time is shown at its instant unless it is skipped. -/
lemma IsRegular.wall_of_not_skips (h : t.IsRegular) {wall : Int} (hwall : Zone.IsKnownAround wall)
    (hskips : ∀ c ∈ t.clockChanges, ¬ c.Skips (wall / 1000)) :
    wall - t.millisAtWall wall + t.millisAt (wall - t.millisAtWall wall) = wall := by
  have hascending : ((none : Option Int).toList ++ t.changes.map Prod.fst).IsChain (· < ·) :=
    h.ascending
  obtain ⟨second, -, hshown⟩ | ⟨c, hc, hskipped⟩ :=
    @exists_shown_or_skipped (wall / 1000) none t.first t.changes hascending (by simp)
  · -- the instant that shows the time to the second shows it to the millisecond
    obtain ⟨instant, hinstant⟩ : ∃ instant, instant = wall + (second - wall / 1000) * 1000 := ⟨_, rfl⟩
    have hshort := h.short _ (offsetAfter_mem second t.first t.changes)
    have hsecond : instant / 1000 = second := by omega
    have hknown : Zone.IsKnown instant := by
      apply hwall.isKnown <;> unfold millisPerDay <;> omega
    have hat : instant + t.millisAt instant = wall := by
      rw [millisAt, if_pos hknown, hsecond, offsetAt]
      omega
    exact (h.wall_sub_millisAtWall hwall.isKnown_self hknown hat).2.1
  · exact absurd hskipped (hskips c hc)

/-- **What is shown at the instant of a skipped time.** The offset in force at the same number taken
as an instant is the one after the change when the change is over by then, and the one before it
otherwise; the instant that it gives lies on the other side of the change. -/
theorem IsSparse.wall_of_skips (h : t.IsSparse) (hregular : t.IsRegular) (hc : c ∈ t.clockChanges)
    {wall : Int} (hwall : Zone.IsKnownAround wall) (hskips : c.Skips (wall / 1000)) :
    wall - t.millisAtWall wall + t.millisAt (wall - t.millisAtWall wall)
      = wall + (if wall / 1000 < c.instant then c.gap else -c.gap) * 1000 := by
  obtain ⟨hbefore, hafter⟩ := hregular.short_of_mem hc
  have hknown : Zone.IsKnown wall := hwall.isKnown_self
  have hback : t.millisAtWall wall = t.offsetAt (wall / 1000) * 1000 := by
    rw [millisAtWall, if_pos hknown, h.offsetAtWall?_of_skips hregular hc hskips, millisAt,
      if_pos hknown]
  -- whichever offset is taken, the instant is known and shows the other one
  have hother {offset other : Int} (hoffset : -86400 < offset ∧ offset < 86400)
      (hat : t.offsetAt (wall / 1000 - offset) = other) :
      wall - offset * 1000 + t.millisAt (wall - offset * 1000) = wall + (other - offset) * 1000 := by
    have hsecond : (wall - offset * 1000) / 1000 = wall / 1000 - offset := by omega
    have hknown' : Zone.IsKnown (wall - offset * 1000) := by
      apply hwall.isKnown <;> unfold millisPerDay <;> omega
    rw [millisAt, if_pos hknown', hsecond, hat]
    omega
  unfold ClockChange.Skips at hskips
  unfold ClockChange.gap
  rw [hback, h.offsetAt_near hc (by omega) (by omega)]
  split_ifs with hlt
  · refine hother hbefore ?_
    rw [h.offsetAt_near hc (by omega) (by omega), if_neg (by omega)]
  · rw [neg_sub]
    refine hother hafter ?_
    rw [h.offsetAt_near hc (by omega) (by omega), if_pos (by omega)]

end OffsetTable

/-! ## Days -/

/-- A day with a shift of its midnight is cut off to the day itself. -/
lemma tdiv_millisPerDay_eq_iff {day shift : Int} :
    (day * millisPerDay + shift).tdiv millisPerDay = day ↔
      -millisPerDay < shift ∧ shift < millisPerDay
        ∧ (0 < day → 0 ≤ shift) ∧ (day < 0 → shift ≤ 0) := by
  have hsign : millisPerDay.sign = 1 := rfl
  rw [Int.tdiv_eq_ediv, hsign]
  unfold millisPerDay
  split_ifs <;> omega

/-- A day with its midnight shifted by less than two days is cut off to a day near by, and before
1970 to none earlier than the day before. -/
lemma tdiv_millisPerDay_near {day shift : Int}
    (h : -(2 * millisPerDay) < shift ∧ shift < 2 * millisPerDay) :
    (day * millisPerDay + shift).tdiv millisPerDay ≤ day + 2
      ∧ day - 2 ≤ (day * millisPerDay + shift).tdiv millisPerDay
      ∧ (day < 0 → day - 1 ≤ (day * millisPerDay + shift).tdiv millisPerDay) := by
  have hsign : millisPerDay.sign = 1 := rfl
  rw [Int.tdiv_eq_ediv, hsign]
  unfold millisPerDay at *
  split_ifs <;> omega

/-- From the first day of the Gregorian calendar on, the date with the label of a day is the day. -/
lemma toInt_epochDay_civilLabel {day : Int} (h₁ : cutover - epochJulianDay ≤ day)
    (h₂ : day < 2147483648) : (civilLabel day).epochDay.toInt = day := by
  have hlow : -2147483648 ≤ day := by
    unfold cutover epochJulianDay at h₁
    omega
  have hday : (Int32.ofInt day).toInt = day := Int32.toInt_ofInt_of_le hlow h₂
  have hlabel : civilLabel day = ofEpochDay (Int32.ofInt day) := by
    rw [civilLabel, if_pos (by omega), ofEpochDay, hday]
  rw [hlabel, epochDay_ofEpochDay, hday]

/-- The day of a date in the civil calendar is the date itself, but before the first day of the
Gregorian calendar. -/
lemma civilDay_ofEpochDay (date : EpochDay) :
    civilDay (ofEpochDay date) = date.toInt
      ∨ (civilDay (ofEpochDay date) ≤ cutover - epochJulianDay
        ∧ date.toInt < cutover - epochJulianDay) := by
  rw [civilDay, julianDay_ofEpochDay]
  split_ifs with hnew
  · exact .inl (Int.add_sub_cancel _ _)
  · right
    omega

/-- Offsets are known around the midnights of the years from 1 to 9999. -/
lemma isKnownAround_of_year {date : EpochDay} (h₁ : 1 ≤ (ofEpochDay date).year.toInt)
    (h₂ : (ofEpochDay date).year.toInt ≤ 9999) :
    Zone.IsKnownAround (civilDay (ofEpochDay date) * millisPerDay) := by
  obtain ⟨y, e, hy, he₀, he₁, -, hday, hlabel⟩ := exists_ofEpochDay date
  rw [hlabel, year_ofDayOfYear hy he₀ he₁] at h₁ h₂
  unfold civilDay
  rw [hlabel, julianDay_ofDayOfYear hy he₀ he₁, julianDayOld_ofDayOfYear hy he₀ he₁]
  unfold Zone.IsKnownAround Zone.firstKnown Zone.lastKnown millisPerDay cutover epochJulianDay
  split_ifs <;> omega

/-! ## Dates -/

/-- The midnight of a date, in seconds of a wall clock. -/
def midnight (date : EpochDay) : Int := date.toInt * 86400

/-- A change that sets clocks forward over the midnight of a date leaves the date in its day when
it sets them forward by less than a day and is, after 1970, still to come at midnight UTC, or, before
1970, over by then. -/
def ClockChange.KeepsDate (c : ClockChange) (date : EpochDay) : Prop :=
  c.gap < 86400 ∧ (0 < date.toInt → midnight date < c.instant)
    ∧ (date.toInt < 0 → c.instant ≤ midnight date)

instance (c : ClockChange) (date : EpochDay) : Decidable (c.KeepsDate date) := by
  unfold ClockChange.KeepsDate; infer_instance

variable {t : OffsetTable} {c : ClockChange} {date : EpochDay}

/-- The midnight of a date in seconds. -/
lemma midnight_eq : civilDay (ofEpochDay date) * millisPerDay / 1000
    = civilDay (ofEpochDay date) * 86400 := by
  unfold millisPerDay
  omega

namespace OffsetTable

/-- Midnights are skipped in the time of the Gregorian calendar only. -/
lemma IsSparse.lt_of_skips (h : t.IsSparse) (hregular : t.IsRegular) (hc : c ∈ t.clockChanges)
    {day : Int} (hskips : c.Skips (day * 86400)) : cutover - epochJulianDay < day := by
  have hfirst := h.gregorian _ (instant_mem_of_mem_changesAfter hc)
  have hbefore := (hregular.short_of_mem hc).1
  unfold ClockChange.Skips at hskips
  omega

/-- The midnights of a date in the civil calendar and in the Gregorian one are skipped alike. -/
lemma IsSparse.skips_midnight_iff (h : t.IsSparse) (hregular : t.IsRegular)
    (hc : c ∈ t.clockChanges) :
    c.Skips (civilDay (ofEpochDay date) * 86400) ↔ c.Skips (midnight date) := by
  obtain hday | ⟨hcivil, hdate⟩ := civilDay_ofEpochDay date
  · rw [hday, midnight]
  · refine iff_of_false (fun hskips => ?_) fun hskips => ?_
    · have := h.lt_of_skips hregular hc hskips
      omega
    · have := h.lt_of_skips hregular hc hskips
      omega

end OffsetTable

section

variable [Platform] {zone : Option Zone}

/-- The wall clocks of a zone with changes go by its table. -/
lemma wallOfInstant_instantOfWall_of_table (hz : zone.bind Zone.table? = some t) (wall : Int) :
    wallOfInstant zone (instantOfWall zone wall)
      = wall - t.millisAtWall wall + t.millisAt (wall - t.millisAtWall wall) := by
  match zone, hz with
  | some (.named _), rfl => rfl
  | some .platform, rfl => rfl

/-- A zone without changes has one offset. -/
lemma exists_fixedOffset (hz : zone.bind Zone.table? = none) :
    ∃ offset, fixedOffset? zone = some offset := by
  match zone, hz with
  | none, _ | some .utc, _ | some (.fixed _), _ => exact ⟨_, rfl⟩

/-- A date whose midnight is skipped by a change comes back when the change keeps it. -/
lemma comes_back_iff_keepsDate (hz : zone.bind Zone.table? = some t) (hregular : t.IsRegular)
    (hsparse : t.IsSparse) (hc : c ∈ t.clockChanges) (hskips : c.Skips (midnight date))
    (hknown : Zone.IsKnownAround (civilDay (ofEpochDay date) * millisPerDay)) :
    dateOfInstant (instantOfDate date zone) zone = date ↔ c.KeepsDate date := by
  have hgregorian := hsparse.lt_of_skips hregular hc hskips
  have hday : civilDay (ofEpochDay date) = date.toInt := by
    obtain hday | ⟨-, hdate⟩ := civilDay_ofEpochDay date
    · exact hday
    · omega
  obtain ⟨hbefore, hafter⟩ := hregular.short_of_mem hc
  have hgap : 0 < c.gap ∧ c.gap < 2 * 86400 := by
    unfold ClockChange.gap
    unfold ClockChange.Skips at hskips
    omega
  have hshown := hsparse.wall_of_skips hregular hc hknown
    (by rwa [midnight_eq, hsparse.skips_midnight_iff hregular hc])
  obtain ⟨shift, hshift⟩ :
      ∃ shift, shift = (if midnight date < c.instant then c.gap else -c.gap) * 1000 := ⟨_, rfl⟩
  rw [midnight_eq, hday, ← midnight, ← hshift] at hshown
  rw [dateOfInstant, instantOfDate, wallOfInstant_instantOfWall_of_table hz, hday, hshown,
    ← Int32.toInt_inj, toInt_epochDay_civilLabel, tdiv_millisPerDay_eq_iff, ClockChange.KeepsDate]
  · rw [hshift, millisPerDay]
    split_ifs <;> omega
  -- the day that is read is one of the Gregorian calendar
  all_goals
    have hnear := @tdiv_millisPerDay_near date.toInt shift (by
      rw [hshift, millisPerDay]
      split_ifs <;> omega)
    rw [hday] at hknown
    unfold Zone.IsKnownAround Zone.lastKnown millisPerDay at hknown
    unfold cutover epochJulianDay at *
    omega

/-- A date whose midnight is not skipped comes back. -/
lemma comes_back_of_not_skips (hz : zone.bind Zone.table? = some t) (hregular : t.IsRegular)
    (hsparse : t.IsSparse) (hdate : ¬ (ofEpochDay date).IsSkipped)
    (hskips : ∀ c ∈ t.clockChanges, ¬ c.Skips (midnight date))
    (hknown : Zone.IsKnownAround (civilDay (ofEpochDay date) * millisPerDay)) :
    dateOfInstant (instantOfDate date zone) zone = date := by
  refine dateOfInstant_of_wall hdate ?_
  rw [instantOfDate, wallOfInstant_instantOfWall_of_table hz]
  refine hregular.wall_of_not_skips hknown fun c hc => ?_
  rw [midnight_eq, hsparse.skips_midnight_iff hregular hc]
  exact hskips c hc

/-- The changes of the wall clocks of a zone. -/
def clockChanges (zone : Option Zone) : List ClockChange :=
  (zone.bind Zone.table?).elim [] OffsetTable.clockChanges

end

/-- **Which dates come back from their instants.** The tables of the zones here are regular and
sparse. In a zone without offset changes or with regular and sparse ones, named or the platform's
own, take a date of the years from 1 to 9999 that is none of those that the civil calendar leaves
out. It comes back from its instant unless clocks are set forward over its midnight, and then it
does exactly when the change keeps it. -/
theorem date_comes_back_iff :
    (∀ z ∈ NamedZone.all, z.table.IsRegular ∧ z.table.IsSparse) ∧
    ∀ [Platform] {zone : Option Zone},
      (∀ t ∈ zone.bind Zone.table?, t.IsRegular ∧ t.IsSparse) →
      ∀ {date : EpochDay}, 1 ≤ (ofEpochDay date).year.toInt →
      (ofEpochDay date).year.toInt ≤ 9999 → ¬ (ofEpochDay date).IsSkipped →
      (dateOfInstant (instantOfDate date zone) zone = date ↔
        ∀ c ∈ clockChanges zone, c.Skips (midnight date) → c.KeepsDate date) := by
  refine ⟨fun z hz => ⟨OffsetTable.isRegular_of_mem_all z hz, OffsetTable.isSparse_of_mem_all z hz⟩,
    ?_⟩
  intro _ zone hzone date h₁ h₂ hdate
  have hknown := isKnownAround_of_year h₁ h₂
  cases hz : zone.bind Zone.table? with
  | none =>
    obtain ⟨offset, hfixed⟩ := exists_fixedOffset hz
    have hchanges : clockChanges zone = [] := by rw [clockChanges, hz, Option.elim_none]
    rw [hchanges]
    exact iff_of_true (dateOfInstant_instantOfDate hfixed hdate) (by simp)
  | some t =>
    obtain ⟨hregular, hsparse⟩ := hzone t hz
    rw [clockChanges, hz, Option.elim_some]
    constructor
    · intro hback c hc hskips
      exact (comes_back_iff_keepsDate hz hregular hsparse hc hskips hknown).mp hback
    · intro hkeeps
      by_cases hskips : ∃ c ∈ t.clockChanges, c.Skips (midnight date)
      · obtain ⟨c, hc, hskips⟩ := hskips
        exact (comes_back_iff_keepsDate hz hregular hsparse hc hskips hknown).mpr
          (hkeeps c hc hskips)
      · refine comes_back_of_not_skips hz hregular hsparse hdate ?_ hknown
        simpa using hskips

section

attribute [local instance] Platform.utc

/-- On 1985-11-02 the clocks of Sao Paulo are set forward over midnight, which is three in the
morning of UTC, and the date comes back. -/
theorem date_comes_back_in_saoPaulo :
    let zone : Option Zone := some (.named .saoPaulo)
    (∃ c ∈ clockChanges zone, c.Skips (midnight 5784) ∧ c.KeepsDate 5784) ∧
      ofEpochDay 5784 = ⟨1985, 11, 2⟩ ∧ dateOfInstant (instantOfDate 5784 zone) zone = 5784 := by
  refine ⟨by decide +kernel, by decide, (date_comes_back_iff.2 ?_ (by decide) (by decide)
    (by decide)).mpr (by decide +kernel)⟩
  rintro _ ⟨⟩
  exact date_comes_back_iff.1 _ (by simp [NamedZone.all])

/-- Midnights that clocks are set forward over: in Moscow in 1981 the date comes back as the day
before, and in Sao Paulo in 1949 as the day after. In Apia the whole day of 2011-12-30 is skipped. -/
theorem date_without_midnight_changes :
    let moscow : Option Zone := some (.named .moscow)
    let saoPaulo : Option Zone := some (.named .saoPaulo)
    let apia : Option Zone := some (.named .apia)
    (ofEpochDay 4108 = ⟨1981, 4, 1⟩ ∧ dateOfInstant (instantOfDate 4108 moscow) moscow = 4107) ∧
      (ofEpochDay (-7336) = ⟨1949, 12, 1⟩ ∧
        dateOfInstant (instantOfDate (-7336) saoPaulo) saoPaulo = -7335) ∧
      (ofEpochDay 15338 = ⟨2011, 12, 30⟩ ∧
        dateOfInstant (instantOfDate 15338 apia) apia = 15339) := by
  decide +kernel

end

end TypedRows.Calendar
