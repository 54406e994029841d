import TypedRows.Calendar.Error
import TypedRows.Calendar.OffsetTable
import TypedRows.Text.Blank

/-!
# Time zones

A zone gives the offset of its wall clocks from UTC, in milliseconds. The offset can be looked
up by an instant or by a wall-clock time. Wall-clock times repeat when clocks are set back and
are skipped when they are set forward: a repeated time has the offset in force before the
change, a skipped one the offset in force at the same number taken as an instant.

## Main definitions

* `TypedRows.Calendar.OffsetTable.offsetAt`, `TypedRows.Calendar.OffsetTable.offsetAtWall?` —
  the look-ups in a table of offset changes.
* `TypedRows.Calendar.Zone` — UTC, a fixed offset, a named zone or the zone of the platform.
* `TypedRows.Calendar.Platform` — the offset changes of the zone of the platform.
* `TypedRows.Calendar.Zone.offsetAt`, `TypedRows.Calendar.Zone.offsetAtWall` — the look-ups in a
  zone.
* `TypedRows.Calendar.Zone.read`, `TypedRows.Calendar.Zone.text` — the text of a zone.
-/

set_option autoImplicit false

namespace TypedRows.Calendar

/-! ## Known instants -/

namespace Zone

/-- The first instant that offsets are known for, in milliseconds. -/
def firstKnown : Int := -8334601228800000

/-- The last instant that offsets are known for, in milliseconds. -/
def lastKnown : Int := 8210266876799999

/-- The instants and wall-clock times that offsets are looked up for. -/
def IsKnown (millis : Int) : Prop :=
  firstKnown ≤ millis ∧ millis ≤ lastKnown

instance (millis : Int) : Decidable (IsKnown millis) := by
  unfold IsKnown; infer_instance

end Zone

/-! ## Look-ups in a table -/

namespace OffsetTable

/-- The offset at an instant when `current` is in force before the changes. -/
def offsetAfter (instant : Int) : (current : Int) → List (Int × Int) → Int
  | current, [] => current
  | current, (start, offset) :: changes =>
    if instant < start then current else offsetAfter instant offset changes

/-- The offset at a wall-clock time when `current` is in force before the changes, from the
instant `start?` on: the first one in force at the instant it takes the wall clock back to. -/
def wallOffsetAfter? (wall : Int) : (start? : Option Int) → (current : Int) →
    List (Int × Int) → Option Int
  | start?, current, [] =>
    if start?.all (· ≤ wall - current) then some current else none
  | start?, current, (start, offset) :: changes =>
    if start?.all (· ≤ wall - current) && wall - current < start then some current
    else wallOffsetAfter? wall (some start) offset changes

/-- The offset in force at an instant, both in seconds. -/
def offsetAt (t : OffsetTable) (instant : Int) : Int :=
  offsetAfter instant t.first t.changes

/-- The offset of a wall-clock time, both in seconds. A repeated time has the first of its two
offsets, a skipped one has none. -/
def offsetAtWall? (t : OffsetTable) (wall : Int) : Option Int :=
  wallOffsetAfter? wall none t.first t.changes

/-- The offset at an instant, both in milliseconds. Beyond the known instants it is zero. -/
def millisAt (t : OffsetTable) (instant : Int) : Int :=
  if Zone.IsKnown instant then t.offsetAt (instant / 1000) * 1000 else 0

/-- The offset of a wall-clock time, both in milliseconds. -/
def millisAtWall (t : OffsetTable) (wall : Int) : Int :=
  match if Zone.IsKnown wall then t.offsetAtWall? (wall / 1000) else none with
  | some offset => offset * 1000
  | none => t.millisAt wall

end OffsetTable

/-! ## Zones -/

/-- A zone known by name, with its offset changes. -/
structure NamedZone where
  name : String
  table : OffsetTable
  deriving DecidableEq, Repr

namespace NamedZone

/-- America/Los_Angeles. -/
def losAngeles : NamedZone := ⟨"America/Los_Angeles", .losAngeles⟩

/-- Asia/Kolkata. -/
def kolkata : NamedZone := ⟨"Asia/Kolkata", .kolkata⟩

/-- Europe/London. -/
def london : NamedZone := ⟨"Europe/London", .london⟩

/-- America/Sao_Paulo. -/
def saoPaulo : NamedZone := ⟨"America/Sao_Paulo", .saoPaulo⟩

/-- Australia/Lord_Howe. -/
def lordHowe : NamedZone := ⟨"Australia/Lord_Howe", .lordHowe⟩

/-- Pacific/Apia. -/
def apia : NamedZone := ⟨"Pacific/Apia", .apia⟩

/-- Europe/Moscow. -/
def moscow : NamedZone := ⟨"Europe/Moscow", .moscow⟩

/-- The zones that can be read by their names. -/
def all : List NamedZone :=
  [losAngeles, kolkata, london, saoPaulo, lordHowe, apia, moscow]

end NamedZone

/-- What is set up where the program runs: the offset changes of the zone there. -/
class Platform where
  table : OffsetTable

/-- A platform where UTC is set up. -/
@[reducible] def Platform.utc : Platform := ⟨.utc⟩

/-- A time zone. -/
inductive Zone where
  | utc
  /-- An offset east of UTC, in milliseconds, that never changes. -/
  | fixed (offset : Int)
  | named (zone : NamedZone)
  /-- The zone that is set up where the program runs. -/
  | platform
  deriving DecidableEq, Repr

namespace Zone

/-- The offset at an instant, both in milliseconds. -/
def offsetAt [Platform] (zone : Zone) (instant : Int) : Int :=
  match zone with
  | utc => 0
  | fixed offset => offset
  | named z => z.table.millisAt instant
  | platform => Platform.table.millisAt instant

/-- The offset of a wall-clock time, both in milliseconds. -/
def offsetAtWall [Platform] (zone : Zone) (wall : Int) : Int :=
  match zone with
  | utc => 0
  | fixed offset => offset
  | named z => z.table.millisAtWall wall
  | platform => Platform.table.millisAtWall wall

/-! ## Text -/

/-- The text of a zone. A fixed offset is shown in whole minutes. -/
def text : Zone → String
  | utc => "UTC"
  | fixed offset =>
    String.ofList ((if offset < 0 then '-' else '+')
      :: Text.padded 2 (offset.natAbs / 3600000)
      ++ ':' :: Text.padded 2 (offset.natAbs % 3600000 / 60000))
  | named z => z.name
  | platform => "local"

/-- The magnitude in milliseconds of an offset written as two digits of hours or as two digits
of hours and two of minutes. Colons do not count, wherever they stand. -/
def offsetMagnitude? (cs : List Char) : Option Nat :=
  let digits := cs.filter (· != ':')
  if !digits.all Char.isDigit then none
  else
    let parts : Option (Nat × Nat) :=
      match digits.length with
      | 2 => some (Nat.ofDigitChars 10 digits 0, 0)
      | 4 => some (Nat.ofDigitChars 10 (digits.take 2) 0, Nat.ofDigitChars 10 (digits.drop 2) 0)
      | _ => none
    match parts with
    | some (hours, minutes) =>
      if 18 < hours ∨ 59 < minutes then none else some (hours * 3600000 + minutes * 60000)
    | none => none

/-- The zone a text names: `UTC` or `Z`, `local`, an offset with its sign, or a zone's name.
Blanks around it are ignored; a refusal names the text without them. -/
def read (text : String) : Except CalendarError Zone :=
  let cs := Text.trim text.toList
  let trimmed := String.ofList cs
  let refusal : Except CalendarError Zone := .error (.unknownZone trimmed)
  if Text.sameName trimmed "utc" || trimmed == "Z" then .ok utc
  else if Text.sameName trimmed "local" then .ok platform
  else
    match cs with
    | '+' :: rest =>
      match offsetMagnitude? rest with
      | some n => .ok (fixed n)
      | none => refusal
    | '-' :: rest =>
      match offsetMagnitude? rest with
      | some n => .ok (fixed (-(n : Int)))
      | none => refusal
    | _ =>
      match NamedZone.all.find? (·.name == trimmed) with
      | some z => .ok (named z)
      | none => refusal

end Zone

end TypedRows.Calendar
