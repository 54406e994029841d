import Mathlib.Tactic.Common
import TypedRows.Calendar.Text
import TypedRows.Proofs.Outcome

/-!
# The grammars of dates and clock times

A date is three fields of digits with dashes between them, the first of which may have a sign; a
clock time is up to three fields with colons between them and perhaps the digits of a second after
a point. Readers cut a text at the first separators and look at the fields one after another. No
field holds a separator, so that the cuts find the fields of every text of the grammar, and what a
text writes is determined by it. What is read is what is written when it is within bounds, and
whatever is refused is refused in the name of the whole text.

## Main definitions

* `TypedRows.Calendar.WritesDate`, `TypedRows.Calendar.WritesTime` — what a text writes.
* `TypedRows.Calendar.NamesDay` — the years, months and days that name a day.
* `TypedRows.Calendar.BlamesText` — refusals that name a text.

## Main results

* `TypedRows.Calendar.WritesDate.unique` — a text writes one date at most.
* `TypedRows.Calendar.readDateChars_eq_ok_iff`, `TypedRows.Calendar.readTimeChars_eq_ok_iff` — the
  texts that are read and what they are read as.
* `TypedRows.Calendar.blamesText_readDateChars`, `TypedRows.Calendar.blamesText_readTimeChars`
-/

set_option autoImplicit false

namespace TypedRows.Calendar

/-! ## What a text writes -/

/-- The text `Y-M-D` of three numbers. -/
def WritesDateFields (cs : List Char) (y month day : Nat) : Prop :=
  ∃ Y M D, cs = Y ++ '-' :: M ++ '-' :: D ∧ Text.natural? Y = some y
    ∧ Text.natural? M = some month ∧ Text.natural? D = some day

/-- The text `[-]Y-M-D` of a year, a month and a day, between blanks. -/
inductive WritesDate (cs : List Char) : Int → Nat → Nat → Prop where
  | unsigned {y month day : Nat} :
    WritesDateFields (Text.trim cs) y month day → WritesDate cs y month day
  | signed {y month day : Nat} {body : List Char} :
    Text.trim cs = '-' :: body → WritesDateFields body y month day → WritesDate cs (-y) month day

/-- The text `H[:M[:S]]` of an hour, a minute and a second, of which the later ones may be left
out. -/
inductive WritesClock : List Char → Nat → Nat → Nat → Prop where
  | hour {H : List Char} {h : Nat} : Text.natural? H = some h → WritesClock H h 0 0
  | minute {H M : List Char} {h m : Nat} : Text.natural? H = some h → Text.natural? M = some m →
    WritesClock (H ++ ':' :: M) h m 0
  | second {H M S : List Char} {h m s : Nat} : Text.natural? H = some h →
    Text.natural? M = some m → Text.natural? S = some s →
    WritesClock (H ++ ':' :: M ++ ':' :: S) h m s

/-- The text `H[:M[:S]][.F]` of a clock time and the digits of a second, between blanks. -/
def WritesTime (cs : List Char) (h m s : Nat) (fraction : Option (List Char)) : Prop :=
  ∃ clock, Text.trim cs = clock ++ fraction.elim [] ('.' :: ·) ∧ WritesClock clock h m s
    ∧ ∀ digits ∈ fraction, (Text.natural? digits).isSome

/-- A year, a month and a day name a day when the month is one of the twelve and the day one of
the month's. -/
def NamesDay (year : Int) (month day : Nat) : Prop :=
  1 ≤ month ∧ month ≤ 12 ∧ 1 ≤ day ∧ day ≤ daysInMonth year month

instance (year : Int) (month day : Nat) : Decidable (NamesDay year month day) := by
  unfold NamesDay; infer_instance

/-! ## Fields -/

section Fields

variable {cs : List Char} {part : TextPart} {text : String} {field : Option (List Char)}
  {greatest n : Nat}

/-- A field is read when it is there, a number and within its bound. -/
lemma readField_eq_ok_iff : readField part greatest text field = .ok n
    ↔ field.bind Text.natural? = some n ∧ n ≤ greatest := by
  rw [readField]
  cases field.bind Text.natural? with
  | none => simp
  | some k =>
    by_cases hk : k ≤ greatest <;> simp only [hk, if_true, if_false, Except.ok.injEq,
      Option.some.injEq, reduceCtorEq, false_iff] <;> omega

/-- A field that is left out counts as one that holds zero. -/
lemma readOptionalField_eq_ok_iff : readOptionalField part text field = .ok n
    ↔ field.elim (some 0) Text.natural? = some n ∧ n ≤ maxField := by
  cases field with
  | none =>
    simp only [readOptionalField, Option.isNone_none, if_true, Option.elim_none, Except.ok.injEq,
      Option.some.injEq]
    exact ⟨fun h => ⟨h, h ▸ Nat.zero_le _⟩, And.left⟩
  | some cs =>
    rw [readOptionalField, Option.isNone_some, if_neg Bool.false_ne_true, readField_eq_ok_iff]
    rfl

/-- A field of digits is not empty and does not begin with a dash. -/
lemma head?_append_of_natural? (h : Text.natural? cs = some n) (rest : List Char) :
    ((cs ++ rest).head? == some '-') = false := by
  obtain ⟨hne, hdigits, -⟩ := Text.natural?_eq_some_iff.1 h
  obtain ⟨c, cs, rfl⟩ := List.exists_cons_of_ne_nil hne
  have hc : c ≠ '-' := by
    rintro rfl
    cases hdigits _ List.mem_cons_self
  simpa using hc

end Fields

/-! ## Dates -/

section Dates

variable {cs : List Char} {text : String} {year : Int} {month day : Nat}

/-- **The cuts find the fields of a date.** -/
lemma writesDateFields_iff {y : Nat} : WritesDateFields cs y month day
    ↔ (Text.splitAtMost '-' 2 cs)[0]?.bind Text.natural? = some y
      ∧ (Text.splitAtMost '-' 2 cs)[1]?.bind Text.natural? = some month
      ∧ (Text.splitAtMost '-' 2 cs)[2]?.bind Text.natural? = some day := by
  constructor
  · rintro ⟨Y, M, D, rfl, hY, hM, hD⟩
    have hdash {field : List Char} {n : Nat} (h : Text.natural? field = some n) : '-' ∉ field :=
      Text.not_mem_of_natural? h (by decide)
    rw [List.append_assoc, List.cons_append, Text.splitAtMost_append_cons 1 _ (hdash hY),
      Text.splitAtMost_append_cons 0 _ (hdash hM), Text.splitAtMost_of_not_mem 0 (hdash hD)]
    exact ⟨hY, hM, hD⟩
  · rintro ⟨hY, hM, hD⟩
    rcases Text.splitAtMost_two_cases '-' cs with ⟨hsplit, -⟩ | ⟨Y, M, hsplit, -⟩
      | ⟨Y, M, D, hsplit, hcs, -⟩
    · rw [hsplit] at hM
      cases hM
    · rw [hsplit] at hD
      cases hD
    · rw [hsplit] at hY hM hD
      exact ⟨Y, M, D, hcs, hY, hM, hD⟩

/-- A text that writes a date has a sign exactly when it begins with a dash. -/
lemma writesDate_iff : WritesDate cs year month day
    ↔ ∃ y : Nat, year = (if (Text.trim cs).head? == some '-' then -(y : Int) else y)
      ∧ WritesDateFields
        (if (Text.trim cs).head? == some '-' then (Text.trim cs).tail else Text.trim cs)
        y month day := by
  constructor
  · rintro (h | ⟨hcs, h⟩)
    · have hhead : ((Text.trim cs).head? == some '-') = false := by
        obtain ⟨Y, M, D, hcs, hY, -⟩ := h
        rw [hcs, List.append_assoc]
        exact head?_append_of_natural? hY _
      rw [hhead]
      exact ⟨_, rfl, h⟩
    · rw [hcs]
      exact ⟨_, rfl, h⟩
  · rintro ⟨y, rfl, h⟩
    by_cases hhead : (Text.trim cs).head? = some '-'
    · obtain ⟨body, hbody⟩ := List.head?_eq_some_iff.1 hhead
      rw [hbody] at h ⊢
      exact .signed hbody h
    · rw [beq_false_of_ne hhead] at h ⊢
      exact .unsigned h

/-- **A text writes one date at most.** -/
lemma WritesDate.unique {year' : Int} {month' day' : Nat} (h : WritesDate cs year month day)
    (h' : WritesDate cs year' month' day') : year = year' ∧ month = month' ∧ day = day' := by
  obtain ⟨y, rfl, hfields⟩ := writesDate_iff.1 h
  obtain ⟨y', rfl, hfields'⟩ := writesDate_iff.1 h'
  obtain ⟨hy, hmonth, hday⟩ := writesDateFields_iff.1 hfields
  obtain ⟨hy', hmonth', hday'⟩ := writesDateFields_iff.1 hfields'
  obtain rfl := Option.some.inj (hy.symm.trans hy')
  exact ⟨rfl, Option.some.inj (hmonth.symm.trans hmonth'), Option.some.inj (hday.symm.trans hday')⟩

/-- No month is longer than 31 days. -/
lemma daysInMonth_le (year : Int) (month : Nat) : daysInMonth year month ≤ 31 := by
  unfold daysInMonth
  split <;> (try split) <;> omega

/-- **The dates that are read** are those that name a day, in a year that a text may name. -/
theorem readDateChars_eq_ok_iff {date : EpochDay} : readDateChars text cs = .ok date
    ↔ ∃ year month day, WritesDate cs year month day ∧ year.natAbs ≤ maxYear
      ∧ NamesDay year month day ∧ YearMonthDay.epochDay ⟨Int32.ofInt year, month, day⟩ = date := by
  rw [readDateChars]
  simp only [bind_eq_ok_iff, throw_or_eq_ok_iff, readField_eq_ok_iff, pure, Except.pure,
    Except.ok.injEq]
  constructor
  · rintro ⟨y, ⟨hy, hyear⟩, month, ⟨hm, -⟩, day, ⟨hd, -⟩, hmonth, hday, hdate⟩
    refine ⟨_, month, day, writesDate_iff.2 ⟨y, rfl, writesDateFields_iff.2 ⟨hy, hm, hd⟩⟩, ?_,
      ⟨by omega, by omega, by omega, by omega⟩, hdate⟩
    split_ifs <;> omega
  · rintro ⟨year, month, day, hwrites, hyear, ⟨hm₁, hm₂, hd₁, hd₂⟩, hdate⟩
    obtain ⟨y, rfl, hfields⟩ := writesDate_iff.1 hwrites
    obtain ⟨hy, hm, hd⟩ := writesDateFields_iff.1 hfields
    have hdays := daysInMonth_le (if (Text.trim cs).head? == some '-' then -(y : Int) else y) month
    have hmax : 31 ≤ maxField := by decide
    refine ⟨y, ⟨hy, ?_⟩, month, ⟨hm, by omega⟩, day, ⟨hd, by omega⟩, by omega, by omega, hdate⟩
    split_ifs at hyear <;> omega

end Dates

/-! ## Clock times -/

section Times

variable {cs clock : List Char} {text : String} {h m s : Nat} {fraction : Option (List Char)}

/-- **The cuts find the fields of a clock time.** -/
lemma writesClock_iff : WritesClock cs h m s
    ↔ (Text.splitAtMost ':' 2 cs)[0]?.bind Text.natural? = some h
      ∧ (Text.splitAtMost ':' 2 cs)[1]?.elim (some 0) Text.natural? = some m
      ∧ (Text.splitAtMost ':' 2 cs)[2]?.elim (some 0) Text.natural? = some s := by
  have hcolon {field : List Char} {n : Nat} (h : Text.natural? field = some n) : ':' ∉ field :=
    Text.not_mem_of_natural? h (by decide)
  constructor
  · rintro (hH | ⟨hH, hM⟩ | ⟨hH, hM, hS⟩)
    · rw [Text.splitAtMost_of_not_mem 2 (hcolon hH)]
      exact ⟨hH, rfl, rfl⟩
    · rw [Text.splitAtMost_append_cons 1 _ (hcolon hH), Text.splitAtMost_of_not_mem 1 (hcolon hM)]
      exact ⟨hH, hM, rfl⟩
    · rw [List.append_assoc, List.cons_append, Text.splitAtMost_append_cons 1 _ (hcolon hH),
        Text.splitAtMost_append_cons 0 _ (hcolon hM), Text.splitAtMost_of_not_mem 0 (hcolon hS)]
      exact ⟨hH, hM, hS⟩
  · rintro ⟨hH, hM, hS⟩
    rcases Text.splitAtMost_two_cases ':' cs with ⟨hsplit, -⟩ | ⟨H, M, hsplit, rfl, -⟩
      | ⟨H, M, S, hsplit, rfl, -⟩
    · rw [hsplit] at hH hM hS
      obtain rfl := Option.some.inj hM
      obtain rfl := Option.some.inj hS
      exact .hour hH
    · rw [hsplit] at hH hM hS
      obtain rfl := Option.some.inj hS
      exact .minute hH hM
    · rw [hsplit] at hH hM hS
      exact .second hH hM hS

/-- There is no point in the fields of a clock time. -/
lemma WritesClock.not_mem_point (hclock : WritesClock clock h m s) : '.' ∉ clock := by
  have hpoint {field : List Char} {n : Nat} (h : Text.natural? field = some n) : '.' ∉ field :=
    Text.not_mem_of_natural? h (by decide)
  rcases hclock with hH | ⟨hH, hM⟩ | ⟨hH, hM, hS⟩
  · exact hpoint hH
  · simp [hpoint hH, hpoint hM]
  · simp [hpoint hH, hpoint hM, hpoint hS]

/-- A clock time without a point is what stands before the point of a text. -/
lemma cut_point_eq_iff (hclock : '.' ∉ clock) : Text.cut (· == '.') cs = (clock, fraction)
    ↔ cs = clock ++ fraction.elim [] ('.' :: ·) := by
  have hpoint : ∀ c ∈ clock, (c == '.') = false := fun c hc => by
    simpa using ne_of_mem_of_not_mem hc hclock
  constructor
  · intro hcut
    rcases Text.cut_cases (· == '.') cs with ⟨hcs, -⟩ | ⟨before, c, rest, hcs, rfl, -, hc⟩
    · obtain ⟨rfl, rfl⟩ := Prod.mk.inj (hcs.symm.trans hcut)
      simp
    · obtain ⟨rfl, rfl⟩ := Prod.mk.inj (hcs.symm.trans hcut)
      obtain rfl : c = '.' := by simpa using hc
      rfl
  · rintro rfl
    cases fraction with
    | none => simpa using Text.cut_eq_of_not_mem hpoint
    | some digits => exact Text.cut_append_cons digits hpoint (by decide)

/-- A text that writes a time is cut into its clock time and its digits. -/
lemma writesTime_iff : WritesTime cs h m s fraction
    ↔ ∃ clock, Text.cut (· == '.') (Text.trim cs) = (clock, fraction) ∧ WritesClock clock h m s
      ∧ ∀ digits ∈ fraction, (Text.natural? digits).isSome := by
  constructor
  · rintro ⟨clock, hcs, hclock, hfraction⟩
    exact ⟨clock, (cut_point_eq_iff hclock.not_mem_point).2 hcs, hclock, hfraction⟩
  · rintro ⟨clock, hcut, hclock, hfraction⟩
    exact ⟨clock, (cut_point_eq_iff hclock.not_mem_point).1 hcut, hclock, hfraction⟩

/-- The fraction that a text writes is made of digits. -/
lemma WritesTime.isDigit {digits : List Char} (hwrites : WritesTime cs h m s (some digits)) :
    ∀ c ∈ digits, c.isDigit = true := by
  obtain ⟨-, -, -, hdigits⟩ := hwrites
  obtain ⟨n, hn⟩ := Option.isSome_iff_exists.1 (hdigits digits rfl)
  exact (Text.natural?_eq_some_iff.1 hn).2.1

/-- **The times that are read** are those of a clock, with the digits of a second rounded. -/
theorem readTimeChars_eq_ok_iff {precision : Nat} {time : Int} :
    readTimeChars text cs precision = .ok time
      ↔ ∃ h m s fraction, WritesTime cs h m s fraction ∧ h ≤ 23 ∧ m ≤ 59 ∧ s ≤ 59
        ∧ time = h * millisPerHour + m * millisPerMinute + s * millisPerSecond
          + (fraction.elim 0 (roundFraction · precision) : Nat) := by
  have hmax : 59 ≤ maxField := by decide
  simp only [writesTime_iff, writesClock_iff]
  rw [readTimeChars]
  generalize Text.cut (· == '.') (Text.trim cs) = parts
  obtain ⟨clock, fraction⟩ := parts
  simp only [bind_eq_ok_iff, throw_or_eq_ok_iff, readField_eq_ok_iff, readOptionalField_eq_ok_iff,
    pure, Except.pure, Prod.mk.injEq]
  constructor
  · rintro ⟨h, ⟨hH, -⟩, m, ⟨hM, -⟩, s, ⟨hS, -⟩, hh, hm, hs, htime⟩
    cases fraction with
    | none =>
      exact ⟨h, m, s, none, ⟨clock, ⟨rfl, rfl⟩, ⟨hH, hM, hS⟩, by simp⟩, by omega, by omega,
        by omega, (Except.ok.inj htime).symm⟩
    | some digits =>
      by_cases hdigits : (Text.natural? digits).isNone
      · simp only [if_pos hdigits] at htime
        cases htime
      · simp only [if_neg hdigits] at htime
        have hsome : ∀ F ∈ some digits, (Text.natural? F).isSome := by
          simpa [Option.isSome_iff_ne_none] using hdigits
        exact ⟨h, m, s, some digits, ⟨clock, ⟨rfl, rfl⟩, ⟨hH, hM, hS⟩, hsome⟩, by omega,
          by omega, by omega, (Except.ok.inj htime).symm⟩
  · rintro ⟨h, m, s, _, ⟨_, ⟨rfl, rfl⟩, ⟨hH, hM, hS⟩, hsome⟩, hh, hm, hs, rfl⟩
    refine ⟨h, ⟨hH, by omega⟩, m, ⟨hM, by omega⟩, s, ⟨hS, by omega⟩, by omega, by omega,
      by omega, ?_⟩
    cases fraction with
    | none => rfl
    | some digits =>
      have hdigits : ¬ (Text.natural? digits).isNone := by
        simpa [Option.isSome_iff_ne_none] using hsome digits rfl
      simp only [if_neg hdigits]
      rfl

end Times

/-! ## Refusals -/

section Refusals

variable {α β : Type} {text : String}

/-- Whatever an outcome refuses, it refuses in the name of a text and of a part of it. -/
def BlamesText (text : String) (outcome : Except CalendarError α) : Prop :=
  ∀ e, outcome = .error e → ∃ part, e = .invalidText part text

/-- What succeeds blames no text. -/
lemma blamesText_ok (a : α) : BlamesText text (.ok a) := fun _ h => by cases h

/-- An error about the whole text blames it. -/
lemma blamesText_invalidText (part : TextPart) :
    BlamesText text (.error (.invalidText part text) : Except CalendarError α) := by
  rintro e h
  exact ⟨part, (Except.error.inj h).symm⟩

/-- Two steps blame the text when each of them does. -/
lemma BlamesText.bind {outcome : Except CalendarError α} {f : α → Except CalendarError β}
    (h : BlamesText text outcome) (hf : ∀ a, BlamesText text (f a)) :
    BlamesText text (outcome >>= f) := by
  intro e he
  rcases bind_eq_error_iff.1 he with he | ⟨a, -, he⟩
  · exact h e he
  · exact hf a e he

/-- A check that blames the text may stand before a step that does. -/
lemma BlamesText.check {outcome : Except CalendarError α} {p : Prop} [Decidable p]
    (part : TextPart) (h : BlamesText text outcome) :
    BlamesText text (if p then do throw (.invalidText part text); outcome else outcome) := by
  intro e he
  rcases throw_or_eq_error_iff.1 he with ⟨-, rfl⟩ | ⟨-, he⟩
  · exact ⟨part, rfl⟩
  · exact h e he

/-- A field that cannot be read is the fault of the whole text. -/
lemma blamesText_readField (part : TextPart) (greatest : Nat) (field : Option (List Char)) :
    BlamesText text (readField part greatest text field) := by
  rw [readField]
  split
  · split
    · exact blamesText_ok _
    · exact blamesText_invalidText part
  · exact blamesText_invalidText part

/-- An optional field that cannot be read is the fault of the whole text. -/
lemma blamesText_readOptionalField (part : TextPart) (field : Option (List Char)) :
    BlamesText text (readOptionalField part text field) := by
  rw [readOptionalField]
  split
  · exact blamesText_ok _
  · exact blamesText_readField part maxField field

/-- **Dates are refused in the name of the whole text.** -/
theorem blamesText_readDateChars (text : String) (cs : List Char) :
    BlamesText text (readDateChars text cs) := by
  rw [readDateChars]
  exact .bind (blamesText_readField _ _ _) fun y => .bind (blamesText_readField _ _ _)
    fun month => .bind (blamesText_readField _ _ _) fun day =>
      .check .month (.check .day (blamesText_ok _))

/-- **Clock times are refused in the name of the whole text.** -/
theorem blamesText_readTimeChars (text : String) (cs : List Char) (precision : Nat) :
    BlamesText text (readTimeChars text cs precision) := by
  rw [readTimeChars]
  refine .bind (blamesText_readField _ _ _) fun hour =>
    .bind (blamesText_readOptionalField _ _) fun minute =>
      .bind (blamesText_readOptionalField _ _) fun second =>
        .check .hour (.check .minute (.check .second ?_))
  split
  · exact blamesText_ok _
  · split
    · exact blamesText_invalidText .fraction
    · exact blamesText_ok _

end Refusals

end TypedRows.Calendar
