import TypedRows.Proofs.Calendar.Grammar

/-!
# The grammar of clock times

A clock time is an hour, perhaps a minute and a second after it, and perhaps the digits of the
second after a point. Readers cut a text at its first point before they look for colons, so that the point
need not stand after a second: an hour, or an hour and a minute, with digits after a point are read
too. These are the only texts outside of the grammar that are read.

## Main definitions

* `TypedRows.Calendar.IsClockText` — the texts of the grammar.
* `TypedRows.Calendar.HasEarlyFraction` — texts with a fraction before there is a second.
* `TypedRows.Calendar.KeepsClockGrammar` — texts that are read as the grammar has it.

## Main results

* `TypedRows.Calendar.exists_readTime_iff` — the texts that are read.
* `TypedRows.Calendar.clock_grammar_is_kept_iff`
-/

set_option autoImplicit false

namespace TypedRows.Calendar

/-! ## Grammar -/

/-- Digits, at least one. -/
structure IsDigits (cs : List Char) : Prop where
  ne_nil : cs ≠ []
  isDigit : ∀ c ∈ cs, c.isDigit = true

/-- A field of digits whose number is not above the greatest one. -/
structure IsField (greatest : Nat) (cs : List Char) : Prop extends IsDigits cs where
  le : Nat.ofDigitChars 10 cs 0 ≤ greatest

/-- The texts `H`, `H:M`, `H:M:S` and `H:M:S.F` of an hour, a minute and a second of the clock and
of digits of the second. -/
inductive IsClockText : List Char → Prop where
  | hour {H : List Char} : IsField 23 H → IsClockText H
  | minute {H M : List Char} : IsField 23 H → IsField 59 M → IsClockText (H ++ ':' :: M)
  | second {H M S : List Char} : IsField 23 H → IsField 59 M → IsField 59 S →
    IsClockText (H ++ ':' :: M ++ ':' :: S)
  | fraction {H M S F : List Char} : IsField 23 H → IsField 59 M → IsField 59 S → IsDigits F →
    IsClockText (H ++ ':' :: M ++ ':' :: S ++ '.' :: F)

/-- The texts `H.F` and `H:M.F`, which have digits after a point but no second before it. -/
inductive HasEarlyFraction : List Char → Prop where
  | hour {H F : List Char} : IsField 23 H → IsDigits F → HasEarlyFraction (H ++ '.' :: F)
  | minute {H M F : List Char} : IsField 23 H → IsField 59 M → IsDigits F →
    HasEarlyFraction (H ++ ':' :: M ++ '.' :: F)

/-- A text is read exactly when it is one of the grammar, blanks around it aside, and is refused in
its own name. -/
structure KeepsClockGrammar (text : String) (precision : Nat) : Prop where
  accepted_iff : (∃ time, readTime text precision = .ok time) ↔ IsClockText (Text.trim text.toList)
  refused : BlamesText text (readTime text precision)

variable {cs H M S : List Char} {text : String} {precision greatest : Nat}

/-! ## Fields -/

/-- Digits are what a number is read of. -/
lemma isDigits_iff : IsDigits cs ↔ (Text.natural? cs).isSome := by
  rw [Option.isSome_iff_exists]
  constructor
  · rintro ⟨hne, hdigits⟩
    exact ⟨_, Text.natural?_of_isDigit hne hdigits⟩
  · rintro ⟨n, hn⟩
    obtain ⟨hne, hdigits, -⟩ := Text.natural?_eq_some_iff.1 hn
    exact ⟨hne, hdigits⟩

/-- A field is what a number up to its bound is read of. -/
lemma isField_iff : IsField greatest cs ↔ ∃ n, Text.natural? cs = some n ∧ n ≤ greatest := by
  constructor
  · rintro ⟨⟨hne, hdigits⟩, hle⟩
    exact ⟨_, Text.natural?_of_isDigit hne hdigits, hle⟩
  · rintro ⟨n, hn, hle⟩
    obtain ⟨hne, hdigits, rfl⟩ := Text.natural?_eq_some_iff.1 hn
    exact ⟨⟨hne, hdigits⟩, hle⟩

/-- Separators are no digits. -/
lemma IsDigits.count_eq_zero (h : IsDigits cs) {c : Char} (hc : c.isDigit = false) :
    cs.count c = 0 :=
  List.count_eq_zero.2 fun hmem => by simp [h.isDigit c hmem] at hc

/-! ## Texts that are read -/

/-- Fields write an hour, a minute and a second of the clock. -/
def WritesShownClock (clock : List Char) : Prop :=
  ∃ h m s, WritesClock clock h m s ∧ h ≤ 23 ∧ m ≤ 59 ∧ s ≤ 59

/-- An hour by itself is a clock time that can be shown. -/
lemma writesShownClock_hour (hH : IsField 23 H) : WritesShownClock H := by
  obtain ⟨h, hH, hh⟩ := isField_iff.1 hH
  exact ⟨h, 0, 0, .hour hH, hh, by decide, by decide⟩

/-- An hour and a minute are a clock time that can be shown. -/
lemma writesShownClock_minute (hH : IsField 23 H) (hM : IsField 59 M) :
    WritesShownClock (H ++ ':' :: M) := by
  obtain ⟨h, hH, hh⟩ := isField_iff.1 hH
  obtain ⟨m, hM, hm⟩ := isField_iff.1 hM
  exact ⟨h, m, 0, .minute hH hM, hh, hm, by decide⟩

/-- An hour, a minute and a second are a clock time that can be shown. -/
lemma writesShownClock_second (hH : IsField 23 H) (hM : IsField 59 M) (hS : IsField 59 S) :
    WritesShownClock (H ++ ':' :: M ++ ':' :: S) := by
  obtain ⟨h, hH, hh⟩ := isField_iff.1 hH
  obtain ⟨m, hM, hm⟩ := isField_iff.1 hM
  obtain ⟨s, hS, hs⟩ := isField_iff.1 hS
  exact ⟨h, m, s, .second hH hM hS, hh, hm, hs⟩

/-- Such fields are read, also with a fraction after them. -/
lemma WritesShownClock.exists_readTime {clock : List Char} (h : WritesShownClock clock)
    (fraction : Option (List Char))
    (htext : Text.trim text.toList = clock ++ fraction.elim [] ('.' :: ·))
    (hfraction : ∀ digits ∈ fraction, IsDigits digits) (precision : Nat) :
    ∃ time, readTime text precision = .ok time := by
  obtain ⟨h, m, s, hclock, hh, hm, hs⟩ := h
  have hwrites : WritesTime text.toList h m s fraction :=
    ⟨clock, htext, hclock, fun digits hd => isDigits_iff.1 (hfraction digits hd)⟩
  exact ⟨_, readTimeChars_eq_ok_iff.2 ⟨h, m, s, fraction, hwrites, hh, hm, hs, rfl⟩⟩

/-- A text of the grammar of clock times is read. -/
lemma IsClockText.exists_readTime (h : IsClockText (Text.trim text.toList)) (precision : Nat) :
    ∃ time, readTime text precision = .ok time := by
  generalize htext : Text.trim text.toList = cs at h
  cases h with
  | hour hH =>
    exact (writesShownClock_hour hH).exists_readTime none (by simpa using htext) (by simp) precision
  | minute hH hM =>
    exact (writesShownClock_minute hH hM).exists_readTime none (by simpa using htext) (by simp)
      precision
  | second hH hM hS =>
    exact (writesShownClock_second hH hM hS).exists_readTime none (by simpa using htext) (by simp)
      precision
  | @fraction _ _ _ F hH hM hS hF =>
    exact (writesShownClock_second hH hM hS).exists_readTime (some F) htext (by simpa using hF)
      precision

/-- A text whose point stands after an hour or a minute is read, too. -/
lemma HasEarlyFraction.exists_readTime (h : HasEarlyFraction (Text.trim text.toList))
    (precision : Nat) : ∃ time, readTime text precision = .ok time := by
  generalize htext : Text.trim text.toList = cs at h
  cases h with
  | @hour _ F hH hF =>
    exact (writesShownClock_hour hH).exists_readTime (some F) htext (by simpa using hF) precision
  | @minute _ _ F hH hM hF =>
    exact (writesShownClock_minute hH hM).exists_readTime (some F) htext (by simpa using hF)
      precision

/-- **The texts that are read** are those of the grammar and those with an early fraction. -/
theorem exists_readTime_iff : (∃ time, readTime text precision = .ok time)
    ↔ IsClockText (Text.trim text.toList) ∨ HasEarlyFraction (Text.trim text.toList) := by
  constructor
  · rintro ⟨time, htime⟩
    obtain ⟨h, m, s, fraction, ⟨clock, htext, hclock, hfraction⟩, hh, hm, hs, -⟩ :=
      readTimeChars_eq_ok_iff.1 htime
    have hfield {greatest n : Nat} {cs : List Char} (h : Text.natural? cs = some n)
        (hle : n ≤ greatest) : IsField greatest cs := isField_iff.2 ⟨n, h, hle⟩
    rw [htext]
    cases fraction with
    | none =>
      rw [Option.elim_none, List.append_nil]
      left
      rcases hclock with hH | ⟨hH, hM⟩ | ⟨hH, hM, hS⟩
      · exact .hour (hfield hH hh)
      · exact .minute (hfield hH hh) (hfield hM hm)
      · exact .second (hfield hH hh) (hfield hM hm) (hfield hS hs)
    | some F =>
      have hF : IsDigits F := isDigits_iff.2 (hfraction F rfl)
      rw [Option.elim_some]
      rcases hclock with hH | ⟨hH, hM⟩ | ⟨hH, hM, hS⟩
      · exact .inr (.hour (hfield hH hh) hF)
      · exact .inr (.minute (hfield hH hh) (hfield hM hm) hF)
      · exact .inl (.fraction (hfield hH hh) (hfield hM hm) (hfield hS hs) hF)
  · rintro (h | h)
    · exact h.exists_readTime precision
    · exact h.exists_readTime precision

/-! ## Colons -/

/-- In the grammar a point stands after two colons. -/
lemma IsClockText.count_colon (h : IsClockText cs) (hpoint : '.' ∈ cs) : cs.count ':' = 2 := by
  have hnone {F : List Char} (hF : IsDigits F) : F.count ':' = 0 ∧ '.' ∉ F :=
    ⟨hF.count_eq_zero (by decide), List.count_eq_zero.1 (hF.count_eq_zero (by decide))⟩
  cases h with
  | hour hH => exact absurd hpoint (hnone hH.toIsDigits).2
  | minute hH hM =>
    simp [(hnone hH.toIsDigits).2, (hnone hM.toIsDigits).2] at hpoint
  | second hH hM hS =>
    simp [(hnone hH.toIsDigits).2, (hnone hM.toIsDigits).2, (hnone hS.toIsDigits).2] at hpoint
  | fraction hH hM hS hF =>
    simp [(hnone hH.toIsDigits).1, (hnone hM.toIsDigits).1, (hnone hS.toIsDigits).1, (hnone hF).1]

/-- An early fraction stands after fewer colons. -/
lemma HasEarlyFraction.count_colon (h : HasEarlyFraction cs) :
    '.' ∈ cs ∧ cs.count ':' ≤ 1 := by
  have hnone {F : List Char} (hF : IsDigits F) : F.count ':' = 0 := hF.count_eq_zero (by decide)
  cases h with
  | hour hH hF => simp [hnone hH.toIsDigits, hnone hF]
  | minute hH hM hF => simp [hnone hH.toIsDigits, hnone hM.toIsDigits, hnone hF]

/-- **No text of the grammar has an early fraction.** -/
lemma HasEarlyFraction.not_isClockText (h : HasEarlyFraction cs) : ¬ IsClockText cs := by
  intro hclock
  obtain ⟨hpoint, hcolons⟩ := h.count_colon
  have hcount := hclock.count_colon hpoint
  omega

/-! ## All texts -/

/-- **The grammar of clock times is kept unless a fraction comes early.** A text is read exactly
when it is one of the grammar, and is refused in its own name when it is not, exactly when it has no
digits after a point that stands after no second. The texts that are read are those of the grammar and the
ones with such digits; whatever is refused is refused in the name of the text.

**Proof sketch.** A text is cut at its first point into a clock time of up to three fields and the
digits (`readTimeChars_eq_ok_iff`). Both kinds of texts are told apart by the number of their
colons. -/
theorem clock_grammar_is_kept_iff (text : String) (precision : Nat) :
    (KeepsClockGrammar text precision ↔ ¬ HasEarlyFraction (Text.trim text.toList))
      ∧ ((∃ time, readTime text precision = .ok time)
        ↔ IsClockText (Text.trim text.toList) ∨ HasEarlyFraction (Text.trim text.toList))
      ∧ BlamesText text (readTime text precision) := by
  have hblames : BlamesText text (readTime text precision) :=
    blamesText_readTimeChars text text.toList precision
  refine ⟨⟨fun hkeeps hearly => ?_, fun hearly => ⟨?_, hblames⟩⟩, exists_readTime_iff, hblames⟩
  · exact hearly.not_isClockText (hkeeps.accepted_iff.1 (hearly.exists_readTime precision))
  · rw [exists_readTime_iff]
    exact or_iff_left hearly

/-- The last millisecond of a day is written in the grammar. -/
theorem clock_grammar_is_kept_in_the_last_millisecond :
    (∃ time, readTime " 23:59:59.999 " 3 = .ok time)
      ∧ KeepsClockGrammar " 23:59:59.999 " 3 := by
  have hclock : IsClockText (Text.trim " 23:59:59.999 ".toList) :=
    .fraction (H := ['2', '3']) (M := ['5', '9']) (S := ['5', '9']) (F := ['9', '9', '9'])
      (isField_iff.2 ⟨23, rfl, by decide⟩) (isField_iff.2 ⟨59, rfl, by decide⟩)
      (isField_iff.2 ⟨59, rfl, by decide⟩) (isDigits_iff.2 rfl)
  obtain ⟨hkeeps, hread, -⟩ := clock_grammar_is_kept_iff " 23:59:59.999 " 3
  exact ⟨hread.2 (.inl hclock), hkeeps.2 fun hearly => hearly.not_isClockText hclock⟩

/-- Digits after the point of an hour are not those of the hour but of a second, and the text is
read as half a second past twelve. -/
theorem fraction_of_an_hour_is_read_as_one_of_a_second :
    readTime "12.5" 3 = .ok 43200500 ∧ ¬ IsClockText (Text.trim "12.5".toList)
      ∧ ¬ KeepsClockGrammar "12.5" 3 := by
  have hearly : HasEarlyFraction (Text.trim "12.5".toList) :=
    .hour (H := ['1', '2']) (isField_iff.2 ⟨12, rfl, by decide⟩) (isDigits_iff.2 rfl)
  have hread : readTime "12.5" 3 = .ok 43200500 := by decide
  exact ⟨hread, hearly.not_isClockText,
    fun h => hearly.not_isClockText (h.accepted_iff.1 ⟨_, hread⟩)⟩

end TypedRows.Calendar
