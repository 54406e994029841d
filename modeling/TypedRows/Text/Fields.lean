import TypedRows.Number.Power

/-!
# Cutting a text into fields

The texts of dates, clock times and offsets are digits with separators between them. This
module holds the cuts at a separator, the reading and writing of unsigned decimal fields, and
the comparison of names that ignores the case of ASCII letters.

## Main definitions

* `TypedRows.Text.cut` — a text before and after its first separator.
* `TypedRows.Text.splitAtMost` — a text cut at its first separators, a given number of times.
* `TypedRows.Text.natural?` — the number a non-empty string of ASCII digits denotes.
* `TypedRows.Text.padded` — the decimal digits of a number, filled up with zeros.
* `TypedRows.Text.sameName` — equality of names up to the case of ASCII letters.

## Main results

* `TypedRows.Text.cut_cases`, `TypedRows.Text.splitAtMost_two_cases` — the parts of a text that is
  cut at separators.
* `TypedRows.Text.natural?_padded` — what `padded` writes, `natural?` reads.
* `TypedRows.Text.length_padded` — a number that is not too great fills the width.
-/

set_option autoImplicit false

namespace TypedRows.Text

/-- The part before the first separator and, if there is a separator, the part after it. -/
def cut (isSeparator : Char → Bool) : List Char → List Char × Option (List Char)
  | [] => ([], none)
  | c :: cs =>
    if isSeparator c then ([], some cs)
    else
      let (before, after) := cut isSeparator cs
      (c :: before, after)

/-- The fields between separators, with at most `cuts` cuts: the last field holds what is
left, further separators included. There is always a first field. -/
def splitAtMost (separator : Char) : (cuts : Nat) → List Char → List (List Char)
  | 0, cs => [cs]
  | cuts + 1, cs =>
    match cut (· == separator) cs with
    | (field, none) => [field]
    | (field, some rest) => field :: splitAtMost separator cuts rest

/-- The value of a non-empty string of ASCII digits. -/
def natural? (cs : List Char) : Option Nat :=
  if cs.isEmpty || !cs.all Char.isDigit then none else some (Nat.ofDigitChars 10 cs 0)

/-- The decimal digits of `n`, with zeros in front up to `width` characters. -/
def padded (width n : Nat) : List Char :=
  (Nat.toDigits 10 n).leftpad width '0'

/-- Two names are the same when they differ at most in the case of ASCII letters. -/
def sameName (a b : String) : Bool :=
  a.toList.map Char.toLower == b.toList.map Char.toLower

/-! ## Cuts -/

/-- A text without a separator is not cut. -/
theorem cut_eq_of_not_mem {isSeparator : Char → Bool} {cs : List Char}
    (h : ∀ c ∈ cs, isSeparator c = false) : cut isSeparator cs = (cs, none) := by
  induction cs with
  | nil => rfl
  | cons c cs ih =>
    simp only [List.mem_cons, forall_eq_or_imp] at h
    simp [cut, h.1, ih h.2]

/-- A text is cut at its first separator. -/
theorem cut_append_cons {isSeparator : Char → Bool} {before : List Char} {c : Char}
    (rest : List Char) (h : ∀ x ∈ before, isSeparator x = false) (hc : isSeparator c = true) :
    cut isSeparator (before ++ c :: rest) = (before, some rest) := by
  induction before with
  | nil => simp [cut, hc]
  | cons x xs ih =>
    simp only [List.mem_cons, forall_eq_or_imp] at h
    simp [cut, h.1, ih h.2]

/-- A text has no separator, or it is cut at the first one. -/
theorem cut_cases (isSeparator : Char → Bool) (cs : List Char) :
    (cut isSeparator cs = (cs, none) ∧ ∀ c ∈ cs, isSeparator c = false)
      ∨ ∃ before c rest, cut isSeparator cs = (before, some rest) ∧ cs = before ++ c :: rest
        ∧ (∀ x ∈ before, isSeparator x = false) ∧ isSeparator c = true := by
  induction cs with
  | nil => exact .inl ⟨rfl, by simp⟩
  | cons c cs ih =>
    by_cases hc : isSeparator c = true
    · exact .inr ⟨[], c, cs, by simp [cut, hc], rfl, by simp, hc⟩
    · rcases ih with ⟨hcut, hall⟩ | ⟨before, x, rest, hcut, hcs, hbefore, hx⟩
      · exact .inl ⟨by simp [cut, hc, hcut], List.forall_mem_cons.2 ⟨by simpa using hc, hall⟩⟩
      · exact .inr ⟨c :: before, x, rest, by simp [cut, hc, hcut], by rw [hcs]; rfl,
          List.forall_mem_cons.2 ⟨by simpa using hc, hbefore⟩, hx⟩

/-- The field before the first separator is cut off. -/
theorem splitAtMost_append_cons {separator : Char} {field : List Char} (cuts : Nat)
    (rest : List Char) (h : separator ∉ field) :
    splitAtMost separator (cuts + 1) (field ++ separator :: rest)
      = field :: splitAtMost separator cuts rest := by
  have hfield : ∀ c ∈ field, (c == separator) = false := fun c hc => by
    simpa using ne_of_mem_of_not_mem hc h
  rw [splitAtMost, cut_append_cons rest hfield (by simp)]

/-- Without a separator all of a text is one field. -/
theorem splitAtMost_of_not_mem {separator : Char} {field : List Char} (cuts : Nat)
    (h : separator ∉ field) : splitAtMost separator cuts field = [field] := by
  have hfield : ∀ c ∈ field, (c == separator) = false := fun c hc => by
    simpa using ne_of_mem_of_not_mem hc h
  cases cuts with
  | zero => rfl
  | succ cuts => rw [splitAtMost, cut_eq_of_not_mem hfield]

/-- A text with at most two cuts has one, two or three fields. -/
theorem splitAtMost_two_cases (separator : Char) (cs : List Char) :
    (splitAtMost separator 2 cs = [cs] ∧ separator ∉ cs)
      ∨ (∃ first second, splitAtMost separator 2 cs = [first, second]
        ∧ cs = first ++ separator :: second ∧ separator ∉ first ∧ separator ∉ second)
      ∨ ∃ first second third, splitAtMost separator 2 cs = [first, second, third]
        ∧ cs = first ++ separator :: second ++ separator :: third
        ∧ separator ∉ first ∧ separator ∉ second := by
  have hmem {field : List Char} (h : ∀ c ∈ field, (c == separator) = false) : separator ∉ field :=
    fun hmem => by simpa using h separator hmem
  rcases cut_cases (· == separator) cs with ⟨-, hcs⟩ | ⟨first, c, rest, -, rfl, hfirst, hc⟩
  · exact .inl ⟨splitAtMost_of_not_mem 2 (hmem hcs), hmem hcs⟩
  · obtain rfl : c = separator := by simpa using hc
    rw [splitAtMost_append_cons 1 rest (hmem hfirst)]
    rcases cut_cases (· == c) rest with ⟨-, hrest⟩ | ⟨second, d, third, -, rfl, hsecond, hd⟩
    · rw [splitAtMost_of_not_mem 1 (hmem hrest)]
      exact .inr (.inl ⟨first, rest, rfl, rfl, hmem hfirst, hmem hrest⟩)
    · obtain rfl : d = c := by simpa using hd
      rw [splitAtMost_append_cons 0 third (hmem hsecond)]
      exact .inr (.inr ⟨first, second, third, rfl, by simp, hmem hfirst, hmem hsecond⟩)

/-! ## Decimal fields -/

/-- A padded number has a digit. -/
theorem padded_ne_nil (width n : Nat) : padded width n ≠ [] := by
  simp [padded, List.leftpad]

/-- A padded number is made of digits. -/
theorem isDigit_of_mem_padded {width n : Nat} {c : Char} (h : c ∈ padded width n) :
    c.isDigit = true := by
  simp only [padded, List.leftpad, List.mem_append, List.mem_replicate] at h
  rcases h with ⟨_, rfl⟩ | h
  · decide
  · exact Nat.isDigit_of_mem_toDigits (Nat.zero_lt_succ 9) (Nat.le_refl 10) h

/-- A number that is not too great is written with as many characters as the width says. -/
theorem length_padded {width n : Nat} (hwidth : 0 < width) (hn : n < 10 ^ width) :
    (padded width n).length = width := by
  have hle : (Nat.toDigits 10 n).length ≤ width :=
    (Nat.length_toDigits_le_iff (by decide) hwidth).2 hn
  rw [padded, List.length_leftpad]
  omega

/-- The number of a non-empty string of digits. -/
theorem natural?_of_isDigit {cs : List Char} (hne : cs ≠ []) (h : ∀ c ∈ cs, c.isDigit = true) :
    natural? cs = some (Nat.ofDigitChars 10 cs 0) := by
  have hall : cs.all Char.isDigit = true := List.all_eq_true.2 h
  have hempty : cs.isEmpty = false := List.isEmpty_eq_false_iff.2 hne
  simp [natural?, hall, hempty]

/-- The number of a field and the digits that it is made of. -/
theorem natural?_eq_some_iff {cs : List Char} {n : Nat} :
    natural? cs = some n
      ↔ cs ≠ [] ∧ (∀ c ∈ cs, c.isDigit = true) ∧ Nat.ofDigitChars 10 cs 0 = n := by
  simp [natural?, and_assoc]

/-- No field of digits holds a separator. -/
theorem not_mem_of_natural? {cs : List Char} {n : Nat} (h : natural? cs = some n) {c : Char}
    (hc : c.isDigit = false) : c ∉ cs := fun hmem => by
  rw [(natural?_eq_some_iff.1 h).2.1 c hmem] at hc
  cases hc

/-- The digits that `padded` writes denote the number, whatever the width. -/
theorem ofDigitChars_padded (width n : Nat) : Nat.ofDigitChars 10 (padded width n) 0 = n := by
  simp [padded, List.leftpad, Nat.ofDigitChars_append, Nat.ofDigitChars_replicate_zero,
    Nat.ofDigitChars_ten_toDigits]

/-- Reading takes back what `padded` writes, whatever the width. -/
theorem natural?_padded (width n : Nat) : natural? (padded width n) = some n := by
  rw [natural?_of_isDigit (padded_ne_nil width n) fun c hc => isDigit_of_mem_padded hc,
    ofDigitChars_padded]

end TypedRows.Text
