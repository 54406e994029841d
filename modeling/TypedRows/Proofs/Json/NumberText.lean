import TypedRows.Json.Scalar
import TypedRows.Json.Writer
import TypedRows.Proofs.Number.ShortestDigits

/-!
# Numbers as JSON text

A number is read as the parts that it is written with: a sign, the digits before and after the point
and an exponent. Of an integer they are the integer. Of a float they are the digits of its shortest
decimal, at which the reader arrives in two steps with their own rounding.

## Main definitions

* `TypedRows.JsonReader.NumberParts.chars` — the text of the parts of a number.
* `TypedRows.FloatValue.written` — the significand and the exponent that a float is written with.
* `TypedRows.Binary64.reread?`, `TypedRows.Numeral.reread?` — the float that the text of a float is
  read as, and the number that the text of a number is.

## Main results

* `TypedRows.JsonReader.readNumberParts_chars` — parts are read from their text.
* `TypedRows.Numeral.readNumber_chars` — numbers are read from their text.
-/

set_option autoImplicit false

namespace TypedRows

namespace JsonReader

/-! ## The parts of a number -/

/-- **A text that no number goes on with.** -/
def EndsNumber (rest : List Char) : Prop :=
  ∀ c ∈ rest.head?, c.isDigit = false ∧ c ≠ '.' ∧ c ≠ 'e' ∧ c ≠ 'E'

/-- Digits are read up to the first character that is none. -/
lemma readDigits_append {digits rest : List Char} (hdigits : ∀ c ∈ digits, c.isDigit = true)
    (hne : digits ≠ []) (hrest : ∀ c ∈ rest.head?, c.isDigit = false) :
    readDigits (digits ++ rest) = .ok (digits, rest) := by
  have htake : rest.takeWhile Char.isDigit = [] := by
    cases rest with
    | nil => rfl
    | cons c rest => rw [List.takeWhile_cons_of_neg (by simp [hrest c rfl])]
  have hdrop : rest.dropWhile Char.isDigit = rest := by
    cases rest with
    | nil => rfl
    | cons c rest => rw [List.dropWhile_cons_of_neg (by simp [hrest c rfl])]
  rw [readDigits, List.takeWhile_append_of_pos hdigits, List.dropWhile_append_of_pos hdigits, htake,
    hdrop, List.append_nil]
  cases digits with
  | nil => exact absurd rfl hne
  | cons c digits => rfl

namespace NumberParts

/-- The digits after the point, behind the point. -/
def fractionChars (p : NumberParts) : List Char :=
  p.fraction.elim [] ('.' :: ·)

/-- The exponent, with a sign even if it is positive. -/
def exponentChars (p : NumberParts) : List Char :=
  p.exponent.elim [] fun e => 'e' :: (if e < 0 then '-' else '+') :: Nat.toDigits 10 e.natAbs

/-- The text of the parts of a number. -/
def chars (p : NumberParts) : List Char :=
  (if p.negative then ['-'] else []) ++ (p.integer ++ (p.fractionChars ++ p.exponentChars))

/-- The parts of numbers of the grammar: digits, none of them missing, and no zero in front. -/
structure WellFormed (p : NumberParts) : Prop where
  integer_isDigit : ∀ c ∈ p.integer, c.isDigit = true
  integer_ne_nil : p.integer ≠ []
  no_leading_zero : p.integer.head? = some '0' → p.integer.length = 1
  fraction_isDigit : ∀ digits ∈ p.fraction, digits ≠ [] ∧ ∀ c ∈ digits, c.isDigit = true

end NumberParts

variable {p : NumberParts} {rest : List Char}

/-- The exponent is read from its text. -/
lemma readExponent_exponentChars (p : NumberParts) (hrest : EndsNumber rest) :
    readExponent (p.exponentChars ++ rest) = .ok (p.exponent, rest) := by
  cases hp : p.exponent with
  | none =>
    rw [NumberParts.exponentChars, hp]
    cases rest with
    | nil => rfl
    | cons c rest =>
      obtain ⟨-, -, he, hE⟩ := hrest c rfl
      simp [readExponent, he, hE]
  | some e =>
    have hdigits : readDigits (Nat.toDigits 10 e.natAbs ++ rest)
        = .ok (Nat.toDigits 10 e.natAbs, rest) :=
      readDigits_append (fun c hc => Nat.isDigit_of_mem_toDigits (by omega) (by omega) hc)
        Nat.toDigits_ne_nil fun c hc => (hrest c hc).1
    have hvalue : Nat.ofDigitChars 10 (Nat.toDigits 10 e.natAbs) 0 = e.natAbs :=
      Nat.ofDigitChars_ten_toDigits
    rw [NumberParts.exponentChars, hp]
    by_cases hneg : e < 0
    · have he : -(e.natAbs : Int) = e := by omega
      simp only [Option.elim_some, if_pos hneg, List.cons_append, readExponent, hdigits, hvalue, he,
        bind, Except.bind]
      rfl
    · have he : (e.natAbs : Int) = e := by omega
      simp only [Option.elim_some, if_neg hneg, List.cons_append, readExponent, hdigits, hvalue, he,
        bind, Except.bind]
      rfl

/-- The digits after the point are read from their text. -/
lemma readFraction_fractionChars (hp : p.WellFormed)
    (hrest : ∀ c ∈ rest.head?, c.isDigit = false ∧ c ≠ '.') :
    readFraction (p.fractionChars ++ rest) = .ok (p.fraction, rest) := by
  cases hf : p.fraction with
  | none =>
    rw [NumberParts.fractionChars, hf]
    cases rest with
    | nil => rfl
    | cons c rest =>
      have hpoint := (hrest c rfl).2
      simp only [Option.elim_none, List.nil_append]
      unfold readFraction
      split
      · next h => exact absurd (List.cons.inj h).1 hpoint
      · rfl
  | some digits =>
    obtain ⟨hne, hdigits⟩ := hp.fraction_isDigit digits hf
    rw [NumberParts.fractionChars, hf]
    simp only [Option.elim_some, List.cons_append, readFraction,
      readDigits_append hdigits hne fun c hc => (hrest c hc).1, bind, Except.bind]
    rfl

/-- The exponent does not begin with a digit or a point. -/
lemma head?_exponentChars_append (p : NumberParts) (hrest : EndsNumber rest) :
    ∀ c ∈ (p.exponentChars ++ rest).head?, c.isDigit = false ∧ c ≠ '.' := by
  cases hp : p.exponent with
  | none =>
    rw [NumberParts.exponentChars, hp]
    exact fun c hc => ⟨(hrest c hc).1, (hrest c hc).2.1⟩
  | some e =>
    intro c hc
    obtain rfl : 'e' = c := by simpa [NumberParts.exponentChars, hp] using hc
    decide

/-- The fraction does not begin with a digit. -/
lemma head?_fractionChars_append (p : NumberParts) (hrest : EndsNumber rest) :
    ∀ c ∈ (p.fractionChars ++ (p.exponentChars ++ rest)).head?, c.isDigit = false := by
  cases hp : p.fraction with
  | none =>
    rw [NumberParts.fractionChars, hp]
    exact fun c hc => (head?_exponentChars_append p hrest c hc).1
  | some digits =>
    intro c hc
    obtain rfl : '.' = c := by simpa [NumberParts.fractionChars, hp] using hc
    decide

/-- **The parts of a number are read from their text.** -/
theorem readNumberParts_chars (hp : p.WellFormed) (hrest : EndsNumber rest) :
    readNumberParts (p.chars ++ rest) = .ok (p, rest) := by
  have hinteger := readDigits_append hp.integer_isDigit hp.integer_ne_nil
    (head?_fractionChars_append p hrest)
  have hzero : ¬ (p.integer.head? == some '0' && p.integer.length != 1) = true := by
    intro h
    rw [Bool.and_eq_true, beq_iff_eq, bne_iff_ne] at h
    exact h.2 (hp.no_leading_zero h.1)
  have hfraction := readFraction_fractionChars hp (head?_exponentChars_append p hrest)
  have hexponent := readExponent_exponentChars p hrest
  have hsign (negative : Bool) (h : p.negative = negative) :
      p = ⟨negative, p.integer, p.fraction, p.exponent⟩ := by rw [← h]
  rw [NumberParts.chars]
  cases hnegative : p.negative with
  | true =>
    simp only [↓reduceIte, List.cons_append, List.nil_append, List.append_assoc]
    rw [readNumberParts]
    simp only [hinteger, hzero, hfraction, hexponent, bind, Except.bind, Bool.false_eq_true,
      ↓reduceIte, pure, Except.pure, ← hsign true hnegative]
  | false =>
    simp only [Bool.false_eq_true, ↓reduceIte, List.nil_append, List.append_assoc]
    rw [readNumberParts]
    · simp only [hinteger, hzero, hfraction, hexponent, bind, Except.bind, Bool.false_eq_true,
        ↓reduceIte, pure, Except.pure, ← hsign false hnegative]
    · intro cs hcs
      obtain ⟨c, digits, hdigits⟩ := List.exists_cons_of_ne_nil hp.integer_ne_nil
      rw [hdigits] at hcs
      obtain rfl : c = '-' := (List.cons.inj hcs).1
      exact absurd (hp.integer_isDigit '-' (by simp [hdigits])) (by decide)

/-! ## Significands and exponents -/

/-- More digits make a number no smaller. -/
lemma le_ofDigitChars (digits : List Char) (n : Nat) : n ≤ Nat.ofDigitChars 10 digits n := by
  rw [Nat.ofDigitChars_eq_ofDigitChars_zero]
  exact (Nat.le_mul_of_pos_left _ (by positivity)).trans (Nat.le_add_right _ _)

/-- Digits that do not leave 64 bits are all taken. -/
lemma appendDigits_eq {digits : List Char} {significand kept : Nat}
    (h : Nat.ofDigitChars 10 digits significand ≤ Numeral.greatest) :
    Numeral.appendDigits significand kept digits
      = (Nat.ofDigitChars 10 digits significand, kept + digits.length) := by
  induction digits generalizing significand kept with
  | nil => simp [Numeral.appendDigits]
  | cons c digits ih =>
    rw [Nat.ofDigitChars_cons] at h ⊢
    have hnext := (le_ofDigitChars digits _).trans h
    rw [Numeral.appendDigits]
    simp only [if_pos hnext, ih h, List.length_cons, Prod.mk.injEq, true_and]
    omega

/-- **Parts that denote a significand and an exponent**, and are not those of an integer. -/
structure NumberParts.Denotes (p : NumberParts) (significand : Nat) (exponent : Int) : Prop where
  wellFormed : p.WellFormed
  not_integer : (p.fraction.isNone && p.exponent.isNone) = false
  significand_eq : Nat.ofDigitChars 10 (p.integer ++ p.fraction.getD []) 0 = significand
  exponent_eq : p.exponent.getD 0 - (p.fraction.getD []).length = exponent

/-- Parts that are not those of an integer are read as a scaled significand. -/
lemma NumberParts.Denotes.ofParts?_eq {significand : Nat} {exponent : Int}
    (h : p.Denotes significand exponent) (hfits : significand ≤ Numeral.greatest) :
    Numeral.ofParts? p.negative p.integer p.fraction p.exponent
      = (Numeral.scaled? significand exponent).map
        fun f => .float (if p.negative then f.neg else f) := by
  have hsignificand := h.significand_eq
  rw [Nat.ofDigitChars_append] at hsignificand
  have hinteger := (le_ofDigitChars (p.fraction.getD []) _).trans (hsignificand.trans_le hfits)
  rw [Numeral.ofParts?, h.not_integer]
  simp only [Bool.false_and, Bool.false_eq_true, ↓reduceIte, Numeral.floatOfParts?,
    appendDigits_eq hinteger, appendDigits_eq (hsignificand.trans_le hfits), hsignificand,
    Nat.zero_add, Nat.sub_self, Nat.cast_zero, Int.add_zero, h.exponent_eq]

/-! ## The texts of decimals -/

/-- The digits of a positive number do not begin with a zero. -/
lemma head?_toDigits {n : Nat} (hn : n ≠ 0) : (Nat.toDigits 10 n).head? ≠ some '0' := by
  induction n using Nat.strongRecOn with
  | _ n ih =>
    by_cases hlt : n < 10
    · rw [Nat.toDigits_of_lt_base hlt]
      simpa using hn
    · rw [Nat.toDigits_of_base_le (by omega) (by omega),
        List.head?_append_of_ne_nil _ Nat.toDigits_ne_nil]
      exact ih (n / 10) (by omega) (by omega)

/-- The digits of a number are digits. -/
lemma isDigit_of_mem_toDigits {n : Nat} : ∀ c ∈ Nat.toDigits 10 n, c.isDigit = true :=
  fun _ hc => Nat.isDigit_of_mem_toDigits (by omega) (by omega) hc

variable (negative : Bool) {n : Nat} {place : Int}

/-- A decimal without an exponent whose digits end before the point, which a zero follows. -/
lemma exists_whole (hplace : 0 ≤ place) (hn : n = 0 → place = 0) :
    ∃ p : NumberParts, p.Denotes (n * 10 ^ (place.toNat + 1)) (-1) ∧ p.negative = negative
      ∧ p.chars = (if negative then ['-'] else []) ++ FloatStyle.json.positional n place := by
  refine ⟨⟨negative, Nat.toDigits 10 n ++ List.replicate place.toNat '0', some ['0'], none⟩,
    ⟨⟨?_, ?_, ?_, ?_⟩, rfl, ?_, rfl⟩, rfl, ?_⟩
  · exact fun c hc => Decimal.isDigit_of_mem_digits_zeros hc
  · simp
  · intro hhead
    by_cases hzero : n = 0
    · simp [hzero, hn hzero]
    · rw [List.head?_append_of_ne_nil _ Nat.toDigits_ne_nil] at hhead
      exact absurd hhead (head?_toDigits hzero)
  · rintro digits ⟨⟩
    simp
  · simp only [Option.getD_some, Nat.ofDigitChars_append, Nat.ofDigitChars_ten_toDigits,
      Nat.ofDigitChars_replicate_zero, Nat.ofDigitChars_cons, Nat.ofDigitChars_nil, Nat.sub_self,
      Nat.add_zero]
    ring
  · have hscale : -place ≤ 0 := by omega
    have hending : FloatStyle.json.wholeEnding ∧ 0 ≤ place := ⟨rfl, hplace⟩
    simp [NumberParts.chars, NumberParts.fractionChars, NumberParts.exponentChars,
      FloatStyle.positional, Decimal.digitChars, hscale, hending]

/-- A decimal without an exponent some of whose digits stand after the point. -/
lemma exists_fraction (hplace : place < 0) (hn : n ≠ 0) :
    ∃ p : NumberParts, p.Denotes n place ∧ p.negative = negative
      ∧ p.chars = (if negative then ['-'] else []) ++ FloatStyle.json.positional n place := by
  obtain ⟨k, rfl⟩ : ∃ k : Nat, place = -(k + 1 : Nat) := ⟨(-place).toNat - 1, by omega⟩
  obtain ⟨digits, hdigits⟩ : ∃ digits, Text.padded (k + 1 + 1) n = digits := ⟨_, rfl⟩
  have hlength : k + 1 + 1 ≤ digits.length := by
    rw [← hdigits]
    simp only [Text.padded, List.leftpad, List.length_append, List.length_replicate]
    omega
  have hsplit := List.take_append_drop (digits.length - (k + 1)) digits
  have hall : ∀ c ∈ digits, c.isDigit = true := fun c hc =>
    Text.isDigit_of_mem_padded (hdigits ▸ hc)
  refine ⟨⟨negative, digits.take (digits.length - (k + 1)),
    some (digits.drop (digits.length - (k + 1))), none⟩, ⟨⟨?_, ?_, ?_, ?_⟩, rfl, ?_, ?_⟩, rfl, ?_⟩
  · exact fun c hc => hall c (List.mem_of_mem_take hc)
  · exact List.ne_nil_of_length_pos (by rw [List.length_take]; omega)
  · intro hhead
    rw [List.length_take]
    by_cases hshort : (Nat.toDigits 10 n).length ≤ k + 1 + 1
    · rw [← hdigits, Text.padded, List.length_leftpad]
      omega
    · rw [List.head?_take, if_neg (by omega), ← hdigits, Text.padded, List.leftpad,
        Nat.sub_eq_zero_of_le (by omega)] at hhead
      exact absurd hhead (head?_toDigits hn)
  · rintro _ ⟨⟩
    refine ⟨List.ne_nil_of_length_pos (by rw [List.length_drop]; omega), fun c hc =>
      hall c (List.mem_of_mem_drop hc)⟩
  · rw [Option.getD_some, hsplit, ← hdigits, Text.ofDigitChars_padded]
  · simp only [Option.getD_some, Option.getD_none, List.length_drop]
    omega
  · have hscale : ¬ (-(-(k + 1 : Nat) : Int) ≤ 0) := by omega
    have hending : ¬ (FloatStyle.json.wholeEnding ∧ (0 : Int) ≤ -(k + 1 : Nat)) := by omega
    rw [FloatStyle.positional, if_neg hending, Decimal.digitChars, if_neg hscale]
    simp [NumberParts.chars, NumberParts.fractionChars, NumberParts.exponentChars, hdigits]

/-- A decimal with an exponent. -/
lemma exists_scientific (n : Nat) (place : Int) :
    ∃ p : NumberParts, p.Denotes n place ∧ p.negative = negative
      ∧ p.chars = (if negative then ['-'] else []) ++ FloatStyle.json.scientific n place := by
  obtain ⟨d, digits, hdigits⟩ := List.exists_cons_of_ne_nil (Nat.toDigits_ne_nil (n := n) (b := 10))
  have hall : ∀ c ∈ d :: digits, c.isDigit = true := hdigits ▸ isDigit_of_mem_toDigits
  have hvalue : Nat.ofDigitChars 10 (d :: digits) 0 = n := by
    rw [← hdigits, Nat.ofDigitChars_ten_toDigits]
  refine ⟨⟨negative, [d], if digits = [] then none else some digits, some (place + digits.length)⟩,
    ⟨⟨?_, by simp, fun _ => rfl, ?_⟩, ?_, ?_, ?_⟩, rfl, ?_⟩
  · simpa using hall d (by simp)
  · intro fraction hfraction
    change (if digits = [] then none else some digits) = some fraction at hfraction
    split_ifs at hfraction with hnil
    obtain rfl := Option.some.inj hfraction
    exact ⟨hnil, fun c hc => hall c (by simp [hc])⟩
  · simp
  · split_ifs with hnil
    · simpa [hnil] using hvalue
    · exact hvalue
  · split_ifs with hnil
    · simp [hnil]
    · simp
  · have hexponent : place + (((d :: digits).length : Nat) - 1 : Int) = place + digits.length := by
      simp
    have hsign (e : Int) : (if e < 0 then ['-'] else if FloatStyle.json.plusSign then ['+'] else [])
        = [if e < 0 then '-' else '+'] := by
      split_ifs <;> first | rfl | contradiction
    rw [FloatStyle.scientific, hdigits]
    simp only [hexponent, hsign]
    cases digits with
    | nil => simp [NumberParts.chars, NumberParts.fractionChars, NumberParts.exponentChars]
    | cons c digits =>
      simp [NumberParts.chars, NumberParts.fractionChars, NumberParts.exponentChars]

end JsonReader

/-! ## The texts of floats -/

/-- The significand and the exponent that a decimal is written with. A whole number without an
exponent ends in a zero after the point. -/
def FloatStyle.writtenDecimal (n : Nat) (place : Int) : Nat × Int :=
  if 0 ≤ place ∧ place + ((Nat.toDigits 10 n).length - 1) < 16 then (n * 10 ^ (place.toNat + 1), -1)
  else (n, place)

/-- The significand and the exponent that a float is written with. -/
def FloatStyle.written (m : Nat) (q : Int) : Nat × Int :=
  if m = 0 then (0, -1)
  else writtenDecimal (FloatLayout.double.shortest json.tie m q).1
    (FloatLayout.double.shortest json.tie m q).2

/-- **What the text of a float is read as**: the significand as a float times or divided by a power
of ten as a float. -/
def Binary64.reread? (x : Binary64) : Option Binary64 :=
  match x.value with
  | .finite negative m q =>
    (Numeral.scaled? (FloatStyle.written m q).1 (FloatStyle.written m q).2).map
      fun f => if negative then f.neg else f
  | _ => none

namespace JsonReader

open FloatLayout (double)
open FloatStyle (json written writtenDecimal)

/-- The digits of the shortest decimal of a positive float are not zero. -/
lemma shortest_ne_zero {m : Nat} {q : Int} (hc : double.Canonical m q) (hm : m ≠ 0)
    (tie : TieRule) : (double.shortest tie m q).1 ≠ 0 := by
  intro hzero
  have hpos := FloatLayout.pos_of_contains (FloatLayout.contains_shortest hc hm tie).1 hm
  rw [hzero, Nat.cast_zero, zero_mul] at hpos
  exact lt_irrefl _ hpos

/-- A whole number without an exponent fits 64 bits with its zeros. -/
lemma writtenDecimal_le {n : Nat} {place : Int} (hn : n ≤ 2 * 10 ^ 18) :
    (writtenDecimal n place).1 ≤ Numeral.greatest := by
  rw [writtenDecimal]
  split_ifs with hwhole
  · obtain ⟨hplace, hfirst⟩ := hwhole
    obtain ⟨k, rfl⟩ := Int.eq_ofNat_of_zero_le hplace
    obtain ⟨length, hlength⟩ : ∃ length, (Nat.toDigits 10 n).length = length := ⟨_, rfl⟩
    have hpos : 0 < (Nat.toDigits 10 n).length := Nat.length_toDigits_pos
    have hlt : n < 10 ^ length :=
      (Nat.length_toDigits_le_iff (by omega) (hlength ▸ hpos)).1 hlength.le
    rw [hlength] at hfirst
    calc n * 10 ^ (k + 1) ≤ 10 ^ length * 10 ^ (k + 1) := Nat.mul_le_mul_right _ hlt.le
      _ = 10 ^ (length + (k + 1)) := (pow_add 10 length (k + 1)).symm
      _ ≤ 10 ^ 17 := Nat.pow_le_pow_right (by omega) (by omega)
      _ ≤ Numeral.greatest := by decide
  · exact hn.trans (by decide)

/-- The parts of the text of a positive decimal. -/
lemma exists_decimal_parts (negative : Bool) {n : Nat} (place : Int) {first : Int} (hn : n ≠ 0)
    (hfirst : place + ((Nat.toDigits 10 n).length - 1) = first) :
    ∃ p : NumberParts, p.Denotes (writtenDecimal n place).1 (writtenDecimal n place).2
      ∧ p.negative = negative
      ∧ p.chars = (if negative then ['-'] else [])
        ++ if json.positionalFrom.all (· ≤ first) && json.positionalBelow.all (first < ·)
          then json.positional n place else json.scientific n place := by
  have hpos : 0 < (Nat.toDigits 10 n).length := Nat.length_toDigits_pos
  have hpositional : (json.positionalFrom.all (· ≤ first) && json.positionalBelow.all (first < ·))
      = decide (-5 ≤ first ∧ first < 16) := (Bool.decide_and _ _).symm
  rw [writtenDecimal, hfirst, hpositional]
  by_cases hplace : 0 ≤ place
  · by_cases hbelow : first < 16
    · rw [if_pos ⟨hplace, hbelow⟩, decide_eq_true (by omega), if_pos rfl]
      exact exists_whole negative hplace fun hzero => absurd hzero hn
    · rw [if_neg fun h => hbelow h.2, decide_eq_false (by omega), if_neg Bool.false_ne_true]
      exact exists_scientific negative n place
  · rw [if_neg fun h => hplace h.1]
    by_cases hnear : -5 ≤ first ∧ first < 16
    · rw [decide_eq_true hnear, if_pos rfl]
      exact exists_fraction negative (not_le.1 hplace) hn
    · rw [decide_eq_false hnear, if_neg Bool.false_ne_true]
      exact exists_scientific negative n place

/-- The parts of the text of a float denote what it is written with. -/
lemma exists_parts (negative : Bool) {m : Nat} {q : Int} (hc : double.Canonical m q) :
    ∃ p : NumberParts, p.Denotes (written m q).1 (written m q).2 ∧ p.negative = negative
      ∧ p.chars = json.chars .double (.finite negative m q) := by
  by_cases hm : m = 0
  · subst hm
    obtain ⟨p, hp, hnegative, hchars⟩ := exists_whole negative (n := 0) le_rfl fun _ => rfl
    exact ⟨p, hp, hnegative, hchars⟩
  · obtain ⟨p, hp, hnegative, hchars⟩ := exists_decimal_parts negative
      (double.shortest json.tie m q).2 (shortest_ne_zero hc hm json.tie) rfl
    refine ⟨p, ?_, hnegative, ?_⟩
    · rwa [written, if_neg hm]
    · rw [hchars, FloatStyle.chars]
      simp only [if_neg hm]

/-- What a float is written with fits 64 bits. -/
lemma written_le {m : Nat} {q : Int} (hc : double.Canonical m q) :
    (written m q).1 ≤ Numeral.greatest := by
  rw [written]
  split_ifs with hm
  · exact Nat.zero_le _
  · exact writtenDecimal_le (FloatLayout.contains_shortest hc hm json.tie).2

/-- The parts of the text of a finite float are read as the float that the reader makes of them. -/
lemma exists_parts_float {x : Binary64} (hx : x.value.isFinite = true) :
    ∃ p : NumberParts, p.WellFormed ∧ (Numeral.float x).chars = p.chars
      ∧ Numeral.ofParts? p.negative p.integer p.fraction p.exponent = x.reread?.map .float := by
  cases hvalue : x.value with
  | nan | infinite => simp [hvalue, FloatValue.isFinite] at hx
  | finite negative m q =>
    obtain ⟨hc, -⟩ := FloatLayout.canonical_of_decode x.bits.toNat_lt hvalue
    obtain ⟨p, hp, hnegative, hchars⟩ := exists_parts negative hc
    refine ⟨p, hp.wellFormed, by rw [Numeral.chars, if_pos hx, hvalue, hchars], ?_⟩
    rw [hp.ofParts?_eq (written_le hc), hnegative, Binary64.reread?, hvalue]
    exact (Option.map_map _ _ _).symm

/-- The parts of the text of an integer of 64 bits are read as the integer. -/
lemma exists_parts_integer {n : Int} (h₁ : -9223372036854775808 ≤ n)
    (h₂ : n ≤ 18446744073709551615) :
    ∃ p : NumberParts, p.WellFormed ∧ (Numeral.integer n).chars = p.chars
      ∧ Numeral.ofParts? p.negative p.integer p.fraction p.exponent = some (.integer n) := by
  refine ⟨⟨decide (n < 0), Nat.toDigits 10 n.natAbs, none, none⟩,
    ⟨isDigit_of_mem_toDigits, Nat.toDigits_ne_nil, fun hhead => ?_, nofun⟩, ?_, ?_⟩
  · by_cases hzero : n.natAbs = 0
    · simp [hzero]
    · exact absurd hhead (head?_toDigits hzero)
  · simp [Numeral.chars, NumberParts.chars, NumberParts.fractionChars, NumberParts.exponentChars]
  · rw [Numeral.ofParts?]
    simp only [Option.isNone_none, Bool.and_self, Bool.true_and, Nat.ofDigitChars_ten_toDigits,
      Numeral.greatest]
    by_cases hneg : n < 0
    · have hvalue : -(n.natAbs : Int) = n := by omega
      rw [if_neg (by simp [hneg]), if_pos (by simp [hneg]; omega), hvalue]
    · have hvalue : (n.natAbs : Int) = n := by omega
      rw [if_pos (by simp [hneg]; omega), hvalue]

end JsonReader

/-! ## Numbers -/

namespace Numeral

open JsonReader

/-- **The numbers that have a text**: integers of 64 bits, with or without a sign, and finite
floats. -/
def HasText : Numeral → Prop
  | integer n => -9223372036854775808 ≤ n ∧ n ≤ 18446744073709551615
  | float x => x.value.isFinite = true

/-- **What the text of a number is read as**, if it is not out of range. -/
def reread? : Numeral → Option Numeral
  | integer n => some (integer n)
  | float x => x.reread?.map float

variable {n : Numeral} {rest : List Char}

/-- The text of a number has the parts that it is read of. -/
lemma exists_parts (h : n.HasText) :
    ∃ p : NumberParts, p.WellFormed ∧ n.chars = p.chars
      ∧ ofParts? p.negative p.integer p.fraction p.exponent = n.reread? := by
  cases n with
  | integer n => exact exists_parts_integer h.1 h.2
  | float x => exact exists_parts_float h

/-- **What numbers are read as from their text.** -/
theorem readNumber_chars (h : n.HasText) (hrest : EndsNumber rest) :
    readNumber (n.chars ++ rest)
      = match n.reread? with
        | some n' => .ok (n', rest)
        | none => .error "number out of range" := by
  obtain ⟨p, hp, hchars, hparts⟩ := exists_parts h
  rw [hchars, readNumber, readNumberParts_chars hp hrest]
  simp only [bind, Except.bind, hparts]
  cases n.reread? <;> rfl

/-- The text of a number begins with a digit or a minus sign. -/
lemma exists_chars_eq (h : n.HasText) :
    ∃ c cs, n.chars = c :: cs ∧ (c.isDigit = true ∨ c = '-') := by
  obtain ⟨p, hp, hchars, -⟩ := exists_parts h
  obtain ⟨c, digits, hdigits⟩ := List.exists_cons_of_ne_nil hp.integer_ne_nil
  have hc := hp.integer_isDigit c (by simp [hdigits])
  rw [hchars, NumberParts.chars, hdigits]
  cases p.negative with
  | true => exact ⟨'-', _, rfl, .inr rfl⟩
  | false => exact ⟨c, _, rfl, .inl hc⟩

end Numeral

end TypedRows
