import TypedRows.Proofs.Number.Quantity
import TypedRows.Proofs.Row.Conformance

/-!
# JSON numbers under the tags of integers

A tag whose values are integers refuses a serial value that is a float or a decimal. The value of an
object that names such a tag, and a cell of a JSON row, are not looked at in this way: their numbers
are taken for integers. A number beyond 64 bits is taken for none and is refused there as well, but
a float is cut off towards zero and clamped, so that it is read as if this integer had been written.

## Main definitions

* `TypedRows.Numeral.IsRefused` — a number that no way of reading takes for a value of a tag.

## Main results

* `TypedRows.SerialValue.toLocal_of_integer?` — what a number is read as is decided by the integer
  that it is taken for.
* `TypedRows.Numeral.noninteger_numbers_refused_iff`
-/

set_option autoImplicit false

namespace TypedRows

/-! ## Numbers as integers -/

namespace SerialValue

variable {tag : Tag} {component : Option Tag} {s : SerialValue}

/-- **A number is read as the integer that it is taken for** under an integral tag. -/
lemma toLocal_of_integer? (h : tag.isIntegral = true) {k : Int64} (hk : s.integer? = some k) :
    s.toLocal tag component = (integer k).toLocal tag component := by
  have hs : s.isScalar = true := by cases s <;> first | rfl | cases hk
  have hinteger : s.integral tag = (integer k).integral tag := by rw [integral, hk]; rfl
  rw [toLocal_of_isScalar hs, toLocal_of_isScalar rfl]
  cases tag <;> first | (simp only [scalarLocal, Tag.boxed, hinteger]; done) | cases h

/-- A scalar that is taken for no integer is refused under an integral tag. -/
lemma toLocal_of_integer?_eq_none (h : tag.isIntegral = true) (hs : s.isScalar = true)
    (hk : s.integer? = none) :
    s.toLocal tag component = .error (.mismatch tag .number s.shape) := by
  have hinteger : s.integral tag = .error (.mismatch tag .number s.shape) := by rw [integral, hk]
  rw [toLocal_of_isScalar hs]
  cases tag <;> first | (simp only [scalarLocal, Tag.boxed, hinteger]; rfl) | cases h

/-- An integral tag admits no other scalars than integers. -/
lemma check_of_ne_integer (h : tag.isIntegral = true) (hs : s.isScalar = true)
    (hne : ∀ k, s ≠ integer k) : s.check tag = .error (.mismatch tag.boxed .integer s.shape) := by
  have hexpect : expectation tag.boxed = .integer := by cases tag <;> first | rfl | cases h
  have hholds : tag.holdsNothing = false := by cases tag <;> first | rfl | cases h
  have hshape : s.hasShape tag.boxed = false := by
    cases s <;> first | exact absurd rfl (hne _) | simp [hasShape, hexpect]
  have hnull : s.isNull = false := by cases s <;> first | rfl | cases hs
  rw [check, hnull, hholds, hshape, hexpect]
  rfl

/-- Integers beyond the signed ones of 64 bits are taken for none of these. -/
lemma integer?_ofNumeral_integer {n : Int} (h : ∀ k, ofNumeral (.integer n) ≠ integer k) :
    (ofNumeral (.integer n)).integer? = none := by
  have hn : ¬ n < 2 ^ 63 := fun hn => h _ (if_pos hn)
  have htruncated : (Decimal.ofInt n).truncated = n :=
    Decimal.truncated_of_quantity (Decimal.quantity_ofInt n)
  have hnone : (Decimal.ofInt n).toSigned? 64 = none := by
    refine Option.eq_none_iff_forall_ne_some.2 fun k hk => ?_
    obtain ⟨hpart, -, hhigh⟩ := Decimal.toSigned?_eq_some_iff.1 hk
    rw [← hpart, ← Decimal.truncated_eq, htruncated] at hhigh
    exact hn hhigh
  rw [ofNumeral, if_neg hn, integer?, Decimal.toInt64?, hnone]
  rfl

end SerialValue

/-! ## Refusal -/

namespace Numeral

/-- **A number that is refused** by a tag, in whichever way it arrives: as a serial value, as the
value of an object that names the tag, and in a JSON row as the cell of a column of the tag. -/
structure IsRefused (tag : Tag) (n : Numeral) : Prop where
  serial : ∃ e, Tagged.ofSerial tag (.ofNumeral n) = .error e
  typed : ∃ e, Tagged.ofJson (.ofParts tag (.number n) none) = .error e
  row : ∀ (s : JsonRows) (row : JsonValue) (rest : List JsonValue) (i : Nat) (column : Column),
    s.rows = row :: rest → s.columns[i]? = some column → column.tag = tag →
    JsonRows.rawCell? row i column = .ok (some (.number n)) → ∃ e, s.nextRow.1 = .error e

variable {tag : Tag} {n : Numeral}

/-- The typed value of a number under a tag is that of its local value. -/
lemma ofJson_ofParts_number :
    Tagged.ofJson (.ofParts tag (.number n) none)
      = (SerialValue.ofNumeral n).toLocal tag none >>= Tagged.ofLocal tag := by
  have hnull : (SerialValue.ofNumeral n).isNull = false := by
    have hs := JsonRows.isScalar_ofNumeral n
    cases hv : SerialValue.ofNumeral n <;> first | rfl | (rw [hv] at hs; cases hs)
  rw [Tagged.ofJson_ofParts]
  exact Tagged.throughLocal_none hnull

/-- A row that is handed out has a local value for every cell that is a number. -/
lemma exists_toLocal_of_nextRow {s : JsonRows} {row : JsonValue} {rest : List JsonValue} {i : Nat}
    {column : Column} {row? : Option LocalValue} (hrows : s.rows = row :: rest)
    (hcolumn : s.columns[i]? = some column)
    (hcell : JsonRows.rawCell? row i column = .ok (some (.number n)))
    (h : s.nextRow.1 = .ok row?) :
    ∃ v, (SerialValue.ofNumeral n).toLocal column.tag (column.type.component?.map (·.tag))
      = .ok v := by
  rw [JsonRows.nextRow, hrows] at h
  obtain ⟨v, hv, -⟩ := map_eq_ok_iff.1 (JsonRows.within_eq_ok_iff.1 h)
  obtain ⟨fields, hfields, -⟩ := map_eq_ok_iff.1 hv
  obtain ⟨raw, x, hraw, hx, -⟩ := JsonRows.field_of_decodeFields hfields hcolumn
  rw [hcell] at hraw
  obtain rfl := Except.ok.inj hraw
  exact ⟨x, JsonRows.within_eq_ok_iff.1 hx⟩

/-- A number that is taken for no integer is refused by an integral tag. -/
lemma isRefused_of_integer?_eq_none (h : tag.isIntegral = true)
    (hne : ∀ k, SerialValue.ofNumeral n ≠ .integer k)
    (hnone : (SerialValue.ofNumeral n).integer? = none) : n.IsRefused tag := by
  have hs := JsonRows.isScalar_ofNumeral n
  refine ⟨⟨.mismatch tag.boxed .integer (SerialValue.ofNumeral n).shape, ?_⟩,
    ⟨.mismatch tag .number (SerialValue.ofNumeral n).shape, ?_⟩,
    fun s row rest i column hrows hcolumn htag hcell => ?_⟩
  · rw [Tagged.ofSerial, SerialValue.check_of_ne_integer h hs hne]
    rfl
  · rw [ofJson_ofParts_number, SerialValue.toLocal_of_integer?_eq_none h hs hnone]
    rfl
  · cases hnext : s.nextRow.1 with
    | error e => exact ⟨e, rfl⟩
    | ok row? =>
      obtain ⟨v, hv⟩ := exists_toLocal_of_nextRow hrows hcolumn hcell hnext
      subst htag
      rw [SerialValue.toLocal_of_integer?_eq_none h hs hnone] at hv
      cases hv

/-- **Integral tags and numbers that are no integers.** A number whose serial form is no integer is
refused by an integral tag in every way exactly when it is not a float, that is, when it was written
as an integer beyond the signed ones of 64 bits. As a serial value a float is refused as well. But
in an object and in a JSON row it is read as the integer that it is cut off to, towards zero and
clamped to 64 bits, and this integer is accepted.

**Proof sketch.** The check of serial values looks at their variant. What is read of a number under
an integral tag is decided by the integer that it is taken for, which floats have and decimals of
this size have not. -/
theorem noninteger_numbers_refused_iff (h : tag.isIntegral = true) (n : Numeral) :
    (((∀ k, SerialValue.ofNumeral n ≠ .integer k) → n.IsRefused tag) ↔ ∀ x, n ≠ .float x)
      ∧ ∀ x : Binary64, n = .float x →
        Tagged.ofSerial tag (.ofNumeral n) = .error (.mismatch tag.boxed .integer "float")
        ∧ Tagged.ofJson (.ofParts tag (.number n) none)
          = Tagged.ofJson (.ofParts tag (.number (.integer x.value.toInt64.toInt)) none)
        ∧ (∃ tv, Tagged.ofJson (.ofParts tag (.number n) none) = .ok tv)
        ∧ ∀ column : Column, column.tag = tag →
          JsonRows.decodeCell column (.number n)
            = JsonRows.decodeCell column (.number (.integer x.value.toInt64.toInt)) := by
  have hinteger (k : Int64) : SerialValue.ofNumeral (.integer k.toInt) = .integer k :=
    Except.ok.inj (SerialValue.ofJson_integer k)
  have hread (x : Binary64) (component : Option Tag) :
      (SerialValue.ofNumeral (.float x)).toLocal tag component
        = (SerialValue.ofNumeral (.integer x.value.toInt64.toInt)).toLocal tag component := by
    rw [hinteger]
    exact SerialValue.toLocal_of_integer? h rfl
  have hsame (x : Binary64) : Tagged.ofJson (.ofParts tag (.number (.float x)) none)
      = Tagged.ofJson (.ofParts tag (.number (.integer x.value.toInt64.toInt)) none) := by
    rw [ofJson_ofParts_number, ofJson_ofParts_number, hread]
  have haccepted (k : Int64) :
      ∃ tv, Tagged.ofJson (.ofParts tag (.number (.integer k.toInt)) none) = .ok tv := by
    rw [ofJson_ofParts_number, hinteger]
    cases tag <;> first | exact ⟨_, rfl⟩ | cases h
  refine ⟨⟨fun hrefused x hx => ?_, fun hfloat hne => ?_⟩, ?_⟩
  · subst hx
    obtain ⟨e, he⟩ := (hrefused fun k hk => by cases hk).typed
    obtain ⟨tv, htv⟩ := haccepted x.value.toInt64
    rw [hsame, htv] at he
    cases he
  · cases n with
    | integer n =>
      exact isRefused_of_integer?_eq_none h hne (SerialValue.integer?_ofNumeral_integer hne)
    | float x => exact absurd rfl (hfloat x)
  · rintro x rfl
    refine ⟨?_, hsame x, hsame x ▸ haccepted _, fun column htag => ?_⟩
    · rw [Tagged.ofSerial, SerialValue.check_of_ne_integer h rfl fun k hk => by cases hk]
      rfl
    · subst htag
      exact congrArg (within column.place) (hread x _)

/-- The first integer beyond the signed ones of 64 bits is refused by the tag of these in every
way. -/
theorem noninteger_numbers_refused_beyond_signed :
    Tag.long.isIntegral = true
      ∧ (∀ k, SerialValue.ofNumeral (.integer 9223372036854775808) ≠ .integer k)
      ∧ (integer 9223372036854775808).IsRefused .long := by
  have hlong : Tag.long.isIntegral = true := rfl
  have hne : ∀ k, SerialValue.ofNumeral (.integer 9223372036854775808) ≠ .integer k :=
    fun k hk => by cases hk
  exact ⟨hlong, hne, (noninteger_numbers_refused_iff hlong _).1.2 (fun x hx => by cases hx) hne⟩

/-- Two and a half is refused as a serial value under the tag of integers of 32 bits, but is read as
two as the value of an object and in a JSON row, and `1e300` is read as the greatest integer of 64
bits. -/
theorem fractions_are_cut_off :
    let half : Numeral := .float ⟨0x4004000000000000⟩
    let column : Column := .new 0 "n" (.scalar .integer)
    (∀ k, SerialValue.ofNumeral half ≠ .integer k)
      ∧ Tagged.ofSerial .integer (.ofNumeral half) = .error (.mismatch .integer .integer "float")
      ∧ Tagged.ofJson (.ofParts .integer (.number half) none) = .ok ⟨.integer, .integer 2, none⟩
      ∧ (JsonRows.mk [.array [.number half]] [column] 0).nextRow.1
        = .ok (some (.record [("n", .int 2)]))
      ∧ Tagged.ofJson (.ofParts .long (.number (.float ⟨0x7e37e43c8800759c⟩)) none)
        = .ok ⟨.long, .integer Int64.maxValue, none⟩ := by
  intro half column
  have hhalf : (SerialValue.ofNumeral half).integer? = some 2 := congrArg some (by decide +kernel)
  have hhuge : (SerialValue.ofNumeral (.float ⟨0x7e37e43c8800759c⟩)).integer?
      = some Int64.maxValue := congrArg some (by decide +kernel)
  have hcell : JsonRows.decodeCell column (.number half) = .ok (.int 2) :=
    congrArg (within column.place)
      (@SerialValue.toLocal_of_integer? .integer none _ rfl _ hhalf)
  refine ⟨nofun, rfl, ?_, ?_, ?_⟩
  · rw [ofJson_ofParts_number, SerialValue.toLocal_of_integer? rfl hhalf]
    rfl
  · simp only [JsonRows.nextRow, JsonRows.decodeRow, JsonRows.decodeFields, JsonRows.rawCell?,
      List.getElem?_cons_zero, bind, Except.bind, Option.getD_some, hcell]
    rfl
  · rw [ofJson_ofParts_number, SerialValue.toLocal_of_integer? rfl hhuge]
    rfl

end Numeral

end TypedRows
