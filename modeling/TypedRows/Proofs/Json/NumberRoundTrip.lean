import TypedRows.Proofs.Json.Decimal
import TypedRows.Proofs.Json.SmallNumbers
import TypedRows.Proofs.Json.Text

/-!
# Numbers through JSON text

Doubles leave as the shortest digits that denote them, and so do the decimals that a float shows.
The reader does not round these digits once but works with a significand and a power of ten that are
floats themselves, so that the float that comes back may be a neighbour of the one that left. A
double survives the text exactly when it is not, and so does a decimal that leaves as a float; the
other decimals survive always.

## Main definitions

* `TypedRows.LocalValue.throughText` — what a value comes back as from the text of its JSON form.

## Main results

* `TypedRows.LocalValue.numbers_survive_text_iff`
-/

set_option autoImplicit false

namespace TypedRows

/-! ## The text of a typed value -/

/-- The members of the object of a typed value stand in order. -/
lemma JsonValue.settled_ofParts (tag : Tag) (value : JsonValue) :
    (ofParts tag value none).settled = ofParts tag value.settled none := by
  have hless : ¬ "value" < "type" := by decide +kernel
  have hne : "value" ≠ "type" := by decide +kernel
  simp only [ofParts, settled, settledMembers, Option.toList_none, List.map_nil, List.nil_append,
    Fields.sorted, Fields.insert, List.foldl_cons, List.foldl_nil, if_neg hless, if_neg hne]

namespace LocalValue

/-- **What a value comes back as from the text of its JSON form** under a tag. -/
def throughText (tag : Tag) (v : LocalValue) : Except Error LocalValue := do
  let tv ← Tagged.ofLocal tag v
  let json ← JsonValue.ofText tv.toJson.text
  (← Tagged.ofJson json).toLocal

variable {tag : Tag} {v v' : LocalValue} {s : SerialValue} {value : JsonValue} {reason : String}

/-- A value whose text is read comes back as what its object denotes then. -/
lemma throughText_of_read (hv : Tagged.ofLocal tag v = .ok ⟨tag, s, none⟩)
    (hread : JsonValue.read (JsonValue.ofParts tag s.toJson none).text
      = .ok (.ofParts tag value none)) (hsettled : value.settled = value) :
    throughText tag v
      = SerialValue.ofJson value >>= Tagged.throughLocal tag none >>= Tagged.toLocal := by
  have htext : JsonValue.ofText (⟨tag, s, none⟩ : TypedValue).toJson.text
      = .ok (JsonValue.ofParts tag value none) := by
    rw [JsonValue.ofText, Tagged.toJson, hread]
    simp only [JsonValue.settled_ofParts, hsettled]
  rw [throughText, hv, ← Tagged.ofJson_ofParts]
  simp only [bind, Except.bind, htext]

/-- A value whose text is not read does not come back. -/
lemma throughText_of_error (hv : Tagged.ofLocal tag v = .ok ⟨tag, s, none⟩)
    (hread : JsonValue.read (JsonValue.ofParts tag s.toJson none).text = .error reason) :
    throughText tag v = .error (.of (.json reason)) := by
  have htext : JsonValue.ofText (⟨tag, s, none⟩ : TypedValue).toJson.text
      = .error (.of (.json reason)) := by
    rw [JsonValue.ofText, Tagged.toJson, hread]
  rw [throughText, hv]
  simp only [bind, Except.bind, htext]

/-- A finite double comes back as the float that its text is read as. -/
lemma throughText_double {x : Binary64} (hx : x.value.isFinite = true) :
    throughText .double (.double x)
      = match x.reread? with
        | some y => .ok (.double y)
        | none => .error (.of (.json "number out of range")) := by
  have hv : Tagged.ofLocal .double (.double x) = .ok ⟨.double, .float x, none⟩ := rfl
  have hjson : (SerialValue.float x).toJson = .number (.float x) := by
    rw [SerialValue.toJson, Binary64.toJson, if_pos hx]
  have hread := JsonReader.read_ofParts_number .double (n := .float x) hx
  rw [Numeral.reread?, ← hjson] at hread
  cases hy : x.reread? with
  | none =>
    rw [hy] at hread
    exact throughText_of_error hv hread
  | some y =>
    rw [hy] at hread
    exact throughText_of_read hv hread rfl

end LocalValue

/-! ## Decimals -/

namespace Decimal

variable {d : Decimal} {x : Binary64}

/-- The characters of the plain text of a decimal stand for themselves. -/
lemma isPlain_of_mem_text : ∀ c ∈ d.text.toList, JsonReader.IsPlain c := by
  have hdigit {c : Char} (hc : c.isDigit = true) : JsonReader.IsPlain c := by
    refine ⟨ne_of_isDigit hc (by decide), ne_of_isDigit hc (by decide), ?_⟩
    simp only [Char.isDigit, Bool.and_eq_true, decide_eq_true_eq, UInt32.le_iff_toNat_le] at hc
    exact le_trans (by decide) hc.1
  have hdigits : ∀ c ∈ digitChars d.unscaled.natAbs d.scale.toInt, JsonReader.IsPlain c := by
    intro c hc
    rw [digitChars] at hc
    split_ifs at hc with hs
    · exact hdigit (isDigit_of_mem_digits_zeros hc)
    · rcases List.mem_append.1 hc with hc | hc
      · exact hdigit (Text.isDigit_of_mem_padded (List.mem_of_mem_take hc))
      · rcases List.mem_cons.1 hc with rfl | hc
        · decide
        · exact hdigit (Text.isDigit_of_mem_padded (List.mem_of_mem_drop hc))
  intro c hc
  rw [text, String.toList_ofList] at hc
  rcases List.mem_append.1 hc with hc | hc
  · split_ifs at hc with hsign
    · obtain rfl := List.mem_singleton.1 hc
      decide
    · cases hc
  · exact hdigits c hc

/-- A zero leaves as an integer. -/
lemma toJson_of_unscaled_eq_zero (h : d.unscaled = 0) : d.toJson = .number (.integer 0) := by
  have hwhole : d.isWhole = true := by
    rw [isWhole]
    split_ifs <;> simp [h]
  have hint : d.toInt64? = some 0 := by simp [toInt64?, toSigned?, truncated, h]
  rw [toJson, if_pos hwhole, hint]
  rfl

/-- A decimal that is not whole leaves as the float of it, when this shows the decimal. -/
lemma toJson_of_shown (hwhole : d.isWhole = false) (hfloat : d.toBinary64 = x)
    (hshown : ofBinary64? x = some d) : d.toJson = .number (.float x) := by
  simp [toJson, hwhole, hfloat, hshown]

/-- **A decimal leaves as a float that shows it**, which is not zero, if it leaves as a float. -/
lemma exists_shown_of_toJson (h : d.toJson = .number (.float x)) :
    x.value.isFinite = true ∧ x.value.isZero = false
      ∧ ∃ shown, ofBinary64? x = some shown ∧ shown.sameNumber d = true := by
  have hne : d.unscaled ≠ 0 := by
    intro hzero
    rw [toJson_of_unscaled_eq_zero hzero] at h
    cases h
  rw [toJson] at h
  split at h
  · cases h
  · split at h
    · next shown hshown =>
      split_ifs at h with hsame
      obtain rfl : d.toBinary64 = x := by
        injection h with h
        injection h
      refine ⟨?_, ?_, shown, hshown, hsame⟩
      · cases hx : d.toBinary64.value with
        | finite => rfl
        | nan | infinite => simp [ofBinary64?, hx, ofValue?] at hshown
      · rw [← Bool.not_eq_true]
        intro hzero
        obtain rfl := Option.some.inj (hshown.symm.trans (ofBinary64?_of_isZero hzero))
        have heq : 0 = d.unscaled := by simpa [sameNumber] using hsame
        exact hne heq.symm
    · cases h

/-- The three forms that a decimal leaves in. -/
lemma toJson_cases (d : Decimal) :
    (∃ n : Int64, d.toJson = .number (.integer n.toInt)) ∨ (∃ x, d.toJson = .number (.float x))
      ∨ d.toJson = .string d.text := by
  rw [toJson]
  split
  · exact .inl ⟨_, rfl⟩
  · split
    · split_ifs
      · exact .inr (.inl ⟨_, rfl⟩)
      · exact .inr (.inr rfl)
    · exact .inr (.inr rfl)

/-- The text of a decimal is read as what it left as, unless this is a float that is not read
back. -/
lemma read_toJson (h : ∀ x, d.toJson = .number (.float x) → x.reread? = some x) :
    JsonValue.read (JsonValue.ofParts .number d.toJson none).text
      = .ok (.ofParts .number d.toJson none) := by
  obtain ⟨n, hn⟩ | ⟨x, hx⟩ | hs := d.toJson_cases
  · have hlow := n.le_toInt
    have hhigh := n.toInt_lt
    rw [hn, JsonReader.read_ofParts_number .number (n := .integer n.toInt) ⟨by omega, by omega⟩]
    rfl
  · rw [hx, JsonReader.read_ofParts_number .number (n := .float x) (exists_shown_of_toJson hx).1,
      Numeral.reread?, h x hx]
    rfl
  · rw [hs, JsonReader.read_ofParts_string .number isPlain_of_mem_text]

end Decimal

namespace LocalValue

variable {d : Decimal} {x : Binary64}

/-- A decimal whose text is read comes back as the same number. -/
lemma throughText_decimal (h : ∀ x, d.toJson = .number (.float x) → x.reread? = some x) :
    throughText .number (.decimal d) = .ok (.decimal d.viaJson) := by
  obtain ⟨s, hs, hscalar, hlocal⟩ := d.exists_ofJson_toJson
  have hv : Tagged.ofLocal .number (.decimal d) = .ok ⟨.number, .decimal d, none⟩ := rfl
  have hsettled : d.toJson.settled = d.toJson := by
    obtain ⟨n, hn⟩ | ⟨x, hx⟩ | hs := d.toJson_cases
    · rw [hn]
      rfl
    · rw [hx]
      rfl
    · rw [hs]
      rfl
  have hthrough : Tagged.throughLocal .number none s
      = s.toLocal .number none >>= Tagged.ofLocal .number :=
    Tagged.throughLocal_none (SerialValue.isNull_of_isScalar hscalar)
  rw [throughText_of_read hv (Decimal.read_toJson h) hsettled, hs]
  simp only [bind, Except.bind] at hthrough ⊢
  rw [hthrough, hlocal]
  rfl

/-- A decimal that leaves as a float comes back as what is shown by the float that its text is read
as. -/
lemma throughText_decimal_of_reread (h : d.toJson = .number (.float x)) {y : Binary64}
    (hy : x.reread? = some y) :
    throughText .number (.decimal d)
      = LocalValue.decimal <$> (SerialValue.float y).toDecimal .number := by
  have hv : Tagged.ofLocal .number (.decimal d) = .ok ⟨.number, .decimal d, none⟩ := rfl
  have hread := JsonReader.read_ofParts_number .number (n := .float x)
    (Decimal.exists_shown_of_toJson h).1
  have hofJson : SerialValue.ofJson (.number (.float y)) = .ok (.float y) := rfl
  have hthrough : Tagged.throughLocal .number none (.float y)
      = (SerialValue.float y).toLocal .number none >>= Tagged.ofLocal .number :=
    Tagged.throughLocal_none rfl
  have hlocal : (SerialValue.float y).toLocal .number none
      = LocalValue.decimal <$> (SerialValue.float y).toDecimal .number := by
    simp [SerialValue.toLocal, SerialValue.scalarLocal, Tag.boxed]
  rw [Numeral.reread?, hy, ← h] at hread
  rw [throughText_of_read hv hread rfl, hofJson]
  simp only [bind, Except.bind] at hthrough ⊢
  rw [hthrough, hlocal]
  cases (SerialValue.float y).toDecimal .number <;> rfl

/-- A decimal that leaves as a float and comes back is shown by the float that its text is read
as. -/
lemma exists_reread_of_throughText {d' : Decimal} (h : d.toJson = .number (.float x))
    (hd : throughText .number (.decimal d) = .ok (.decimal d')) :
    ∃ y, x.reread? = some y ∧ Decimal.ofBinary64? y = some d' := by
  cases hy : x.reread? with
  | none =>
    have hv : Tagged.ofLocal .number (.decimal d) = .ok ⟨.number, .decimal d, none⟩ := rfl
    have hread := JsonReader.read_ofParts_number .number (n := .float x)
      (Decimal.exists_shown_of_toJson h).1
    rw [Numeral.reread?, hy, ← h] at hread
    rw [throughText_of_error hv hread] at hd
    cases hd
  | some y =>
    rw [throughText_decimal_of_reread h hy, SerialValue.toDecimal] at hd
    cases hshown : Decimal.ofBinary64? y with
    | none =>
      rw [hshown] at hd
      cases hd
    | some shown =>
      rw [hshown] at hd
      cases hd
      exact ⟨y, rfl, hshown⟩

/-! ## Survival -/

/-- **Numbers through JSON text.** A finite double comes back bit for bit exactly when its text is
read as the float that wrote it, and a decimal comes back as an equal one exactly when this holds of
the float that it leaves as, if it leaves as a float. It does hold of every float that is written
with a significand below `2 ^ 53` and an exponent from -22 to 22.

**Proof sketch.** The text of the object is read as the object with the number that the text of the
number is read as. Floats that are not zero show different decimals, so that a decimal comes back
equal only from the float that it left as. For few digits the significand and the power of ten of
the reader are exact; it rounds once, a number in the interval of the float. -/
theorem numbers_survive_text_iff {x : Binary64} (hx : x.value.isFinite = true) (d : Decimal) :
    (throughText .double (.double x) = .ok (.double x) ↔ x.reread? = some x)
      ∧ ((∃ d', throughText .number (.decimal d) = .ok (.decimal d') ∧ d'.sameNumber d = true)
        ↔ ∀ y, d.toJson = .number (.float y) → y.reread? = some y)
      ∧ ∀ (y : Binary64) (negative : Bool) (m : Nat) (q : Int), y.value = .finite negative m q →
        (FloatStyle.written m q).1 < 2 ^ 53 → (FloatStyle.written m q).2.natAbs ≤ 22 →
        y.reread? = some y := by
  refine ⟨?_, ⟨?_, fun h => ?_⟩, fun y negative m q hy hlt he => Binary64.reread?_of_small hy hlt he⟩
  · rw [throughText_double hx]
    cases x.reread? <;> simp
  · rintro ⟨d', hd', hsame⟩ y hy
    obtain ⟨-, hzero, shown, hshown, hsame'⟩ := Decimal.exists_shown_of_toJson hy
    obtain ⟨z, hz, hshown'⟩ := exists_reread_of_throughText hy hd'
    have hquantity := (Decimal.quantity_eq_of_sameNumber hsame').trans
      (Decimal.quantity_eq_of_sameNumber hsame).symm
    rw [hz, Binary64.eq_of_shown hshown hshown' hzero hquantity]
  · exact ⟨d.viaJson, throughText_decimal h, d.sameNumber_viaJson⟩

/-- A tenth is written as `0.1`, with the significand one and the exponent minus one, and comes back
as it was, as a double and as a decimal. -/
theorem numbers_survive_text_tenth :
    let x : Binary64 := ⟨0x3fb999999999999a⟩
    let d : Decimal := ⟨1, 1⟩
    x.value.isFinite = true ∧ x.value = .finite false 7205759403792794 (-56)
      ∧ FloatStyle.written 7205759403792794 (-56) = (1, -1) ∧ d.toJson = .number (.float x)
      ∧ throughText .double (.double x) = .ok (.double x)
      ∧ ∃ d', throughText .number (.decimal d) = .ok (.decimal d') ∧ d'.sameNumber d = true := by
  intro x d
  have hfinite : x.value.isFinite = true := by decide +kernel
  have hvalue : x.value = .finite false 7205759403792794 (-56) := by decide +kernel
  have hwritten : FloatStyle.written 7205759403792794 (-56) = (1, -1) := by decide +kernel
  have hjson : d.toJson = .number (.float x) :=
    Decimal.toJson_of_shown (by decide +kernel) (by decide +kernel) (by decide +kernel)
  obtain ⟨hdouble, hdecimal, hsmall⟩ := numbers_survive_text_iff hfinite d
  have hreread : x.reread? = some x :=
    hsmall x false _ _ hvalue (by rw [hwritten]; decide) (by rw [hwritten]; decide)
  refine ⟨hfinite, hvalue, hwritten, hjson, hdouble.2 hreread, hdecimal.2 fun y hy => ?_⟩
  obtain rfl : x = y := by
    rw [hjson] at hy
    injection hy with hy
    injection hy
  exact hreread

/-- `1e-23` comes back as the float above it, since `1e23` is no float: as a double and as the
decimal, which leaves as this float. -/
theorem reciprocal_power_comes_back_changed :
    let x : Binary64 := ⟨0x3b282db34012b251⟩
    let d : Decimal := ⟨1, 23⟩
    x.value.isFinite = true
      ∧ throughText .double (.double x) = .ok (.double ⟨0x3b282db34012b252⟩)
      ∧ throughText .number (.decimal d) = .ok (.decimal ⟨10000000000000001, 39⟩)
      ∧ (⟨10000000000000001, 39⟩ : Decimal).sameNumber d = false := by
  intro x d
  have hfinite : x.value.isFinite = true := by decide +kernel
  have hreread : x.reread? = some ⟨0x3b282db34012b252⟩ := by
    have hvalue : x.value = .finite false 6805647338418769 (-129) := by decide +kernel
    have hwritten : FloatStyle.written 6805647338418769 (-129) = (1, -23) := by decide +kernel
    rw [Binary64.reread?, hvalue]
    simp only [hwritten]
    rw [Numeral.scaled?, if_pos (by decide), Numeral.dividedByPower, dif_neg (by decide)]
    decide +kernel
  have hjson : d.toJson = .number (.float x) :=
    Decimal.toJson_of_shown (by decide +kernel) (by decide +kernel) (by decide +kernel)
  have hshown : Decimal.ofBinary64? ⟨0x3b282db34012b252⟩ = some ⟨10000000000000001, 39⟩ := by
    decide +kernel
  refine ⟨hfinite, ?_, ?_, by decide +kernel⟩
  · rw [throughText_double hfinite, hreread]
  · rw [throughText_decimal_of_reread hjson hreread, SerialValue.toDecimal, hshown]
    rfl

end LocalValue

end TypedRows
