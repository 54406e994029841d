import TypedRows.Proofs.Value.Form
import TypedRows.Proofs.Value.Shape
import TypedRows.Proofs.Wire.Arrival

/-!
# Scalars on the wire

A value without parts is narrowed up to three times: by the writer, by the reader and when it is
read as a local value. What arrives denotes the same local value as what was sent.

## Main results

* `TypedRows.LocalValue.arrival_form_scalar` — the plain form of a value without parts arrives.
* `TypedRows.SerialValue.alike_of_toWire` — a value of the shape of its tag arrives as one that
  denotes the same local value.
-/

set_option autoImplicit false

namespace TypedRows

/-! ## Payloads -/

/-- A message with the tag of a value without parts is read by its payload. -/
lemma WireMessage.toTyped_scalar {m : WireMessage} {tag : Tag}
    (hm : m.type = (WireTag.plain tag).number) (hn : m.isNull = false)
    (ha : tag ≠ .array) (hs : tag ≠ .struct) :
    m.toTyped = (⟨tag, ·, none⟩) <$> m.scalarValue (.plain tag) tag := by
  rw [toTyped_eq, tags_eq hm, componentTag_of_ne m ha]
  simp only [pure_bind, hn]
  cases tag <;> first | rfl | contradiction

/-- A message with the tag of decimals holds a number. -/
lemma WireMessage.toTyped_bigDecimal {m : WireMessage} (hm : m.type = WireTag.bigDecimal.number)
    (hn : m.isNull = false) :
    m.toTyped = (⟨.number, ·, none⟩) <$> m.scalarValue .bigDecimal .number := by
  rw [toTyped_eq]
  simp only [tags, hm, hn, WireTag.read, WireTag.ofNumber?_number]
  rfl

/-- The plain text of a decimal is not empty, so it is not taken for zero. -/
lemma WireTag.readDecimal_text (wireTag : WireTag) (d : Decimal) :
    wireTag.readDecimal d.text = .ok (.decimal d.plain) := by
  have hne : d.text.isEmpty = false := by
    by_contra h
    have hempty : d.text = "" := by simpa using h
    have hread := d.read?_text
    rw [hempty] at hread
    simp [Decimal.read?, Text.cut] at hread
  rw [readDecimal, hne, Decimal.read?_text]
  rfl

/-- The bits of a float of 32 bits travel as a signed number. -/
lemma ofInt_toInt_bits (b : UInt32) :
    UInt32.ofInt (Int64.ofInt (Int32.ofNat b.toNat).toInt).toInt = b := by
  have hl := (Int32.ofNat b.toNat).le_toInt
  have hu := (Int32.ofNat b.toNat).toInt_lt
  have hb := b.toNat_lt
  have hd : (Int32.ofNat b.toNat).toInt % 2 ^ 32 = b.toNat := by
    calc (Int32.ofNat b.toNat).toInt % 2 ^ 32
        = Int.bmod b.toNat Int32.size % Int32.size := by rw [Int32.toInt_ofNat']; rfl
      _ = b.toNat := by
        rw [Int.bmod_emod]
        exact Int.emod_eq_of_lt (by omega) (by rw [Int32.size]; omega)
  rw [Int64.toInt_ofInt_of_le (by omega) (by omega)]
  apply UInt32.toNat_inj.1
  rw [UInt32.ofInt, hd, Int.toNat_natCast, UInt32.ofNat_toNat]

/-- A number of 8 bits is what it was after it was widened and narrowed. -/
lemma int8_widened (n : Int8) : Int8.ofInt (Int64.ofInt n.toInt).toInt = n := by simp

/-- A number of 16 bits is what it was after it was widened and narrowed. -/
lemma int16_widened (n : Int16) : Int16.ofInt (Int64.ofInt n.toInt).toInt = n := by simp

/-- A number of 32 bits is what it was after it was widened and narrowed. -/
lemma int32_widened (n : Int32) : Int32.ofInt (Int64.ofInt n.toInt).toInt = n := by simp

/-! ## What arrives of a payload -/

namespace SerialValue

/-- **What arrives of a value without parts**: a value under the tag that it was written under. It
denotes the same local value; only the tag of characters takes texts that denote none.

**Proof sketch.** By the payload that was written. Integers are cut to the width of the tag by
the reader and by the local form, and cutting twice is cutting once. A float of 32 bits is
narrowed before it is written, and narrowing undoes the widening of the reader. -/
lemma arrives_of_written {tag : Tag} {s : SerialValue} {m : WireMessage} (h : Written tag s m) :
    ∃ r, m.toTyped = .ok ⟨tag, r, none⟩ ∧ ((tag.boxed = .character → s.check tag = .ok ()) →
      ∃ v v', r.toLocal tag none = .ok v' ∧ s.scalarLocal tag = .ok v
        ∧ v'.alike .bits v = true) := by
  cases h with
  | @integer n h hs =>
    subst h hs
    exact ⟨.integer n, rfl, fun _ => ⟨.decimal (.ofInt n.toInt), .decimal (.ofInt n.toInt), rfl, rfl,
      Decimal.sameNumber_self _⟩⟩
  | @decimal d h hs =>
    subst h
    have hread : (WireTag.bigDecimal.readDecimal d.text) = .ok (.decimal d.plain) :=
      WireTag.readDecimal_text _ d
    refine ⟨.decimal d.plain, (WireMessage.toTyped_bigDecimal rfl rfl).trans ?_, fun _ =>
      ⟨.decimal d, .decimal d.plain, rfl, ?_, Decimal.sameNumber_plain d⟩⟩
    · simp [WireMessage.scalarValue, hread, WireMessage.tagged, WireMessage.empty]
    · simp [scalarLocal, Tag.boxed, hs]
  | @bool b h hs =>
    subst hs
    refine ⟨.bool b, ?_, fun _ => ⟨.bool b, .bool b, by simp [toLocal, scalarLocal, h],
      by simp [scalarLocal, h], by simp [LocalValue.alike, LocalValue.sameUnder]⟩⟩
    rw [WireMessage.toTyped_scalar rfl rfl (by rintro rfl; simp at h) (by rintro rfl; simp at h)]
    simp only [WireMessage.scalarValue, h]
    rfl
  | @text t h hs =>
    subst hs
    have hread : ({ WireMessage.tagged tag with stringValue := some t } : WireMessage).toTyped
        = .ok ⟨tag, .string t, none⟩ := by
      rw [WireMessage.toTyped_scalar rfl rfl (by rintro rfl; simp at h) (by rintro rfl; simp at h)]
      obtain h | h := h <;> simp [WireMessage.scalarValue, h]
    refine ⟨.string t, hread, fun hc => ?_⟩
    obtain h | h := h
    · -- only here the check of the shape is needed: the wire takes a text of any length
      have hshape := ((check_eq_ok_iff.1 (hc h)).resolve_left (by simp [isNull])).2
      rw [h] at hshape
      obtain ⟨c, hc⟩ := hasShape_character_iff.1 hshape
      exact ⟨.char c, .char c, by simp [toLocal, scalarLocal, h, hc], by simp [scalarLocal, h, hc],
        by simp [LocalValue.alike, LocalValue.sameUnder]⟩
    · exact ⟨.string t, .string t, by simp [toLocal, scalarLocal, h], by simp [scalarLocal, h],
        by simp [LocalValue.alike, LocalValue.sameUnder]⟩
  | @bytes t b h hs hb =>
    subst h hs
    refine ⟨.string (Base64.text b), rfl, fun _ => ⟨.bytes b, .bytes b, ?_, ?_,
      by simp [LocalValue.alike, LocalValue.sameUnder]⟩⟩
    · simp [toLocal, scalarLocal, Tag.boxed]
    · simp [scalarLocal, Tag.boxed, hb]
  | @float x h hs =>
    have hx : s.floating tag = .ok x := by simp [floating, hs]
    refine ⟨.float (.ofBinary32 (.ofBinary64 x)), ?_, fun _ => ⟨.float (.ofBinary64 x),
      .float (.ofBinary64 x), ?_, ?_, by simp [LocalValue.alike, LocalValue.sameUnder]⟩⟩
    · rw [WireMessage.toTyped_scalar rfl rfl (by rintro rfl; simp at h) (by rintro rfl; simp at h)]
      simp only [WireMessage.scalarValue, h, Option.getD_some, ofInt_toInt_bits]
      rfl
    · simp [toLocal, scalarLocal, h, floating, float?]
    · simp [scalarLocal, h, hx]
  | @double x h hs =>
    have hx : s.floating tag = .ok x := by simp [floating, hs]
    refine ⟨.float x, ?_, fun _ => ⟨.double x, .double x, ?_, ?_,
      by simp [LocalValue.alike, LocalValue.sameUnder]⟩⟩
    · rw [WireMessage.toTyped_scalar rfl rfl (by rintro rfl; simp at h) (by rintro rfl; simp at h)]
      simp only [WireMessage.scalarValue, h]
      rfl
    · simp [toLocal, scalarLocal, h, floating, float?]
    · simp [scalarLocal, h, hx]
  | @integral n h hs =>
    have hn : s.integral tag = .ok n.toInt := by simp [integral, hs]
    cases tag <;> simp only [Tag.isIntegral, Tag.boxed, Tag.isTemporal, Bool.false_eq_true] at h <;>
    · refine ⟨_, rfl, fun _ => ⟨_, _, rfl, by simp only [scalarLocal, Tag.boxed, hn]; rfl, ?_⟩⟩
      simp only [LocalValue.alike, LocalValue.sameUnder, WireMessage.narrowed, Tag.boxed,
        Option.getD_some, int8_widened, int16_widened, int32_widened, Int64.ofInt_toInt,
        beq_self_eq_true]

/-- **A value of the shape of its tag arrives** as one that denotes the same local value, unless
the tag is that of arrays or of records. -/
theorem alike_of_toWire {tag : Tag} {component : Option Tag} {s : SerialValue} {m : WireMessage}
    (hc : s.check tag = .ok ()) (ha : tag ≠ .array) (hs : tag ≠ .struct)
    (h : s.toWire tag component = .ok m) :
    ∃ r v v', m.toTyped = .ok ⟨tag, r, none⟩ ∧ r.toLocal tag none = .ok v'
      ∧ s.toLocal tag component = .ok v ∧ v'.alike .bits v = true := by
  by_cases hn : s.isNull = true
  · obtain rfl := isNull_iff.1 hn
    obtain rfl := Except.ok.inj h
    have hread := arrival_null tag component
    rw [if_neg ha] at hread
    exact ⟨.null, .null, .null, hread, rfl, rfl, rfl⟩
  · obtain ⟨hlist, htyped⟩ := scalar_of_check hc ha hs
    rw [toWire_scalar component (by simpa using hn) htyped fun _ _ => ⟨ha, hs⟩] at h
    obtain ⟨r, hr, hdenotes⟩ := arrives_of_written (written_of_scalarWire h)
    obtain ⟨v, v', hv', hv, halike⟩ := hdenotes fun _ => hc
    have hlocal : s.toLocal tag component = s.scalarLocal tag := by
      cases s <;> simp_all [toLocal, isNull]
    exact ⟨r, v, v', hr, hv', hlocal.trans hv, halike⟩

end SerialValue

/-- The plain form of a value without parts arrives, with its decimals as their text shows
them. -/
lemma LocalValue.arrival_form_scalar {v : LocalValue} (h : v.isScalar = true) :
    v.scalarSerial.arrival (.ofLocal v) none
      = .ok ⟨.ofLocal v, v.scalarSerial.mapDecimals Decimal.plain, none⟩ := by
  cases v with
  | byte n | short n | int n | long n =>
    simp only [scalarSerial, Tag.ofLocal, SerialValue.mapDecimals]
    refine (WireMessage.toTyped_scalar rfl rfl (by decide) (by decide)).trans ?_
    simp [WireMessage.scalarValue, WireMessage.narrowed, Tag.boxed]
  | float x =>
    simp only [scalarSerial, Tag.ofLocal, SerialValue.mapDecimals]
    refine (WireMessage.toTyped_scalar rfl rfl (by decide) (by decide)).trans ?_
    have hx : Binary64.ofBinary32 ⟨(Binary32.ofBinary64 (.ofBinary32 x)).bits⟩ = .ofBinary32 x :=
      Binary64.ofBinary32_ofBinary64_ofBinary32 x
    simp only [WireMessage.scalarValue, Tag.boxed, Option.getD_some, ofInt_toInt_bits, hx]
    rfl
  | decimal d =>
    simp only [scalarSerial, Tag.ofLocal, SerialValue.mapDecimals]
    refine (WireMessage.toTyped_bigDecimal rfl rfl).trans ?_
    simp [WireMessage.scalarValue, WireTag.readDecimal_text, WireMessage.tagged, WireMessage.empty]
  | bytes b =>
    have hwire : SerialValue.scalarWire .byteString (.string (Base64.text b))
        = .ok { WireMessage.tagged .byteString with
            bytesValue := some b, stringValue := some (Base64.text b) } := by
      simp [SerialValue.scalarWire, Tag.boxed]
    rw [scalarSerial, Tag.ofLocal, SerialValue.arrival,
      SerialValue.toWire_scalar none rfl (by simp) (by simp), hwire]
    rfl
  | _ => first | rfl | simp [isScalar] at h

end TypedRows
