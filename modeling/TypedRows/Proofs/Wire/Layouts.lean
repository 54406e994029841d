import TypedRows.Proofs.Number.Quantity
import TypedRows.Proofs.Number.TwosComplement
import TypedRows.Proofs.Wire.Scalars

/-!
# Layouts of decimals and byte strings

A decimal travels as plain text, or in the older layout as the signed bytes of its digits, with its
scale beside them or, for an integer, without one. A byte string travels as bytes, as base64 text
or as both. A reader finds the same value in every layout.

## Main definitions

* `TypedRows.WireMessage.Present` — messages that hold a value.
* `TypedRows.WireMessage.ReadsAs` — messages that are read as a decimal of one number.

## Main results

* `TypedRows.WireMessage.readsAs_text`, `TypedRows.WireMessage.readsAs_signed` — the layouts of
  decimals.
* `TypedRows.WireMessage.ofWire_byteString` — those of byte strings.
* `TypedRows.WireMessage.layouts_agree` — all layouts of a value are read as that value.
-/

set_option autoImplicit false

namespace TypedRows.WireMessage

/-- A message holds a value when it is flagged neither as null nor as absent. -/
def Present (m : WireMessage) : Prop := m.isNull = false ∧ m.implicitlyNull = false

/-- A message is read as a decimal that equals another one: the scale may differ, the number may
not. -/
def ReadsAs (m : WireMessage) (d : Decimal) : Prop :=
  ∃ d', Tagged.ofWire m = .ok ⟨.number, .decimal d', none⟩ ∧ d'.sameNumber d = true
    ∧ d'.quantity = d.quantity

variable {m : WireMessage}

/-- A message that is present is read by its tag. -/
lemma Present.ofWire_eq (h : m.Present) : Tagged.ofWire m = m.toTyped := by
  rw [Tagged.ofWire, h.2]
  rfl

/-- A message that is read as a decimal is read as every equal one. -/
lemma ReadsAs.of_sameNumber {d d' : Decimal} (h : m.Present)
    (hread : m.toTyped = .ok ⟨.number, .decimal d', none⟩) (hd : d'.sameNumber d = true) :
    m.ReadsAs d :=
  ⟨d', h.ofWire_eq.trans hread, hd, Decimal.quantity_eq_of_sameNumber hd⟩

/-! ## Decimals -/

/-- A message with the tag of big integers holds a number. -/
lemma toTyped_bigInteger (hm : m.type = WireTag.bigInteger.number) (hn : m.isNull = false) :
    m.toTyped = (⟨.number, ·, none⟩) <$> m.scalarValue .bigInteger .number := by
  rw [toTyped_eq]
  simp only [tags, hm, hn, WireTag.read, WireTag.ofNumber?_number]
  rfl

/-- The plain text of a decimal. -/
theorem readsAs_text {d : Decimal} (h : m.Present) (hm : m.type = WireTag.bigDecimal.number)
    (hnumber : m.numberValue = none) (htext : m.stringValue = some d.text) : m.ReadsAs d := by
  have hread : m.toTyped = .ok ⟨.number, .decimal d.plain, none⟩ := by
    rw [toTyped_bigDecimal hm h.1, scalarValue, hnumber, htext]
    simp only [Option.getD_some, WireTag.readDecimal_text]
    rfl
  exact .of_sameNumber h hread d.sameNumber_plain

/-- Signed bytes and a scale. -/
theorem readsAs_signed {bytes : List UInt8} {n : Int} {scale : Int64} (h : m.Present)
    (hm : m.type = (WireTag.plain .number).number ∨ m.type = WireTag.bigDecimal.number)
    (hscale : m.numberValue = some scale) (hbytes : m.bytesValue = some bytes)
    (hn : SignedBytes.Denote bytes n) : m.ReadsAs ⟨n, scale⟩ := by
  have hlegacy : m.legacyDecimal scale = .decimal ⟨n, scale⟩ := by
    rw [legacyDecimal, hbytes, Option.getD_some, hn.toInt_eq]
  have hread : m.toTyped = .ok ⟨.number, .decimal ⟨n, scale⟩, none⟩ := by
    obtain hm | hm := hm
    · rw [toTyped_scalar hm h.1 (by decide) (by decide), scalarValue]
      simp only [Tag.boxed, hscale, hbytes, hlegacy]
      rfl
    · rw [toTyped_bigDecimal hm h.1, scalarValue, hscale]
      simp only [hlegacy]
      rfl
  exact .of_sameNumber h hread (Decimal.sameNumber_self _)

/-- Signed bytes of a big integer, which has no scale. -/
theorem readsAs_bigInteger {bytes : List UInt8} {n : Int} (h : m.Present)
    (hm : m.type = WireTag.bigInteger.number) (hbytes : m.bytesValue = some bytes)
    (hn : SignedBytes.Denote bytes n) : m.ReadsAs ⟨n, 0⟩ := by
  have hread : m.toTyped = .ok ⟨.number, .decimal ⟨n, 0⟩, none⟩ := by
    rw [toTyped_bigInteger hm h.1, scalarValue, legacyDecimal, hbytes, Option.getD_some,
      hn.toInt_eq]
    rfl
  exact .of_sameNumber h hread (Decimal.sameNumber_self _)

/-! ## Byte strings -/

/-- A message carries a byte string as bytes, whatever text stands beside them, or as base64 text
alone. -/
def CarriesBytes (m : WireMessage) (b : List UInt8) : Prop :=
  m.bytesValue = some b
    ∨ m.bytesValue = none ∧ ∃ text, m.stringValue = some text ∧ Base64.read? text = some b

/-- Every layout of a byte string is read as its base64 text. -/
theorem ofWire_byteString {b : List UInt8} (h : m.Present)
    (hm : m.type = (WireTag.plain .byteString).number) (hb : m.CarriesBytes b) :
    Tagged.ofWire m = .ok ⟨.byteString, .string (Base64.text b), none⟩ := by
  rw [h.ofWire_eq, toTyped_scalar hm h.1 (by decide) (by decide), scalarValue]
  obtain hbytes | ⟨hbytes, text, htext, hread⟩ := hb
  · simp only [Tag.boxed, hbytes]
    cases m.stringValue <;> rfl
  · simp only [Tag.boxed, hbytes, htext, Base64.text_of_read? hread]
    rfl

/-! ## All layouts -/

/-- **All layouts of a value are read as that value.** -/
theorem layouts_agree :
    (∀ (n : Int) (scale : Int64), ∃ tv current older,
      Tagged.ofLocal .number (.decimal ⟨n, scale⟩) = .ok tv
        ∧ Tagged.toWire tv = .ok current ∧ current.ReadsAs ⟨n, scale⟩
        ∧ Tagged.toWireLegacy tv = .ok older ∧ older.ReadsAs ⟨n, scale⟩)
      ∧ (∀ (n : Int) (k : Nat), SignedBytes.Denote
        (List.replicate k (SignedBytes.signByte n) ++ SignedBytes.ofInt n) n)
      ∧ (∀ (n : Int) (scale : Int64) (bytes : List UInt8) (m : WireMessage), m.Present →
        SignedBytes.Denote bytes n → m.bytesValue = some bytes →
          (m.type = (WireTag.plain .number).number ∨ m.type = WireTag.bigDecimal.number →
            m.numberValue = some scale → m.ReadsAs ⟨n, scale⟩)
          ∧ (m.type = WireTag.bigInteger.number → m.ReadsAs ⟨n, 0⟩))
      ∧ ∀ b : List UInt8, ∃ tv, Tagged.toLocal tv = .ok (.bytes b)
        ∧ ∀ m : WireMessage, m.Present → m.type = (WireTag.plain .byteString).number →
          m.CarriesBytes b → Tagged.ofWire m = .ok tv := by
  refine ⟨fun n scale => ?_, fun n k => SignedBytes.denote_extended k n,
    fun n scale bytes m h hn hbytes => ⟨fun hm hscale => readsAs_signed h hm hscale hbytes hn,
      fun hm => readsAs_bigInteger h hm hbytes hn⟩,
    fun b => ⟨_, ?_, fun m h hm hb => ofWire_byteString h hm hb⟩⟩
  · refine ⟨⟨.number, .decimal ⟨n, scale⟩, none⟩, _, _, rfl, rfl, ?_, rfl, ?_⟩
    · exact readsAs_text ⟨rfl, rfl⟩ rfl rfl rfl
    · exact readsAs_signed ⟨rfl, rfl⟩ (.inl rfl) rfl rfl (SignedBytes.denote_ofInt n)
  · simp [Tagged.toLocal, SerialValue.toLocal, SerialValue.scalarLocal, Tag.boxed]

/-- Minus 12345 with its sign repeated once, at scale 2 and as an integer, and three bytes as text
alone. -/
theorem layouts_agree_of_negative :
    SignedBytes.Denote [0xFF, 0xCF, 0xC7] (-12345)
      ∧ ReadsAs { tagged .number with
          bytesValue := some [0xFF, 0xCF, 0xC7], numberValue := some 2 } ⟨-12345, 2⟩
      ∧ ReadsAs { empty with
          type := WireTag.bigInteger.number, bytesValue := some [0xFF, 0xCF, 0xC7] } ⟨-12345, 0⟩
      ∧ ∃ tv, Tagged.toLocal tv = .ok (.bytes [1, 2, 3])
        ∧ Tagged.ofWire { tagged .byteString with stringValue := some "AQID" } = .ok tv := by
  obtain ⟨-, hforms, hnumbers, hbytes⟩ := layouts_agree
  have hn : SignedBytes.Denote [0xFF, 0xCF, 0xC7] (-12345) := by
    have hbytes : List.replicate 1 (SignedBytes.signByte (-12345)) ++ SignedBytes.ofInt (-12345)
        = [0xFF, 0xCF, 0xC7] := by decide +kernel
    exact hbytes ▸ hforms (-12345) 1
  obtain ⟨tv, hlocal, hread⟩ := hbytes [1, 2, 3]
  exact ⟨hn, (hnumbers _ 2 _ _ ⟨rfl, rfl⟩ hn rfl).1 (.inl rfl) rfl,
    (hnumbers _ 0 _ _ ⟨rfl, rfl⟩ hn rfl).2 rfl,
    tv, hlocal, hread _ ⟨rfl, rfl⟩ rfl (.inr ⟨rfl, "AQID", rfl, by decide⟩)⟩

end TypedRows.WireMessage
