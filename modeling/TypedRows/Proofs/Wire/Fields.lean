import TypedRows.Proofs.Outcome
import TypedRows.Wire.Field

/-!
# Fields as bytes

The bytes of a message are those of its fields, one after the other. Each field tells where it
ends, so the fields are found again in the bytes, whatever they hold.

## Main definitions

* `TypedRows.RawField.bytes` — the bytes of a field.
* `TypedRows.RawField.IsWritable` — the fields whose bytes denote them.

## Main results

* `TypedRows.RawField.readAll_flatMap_bytes` — the fields of some bytes are those that were
  written.
-/

set_option autoImplicit false

namespace TypedRows

/-- A kind of payload is known by its number. -/
@[simp] lemma PayloadKind.ofNumber?_number (kind : PayloadKind) :
    ofNumber? kind.number = some kind := by
  cases kind <;> rfl

/-- The number of a kind has three bits. -/
lemma PayloadKind.number_lt (kind : PayloadKind) : kind.number < 8 := by
  cases kind <;> decide

namespace RawField

/-- The bytes of a field. Groups and fields of four bytes are only ever read. -/
def bytes (f : RawField) : List UInt8 :=
  match f.payload with
  | .varint value => varint f.number value
  | .fixed64 bytes => fixed64 f.number bytes
  | .block bytes => block f.number bytes
  | .group _ | .fixed32 _ => []

/-- The fields whose bytes denote them: the number has a place in a key, and the payload is one
of the three kinds that are written and keeps to its size. -/
def IsWritable (f : RawField) : Prop :=
  (0 < f.number ∧ f.number < 2 ^ (29 : Nat)) ∧
    match f.payload with
    | .varint value => value < 2 ^ (64 : Nat)
    | .fixed64 bytes => bytes.length = 8
    | .block bytes => bytes.length < 2 ^ (64 : Nat)
    | .group _ | .fixed32 _ => False

section

variable {number : Nat} (hnumber : 0 < number ∧ number < 2 ^ (29 : Nat))
include hnumber

/-- A number of 64 bits can be written. -/
lemma isWritable_varint {value : Nat} (h : value < 2 ^ (64 : Nat)) :
    IsWritable ⟨number, .varint value⟩ := ⟨hnumber, h⟩

/-- Eight bytes can be written. -/
lemma isWritable_fixed64 {bytes : List UInt8} (h : bytes.length = 8) :
    IsWritable ⟨number, .fixed64 bytes⟩ := ⟨hnumber, h⟩

/-- A block can be written whose length fits 64 bits. -/
lemma isWritable_block {bytes : List UInt8} (h : bytes.length < 2 ^ (64 : Nat)) :
    IsWritable ⟨number, .block bytes⟩ := ⟨hnumber, h⟩

end

/-! ## One field -/

/-- A number is read back, and what follows it is left. -/
lemma readVarint_encode {n : Nat} (h : n < 2 ^ (64 : Nat)) (rest : List UInt8) :
    readVarint (Varint.encode n ++ rest) = .ok (n, rest) := by
  rw [readVarint, Varint.decode?_encode h]

/-- Bytes are read back, and what follows them is left. -/
lemma readBytes_append (bytes rest : List UInt8) :
    readBytes bytes.length (bytes ++ rest) = .ok (bytes, rest) := by
  rw [readBytes, if_pos (by simp), List.splitAt_eq, List.take_left, List.drop_left]

/-- A key is read as it was written. -/
lemma readKey_key {number : Nat} (h₀ : 0 < number) (h : number < 2 ^ (29 : Nat))
    (kind : PayloadKind) (rest : List UInt8) :
    readKey (key number kind ++ rest) = .ok (number, kind, rest) := by
  have hk := PayloadKind.number_lt kind
  have hmod : (number * 8 + kind.number) % 8 = kind.number := by omega
  have hdiv : (number * 8 + kind.number) / 8 = number := by omega
  rw [readKey, key, readVarint_encode (by omega)]
  simp only [bind, Except.bind, hmod, hdiv, PayloadKind.ofNumber?_number]
  rw [if_neg (by omega), if_neg (by omega)]
  rfl

/-- A key has a byte. -/
lemma key_ne_nil (number : Nat) (kind : PayloadKind) : key number kind ≠ [] := by
  rw [key, Varint.encode, Varint.groups]
  split <;> simp

/-- A field has a byte. -/
lemma bytes_ne_nil {f : RawField} (h : f.IsWritable) : f.bytes ≠ [] := by
  obtain ⟨number, payload⟩ := f
  cases payload with
  | group | fixed32 => exact h.2.elim
  | varint => simp [bytes, varint, key_ne_nil]
  | fixed64 => simp [bytes, fixed64, key_ne_nil]
  | block => simp [bytes, block, key_ne_nil]

/-- **A field is read as it was written**, whatever follows it. -/
lemma read_bytes_append {f : RawField} (h : f.IsWritable) (rest : List UInt8) :
    ∃ kind tail, readKey (f.bytes ++ rest) = .ok (f.number, kind, tail)
      ∧ ∀ fuel, readPayload (fuel + 1) f.number kind tail = .ok (f.payload, rest) := by
  obtain ⟨number, payload⟩ := f
  obtain ⟨⟨h₀, hnumber⟩, hsize⟩ := h
  cases payload with
  | group | fixed32 => exact hsize.elim
  | varint value =>
    refine ⟨.varint, Varint.encode value ++ rest, ?_, fun fuel => ?_⟩
    · show readKey (varint number value ++ rest) = _
      rw [varint, List.append_assoc]
      exact readKey_key h₀ hnumber _ _
    · rw [readPayload, readVarint_encode hsize]
      rfl
  | fixed64 bytes =>
    refine ⟨.fixed64, bytes ++ rest, ?_, fun fuel => ?_⟩
    · show readKey (fixed64 number bytes ++ rest) = _
      rw [fixed64, List.append_assoc]
      exact readKey_key h₀ hnumber _ _
    · have hread : readBytes 8 (bytes ++ rest) = .ok (bytes, rest) := hsize ▸ readBytes_append _ _
      rw [readPayload, hread]
      rfl
  | block bytes =>
    refine ⟨.block, Varint.encode bytes.length ++ (bytes ++ rest), ?_, fun fuel => ?_⟩
    · show readKey (block number bytes ++ rest) = _
      rw [block, List.append_assoc, List.append_assoc]
      exact readKey_key h₀ hnumber _ _
    · rw [readPayload, readVarint_encode hsize]
      simp only [bind, Except.bind, readBytes_append]
      rfl

/-! ## Runs of fields -/

/-- Reading goes on behind a field. -/
lemma readFields_bytes_append {f : RawField} (h : f.IsWritable) (fuel : Nat)
    (rest : List UInt8) :
    readFields (fuel + 1) (f.bytes ++ rest) = do return f :: (← readFields fuel rest) := by
  obtain ⟨kind, tail, hkey, hpayload⟩ := read_bytes_append h rest
  rw [readFields, hkey]
  · simp only [bind, Except.bind, hpayload]
  · simp [bytes_ne_nil h]

/-- **Fields are found again in their bytes.**

**Proof sketch.** By induction on the fields. Every field takes a byte at least, so the fuel, which
is the number of bytes, lasts. -/
theorem readAll_flatMap_bytes {fs : List RawField} (h : ∀ f ∈ fs, f.IsWritable) :
    readAll (fs.flatMap bytes) = .ok fs := by
  have hfuel : ∀ fuel, (fs.flatMap bytes).length ≤ fuel →
      readFields fuel (fs.flatMap bytes) = .ok fs := by
    induction fs with
    | nil =>
      intro fuel _
      rw [List.flatMap_nil, readFields]
    | cons f fs ih =>
      intro fuel hlength
      rw [List.forall_mem_cons] at h
      have hpos := List.length_pos_of_ne_nil (bytes_ne_nil h.1)
      rw [List.flatMap_cons, List.length_append] at hlength
      obtain ⟨fuel, rfl⟩ : ∃ n, fuel = n + 1 := ⟨fuel - 1, by omega⟩
      rw [List.flatMap_cons, readFields_bytes_append h.1, ih h.2 fuel (by omega)]
      rfl
  exact hfuel _ (Nat.le_refl _)

end RawField

end TypedRows
