import TypedRows.Proofs.Wire.Absence
import TypedRows.Proofs.Wire.Fields

/-!
# Messages as bytes

A message is written as a run of fields, in which elements are messages of their own. What is left
out reads as the value that it had, so the message comes back from its bytes as it was; only a
zero loses its sign, because the zero of either sign is left out. Reading stops at elements that
stand too deep.

## Main definitions

* `TypedRows.WireMessage.fields` — the fields that a message is written as.
* `TypedRows.WireMessage.depth` — how deep the elements of a message are nested.
* `TypedRows.WireMessage.dropZeroSigns` — a message without negative zeros.

## Main results

* `TypedRows.WireMessage.encode_eq` — the bytes of a message are those of its fields.
* `TypedRows.WireMessage.decode_encode` — what is read from the bytes of a message.
* `TypedRows.WireMessage.messages_come_back` — messages that are not too deep come back.
-/

set_option autoImplicit false

namespace TypedRows

/-! ## Zeros -/

/-- The zero with a sign. -/
def Binary64.negativeZero : Binary64 := ⟨0x8000000000000000⟩

/-- A zero without its sign; any other float as it is. -/
def Binary64.dropZeroSign (x : Binary64) : Binary64 := if x = negativeZero then ⟨0⟩ else x

/-- There are two zeros. -/
lemma Binary64.isZero_value_iff {x : Binary64} :
    x.value.isZero = true ↔ x = ⟨0⟩ ∨ x = negativeZero := by
  constructor
  · intro h
    have hlt := x.bits.toNat_lt
    have hbits : x.bits.toNat = 0 ∨ x.bits.toNat = 9223372036854775808 := by
      simp only [value, FloatLayout.decode] at h
      split_ifs at h with hinfinite hnan hbiased
      · cases h
      · cases h
      · simp only [FloatValue.isZero, beq_iff_eq] at h
        simp only [FloatLayout.double, FloatLayout.signBit] at h hbiased
        omega
      · simp only [FloatValue.isZero, beq_iff_eq, FloatLayout.double] at h
        omega
    obtain ⟨bits⟩ := x
    rcases hbits with h | h
    · exact .inl (congrArg mk (UInt64.toNat_inj.1 h))
    · exact .inr (congrArg mk (UInt64.toNat_inj.1 h))
  · rintro (rfl | rfl) <;> decide +kernel

namespace WireMessage

/-! ## Words and texts -/

/-- A word is read back from its bytes. -/
lemma wordOfBytes_wordBytes (word : UInt64) : wordOfBytes (wordBytes word) = word := by
  have h := word.toNat_lt
  apply UInt64.toNat_inj.1
  simp only [wordOfBytes, wordBytes, List.range, List.range.loop, List.map_cons, List.map_nil,
    List.foldr_cons, List.foldr_nil, UInt64.toNat_ofNat', UInt8.toNat_ofNat']
  omega

/-- A word has eight bytes. -/
lemma length_wordBytes (word : UInt64) : (wordBytes word).length = 8 := by
  rw [wordBytes, List.length_map, List.length_range]

/-- A text is read back from its bytes. -/
lemma textOfBytes_toUTF8 (s : String) : textOfBytes s.toUTF8.data.toList = .ok s := by
  have h : String.fromUTF8? ⟨s.toUTF8.data.toList.toArray⟩ = some s := by
    simp only [Array.toArray_toList, String.fromUTF8?, String.toUTF8_eq_toByteArray,
      dif_pos s.isValidUTF8]
    rfl
  rw [textOfBytes, h]

/-! ## Fields -/

/-- A field that is left out under a condition. -/
def fieldUnless (leftOut : Bool) (f : RawField) : List RawField := if leftOut then [] else [f]

/-- A field that is left out when there is nothing to write. -/
def fieldOfOption {α : Type} (field : α → RawField) (value : Option α) : List RawField :=
  value.toList.map field

/-- The field of an element. -/
def elementField (e : WireMessage) : RawField := ⟨8, .block e.encode⟩

/-- The fields that a message is written as. -/
def fields (m : WireMessage) : List RawField :=
  fieldUnless (m.type == 0) ⟨1, .varint (Varint.ofInt32 m.type)⟩
    ++ fieldUnless (!m.boolValue) ⟨2, .varint 1⟩
    ++ fieldOfOption (fun s => ⟨3, .block s.toUTF8.data.toList⟩) m.stringValue
    ++ fieldOfOption (fun n => ⟨4, .varint (Varint.zigzag n)⟩) m.numberValue
    ++ fieldOfOption (fun b => ⟨5, .block b⟩) m.bytesValue
    ++ fieldUnless m.doubleValue.value.isZero ⟨6, .fixed64 (wordBytes m.doubleValue.bits)⟩
    ++ fieldUnless (!m.isNull) ⟨7, .varint 1⟩
    ++ m.elements.map elementField
    ++ fieldUnless (m.componentType == 0) ⟨9, .varint (Varint.ofInt32 m.componentType)⟩
    ++ fieldUnless (!m.implicitlyNull) ⟨10, .varint 1⟩

/-- Elements are written as fields of one number. -/
lemma encodeElements_eq (es : List WireMessage) :
    encodeElements es = (es.map elementField).flatMap RawField.bytes := by
  induction es with
  | nil => rfl
  | cons e es ih =>
    rw [encodeElements, ih]
    rfl

/-- The bytes of a field that may be left out. -/
lemma flatMap_fieldUnless (leftOut : Bool) (f : RawField) :
    (fieldUnless leftOut f).flatMap RawField.bytes = if leftOut then [] else f.bytes := by
  cases leftOut <;> simp [fieldUnless]

/-- The bytes of a field that may be missing. -/
lemma flatMap_fieldOfOption {α : Type} (field : α → RawField) (value : Option α) :
    (fieldOfOption field value).flatMap RawField.bytes
      = optionalField (fun a => (field a).bytes) value := by
  cases value <;> simp [fieldOfOption, optionalField]

/-- **The bytes of a message are those of its fields.** -/
theorem encode_eq (m : WireMessage) : m.encode = m.fields.flatMap RawField.bytes := by
  obtain ⟨type, boolValue, stringValue, numberValue, bytesValue, doubleValue, isNull, elements,
    componentType, implicitlyNull⟩ := m
  simp only [fields, List.flatMap_append, flatMap_fieldUnless, flatMap_fieldOfOption,
    ← encodeElements_eq]
  rw [encode]
  cases boolValue <;> cases isNull <;> cases implicitlyNull <;>
    simp [int32Field, boolField, doubleField, RawField.bytes]

/-- A field that may be left out is the only one there. -/
lemma mem_fieldUnless {leftOut : Bool} {f g : RawField} (h : g ∈ fieldUnless leftOut f) : g = f := by
  cases leftOut with
  | true => cases h
  | false => exact List.mem_singleton.1 h

/-- A field that may be missing is made of a value. -/
lemma mem_fieldOfOption {α : Type} {field : α → RawField} {value : Option α} {g : RawField}
    (h : g ∈ fieldOfOption field value) : ∃ a, field a = g := by
  obtain ⟨a, -, ha⟩ := List.mem_map.1 h
  exact ⟨a, ha⟩

/-- Fields that take fewer than 2 ^ 64 bytes can be read, for no block among them is longer. -/
lemma isWritable_of_mem_fields {m : WireMessage} (hlength : m.encode.length < 2 ^ (64 : Nat))
    {f : RawField} (h : f ∈ m.fields) : f.IsWritable := by
  have hshort : f.bytes.length < 2 ^ (64 : Nat) := by
    obtain ⟨before, after, hsplit⟩ := List.append_of_mem h
    rw [encode_eq, hsplit, List.flatMap_append, List.flatMap_cons] at hlength
    simp only [List.length_append] at hlength
    omega
  have hblock {number : Nat} {b : List UInt8} (hf : f = ⟨number, .block b⟩) :
      b.length < 2 ^ (64 : Nat) := by
    rw [hf] at hshort
    simp only [RawField.bytes, RawField.block, List.length_append] at hshort
    omega
  simp only [fields, List.mem_append, or_assoc] at h
  rcases h with h | h | h | h | h | h | h | h | h | h
  · obtain rfl := mem_fieldUnless h
    exact RawField.isWritable_varint (by decide) (Varint.ofInt32_lt _)
  · obtain rfl := mem_fieldUnless h
    exact RawField.isWritable_varint (by decide) (by decide)
  · obtain ⟨s, rfl⟩ := mem_fieldOfOption h
    exact RawField.isWritable_block (by decide) (hblock rfl)
  · obtain ⟨n, rfl⟩ := mem_fieldOfOption h
    exact RawField.isWritable_varint (by decide) (Varint.zigzag_lt n)
  · obtain ⟨b, rfl⟩ := mem_fieldOfOption h
    exact RawField.isWritable_block (by decide) (hblock rfl)
  · obtain rfl := mem_fieldUnless h
    exact RawField.isWritable_fixed64 (by decide) (length_wordBytes _)
  · obtain rfl := mem_fieldUnless h
    exact RawField.isWritable_varint (by decide) (by decide)
  · obtain ⟨e, -, rfl⟩ := List.mem_map.1 h
    exact RawField.isWritable_block (by decide) (hblock rfl)
  · obtain rfl := mem_fieldUnless h
    exact RawField.isWritable_varint (by decide) (Varint.ofInt32_lt _)
  · obtain rfl := mem_fieldUnless h
    exact RawField.isWritable_varint (by decide) (by decide)

/-- The bytes of an element are fewer than those of the message. -/
lemma length_encode_le {m e : WireMessage} (h : e ∈ m.elements) :
    e.encode.length ≤ m.encode.length := by
  have hf : elementField e ∈ m.fields := by
    simp only [fields, List.mem_append]
    exact .inl (.inl (.inr (List.mem_map_of_mem h)))
  obtain ⟨before, after, hsplit⟩ := List.append_of_mem hf
  rw [encode_eq m, hsplit, List.flatMap_append, List.flatMap_cons]
  simp only [elementField, RawField.bytes, RawField.block, List.length_append]
  omega

/-! ## Absorbing fields -/

section Absorb

variable {element : List UInt8 → Except String WireMessage} {limit : Nat} {m m' : WireMessage}

/-- Fields are taken in one after the other. -/
lemma foldlM_append_eq {fs gs : List RawField} {r : Except String WireMessage}
    (hf : fs.foldlM (absorb element limit) m = .ok m')
    (hg : gs.foldlM (absorb element limit) m' = r) :
    (fs ++ gs).foldlM (absorb element limit) m = r := by
  rw [List.foldlM_append, hf]
  exact hg

/-- A field that may be left out is absorbed when leaving it out changes nothing. -/
lemma foldlM_fieldUnless {leftOut : Bool} {f : RawField} (hout : leftOut = true → m = m')
    (hin : leftOut = false → absorb element limit m f = .ok m') :
    (fieldUnless leftOut f).foldlM (absorb element limit) m = .ok m' := by
  cases leftOut with
  | true => exact congrArg Except.ok (hout rfl)
  | false =>
    rw [fieldUnless, if_neg Bool.false_ne_true, List.foldlM_cons, hin rfl]
    rfl

/-- A number of 32 bits is taken in again, left out when it is zero. -/
lemma foldlM_int32 (set : Int32 → WireMessage) {number : Nat} {n : Int32}
    (h : ∀ v, absorb element limit (set 0) ⟨number, .varint v⟩ = .ok (set (Varint.toInt32 v))) :
    (fieldUnless (n == 0) ⟨number, .varint (Varint.ofInt32 n)⟩).foldlM (absorb element limit) (set 0)
      = .ok (set n) := by
  refine foldlM_fieldUnless (fun hn => ?_) (fun _ => ?_)
  · rw [eq_of_beq hn]
  · rw [h, Varint.toInt32_ofInt32]

/-- A truth value is taken in again, left out when it is false. -/
lemma foldlM_bool (set : Bool → WireMessage) {number : Nat} {b : Bool}
    (h : absorb element limit (set false) ⟨number, .varint 1⟩ = .ok (set true)) :
    (fieldUnless (!b) ⟨number, .varint 1⟩).foldlM (absorb element limit) (set false)
      = .ok (set b) := by
  cases b with
  | false => rfl
  | true => exact foldlM_fieldUnless nofun fun _ => h

/-- A value that may be missing is taken in again. -/
lemma foldlM_option {α : Type} (set : Option α → WireMessage) {field : α → RawField}
    {value : Option α} (h : ∀ a, absorb element limit (set none) (field a) = .ok (set (some a))) :
    (fieldOfOption field value).foldlM (absorb element limit) (set none) = .ok (set value) := by
  cases value with
  | none => rfl
  | some a =>
    show List.foldlM _ _ [field a] = _
    rw [List.foldlM_cons, h]
    rfl

/-- A float is taken in again, left out when it is a zero, so that it loses the sign of a zero. -/
lemma foldlM_double (set : Binary64 → WireMessage) {number : Nat} {x : Binary64}
    (h : ∀ b, absorb element limit (set ⟨0⟩) ⟨number, .fixed64 b⟩ = .ok (set ⟨wordOfBytes b⟩)) :
    (fieldUnless x.value.isZero ⟨number, .fixed64 (wordBytes x.bits)⟩).foldlM
      (absorb element limit) (set ⟨0⟩) = .ok (set x.dropZeroSign) := by
  refine foldlM_fieldUnless (fun hx => ?_) (fun hx => ?_)
  · obtain rfl | rfl := Binary64.isZero_value_iff.1 hx <;> rfl
  · have hsign : x ≠ .negativeZero := by
      rintro rfl
      rw [Binary64.isZero_value_iff.2 (.inr rfl)] at hx
      cases hx
    rw [h, wordOfBytes_wordBytes, Binary64.dropZeroSign, if_neg hsign]

/-- Elements add up in their order. -/
lemma foldlM_elements (es : List WireMessage) (m : WireMessage) :
    (es.map elementField).foldlM (absorb element limit) m = do
      return { m with elements := m.elements ++ (← es.mapM fun e => element e.encode) } := by
  induction es generalizing m with
  | nil =>
    show Except.ok m = .ok { m with elements := m.elements ++ [] }
    rw [List.append_nil]
    cases m
    rfl
  | cons e es ih =>
    rw [List.map_cons, List.foldlM_cons, List.mapM_cons]
    have habsorb : absorb element limit m (elementField e)
        = do return { m with elements := m.elements ++ [← element e.encode] } := rfl
    rw [habsorb]
    simp only [bind_assoc, pure_bind, ih, List.append_assoc, List.singleton_append]

/-- **The fields of a message are absorbed into the message** that they were written for, when its
elements are read back. -/
lemma foldlM_fields (m : WireMessage) :
    m.fields.foldlM (absorb element limit) empty = do
      return { m with
        doubleValue := m.doubleValue.dropZeroSign
        elements := ← m.elements.mapM fun e => element e.encode } := by
  obtain ⟨type, boolValue, stringValue, numberValue, bytesValue, doubleValue, isNull, elements,
    componentType, implicitlyNull⟩ := m
  simp only [fields, List.append_assoc]
  -- one field after the other, each with the message that has been read so far
  refine foldlM_append_eq (foldlM_int32 (fun t => { empty with type := t }) fun _ => rfl) ?_
  refine foldlM_append_eq (foldlM_bool (fun b => { empty with type, boolValue := b }) rfl) ?_
  refine foldlM_append_eq (foldlM_option
    (fun s => { empty with type, boolValue, stringValue := s }) fun s => ?_) ?_
  · simp only [absorb, RawField.blockBytes, bind, Except.bind, textOfBytes_toUTF8]
    rfl
  refine foldlM_append_eq (foldlM_option
    (fun n => { empty with type, boolValue, stringValue, numberValue := n }) fun n => ?_) ?_
  · simp only [absorb, RawField.integer, bind, Except.bind, Varint.unzigzag_zigzag]
    rfl
  refine foldlM_append_eq (foldlM_option
    (fun b => { empty with type, boolValue, stringValue, numberValue, bytesValue := b })
    fun _ => rfl) ?_
  refine foldlM_append_eq (foldlM_double
    (fun x => { empty with type, boolValue, stringValue, numberValue, bytesValue, doubleValue := x })
    fun _ => rfl) ?_
  refine foldlM_append_eq (foldlM_bool
    (fun b => { empty with type, boolValue, stringValue, numberValue, bytesValue,
                           doubleValue := doubleValue.dropZeroSign, isNull := b }) rfl) ?_
  rw [List.foldlM_append, foldlM_elements]
  simp only [bind_assoc, pure_bind]
  refine bind_congr fun es => ?_
  refine foldlM_append_eq (foldlM_int32
    (fun t => ⟨type, boolValue, stringValue, numberValue, bytesValue, doubleValue.dropZeroSign,
      isNull, [] ++ es, t, false⟩) fun _ => rfl) ?_
  exact foldlM_bool
    (fun b => ⟨type, boolValue, stringValue, numberValue, bytesValue, doubleValue.dropZeroSign,
      isNull, [] ++ es, componentType, b⟩) rfl

end Absorb

/-! ## Messages -/

mutual

/-- How deep the elements of a message are nested; zero when there are none. -/
def depth : WireMessage → Nat
  | ⟨_, _, _, _, _, _, _, elements, _, _⟩ => depthOfElements elements

/-- How deep elements are nested, themselves included. -/
def depthOfElements : List WireMessage → Nat
  | [] => 0
  | e :: es => max (depth e + 1) (depthOfElements es)

end

mutual

/-- A message in which the zeros have lost their signs. -/
def dropZeroSigns : WireMessage → WireMessage
  | ⟨type, boolValue, stringValue, numberValue, bytesValue, doubleValue, isNull, elements,
      componentType, implicitlyNull⟩ =>
    ⟨type, boolValue, stringValue, numberValue, bytesValue, doubleValue.dropZeroSign, isNull,
      dropZeroSignsOfElements elements, componentType, implicitlyNull⟩

/-- Elements in which the zeros have lost their signs. -/
def dropZeroSignsOfElements : List WireMessage → List WireMessage
  | [] => []
  | e :: es => e.dropZeroSigns :: dropZeroSignsOfElements es

end

/-- A message is no deeper than a bound when all its elements lie below the bound. -/
lemma depth_le_iff {m : WireMessage} {n : Nat} : m.depth ≤ n ↔ ∀ e ∈ m.elements, e.depth < n := by
  obtain ⟨type, boolValue, stringValue, numberValue, bytesValue, doubleValue, isNull, elements,
    componentType, implicitlyNull⟩ := m
  rw [depth]
  show _ ↔ ∀ e ∈ elements, e.depth < n
  induction elements with
  | nil => simp [depthOfElements]
  | cons e es ih => rw [depthOfElements, max_le_iff, ih, List.forall_mem_cons, Nat.succ_le_iff]

/-- A message without signs of zeros, by its fields. -/
lemma dropZeroSigns_eq (m : WireMessage) :
    m.dropZeroSigns = { m with doubleValue := m.doubleValue.dropZeroSign
                               elements := m.elements.map dropZeroSigns } := by
  obtain ⟨type, boolValue, stringValue, numberValue, bytesValue, doubleValue, isNull, elements,
    componentType, implicitlyNull⟩ := m
  have helements : dropZeroSignsOfElements elements = elements.map dropZeroSigns := by
    induction elements with
    | nil => rfl
    | cons e es ih => rw [dropZeroSignsOfElements, ih, List.map_cons]
  rw [dropZeroSigns, helements]

/-- Only the negative zero loses its sign. -/
lemma dropZeroSign_eq_self_iff {x : Binary64} : x.dropZeroSign = x ↔ x ≠ .negativeZero := by
  rw [Binary64.dropZeroSign]
  split_ifs with h
  · rw [h]
    decide
  · simp [h]

/-- Nothing changes in a message exactly when no double in it is the negative zero. -/
lemma dropZeroSigns_eq_self_iff {m : WireMessage} :
    m.dropZeroSigns = m ↔ ∀ path e, m.element? path = some e → e.doubleValue ≠ .negativeZero := by
  induction m using elements_induction with
  | h m ih =>
    have hparts : m.dropZeroSigns = m
        ↔ m.doubleValue ≠ .negativeZero ∧ ∀ e ∈ m.elements, e.dropZeroSigns = e := by
      have hmap : m.elements.map dropZeroSigns = m.elements
          ↔ ∀ e ∈ m.elements, e.dropZeroSigns = e := by
        simpa using List.map_inj_left (l := m.elements) (f := dropZeroSigns) (g := id)
      rw [dropZeroSigns_eq, ← dropZeroSign_eq_self_iff, ← hmap]
      cases m
      simp
    rw [hparts]
    constructor
    · rintro ⟨hdouble, helements⟩ path e he
      cases path with
      | nil =>
        obtain rfl := Option.some.inj he
        exact hdouble
      | cons i path =>
        obtain ⟨child, hchild, he⟩ := Option.bind_eq_some_iff.1 he
        have hmem := List.mem_of_getElem? hchild
        exact (ih child hmem).1 (helements child hmem) path e he
    · intro h
      refine ⟨h [] m rfl, fun e he => (ih e he).2 fun path e' he' => ?_⟩
      obtain ⟨i, hi⟩ := List.getElem?_of_mem he
      exact h (i :: path) e' (Option.bind_eq_some_iff.2 ⟨e, hi, he'⟩)

/-- How the elements of a message are read, when fields enclose one another at most `depth`
deep. -/
def readElement : (depth : Nat) → List UInt8 → Except String WireMessage
  | 0, _ => .error "nested too deeply"
  | depth + 1, bytes => decodeWithin depth bytes

/-- A message is decoded by taking in the fields of its bytes. -/
lemma decodeWithin_eq (depth : Nat) (bytes : List UInt8) :
    decodeWithin depth bytes = RawField.readAll bytes >>= fun fs =>
      fs.foldlM (absorb (readElement depth) depth) empty := by
  cases depth <;> rfl

/-- **What is read from the bytes of a message**: the message without the signs of its zeros, or
nothing when its elements are nested too deep.

**Proof sketch.** By induction on the elements. The fields are found in the bytes and absorbed one
by one; a block that holds an element is read as one with a limit that is lower by one. -/
theorem decodeWithin_encode {m : WireMessage} (hlength : m.encode.length < 2 ^ (64 : Nat))
    (limit : Nat) : decodeWithin limit m.encode
      = if m.depth ≤ limit then .ok m.dropZeroSigns else .error "nested too deeply" := by
  induction m using elements_induction generalizing limit with
  | h m ih =>
    have hread : RawField.readAll m.encode = .ok m.fields := by
      rw [encode_eq]
      exact RawField.readAll_flatMap_bytes fun f hf => isWritable_of_mem_fields hlength hf
    have helement : ∀ e ∈ m.elements, readElement limit e.encode
        = if e.depth < limit then .ok e.dropZeroSigns else .error "nested too deeply" := by
      intro e he
      cases limit with
      | zero => rfl
      | succ limit =>
        rw [readElement, ih e he (Nat.lt_of_le_of_lt (length_encode_le he) hlength)]
        simp only [Nat.lt_succ_iff]
    rw [decodeWithin_eq, hread]
    show m.fields.foldlM _ _ = _
    rw [foldlM_fields, dropZeroSigns_eq]
    by_cases hdepth : ∀ e ∈ m.elements, e.depth < limit
    · rw [if_pos (depth_le_iff.2 hdepth),
        mapM_eq_ok_map fun e he => (helement e he).trans (if_pos (hdepth e he))]
      rfl
    · have hwalk : (m.elements.mapM fun e => readElement limit e.encode)
          = .error "nested too deeply" := by
        refine mapM_eq_error_of_exists (fun e he => ?_) ?_
        · rw [helement e he]
          split_ifs
          · exact .inl ⟨_, rfl⟩
          · exact .inr rfl
        · push Not at hdepth
          obtain ⟨e, he, hdeep⟩ := hdepth
          exact ⟨e, he, (helement e he).trans (if_neg (Nat.not_lt.2 hdeep))⟩
      rw [if_neg (mt depth_le_iff.1 hdepth), hwalk]
      rfl

/-- **What is read from the bytes of a message.** -/
theorem decode_encode {m : WireMessage} (hlength : m.encode.length < 2 ^ (64 : Nat)) :
    decode m.encode = if m.depth ≤ depthLimit then .ok m.dropZeroSigns
      else .error (.of (.wireBytes "nested too deeply")) := by
  rw [decode, decodeWithin_encode hlength]
  by_cases h : m.depth ≤ depthLimit
  · rw [if_pos h, if_pos h]
  · rw [if_neg h, if_neg h]

/-- **Messages come back from their bytes**, whatever is present or absent in them, as long as
their elements are not nested too deep; all that can change is that a negative zero loses its
sign. (A block of bytes tells its length in 64 bits.) -/
theorem messages_come_back {m : WireMessage} (hlength : m.encode.length < 2 ^ (64 : Nat))
    (hdepth : m.depth ≤ depthLimit) :
    decode m.encode = .ok m.dropZeroSigns
      ∧ ((∀ path e, m.element? path = some e → e.doubleValue ≠ .negativeZero) →
        decode m.encode = .ok m) := by
  have hdecode : decode m.encode = .ok m.dropZeroSigns :=
    (decode_encode hlength).trans (if_pos hdepth)
  refine ⟨hdecode, fun hzero => ?_⟩
  rw [hdecode, dropZeroSigns_eq_self_iff.2 hzero]

/-- A message with present values that are empty or zero, numbers that name no tag, and elements
two deep with the least integer and a negative zero. -/
theorem messages_come_back_with_defaults :
    decode (encode ⟨-7, true, some "", some 0, some [], ⟨0x7ff8000000000001⟩, false,
        [{ absent with elements := [{ empty with numberValue := some Int64.minValue }] },
          { empty with doubleValue := .negativeZero }], 4711, false⟩)
      = .ok ⟨-7, true, some "", some 0, some [], ⟨0x7ff8000000000001⟩, false,
        [{ absent with elements := [{ empty with numberValue := some Int64.minValue }] }, empty],
          4711, false⟩ :=
  (messages_come_back (by decide +kernel) (by decide +kernel)).1

end WireMessage

end TypedRows
