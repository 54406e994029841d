import TypedRows.Proofs.Number.Quantity
import TypedRows.Proofs.Value.ArrayElements

/-!
# Elements under the tag of another one

The tag of a list is that of its first element, and every other element is written and read under
it. An element of another variant is refused when its plain form has not the shape of the tag.
What is let in is read as a value of the variant of the tag, whatever the element was: it is the
value of the element only if that variant has one.

## Main definitions

* `TypedRows.Meaning`, `TypedRows.LocalValue.meaning?` — what a value without parts stands for.
* `TypedRows.Tag.Admits` — the elements that a tag lets in.
* `TypedRows.Tag.Keeps` — the elements that stay what they are under a tag.
* `TypedRows.LocalValue.Unaltered` — a list is not encoded, or is read as it was.

## Main results

* `TypedRows.LocalValue.encodeElement_eq_ok_iff` — what is let in is encoded in its plain form.
* `TypedRows.LocalValue.exists_toLocal_iff` — it is read as it was when the tag keeps it.
* `TypedRows.LocalValue.unaltered_typed_iff` — the lists that their typed values do not alter.
-/

set_option autoImplicit false

namespace TypedRows

/-! ## What a value stands for -/

/-- What a value without parts stands for. The variants of numbers do not count, whereas a
character, a text and a byte string are never the same. -/
inductive Meaning where
  | absent
  | truth (value : Bool)
  | number (quantity : Quantity)
  | character (value : Char)
  | text (value : String)
  | bytes (value : List UInt8)
  deriving DecidableEq

namespace LocalValue

/-- What a value stands for that has no parts. -/
def meaning? : LocalValue → Option Meaning
  | null => some .absent
  | bool b => some (.truth b)
  | byte n => some (.number (.ofInt n.toInt))
  | short n => some (.number (.ofInt n.toInt))
  | int n => some (.number (.ofInt n.toInt))
  | long n => some (.number (.ofInt n.toInt))
  | float x => some (.number x.value.quantity)
  | double x => some (.number x.value.quantity)
  | decimal d => some (.number d.quantity)
  | char c => some (.character c)
  | string s => some (.text s)
  | bytes b => some (.bytes b)
  | _ => none

/-- A list is not altered silently: it is not encoded, or it is read with as many items, each of the
meaning that it had. -/
def Unaltered {α : Type} (encoded : Except Error α) (decode : α → Except Error LocalValue)
    (items : List LocalValue) : Prop :=
  ∀ a, encoded = .ok a → ∃ results, decode a = .ok (.list results)
    ∧ List.Forall₂ (fun v w => w.meaning? = v.meaning?) items results

end LocalValue

namespace Tag

/-- The elements that a tag lets in: nulls and what has the shape of the tag in its plain form.
That of byte strings lets nothing else in, although their plain form is a text. -/
def Admits (tag : Tag) (v : LocalValue) : Prop :=
  v.isNull = true ∨ v.scalarSerial.hasShape tag = true
    ∧ (tag = .byteString → ofLocal v = .byteString)

/-- The elements that stay what they are under a tag: nulls, and what has its like in the variant of
the tag. Under the tag of decimals a float is read as the decimal that its text shows, which has
to be the number of the float. -/
def Keeps (tag : Tag) (v : LocalValue) : Prop :=
  v.isNull = true ∨
    match tag, v.scalarSerial with
    | .number, .float x =>
      ∃ d, Decimal.ofBinary64? x = some d ∧ (LocalValue.decimal d).meaning? = v.meaning?
    | _, _ => ∃ w, ofLocal w = tag ∧ w.meaning? = v.meaning?

end Tag

namespace LocalValue

variable {u v w : LocalValue}

/-! ## Encoding -/

/-- A scalar is encoded in its plain form where no tag is asked. -/
lemma carried_plain (tag : Tag) (hv : v.isScalar = true) :
    v.carried tag .plain = .ok v.scalarSerial := by
  cases v <;> first | rfl | cases hv

/-- The tag of byte strings makes nothing of any other value. -/
lemma carried_bytes_eq_ok_iff {tag : Tag} (hv : v.isScalar = true) {s : SerialValue} :
    v.carried tag .bytes = .ok s ↔ v.scalarSerial = s ∧ Tag.ofLocal v = .byteString := by
  cases v <;> first | (simp [carried, Tag.ofLocal]; done) | cases hv

/-- Only the tag of byte strings makes something else of a scalar than its plain form. -/
lemma carrier_ofLocal (hu : u.isScalar = true) :
    Carrier.of (.ofLocal u) none
      = if Tag.ofLocal u = .byteString then .bytes else .plain := by
  cases u <;> first | rfl | cases hu

/-- An element under the tag of a scalar is encoded and checked under it. -/
lemma encodeElement_ofLocal (hu : u.isScalar = true) (v : LocalValue) :
    encodeElement (some (.ofLocal u)) v
      = SerialValue.checked (.ofLocal u) (v.carried (.ofLocal u) (.of (.ofLocal u) none)) := by
  cases u <;> first | rfl | cases hu

/-- **What a tag lets in is encoded in its plain form**, and nothing else is encoded. -/
lemma encodeElement_eq_ok_iff (hu : u.isScalar = true) (hv : v.isScalar = true)
    {s : SerialValue} : encodeElement (some (.ofLocal u)) v = .ok s
      ↔ (Tag.ofLocal u).Admits v ∧ v.scalarSerial = s := by
  have hnull := isNull_of_isScalar hv
  have hs := SerialValue.isNull_of_isScalar (isScalar_scalarSerial hv)
  have hcheck : v.scalarSerial.check (.ofLocal u) = .ok ()
      ↔ v.scalarSerial.hasShape (.ofLocal u) = true := by
    rw [SerialValue.check_eq_ok_iff, hs]
    cases u <;> first | (simp [Tag.ofLocal, Tag.holdsNothing, Tag.boxed]; done) | cases hu
  have hcarried {t : SerialValue} : v.carried (.ofLocal u) (.of (.ofLocal u) none) = .ok t
      ↔ v.scalarSerial = t ∧ (Tag.ofLocal u = .byteString → Tag.ofLocal v = .byteString) := by
    rw [carrier_ofLocal hu]
    split_ifs with hbytes
    · simp [carried_bytes_eq_ok_iff hv, hbytes]
    · simp [carried_plain _ hv, hbytes]
  rw [encodeElement_ofLocal hu, SerialValue.checked, bind_eq_ok_iff]
  simp only [hcarried, bind_eq_ok_iff, pure, Except.pure, Except.ok.injEq, Tag.Admits, hnull,
    Bool.false_eq_true, false_or]
  constructor
  · rintro ⟨_, ⟨rfl, hbytes⟩, ⟨⟨⟩, hshape, rfl⟩⟩
    exact ⟨⟨hcheck.1 hshape, hbytes⟩, rfl⟩
  · rintro ⟨⟨hshape, hbytes⟩, rfl⟩
    exact ⟨_, ⟨rfl, hbytes⟩, (), hcheck.2 hshape, rfl⟩

/-! ## Reading -/

/-- The plain form of a number denotes the same. -/
lemma scalarSerial_number {q : Quantity} (h : v.meaning? = some (.number q)) :
    (∃ n, v.scalarSerial = .integer n ∧ q = .ofInt n.toInt)
      ∨ (∃ x, v.scalarSerial = .float x ∧ q = x.value.quantity)
      ∨ ∃ d, v.scalarSerial = .decimal d ∧ q = d.quantity := by
  cases v with
  | byte n | short n | int n | long n =>
    obtain rfl : Quantity.ofInt _ = q := by simpa [meaning?] using h
    exact .inl ⟨_, rfl, by simp⟩
  | float x =>
    obtain rfl : x.value.quantity = q := by simpa [meaning?] using h
    exact .inr (.inl ⟨_, rfl, (Binary64.quantity_ofBinary32 x).symm⟩)
  | double x =>
    obtain rfl : x.value.quantity = q := by simpa [meaning?] using h
    exact .inr (.inl ⟨_, rfl, rfl⟩)
  | decimal d =>
    obtain rfl : d.quantity = q := by simpa [meaning?] using h
    exact .inr (.inr ⟨_, rfl, rfl⟩)
  | _ => simp [meaning?] at h

/-- **The variant of a tag has the like of a value**: then the value is read as its like. -/
lemma exists_toLocal_of_like (hw : w.isScalar = true) (hlike : w.meaning? = v.meaning?)
    (hshape : v.scalarSerial.hasShape (.ofLocal w) = true)
    (hfloat : Tag.ofLocal w = .number → ∀ x, v.scalarSerial ≠ .float x) :
    ∃ r, v.scalarSerial.toLocal (.ofLocal w) none = .ok r ∧ r.meaning? = v.meaning? := by
  cases w with
  | bool b =>
    obtain rfl : v = bool b := by cases v <;> simp_all [meaning?]
    exact ⟨_, rfl, rfl⟩
  | char c =>
    obtain rfl : v = char c := by cases v <;> simp_all [meaning?]
    exact ⟨_, toLocal_scalarSerial_id rfl (Tag.native_ofLocal _).symm none, rfl⟩
  | string s =>
    obtain rfl : v = string s := by cases v <;> simp_all [meaning?]
    exact ⟨_, rfl, rfl⟩
  | bytes b =>
    obtain rfl : v = bytes b := by cases v <;> simp_all [meaning?]
    exact ⟨_, toLocal_scalarSerial_id rfl (Tag.native_ofLocal _).symm none, rfl⟩
  | byte k | short k | int k | long k =>
    obtain ⟨n, hn, hk⟩ | ⟨x, hx, -⟩ | ⟨d, hd, -⟩ := scalarSerial_number hlike.symm
    · have hsame : n.toInt = k.toInt := (Quantity.ofInt_inj.1 hk).symm
      rw [hn, ← hlike]
      exact ⟨_, rfl, by simp [meaning?, hsame]⟩
    · rw [hx] at hshape
      cases hshape
    · rw [hd] at hshape
      cases hshape
  | float y =>
    obtain ⟨n, hn, hy⟩ | ⟨x, hx, hy⟩ | ⟨d, hd, -⟩ := scalarSerial_number hlike.symm
    · -- a whole number that stands for the same as a float of 32 bits is exact at 64 bits too
      have hwide : (Binary64.ofInt n.toInt).value.quantity = .ofInt n.toInt :=
        Binary64.quantity_ofInt ((Binary64.quantity_ofBinary32 y).trans hy)
      have hnarrow := Binary32.quantity_ofBinary64 (hy.trans hwide.symm)
      rw [hn, ← hlike]
      exact ⟨_, rfl, by rw [meaning?, meaning?, hnarrow, hwide, hy]⟩
    · rw [hx, ← hlike]
      exact ⟨_, rfl, by rw [meaning?, meaning?, Binary32.quantity_ofBinary64 hy, hy]⟩
    · rw [hd] at hshape
      cases hshape
  | double y =>
    obtain ⟨n, hn, hy⟩ | ⟨x, hx, hy⟩ | ⟨d, hd, -⟩ := scalarSerial_number hlike.symm
    · rw [hn, ← hlike]
      exact ⟨_, rfl, by rw [meaning?, meaning?, Binary64.quantity_ofInt hy, hy]⟩
    · rw [hx, ← hlike]
      exact ⟨_, rfl, by rw [meaning?, meaning?, hy]⟩
    · rw [hd] at hshape
      cases hshape
  | decimal d =>
    obtain ⟨n, hn, hd⟩ | ⟨x, hx, -⟩ | ⟨d', hd', hd⟩ := scalarSerial_number hlike.symm
    · rw [hn, ← hlike]
      exact ⟨_, rfl, by rw [meaning?, meaning?, Decimal.quantity_ofInt, hd]⟩
    · exact absurd hx (hfloat rfl x)
    · rw [hd', ← hlike]
      exact ⟨_, rfl, by rw [meaning?, meaning?, hd]⟩
  | _ => cases hw

/-- What stands for the same as a scalar is a scalar. -/
lemma isScalar_of_like (hlike : w.meaning? = v.meaning?) (hv : v.isScalar = true) :
    w.isScalar = true := by
  cases w <;> first | rfl | (cases v <;> simp_all [meaning?, isScalar])

/-- The tag of decimals keeps a float when the decimal that its text shows is its number. -/
lemma keeps_float_iff {x : Binary64} (hv : v.isScalar = true) (hx : v.scalarSerial = .float x) :
    Tag.number.Keeps v
      ↔ ∃ d, Decimal.ofBinary64? x = some d ∧ (decimal d).meaning? = v.meaning? := by
  simp [Tag.Keeps, isNull_of_isScalar hv, hx]

/-- Otherwise a tag keeps what has its like in the variant of the tag. -/
lemma keeps_iff {tag : Tag} (hv : v.isScalar = true)
    (h : tag = .number → ∀ x, v.scalarSerial ≠ .float x) :
    tag.Keeps v ↔ ∃ w, Tag.ofLocal w = tag ∧ w.meaning? = v.meaning? := by
  rw [Tag.Keeps, isNull_of_isScalar hv]
  · simp
  · exact fun x htag hx => h htag x hx

/-- **An element that is let in is read as it was** when the tag keeps it, and only then.

**Proof sketch.** What is read is of the variant of the tag, so that an element read as it was has
its like there; if it has, then it is read as that. Floats are read as decimals by their text. -/
lemma exists_toLocal_iff (hv : v.isScalar = true) (ha : (Tag.ofLocal u).Admits v) :
    (∃ r, v.scalarSerial.toLocal (.ofLocal u) none = .ok r ∧ r.meaning? = v.meaning?)
      ↔ (Tag.ofLocal u).Keeps v := by
  have hlocal : v.scalarSerial.toLocal (.ofLocal u) none = v.scalarSerial.scalarLocal (.ofLocal u) :=
    SerialValue.toLocal_of_isScalar (isScalar_scalarSerial hv)
  have hshape := (ha.resolve_left (by simp [isNull_of_isScalar hv])).1
  by_cases hfloat : Tag.ofLocal u = .number ∧ ∃ x, v.scalarSerial = .float x
  · obtain ⟨htag, x, hx⟩ := hfloat
    rw [hlocal, htag, keeps_float_iff hv hx, hx]
    simp only [SerialValue.scalarLocal, Tag.boxed, SerialValue.toDecimal]
    cases Decimal.ofBinary64? x <;> simp [bind, Except.bind, pure, Except.pure]
  · have hplain : Tag.ofLocal u = .number → ∀ x, v.scalarSerial ≠ .float x :=
      fun htag x hx => hfloat ⟨htag, x, hx⟩
    rw [keeps_iff hv hplain]
    constructor
    · rintro ⟨r, hr, hlike⟩
      have hvariant := (SerialValue.variant_of_scalarLocal (hlocal.symm.trans hr)).2
      exact ⟨r, by rw [hvariant, Tag.native_ofLocal], hlike⟩
    · rintro ⟨w, htag, hlike⟩
      rw [← htag] at hshape hplain ⊢
      exact exists_toLocal_of_like (isScalar_of_like hlike hv) hlike hshape hplain

/-! ## Lists -/

variable {items : List LocalValue}

/-- A list is encoded in one walk and read in another one: it is not altered when an element fails
the first walk, or else every element is read as it was. -/
lemma unaltered_iff {α β : Type} {encoded : Except Error α} {decode : α → Except Error LocalValue}
    {make : List β → α} {f : LocalValue → Except Error β} {g : β → Except Error LocalValue}
    (hencoded : ∀ a, encoded = .ok a
      ↔ ∃ bs, List.Forall₂ (fun v b => f v = .ok b) items bs ∧ make bs = a)
    (hdecode : ∀ bs ws, decode (make bs) = .ok (list ws)
      ↔ List.Forall₂ (fun b w => g b = .ok w) bs ws) :
    Unaltered encoded decode items ↔ (∃ v ∈ items, ¬ ∃ b, f v = .ok b)
      ∨ ∀ v ∈ items, ∃ b w, f v = .ok b ∧ g b = .ok w ∧ w.meaning? = v.meaning? := by
  by_cases hall : ∃ bs, List.Forall₂ (fun v b => f v = .ok b) items bs
  · obtain ⟨bs, hbs⟩ := hall
    have hsome : ¬ ∃ v ∈ items, ¬ ∃ b, f v = .ok b := by
      push Not
      exact exists_mapM_eq_ok_iff.1 ⟨bs, mapM_eq_ok_iff.2 hbs⟩
    rw [or_iff_right hsome, ← exists_forall₂_and_forall₂_iff hbs]
    constructor
    · intro h
      obtain ⟨ws, hws, hlike⟩ := h _ ((hencoded _).2 ⟨bs, hbs, rfl⟩)
      exact ⟨ws, (hdecode bs ws).1 hws, hlike⟩
    · rintro ⟨ws, hws, hlike⟩ a ha
      obtain ⟨bs', hbs', rfl⟩ := (hencoded a).1 ha
      obtain rfl : bs = bs' :=
        Except.ok.inj ((mapM_eq_ok_iff.2 hbs).symm.trans (mapM_eq_ok_iff.2 hbs'))
      exact ⟨ws, (hdecode bs ws).2 hws, hlike⟩
  · have hsome : ∃ v ∈ items, ¬ ∃ b, f v = .ok b := by
      by_contra hnone
      push Not at hnone
      obtain ⟨bs, hbs⟩ := exists_mapM_eq_ok_iff.2 hnone
      exact hall ⟨bs, mapM_eq_ok_iff.1 hbs⟩
    refine iff_of_true (fun a ha => ?_) (.inl hsome)
    obtain ⟨bs, hbs, -⟩ := (hencoded a).1 ha
    exact absurd ⟨bs, hbs⟩ hall

/-- A list that is read as one of other meanings is altered. -/
lemma not_unaltered {α : Type} {encoded : Except Error α} {decode : α → Except Error LocalValue}
    {results : List LocalValue} (h : (encoded >>= decode) = .ok (list results))
    (hother : ¬ List.Forall₂ (fun v w => w.meaning? = v.meaning?) items results) :
    ¬ Unaltered encoded decode items := by
  obtain ⟨a, ha, hread⟩ := bind_eq_ok_iff.1 h
  intro hunaltered
  obtain ⟨results', hread', hsame⟩ := hunaltered a ha
  obtain rfl : results = results' := by simpa using hread.symm.trans hread'
  exact hother hsame

/-- A list without parts in its elements has the tag of one of them, unless all are null. -/
lemma exists_ofElements (h : ∀ v ∈ items, v.isNull = true ∨ v.isScalar = true) (hv : v ∈ items)
    (hscalar : v.isScalar = true) :
    ∃ u, u.isScalar = true ∧ Tag.ofElements items = .ofLocal u := by
  obtain ⟨u, hu, hfind, hn⟩ := exists_find?_eq_some (p := (!·.isNull)) hv
    (by simp [isNull_of_isScalar hscalar])
  exact ⟨u, (h u hu).resolve_left (by simpa using hn), by rw [Tag.ofElements, hfind]⟩

/-- A list is encoded element by element under the tag of its first one. -/
lemma ofLocal_list (items : List LocalValue) : Tagged.ofLocal .array (list items)
    = (⟨.array, .list ·, some (.ofElements items)⟩) <$>
        items.mapM (encodeElement (some (.ofElements items))) := by
  rw [Tagged.ofLocal, elementTag?, toSerial, Carrier.of, carried, carriedElements_eq_mapM]
  cases items.mapM (encodeElement (some (.ofElements items))) <;> rfl

/-- A list is read element by element. -/
lemma toLocal_list_eq_ok_iff {c : Tag} {ss : List SerialValue} {ws : List LocalValue} :
    (⟨.array, .list ss, some c⟩ : TypedValue).toLocal = .ok (list ws)
      ↔ List.Forall₂ (fun s w => readElement (some c) s = .ok w) ss ws :=
  Tagged.toLocal_array_iff.trans mapM_eq_ok_iff

/-- What the tag of a list lets in is encoded, and nothing else is. -/
lemma exists_encodeElement_iff (h : ∀ v ∈ items, v.isNull = true ∨ v.isScalar = true)
    (hv : v ∈ items) : (∃ s, encodeElement (some (.ofElements items)) v = .ok s)
      ↔ (Tag.ofElements items).Admits v := by
  obtain hn | hs := h v hv
  · obtain rfl := isNull_iff.1 hn
    simp [encodeElement_null, Tag.Admits, isNull]
  · obtain ⟨u, hu, htag⟩ := exists_ofElements h hv hs
    simp [htag, encodeElement_eq_ok_iff hu hs]

/-- What the tag of a list lets in is read as it was when the tag keeps it, and only then. -/
lemma exists_readElement_iff (h : ∀ v ∈ items, v.isNull = true ∨ v.isScalar = true)
    (hv : v ∈ items) (ha : (Tag.ofElements items).Admits v) :
    (∃ s w, encodeElement (some (.ofElements items)) v = .ok s
        ∧ readElement (some (.ofElements items)) s = .ok w ∧ w.meaning? = v.meaning?)
      ↔ (Tag.ofElements items).Keeps v := by
  obtain hn | hs := h v hv
  · obtain rfl := isNull_iff.1 hn
    refine iff_of_true ⟨.null, .null, encodeElement_null _, readElement_null _, rfl⟩ (.inl rfl)
  · obtain ⟨u, hu, htag⟩ := exists_ofElements h hv hs
    have hnull := isNull_of_isScalar hu
    rw [htag] at ha ⊢
    rw [← exists_toLocal_iff hs ha]
    simp [encodeElement_eq_ok_iff hu hs, ha, readElement, holdsNothing_ofLocal hnull]

/-- **A list of values without parts is not altered** by its typed value exactly when the tag of
its first element refuses one of the others or keeps all of them. -/
theorem unaltered_typed_iff (h : ∀ v ∈ items, v.isNull = true ∨ v.isScalar = true) :
    Unaltered (Tagged.ofLocal .array (list items)) Tagged.toLocal items
      ↔ (∃ v ∈ items, ¬ (Tag.ofElements items).Admits v)
        ∨ ∀ v ∈ items, (Tag.ofElements items).Keeps v := by
  have hencoded (tv : TypedValue) : Tagged.ofLocal .array (list items) = .ok tv
      ↔ ∃ ss, List.Forall₂ (fun v s => encodeElement (some (.ofElements items)) v = .ok s) items ss
        ∧ ⟨.array, .list ss, some (.ofElements items)⟩ = tv := by
    simp only [ofLocal_list, map_eq_ok_iff, mapM_eq_ok_iff]
  rw [unaltered_iff hencoded fun _ _ => toLocal_list_eq_ok_iff]
  have hrefused : (∃ v ∈ items, ¬ ∃ s, encodeElement (some (.ofElements items)) v = .ok s)
      ↔ ∃ v ∈ items, ¬ (Tag.ofElements items).Admits v :=
    exists_congr fun v => and_congr_right fun hv => not_congr (exists_encodeElement_iff h hv)
  rw [hrefused]
  refine or_congr_right' fun hadmitted => forall₂_congr fun v hv => ?_
  push Not at hadmitted
  exact exists_readElement_iff h hv (hadmitted v hv)

end LocalValue

end TypedRows
