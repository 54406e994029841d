import TypedRows.Proofs.Wire.MixedLists

/-!
# Untagged lists on the wire

A list that was given no tag for its elements is checked as a list only. The writer puts its
elements under the tag that the first one suggests, and it takes other numbers there than the
check of that tag would: floats and decimals are cut to integers, decimals are rounded to floats
and texts are read as decimals. The elements come back as they were when that changes none of
them.

## Main definitions

* `TypedRows.SerialValue.untagged` — what a value without parts is read as without a tag.
* `TypedRows.Tag.Writes` — the elements that are written under a tag.
* `TypedRows.Tag.Preserves` — the elements that come back as they were.

## Main results

* `TypedRows.SerialValue.exists_scalarWire_iff` — what is written.
* `TypedRows.SerialValue.exists_toLocal_iff` — what is written and comes back as it was.
* `TypedRows.Tagged.untagged_lists_unaltered_iff` — the lists that the wire does not alter.
-/

set_option autoImplicit false

namespace TypedRows

/-- The local value that a value without parts is read as when it has no tag. -/
def SerialValue.untagged : SerialValue → LocalValue
  | bool b => .bool b
  | integer n => .long n
  | float x => .double x
  | decimal d => .decimal d
  | string s => .string s
  | _ => .null

namespace Tag

/-- The elements that are written under the tag that an element suggests: nulls and what has the
variant of the tag; moreover any number under the tag of floats, numbers with an integer part of 64
bits under that of integers, and finite numbers and the texts of decimals under that of decimals. -/
def Writes (tag : Tag) : SerialValue → Prop
  | .null => True
  | .bool _ => tag = .boolean
  | .integer _ => tag = .long ∨ tag = .double ∨ tag = .number
  | .float x => tag = .long ∨ tag = .double ∨ tag = .number ∧ x.value.isFinite = true
  | .decimal d => tag = .double ∨ tag = .number ∨ tag = .long ∧ ∃ n, d.toInt64? = some n
  | .string s => tag = .string ∨ tag = .number ∧ ∃ d, Decimal.read? s = some d
  | _ => False

/-- The elements that come back as they were: those that the tag keeps. A decimal under the tag of
floats comes back when the float that it is taken for is the number of the decimal. -/
def Preserves (tag : Tag) (s : SerialValue) : Prop :=
  match tag, s with
  | .double, .decimal d => d.toBinary64.value.quantity = d.quantity
  | _, _ => tag.Keeps s.untagged

end Tag

namespace SerialValue

variable {s t : SerialValue}

/-! ## Values without a tag -/

/-- What a scalar is read as without a tag is a scalar. -/
lemma isScalar_untagged (h : s.isScalar = true) : s.untagged.isScalar = true := by
  cases s <;> first | rfl | cases h

/-- The plain form of what a scalar is read as without a tag is the scalar. -/
lemma scalarSerial_untagged (h : s.isNull = true ∨ s.isScalar = true) :
    s.untagged.scalarSerial = s := by
  cases s <;> first | rfl | simp [isNull, isScalar] at h

/-- A scalar without a tag is read as such. -/
lemma toPlainLocal_eq (h : s.isNull = true ∨ s.isScalar = true) :
    s.toPlainLocal = .ok s.untagged := by
  cases s <;> first | rfl | simp [isNull, isScalar] at h

/-- The tag that a form suggests is that of what it is read as. -/
lemma ofSerial_eq (h : s.isScalar = true) : Tag.ofSerial s = .ofLocal s.untagged := by
  cases s <;> first | rfl | cases h

/-- No value without parts suggests a tag that holds nothing, that of arrays or that of characters,
whose texts may be of one character only. -/
lemma ofSerial_of_isScalar (h : s.isScalar = true) : (Tag.ofSerial s).holdsNothing = false
    ∧ Tag.ofSerial s ≠ .array ∧ (Tag.ofSerial s).boxed ≠ .character := by
  cases s with
  | null | list | typed => cases h
  | _ => exact ⟨rfl, nofun, nofun⟩

/-! ## Writing -/

/-- The tag of long integers writes what can be taken for an integer. -/
lemma exists_scalarWire_long_iff :
    (∃ m, s.scalarWire .long = .ok m) ↔ ∃ n, s.integer? = some n := by
  have hlong : Tag.long.isIntegral = true := rfl
  simp only [scalarWire, Tag.boxed, hlong]
  cases s.integer? <;> simp

/-- The tag of doubles writes what can be taken for a float. -/
lemma exists_scalarWire_double_iff :
    (∃ m, s.scalarWire .double = .ok m) ↔ ∃ x, s.float? = some x := by
  simp only [scalarWire, Tag.boxed]
  cases s.float? <;> simp

/-- The tag of decimals writes what can be taken for a decimal. -/
lemma exists_scalarWire_number_iff :
    (∃ m, s.scalarWire .number = .ok m) ↔ ∃ d, s.toDecimal .number = .ok d := by
  cases s with
  | integer n => exact iff_of_true ⟨_, rfl⟩ ⟨_, rfl⟩
  | _ =>
    simp only [scalarWire, Tag.boxed]
    exact exists_map_eq_ok_iff

/-- **What is written under the tag that a value suggests.**

**Proof sketch.** Under a tag of numbers that is what can be taken for such a number, and under
another tag it is the variant of the tag. -/
lemma exists_scalarWire_iff (ht : t.isScalar = true) (hs : s.isScalar = true) :
    (∃ m, s.scalarWire (.ofSerial t) = .ok m) ↔ (Tag.ofSerial t).Writes s := by
  cases t with
  | null | list | typed => cases ht
  | bool | string =>
    cases s <;> first | (cases hs; done) | simp [scalarWire, Tag.ofSerial, Tag.boxed, Tag.Writes]
  | integer =>
    rw [Tag.ofSerial, exists_scalarWire_long_iff]
    cases s <;> first | (cases hs; done) | simp [integer?, Tag.Writes]
  | float =>
    rw [Tag.ofSerial, exists_scalarWire_double_iff]
    cases s <;> first | (cases hs; done) | simp [float?, Tag.Writes]
  | decimal =>
    rw [Tag.ofSerial, exists_scalarWire_number_iff]
    cases s with
    | null | list | typed => cases hs
    | bool | integer | decimal => simp [toDecimal, Tag.Writes]
    | float x =>
      simp only [toDecimal, Tag.Writes, ← Decimal.exists_ofBinary64?_iff]
      cases Decimal.ofBinary64? x <;> simp
    | string u =>
      simp only [toDecimal, Tag.Writes]
      cases Decimal.read? u <;> simp

/-- The elements that are written are those that the check of the tag lets in, floats and decimals
under the tag of integers, decimals under that of floats, and texts under that of decimals. -/
lemma admits_or_of_writes (hs : s.isScalar = true) (h : (Tag.ofSerial t).Writes s) :
    (Tag.ofSerial t).Admits s.untagged
      ∨ Tag.ofSerial t = .long ∧ ((∃ x, s = .float x) ∨ ∃ d, s = .decimal d)
      ∨ Tag.ofSerial t = .double ∧ (∃ d, s = .decimal d)
      ∨ Tag.ofSerial t = .number ∧ ∃ u, s = .string u := by
  have hadmits {c : Tag} (hc : Tag.ofSerial t = c) (hshape : s.hasShape c = true)
      (hne : c ≠ .byteString) : (Tag.ofSerial t).Admits s.untagged := by
    refine .inr ⟨?_, fun hbytes => absurd (hc.symm.trans hbytes) hne⟩
    rwa [scalarSerial_untagged (.inr hs), hc]
  cases s with
  | null | list | typed => cases hs
  | bool b => exact .inl (hadmits h rfl nofun)
  | integer n => obtain h | h | h := h <;> exact .inl (hadmits h rfl nofun)
  | float x =>
    obtain h | h | ⟨h, -⟩ := h
    · exact .inr (.inl ⟨h, .inl ⟨x, rfl⟩⟩)
    · exact .inl (hadmits h rfl nofun)
    · exact .inl (hadmits h rfl nofun)
  | decimal d =>
    obtain h | h | ⟨h, -⟩ := h
    · exact .inr (.inr (.inl ⟨h, d, rfl⟩))
    · exact .inl (hadmits h rfl nofun)
    · exact .inr (.inl ⟨h, .inr ⟨d, rfl⟩⟩)
  | string u =>
    obtain h | ⟨h, -⟩ := h
    · exact .inl (hadmits h rfl nofun)
    · exact .inr (.inr (.inr ⟨h, u, rfl⟩))

/-- A number whose integer part is taken comes back as it was when it is an integer of 64 bits. -/
lemma exists_toLocal_long_iff {q : Quantity} (hs : s.isScalar = true)
    (hq : s.untagged.meaning? = some (.number q)) (hn : ∃ n, s.integer? = some n)
    (hcut : ∀ n : Int64, q = .ofInt n.toInt → s.integer? = some n) :
    (∃ v, s.toLocal .long none = .ok v ∧ v.meaning? = s.untagged.meaning?)
      ↔ Tag.long.Keeps s.untagged := by
  obtain ⟨n, hn⟩ := hn
  have hlocal : s.toLocal .long none = .ok (.long n) := by
    rw [toLocal_of_isScalar hs]
    simp [scalarLocal, Tag.boxed, integral, hn, bind, Except.bind, pure, Except.pure]
  have hkeeps : Tag.long.Keeps s.untagged
      ↔ ∃ w, Tag.ofLocal w = .long ∧ w.meaning? = s.untagged.meaning? :=
    LocalValue.keeps_iff (isScalar_untagged hs) fun h => by cases h
  rw [hkeeps, hlocal]
  constructor
  · rintro ⟨v, hv, hlike⟩
    obtain rfl := Except.ok.inj hv
    exact ⟨.long n, rfl, hlike⟩
  · rintro ⟨w, hw, hlike⟩
    obtain ⟨k, rfl⟩ : ∃ k, w = .long k := by
      cases w <;> first | exact ⟨_, rfl⟩ | cases hw
    rw [hq, LocalValue.meaning?, Option.some.injEq, Meaning.number.injEq] at hlike
    obtain rfl : n = k := Option.some.inj (hn.symm.trans (hcut k hlike.symm))
    exact ⟨_, rfl, by rw [hq, LocalValue.meaning?, hlike]⟩

/-- **What is written comes back as it was** when the tag preserves it, and only then. -/
lemma exists_toLocal_iff (ht : t.isScalar = true) (hs : s.isScalar = true)
    (h : (Tag.ofSerial t).Writes s) :
    (∃ v, s.toLocal (.ofSerial t) none = .ok v ∧ v.meaning? = s.untagged.meaning?)
      ↔ (Tag.ofSerial t).Preserves s := by
  have hserial := scalarSerial_untagged (.inr hs)
  obtain ha | ⟨hc, hcases⟩ | ⟨hc, d, rfl⟩ | ⟨hc, u, rfl⟩ := admits_or_of_writes hs h
  · have hiff := LocalValue.exists_toLocal_iff (u := t.untagged) (isScalar_untagged hs)
      (by rwa [← ofSerial_eq ht])
    rw [hserial, ← ofSerial_eq ht] at hiff
    rw [hiff, Tag.Preserves]
    rintro d hd rfl
    rw [hd] at ha
    cases (ha.resolve_left nofun).1
  · rw [hc]
    obtain ⟨x, rfl⟩ | ⟨d, rfl⟩ := hcases
    · exact exists_toLocal_long_iff rfl rfl ⟨_, rfl⟩ fun n hn =>
        congrArg some (FloatValue.toInt64_of_quantity hn)
    · refine exists_toLocal_long_iff rfl rfl ?_ fun n hn => Decimal.toInt64?_of_quantity hn
      rw [hc] at h
      simpa [Tag.Writes, integer?] using h
  · have hlocal : (decimal d).toLocal .double none = .ok (.double d.toBinary64) := rfl
    rw [hc, hlocal]
    simp [Tag.Preserves, untagged, LocalValue.meaning?]
  · rw [hc, Tag.Preserves]
    · refine iff_of_false ?_ ?_
      · rintro ⟨v, hv, hlike⟩
        obtain ⟨d, -, hv⟩ := bind_eq_ok_iff.1 hv
        obtain rfl := Except.ok.inj hv
        cases hlike
      · rw [LocalValue.keeps_iff rfl fun _ x hx => SerialValue.noConfusion hx]
        rintro ⟨w, hw, hlike⟩
        cases w <;> first | (cases hw; done) | cases hlike
    · intro d hd
      cases hd

/-! ## Elements -/

/-- A scalar element is written under the tag of the array. -/
lemma elementWire_eq (c : Tag) (hs : s.isScalar = true) : s.elementWire c = s.scalarWire c := by
  cases s <;> first | rfl | cases hs

/-- What is read of the message of an element denotes what the element denotes under the tag. -/
lemma readMessage_of_scalarWire (ht : t.isScalar = true) (hs : s.isScalar = true) {m : WireMessage}
    (hm : s.scalarWire (.ofSerial t) = .ok m) :
    ∃ v w, s.toLocal (.ofSerial t) none = .ok v
      ∧ LocalValue.readMessage (.ofSerial t) m = .ok w ∧ w.meaning? = v.meaning? := by
  obtain ⟨r, hr, hdenotes⟩ := arrives_of_written (written_of_scalarWire hm)
  obtain ⟨hnothing, harray, hchar⟩ := ofSerial_of_isScalar ht
  obtain ⟨v, w, hw, hv, halike⟩ := hdenotes fun hc => absurd hc hchar
  refine ⟨v, w, (toLocal_of_isScalar hs).trans hv, ?_, LocalValue.meaning?_eq_of_alike halike⟩
  rw [LocalValue.readMessage_of_toTyped hnothing harray hr, hw]

end SerialValue

namespace Tagged

open SerialValue

variable {items : List SerialValue} {s : SerialValue}

/-- The tag of a list is that of one of its elements, unless all are null. -/
lemma exists_ofItems (h : ∀ s ∈ items, s.isNull = true ∨ s.isScalar = true) (hs : s ∈ items)
    (hscalar : s.isScalar = true) : ∃ t, t.isScalar = true ∧ Tag.ofItems items = .ofSerial t := by
  obtain ⟨t, ht, hfind, hn⟩ := exists_find?_eq_some (p := (!·.isNull)) hs
    (by simp [isNull_of_isScalar hscalar])
  exact ⟨t, (h t ht).resolve_left (by simpa using hn), by rw [Tag.ofItems, hfind]⟩

/-- An element is written when the tag that the list suggests writes it. -/
lemma exists_elementWire_iff (h : ∀ s ∈ items, s.isNull = true ∨ s.isScalar = true)
    (hs : s ∈ items) :
    (∃ m, s.elementWire (.ofItems items) = .ok m) ↔ (Tag.ofItems items).Writes s := by
  obtain hn | hscalar := h s hs
  · obtain rfl := isNull_iff.1 hn
    exact iff_of_true ⟨_, rfl⟩ trivial
  · obtain ⟨t, ht, htag⟩ := exists_ofItems h hs hscalar
    rw [htag, elementWire_eq _ hscalar, exists_scalarWire_iff ht hscalar]

/-- What is written of an element is read as one of its meaning when the tag that the list suggests
preserves it. -/
lemma exists_readMessage_iff (h : ∀ s ∈ items, s.isNull = true ∨ s.isScalar = true)
    (hs : s ∈ items) (hw : (Tag.ofItems items).Writes s) :
    (∃ m w, s.elementWire (.ofItems items) = .ok m
        ∧ LocalValue.readMessage (.ofItems items) m = .ok w ∧ w.meaning? = s.untagged.meaning?)
      ↔ (Tag.ofItems items).Preserves s := by
  obtain ⟨m, hm⟩ := (exists_elementWire_iff h hs).2 hw
  obtain hn | hscalar := h s hs
  · obtain rfl := isNull_iff.1 hn
    refine iff_of_true ⟨_, .null, rfl, LocalValue.readMessage_null _, rfl⟩ ?_
    rw [Tag.Preserves]
    · exact .inl rfl
    · nofun
  · obtain ⟨t, ht, htag⟩ := exists_ofItems h hs hscalar
    rw [htag] at hw hm ⊢
    rw [elementWire_eq _ hscalar] at hm ⊢
    rw [← exists_toLocal_iff ht hscalar hw]
    obtain ⟨v, w, hv, hread, hlike⟩ := readMessage_of_scalarWire ht hscalar hm
    constructor
    · rintro ⟨m', w', hm', hread', hlike'⟩
      obtain rfl := Except.ok.inj (hm.symm.trans hm')
      obtain rfl := Except.ok.inj (hread.symm.trans hread')
      exact ⟨v, hv, hlike.symm.trans hlike'⟩
    · rintro ⟨v', hv', hlike'⟩
      obtain rfl := Except.ok.inj (hv.symm.trans hv')
      exact ⟨m, w, hm, hread, hlike.trans hlike'⟩

/-! ## Lists -/

/-- **A list of values without parts and without tags is not altered by the wire** exactly when the
tag that its first element suggests refuses one of the others or preserves all of them.

**Proof sketch.** Writing is one walk and reading the message another one. An element that is
written denotes, when it is read, what it denotes under the tag, so it is what it was when the tag
preserves it. -/
theorem untagged_lists_unaltered_iff
    (h : ∀ s ∈ items, s.isNull = true ∨ s.isScalar = true) :
    ∃ tv vs, Tagged.ofSerial .array (.list items) = .ok tv ∧ tv.toLocal = .ok (.list vs)
      ∧ (LocalValue.Unaltered tv.toWire (fun m => Tagged.ofWire m >>= Tagged.toLocal) vs
        ↔ (∃ s ∈ items, ¬ (Tag.ofItems items).Writes s)
          ∨ ∀ s ∈ items, (Tag.ofItems items).Preserves s) := by
  refine ⟨⟨.array, .list items, none⟩, items.map untagged, rfl, ?_, ?_⟩
  · rw [Tagged.toLocal, toLocal_list_array]
    have hwalk : items.mapM (LocalValue.readElement none) = .ok (items.map untagged) :=
      mapM_eq_ok_map fun s hs => toPlainLocal_eq (h s hs)
    rw [hwalk]
    rfl
  · have hserial : ∀ s ∈ items, s.untagged.scalarSerial = s := fun s hs =>
      scalarSerial_untagged (h s hs)
    have hwalk : items.mapM (elementWire (.ofItems items))
        = (items.map untagged).mapM fun v => v.scalarSerial.elementWire (.ofItems items) := by
      have hmap : (items.map untagged).map LocalValue.scalarSerial = items := by
        rw [List.map_map]
        exact (List.map_congr_left hserial).trans (List.map_id items)
      conv_lhs => rw [← hmap, List.mapM_map]
      rw [hmap]
      rfl
    have hencoded (m : WireMessage) : (⟨.array, .list items, none⟩ : TypedValue).toWire = .ok m
        ↔ ∃ ms, List.Forall₂ (fun v m => v.scalarSerial.elementWire (.ofItems items) = .ok m)
            (items.map untagged) ms ∧ .ofElements (.ofItems items) ms = m := by
      simp only [Tagged.toWire, toWire_list_array, map_eq_ok_iff, Option.getD_none,
        ← mapM_eq_ok_iff, hwalk]
    rw [LocalValue.unaltered_iff hencoded fun _ _ => LocalValue.toLocal_ofElements_eq_ok_iff]
    simp only [List.mem_map, forall_exists_index, and_imp, forall_apply_eq_imp_iff₂,
      exists_exists_and_eq_and]
    have hrefused : (∃ s ∈ items, ¬ ∃ m, s.untagged.scalarSerial.elementWire (.ofItems items) = .ok m)
        ↔ ∃ s ∈ items, ¬ (Tag.ofItems items).Writes s :=
      exists_congr fun s => and_congr_right fun hs => by
        rw [hserial s hs, exists_elementWire_iff h hs]
    rw [hrefused]
    refine or_congr_right' fun hwritten => forall₂_congr fun s hs => ?_
    push Not at hwritten
    rw [hserial s hs]
    exact exists_readMessage_iff h hs (hwritten s hs)

/-- Whole numbers in other forms come back as integers of the same value. -/
theorem untagged_lists_unaltered_whole_numbers :
    ∃ tv vs, Tagged.ofSerial .array
        (.list [.integer 1, .float ⟨0x4000000000000000⟩, .null, .decimal ⟨30, 1⟩]) = .ok tv
      ∧ tv.toLocal = .ok (.list vs)
      ∧ LocalValue.Unaltered tv.toWire (fun m => Tagged.ofWire m >>= Tagged.toLocal) vs := by
  obtain ⟨tv, vs, htv, hvs, hiff⟩ := @untagged_lists_unaltered_iff
    [.integer 1, .float ⟨0x4000000000000000⟩, .null, .decimal ⟨30, 1⟩]
    (by simp [SerialValue.isNull, SerialValue.isScalar])
  refine ⟨tv, vs, htv, hvs, hiff.2 (.inr ?_)⟩
  have htwo : (⟨0x4000000000000000⟩ : Binary64).value.quantity = .ofInt 2 := by
    have hvalue : (⟨0x4000000000000000⟩ : Binary64).value = .finite false (2 ^ 52) (-51) := by
      decide +kernel
    rw [hvalue]
    norm_num [FloatValue.quantity, FloatValue.rational, Quantity.ofInt]
  have hthree : (⟨30, 1⟩ : Decimal).quantity = .ofInt 3 := by
    have hscale : (1 : Int64).toInt = 1 := rfl
    norm_num [Decimal.quantity, Quantity.ofInt, hscale]
  simp only [List.forall_mem_cons, List.not_mem_nil, false_imp_iff, implies_true, and_true]
  refine ⟨.inr ⟨.long 1, rfl, rfl⟩, .inr ⟨.long 2, rfl, ?_⟩, .inl rfl, .inr ⟨.long 3, rfl, ?_⟩⟩
  · exact congrArg (some <| Meaning.number ·) htwo.symm
  · exact congrArg (some <| Meaning.number ·) hthree.symm

/-- An integer in front cuts a float to an integer. -/
theorem untagged_lists_altered :
    ∃ tv m, Tagged.ofSerial .array (.list [.integer 1, .float ⟨0x4004000000000000⟩]) = .ok tv
      ∧ tv.toLocal = .ok (.list [.long 1, .double ⟨0x4004000000000000⟩])
      ∧ tv.toWire = .ok m
      ∧ (Tagged.ofWire m >>= Tagged.toLocal) = .ok (.list [.long 1, .long 2])
      ∧ ¬ LocalValue.Unaltered tv.toWire (fun m => Tagged.ofWire m >>= Tagged.toLocal)
        [.long 1, .double ⟨0x4004000000000000⟩] := by
  have hread : (⟨.array, .list [.integer 1, .float ⟨0x4004000000000000⟩], none⟩ :
      TypedValue).toWire >>= (fun m => Tagged.ofWire m >>= Tagged.toLocal)
        = .ok (.list [.long 1, .long 2]) := rfl
  obtain ⟨m, hm, hback⟩ := bind_eq_ok_iff.1 hread
  refine ⟨_, m, rfl, rfl, hm, hback, LocalValue.not_unaltered hread ?_⟩
  have hvalue : (⟨0x4004000000000000⟩ : Binary64).value
      = .finite false (2 ^ 52 + 2 ^ 50) (-51) := by
    decide +kernel
  have htwo : (2 : Int64).toInt = 2 := rfl
  simp only [List.forall₂_cons, LocalValue.meaning?, hvalue]
  norm_num [FloatValue.quantity, FloatValue.rational, Quantity.ofInt, htwo]

end Tagged

end TypedRows
