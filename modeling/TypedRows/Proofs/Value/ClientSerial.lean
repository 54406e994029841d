import TypedRows.Proofs.Row.ClientForm

/-!
# From client values back to local values

A client value that is neither null nor an array is written under a tag at once. An array is
written element by element: each element becomes a client value under the declared type of the
elements, and that is written under the tag of the type, or under its own tag when the type is the
one of objects. What is read of the outcome is decided by the elements one by one.

## Main definitions

* `TypedRows.ClientValue.ComesBackAs` — a client value is made a typed value of some tag, and read
  as some local value.
* `TypedRows.ArrayOf.elementSerial` — the serial form of an element, by way of its client value.

## Main results

* `TypedRows.ClientValue.array_comesBackAs_iff` — an array comes back element by element.
* `TypedRows.ClientValue.record_comesBackAs_iff` — which records come back as they are.
-/

set_option autoImplicit false

namespace TypedRows

open Calendar

variable [Platform] {tag : Tag} {zone : Option Zone} {v w : LocalValue}

/-- A client value is made a typed value of a tag, and that is read as a local value. -/
def ClientValue.ComesBackAs (tag : Tag) (zone : Option Zone) (o : ClientValue) (w : LocalValue) :
    Prop :=
  ∃ tv, Tagged.ofClient tag o zone = .ok tv ∧ tv.tag = tag ∧ tv.toLocal = .ok w

/-- A client value comes back as one local value only. -/
lemma ClientValue.ComesBackAs.unique {o : ClientValue} (h : o.ComesBackAs tag zone v)
    (h' : o.ComesBackAs tag zone w) : v = w := by
  obtain ⟨tv, htv, -, hv⟩ := h
  obtain ⟨tv', htv', -, hw⟩ := h'
  obtain rfl := Except.ok.inj (htv.symm.trans htv')
  exact Except.ok.inj (hv.symm.trans hw)

/-- The serial form of a client value that is neither null nor an array. -/
lemma ClientValue.toSerial_eq_scalarSerial (tag : Tag) (zone : Option Zone) (o : ClientValue)
    (hn : o ≠ .null) (ha : ∀ a, o ≠ .array a) :
    o.toSerial tag zone = o.scalarSerial tag.boxed zone := by
  rw [toSerial]
  · exact hn
  · exact ha

/-- Null is written as null under every tag. -/
@[simp] lemma ClientValue.toSerial_null (tag : Tag) (zone : Option Zone) :
    null.toSerial tag zone = .ok .null := by
  rw [toSerial]

/-- A client value comes back as what is read of its serial form, whatever the tag of the elements
may be. -/
lemma ClientValue.comesBackAs_of_toSerial {o : ClientValue} {s : SerialValue}
    (h : o.toSerial tag zone = .ok s) (hw : ∀ component, s.toLocal tag component = .ok w) :
    o.ComesBackAs tag zone w :=
  ⟨_, bind_eq_ok_iff.2 ⟨s, h, rfl⟩, rfl, hw _⟩

/-! ## Scalars -/

omit [Platform] in
/-- A tag and its boxed counterpart share their variant. -/
@[simp] lemma Tag.native_boxed (tag : Tag) : tag.boxed.native = tag.native := by
  cases tag <;> rfl

omit [Platform] in
/-- What is widened, narrowed and widened again has the plain form it had. -/
lemma LocalValue.scalarSerial_reread (hv : v.isScalar = true) :
    (v.reread id).scalarSerial = v.scalarSerial := by
  cases v with
  | float x => simp [reread, scalarSerial]
  | list | record | struct | array => cases hv
  | _ => rfl

/-- A scalar that is no count is written under its tag as it is. -/
lemma ClientValue.toSerial_ofLocal (ht : tag.isTemporal = false) (hv : v.isScalar = true)
    (hn : Tag.ofLocal v = tag.native) (zone : Option Zone) :
    (ofLocal v).toSerial tag zone = .ok v.scalarSerial := by
  have htakes : tag.boxed.Takes v := .inl (by rw [hn, Tag.native_boxed])
  have htemporal : tag.boxed.isTemporal = false := by cases tag <;> first | rfl | cases ht
  have hlocal : (ofLocal v).toLocal? = some v := by
    cases v <;> first | rfl | cases hv
  rw [toSerial_eq_scalarSerial, scalarSerial, htemporal]
  · simp only [Bool.false_eq_true, ↓reduceIte, hlocal]
    exact LocalValue.toSerial_eq_ok_iff.2
      ⟨LocalValue.carried_scalar hv htakes, LocalValue.check_scalarSerial_of_takes htakes⟩
  all_goals cases v <;> simp_all [ofLocal, LocalValue.isScalar]

/-- **Scalars that are no counts come back** from their client values, whatever the zones. -/
lemma Tagged.exists_client_of_timeless (hv : v.isScalar = true) (hn : Tag.ofLocal v = tag.native)
    (ht : tag.isTemporal = false) (zone zone' : Option Zone) :
    ∃ o, (⟨tag, v.scalarSerial, none⟩ : TypedValue).toClient zone = .ok o
      ∧ o.toSerial tag zone' = .ok v.scalarSerial := by
  have hback := LocalValue.toLocal_scalarSerial_id hv (hn.trans (Tag.native_boxed tag).symm) none
  refine ⟨.ofLocal (v.reread id), ?_, ?_⟩
  · exact SerialValue.toClient_of_toLocal zone (LocalValue.isScalar_scalarSerial hv) ht hback
  · rw [ClientValue.toSerial_ofLocal ht (by rw [LocalValue.isScalar_reread, hv])
      (by rw [LocalValue.ofLocal_reread, hn]), LocalValue.scalarSerial_reread hv]

/-! ## Arrays -/

namespace ArrayOf

/-- The tag that the client value of an element is written under. -/
def elementTag (a : ArrayValue) (o : ClientValue) : Tag :=
  if a.component.tag.boxed.holdsNothing then .ofClient o else a.component.tag.boxed

/-- The serial form of an element, by way of its client value. -/
def elementSerial (a : ArrayValue) (zone : Option Zone) (v : LocalValue) :
    Except Error SerialValue :=
  a.elementReader.objectOf v >>= fun o => o.toSerial (a.elementTag o) zone

variable {a : ArrayValue}

/-- A null among the elements is written as null. -/
lemma elementSerial_null (a : ArrayValue) (zone : Option Zone) :
    a.elementSerial zone .null = .ok .null :=
  ClientValue.toSerial_null _ zone

/-- An element whose client value is known. -/
lemma elementSerial_of_object {o : ClientValue} (h : a.elementReader.object v = .ok o) :
    a.elementSerial zone v = o.toSerial (a.elementTag o) zone := by
  have hobject : a.elementReader.objectOf v = a.elementReader.object v := rfl
  rw [elementSerial, hobject, h]
  rfl

end ArrayOf

/-- An array is written element by element. -/
lemma ClientValue.toSerial_array_eq_ok_iff {a : ArrayValue} {s : SerialValue} :
    (array a).toSerial .array zone = .ok s
      ↔ ∃ ss, a.elements.mapM (a.elementSerial zone) = .ok ss ∧ s = .list ss := by
  have hwalk {ss : List SerialValue} : a.elements.mapM (a.elementSerial zone) = .ok ss
      ↔ (a.clientValues >>= fun os => os.mapM fun o => o.toSerial (a.elementTag o) zone)
        = .ok ss := by
    rw [ArrayOf.clientValues, mapM_bind_mapM_eq_ok_iff, mapM_eq_ok_iff]
    rfl
  have hlist : (array a).toSerial .array zone = SerialValue.list <$>
      (a.clientValues >>= fun os => os.mapM fun o => o.toSerial (a.elementTag o) zone) := by
    rw [toSerial, if_neg (by decide)]
    split
    · next h => rw [h]; rfl
    · next values h =>
      have hattach := mapM_attach (fun o => o.toSerial (a.elementTag o) zone) values
      rw [h, map_eq_pure_bind]
      exact congrArg (fun walk => walk >>= fun ss => pure (SerialValue.list ss)) hattach
  rw [hlist, map_eq_ok_iff]
  simp only [hwalk, eq_comm]

/-- The typed value of an array has the declared tag of the elements. -/
lemma Tagged.ofClient_array {a : ArrayValue} {s : SerialValue}
    (h : (ClientValue.array a).toSerial .array zone = .ok s) :
    ofClient .array (.array a) zone = .ok ⟨.array, s, some a.component.tag⟩ := by
  simp only [ofClient, h]
  rfl

/-- **An array comes back element by element.** -/
theorem ClientValue.array_comesBackAs_iff {a : ArrayValue} :
    (array a).ComesBackAs .array zone w ↔ ∃ ws, w = .list ws ∧ List.Forall₂ (fun v w =>
      a.elementSerial zone v >>= LocalValue.readElement (some a.component.tag) = .ok w)
        a.elements ws := by
  constructor
  · rintro ⟨_, htv, -, hw⟩
    obtain ⟨_, hs, h⟩ := bind_eq_ok_iff.1 htv
    obtain ⟨ss, hss, rfl⟩ := toSerial_array_eq_ok_iff.1 hs
    obtain rfl := Except.ok.inj h
    rw [Tagged.toLocal, SerialValue.toLocal_list_array] at hw
    obtain ⟨ws, hws, rfl⟩ := map_eq_ok_iff.1 hw
    exact ⟨ws, rfl, mapM_bind_mapM_eq_ok_iff.1 (bind_eq_ok_iff.2 ⟨ss, hss, hws⟩)⟩
  · rintro ⟨ws, rfl, hws⟩
    obtain ⟨ss, hss, hws⟩ := bind_eq_ok_iff.1 (mapM_bind_mapM_eq_ok_iff.2 hws)
    refine ⟨_, Tagged.ofClient_array (toSerial_array_eq_ok_iff.2 ⟨ss, hss, rfl⟩), rfl, ?_⟩
    rw [Tagged.toLocal, SerialValue.toLocal_list_array, hws]
    rfl

/-! ## Elements -/

namespace ArrayOf

variable {a : ArrayValue}

omit [Platform] in
/-- The elements of an array of a tag are written under the boxed tag. -/
lemma elementTag_of_component (hc : a.component = .ofTag tag) (hh : tag.holdsNothing = false)
    (o : ClientValue) : a.elementTag o = tag.boxed := by
  have hboxed : tag.boxed.holdsNothing = false := by cases tag <;> first | rfl | cases hh
  simp [elementTag, hc, hboxed]

/-- A scalar element is written as it is when it comes back from its client value. -/
lemma elementSerial_scalar (hc : a.component = .ofTag tag) (hv : v.isScalar = true)
    (hn : Tag.ofLocal v = tag.native)
    (hback : ∃ o, (⟨tag.boxed, v.scalarSerial, none⟩ : TypedValue).toClient a.zone = .ok o
      ∧ o.toSerial tag.boxed zone = .ok v.scalarSerial) :
    a.elementSerial zone v = .ok v.scalarSerial := by
  have htag : a.elementReader.tag = tag.boxed.boxed :=
    (CellReader.tag_of_bare (.inr hc)).trans (Tag.boxed_boxed tag).symm
  have hown : Tag.ofLocal v = tag.boxed.native := by rw [hn, Tag.native_boxed]
  have hnull : v.isNull = false := LocalValue.isNull_of_isScalar hv
  obtain ⟨o, hobject, htyped, -⟩ := CellReader.object_of_takes htag hv (.inl hown)
  obtain ⟨o', htyped', hserial⟩ := hback
  obtain rfl : o = o' := Except.ok.inj (htyped.symm.trans htyped')
  rw [elementSerial_of_object hobject,
    elementTag_of_component hc (LocalValue.holdsNothing_of_native hnull hn), hserial]

end ArrayOf

/-! ## Records -/

omit [Platform] in
/-- Writing a value without names under the tag it has by itself and reading it changes nothing
exactly when it is made of lists of one tag and of records. -/
lemma LocalValue.Unnamed.ofLocal_toLocal_iff (hv : v.Unnamed) (hr : v.reread id = v) :
    (Tagged.ofLocal (.ofLocal v) v >>= Tagged.toLocal) = .ok v ↔ v.Uniform := by
  constructor
  · intro h
    obtain ⟨tv, htv, h⟩ := bind_eq_ok_iff.1 h
    exact (hv.settles htv h).1
  · intro h
    have hback := toLocal_form id h
    rw [Tagged.mapDecimals_id, hr] at hback
    rw [ofLocal_eq_form h]
    exact hback

/-- The serial form of the client value of a record is that of the record. -/
lemma ClientValue.toSerial_struct (s : StructValue) (zone : Option Zone) :
    (struct s).toSerial .struct zone = (LocalValue.struct s).toSerial .struct none := by
  rw [toSerial_eq_scalarSerial .struct zone (struct s) nofun nofun]
  rfl

/-- A record among the elements is written as it is by itself. -/
lemma ArrayOf.elementSerial_struct {a : ArrayValue} (hc : a.component = .ofTag .struct)
    (values : List LocalValue) : a.elementSerial zone (.struct (.ofValues values))
      = (LocalValue.struct (.ofValues values)).toSerial .struct none := by
  have hfields : a.elementReader.column.type.declaredFields = [] := by
    rw [ArrayOf.elementReader, ColumnOf.new, hc]
    rfl
  have htag : a.elementReader.tag = Tag.struct.boxed := CellReader.tag_of_bare (.inr hc)
  rw [elementSerial_of_object (CellReader.object_struct htag hfields),
    elementTag_of_component hc rfl]
  exact ClientValue.toSerial_struct _ zone

/-- The typed value of the client value of a record is that of the record. -/
lemma Tagged.ofClient_struct (s : StructValue) (zone : Option Zone) :
    ofClient .struct (.struct s) zone = ofLocal .struct (.struct s) := by
  simp only [ofClient, ofLocal, ClientValue.toSerial_struct]
  rfl

/-- **A record without names comes back** exactly when it is made of lists of one tag and of
records. -/
theorem ClientValue.record_comesBackAs_iff {s : StructValue} (hv : (LocalValue.struct s).Unnamed)
    (hr : (LocalValue.struct s).reread id = .struct s) :
    (struct s).ComesBackAs .struct zone (.struct s) ↔ (LocalValue.struct s).Uniform := by
  rw [← hv.ofLocal_toLocal_iff hr, ComesBackAs, Tagged.ofClient_struct, bind_eq_ok_iff]
  refine exists_congr fun tv => and_congr_right fun h => and_iff_right ?_
  obtain ⟨_, -, rfl⟩ := LocalValue.ofLocal_eq_ok_iff.1 h
  rfl

end TypedRows
