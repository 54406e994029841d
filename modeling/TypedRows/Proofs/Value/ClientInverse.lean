import TypedRows.Proofs.Calendar.FixedOffset
import TypedRows.Proofs.Value.ClientSerial

/-!
# Client form and back in a zone of one offset

In a zone whose offset never changes the client value of a typed value tells its serial form, as
far as the calendar lets a date, a time or a timestamp come back from its instant. Scalars and
arrays of scalars come back as they were. A record is written anew from what it is read as, field
by field and each under the tag it has by itself there; so a record comes back exactly when every
list that is read of it has elements of one tag, and the only values of which other lists are read
hold arrays that were declared as arrays of objects.

## Main definitions

* `TypedRows.Tag.Reversible` — the counts of days and milliseconds that come back from their
  instants.
* `TypedRows.LocalValue.HasTag` — the values that are null or of the variant of a tag.

## Main results

* `TypedRows.Tagged.exists_client_of_scalar` — scalars come back from their client values.
* `TypedRows.Tagged.client_form_inverts` — what comes back from its client form.
-/

set_option autoImplicit false

namespace TypedRows

open Calendar

/-- A number fits 64 bits. -/
def FitsLong (n : Int) : Prop := -2 ^ 63 ≤ n ∧ n < 2 ^ 63

instance (n : Int) : Decidable (FitsLong n) := inferInstanceAs (Decidable (_ ∧ _))

/-- A number that fits 64 bits is not wrapped around. -/
lemma FitsLong.toInt_ofInt {n : Int} (h : FitsLong n) : (Int64.ofInt n).toInt = n :=
  Int64.toInt_ofInt_of_le h.1 h.2

/-- A count of milliseconds within a day. -/
def IsTimeOfDay (time : Int) : Prop := 0 ≤ time ∧ time < millisPerDay

instance (time : Int) : Decidable (IsTimeOfDay time) := inferInstanceAs (Decidable (_ ∧ _))

section

variable [Platform]

/-- The counts that come back from their instants in a zone: a day that the civil calendar has, a
timestamp on such a day that is counted in 32 bits, a time within a day, and instants of them that
fit 64 bits. Nothing is asked of the integers of other tags. -/
def Tag.Reversible (tag : Tag) (zone : Option Zone) (count : Int) : Prop :=
  match tag with
  | .sqlDate =>
    ¬ (YearMonthDay.ofEpochDay (Int32.ofInt count)).IsSkipped
      ∧ FitsLong (instantOfDate (Int32.ofInt count) zone)
  | .sqlTime => IsTimeOfDay count ∧ FitsLong (instantOfTime count zone)
  | .instantTime => IsTimeOfDay count
  | .sqlTimestamp | .utilDate =>
    (-2 ^ 31 ≤ count / millisPerDay ∧ count / millisPerDay < 2 ^ 31)
      ∧ ¬ (YearMonthDay.ofEpochDay (dayOf count)).IsSkipped
      ∧ FitsLong (instantOfTimestamp count zone)
  | _ => True

instance (tag : Tag) (zone : Option Zone) (count : Int) :
    Decidable (tag.Reversible zone count) := by
  unfold Tag.Reversible
  split <;> infer_instance

/-- The instant that a temporal tag has for a count of days or milliseconds in a zone. -/
def Tag.instantOfCount (tag : Tag) (zone : Option Zone) (count : Int64) : Int64 :=
  match tag with
  | .sqlDate => Int64.ofInt (instantOfDate (Int32.ofInt count.toInt) zone)
  | .sqlTime => Int64.ofInt (instantOfTime (Int32.ofInt count.toInt).toInt zone)
  | .instantTime | .instantTimestamp => count
  | _ => Int64.ofInt (instantOfTimestamp count.toInt zone)

/-- The values that are null or of the variant that a tag names. -/
def LocalValue.HasTag (tag : Tag) (v : LocalValue) : Prop :=
  v.isNull = true ∨ Tag.ofLocal v = tag.native

variable {tag : Tag} {zone : Option Zone} {offset : Int} {v w : LocalValue}

/-! ## Counts and instants -/

/-- **A count comes back from its instant.** -/
theorem Tag.countOfInstant_instantOfCount (hz : fixedOffset? zone = some offset) {count : Int64}
    (ht : tag.isTemporal = true)
    (hint : tag.native = .integer → (Int32.ofInt count.toInt).toInt = count.toInt)
    (hr : tag.Reversible zone count.toInt) :
    tag.countOfInstant zone (tag.instantOfCount zone count) = count := by
  cases tag with
  | sqlDate =>
    obtain ⟨hskipped, hfits⟩ := hr
    change Int64.ofInt (dateOfInstant (Int64.ofInt (instantOfDate _ zone)).toInt zone).toInt = count
    rw [hfits.toInt_ofInt, dateOfInstant_instantOfDate hz hskipped, hint rfl, Int64.ofInt_toInt]
  | sqlTime =>
    obtain ⟨⟨h₁, h₂⟩, hfits⟩ := hr
    change Int64.ofInt (timeOfInstant (Int64.ofInt (instantOfTime _ zone)).toInt zone) = count
    rw [hint rfl, hfits.toInt_ofInt, timeOfInstant_instantOfTime hz h₁ h₂, Int64.ofInt_toInt]
  | instantTime =>
    obtain ⟨h₁, h₂⟩ := hr
    change Int64.ofInt (count.toInt % millisPerDay) = count
    rw [Int.emod_eq_of_lt h₁ h₂, Int64.ofInt_toInt]
  | instantTimestamp => rfl
  | sqlTimestamp | utilDate =>
    obtain ⟨⟨h₁, h₂⟩, hskipped, hfits⟩ := hr
    change Int64.ofInt (timestampOfInstant (Int64.ofInt (instantOfTimestamp _ zone)).toInt zone)
      = count
    rw [hfits.toInt_ofInt, timestampOfInstant_instantOfTimestamp hz h₁ h₂ hskipped,
      Int64.ofInt_toInt]
  | _ => cases ht

/-- The client value of a count is its instant. -/
lemma Tagged.exists_instant_of_count (ht : tag.isTemporal = true) (zone : Option Zone)
    (count : Int64) :
    ∃ o, (⟨tag, .integer count, none⟩ : TypedValue).toClient zone = .ok o
      ∧ o.instant? = some (tag.instantOfCount zone count) := by
  have hwide : Int64.ofInt count.toInt = count := Int64.ofInt_toInt count
  cases tag with
  | instantTime => exact ⟨.time count, congrArg (Except.ok ∘ ClientValue.time) hwide, rfl⟩
  | instantTimestamp =>
    exact ⟨.timestamp (.ofMillis count),
      congrArg (Except.ok ∘ ClientValue.timestamp ∘ SqlTimestamp.ofMillis) hwide, rfl⟩
  | sqlDate | sqlTime | sqlTimestamp | utilDate => exact ⟨_, rfl, rfl⟩
  | _ => cases ht

/-- An instant is written as the count that its tag has for it. -/
lemma ClientValue.toSerial_of_instant (ht : tag.isTemporal = true) {o : ClientValue} {t : Int64}
    (h : o.instant? = some t) :
    o.toSerial tag zone = .ok (.integer (tag.countOfInstant zone t)) := by
  have hboxed : tag.boxed = tag := by cases tag <;> first | rfl | cases ht
  rw [toSerial_eq_scalarSerial, scalarSerial, hboxed, if_pos ht, h]
  · rintro rfl
    cases h
  · rintro a rfl
    cases h

/-! ## Scalars -/

/-- A tag is reversible when its boxed counterpart is. -/
lemma Tag.reversible_boxed (tag : Tag) : tag.boxed.Reversible = tag.Reversible := by
  cases tag <;> rfl

omit [Platform] in
/-- The plain form of an integer holds the integer. -/
lemma LocalValue.exists_scalarSerial_of_integer {n : Int} (h : v.integer? = some n) :
    ∃ k : Int64, v.scalarSerial = .integer k ∧ k.toInt = n
      ∧ (Tag.ofLocal v = .integer → (Int32.ofInt k.toInt).toInt = k.toInt) := by
  cases v with
  | byte m | short m | int m | long m =>
    obtain rfl := Option.some.inj h
    refine ⟨_, rfl, ?_, ?_⟩ <;> simp [Tag.ofLocal]
  | _ => cases h

/-- **Scalars come back from their client values.** -/
theorem Tagged.exists_client_of_scalar (hz : fixedOffset? zone = some offset)
    (hv : v.isScalar = true) (hn : Tag.ofLocal v = tag.native)
    (hr : ∀ n, v.integer? = some n → tag.Reversible zone n) :
    ∃ o, (⟨tag, v.scalarSerial, none⟩ : TypedValue).toClient zone = .ok o
      ∧ o.toSerial tag zone = .ok v.scalarSerial := by
  by_cases ht : tag.isTemporal = true
  · have hcount : v.integer?.isSome = true := by
      refine LocalValue.isSome_integer?_of_takes (.inl hn) ?_
      cases tag <;> first | rfl | cases ht
    obtain ⟨n, hint⟩ := Option.isSome_iff_exists.1 hcount
    obtain ⟨k, hk, rfl, hnarrow⟩ := LocalValue.exists_scalarSerial_of_integer hint
    rw [hk]
    obtain ⟨o, ho, hinstant⟩ := exists_instant_of_count ht zone k
    refine ⟨o, ho, ?_⟩
    rw [ClientValue.toSerial_of_instant ht hinstant,
      Tag.countOfInstant_instantOfCount hz ht (fun h => hnarrow (hn.trans h)) (hr _ hint)]
  · exact exists_client_of_timeless hv hn (by simpa using ht) zone zone

/-! ## What is read of a value of a tag -/

section Read

variable {tv : TypedValue} {o : ClientValue} {items : List LocalValue}

/-- The counts among the integers of a value come back from their instants. -/
def LocalValue.Reversible (tag : Tag) (zone : Option Zone) (v : LocalValue) : Prop :=
  ∀ n, v.integer? = some n → tag.Reversible zone n

/-- What is read of a value that was written under a tag other than the one of arrays: null, a
scalar of the variant of the tag, or a record without names. -/
inductive LocalValue.ReadAs (tag : Tag) (zone : Option Zone) : LocalValue → Prop
  | null : ReadAs tag zone .null
  | scalar {w : LocalValue} (h : w.isScalar = true) (hn : Tag.ofLocal w = tag.native)
    (hr : w.Reversible tag zone) (hw : w.reread id = w) : ReadAs tag zone w
  | struct {s : StructValue} (ht : tag = .struct) (h : (LocalValue.struct s).Unnamed)
    (hw : (LocalValue.struct s).reread id = .struct s) : ReadAs tag zone (.struct s)

/-- A reversible value is so after it was reread. -/
lemma LocalValue.Reversible.reread (hr : v.Reversible tag zone) :
    (v.reread id).Reversible tag zone := by
  have hint : (v.reread id).integer? = v.integer? := by cases v <;> rfl
  intro n hn
  exact hr n (hint ▸ hn)

omit [Platform] in
/-- The typed value of null is null, and it is read as null. -/
lemma Tagged.of_ofLocal_null (h : Tagged.ofLocal tag .null = .ok tv) :
    tv.value = .null ∧ tv.toLocal = .ok .null := by
  obtain ⟨s, hs, rfl⟩ := LocalValue.ofLocal_eq_ok_iff.1 h
  obtain rfl := Except.ok.inj (LocalValue.toSerial_eq_ok_iff.1 hs).1
  exact ⟨rfl, rfl⟩

omit [Platform] in
/-- The typed value of a scalar, and what is read of it. -/
lemma Tagged.of_ofLocal_scalar (hv : v.isScalar = true) (hn : Tag.ofLocal v = tag.native)
    (h : Tagged.ofLocal tag v = .ok tv) :
    tv = ⟨tag, v.scalarSerial, none⟩ ∧ tv.toLocal = .ok (v.reread id) := by
  obtain rfl := Except.ok.inj (h.symm.trans (LocalValue.ofLocal_scalar hv (.inl hn)))
  exact ⟨rfl, LocalValue.toLocal_scalarSerial_id hv hn none⟩

omit [Platform] in
/-- The typed value of a record is a list. -/
lemma Tagged.of_ofLocal_struct (hv : Tag.ofLocal v = .struct)
    (h : Tagged.ofLocal .struct v = .ok tv) : ∃ ss, tv = ⟨.struct, .list ss, none⟩ := by
  obtain ⟨r, hr, rfl⟩ := LocalValue.ofLocal_eq_ok_iff.1 h
  have hp : v.isScalar = false ∧ v.isNull = false := by
    cases v <;> first | exact ⟨rfl, rfl⟩ | cases hv
  obtain ⟨ss, rfl⟩ := LocalValue.exists_list_of_carried hp.1 hp.2
    (LocalValue.toSerial_eq_ok_iff.1 hr).1
  exact ⟨ss, by rw [LocalValue.elementTag?_eq_none (by decide)]⟩

omit [Platform] in
/-- A value that is neither null nor a scalar is a record when a tag other than the one of arrays
names its variant. -/
lemma LocalValue.HasTag.eq_struct (ha : tag ≠ .array) (hs : ¬ v.isScalar = true)
    (hn : Tag.ofLocal v = tag.native) (hnull : v.isNull = false) :
    tag = .struct ∧ Tag.ofLocal v = .struct := by
  obtain rfl := Tag.eq_ofLocal_of_not_isScalar hs hn
  cases v <;> first | exact ⟨rfl, rfl⟩ | exact absurd rfl ha | exact absurd rfl hs | cases hnull

/-- A value of the variant of a tag is read as one. -/
lemma LocalValue.HasTag.readAs (ha : tag ≠ .array) (hv : v.HasTag tag)
    (hr : v.Reversible tag zone) (htv : Tagged.ofLocal tag v = .ok tv) (hw : tv.toLocal = .ok w) :
    w.ReadAs tag zone := by
  by_cases hnull : v.isNull = true
  · obtain rfl := isNull_iff.1 hnull
    obtain rfl := Except.ok.inj ((Tagged.of_ofLocal_null htv).2.symm.trans hw)
    exact .null
  have hn := hv.resolve_left hnull
  have hw' := (SerialValue.reread_of_toLocal tv.value).1 hw
  by_cases hs : v.isScalar = true
  · obtain rfl := Except.ok.inj ((Tagged.of_ofLocal_scalar hs hn htv).2.symm.trans hw)
    exact .scalar (by rw [isScalar_reread, hs]) (by rw [ofLocal_reread, hn]) hr.reread hw'
  · obtain ⟨rfl, hstruct⟩ := eq_struct ha hs hn (by simpa using hnull)
    obtain ⟨ss, rfl⟩ := Tagged.of_ofLocal_struct hstruct htv
    have hunnamed := (SerialValue.unnamed_of_toLocal _).1 hw
    rw [Tagged.toLocal, SerialValue.toLocal_list_struct] at hw
    obtain ⟨vs, -, rfl⟩ := map_eq_ok_iff.1 hw
    exact .struct rfl hunnamed hw'

end Read

/-! ## What comes back -/

section Back

variable {tv : TypedValue} {o : ClientValue} {items : List LocalValue}

/-- **An element comes back** exactly when it is made of lists of one tag and of records. -/
lemma LocalValue.ReadAs.element_iff (hz : fixedOffset? zone = some offset)
    (hw : w.ReadAs tag zone) : ((⟨.ofTag tag, items, zone⟩ : ArrayValue).elementSerial zone w
      >>= readElement (some tag)) = .ok w ↔ w.Uniform := by
  cases hw with
  | null =>
    rw [ArrayOf.elementSerial_null]
    exact iff_of_true (readElement_null (some tag)) .null
  | @scalar w h hn hr hw =>
    have hnull : w.isNull = false := isNull_of_isScalar h
    have hback := toLocal_scalarSerial_id h hn none
    rw [hw] at hback
    have hclient : ∃ o, (⟨tag.boxed, w.scalarSerial, none⟩ : TypedValue).toClient zone = .ok o
        ∧ o.toSerial tag.boxed zone = .ok w.scalarSerial := by
      refine Tagged.exists_client_of_scalar hz h (by rw [hn, Tag.native_boxed]) fun n hint => ?_
      rw [Tag.reversible_boxed]
      exact hr n hint
    rw [ArrayOf.elementSerial_scalar rfl h hn hclient]
    refine iff_of_true ?_ (.scalar h)
    change readElement (some tag) w.scalarSerial = .ok w
    rw [readElement, holdsNothing_of_native hnull hn]
    exact hback
  | @struct s ht h hw =>
    obtain rfl := ht
    obtain ⟨values, rfl⟩ : ∃ values, s = .ofValues values := by
      cases h with
      | scalar h => cases h
      | struct h => exact ⟨_, rfl⟩
    rw [ArrayOf.elementSerial_struct rfl, ← h.ofLocal_toLocal_iff hw, Tag.ofLocal, Tagged.ofLocal,
      bind_assoc]
    rfl

/-- The client value of a record is the record that is read of it. -/
lemma Tagged.toClient_struct_eq_ok_iff {ss : List SerialValue} :
    (⟨.struct, .list ss, none⟩ : TypedValue).toClient zone = .ok o
      ↔ ∃ s, (⟨.struct, .list ss, none⟩ : TypedValue).toLocal = .ok (.struct s)
        ∧ o = .struct s := by
  simp only [toClient, toLocal, SerialValue.toClient, Tag.boxed, SerialValue.toLocal_list_struct]
  cases ss.mapM SerialValue.toPlainLocal <;>
    simp [bind, Except.bind, pure, Except.pure, eq_comm, ClientValue.ofLocal]

/-- **A value of a tag comes back** exactly when what is read of it is made of lists of one tag
and of records. -/
lemma Tagged.exists_comesBackAs_iff (hz : fixedOffset? zone = some offset) (ha : tag ≠ .array)
    (hv : v.HasTag tag) (hr : v.Reversible tag zone) (htv : Tagged.ofLocal tag v = .ok tv)
    (ho : tv.toClient zone = .ok o) :
    ∃ w, tv.toLocal = .ok w ∧ (o.ComesBackAs tag zone w ↔ w.Uniform) := by
  by_cases hnull : v.isNull = true
  · obtain rfl := LocalValue.isNull_iff.1 hnull
    obtain ⟨hvalue, hw⟩ := of_ofLocal_null htv
    rw [toClient, hvalue] at ho
    obtain rfl := Except.ok.inj ho
    exact ⟨_, hw, iff_of_true
      (ClientValue.comesBackAs_of_toSerial (ClientValue.toSerial_null tag zone) fun _ => rfl) .null⟩
  have hn := hv.resolve_left hnull
  by_cases hs : v.isScalar = true
  · obtain ⟨rfl, hw⟩ := of_ofLocal_scalar hs hn htv
    obtain ⟨o', ho', hserial⟩ := exists_client_of_scalar hz hs hn hr
    obtain rfl : o = o' := Except.ok.inj (ho.symm.trans ho')
    have hback := LocalValue.toLocal_scalarSerial_id hs hn
    exact ⟨_, hw, iff_of_true (ClientValue.comesBackAs_of_toSerial hserial hback)
      (.scalar (by rw [LocalValue.isScalar_reread, hs]))⟩
  · obtain ⟨rfl, hstruct⟩ := LocalValue.HasTag.eq_struct ha hs hn (by simpa using hnull)
    obtain ⟨ss, rfl⟩ := of_ofLocal_struct hstruct htv
    obtain ⟨s, hw, rfl⟩ := toClient_struct_eq_ok_iff.1 ho
    exact ⟨_, hw, ClientValue.record_comesBackAs_iff ((SerialValue.unnamed_of_toLocal _).1 hw)
      ((SerialValue.reread_of_toLocal _).1 hw)⟩

/-- The elements of an array are read one by one, each as an element of its tag. -/
lemma Tagged.of_ofElements (ha : tag ≠ .array)
    (hitems : ∀ v ∈ items, v.HasTag tag ∧ v.Reversible tag zone)
    (htv : Tagged.ofElements tag items = .ok tv) (ho : tv.toClient zone = .ok o) :
    ∃ ws, tv.toLocal = .ok (.list ws) ∧ o = .array ⟨.ofTag tag, ws, zone⟩
      ∧ (∀ w ∈ ws, w.ReadAs tag zone)
      ∧ ((∀ v ∈ items, v.Declared) → (LocalValue.list ws).Uniform) := by
  obtain ⟨ss, hss, rfl⟩ := ofElements_eq_ok_iff.1 htv
  obtain ⟨ws, hw, rfl⟩ := toClient_array_eq_ok_iff.1 ho
  have hws := toLocal_array_iff.1 hw
  have hholds : ∀ v ∈ items, v.isNull = false → tag.holdsNothing = false := fun v hv hn =>
    LocalValue.holdsNothing_of_native hn ((hitems v hv).1.resolve_left (by simp [hn]))
  refine ⟨ws, hw, rfl, fun w hmem => ?_, fun hall => ?_⟩
  · have hpairs := mapM_bind_mapM_eq_ok_iff.1 (bind_eq_ok_iff.2 ⟨ss, hss, hws⟩)
    obtain ⟨v, hv, hback⟩ := exists_of_mem_right hpairs hmem
    by_cases hn : v.isNull = true
    · rw [LocalValue.isNull_iff.1 hn] at hback
      obtain rfl := LocalValue.null_of_element hback
      exact .null
    · rw [Bool.not_eq_true] at hn
      obtain ⟨tv, htv, hback⟩ := LocalValue.exists_typed_of_element hn (hholds v hv hn) hback
      exact (hitems v hv).1.readAs ha (hitems v hv).2 htv hback
  · rw [← LocalValue.carriedElements_eq_mapM] at hss
    exact (LocalValue.settles_elements hholds (fun v hv => (hall v hv).settles) hss hw).1

/-- What is read of an element is null or of the variant of its tag. -/
lemma LocalValue.ReadAs.hasTag (h : w.ReadAs tag zone) : w.HasTag tag := by
  cases h with
  | null => exact .inl rfl
  | scalar _ hn => exact .inr hn
  | struct ht =>
    rw [ht]
    exact .inr rfl

/-- **An array comes back** exactly when its elements are made of lists of one tag and of
records. -/
lemma LocalValue.array_comesBackAs_iff (hz : fixedOffset? zone = some offset) {ws : List LocalValue}
    (h : ∀ w ∈ ws, w.ReadAs tag zone) :
    (ClientValue.array ⟨.ofTag tag, ws, zone⟩).ComesBackAs .array zone (.list ws)
      ↔ (LocalValue.list ws).Uniform := by
  have hlist : (LocalValue.list ws).Uniform ↔ ∀ w ∈ ws, w.Uniform :=
    ⟨fun h => h.of_list.choose_spec.2, .list tag.native fun w hw => (h w hw).hasTag⟩
  rw [hlist, ClientValue.array_comesBackAs_iff]
  simp only [ColumnType.tag_ofTag, list.injEq, exists_eq_left', List.forall₂_same]
  exact forall₂_congr fun w hw => (h w hw).element_iff hz

end Back

/-- **Client form is invertible in a zone of one offset.** Let a value be null or of the variant of
a tag other than the one of arrays, or a list of such values be the elements of an array, and let
the counts among them come back from their instants. When they are made a typed value and that a
client value, then the client value is made a typed value of the same tag that is read as the first
one is, exactly when what is read is made of lists of one tag and of records. It is so whenever
all arrays within the values declare what they hold. -/
theorem Tagged.client_form_inverts (hz : fixedOffset? zone = some offset) (ha : tag ≠ .array) :
    (∀ v tv o, v.HasTag tag → v.Reversible tag zone → Tagged.ofLocal tag v = .ok tv →
      tv.toClient zone = .ok o →
      ∃ w, tv.toLocal = .ok w ∧ (o.ComesBackAs tag zone w ↔ w.Uniform) ∧ (v.Declared → w.Uniform))
    ∧ ∀ items tv o, (∀ v ∈ items, v.HasTag tag ∧ v.Reversible tag zone) →
      Tagged.ofElements tag items = .ok tv → tv.toClient zone = .ok o →
      ∃ w, tv.toLocal = .ok w ∧ (o.ComesBackAs .array zone w ↔ w.Uniform)
        ∧ ((∀ v ∈ items, v.Declared) → w.Uniform) := by
  refine ⟨fun v tv o hv hr htv ho => ?_, fun items tv o hitems htv ho => ?_⟩
  · obtain ⟨w, hw, hback⟩ := exists_comesBackAs_iff hz ha hv hr htv ho
    exact ⟨w, hw, hback, fun hdeclared => (hdeclared.settles htv hw).1⟩
  · obtain ⟨ws, hw, rfl, hread, huniform⟩ := of_ofElements ha hitems htv ho
    exact ⟨_, hw, LocalValue.array_comesBackAs_iff hz hread, huniform⟩

end

section

attribute [local instance] Platform.utc

/-- A date under the Julian calendar, an array of timestamps before 1970, and a record with a list
in it, in a zone one hour west of UTC. -/
theorem Tagged.client_form_inverts_date_and_arrays :
    let zone : Option Zone := some (.fixed (-3600000))
    let record : LocalValue := .struct (.ofValues [.int 1, .list [.short 2, .null]])
    (∃ o, (Tagged.ofLocal .sqlDate (.int (-200000)) >>= (·.toClient zone)) = .ok o
        ∧ o.ComesBackAs .sqlDate zone (.int (-200000)))
      ∧ (∃ o, (Tagged.ofElements .sqlTimestamp [.long (-1), .null] >>= (·.toClient zone)) = .ok o
        ∧ o.ComesBackAs .array zone (.list [.long (-1), .null]))
      ∧ ∃ o, (Tagged.ofLocal .struct record >>= (·.toClient zone)) = .ok o
        ∧ o.ComesBackAs .struct zone record := by
  intro zone record
  have hz : fixedOffset? zone = some (-3600000) := rfl
  refine ⟨⟨_, rfl, ?_⟩, ⟨_, rfl, ?_⟩, ⟨_, rfl, ?_⟩⟩
  · have hdate : Tag.sqlDate ≠ .array := by decide
    have hcount : (LocalValue.int (-200000)).Reversible .sqlDate zone := by
      rintro n ⟨⟩
      decide
    obtain ⟨w, hw, hback, huniform⟩ :=
      (client_form_inverts hz hdate).1 _ _ _ (.inr rfl) hcount rfl rfl
    obtain rfl := Except.ok.inj hw
    exact hback.2 (huniform (.scalar rfl))
  · have htimestamp : Tag.sqlTimestamp ≠ .array := by decide
    have hitems : ∀ v ∈ [LocalValue.long (-1), .null],
        v.HasTag .sqlTimestamp ∧ v.Reversible .sqlTimestamp zone := by
      simp only [List.forall_mem_cons, List.not_mem_nil, IsEmpty.forall_iff, implies_true, and_true]
      refine ⟨⟨.inr rfl, ?_⟩, .inl rfl, nofun⟩
      rintro n ⟨⟩
      decide
    obtain ⟨w, hw, hback, huniform⟩ :=
      (client_form_inverts hz htimestamp).2 _ _ _ hitems rfl rfl
    obtain rfl := Except.ok.inj hw
    refine hback.2 (huniform ?_)
    simpa using ⟨.scalar rfl, .null⟩
  · have hstruct : Tag.struct ≠ .array := by decide
    have hcount : record.Reversible .struct zone := by
      intro n hn
      cases hn
    have hlist : (LocalValue.list [.short 2, .null]).Declared :=
      .list (by simpa using ⟨.scalar rfl, .null⟩)
    obtain ⟨w, hw, hback, huniform⟩ :=
      (client_form_inverts hz hstruct).1 _ _ _ (.inr rfl) hcount rfl rfl
    obtain rfl := Except.ok.inj hw
    exact hback.2 (huniform (.struct (by simpa [StructOf.ofValues] using ⟨.scalar rfl, hlist⟩)))

/-- The client value of a record of an array that was declared as an array of objects, with a
number and a text in it, is refused on the way back. -/
theorem Tagged.client_form_of_mixed_objects_is_refused :
    let objects : LocalValue := .array ⟨.scalar .object, [.long 5, .string "a"], none⟩
    let record : LocalValue := .struct (.ofValues [objects])
    let client : ClientValue := .struct (.ofValues [.list [.long 5, .string "a"]])
    record.HasTag .struct ∧ record.Reversible .struct none
      ∧ (Tagged.ofLocal .struct record >>= (·.toClient none)) = .ok client
      ∧ Tagged.ofClient .struct client none = .error (.mismatch .long .integer "string") := by
  intro objects record client
  refine ⟨.inr rfl, ?_, rfl, ?_⟩
  · intro n hn
    cases hn
  · rw [ofClient_struct]
    rfl

end

end TypedRows
