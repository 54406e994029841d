import TypedRows.Row.Composite

/-!
# Serial values and client values

The tag of a serial value decides which client value it is. Counts of days and milliseconds
become instants in a zone, whereas the tags of instants carry instants already; every other tag
takes the client value of the local form. The way back reads the elements of arrays one by one.

## Main definitions

* `TypedRows.SerialValue.toClient`, `TypedRows.Tagged.toClient`
* `TypedRows.ClientValue.toSerial`, `TypedRows.Tagged.ofClient`, `TypedRows.Tagged.deduced`
-/

set_option autoImplicit false

namespace TypedRows

open Calendar

/-! ## From serial to client values -/

/-- The client form under a tag, read in a zone. The elements of an array have the tag
`component`; objects, when it is not known. -/
def SerialValue.toClient [Platform] (tag : Tag) (component : Option Tag) (zone : Option Zone) :
    SerialValue → Except Error ClientValue
  | .null => .ok .null
  | .typed ⟨tag, value, component⟩ => value.toClient tag component zone
  | value =>
    let tag := tag.boxed
    match tag with
    | .sqlDate => do
      return .date (Int64.ofInt (instantOfDate (Int32.ofInt (← value.integral tag)) zone))
    | .sqlTime => do
      return .time (Int64.ofInt (instantOfTime (Int32.ofInt (← value.integral tag)).toInt zone))
    | .sqlTimestamp | .utilDate => do
      return .timestamp (.ofMillis (Int64.ofInt (instantOfTimestamp (← value.integral tag) zone)))
    | .instantTime => do return .time (Int64.ofInt (← value.integral tag))
    | .instantTimestamp => do return .timestamp (.ofMillis (Int64.ofInt (← value.integral tag)))
    | .array => do
      let component := component.getD .object
      match ← value.toLocal tag (some component) with
      | .list elements => return .array ⟨.ofTag component, elements, zone⟩
      | _ => .error (.mismatch tag .list value.shape)
    | _ => return .ofLocal (← value.toLocal tag component)

/-- The client form of a typed value, read in a zone. -/
def Tagged.toClient [Platform] (tv : TypedValue) (zone : Option Zone) : Except Error ClientValue :=
  tv.value.toClient tv.tag tv.component zone

/-! ## Nesting -/

mutual

/-- How deep lists and arrays are nested in a value. -/
def LocalValue.nesting : LocalValue → Nat
  | .list items => LocalValue.nestingOfItems items + 1
  | .array ⟨_, elements, _⟩ => LocalValue.nestingOfItems elements + 1
  | _ => 0

/-- The greatest nesting among values. -/
def LocalValue.nestingOfItems : List LocalValue → Nat
  | [] => 0
  | item :: items => max item.nesting (LocalValue.nestingOfItems items)

end

/-- How deep arrays are nested in a client value. -/
def ClientValue.nesting : ClientValue → Nat
  | .array a => LocalValue.nestingOfItems a.elements + 1
  | _ => 0

/-- An item is nested no deeper than the list of items. -/
theorem LocalValue.nesting_le_of_mem {v : LocalValue} {items : List LocalValue} (h : v ∈ items) :
    v.nesting ≤ LocalValue.nestingOfItems items := by
  induction items with
  | nil => cases h
  | cons item items ih =>
    rw [LocalValue.nestingOfItems]
    rcases List.mem_cons.1 h with rfl | h
    · exact Nat.le_max_left ..
    · exact Nat.le_trans (ih h) (Nat.le_max_right ..)

/-- The client value is nested no deeper than the local one. -/
theorem ClientValue.nesting_ofLocal (v : LocalValue) :
    (ClientValue.ofLocal v).nesting ≤ v.nesting := by
  cases v <;> simp [ClientValue.ofLocal, ClientValue.nesting, LocalValue.nesting]

/-- An array that a cell is read as is nested no deeper than the cell. -/
theorem CellReader.nesting_array {r : CellReader} {v : LocalValue} {a : ArrayValue}
    (h : r.array v = .ok (some a)) : LocalValue.nestingOfItems a.elements + 1 ≤ v.nesting := by
  cases v <;> simp only [CellReader.array, CellReader.refuse, reduceCtorEq, Except.ok.injEq,
    Option.some.injEq] at h
  all_goals
    subst h
    simp [LocalValue.nesting]

/-- Reading a cell nests no deeper than the cell does. -/
theorem CellReader.nesting_object [Platform] {r : CellReader} {v : LocalValue} {c : ClientValue}
    (h : r.object v = .ok c) : c.nesting ≤ v.nesting := by
  by_cases hc : ∃ a, c = .array a
  · obtain ⟨a, rfl⟩ := hc
    unfold CellReader.object at h
    split at h
    · simp at h
    · split at h <;> try (simp only [bind, Except.bind, pure, Except.pure] at h; split at h <;>
        first | (simp at h; done) | (rename_i x _; cases x <;> simp at h))
      · rename_i x hx
        subst h
        exact nesting_array hx
      · simp at h; rw [← h]; exact ClientValue.nesting_ofLocal v
  · cases c <;> simp_all [ClientValue.nesting]

/-- Each result of a walk over a list comes from one of its items. -/
theorem exists_of_mem_mapM {α β ε : Type} {f : α → Except ε β} {items : List α}
    {results : List β} (h : items.mapM f = .ok results) {b : β} (hb : b ∈ results) :
    ∃ a ∈ items, f a = .ok b := by
  induction items generalizing results with
  | nil =>
    simp only [List.mapM_nil, pure, Except.pure, Except.ok.injEq] at h
    simp [← h] at hb
  | cons a items ih =>
    simp only [List.mapM_cons, bind, Except.bind, pure, Except.pure] at h
    split at h
    · simp at h
    · next b' hb' =>
      split at h
      · simp at h
      · next rest hrest =>
        simp only [Except.ok.injEq] at h
        subst h
        rcases List.mem_cons.1 hb with rfl | hb
        · exact ⟨a, List.mem_cons_self, hb'⟩
        · obtain ⟨c, hc, hf⟩ := ih hrest hb
          exact ⟨c, List.mem_cons_of_mem _ hc, hf⟩

/-- The client value of an element is nested less deep than the array. -/
theorem ArrayOf.nesting_lt_of_mem [Platform] {a : ArrayValue} {values : List ClientValue}
    (h : a.clientValues = .ok values) {v : ClientValue} (hv : v ∈ values) :
    v.nesting < (ClientValue.array a).nesting := by
  obtain ⟨element, he, hv⟩ := exists_of_mem_mapM h hv
  exact Nat.lt_succ_of_le (Nat.le_trans (CellReader.nesting_object hv)
    (LocalValue.nesting_le_of_mem he))

/-! ## From client to serial values -/

variable [Platform]

/-- The count of days or milliseconds that a temporal tag has for an instant in a zone. -/
def Tag.countOfInstant (tag : Tag) (zone : Option Zone) (instant : Int64) : Int64 :=
  match tag with
  | .sqlDate => Int64.ofInt (dateOfInstant instant.toInt zone).toInt
  | .sqlTime => Int64.ofInt (timeOfInstant instant.toInt zone)
  | .instantTime => Int64.ofInt (timeOfDay instant.toInt)
  | .instantTimestamp => instant
  | _ => Int64.ofInt (timestampOfInstant instant.toInt zone)

/-- The form of a client value without parts under a boxed tag. -/
def ClientValue.scalarSerial (tag : Tag) (zone : Option Zone) (v : ClientValue) :
    Except Error SerialValue :=
  match if tag.isTemporal then v.instant? else none with
  | some instant => .ok (.integer (tag.countOfInstant zone instant))
  | none =>
    match v.toLocal? with
    | some v => v.toSerial tag none
    | none => .error (.mismatch tag .nonTemporal v.shape)

/-- The serial form under a tag. Instants are taken for what the clocks of a zone show; elements
of objects are written under the tags they have by themselves. -/
def ClientValue.toSerial (tag : Tag) (zone : Option Zone) :
    ClientValue → Except Error SerialValue
  | .null => .ok .null
  | .array a =>
    if tag.boxed ≠ .array then .error (.mismatch tag.boxed .scalar "array")
    else
      match _read : a.clientValues with
      | .error e => .error e
      | .ok values => do
        let component := a.component.tag.boxed
        let items ← values.attach.mapM fun ⟨item, _⟩ =>
          item.toSerial (if component.holdsNothing then .ofClient item else component) zone
        return .list items
  | scalar => scalar.scalarSerial tag.boxed zone
termination_by v => v.nesting
decreasing_by
  exact ArrayOf.nesting_lt_of_mem _read (by assumption)

namespace Tagged

/-- The typed value of a client value under a tag; instants are read in a zone. -/
def ofClient (tag : Tag) (v : ClientValue) (zone : Option Zone) : Except Error TypedValue := do
  let component := match v with
    | .array a => some a.component.tag
    | _ => none
  let value ← v.toSerial tag zone
  return ⟨tag, value, component⟩

/-- The typed value of a client value under the tag that it has by itself. -/
def deduced (v : ClientValue) (zone : Option Zone) : Except Error TypedValue :=
  if v.isNull then .ok explicitNull else ofClient (.ofClient v) v zone

end Tagged

end TypedRows
