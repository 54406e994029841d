import TypedRows.Proofs.Outcome
import TypedRows.Value.Json

/-!
# Reading what was written as JSON

The object of a typed value has its parts under fixed names, and reading finds them there. What
is written of a number, of a tag and of the items of a list is read in the same way each.

## Main results

* `TypedRows.Tag.ofJson_name` — a tag is read from its name.
* `TypedRows.Tagged.ofJson_ofParts`, `TypedRows.SerialValue.ofJson_ofParts` — the object of a
  typed value is read by way of its local form.
* `TypedRows.Tagged.throughLocal_of_toLocal` — what that way gives.
-/

set_option autoImplicit false

namespace TypedRows

/-! ## Tags -/

/-- A tag is found again under its own name. -/
lemma Tag.named?_name (tag : Tag) : named? tag.name = some tag := by
  have h : ∀ t ∈ all, named? t.name = some t := by decide +kernel
  exact h tag (mem_all tag)

/-- A tag is read of its name. -/
@[simp] lemma Tag.ofJson_name (tag : Tag) : ofJson (.string tag.name) = .ok tag := by
  simp [ofJson, read, named?_name]

/-- The tags that the object of a typed value names. -/
lemma Tagged.tagsOfMembers_ofParts (tag : Tag) (value : JsonValue) (component : Option Tag) :
    tagsOfMembers ((component.toList.map fun c => ("componentType", .string c.name))
      ++ [("type", .string tag.name), ("value", value)]) = .ok (tag, component) := by
  cases component with
  | none => simp [tagsOfMembers, bind, Except.bind, pure, Except.pure]
  | some c => simp [tagsOfMembers, Tag.ofJsonOrNull, bind, Except.bind, pure, Except.pure]

/-! ## Values -/

namespace SerialValue

/-- An integer of 64 bits is read as such. -/
lemma ofJson_integer (n : Int64) : ofJson (.number (.integer n.toInt)) = .ok (.integer n) := by
  rw [ofJson, ofNumeral, if_pos n.toInt_lt, Int64.ofInt_toInt]

/-- Items are written one by one. -/
lemma toJsonItems_eq_map (items : List SerialValue) : toJsonItems items = items.map toJson := by
  induction items with
  | nil => rfl
  | cons item items ih => rw [toJsonItems, ih, List.map_cons]

/-- Items are read one by one. -/
lemma ofJsonItems_eq_mapM (items : List JsonValue) : ofJsonItems items = items.mapM ofJson := by
  induction items with
  | nil => rfl
  | cons item items ih => rw [ofJsonItems, ih, List.mapM_cons]

/-- A member is read by itself, whatever the others are. -/
lemma get?_ofJsonMembers (name : String) (members : List (String × JsonValue)) :
    Fields.get? name (ofJsonMembers members) = (Fields.get? name members).map ofJson := by
  induction members with
  | nil => rfl
  | cons m members ih =>
    by_cases h : m.1 == name
    · simp [Fields.get?, ofJsonMembers, h]
    · simpa [Fields.get?, ofJsonMembers, h] using ih

end SerialValue

/-- The value is found under its name in the object of a typed value. -/
lemma Fields.get?_value_ofParts (tag : Tag) (value : JsonValue) (component : Option Tag) :
    get? "value" ((component.toList.map fun c => ("componentType", JsonValue.string c.name))
      ++ [("type", .string tag.name), ("value", value)]) = some value := by
  cases component <;> simp [get?]

/-- The object of a typed value is read by way of the local form of its value. -/
lemma Tagged.ofJson_ofParts (tag : Tag) (value : JsonValue) (component : Option Tag) :
    ofJson (.ofParts tag value component)
      = SerialValue.ofJson value >>= throughLocal tag component := by
  rw [ofJson, JsonValue.ofParts, partsOfJson, tagsOfMembers_ofParts]
  simp [bind, Except.bind, pure, Except.pure, Fields.get?_value_ofParts, ofParts]

/-- The object of a typed value within another value is read as the typed value. -/
lemma SerialValue.ofJson_ofParts (tag : Tag) (value : JsonValue) (component : Option Tag) :
    ofJson (.ofParts tag value component)
      = .typed <$> Tagged.ofJson (.ofParts tag value component) := by
  rw [Tagged.ofJson_ofParts, JsonValue.ofParts, ofJson, Tagged.tagsOfMembers_ofParts,
    get?_ofJsonMembers, Fields.get?_value_ofParts]
  simp only [Option.map_some, Option.getD_some, bind, Except.bind, pure, Except.pure]
  cases ofJson value with
  | error e => rfl
  | ok s =>
    dsimp only
    cases Tagged.throughLocal tag component s <;> rfl

/-- Without a tag of elements, the typed value is the one of the local value. -/
lemma Tagged.throughLocal_none {tag : Tag} {s : SerialValue} (hn : s.isNull = false) :
    throughLocal tag none s = s.toLocal tag none >>= ofLocal tag := by
  rw [throughLocal, if_neg (by simp [hn])]
  refine bind_congr fun v => ?_
  cases tag <;> rfl

/-- A value that is read as a local value gives the typed value of it: the tag of its elements is
the one that the elements have by themselves, when it is that one in the object. -/
lemma Tagged.throughLocal_of_toLocal {tag : Tag} {component : Option Tag} {s : SerialValue}
    {v : LocalValue} (hn : s.isNull = false) (hs : s.toLocal tag component = .ok v)
    (hc : ∀ c elements, tag = .array → component = some c → v = .list elements →
      c = .ofElements elements) :
    throughLocal tag component s = ofLocal tag v := by
  rw [throughLocal, if_neg (by simp [hn]), hs]
  simp only [bind, Except.bind]
  split
  · next c elements =>
    rw [hc c elements rfl rfl rfl]
    rfl
  · rfl

end TypedRows
