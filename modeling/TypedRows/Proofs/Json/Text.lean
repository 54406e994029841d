import TypedRows.Json.Reader
import TypedRows.Proofs.Json.NumberText
import TypedRows.Proofs.Json.Reading

/-!
# Typed values as JSON text

The text of the object of a typed value is read member by member. The name of the tag and the keys
have no characters that are escaped, so that they are read as they are; what comes back in place of
the value is decided by its own text.

## Main definitions

* `TypedRows.JsonReader.IsPlain` — the characters that stand for themselves in strings.

## Main results

* `TypedRows.JsonReader.readValue_string`, `TypedRows.JsonReader.readValue_number` — scalars are
  read from their texts.
* `TypedRows.JsonReader.read_ofParts_string`, `TypedRows.JsonReader.read_ofParts_number` — so are the
  objects of typed values that are scalars.
-/

set_option autoImplicit false

namespace TypedRows.JsonReader

variable {rest : List Char}

/-! ## Strings -/

/-- **A character that stands for itself** in a string. -/
def IsPlain (c : Char) : Prop :=
  c ≠ '"' ∧ c ≠ '\\' ∧ 32 ≤ c.toNat

instance (c : Char) : Decidable (IsPlain c) :=
  inferInstanceAs (Decidable (_ ∧ _ ∧ _))

/-- Whether all characters of a string are plain can be computed. -/
lemma isPlain_of_all {s : String} (h : (s.toList.all fun c => IsPlain c) = true) :
    ∀ c ∈ s.toList, IsPlain c := by
  simpa using h

/-- Plain characters are written as they are. -/
lemma escaped_of_isPlain {c : Char} (h : IsPlain c) : Json.escaped c = [c] := by
  obtain ⟨hquote, hslash, hcontrol⟩ := h
  have hne {d : Char} (hd : d.toNat < 32) : c ≠ d := by
    rintro rfl
    omega
  unfold Json.escaped
  split
  · exact absurd rfl hquote
  · exact absurd rfl hslash
  · exact absurd rfl (hne (by decide))
  · exact absurd rfl (hne (by decide))
  · exact absurd rfl (hne (by decide))
  · rw [if_neg (by omega), if_neg (by omega), if_neg (by omega)]

/-- Plain characters are read up to the closing quote. -/
lemma readStringBody_append {cs : List Char} (h : ∀ c ∈ cs, IsPlain c) {fuel : Nat}
    (hfuel : cs.length < fuel) : readStringBody fuel (cs ++ '"' :: rest) = .ok (cs, rest) := by
  induction cs generalizing fuel with
  | nil =>
    obtain ⟨fuel, rfl⟩ := Nat.exists_eq_succ_of_ne_zero (Nat.ne_of_gt hfuel)
    rfl
  | cons c cs ih =>
    obtain ⟨fuel, rfl⟩ := Nat.exists_eq_succ_of_ne_zero (Nat.ne_of_gt (Nat.zero_lt_of_lt hfuel))
    obtain ⟨⟨hquote, hslash, hcontrol⟩, hcs⟩ := List.forall_mem_cons.1 h
    rw [List.cons_append, readStringBody, if_neg (by omega), ih hcs (Nat.lt_of_succ_lt_succ hfuel)]
    · rfl
    · exact hquote
    · exact hslash

variable {s : String}

/-- A text of plain characters stands between quotes as it is. -/
lemma quoted_append (h : ∀ c ∈ s.toList, IsPlain c) :
    Json.quoted s ++ rest = '"' :: (s.toList ++ '"' :: rest) := by
  have hescaped : s.toList.flatMap Json.escaped = s.toList := by
    conv_rhs => rw [← List.flatMap_singleton' s.toList]
    exact List.flatMap_congr fun c hc => escaped_of_isPlain (h c hc)
  simp [Json.quoted, hescaped]

/-- A text of plain characters is read up to the quote. -/
lemma readString_append (h : ∀ c ∈ s.toList, IsPlain c) :
    readString (s.toList ++ '"' :: rest) = .ok (s, rest) := by
  rw [readString, readStringBody_append h (by rw [List.length_append]; omega)]
  simp [bind, Except.bind, pure, Except.pure]

/-! ## Values -/

/-- Nothing is skipped before a character that is no blank. -/
lemma skipSpace_cons {c : Char} (hc : isSpace c = false) (cs : List Char) :
    skipSpace (c :: cs) = c :: cs := by
  rw [skipSpace, List.dropWhile_cons_of_neg (by simp [hc])]

/-- **A string of plain characters is read** from its text. -/
lemma readValue_string (h : ∀ c ∈ s.toList, IsPlain c) (fuel depth : Nat) :
    readValue (fuel + 1) depth (Json.quoted s ++ rest) = .ok (.string s, rest) := by
  rw [quoted_append h, readValue, skipSpace_cons (by decide)]
  simp only [readString_append h, bind, Except.bind]
  rfl

/-- **A number is read** from its text. -/
lemma readValue_number {n : Numeral} (h : n.HasText) (hrest : EndsNumber rest) (fuel depth : Nat) :
    readValue (fuel + 1) depth (n.chars ++ rest)
      = match n.reread? with
        | some n' => .ok (.number n', rest)
        | none => .error "number out of range" := by
  obtain ⟨c, cs, hchars, hc⟩ := Numeral.exists_chars_eq h
  have hread := Numeral.readNumber_chars h hrest
  have hne {d : Char} (hd : d.isDigit = false) (hd' : d ≠ '-') : c ≠ d := by
    rintro rfl
    simp [hd, hd'] at hc
  have hspace : isSpace c = false := by
    simp [isSpace, hne (show ' '.isDigit = false by decide) (by decide),
      hne (show '\n'.isDigit = false by decide) (by decide),
      hne (show '\t'.isDigit = false by decide) (by decide),
      hne (show '\r'.isDigit = false by decide) (by decide)]
  rw [hchars, List.cons_append] at hread ⊢
  rw [readValue, skipSpace_cons hspace]
  split
  · next h => cases h
  -- the characters that the other values begin with
  iterate 6 next h => exact absurd (List.cons.inj h).1 (hne (by decide) (by decide))
  · rw [hread]
    cases n.reread? <;> rfl

/-- An object is read member by member. -/
lemma readValue_object (fuel depth : Nat) (cs : List Char) :
    readValue (fuel + 1) (depth + 1) ('\x7b' :: '"' :: cs)
      = (do
          let (members, rest) ← readMembers (fun _ => true) fuel depth ('"' :: cs)
          return (.object members, rest)) := by
  rw [readValue, skipSpace_cons (by decide)]
  simp only [skipSpace_cons (show isSpace '"' = false by decide)]
  rfl

/-! ## The object of a typed value -/

/-- The names of tags are plain. -/
lemma isPlain_of_mem_name (tag : Tag) : ∀ c ∈ tag.name.toList, IsPlain c := by
  have h : ∀ t ∈ Tag.all, (t.name.toList.all fun c => IsPlain c) = true := by decide +kernel
  exact isPlain_of_all (h tag (Tag.mem_all tag))

variable {key : String} {fuel depth : Nat} {text : List Char}

/-- The last member of an object. -/
lemma readMembers_last (hkey : ∀ c ∈ key.toList, IsPlain c) {outcome : Except String JsonValue}
    (h : readValue fuel depth (text ++ '\x7d' :: rest) = (·, '\x7d' :: rest) <$> outcome) :
    readMembers (fun _ => true) (fuel + 1) depth
        (Json.quoted key ++ ':' :: (text ++ '\x7d' :: rest))
      = (fun value => ([(key, value)], rest)) <$> outcome := by
  rw [quoted_append hkey, readMembers, skipSpace_cons (by decide)]
  simp only [readString_append hkey, bind, Except.bind,
    skipSpace_cons (show isSpace ':' = false by decide), h]
  cases outcome with
  | error e => rfl
  | ok value =>
    simp only [↓reduceIte, Functor.map, Except.map, pure, Except.pure,
      skipSpace_cons (show isSpace '\x7d' = false by decide)]

/-- A member of an object that another one follows. -/
lemma readMembers_cons (hkey : ∀ c ∈ key.toList, IsPlain c) {value : JsonValue}
    (h : readValue fuel depth (text ++ ',' :: rest) = .ok (value, ',' :: rest)) :
    readMembers (fun _ => true) (fuel + 1) depth (Json.quoted key ++ ':' :: (text ++ ',' :: rest))
      = (fun (members, rest) => ((key, value) :: members, rest))
        <$> readMembers (fun _ => true) fuel depth rest := by
  rw [quoted_append hkey, readMembers, skipSpace_cons (by decide)]
  simp only [readString_append hkey, bind, Except.bind,
    skipSpace_cons (show isSpace ':' = false by decide), h, ↓reduceIte, pure, Except.pure,
    skipSpace_cons (show isSpace ',' = false by decide)]
  cases readMembers (fun _ => true) fuel depth rest <;> rfl

/-- The object of a typed value is read from its text, when the text of its value is read up to the
closing brace. -/
lemma read_ofParts (tag : Tag) (value : JsonValue) (outcome : Except String JsonValue)
    (h : ∀ fuel depth, readValue (fuel + 1) depth (value.chars ++ ['\x7d'])
      = (·, ['\x7d']) <$> outcome) :
    JsonValue.read (JsonValue.ofParts tag value none).text
      = (JsonValue.ofParts tag · none) <$> outcome := by
  have hkey : ∀ c ∈ "type".toList, IsPlain c := isPlain_of_all (by decide +kernel)
  have hvalue : ∀ c ∈ "value".toList, IsPlain c := isPlain_of_all (by decide +kernel)
  obtain ⟨text, htext⟩ : ∃ text, text = (JsonValue.ofParts tag value none).text := ⟨_, rfl⟩
  have hchars : text.toList = '\x7b' :: (Json.quoted "type" ++ ':' :: (Json.quoted tag.name
      ++ ',' :: (Json.quoted "value" ++ ':' :: (value.chars ++ ['\x7d'])))) := by
    rw [htext, JsonValue.text, String.toList_ofList]
    simp [JsonValue.ofParts, JsonValue.chars, JsonValue.charsOfMembers]
  obtain ⟨fuel, hfuel⟩ : ∃ fuel, enoughFuel text.toList = fuel + 1 + 1 + 1 + 1 :=
    ⟨2 * text.toList.length - 2, by rw [enoughFuel, hchars]; simp⟩
  have hfirst : readMembers (fun _ => true) (fuel + 3) 126 (Json.quoted "type" ++ ':' ::
      (Json.quoted tag.name ++ ',' :: (Json.quoted "value" ++ ':' :: (value.chars ++ ['\x7d']))))
      = (fun v => ([("type", .string tag.name), ("value", v)], [])) <$> outcome := by
    rw [readMembers_cons hkey (readValue_string (isPlain_of_mem_name tag) (fuel + 1) 126),
      readMembers_last hvalue (h fuel 126)]
    cases outcome <;> rfl
  rw [← htext, JsonValue.read, hfuel, depthLimit, hchars, quoted_append hkey, readValue_object]
  rw [quoted_append hkey] at hfirst
  rw [hfirst]
  cases outcome <;> rfl

/-- **The object of a typed value that is a plain string is read** from its text. -/
theorem read_ofParts_string (tag : Tag) (h : ∀ c ∈ s.toList, IsPlain c) :
    JsonValue.read (JsonValue.ofParts tag (.string s) none).text
      = .ok (.ofParts tag (.string s) none) := by
  refine read_ofParts tag (.string s) (.ok (.string s)) fun fuel depth => ?_
  rw [JsonValue.chars, readValue_string h]
  rfl

/-- **The object of a typed value that is a number is read** from its text, with the number that the
text of the number is read as. -/
theorem read_ofParts_number (tag : Tag) {n : Numeral} (h : n.HasText) :
    JsonValue.read (JsonValue.ofParts tag (.number n) none).text
      = match n.reread? with
        | some n' => .ok (.ofParts tag (.number n') none)
        | none => .error "number out of range" := by
  have hends : EndsNumber ['\x7d'] := by
    intro c hc
    obtain rfl := Option.some.inj hc
    decide
  have hread := read_ofParts tag (.number n) (match n.reread? with
    | some n' => .ok (.number n')
    | none => .error "number out of range") fun fuel depth => by
      rw [JsonValue.chars, readValue_number h hends]
      cases n.reread? <;> rfl
  rw [hread]
  cases n.reread? <;> rfl

end TypedRows.JsonReader
