import TypedRows.Calendar.Zone
import TypedRows.Proofs.Calendar.ClockTexts

/-!
# The texts of fixed offsets

An offset is written with a sign and two digits of hours, which two digits of minutes may follow,
with or without a colon between them. Readers drop all colons before they count digits, so that a
text with colons elsewhere is read too, as the offset of its digits. These are the only texts outside
of the grammar that are read. Every offset that is read is shown by a text that is read as the same
offset.

## Main definitions

* `TypedRows.Calendar.WritesOffset` — the minutes that a text writes after its sign.
* `TypedRows.Calendar.HasStrayColons` — texts that write an offset only without their colons.
* `TypedRows.Calendar.KeepsOffsetGrammar` — texts that are read as the grammar has it.

## Main results

* `TypedRows.Calendar.exists_writesOffset`, `TypedRows.Calendar.offsetMagnitude?_of_writesOffset` —
  the texts that are read and their offsets.
* `TypedRows.Calendar.read_text_fixed` — an offset is read as it is shown.
* `TypedRows.Calendar.offset_grammar_is_kept_iff`
-/

set_option autoImplicit false

namespace TypedRows.Calendar

/-! ## Grammar -/

/-- Two digits of a number that is not above the greatest one. -/
structure IsPair (greatest : Nat) (cs : List Char) : Prop extends IsField greatest cs where
  length_eq : cs.length = 2

/-- The texts `HH`, `HHMM` and `HH:MM` of at most 18 hours and at most 59 minutes, with all their
minutes. -/
inductive WritesOffset : List Char → Nat → Prop where
  | hours {H : List Char} : IsPair 18 H → WritesOffset H (60 * Nat.ofDigitChars 10 H 0)
  | compact {H M : List Char} : IsPair 18 H → IsPair 59 M →
    WritesOffset (H ++ M) (60 * Nat.ofDigitChars 10 H 0 + Nat.ofDigitChars 10 M 0)
  | colon {H M : List Char} : IsPair 18 H → IsPair 59 M →
    WritesOffset (H ++ ':' :: M) (60 * Nat.ofDigitChars 10 H 0 + Nat.ofDigitChars 10 M 0)

/-- A text without its colons. -/
def withoutColons (cs : List Char) : List Char := cs.filter (· != ':')

/-- A text writes an offset without its colons but not with them. -/
def HasStrayColons (cs : List Char) : Prop :=
  (∃ minutes, WritesOffset (withoutColons cs) minutes) ∧ ¬ ∃ minutes, WritesOffset cs minutes

/-- The milliseconds of some minutes with a sign. -/
def signedMillis (sign : Char) (minutes : Nat) : Int :=
  if sign = '-' then -(minutes * 60000 : Nat) else (minutes * 60000 : Nat)

/-- A text with a sign and a rest, blanks around it aside, is read exactly when the rest writes an
offset, and as that offset with the sign. The text of the zone is read as the same zone, and a text
that is not read is refused as the name of a zone that is not known. -/
structure KeepsOffsetGrammar (text : String) (sign : Char) (rest : List Char) : Prop where
  read_iff : ∀ zone, Zone.read text = .ok zone
    ↔ ∃ minutes, WritesOffset rest minutes ∧ zone = .fixed (signedMillis sign minutes)
  comes_back : ∀ zone, Zone.read text = .ok zone → Zone.read zone.text = .ok zone
  refused : ∀ e, Zone.read text = .error e → e = .unknownZone (String.ofList (sign :: rest))

variable {cs rest : List Char} {text : String} {sign : Char} {minutes : Nat}

/-! ## Pairs -/

section Pairs

variable {greatest greatest' : Nat} {H M : List Char}

/-- Two digits up to a bound are a pair. -/
lemma isPair_of_length (hdigits : ∀ c ∈ cs, c.isDigit = true) (hlength : cs.length = 2)
    (hle : Nat.ofDigitChars 10 cs 0 ≤ greatest) : IsPair greatest cs where
  ne_nil := List.ne_nil_of_length_pos (by omega)
  isDigit := hdigits
  le := hle
  length_eq := hlength

/-- A number below a hundred is a pair when it is padded. -/
lemma isPair_padded {n : Nat} (hn : n ≤ greatest) (hgreatest : greatest < 100) :
    IsPair greatest (Text.padded 2 n) :=
  isPair_of_length (fun _ hc => Text.isDigit_of_mem_padded hc)
    (Text.length_padded (by decide) (by omega)) (by rwa [Text.ofDigitChars_padded])

/-- Two pairs are four digits. -/
lemma IsPair.append (hH : IsPair greatest H) (hM : IsPair greatest' M) :
    (∀ c ∈ H ++ M, c.isDigit = true) ∧ (H ++ M).length = 4 :=
  ⟨List.forall_mem_append.2 ⟨hH.isDigit, hM.isDigit⟩,
    by rw [List.length_append, hH.length_eq, hM.length_eq]⟩

end Pairs

/-! ## Colons -/

/-- There are no colons to be left out of digits. -/
lemma withoutColons_of_isDigit (h : ∀ c ∈ cs, c.isDigit = true) : withoutColons cs = cs := by
  apply List.filter_eq_self.2
  intro c hc
  have hne : c ≠ ':' := by
    rintro rfl
    cases h ':' hc
  simpa using hne

/-- No colon is left where the colons are left out. -/
lemma not_mem_withoutColons (cs : List Char) : ':' ∉ withoutColons cs := by
  simp [withoutColons]

/-- **What is written with a colon is written without it.** -/
lemma writesOffset_withoutColons (h : WritesOffset cs minutes) :
    WritesOffset (withoutColons cs) minutes := by
  cases h with
  | hours hH =>
    rw [withoutColons_of_isDigit hH.isDigit]
    exact .hours hH
  | compact hH hM =>
    rw [withoutColons_of_isDigit (hH.append hM).1]
    exact .compact hH hM
  | @colon H M hH hM =>
    have hdrop : withoutColons (H ++ ':' :: M) = H ++ M := by
      rw [withoutColons, List.filter_append, List.filter_cons_of_neg (by decide)]
      exact congrArg₂ _ (withoutColons_of_isDigit hH.isDigit) (withoutColons_of_isDigit hM.isDigit)
    rw [hdrop]
    exact .compact hH hM

/-! ## Readers -/

/-- Two digits are hours. -/
lemma offsetMagnitude?_of_two (hdigits : ∀ c ∈ withoutColons cs, c.isDigit = true)
    (hlength : (withoutColons cs).length = 2) : Zone.offsetMagnitude? cs
      = if 18 < Nat.ofDigitChars 10 (withoutColons cs) 0 then none
        else some (Nat.ofDigitChars 10 (withoutColons cs) 0 * 3600000) := by
  have hall : (withoutColons cs).all Char.isDigit = true := List.all_eq_true.2 hdigits
  rw [Zone.offsetMagnitude?, ← withoutColons]
  simp [hall, hlength]

/-- Four digits are hours and minutes. -/
lemma offsetMagnitude?_of_four (hdigits : ∀ c ∈ withoutColons cs, c.isDigit = true)
    (hlength : (withoutColons cs).length = 4) : Zone.offsetMagnitude? cs
      = if 18 < Nat.ofDigitChars 10 ((withoutColons cs).take 2) 0
          ∨ 59 < Nat.ofDigitChars 10 ((withoutColons cs).drop 2) 0 then none
        else some (Nat.ofDigitChars 10 ((withoutColons cs).take 2) 0 * 3600000
          + Nat.ofDigitChars 10 ((withoutColons cs).drop 2) 0 * 60000) := by
  have hall : (withoutColons cs).all Char.isDigit = true := List.all_eq_true.2 hdigits
  rw [Zone.offsetMagnitude?, ← withoutColons]
  simp [hall, hlength]

/-- Nothing else is an offset. -/
lemma digits_of_offsetMagnitude? {k : Nat} (h : Zone.offsetMagnitude? cs = some k) :
    (∀ c ∈ withoutColons cs, c.isDigit = true)
      ∧ ((withoutColons cs).length = 2 ∨ (withoutColons cs).length = 4) := by
  rw [Zone.offsetMagnitude?, ← withoutColons] at h
  split at h
  · cases h
  · rename_i hall
    refine ⟨List.all_eq_true.1 (by simpa using hall), ?_⟩
    by_contra hlength
    split at h
    · exact hlength (.inl ‹_›)
    · exact hlength (.inr ‹_›)
    · cases h

/-- **What is read as an offset writes it**, without its colons. -/
lemma exists_writesOffset {k : Nat} (h : Zone.offsetMagnitude? cs = some k) :
    ∃ minutes, WritesOffset (withoutColons cs) minutes ∧ k = minutes * 60000 := by
  obtain ⟨hdigits, htwo | hfour⟩ := digits_of_offsetMagnitude? h
  · rw [offsetMagnitude?_of_two hdigits htwo] at h
    split at h
    · cases h
    · obtain rfl := Option.some.inj h
      exact ⟨_, .hours (isPair_of_length hdigits htwo (by omega)), by omega⟩
  · rw [offsetMagnitude?_of_four hdigits hfour] at h
    split at h
    · cases h
    · obtain rfl := Option.some.inj h
      have hH : IsPair 18 ((withoutColons cs).take 2) :=
        isPair_of_length (fun c hc => hdigits c (List.mem_of_mem_take hc))
          (by rw [List.length_take]; omega) (by omega)
      have hM : IsPair 59 ((withoutColons cs).drop 2) :=
        isPair_of_length (fun c hc => hdigits c (List.mem_of_mem_drop hc))
          (by rw [List.length_drop]; omega) (by omega)
      have hwrites := WritesOffset.compact hH hM
      rw [List.take_append_drop] at hwrites
      exact ⟨_, hwrites, by omega⟩

/-- **What writes an offset without its colons is read.** -/
lemma offsetMagnitude?_of_writesOffset (h : WritesOffset (withoutColons cs) minutes) :
    Zone.offsetMagnitude? cs = some (minutes * 60000) := by
  have hcolon := not_mem_withoutColons cs
  generalize hds : withoutColons cs = ds at h hcolon
  cases h with
  | hours hH =>
    rw [offsetMagnitude?_of_two (hds ▸ hH.isDigit) (hds ▸ hH.length_eq), hds,
      if_neg (Nat.not_lt.2 hH.le)]
    exact congrArg some (by omega)
  | compact hH hM =>
    obtain ⟨hdigits, hlength⟩ := hH.append hM
    rw [offsetMagnitude?_of_four (hds ▸ hdigits) (hds ▸ hlength), hds,
      List.take_left' hH.length_eq, List.drop_left' hH.length_eq,
      if_neg (not_or.2 ⟨Nat.not_lt.2 hH.le, Nat.not_lt.2 hM.le⟩)]
    exact congrArg some (by omega)
  | colon hH hM => simp at hcolon

/-- A text without colons writes one offset at most. -/
lemma WritesOffset.unique {minutes' : Nat} (h : WritesOffset (withoutColons cs) minutes)
    (h' : WritesOffset (withoutColons cs) minutes') : minutes = minutes' := by
  have hmagnitude := offsetMagnitude?_of_writesOffset h
  rw [offsetMagnitude?_of_writesOffset h'] at hmagnitude
  have hmillis := Option.some.inj hmagnitude
  omega

/-- The sign decides that a text is read as an offset. -/
lemma read_of_sign (htext : Text.trim text.toList = sign :: rest)
    (hsign : sign = '+' ∨ sign = '-') : Zone.read text = match Zone.offsetMagnitude? rest with
      | some n => .ok (.fixed (if sign = '-' then -(n : Int) else n))
      | none => .error (.unknownZone (String.ofList (sign :: rest))) := by
  have hutc : Text.sameName (String.ofList (sign :: rest)) "utc" = false := by
    rcases hsign with rfl | rfl <;> simp [Text.sameName]
  have hlocal : Text.sameName (String.ofList (sign :: rest)) "local" = false := by
    rcases hsign with rfl | rfl <;> simp [Text.sameName]
  have hz : (String.ofList (sign :: rest) == "Z") = false := by
    rcases hsign with rfl | rfl <;> simp [← String.toList_inj]
  rw [Zone.read, htext]
  simp only [hutc, hlocal, hz, Bool.or_self, Bool.false_eq_true, if_false]
  rcases hsign with rfl | rfl
  · rfl
  · rfl

/-- **The zones that are read** of a text with a sign. -/
lemma read_eq_ok_iff (htext : Text.trim text.toList = sign :: rest)
    (hsign : sign = '+' ∨ sign = '-') (zone : Zone) : Zone.read text = .ok zone
      ↔ ∃ minutes, WritesOffset (withoutColons rest) minutes
        ∧ zone = .fixed (signedMillis sign minutes) := by
  rw [read_of_sign htext hsign]
  constructor
  · intro h
    cases hmagnitude : Zone.offsetMagnitude? rest with
    | none => simp [hmagnitude] at h
    | some k =>
      obtain ⟨minutes, hwrites, rfl⟩ := exists_writesOffset hmagnitude
      rw [hmagnitude] at h
      exact ⟨minutes, hwrites, (Except.ok.inj h).symm⟩
  · rintro ⟨minutes, hwrites, rfl⟩
    rw [offsetMagnitude?_of_writesOffset hwrites]
    rfl

/-- Whatever is refused of a text with a sign is refused as the name of a zone. -/
lemma eq_unknownZone_of_read (htext : Text.trim text.toList = sign :: rest)
    (hsign : sign = '+' ∨ sign = '-') {e : CalendarError} (h : Zone.read text = .error e) :
    e = .unknownZone (String.ofList (sign :: rest)) := by
  rw [read_of_sign htext hsign] at h
  split at h
  · cases h
  · exact (Except.error.inj h).symm

/-! ## Shown offsets -/

/-- No offset is above 18 hours and 59 minutes. -/
lemma WritesOffset.le (h : WritesOffset cs minutes) : minutes ≤ 60 * 18 + 59 := by
  cases h with
  | hours hH =>
    have hhours := hH.le
    omega
  | compact hH hM =>
    have hhours := hH.le
    have hminutes := hM.le
    omega
  | colon hH hM =>
    have hhours := hH.le
    have hminutes := hM.le
    omega

/-- Hours and minutes are shown in the grammar. -/
lemma writesOffset_padded (h : minutes ≤ 60 * 18 + 59) : WritesOffset
    (Text.padded 2 (minutes / 60) ++ ':' :: Text.padded 2 (minutes % 60)) minutes := by
  have hwrites := WritesOffset.colon
    (isPair_padded (show minutes / 60 ≤ 18 by omega) (by decide))
    (isPair_padded (show minutes % 60 ≤ 59 by omega) (by decide))
  rwa [Text.ofDigitChars_padded, Text.ofDigitChars_padded, Nat.div_add_mod] at hwrites

/-- The text of an offset has the sign of the offset; that of no offset is `+`. -/
lemma text_fixed (sign : Char) (minutes : Nat) :
    ∃ shown, (shown = '+' ∨ shown = '-') ∧ signedMillis shown minutes = signedMillis sign minutes
      ∧ (Zone.fixed (signedMillis sign minutes)).text.toList
        = shown :: (Text.padded 2 (minutes / 60) ++ ':' :: Text.padded 2 (minutes % 60)) := by
  have habs : (signedMillis sign minutes).natAbs = minutes * 60000 := by
    unfold signedMillis
    split <;> omega
  have hhours : minutes * 60000 / 3600000 = minutes / 60 := by omega
  have hminutes : minutes * 60000 % 3600000 / 60000 = minutes % 60 := by omega
  refine ⟨if signedMillis sign minutes < 0 then '-' else '+', ?_, ?_, ?_⟩
  · split
    · exact .inr rfl
    · exact .inl rfl
  · split
    · have hminus : signedMillis '-' minutes = -(minutes * 60000 : Nat) := rfl
      omega
    · have hplus : signedMillis '+' minutes = (minutes * 60000 : Nat) := rfl
      omega
  · rw [Zone.text, habs, hhours, hminutes, String.toList_ofList]
    rfl

/-- **An offset is read as it is shown.** -/
theorem read_text_fixed (sign : Char) (h : minutes ≤ 60 * 18 + 59) :
    Zone.read (Zone.fixed (signedMillis sign minutes)).text
      = .ok (.fixed (signedMillis sign minutes)) := by
  obtain ⟨shown, hshown, hmillis, htext⟩ := text_fixed sign minutes
  have hblank : ∀ c ∈ shown :: (Text.padded 2 (minutes / 60)
      ++ ':' :: Text.padded 2 (minutes % 60)), Text.isBlank c = false := by
    have hpadded {n : Nat} {c : Char} (hc : c ∈ Text.padded 2 n) : Text.isBlank c = false :=
      Text.isBlank_of_isDigit (Text.isDigit_of_mem_padded hc)
    simp only [List.forall_mem_cons, List.forall_mem_append]
    refine ⟨?_, fun c => hpadded, by decide, fun c => hpadded⟩
    rcases hshown with rfl | rfl <;> decide
  rw [← hmillis] at htext ⊢
  exact (read_eq_ok_iff (by rw [htext, Text.trim_of_not_isBlank hblank]) hshown _).2
    ⟨minutes, writesOffset_withoutColons (writesOffset_padded h), rfl⟩

/-! ## All texts with a sign -/

/-- **The grammar of fixed offsets is kept unless colons stand elsewhere.** A text with a sign is
read exactly when the rest of it writes an offset, as that offset, and refused as the name of an
unknown zone when it does not, exactly when its rest does not write an offset only without its
colons. Whatever is read of such a text is the offset that its rest writes without colons, and the
text of that zone is read as the same zone; whatever is refused is refused as the name of an unknown
zone.

**Proof sketch.** Readers see the rest without its colons, which writes what the rest writes
(`writesOffset_withoutColons`). What is shown of an offset is a text of the grammar. -/
theorem offset_grammar_is_kept_iff {text : String} {sign : Char} {rest : List Char}
    (htext : Text.trim text.toList = sign :: rest) (hsign : sign = '+' ∨ sign = '-') :
    (KeepsOffsetGrammar text sign rest ↔ ¬ HasStrayColons rest)
      ∧ (∀ zone, Zone.read text = .ok zone
        ↔ ∃ minutes, WritesOffset (withoutColons rest) minutes
          ∧ zone = .fixed (signedMillis sign minutes))
      ∧ (∀ zone, Zone.read text = .ok zone → Zone.read zone.text = .ok zone)
      ∧ ∀ e, Zone.read text = .error e → e = .unknownZone (String.ofList (sign :: rest)) := by
  have hread := read_eq_ok_iff htext hsign
  have hcomes : ∀ zone, Zone.read text = .ok zone → Zone.read zone.text = .ok zone := by
    intro zone hzone
    obtain ⟨minutes, hwrites, rfl⟩ := (hread zone).1 hzone
    exact read_text_fixed sign hwrites.le
  have hrefused (e : CalendarError) (he : Zone.read text = .error e) :
      e = .unknownZone (String.ofList (sign :: rest)) :=
    eq_unknownZone_of_read htext hsign he
  refine ⟨⟨?_, fun hstray => ⟨fun zone => ?_, hcomes, hrefused⟩⟩, hread, hcomes, hrefused⟩
  · rintro hkeeps ⟨⟨minutes, hwrites⟩, hnone⟩
    obtain ⟨minutes', hwrites', -⟩ := (hkeeps.read_iff _).1 ((hread _).2 ⟨minutes, hwrites, rfl⟩)
    exact hnone ⟨minutes', hwrites'⟩
  · rw [hread]
    constructor
    · rintro ⟨minutes, hwrites, rfl⟩
      obtain ⟨minutes', hwrites'⟩ := not_not.1 fun hnone => hstray ⟨⟨minutes, hwrites⟩, hnone⟩
      obtain rfl := (writesOffset_withoutColons hwrites').unique hwrites
      exact ⟨minutes', hwrites', rfl⟩
    · rintro ⟨minutes, hwrites, rfl⟩
      exact ⟨minutes, writesOffset_withoutColons hwrites, rfl⟩

/-- An offset west of UTC, between blanks. -/
theorem offset_grammar_is_kept_west_of_utc :
    Text.trim " -05:30 ".toList = '-' :: "05:30".toList
      ∧ KeepsOffsetGrammar " -05:30 " '-' "05:30".toList
      ∧ Zone.read " -05:30 " = .ok (.fixed (-19800000)) := by
  have htext : Text.trim " -05:30 ".toList = '-' :: "05:30".toList := by decide
  have hwrites : WritesOffset "05:30".toList 330 :=
    .colon (H := ['0', '5']) (M := ['3', '0']) ⟨isField_iff.2 ⟨5, rfl, by decide⟩, rfl⟩
      ⟨isField_iff.2 ⟨30, rfl, by decide⟩, rfl⟩
  obtain ⟨hkeeps, hread, -, -⟩ := offset_grammar_is_kept_iff htext (.inr rfl)
  exact ⟨htext, hkeeps.2 fun hstray => hstray.2 ⟨330, hwrites⟩,
    (hread _).2 ⟨330, writesOffset_withoutColons hwrites, rfl⟩⟩

/-- A colon after the first digit of the hours is read as if it stood after the second one. -/
theorem colon_within_the_hours_is_dropped :
    Text.trim "+0:530".toList = '+' :: "0:530".toList ∧ Zone.read "+0:530" = .ok (.fixed 19800000)
      ∧ (¬ ∃ minutes, WritesOffset "0:530".toList minutes)
      ∧ ¬ KeepsOffsetGrammar "+0:530" '+' "0:530".toList := by
  have hnone : ¬ ∃ minutes, WritesOffset "0:530".toList minutes := by
    rintro ⟨minutes, h⟩
    generalize hcs : "0:530".toList = cs at h
    cases h with
    | hours hH =>
      rw [← hcs] at hH
      cases hH.length_eq
    | compact hH hM =>
      have hlength := congrArg List.length hcs
      rw [List.length_append, hH.length_eq, hM.length_eq] at hlength
      cases hlength
    | colon hH hM =>
      have hthird := congrArg (·[2]?) hcs
      rw [List.getElem?_append_right (Nat.le_of_eq hH.length_eq), hH.length_eq] at hthird
      cases hthird
  have hread : Zone.read "+0:530" = .ok (.fixed 19800000) := by decide
  refine ⟨by decide, hread, hnone, fun h => ?_⟩
  obtain ⟨minutes, hwrites, -⟩ := (h.read_iff _).1 hread
  exact hnone ⟨minutes, hwrites⟩

end TypedRows.Calendar
