import Mathlib.Data.List.Forall2

/-!
# Outcomes of steps and of walks over lists

A computation that may fail succeeds when each of its steps does. A walk over a list, which stops
at the first failure, succeeds when every item does; its results stand in the order of the items.

## Main results

* `TypedRows.bind_eq_ok_iff`, `TypedRows.bind_eq_error_iff` — a step and what follows it.
* `TypedRows.throw_or_eq_ok_iff`, `TypedRows.throw_or_eq_error_iff` — a check and what follows it.
* `TypedRows.mapM_eq_ok_iff`, `TypedRows.exists_mapM_eq_ok_iff`, `TypedRows.mapM_eq_ok_map` — a
  walk over a list.
* `TypedRows.mapM_zipIdx_results`, `TypedRows.mapM_run` — walks along numbered items and along runs.
* `TypedRows.mapM_eq_error_iff` — the failure of a walk.
* `TypedRows.mapM_bind_mapM_eq_ok_iff` — two walks, one along the results of the other.
-/

set_option autoImplicit false

namespace TypedRows

variable {α β γ ε : Type}

/-- Two steps succeed when the first one does and then the second. -/
lemma bind_eq_ok_iff {x : Except ε α} {f : α → Except ε β} {b : β} :
    x >>= f = .ok b ↔ ∃ a, x = .ok a ∧ f a = .ok b := by
  cases x <;> simp [bind, Except.bind]

/-- What is made of a result is there when the result is. -/
lemma map_eq_ok_iff {x : Except ε α} {f : α → β} {b : β} :
    f <$> x = .ok b ↔ ∃ a, x = .ok a ∧ f a = b := by
  cases x <;> simp

/-- Two steps fail when the first one does or else the second. -/
lemma bind_eq_error_iff {x : Except ε α} {f : α → Except ε β} {e : ε} :
    x >>= f = .error e ↔ x = .error e ∨ ∃ a, x = .ok a ∧ f a = .error e := by
  cases x <;> simp [bind, Except.bind]

/-- What follows a check is reached when the check does not refuse. -/
lemma throw_or_eq_ok_iff {p : Prop} [Decidable p] {e : ε} {x : Except ε α} {a : α} :
    (if p then do throw e; x else x) = .ok a ↔ ¬ p ∧ x = .ok a := by
  by_cases hp : p <;> simp [hp, bind, Except.bind, throw, throwThe, MonadExceptOf.throw]

/-- A check and what follows it fail with the error of one of them. -/
lemma throw_or_eq_error_iff {p : Prop} [Decidable p] {e e' : ε} {x : Except ε α} :
    (if p then do throw e; x else x) = .error e' ↔ p ∧ e = e' ∨ ¬ p ∧ x = .error e' := by
  by_cases hp : p <;> simp [hp, bind, Except.bind, throw, throwThe, MonadExceptOf.throw]

/-- What is made of a result is there when the result is, whatever it is. -/
lemma exists_map_eq_ok_iff {x : Except ε α} {f : α → β} :
    (∃ b, (do return f (← x)) = Except.ok (ε := ε) b) ↔ ∃ a, x = .ok a := by
  cases x <;> simp [Functor.map, Except.map]

/-- A walk succeeds when its first step and the walk along the rest do. -/
lemma mapM_cons_eq_ok_iff {f : α → Except ε β} {a : α} {as : List α} {bs : List β} :
    (a :: as).mapM f = .ok bs ↔ ∃ b bs', f a = .ok b ∧ as.mapM f = .ok bs' ∧ bs = b :: bs' := by
  simp only [List.mapM_cons, bind_eq_ok_iff, pure, Except.pure, Except.ok.injEq, exists_and_left]
  exact exists_congr fun b => and_congr_right fun _ => exists_congr fun bs' =>
    and_congr_right fun _ => eq_comm

/-- A walk succeeds with the results of its steps. -/
lemma mapM_eq_ok_iff {f : α → Except ε β} {as : List α} {bs : List β} :
    as.mapM f = .ok bs ↔ List.Forall₂ (fun a b => f a = .ok b) as bs := by
  induction as generalizing bs with
  | nil => simp [pure, Except.pure, eq_comm]
  | cons a as ih => simp only [mapM_cons_eq_ok_iff, List.forall₂_cons_left_iff, ih]

/-- A walk along items whose results are known. -/
lemma mapM_eq_ok_map {f : α → Except ε β} {g : α → β} {as : List α}
    (h : ∀ a ∈ as, f a = .ok (g a)) : as.mapM f = .ok (as.map g) := by
  rw [mapM_eq_ok_iff, List.forall₂_map_right_iff, List.forall₂_same]
  exact h

/-- A walk along items that were made of others, whose results are known. -/
lemma mapM_map_eq_ok_map {f : β → Except ε γ} {make : α → β} {g : α → γ} {as : List α}
    (h : ∀ a ∈ as, f (make a) = .ok (g a)) : (as.map make).mapM f = .ok (as.map g) := by
  rw [List.mapM_map]
  exact mapM_eq_ok_map h

/-- A walk whose results are made of others. -/
lemma mapM_map_results (g : β → γ) (f : α → Except ε β) (as : List α) :
    (as.mapM fun a => g <$> f a) = List.map g <$> as.mapM f := by
  induction as with
  | nil => rfl
  | cons a as ih =>
    rw [List.mapM_cons, List.mapM_cons, ih]
    cases f a with
    | error e => rfl
    | ok b => cases as.mapM f <;> rfl

/-- A walk along numbered items whose results are made of the numbers and of others. -/
lemma mapM_zipIdx_results (g : Nat → β → γ) (f : α → Except ε β) (as : List α) (n : Nat) :
    ((as.zipIdx n).mapM fun x => g x.2 <$> f x.1)
      = (fun bs => (bs.zipIdx n).map fun x => g x.2 x.1) <$> as.mapM f := by
  induction as generalizing n with
  | nil => rfl
  | cons a as ih =>
    rw [List.zipIdx_cons, List.mapM_cons, List.mapM_cons, ih]
    dsimp only
    cases f a with
    | error e => rfl
    | ok b => cases as.mapM f <;> rfl

/-- A walk along a run of items has the same run of results. -/
lemma mapM_run {f : α → Except ε β} {as : List α} {bs : List β} (h : as.mapM f = .ok bs)
    (start length : Nat) :
    ((as.drop start).take length).mapM f = .ok ((bs.drop start).take length) := by
  rw [mapM_eq_ok_iff] at h ⊢
  exact List.forall₂_take length (List.forall₂_drop start h)

/-- A walk succeeds exactly when every step does. -/
lemma exists_mapM_eq_ok_iff {f : α → Except ε β} {as : List α} :
    (∃ bs, as.mapM f = .ok bs) ↔ ∀ a ∈ as, ∃ b, f a = .ok b := by
  induction as with
  | nil => simp [pure, Except.pure]
  | cons a as ih =>
    simp only [List.forall_mem_cons, ← ih, mapM_cons_eq_ok_iff]
    constructor
    · rintro ⟨_, b, bs, hb, hbs, rfl⟩
      exact ⟨⟨b, hb⟩, bs, hbs⟩
    · rintro ⟨⟨b, hb⟩, bs, hbs⟩
      exact ⟨_, b, bs, hb, hbs, rfl⟩

/-- A walk fails with the failure of the first step that does. -/
lemma mapM_eq_error_iff {f : α → Except ε β} {as : List α} {e : ε} :
    as.mapM f = .error e ↔ ∃ before a after, as = before ++ a :: after
      ∧ (∀ b ∈ before, ∃ r, f b = .ok r) ∧ f a = .error e := by
  induction as with
  | nil => simp [pure, Except.pure]
  | cons a as ih =>
    rw [List.mapM_cons]
    constructor
    · cases ha : f a with
      | error e' =>
        intro h
        obtain rfl := Except.error.inj h
        exact ⟨[], a, as, rfl, by simp, ha⟩
      | ok b =>
        intro h
        have hrest : as.mapM f = .error e := by
          cases hrest : as.mapM f with
          | error e' =>
            rw [hrest] at h
            exact h
          | ok bs =>
            rw [hrest] at h
            cases h
        obtain ⟨before, a', after, rfl, hbefore, ha'⟩ := ih.1 hrest
        exact ⟨a :: before, a', after, rfl, List.forall_mem_cons.2 ⟨⟨b, ha⟩, hbefore⟩, ha'⟩
    · rintro ⟨before, a', after, h, hbefore, ha'⟩
      cases before with
      | nil =>
        obtain ⟨rfl, rfl⟩ := List.cons.inj h
        rw [ha']
        rfl
      | cons b before =>
        obtain ⟨rfl, rfl⟩ := List.cons.inj h
        obtain ⟨⟨r, hr⟩, hbefore⟩ := List.forall_mem_cons.1 hbefore
        rw [hr, ih.2 ⟨before, a', after, rfl, hbefore, ha'⟩]
        rfl

/-- A walk along items that either succeed or fail in one way, some of which do fail. -/
lemma mapM_eq_error_of_exists {f : α → Except ε β} {as : List α} {e : ε}
    (h : ∀ a ∈ as, (∃ b, f a = .ok b) ∨ f a = .error e) (hfail : ∃ a ∈ as, f a = .error e) :
    as.mapM f = .error e := by
  cases hwalk : as.mapM f with
  | ok bs =>
    obtain ⟨a, ha, hfail⟩ := hfail
    obtain ⟨b, hb⟩ := exists_mapM_eq_ok_iff.1 ⟨bs, hwalk⟩ a ha
    rw [hb] at hfail
    cases hfail
  | error e' =>
    obtain ⟨before, a, after, rfl, -, ha⟩ := mapM_eq_error_iff.1 hwalk
    obtain ⟨b, hb⟩ | hb := h a (by simp)
    · rw [ha] at hb
      cases hb
    · rw [Except.error.inj (ha.symm.trans hb)]

/-- A walk along items that are known to be items of a list. -/
lemma mapM_attach (f : α → Except ε β) (as : List α) :
    (as.attach.mapM fun a => f a.1) = as.mapM f := by
  conv_rhs => rw [← List.attach_map_subtype_val as, List.mapM_map]
  rfl

/-- Two walks, the second one along the results of the first. -/
lemma mapM_bind_mapM_eq_ok_iff {f : α → Except ε β} {g : β → Except ε γ} {as : List α}
    {cs : List γ} : (as.mapM f >>= fun bs => bs.mapM g) = .ok cs
      ↔ List.Forall₂ (fun a c => f a >>= g = .ok c) as cs := by
  simp only [bind_eq_ok_iff]
  induction as generalizing cs with
  | nil => simp [eq_comm, pure, Except.pure]
  | cons a as ih =>
    simp only [List.forall₂_cons_left_iff, ← ih, mapM_cons_eq_ok_iff]
    constructor
    · rintro ⟨_, ⟨b, bs, hb, hbs, rfl⟩, h⟩
      obtain ⟨c, cs', hc, hcs, rfl⟩ := mapM_cons_eq_ok_iff.1 h
      exact ⟨c, cs', ⟨b, hb, hc⟩, ⟨bs, hbs, hcs⟩, rfl⟩
    · rintro ⟨c, cs', ⟨b, hb, hc⟩, ⟨bs, hbs, hcs⟩, rfl⟩
      exact ⟨b :: bs, ⟨b, bs, hb, hbs, rfl⟩, mapM_cons_eq_ok_iff.2 ⟨c, cs', hc, hcs, rfl⟩⟩

/-- The results of a second walk along the results of a first one relate to the items exactly when
they do item by item. -/
lemma exists_forall₂_and_forall₂_iff {f : α → Except ε β} {g : β → Except ε γ} {R : α → γ → Prop}
    {as : List α} {bs : List β} (h : List.Forall₂ (fun a b => f a = .ok b) as bs) :
    (∃ cs, List.Forall₂ (fun b c => g b = .ok c) bs cs ∧ List.Forall₂ R as cs)
      ↔ ∀ a ∈ as, ∃ b c, f a = .ok b ∧ g b = .ok c ∧ R a c := by
  induction h with
  | nil => simp
  | @cons a b as bs hab _ ih =>
    rw [List.forall_mem_cons, ← ih]
    constructor
    · rintro ⟨_, hg, hR⟩
      cases hg with
      | cons hc hcs =>
        cases hR with
        | cons hr hrs => exact ⟨⟨b, _, hab, hc, hr⟩, _, hcs, hrs⟩
    · rintro ⟨⟨b', c, hb', hc, hr⟩, cs, hcs, hrs⟩
      obtain rfl : b = b' := Except.ok.inj (hab.symm.trans hb')
      exact ⟨c :: cs, .cons hc hcs, .cons hr hrs⟩

/-- What belongs to an item along two relations between the same lists. -/
lemma exists_of_forall₂ {R : α → β → Prop} {S : β → α → Prop} {as : List α} {bs : List β}
    (h : List.Forall₂ R as bs) (h' : List.Forall₂ S bs as) {a : α} (ha : a ∈ as) :
    ∃ b, R a b ∧ S b a := by
  induction h with
  | nil => simp at ha
  | cons hr _ ih =>
    cases h' with
    | cons hs h' =>
      rcases List.mem_cons.1 ha with rfl | ha
      · exact ⟨_, hr, hs⟩
      · exact ih h' ha

/-- What an item of the second list belongs to along a relation between two lists. -/
lemma exists_of_mem_right {R : α → β → Prop} {as : List α} {bs : List β}
    (h : List.Forall₂ R as bs) {b : β} (hb : b ∈ bs) : ∃ a ∈ as, R a b := by
  induction h with
  | nil => simp at hb
  | cons hr _ ih =>
    rcases List.mem_cons.1 hb with rfl | hb
    · exact ⟨_, List.mem_cons_self, hr⟩
    · obtain ⟨a, ha, hr⟩ := ih hb
      exact ⟨a, List.mem_cons_of_mem _ ha, hr⟩

/-- What stands at a position along a relation between two lists. -/
lemma getElem?_of_forall₂ {R : α → β → Prop} {as : List α} {bs : List β}
    (h : List.Forall₂ R as bs) {i : Nat} {a : α} (ha : as[i]? = some a) :
    ∃ b, bs[i]? = some b ∧ R a b := by
  induction h generalizing i with
  | nil => simp at ha
  | @cons _ b _ _ hr _ ih =>
    cases i with
    | zero =>
      obtain rfl : _ = a := by simpa using ha
      exact ⟨b, rfl, hr⟩
    | succ i => exact ih (by simpa using ha)

/-- What holds of all items of one list and what holds of all items of another one, when the two
are the same along a relation between the lists. -/
lemma forall_mem_iff_of_forall₂ {P : α → Prop} {Q : β → Prop} {as : List α} {bs : List β}
    (h : List.Forall₂ (fun a b => P a ↔ Q b) as bs) : (∀ a ∈ as, P a) ↔ ∀ b ∈ bs, Q b := by
  induction h with
  | nil => simp
  | cons hab _ ih => simp only [List.forall_mem_cons, hab, ih]

end TypedRows
