import Mathlib.Logic.Function.Iterate
import Mathlib.Tactic.SplitIfs
import TypedRows.Row.Cursor

/-!
# The protocol of a cursor

A cursor is moved, read and released in any order, and its source may fail to hand out a row.
Whatever is done with it, its answers are those of the source one by one until there are no more
rows, it stands on the row that came last, and it releases the source once.

A run is a list of acts, and what happens in it a list of events. The source of a run records
what it was asked, so that requests can be counted. Each part of a run is a run itself: what is
said about the state after a run holds at every step of it.

## Main definitions

* `TypedRows.RowSource.answer` — what a source answers to each request for a row.
* `TypedRows.Observed` — a source with a record of its answers and releases.
* `TypedRows.Cursor.Act`, `TypedRows.Cursor.Event`, `TypedRows.Cursor.run` — runs.
* `TypedRows.Cursor.Follows` — the invariant that ties the state of a cursor to the events.

## Main results

* `TypedRows.Cursor.Follows.act`, `TypedRows.Cursor.follows_run` — every act keeps the
  invariant, and so does every run.
* `TypedRows.Cursor.run_protocol` — what a run answers and where it leaves the cursor.
-/

set_option autoImplicit false

namespace TypedRows

variable {σ β : Type}

/-! ## Sources that are observed -/

/-- What a source answers to a request for a row. -/
abbrev RowAnswer := Except Error (Option LocalValue)

namespace RowAnswer

/-- Whether there are no more rows. -/
def isEnd : RowAnswer → Bool
  | .ok none => true
  | _ => false

/-- The row that was handed out. -/
def row? : RowAnswer → Option LocalValue
  | .ok row => row
  | .error _ => none

/-- The answer of a cursor that was moved: whether there was a row. -/
def moved (answer : RowAnswer) : Except Error Bool := answer.map Option.isSome

end RowAnswer

/-- Whether a move has reached a row. -/
def hasMoved : Except Error Bool → Bool
  | .ok moved => moved
  | .error _ => false

namespace RowSource

/-- A source that was asked for some rows. -/
def after [RowSource σ] (s : σ) (requests : Nat) : σ := (fun t => (nextRow t).2)^[requests] s

/-- What a source answers to a request after some others. -/
def answer [RowSource σ] (s : σ) (requests : Nat) : RowAnswer := (nextRow (after s requests)).1

end RowSource

/-- A source with the answers that it gave, in their order, and how often it was released. -/
structure Observed (σ : Type) where
  source : σ
  given : List RowAnswer
  releases : Nat

/-- A source that has not been asked for anything. -/
def Observed.of (s : σ) : Observed σ := ⟨s, [], 0⟩

instance [RowSource σ] : RowSource (Observed σ) where
  nextRow o :=
    let (answer, source) := RowSource.nextRow o.source
    (answer, { o with source, given := o.given ++ [answer] })
  close o := { o with source := RowSource.close o.source, releases := o.releases + 1 }
  shape o := RowSource.shape o.source

namespace Cursor

/-! ## Runs -/

/-- What is done with a cursor. A read names the reader of a column and what is made of the
cell. -/
inductive Act (β : Type) where
  | next
  | close
  | read (reader : CellReader) (convert : LocalValue → Except Error β)

/-- What happens when a cursor is moved, released or read. A read has reached a cell or not,
and it has an outcome. -/
inductive Event (β : Type) where
  | moved (outcome : Except Error Bool)
  | released
  | read (cell : Except Error LocalValue) (outcome : Except Error β)

namespace Event

/-- Whether a cursor was released. -/
def isRelease : Event β → Bool
  | released => true
  | _ => false

/-- The outcome of a move. -/
def move? : Event β → Option (Except Error Bool)
  | moved outcome => some outcome
  | _ => none

/-- The cell that a read reached. -/
def cell? : Event β → Option LocalValue
  | read (.ok cell) _ => some cell
  | _ => none

end Event

/-- An act with what happens in it. -/
def act [RowSource σ] (c : Cursor σ) : Act β → Event β × Cursor σ
  | .next => (.moved c.next.1, c.next.2)
  | .close => (.released, c.close)
  | .read r convert => (.read (c.row.bind r.cell) (c.read r convert).1, (c.read r convert).2)

/-- Acts one after the other with what happens in them. -/
def run [RowSource σ] (c : Cursor σ) : List (Act β) → List (Event β) × Cursor σ
  | [] => ([], c)
  | a :: acts => ((c.act a).1 :: ((c.act a).2.run acts).1, ((c.act a).2.run acts).2)

/-- The outcomes of the moves among events. -/
def moves (events : List (Event β)) : List (Except Error Bool) := events.filterMap Event.move?

/-- The events before the cursor was released for the first time. -/
def beforeRelease (events : List (Event β)) : List (Event β) := events.takeWhile (!·.isRelease)

/-- The events from the first release on. -/
def afterRelease (events : List (Event β)) : List (Event β) := events.dropWhile (!·.isRelease)

/-- Whether a cursor was released among events. -/
def isReleased (events : List (Event β)) : Bool := events.any Event.isRelease

/-- The rows that were handed out. -/
def rows (given : List RowAnswer) : List LocalValue := given.filterMap RowAnswer.row?

/-- Where events and the answers of the source leave a cursor. -/
def phaseAfter (given : List RowAnswer) (events : List (Event β)) : CursorPhase :=
  if isReleased events then .closed
  else if given.any RowAnswer.isEnd then .exhausted
  else if (rows given).isEmpty then .unopened
  else .iterating

/-- The cells that reads reached. -/
def cells (events : List (Event β)) : List LocalValue := events.filterMap Event.cell?

/-! ## One more event -/

section Append

variable (events : List (Event β)) (e : Event β)

/-- The moves of a history with one more event. -/
@[simp] lemma moves_append : moves (events ++ [e]) = moves events ++ e.move?.toList := by
  cases h : e.move? <;> simp [moves, h]

/-- The cells of a history with one more event. -/
@[simp] lemma cells_append : cells (events ++ [e]) = cells events ++ e.cell?.toList := by
  cases h : e.cell? <;> simp [cells, h]

/-- Whether the source is released after one more event. -/
@[simp] lemma isReleased_append :
    isReleased (events ++ [e]) = (isReleased events || e.isRelease) := by
  simp [isReleased]

/-- The events before the release, with one more event. -/
lemma beforeRelease_append :
    beforeRelease (events ++ [e])
      = beforeRelease events ++ if isReleased (events ++ [e]) then [] else [e] := by
  induction events with
  | nil => cases h : e.isRelease <;> simp [beforeRelease, isReleased, h]
  | cons x events ih =>
    cases h : x.isRelease with
    | true => simp [beforeRelease, isReleased, h]
    | false => simpa [beforeRelease, isReleased, h] using ih

/-- The events after the release, with one more event. -/
lemma afterRelease_append :
    afterRelease (events ++ [e])
      = afterRelease events ++ if isReleased (events ++ [e]) then [e] else [] := by
  induction events with
  | nil => cases h : e.isRelease <;> simp [afterRelease, isReleased, h]
  | cons x events ih =>
    cases h : x.isRelease with
    | true => simp [afterRelease, isReleased, h]
    | false => simpa [afterRelease, isReleased, h] using ih

end Append

/-! ## The invariant -/

/-- The state of a cursor follows from what its source answered and from what happened. -/
structure Follows [RowSource σ] (s : σ) (events : List (Event β)) (c : Cursor (Observed σ)) :
    Prop where
  /-- The answers are those of the source to as many requests. -/
  given : c.source.given = (List.range c.source.given.length).map (RowSource.answer s)
  source : isReleased events = false →
    c.source.source = RowSource.after s c.source.given.length
  /-- Nothing is asked for after the end. -/
  ends : ∀ a ∈ c.source.given.dropLast, a.isEnd = false
  moves_before : ∃ k, moves (beforeRelease events)
      = c.source.given.map RowAnswer.moved ++ List.replicate k (.ok false)
    ∧ (k ≠ 0 → c.source.given.any RowAnswer.isEnd = true)
  moves_after : ∀ m ∈ moves (afterRelease events), m = .error (.of (.cursor .closed))
  position : c.position = (moves events).countP hasMoved
  phase : c.phase = phaseAfter c.source.given events
  current : c.current
    = if c.phase = .iterating then (rows c.source.given).getLast? else none
  releases : c.source.releases = if isReleased events then 1 else 0
  wasNull : c.wasNull = ((cells events).getLast?.map LocalValue.isNull).getD false

/-- A new cursor follows from no events. -/
lemma follows_new [RowSource σ] (s : σ) :
    Follows (β := β) s [] (Cursor.new (Observed.of s)) where
  given := rfl
  source _ := rfl
  ends := by simp [new, Observed.of]
  moves_before := ⟨0, rfl, by simp⟩
  moves_after := by simp [moves, afterRelease]
  position := rfl
  phase := rfl
  current := rfl
  releases := rfl
  wasNull := rfl

/-! ## Every act keeps the invariant -/

section Step

variable [RowSource σ] {s : σ} {events : List (Event β)} {c : Cursor (Observed σ)}

/-- The phase tells whether the cursor was released. -/
lemma Follows.phase_closed_iff (h : Follows s events c) :
    c.phase = .closed ↔ isReleased events = true := by
  rw [h.phase, phaseAfter]
  split_ifs <;> simp_all

/-- A cursor that can still move was not released, and no end was met. -/
lemma Follows.of_open (h : Follows s events c) (hp : c.phase = .unopened ∨ c.phase = .iterating) :
    isReleased events = false ∧ c.source.given.any RowAnswer.isEnd = false := by
  rw [h.phase, phaseAfter] at hp
  split_ifs at hp <;> simp_all

/-- An exhausted cursor was not released, and the end was met. -/
lemma Follows.of_exhausted (h : Follows s events c) (hp : c.phase = .exhausted) :
    isReleased events = false ∧ c.source.given.any RowAnswer.isEnd = true := by
  rw [h.phase, phaseAfter] at hp
  split_ifs at hp
  simp_all

/-- A move that does not ask the source changes nothing. -/
lemma Follows.of_unasked (h : Follows s events c) {outcome : Except Error Bool}
    (hm : hasMoved outcome = false)
    (hclosed : isReleased events = true → outcome = .error (.of (.cursor .closed)))
    (hopen : isReleased events = false →
      outcome = .ok false ∧ c.source.given.any RowAnswer.isEnd = true) :
    Follows s (events ++ [.moved outcome]) c where
  given := h.given
  source hr := h.source (by simpa [Event.isRelease] using hr)
  ends := h.ends
  moves_before := by
    obtain ⟨k, hk, hend⟩ := h.moves_before
    rw [beforeRelease_append, isReleased_append]
    cases hr : isReleased events with
    | true => exact ⟨k, by simpa using hk, hend⟩
    | false =>
      obtain ⟨rfl, hend'⟩ := hopen hr
      refine ⟨k + 1, ?_, fun _ => hend'⟩
      simp [Event.isRelease, Event.move?, hk, List.replicate_succ']
  moves_after := by
    rw [afterRelease_append, isReleased_append]
    intro m hm
    cases hr : isReleased events with
    | true =>
      rcases (by simpa [hr, Event.move?] using hm :
        m ∈ moves (afterRelease events) ∨ m = outcome) with hm | rfl
      · exact h.moves_after m hm
      · exact hclosed hr
    | false => exact h.moves_after m (by simpa [hr, Event.isRelease] using hm)
  position := by simp [h.position, Event.move?, hm]
  phase := by simpa [phaseAfter, Event.isRelease] using h.phase
  current := h.current
  releases := by simpa [Event.isRelease] using h.releases
  wasNull := by simpa [Event.cell?] using h.wasNull

/-- A move that asks the source, whatever the answer. -/
lemma Follows.of_asked (h : Follows s events c) (hr : isReleased events = false)
    (hend : c.source.given.any RowAnswer.isEnd = false) {a : RowAnswer} {t : σ}
    (hn : RowSource.nextRow c.source.source = (a, t)) {c' : Cursor (Observed σ)}
    (hsource : c'.source = ⟨t, c.source.given ++ [a], c.source.releases⟩)
    (hposition : c'.position = c.position + if hasMoved a.moved then 1 else 0)
    (hphase : c'.phase = phaseAfter (c.source.given ++ [a]) events)
    (hcurrent : c'.current
      = if c'.phase = .iterating then (rows (c.source.given ++ [a])).getLast? else none)
    (hnull : c'.wasNull = c.wasNull) :
    Follows s (events ++ [.moved a.moved]) c' where
  given := by
    have ha : a = RowSource.answer s c.source.given.length := by
      rw [RowSource.answer, ← h.source hr, hn]
    simp [hsource, List.range_succ, ← h.given, ← ha]
  source _ := by
    rw [hsource, List.length_append, List.length_singleton, RowSource.after,
      Function.iterate_succ_apply', ← RowSource.after, ← h.source hr, hn]
  ends := by simpa [hsource] using hend
  moves_before := by
    obtain ⟨k, hk, hk'⟩ := h.moves_before
    obtain rfl : k = 0 := by
      by_contra hne
      simp [hk' hne] at hend
    refine ⟨0, ?_, by simp⟩
    rw [beforeRelease_append, isReleased_append]
    simp [hr, Event.isRelease, Event.move?, hk, hsource]
  moves_after := by
    rw [afterRelease_append, isReleased_append]
    simpa [hr, Event.isRelease] using h.moves_after
  position := by
    rw [hposition, h.position, moves_append]
    cases hm : hasMoved a.moved <;> simp [Event.move?, hm]
  phase := by simpa [hsource, phaseAfter, Event.isRelease] using hphase
  current := by simpa [hsource] using hcurrent
  releases := by simpa [hsource, Event.isRelease] using h.releases
  wasNull := by simpa [hnull, Event.cell?] using h.wasNull

/-- What a cursor asks an observed source for is recorded. -/
lemma nextRow_observed {o : Observed σ} {a : RowAnswer} {t : σ}
    (hn : RowSource.nextRow o.source = (a, t)) :
    RowSource.nextRow o = (a, ⟨t, o.given ++ [a], o.releases⟩) := by
  change (let (answer, source) := RowSource.nextRow o.source
    (answer, { o with source, given := o.given ++ [answer] })) = _
  rw [hn]

/-- A cursor that can still move asks its source, and what it answers is the answer. -/
lemma Follows.of_open_next (h : Follows s events c)
    (hp : c.phase = .unopened ∨ c.phase = .iterating) :
    Follows s (events ++ [.moved c.next.1]) c.next.2 := by
  obtain ⟨hr, hend⟩ := h.of_open hp
  obtain ⟨⟨a, t⟩, hn⟩ : ∃ p, RowSource.nextRow c.source.source = p := ⟨_, rfl⟩
  have hphase := h.phase
  have hcurrent := h.current
  rw [phaseAfter, hr, hend] at hphase
  have hnext : c.next = match a with
      | .ok (some row) => (.ok true, { c with
          source := ⟨t, c.source.given ++ [a], c.source.releases⟩, phase := .iterating,
          position := c.position + 1, current := some row })
      | .ok none => (.ok false, { c with
          source := ⟨t, c.source.given ++ [a], c.source.releases⟩, phase := .exhausted,
          current := none })
      | .error e => (.error e, { c with
          source := ⟨t, c.source.given ++ [a], c.source.releases⟩ }) := by
    rcases hp with hp | hp <;> simp only [Cursor.next, hp, nextRow_observed hn] <;>
      rcases a with _ | _ | _ <;> rfl
  rcases a with e | _ | row
  · rw [hnext]
    refine h.of_asked hr hend hn rfl rfl ?_ ?_ rfl
    · simpa [phaseAfter, hr, hend, RowAnswer.isEnd, rows, RowAnswer.row?] using hphase
    · simpa [rows, RowAnswer.row?] using hcurrent
  · rw [hnext]
    refine h.of_asked hr hend hn rfl rfl ?_ ?_ rfl
    · simp [phaseAfter, hr, RowAnswer.isEnd]
    · simp
  · rw [hnext]
    refine h.of_asked hr hend hn rfl rfl ?_ ?_ rfl
    · simp [phaseAfter, hr, hend, RowAnswer.isEnd, rows, RowAnswer.row?]
    · simp [rows, RowAnswer.row?]

/-- A move keeps the invariant. -/
lemma Follows.next (h : Follows s events c) :
    Follows s (events ++ [.moved c.next.1]) c.next.2 := by
  cases hp : c.phase with
  | closed =>
    have hnext : c.next = (.error (.of (.cursor .closed)), c) := by simp [Cursor.next, hp]
    rw [hnext]
    exact h.of_unasked rfl (fun _ => rfl) fun hr => by simp [h.phase_closed_iff.1 hp] at hr
  | exhausted =>
    obtain ⟨hr, hend⟩ := h.of_exhausted hp
    have hnext : c.next = (.ok false, c) := by simp [Cursor.next, hp]
    rw [hnext]
    exact h.of_unasked rfl (fun hr' => by simp [hr] at hr') fun _ => ⟨rfl, hend⟩
  | unopened => exact h.of_open_next (.inl hp)
  | iterating => exact h.of_open_next (.inr hp)

/-- A release keeps the invariant. -/
lemma Follows.close (h : Follows s events c) : Follows s (events ++ [.released]) c.close := by
  have hreleased : isReleased (events ++ [Event.released (β := β)]) = true := by
    simp [Event.isRelease]
  have hclosed : c.close.source.given = c.source.given ∧ c.close.position = c.position
      ∧ c.close.wasNull = c.wasNull ∧ c.close.phase = .closed ∧ c.close.current = none
      ∧ c.close.source.releases = 1 := by
    rw [Cursor.close]
    split_ifs with hp
    · have hcurrent := h.current
      have hreleases := h.releases
      rw [hp] at hcurrent
      rw [h.phase_closed_iff.1 hp] at hreleases
      exact ⟨rfl, rfl, rfl, hp, hcurrent, hreleases⟩
    · have hreleases := h.releases
      rw [if_neg (mt h.phase_closed_iff.2 hp)] at hreleases
      exact ⟨rfl, rfl, rfl, rfl, rfl, congrArg (· + 1) hreleases⟩
  obtain ⟨hgiven, hposition, hnull, hphase, hcurrent, hreleases⟩ := hclosed
  refine ⟨?_, ?_, ?_, ?_, ?_, ?_, ?_, ?_, ?_, ?_⟩
  · rw [hgiven]
    exact h.given
  · rw [hreleased]
    nofun
  · rw [hgiven]
    exact h.ends
  · rw [hgiven, beforeRelease_append, hreleased]
    simpa using h.moves_before
  · rw [afterRelease_append, hreleased]
    simpa [Event.move?] using h.moves_after
  · simpa [hposition, Event.move?] using h.position
  · rw [hphase, phaseAfter, hreleased, if_pos rfl]
  · rw [hphase, hcurrent]
    rfl
  · rw [hreleases, hreleased, if_pos rfl]
  · simpa [hnull, Event.cell?] using h.wasNull

/-- A read keeps the invariant. -/
lemma Follows.read (h : Follows s events c) (r : CellReader)
    (convert : LocalValue → Except Error β) :
    Follows s (events ++ [.read (c.row.bind r.cell) (c.read r convert).1])
      (c.read r convert).2 := by
  have hread : (c.read r convert).2 = { c with
      wasNull := ((c.row.bind r.cell).toOption.map LocalValue.isNull).getD c.wasNull } := by
    rw [Cursor.read]
    cases c.row.bind r.cell <;> rfl
  rw [hread]
  refine ⟨h.given, ?_, h.ends, ?_, ?_, ?_, ?_, h.current, ?_, ?_⟩
  · simpa [Event.isRelease] using h.source
  · rw [beforeRelease_append, isReleased_append]
    cases hr : isReleased events <;>
      simpa [Event.isRelease, Event.move?] using h.moves_before
  · rw [afterRelease_append, isReleased_append]
    cases hr : isReleased events <;>
      simpa [Event.isRelease, Event.move?] using h.moves_after
  · simpa [Event.move?] using h.position
  · simpa [phaseAfter, Event.isRelease] using h.phase
  · simpa [Event.isRelease] using h.releases
  · cases hcell : c.row.bind r.cell with
    | ok v => simp [Event.cell?, Except.toOption]
    | error e => simpa [Event.cell?, Except.toOption] using h.wasNull

/-- **Every act keeps the invariant.** -/
lemma Follows.act (h : Follows s events c) (a : Act β) :
    Follows s (events ++ [(c.act a).1]) (c.act a).2 := by
  cases a with
  | next => exact h.next
  | close => exact h.close
  | read r convert => exact h.read r convert

/-- **Every run keeps the invariant.** -/
lemma Follows.run (h : Follows s events c) (acts : List (Act β)) :
    Follows s (events ++ (c.run acts).1) (c.run acts).2 := by
  induction acts generalizing events c with
  | nil => simpa [Cursor.run] using h
  | cons a acts ih => simpa [Cursor.run] using ih (h.act a)

end Step

/-! ## Observation changes nothing -/

/-- The cursor over the source that was observed. -/
def unobserved (c : Cursor (Observed σ)) : Cursor σ :=
  ⟨c.source.source, c.phase, c.position, c.current, c.wasNull⟩

section Observation

variable [RowSource σ]

/-- A cursor moves alike whether its source is observed or not. -/
lemma next_unobserved (c : Cursor (Observed σ)) :
    c.unobserved.next = (c.next.1, c.next.2.unobserved) := by
  obtain ⟨⟨a, t⟩, hn⟩ : ∃ p, RowSource.nextRow c.source.source = p := ⟨_, rfl⟩
  have hn' : RowSource.nextRow c.unobserved.source = (a, t) := hn
  have hphase : c.unobserved.phase = c.phase := rfl
  cases hp : c.phase with
  | closed | exhausted => simp [next, hphase, hp]
  | unopened | iterating =>
    simp only [next, hphase, hp, hn', nextRow_observed hn]
    rcases a with _ | _ | _ <;> rfl

/-- A cursor acts alike whether its source is observed or not. -/
lemma act_unobserved (c : Cursor (Observed σ)) (a : Act β) :
    c.unobserved.act a = ((c.act a).1, (c.act a).2.unobserved) := by
  cases a with
  | next => simp only [act, next_unobserved]
  | close =>
    have hphase : c.unobserved.phase = c.phase := rfl
    simp only [act, close, hphase]
    split <;> rfl
  | read r convert =>
    have hrow : c.unobserved.row = c.row := rfl
    simp only [act, read, hrow]
    split <;> rfl

/-- A source that is observed is used as it is otherwise. -/
lemma run_unobserved (c : Cursor (Observed σ)) (acts : List (Act β)) :
    c.unobserved.run acts = ((c.run acts).1, (c.run acts).2.unobserved) := by
  induction acts generalizing c with
  | nil => rfl
  | cons a acts ih => simp only [run, act_unobserved, ih]

end Observation

/-! ## Whole runs -/

/-- A read is made of the row that the cursor stands on. -/
lemma read_outcome (c : Cursor σ) (r : CellReader) (convert : LocalValue → Except Error β) :
    (c.read r convert).1 = c.row >>= fun row => r.cell row >>= convert := by
  rw [Cursor.read]
  cases hrow : c.row with
  | error e => rfl
  | ok row => cases hcell : r.cell row <;> simp [hcell, Except.bind, bind]

/-- A move that fails leaves a cursor where it stands. -/
lemma next_of_error [RowSource σ] {c : Cursor σ} {e : Error} (h : c.next.1 = .error e) :
    c.next.2.phase = c.phase ∧ c.next.2.position = c.position ∧ c.next.2.current = c.current
      ∧ c.next.2.wasNull = c.wasNull := by
  unfold Cursor.next at h ⊢
  split <;> first | exact ⟨rfl, rfl, rfl, rfl⟩ | skip
  all_goals
    split <;> simp_all

/-- A cursor reads from the row that came last while it iterates, and otherwise from none. -/
lemma Follows.read_outcome [RowSource σ] {s : σ} {events : List (Event β)}
    {c : Cursor (Observed σ)} (h : Follows s events c) (r : CellReader)
    (convert : LocalValue → Except Error β) :
    match c.phase with
    | .iterating => ∃ row, (rows c.source.given).getLast? = some row
      ∧ (c.read r convert).1 = r.cell row >>= convert
    | .unopened => (c.read r convert).1 = .error (.of (.cursor .notPositioned))
    | .exhausted => (c.read r convert).1 = .error (.of (.cursor .exhausted))
    | .closed => (c.read r convert).1 = .error (.of (.cursor .closed)) := by
  have hcurrent := h.current
  rw [Cursor.read_outcome, Cursor.row, hcurrent]
  cases hp : c.phase with
  | iterating =>
    have hphase := h.phase
    rw [hp, phaseAfter] at hphase
    have hne : rows c.source.given ≠ [] := by
      intro hnil
      rw [hnil] at hphase
      split_ifs at hphase
      simp_all
    obtain ⟨row, hrow⟩ := Option.isSome_iff_exists.1 (List.getLast?_isSome.2 hne)
    refine ⟨row, hrow, ?_⟩
    simp only [↓reduceIte, hrow]
    rfl
  | _ => rfl

/-- **The protocol of a cursor**, over any source and for any finite sequence of moves, releases
and reads.

* Up to the first release the moves are answered by what the source answers, one for one and in
  order. The source is not asked again once it has no more rows, and all later moves find none.
  From the first release on all moves fail.
* The position is the number of moves that found a row.
* A read reaches a row only while the cursor iterates, which is the row that came last; otherwise
  it fails as the phase says, and so does not depend on the column.
* A move that fails leaves everything but the source as it was.
* The source is released once, however often the cursor is, and dropping the cursor at the end,
  which releases it too, does not release the source a second time.
* The null flag tells whether the last cell that was reached is null, whatever became of it.

**Proof sketch.** The invariant `Follows` holds of a new cursor and every act keeps it
(`Follows.act`), so it holds after the run. -/
theorem run_protocol [RowSource σ] (s : σ) (acts : List (Act β)) :
    ∃ (events : List (Event β)) (c : Cursor (Observed σ)),
      (new (Observed.of s)).run acts = (events, c) ∧ ((new s).run acts).1 = events
      ∧ (c.source.given = (List.range c.source.given.length).map (RowSource.answer s)
        ∧ (∀ a ∈ c.source.given.dropLast, a.isEnd = false)
        ∧ (∃ k, moves (beforeRelease events)
            = c.source.given.map RowAnswer.moved ++ List.replicate k (.ok false)
          ∧ (k ≠ 0 → c.source.given.any RowAnswer.isEnd = true))
        ∧ ∀ m ∈ moves (afterRelease events), m = .error (.of (.cursor .closed)))
      ∧ c.position = (moves events).countP hasMoved
      ∧ (c.phase = phaseAfter c.source.given events
        ∧ ∀ (r : CellReader) (convert : LocalValue → Except Error β),
          match c.phase with
          | .iterating => ∃ row, (rows c.source.given).getLast? = some row
            ∧ (c.read r convert).1 = r.cell row >>= convert
          | .unopened => (c.read r convert).1 = .error (.of (.cursor .notPositioned))
          | .exhausted => (c.read r convert).1 = .error (.of (.cursor .exhausted))
          | .closed => (c.read r convert).1 = .error (.of (.cursor .closed)))
      ∧ (∀ e, c.next.1 = .error e → c.next.2.phase = c.phase ∧ c.next.2.position = c.position
        ∧ c.next.2.current = c.current ∧ c.next.2.wasNull = c.wasNull)
      ∧ (c.source.releases = (if isReleased events then 1 else 0)
        ∧ c.close.source.releases = 1)
      ∧ c.wasNull = ((cells events).getLast?.map LocalValue.isNull).getD false := by
  have h := (follows_new (β := β) s).run acts
  rw [List.nil_append] at h
  refine ⟨_, _, rfl, ?_, ⟨h.given, h.ends, h.moves_before, h.moves_after⟩, h.position,
    ⟨h.phase, ?_⟩, ?_, ⟨h.releases, ?_⟩, h.wasNull⟩
  · exact congrArg Prod.fst (run_unobserved (new (Observed.of s)) acts)
  · exact h.read_outcome
  · exact fun e => next_of_error
  · simpa [Event.isRelease] using h.close.releases

end Cursor

end TypedRows
