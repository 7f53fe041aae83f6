import SchemaAtlas.Proofs.Exchange.Asking
import SchemaAtlas.Proofs.Exchange.Sessions

/-!
# Comparisons of runs

Two runs are compared step by step, in surroundings of their own.  A comparison
says how far their records and their errors have to agree.  Two computations are
related under it if, behind records that agree, they return values that are
related or both fail, and leave records that agree.

What the two runs compute with may differ all the way, as long as the relation
says how.  Runs that were given up in a search are compared with nothing.
-/

namespace SchemaAtlas

/-- How far two runs have to agree. -/
structure Comparison (ω : Type) [Record ω] where
  records : ω → ω → Prop
  errors : Error → Error → Prop
  sameRecord : ∀ record, records record record
  sameError : ∀ cause, errors cause cause
  append : ∀ {made other more further}, records made other →
    records more further →
      records (Record.append made more) (Record.append other further)

namespace Comparison

open Recorded

/-- Two outcomes are values that are related, or errors that agree. -/
inductive Outcomes {ω α β : Type} [Record ω] (comparison : Comparison ω)
    (related : α → β → Prop) : Except Error α → Except Error β → Prop where
  | values {left : α} {right : β} (areRelated : related left right) :
      Outcomes comparison related (.ok left) (.ok right)
  | errors {left right : Error} (agree : comparison.errors left right) :
      Outcomes comparison related (.error left) (.error right)

/-- Two runs have outcomes that are related and records that agree. -/
structure Runs {ω α β : Type} [Record ω] (comparison : Comparison ω)
    (related : α → β → Prop) (left : Except Error α × ω)
    (right : Except Error β × ω) : Prop where
  outcome : comparison.Outcomes related left.1 right.1
  record : comparison.records left.2 right.2

/-- Behind records that agree two computations have runs that are related. -/
def Relates {ε ω α β : Type} [Record ω] (comparison : Comparison ω)
    (here there : ε) (related : α → β → Prop) (left : Recorded ε ω α)
    (right : Recorded ε ω β) : Prop :=
  ∀ before other, comparison.records before other →
    SearchEnds (left here before).1 → SearchEnds (right there other).1 →
      comparison.Runs related (left here before) (right there other)

section Steps

variable {ε ω α β γ δ : Type} [Record ω] {comparison : Comparison ω}
  {here there : ε} {related : α → β → Prop} {result : γ → δ → Prop}

theorem Outcomes.same (outcome : Except Error α) :
    comparison.Outcomes Eq outcome outcome := by
  cases outcome with
  | error cause => exact .errors (comparison.sameError cause)
  | ok value => exact .values rfl

theorem Outcomes.mono {wider : α → β → Prop} {left : Except Error α}
    {right : Except Error β} (outcomes : comparison.Outcomes related left right)
    (weaken : ∀ value other, related value other → wider value other) :
    comparison.Outcomes wider left right := by
  cases outcomes with
  | values areRelated => exact .values (weaken _ _ areRelated)
  | errors agree => exact .errors agree

theorem Outcomes.exists_ok_iff {left : Except Error α} {right : Except Error β}
    (outcomes : comparison.Outcomes related left right) :
    (∃ value, left = .ok value) ↔ ∃ other, right = .ok other := by
  cases outcomes with
  | values => exact iff_of_true ⟨_, rfl⟩ ⟨_, rfl⟩
  | errors => exact iff_of_false nofun nofun

theorem Outcomes.related_of_ok {value : α} {other : β}
    (outcomes : comparison.Outcomes related (.ok value) (.ok other)) :
    related value other := by
  cases outcomes with
  | values areRelated => exact areRelated

namespace Relates

theorem ofExcept {left : Except Error α} {right : Except Error β}
    (outcomes : comparison.Outcomes related left right) :
    comparison.Relates here there related (Recorded.ofExcept left)
      (Recorded.ofExcept right) := by
  intro _ _ _ _ _
  exact ⟨outcomes, comparison.sameRecord _⟩

theorem pure {value : α} {other : β} (areRelated : related value other) :
    comparison.Relates here there related (Pure.pure value)
      (Pure.pure other) := by
  intro _ _ _ _ _
  exact ⟨.values areRelated, comparison.sameRecord _⟩

theorem mono {wider : α → β → Prop} {left : Recorded ε ω α}
    {right : Recorded ε ω β}
    (relates : comparison.Relates here there related left right)
    (weaken : ∀ value other, related value other → wider value other) :
    comparison.Relates here there wider left right := by
  intro before other agree leftEnds rightEnds
  have runs := relates before other agree leftEnds rightEnds
  exact ⟨runs.outcome.mono weaken, runs.record⟩

theorem bind {left : Recorded ε ω α} {right : Recorded ε ω β}
    {leftNext : α → Recorded ε ω γ} {rightNext : β → Recorded ε ω δ}
    (first : comparison.Relates here there related left right)
    (next : ∀ value other, related value other →
      comparison.Relates here there result (leftNext value)
        (rightNext other)) :
    comparison.Relates here there result (left >>= leftNext)
      (right >>= rightNext) := by
  intro before other agree leftEnds rightEnds
  have firstRuns := first before other agree leftEnds.of_bind rightEnds.of_bind
  cases leftRun : left here before with
  | mk leftOutcome leftMade =>
      cases rightRun : right there other with
      | mk rightOutcome rightMade =>
          rw [leftRun, rightRun] at firstRuns
          obtain ⟨outcomes, records⟩ := firstRuns
          cases outcomes with
          | errors agree =>
              rw [bind_of_error leftRun, bind_of_error rightRun]
              exact ⟨.errors agree, records⟩
          | values areRelated =>
              rw [bind_of_ok leftRun] at leftEnds ⊢
              rw [bind_of_ok rightRun] at rightEnds ⊢
              have runs := next _ _ areRelated _ _
                (comparison.append agree records) leftEnds rightEnds
              exact ⟨runs.outcome, comparison.append records runs.record⟩

theorem bind_eq {left right : Recorded ε ω α} {leftNext : α → Recorded ε ω γ}
    {rightNext : α → Recorded ε ω δ}
    (first : comparison.Relates here there Eq left right)
    (next : ∀ value,
      comparison.Relates here there result (leftNext value)
        (rightNext value)) :
    comparison.Relates here there result (left >>= leftNext)
      (right >>= rightNext) :=
  first.bind fun value _ same => same ▸ next value

theorem mapM {leftStep : α → Recorded ε ω γ} {rightStep : β → Recorded ε ω δ}
    {items : List α} {others : List β}
    (each : List.Forall₂ related items others)
    (step : ∀ item other, related item other →
      comparison.Relates here there result (leftStep item)
        (rightStep other)) :
    comparison.Relates here there (List.Forall₂ result) (items.mapM leftStep)
      (others.mapM rightStep) := by
  induction each with
  | nil => exact .pure .nil
  | cons first _ ih =>
      rw [List.mapM_cons, List.mapM_cons]
      apply (step _ _ first).bind
      intro value other areRelated
      apply ih.bind
      intro values more each
      exact .pure (.cons areRelated each)

theorem mapM_eq {left right : α → Recorded ε ω γ}
    (step : ∀ item, comparison.Relates here there Eq (left item) (right item))
    (items : List α) :
    comparison.Relates here there Eq (items.mapM left) (items.mapM right) := by
  have sameSteps : ∀ item other, item = other →
      comparison.Relates here there Eq (left item) (right other) := by
    rintro item _ rfl
    exact step item
  apply (mapM (List.forall₂_refl items) sameSteps).mono
  intro values others each
  rwa [List.forall₂_eq_eq_eq] at each

end Relates

end Steps

/-- The comparison of runs that do the same and fail with the same error. -/
def exact : Comparison (List Request) where
  records := Eq
  errors := Eq
  sameRecord _ := rfl
  sameError _ := rfl
  append := by
    rintro made _ more _ rfl rfl
    rfl

/-- Two connections give the same answers about some topics behind records that
agree. -/
def SameAnswers (comparison : Comparison (List Request)) (topics : Topic → Prop)
    (here there : Connection) : Prop :=
  ∀ before other, comparison.records before other →
    ∀ query parameters, topics query.topic →
      here.query before query parameters = there.query other query parameters

/-- What an inquiry finds depends on the answers about its topics only. -/
theorem SameAnswers.relates {comparison : Comparison (List Request)}
    {topics : Topic → Prop} {here there : Connection} {engine : Engine}
    {α : Type} {inquiry : Inquiry α}
    (same : comparison.SameAnswers topics here there)
    (reads : inquiry.Reads engine topics) :
    comparison.Relates here there Eq inquiry inquiry := by
  induction reads with
  | known outcome => exact .ofExcept (.same outcome)
  | asking parameters about _ =>
      intro before other agree _ _
      rw [Inquiry.asking, Inquiry.asking, same before other agree _ _ about]
      exact ⟨.same _, comparison.sameRecord _⟩
  | bind _ _ ihFirst ihNext => exact ihFirst.bind_eq ihNext

/-- The comparison of sessions whose requests and errors are compared, and which
reach the same phase.  What they tell and how often they draw does not
matter. -/
def session (comparison : Comparison (List Request)) : Comparison Journal where
  records left right :=
    comparison.records left.requests right.requests ∧
      left.reached = right.reached
  errors := comparison.errors
  sameRecord journal := ⟨comparison.sameRecord journal.requests, rfl⟩
  sameError := comparison.sameError
  append := by
    rintro made other more further ⟨requests, reached⟩
      ⟨moreRequests, moreReached⟩
    refine ⟨comparison.append requests moreRequests, ?_⟩
    show more.reached.or made.reached = further.reached.or other.reached
    rw [reached, moreReached]

section Sessions

variable {comparison : Comparison (List Request)} {here there : Surroundings}
  {α β : Type} {related : α → β → Prop}

theorem Outcomes.session {left : Except Error α} {right : Except Error β}
    (outcomes : comparison.Outcomes related left right) :
    comparison.session.Outcomes related left right := by
  cases outcomes with
  | values areRelated => exact .values areRelated
  | errors agree => exact .errors agree

namespace Relates

theorem ask {left : Inquiry α} {right : Inquiry β}
    (relates : comparison.Relates here.connection there.connection related left
      right) :
    comparison.session.Relates here there related (Session.ask left)
      (Session.ask right) := by
  intro before other agree leftEnds rightEnds
  have runs := relates before.requests other.requests agree.1 leftEnds rightEnds
  exact ⟨runs.outcome.session, runs.record, rfl⟩

theorem tell (event : Event) :
    comparison.session.Relates here there Eq (Session.tell event)
      (Session.tell event) := by
  intro _ _ _ _ _
  exact ⟨.same _, comparison.session.sameRecord _⟩

theorem reach (phase : Phase) (schema : String) :
    comparison.session.Relates here there Eq (Session.reach phase schema)
      (Session.reach phase schema) := by
  intro _ _ _ _ _
  exact ⟨.same _, comparison.session.sameRecord _⟩

/-- Two searches that end are related, whatever they find. -/
theorem searches {left : Session α} {right : Session β}
    (leftSearches : left.Searches) (rightSearches : right.Searches) :
    comparison.session.Relates here there
      (fun value other => left.Returns here value ∧ right.Returns there other)
      left right := by
  intro before other _ leftEnds rightEnds
  obtain ⟨⟨value, found, run, otherRun, returns⟩, same⟩ :=
    leftSearches.both_find rightSearches leftEnds rightEnds
  constructor
  case outcome =>
    rw [run, otherRun]
    exact .values returns
  case record =>
    refine ⟨?_, same.reached⟩
    rw [same.requests]
    exact comparison.sameRecord _

end Relates

end Sessions

end Comparison

end SchemaAtlas
