import SchemaAtlas.Exchange.Session
import Mathlib.Data.List.Forall2

/-!
# What computations return

A recorded computation returns a value if it does so behind some record.  What
holds of every value that can be returned does not depend on the order in which
a connection was asked, so invariants of results are proved along this relation.
Each statement here takes apart a composed computation.
-/

namespace SchemaAtlas

namespace Recorded

variable {ε ω α β : Type}

/-- A computation returns a value behind some record. -/
def Returns (body : Recorded ε ω α) (surroundings : ε) (value : α) : Prop :=
  ∃ before, (body surroundings before).1 = .ok value

theorem returns_of_eq {body : Recorded ε ω α} {surroundings : ε}
    {before made : ω} {value : α}
    (run : body surroundings before = (.ok value, made)) :
    body.Returns surroundings value :=
  ⟨before, by rw [run]⟩

/-- What an attempt returns is the outcome of a run. -/
theorem exists_run_of_returns_attempt {body : Recorded ε ω α}
    {surroundings : ε} {outcome : Except Error α}
    (returns : body.attempt.Returns surroundings outcome) :
    ∃ before, (body surroundings before).1 = outcome := by
  obtain ⟨before, run⟩ := returns
  exact ⟨before, Except.ok.inj run⟩

variable [Record ω]

theorem ofExcept_ok (value : α) :
    (ofExcept (.ok value) : Recorded ε ω α) = pure value := rfl

theorem bind_of_ok {first : Recorded ε ω α} {next : α → Recorded ε ω β}
    {surroundings : ε} {before made : ω} {value : α}
    (run : first surroundings before = (.ok value, made)) :
    (first >>= next) surroundings before =
      ((next value surroundings (Record.append before made)).1,
        Record.append made
          (next value surroundings (Record.append before made)).2) := by
  rw [bind_apply, run]

theorem bind_of_error {first : Recorded ε ω α} {next : α → Recorded ε ω β}
    {surroundings : ε} {before made : ω} {cause : Error}
    (run : first surroundings before = (.error cause, made)) :
    (first >>= next) surroundings before = (.error cause, made) := by
  rw [bind_apply, run]

/-- The record of a computation begins with that of its first part. -/
theorem exists_record_bind (first : Recorded ε ω α) (next : α → Recorded ε ω β)
    (surroundings : ε) (before : ω) :
    ∃ more, ((first >>= next) surroundings before).2 =
      Record.append (first surroundings before).2 more := by
  cases run : first surroundings before with
  | mk outcome made =>
      cases outcome with
      | error cause =>
          rw [bind_of_error run]
          exact ⟨Record.none, (Record.append_none made).symm⟩
      | ok value =>
          rw [bind_of_ok run]
          exact ⟨_, rfl⟩

/-- What holds of the records of both parts of a computation, and of records
that are joined, holds of its record. -/
theorem record_bind (holds : ω → Prop)
    (joins : ∀ {made more}, holds made → holds more →
      holds (Record.append made more))
    {first : Recorded ε ω α} {next : α → Recorded ε ω β} {surroundings : ε}
    {before : ω} (early : holds (first surroundings before).2)
    (late : ∀ value before, holds (next value surroundings before).2) :
    holds ((first >>= next) surroundings before).2 := by
  cases run : first surroundings before with
  | mk outcome made =>
      rw [run] at early
      cases outcome with
      | error cause =>
          rw [bind_of_error run]
          exact early
      | ok value =>
          rw [bind_of_ok run]
          exact joins early (late value _)

/-- What is made of the value of a computation leaves no record of its own. -/
theorem map_apply (first : Recorded ε ω α) (make : α → β) (surroundings : ε)
    (before : ω) :
    (first >>= fun value => pure (make value)) surroundings before =
      ((first surroundings before).1.map make,
        (first surroundings before).2) := by
  cases run : first surroundings before with
  | mk outcome made =>
      cases outcome with
      | error cause => exact bind_of_error run
      | ok value =>
          rw [bind_of_ok run, pure_apply, Record.append_none]
          rfl

/-- Two computations do the same if the first part of the one finds what is made
of what that of the other finds, and the rests do the same behind them. -/
theorem bind_congr_map {γ : Type} {first : Recorded ε ω α}
    {other : Recorded ε ω γ} {next : α → Recorded ε ω β}
    {otherNext : γ → Recorded ε ω β} {make : α → γ} {here there : ε}
    {before behind : ω}
    (mapped : other there behind =
      ((first here before).1.map make, (first here before).2))
    (sameNext : ∀ value made,
      next value here (Record.append before made) =
        otherNext (make value) there (Record.append behind made)) :
    (first >>= next) here before = (other >>= otherNext) there behind := by
  rw [bind_apply, bind_apply, mapped]
  cases run : first here before with
  | mk outcome made =>
      cases outcome with
      | error cause => rfl
      | ok value =>
          simp only [sameNext]
          rfl

theorem bind_congr {first other : Recorded ε ω α}
    {next otherNext : α → Recorded ε ω β} {here there : ε} {before behind : ω}
    (same : first here before = other there behind)
    (sameNext : ∀ value made,
      next value here (Record.append before made) =
        otherNext value there (Record.append behind made)) :
    (first >>= next) here before = (other >>= otherNext) there behind := by
  apply bind_congr_map _ sameNext
  rw [same]
  obtain ⟨outcome, made⟩ := other there behind
  cases outcome <;> rfl

theorem mapM_congr {step other : α → Recorded ε ω β} {here there : ε}
    (same : ∀ item before, step item here before = other item there before)
    (items : List α) (before : ω) :
    items.mapM step here before = items.mapM other there before := by
  induction items generalizing before with
  | nil => rfl
  | cons item rest ih =>
      rw [List.mapM_cons, List.mapM_cons]
      apply bind_congr (same item before)
      intro value made
      exact bind_congr (ih _) fun values more => rfl

theorem mapM_cons_of_ok {step : α → Recorded ε ω β} {item : α} {rest : List α}
    {surroundings : ε} {before made : ω} {value : β}
    (run : step item surroundings before = (.ok value, made)) :
    (item :: rest).mapM step surroundings before =
      ((rest.mapM step surroundings (Record.append before made)).1.map
          (value :: ·),
        Record.append made
          (rest.mapM step surroundings (Record.append before made)).2) := by
  rw [List.mapM_cons, bind_of_ok run, map_apply]

theorem mapM_cons_of_error {step : α → Recorded ε ω β} {item : α}
    {rest : List α} {surroundings : ε} {before made : ω} {cause : Error}
    (run : step item surroundings before = (.error cause, made)) :
    (item :: rest).mapM step surroundings before = (.error cause, made) := by
  rw [List.mapM_cons, bind_of_error run]

theorem eq_of_returns_pure {surroundings : ε} {value returned : α}
    (returns : (pure value : Recorded ε ω α).Returns surroundings returned) :
    returned = value := by
  obtain ⟨before, run⟩ := returns
  rw [pure_apply] at run
  injection run with same
  exact same.symm

theorem returns_of_bind {first : Recorded ε ω α} {next : α → Recorded ε ω β}
    {surroundings : ε} {returned : β}
    (returns : (first >>= next).Returns surroundings returned) :
    ∃ value, first.Returns surroundings value ∧
      (next value).Returns surroundings returned := by
  obtain ⟨before, run⟩ := returns
  rw [bind_apply] at run
  cases firstRun : first surroundings before with
  | mk outcome made =>
      rw [firstRun] at run
      cases outcome with
      | error cause => cases run
      | ok value => exact ⟨value, returns_of_eq firstRun, ⟨_, run⟩⟩

theorem eq_of_returns_ofExcept {outcome : Except Error α} {surroundings : ε}
    {returned : α}
    (returns :
      (ofExcept outcome : Recorded ε ω α).Returns surroundings returned) :
    outcome = .ok returned :=
  returns.elim fun _ run => run

/-- A computation over a list returns one value for each item, in order. -/
theorem forall₂_of_returns_mapM {step : α → Recorded ε ω β} {items : List α}
    {surroundings : ε} {returned : List β}
    (returns : (items.mapM step).Returns surroundings returned) :
    List.Forall₂ (fun item value => (step item).Returns surroundings value)
      items returned := by
  induction items generalizing returned with
  | nil =>
      rw [List.mapM_nil] at returns
      rw [eq_of_returns_pure returns]
      exact .nil
  | cons item rest ih =>
      rw [List.mapM_cons] at returns
      obtain ⟨value, first, others⟩ := returns_of_bind returns
      obtain ⟨values, later, last⟩ := returns_of_bind others
      rw [eq_of_returns_pure last]
      exact .cons first (ih later)

end Recorded

namespace Session

open Recorded

theorem returns_of_ask {inquiry : Inquiry α} {surroundings : Surroundings}
    {returned : α} (returns : (ask inquiry).Returns surroundings returned) :
    inquiry.Returns surroundings.connection returned := by
  obtain ⟨before, run⟩ := returns
  exact ⟨before.requests, run⟩

end Session

/-- An outcome of which something can be viewed is a value. -/
theorem exists_ok_of_view {α β : Type} {outcome : Except Error α} {view : α → β}
    {seen : β} (viewed : outcome.toOption.map view = some seen) :
    ∃ value, outcome = .ok value ∧ view value = seen := by
  cases outcome with
  | error cause => cases viewed
  | ok value => exact ⟨value, rfl, Option.some.inj viewed⟩

theorem exists_mem_of_forall₂ {α β : Type} {related : α → β → Prop}
    {left : List α} {right : List β} (each : List.Forall₂ related left right)
    {item : β} (membership : item ∈ right) :
    ∃ source ∈ left, related source item := by
  induction each with
  | nil => cases membership
  | cons first _ ih =>
      rcases List.mem_cons.mp membership with rfl | later
      · exact ⟨_, List.mem_cons_self, first⟩
      · obtain ⟨source, inRest, relation⟩ := ih later
        exact ⟨source, List.mem_cons_of_mem _ inRest, relation⟩

theorem exists_of_rel_some {α β : Type} {related : α → β → Prop} {value : α}
    {other : Option β} (relation : Option.Rel related (some value) other) :
    ∃ found, other = some found ∧ related value found := by
  cases relation with
  | some areRelated => exact ⟨_, rfl, areRelated⟩

theorem isSome_eq_of_rel {α β : Type} {related : α → β → Prop}
    {value : Option α} {other : Option β}
    (relation : Option.Rel related value other) :
    value.isSome = other.isSome := by
  cases relation <;> rfl

/-- In two lists that are related item by item, the first items that are asked
for are related, if related items are asked for together. -/
theorem rel_find?_of_forall₂ {α β : Type} {related : α → β → Prop}
    {wanted : α → Bool} {alsoWanted : β → Bool} {left : List α} {right : List β}
    (each : List.Forall₂ related left right)
    (together : ∀ item other, related item other →
      wanted item = alsoWanted other) :
    Option.Rel related (left.find? wanted) (right.find? alsoWanted) := by
  induction each with
  | nil => exact .none
  | @cons item other rest others areRelated _ ih =>
      rw [List.find?_cons, List.find?_cons, together item other areRelated]
      cases alsoWanted other with
      | false => exact ih
      | true => exact .some areRelated

theorem map_eq_of_forall₂ {α β : Type} {owner : β → α} {left : List α}
    {right : List β}
    (each : List.Forall₂ (fun item own => owner own = item) left right) :
    right.map owner = left := by
  induction each with
  | nil => rfl
  | cons same _ ih => rw [List.map_cons, same, ih]

/-- All outcomes of a list are good, or one of them is the error. -/
theorem mapM_eq_error_or_ok {ε α β : Type} (step : α → Except ε β)
    (items : List α) :
    (∃ item ∈ items, ∃ cause, step item = .error cause ∧
      items.mapM step = .error cause) ∨
      ∃ values, items.mapM step = .ok values ∧
        ∀ item ∈ items, ∃ value, step item = .ok value := by
  induction items with
  | nil => exact .inr ⟨[], rfl, List.forall_mem_nil _⟩
  | cons item rest ih =>
      rw [List.mapM_cons]
      cases first : step item with
      | error cause =>
          exact .inl ⟨item, List.mem_cons_self, cause, first, rfl⟩
      | ok value =>
          rcases ih with
            ⟨other, later, cause, failed, run⟩ | ⟨values, run, others⟩
          · refine .inl ⟨other, List.mem_cons_of_mem _ later, cause, failed, ?_⟩
            rw [run]
            rfl
          · refine .inr ⟨value :: values, ?_, ?_⟩
            · rw [run]
              rfl
            · exact List.forall_mem_cons.mpr ⟨⟨value, first⟩, others⟩

theorem exists_mapM_eq_ok_iff {ε α β : Type} {step : α → Except ε β}
    {items : List α} :
    (∃ values, items.mapM step = .ok values) ↔
      ∀ item ∈ items, ∃ value, step item = .ok value := by
  rcases mapM_eq_error_or_ok step items with
    ⟨item, membership, cause, failed, run⟩ | ⟨values, run, each⟩
  · constructor
    · rintro ⟨values, good⟩
      rw [run] at good
      cases good
    · intro each
      obtain ⟨value, good⟩ := each item membership
      rw [failed] at good
      cases good
  · exact iff_of_true ⟨values, run⟩ each

theorem forall₂_of_mapM_eq_ok {ε α β : Type} {step : α → Except ε β}
    {items : List α} {values : List β} (run : items.mapM step = .ok values) :
    List.Forall₂ (fun item value => step item = .ok value) items values := by
  induction items generalizing values with
  | nil =>
      rw [List.mapM_nil] at run
      cases run
      exact .nil
  | cons item rest ih =>
      rw [List.mapM_cons] at run
      cases first : step item with
      | error cause => rw [first] at run; cases run
      | ok value =>
          cases later : rest.mapM step with
          | error cause => rw [first, later] at run; cases run
          | ok others =>
              rw [first, later] at run
              cases run
              exact .cons first (ih later)

theorem mapM_eq_ok_of_forall₂ {ε α β : Type} {step : α → Except ε β}
    {items : List α} {values : List β}
    (each : List.Forall₂ (fun item value => step item = .ok value)
      items values) :
    items.mapM step = .ok values := by
  induction each with
  | nil => rfl
  | cons first _ ih =>
      rw [List.mapM_cons, first, ih]
      rfl

/-- A list of outcomes that is an error has a first item whose outcome is one,
and that is the error. -/
theorem exists_first_of_mapM_eq_error {ε α β : Type} {step : α → Except ε β}
    {items : List α} {cause : ε} (run : items.mapM step = .error cause) :
    ∃ front item rest, items = front ++ item :: rest ∧
      (∀ earlier ∈ front, ∃ value, step earlier = .ok value) ∧
      step item = .error cause := by
  induction items with
  | nil => cases run
  | cons item rest ih =>
      rw [List.mapM_cons] at run
      cases first : step item with
      | error other =>
          rw [first] at run
          cases run
          exact ⟨[], item, rest, rfl, List.forall_mem_nil _, first⟩
      | ok value =>
          cases later : rest.mapM step with
          | ok others => rw [first, later] at run; cases run
          | error other =>
              rw [first, later] at run
              cases run
              obtain ⟨front, last, behind, rfl, good, failed⟩ := ih later
              exact ⟨item :: front, last, behind, rfl,
                List.forall_mem_cons.mpr ⟨⟨value, first⟩, good⟩, failed⟩

end SchemaAtlas
