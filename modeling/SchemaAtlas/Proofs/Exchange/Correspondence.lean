import SchemaAtlas.Proofs.Exchange.Sessions

/-!
# Sessions that correspond

Two runs of sessions are compared step by step, in surroundings of their own.
Most steps agree: behind the same requests they lead to the same outcome and do
the same.  A search for an unused key draws numbers, so two searches need not
find the same key, nor draw equally often.  Runs of sessions correspond where
their outcomes are related and their journals differ in the number of draws
only.

A search that runs out of numbers is a run that has not ended, and is compared
with nothing.
-/

namespace SchemaAtlas

/-- Two outcomes are values that are related or the same error. -/
inductive SameOutcome {α β : Type} (related : α → β → Prop) :
    Except Error α → Except Error β → Prop where
  | values {left : α} {right : β} (areRelated : related left right) :
      SameOutcome related (.ok left) (.ok right)
  | errors (cause : Error) : SameOutcome related (.error cause) (.error cause)

namespace Session

open Recorded

variable {here there : Surroundings} {α β γ δ : Type}

/-- Behind the same requests two sessions have the same outcome and the same
journal. -/
def Agree (here there : Surroundings) (left right : Session α) : Prop :=
  ∀ before other, before.requests = other.requests →
    left here before = right there other

namespace Agree

theorem ask {left right : Inquiry α}
    (same : ∀ history,
      left here.connection history = right there.connection history) :
    Agree here there (Session.ask left) (Session.ask right) := by
  intro before other sameRequests
  rw [ask_apply, ask_apply, sameRequests, same]

theorem pure (value : α) :
    Agree here there (Pure.pure value) (Pure.pure value) :=
  fun _ _ _ => rfl

theorem tell (event : Event) :
    Agree here there (Session.tell event) (Session.tell event) :=
  fun _ _ _ => rfl

theorem reach (phase : Phase) (schema : String) :
    Agree here there (Session.reach phase schema)
      (Session.reach phase schema) :=
  fun _ _ _ => rfl

theorem attempt {left right : Session α} (agree : Agree here there left right) :
    Agree here there left.attempt right.attempt := by
  intro before other sameRequests
  rw [Recorded.attempt, Recorded.attempt, agree before other sameRequests]

theorem bind {left right : Session α} {leftNext rightNext : α → Session β}
    (first : Agree here there left right)
    (next : ∀ value, Agree here there (leftNext value) (rightNext value)) :
    Agree here there (left >>= leftNext) (right >>= rightNext) := by
  intro before other sameRequests
  apply Recorded.bind_congr (first before other sameRequests)
  intro value made
  apply next value
  rw [Journal.requests_append, Journal.requests_append, sameRequests]

end Agree

/-- Behind journals that differ in the number of draws only, two sessions have
outcomes that correspond, and do the same but for the draws. -/
def Corresponds (here there : Surroundings) (related : α → β → Prop)
    (left : Session α) (right : Session β) : Prop :=
  ∀ before other, before.SameButDraws other →
    SearchEnds (left here before).1 → SearchEnds (right there other).1 →
      SameOutcome related (left here before).1 (right there other).1 ∧
        (left here before).2.SameButDraws (right there other).2

theorem Agree.corresponds {left right : Session α}
    (agree : Agree here there left right) :
    Corresponds here there Eq left right := by
  intro before other same _ _
  rw [agree before other same.requests]
  refine ⟨?_, .refl _⟩
  cases (right there other).1 with
  | error cause => exact .errors cause
  | ok value => exact .values rfl

namespace Corresponds

theorem bind {related : α → β → Prop} {result : γ → δ → Prop}
    {left : Session α} {right : Session β} {leftNext : α → Session γ}
    {rightNext : β → Session δ}
    (first : Corresponds here there related left right)
    (next : ∀ value other, related value other →
      Corresponds here there result (leftNext value) (rightNext other)) :
    Corresponds here there result (left >>= leftNext)
    (right >>= rightNext) := by
  intro before other same leftEnds rightEnds
  have firstSame := first before other same leftEnds.of_bind rightEnds.of_bind
  cases leftRun : left here before with
  | mk leftOutcome leftMade =>
      cases rightRun : right there other with
      | mk rightOutcome rightMade =>
          rw [leftRun, rightRun] at firstSame
          obtain ⟨sameOutcome, sameMade⟩ := firstSame
          cases sameOutcome with
          | errors cause =>
              rw [bind_of_error leftRun, bind_of_error rightRun]
              exact ⟨.errors cause, sameMade⟩
          | values areRelated =>
              -- Neither rest is given up, as neither whole is.
              rw [bind_of_ok leftRun] at leftEnds ⊢
              rw [bind_of_ok rightRun] at rightEnds ⊢
              obtain ⟨sameLast, sameMore⟩ := next _ _ areRelated _ _
                (same.append sameMade) leftEnds rightEnds
              exact ⟨sameLast, sameMade.append sameMore⟩

theorem pure {related : α → β → Prop} {value : α} {other : β}
    (areRelated : related value other) :
    Corresponds here there related (Pure.pure value) (Pure.pure other) := by
  intro before journal _ _ _
  exact ⟨.values areRelated, .refl _⟩

end Corresponds

/-- Sessions go on alike after a step on which they agree. -/
theorem Agree.bind_corresponds {related : β → γ → Prop}
    {left right : Session α} {leftNext : α → Session β}
    {rightNext : α → Session γ} (first : Agree here there left right)
    (next : ∀ value,
      Corresponds here there related (leftNext value) (rightNext value)) :
    Corresponds here there related (left >>= leftNext) (right >>= rightNext) :=
  first.corresponds.bind fun value _ same => same ▸ next value

/-- Two searches that end correspond, whatever they find. -/
theorem Searches.corresponds {left : Session α} {right : Session β}
    (leftSearches : Searches left) (rightSearches : Searches right) :
    Corresponds here there
      (fun value other => left.Returns here value ∧ right.Returns there other)
      left right := by
  intro before other _ leftEnds rightEnds
  obtain ⟨⟨value, found, run, otherRun, returns⟩, same⟩ :=
    leftSearches.both_find rightSearches leftEnds rightEnds
  rw [run, otherRun]
  exact ⟨.values returns, same⟩

end Session

end SchemaAtlas
